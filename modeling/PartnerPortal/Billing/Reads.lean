import PartnerPortal.Billing.Suspension
import PartnerPortal.Dashboard.Rollups

/-!
# Scoped statement reads

`/api/billing/*`: the page of statements, one statement with its lines, and the derived service status,
each in the scope of the credential that asks.
-/

namespace PartnerPortal

open MachineInt FixedWidth Prepared Dashboard

/-! ## The store -/

/-- A condition without parameters, on the columns of a statement that is still owed. -/
def unpaidConds : List (Cond Statement) :=
  [.test fun s => some s.paidAt.isNone, .test fun s => some (s.billingMode = .invoice)]

/-- `ORDER BY due_at, consumer_id, id` -/
def byDeadline (a b : Statement) : Bool :=
  ((compare a.dueAt b.dueAt).then
    ((compare a.consumerId b.consumerId).then (compare a.id b.id))).isLE

/-- `ORDER BY billing_date DESC, id DESC` -/
def byDateDesc (a b : Statement) : Bool :=
  ((compare b.billingDate a.billingDate).then (compare b.id a.id)).isLE

def scopedStatement (scope : Scope) : Cond Statement := scope.cond Statement.consumerId

def getStatementById (store : Store) (id : Int) (scope : Scope) :
    Except SqliteError (Option Statement) := do
  let rows ← selectRows
    [.column (fun s => .integer s.id) Value.equals .next, scopedStatement scope]
    (.integer id :: scope.params) store.statements
  return rows.head?

/-- A page of statements. -/
def listStatements (store : Store) (scope : Scope) (limit offset : Int) (onlyUnpaid : Bool) :
    Except SqliteError (List Statement) :=
  let conds := scopedStatement scope :: if onlyUnpaid then unpaidConds else []
  let order := if onlyUnpaid then byDeadline else byDateDesc
  match query conds 2 (scope.params ++ [.integer limit, .integer offset]) store.statements with
  | some (rows, [.integer bound, .integer skipped]) =>
    .ok (paged bound skipped (rows.insertionSort fun a b => order a b))
  | _ => .error .other

/-- How many invoices are unpaid, and what they total. -/
def outstandingTotals (store : Store) (scope : Scope) : Except SqliteError (Nat × Int) := do
  let rows ← selectRows (scopedStatement scope :: unpaidConds.reverse) scope.params store.statements
  let total ← (Sql.sum (rows.map fun s => some s.totalAmountMicroUsd.value)).mapError
    fun _ => SqliteError.integerOverflow
  return (rows.length, total.getD 0)

def countStatements (store : Store) (scope : Scope) : Except SqliteError Nat := do
  let rows ← selectRows [scopedStatement scope] scope.params store.statements
  return rows.length

/-- `statement_lines l JOIN daily_statements s ON s.id = l.statement_id` -/
def joinedLines (store : Store) : List (StatementLine × Statement) :=
  store.lines.flatMap fun line =>
    (store.statements.filter fun s => s.id = line.statementId).map fun s => (line, s)

/-- `ORDER BY model`, the three prices and the id. -/
def lineOrder (a b : StatementLine × Statement) : Bool :=
  ((compare a.1.model b.1.model).then
    ((compare a.1.prices.input.value b.1.prices.input.value).then
      ((compare a.1.prices.cachedInput.value b.1.prices.cachedInput.value).then
        ((compare a.1.prices.output.value b.1.prices.output.value).then
          (compare a.1.id b.1.id))))).isLE

/-- The `WHERE` of a read of lines.  The id is bound last, by its number. -/
def lineConds (scope : Scope) (params : List Value) : List (Cond (StatementLine × Statement)) :=
  [scope.cond fun row => row.2.consumerId,
    .column (fun row => .integer row.1.statementId) Value.equals (.numbered params.length)]

/-- A statement's lines, where it is in scope. -/
def statementLines (store : Store) (statementId : Int) (scope : Scope) :
    Except SqliteError (List StatementLine) := do
  let params := scope.params ++ [.integer statementId]
  let rows ← selectRows (lineConds scope params) params (joinedLines store)
  return (rows.insertionSort fun a b => lineOrder a b).map Prod.fst

/-! ## The views -/

/-- An amount with its unit, the sign outside it. -/
def signedAmountText (micros : Int) : String :=
  if micros < 0 then "-$" ++ formatMicros (-micros) else "$" ++ formatMicros micros

/-- `to_decimal_string`: the zeros at the end are dropped, and the point with them. -/
def toDecimalString (price : PricePerMillion) : String :=
  let trimmed := (formatMicros price.value).toList.rdropWhile (· = '0')
  String.ofList (if trimmed.getLast? = some '.' then trimmed.dropLast else trimmed)

structure StatementLineView where
  model : String
  inputPerMillion : String
  cachedInputPerMillion : String
  outputPerMillion : String
  requestCount : Nat
  inputTokens : Int
  cachedInputTokens : Int
  uncachedInputTokens : Int
  outputTokens : Int
  inputCostMicroUsd : Int
  cachedInputCostMicroUsd : Int
  outputCostMicroUsd : Int
  totalCostMicroUsd : Int
  totalCost : String
deriving DecidableEq

def StatementLineView.fromRow (line : StatementLine) : StatementLineView where
  model := line.model
  inputPerMillion := toDecimalString line.prices.input
  cachedInputPerMillion := toDecimalString line.prices.cachedInput
  outputPerMillion := toDecimalString line.prices.output
  requestCount := line.requestCount
  inputTokens := line.inputTokens
  cachedInputTokens := line.cachedInputTokens
  uncachedInputTokens := line.uncachedInputTokens
  outputTokens := line.outputTokens
  inputCostMicroUsd := line.inputCost.value
  cachedInputCostMicroUsd := line.cachedInputCost.value
  outputCostMicroUsd := line.outputCost.value
  totalCostMicroUsd := line.totalCost.value
  totalCost := signedAmountText line.totalCost.value

namespace Statement

def isOutstanding (s : Statement) : Bool := s.billingMode.owesPayment && s.paidAt.isNone

def hasIncompleteUsage (s : Statement) : Bool := 0 < s.incompleteUsageCount

def canSuspend (s : Statement) : Bool :=
  s.isOutstanding && !s.hasIncompleteUsage && 0 < s.totalAmountMicroUsd.value && s.dueAt.isSome

end Statement

structure StatementView where
  id : Nat
  consumerId : String
  billingDate : String
  billingMode : String
  currency : String
  periodStart : String
  periodEnd : String
  billingCutoffAt : String
  totalAmountMicroUsd : Int
  totalAmount : String
  incompleteUsageCount : Nat
  hasIncompleteUsage : Bool
  dueAt : Option String
  paidAt : Option String
  outstanding : Bool
  canSuspend : Bool
  paidBy : Option String
  paymentReference : Option String
  paymentNote : Option String
  emailSentAt : Option String
  emailAttempts : Option Nat
  emailLastError : Option String
  emailNextRetryAt : Option String
  createdAt : String
  updatedAt : String
  lines : Option (List StatementLineView)
deriving DecidableEq

namespace StatementView

/-- The fields both views carry. -/
def common (s : Statement) : StatementView where
  id := s.id
  consumerId := s.consumerId
  billingDate := s.billingDate
  billingMode := s.billingMode.asStr
  currency := s.currency
  periodStart := s.periodStart
  periodEnd := s.periodEnd
  billingCutoffAt := s.billingCutoffAt
  totalAmountMicroUsd := s.totalAmountMicroUsd.value
  totalAmount := signedAmountText s.totalAmountMicroUsd.value
  incompleteUsageCount := s.incompleteUsageCount
  hasIncompleteUsage := s.hasIncompleteUsage
  dueAt := s.dueAt
  paidAt := s.paidAt
  outstanding := s.isOutstanding
  canSuspend := s.canSuspend
  paidBy := none
  paymentReference := none
  paymentNote := none
  emailSentAt := none
  emailAttempts := none
  emailLastError := none
  emailNextRetryAt := none
  createdAt := s.createdAt
  updatedAt := s.updatedAt
  lines := none

def forManager (s : Statement) (lines : Option (List StatementLineView)) : StatementView :=
  { common s with
    paidBy := s.paidBy
    paymentReference := s.paymentReference
    paymentNote := s.paymentNote
    emailSentAt := s.emailSentAt
    emailAttempts := some s.emailAttempts
    emailLastError := s.emailLastError
    emailNextRetryAt := s.emailNextRetryAt
    lines := lines }

def forPartner (s : Statement) (lines : Option (List StatementLineView)) : StatementView :=
  { common s with lines := lines }

def forConsumer (consumer : ConsumerContext) (s : Statement)
    (lines : Option (List StatementLineView)) : StatementView :=
  if consumer.isManager then forManager s lines else forPartner s lines

end StatementView

/-! ## The handlers -/

structure StatementsQuery where
  consumers : String := ""
  unpaid : Bool := false
  limit : Int := 50
  offset : Int := 0
deriving Repr, DecidableEq

def StatementsQuery.page (query : StatementsQuery) : Int × Int :=
  (max 0 (min query.limit 200), max query.offset 0)

structure StatementList where
  statements : List StatementView
  total : Nat
  limit : Int
  offset : Int
  unpaidCount : Nat
  unpaidTotalMicroUsd : Int
  unpaidTotal : String
deriving DecidableEq

section Handlers

variable (consumer : ConsumerContext) (query : StatementsQuery) (store : Store)

/-- `GET /api/billing/statements` -/
def listStatementViews : Dashboard.Answer StatementList := do
  let scope := resolveScope consumer query.consumers
  let (limit, offset) := query.page
  let rows ← orDatabase (listStatements store scope limit offset query.unpaid)
  let total ← orDatabase (countStatements store scope)
  let (unpaidCount, unpaidTotal) ← orDatabase (outstandingTotals store scope)
  return {
    statements := rows.map fun s => StatementView.forConsumer consumer s none
    total := total
    limit := limit
    offset := offset
    unpaidCount := unpaidCount
    unpaidTotalMicroUsd := unpaidTotal
    unpaidTotal := signedAmountText unpaidTotal }

/-- `GET /api/billing/statements/{id}` -/
def getStatementView (id : Int) : Dashboard.Answer StatementView := do
  let scope := resolveScope consumer query.consumers
  let found ← orDatabase (getStatementById store id scope)
  match found with
  | none => .error (.error (.notFound "no statement with that id"))
  | some s => do
    let lines ← orDatabase (statementLines store id scope)
    return StatementView.forConsumer consumer s (some (lines.map StatementLineView.fromRow))

/-- `GET /api/billing/status` -/
def getStatus (iso : Iso8601) (now : Instant) : Dashboard.Answer (List ServiceStatusView) :=
  Dashboard.orPanic (statusesInScope iso store (resolveScope consumer query.consumers) now)

end Handlers

end PartnerPortal

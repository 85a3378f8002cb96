import Mathlib.Data.List.Sort
import PartnerPortal.Billing.Partner
import PartnerPortal.Lib.Sql
import PartnerPortal.Ledger.Types

/-!
# The billing tables

Partners, statements and their lines, the aggregate a day's usage is read through, and the write of
a statement.  The write is one transaction: an error in it leaves every table as it was.

Results:
- `lastStatementDateFor_eq_some` — the newest date of a partner that has statements;
- `writeStatement_cases` — everything a statement write can do to the tables.
-/

namespace PartnerPortal

open MachineInt

/-! ## Rows -/

/-- A row of `daily_statements`. -/
structure Statement where
  id : Nat
  consumerId : String
  billingDate : String
  billingMode : BillingMode
  currency : String
  periodStart : String
  periodEnd : String
  billingCutoffAt : String
  totalAmountMicroUsd : MicroUsd
  incompleteUsageCount : Nat
  dueAt : Option String
  paidAt : Option String
  paidBy : Option String
  paymentReference : Option String
  paymentNote : Option String
  emailSentAt : Option String
  emailAttempts : Nat
  emailLastError : Option String
  emailNextRetryAt : Option String
  emailClaimInstance : Option String
  emailClaimedUntil : Option String
  createdAt : String
  updatedAt : String
deriving DecidableEq

/-- A row of `statement_lines`. -/
structure StatementLine where
  id : Nat
  statementId : Nat
  model : String
  prices : PricingSnapshot
  requestCount : Nat
  inputTokens : Int
  cachedInputTokens : Int
  uncachedInputTokens : Int
  outputTokens : Int
  inputCost : MicroUsd
  cachedInputCost : MicroUsd
  outputCost : MicroUsd
  totalCost : MicroUsd
deriving DecidableEq

/-- The tables billing reads and writes, with the counters of the autoincrement keys. -/
structure Store where
  partners : List Partner
  usage : List UsageRow
  statements : List Statement
  lines : List StatementLine
  nextStatementId : Nat
  nextLineId : Nat

inductive BillingError where
  | database (error : SqliteError)
  | partnerNotFound (consumerId : String)
  | partnerExists (consumerId : String)
  | statementNotPayable (id : Int) (billingMode : String)
  | invalid (message : Text.Formatted)
deriving Repr, DecidableEq

/-! ## Drafts -/

/-- One line of a statement before it is stored. -/
structure StatementLineDraft where
  model : String
  prices : PricingSnapshot
  requestCount : Nat
  inputTokens : Int
  cachedInputTokens : Int
  outputTokens : Int
  cost : LineCost
deriving DecidableEq

/-- A statement before it is stored. -/
structure StatementDraft where
  consumerId : String
  billingDate : BillingDay
  billingMode : BillingMode
  periodStart : String
  periodEnd : String
  billingCutoffAt : String
  dueAt : Option OffsetDateTime
  incompleteUsageCount : Nat
  lines : List StatementLineDraft
deriving DecidableEq

/-- One line added to a statement's total. -/
def addLine (total : MicroUsd) (line : StatementLineDraft) : Except BillingError MicroUsd :=
  match total.checkedAdd line.cost.total with
  | some total => .ok total
  | none => .error (.invalid "a statement total overflowed micro-dollars")

/-- `StatementDraft::total`, the sum of the lines. -/
def StatementDraft.total (draft : StatementDraft) : Except BillingError MicroUsd :=
  draft.lines.foldlM addLine Count.zero

/-- Why a statement is refused before it reaches SQL. -/
inductive StatementRejected where
  | inconsistentLine (model : String)
  | missingDueDate
  | unexpectedDueDate
deriving Repr, DecidableEq

def StatementRejected.message : StatementRejected → Text.Formatted
  | .inconsistentLine model =>
    ["line for ", .quoted model, " bills more cached tokens than the prompt had"]
  | .missingDueDate => "an invoice statement must carry a due date"
  | .unexpectedDueDate => "a reconciliation statement must not carry a due date"

/-- The two checks of one line. -/
def validateLine (line : StatementLineDraft) : Except StatementRejected Unit :=
  if asI64 line.cost.uncachedInputTokens ≠ line.inputTokens - line.cachedInputTokens then
    .error (.inconsistentLine line.model)
  else if line.inputTokens < line.cachedInputTokens then
    .error (.inconsistentLine line.model)
  else .ok ()

/-- Refuse a statement that contradicts itself. -/
def validateDraft (draft : StatementDraft) : Except StatementRejected Unit :=
  match draft.billingMode.owesPayment, draft.dueAt with
  | true, none => .error .missingDueDate
  | false, some _ => .error .unexpectedDueDate
  | _, _ => draft.lines.forM validateLine

/-! ## The aggregate -/

/-- What the rows of one group share. -/
structure GroupKey where
  model : String
  input : Option Count
  cachedInput : Option Count
  output : Option Count
deriving DecidableEq

namespace GroupKey

def ofRow (row : UsageRow) : GroupKey where
  model := row.model
  input := row.inputPriceSnapshot
  cachedInput := row.cachedInputPriceSnapshot
  output := row.outputPriceSnapshot

/-- Where a column sorts: `NULL` before every value. -/
def rank (value : Option Count) : Int := (value.map Count.value).getD (-1)

/-- The `ORDER BY` of the aggregate. -/
def before (a b : GroupKey) : Bool :=
  a.model < b.model || (a.model = b.model &&
    (rank a.input < rank b.input || (rank a.input = rank b.input &&
      (rank a.cachedInput < rank b.cachedInput || (rank a.cachedInput = rank b.cachedInput &&
        rank a.output < rank b.output)))))

end GroupKey

/-- One group of a day's usage. -/
structure UsageGroup where
  model : String
  prices : Option PricingSnapshot
  requestCount : Nat
  inputTokens : Option Int
  cachedTokens : Option Int
  outputTokens : Option Int
  incompleteCount : Nat
deriving DecidableEq

/-- The integer a column holds. -/
def column (value : Option Count) : Option Int := value.map Count.value

/-- The computed column `billable`. -/
def billableFlag (row : UsageRow) : Sql.Truth :=
  let ge := Sql.compare fun a b : Int => decide (b ≤ a)
  let le := Sql.compare fun a b : Int => decide (a ≤ b)
  let eq := Sql.compare fun a b : Int => decide (a = b)
  let condition :=
    Sql.and (Sql.isNotNull row.inputTokens) <|
    Sql.and (ge (column row.inputTokens) (some 0)) <|
    Sql.and (Sql.isNotNull row.outputTokens) <|
    Sql.and (ge (column row.outputTokens) (some 0)) <|
    Sql.and (Sql.isNotNull row.inputPriceSnapshot) <|
    Sql.and (Sql.isNotNull row.cachedInputPriceSnapshot) <|
    Sql.and (Sql.isNotNull row.outputPriceSnapshot) <|
    Sql.and (Sql.or (eq (column row.cachedInputPriceSnapshot) (column row.inputPriceSnapshot))
      (Sql.isNotNull row.cachedTokens)) <|
    Sql.and (ge (Sql.coalesce (column row.cachedTokens) 0) (some 0))
      (le (Sql.coalesce (column row.cachedTokens) 0) (column row.inputTokens))
  Sql.coalesce condition false

/-- The rows the aggregate reads. -/
def inPeriod (usage : List UsageRow) (consumerId periodStart periodEnd : String) :
    List UsageRow :=
  usage.filter fun row =>
    row.consumerId = consumerId && !(row.createdAt < periodStart) && row.createdAt < periodEnd

/-- `SUM(column) FILTER (WHERE billable)` -/
def sumBillable (rows : List UsageRow) (value : UsageRow → Option Count) :
    Except SqliteError (Option Int) :=
  match Sql.sum ((rows.filter fun row => Sql.selects (billableFlag row)).map
    fun row => column (value row)) with
  | .ok total => .ok total
  | .error _ => .error .integerOverflow

/-- The aggregate of one group. -/
def usageGroup (key : GroupKey) (rows : List UsageRow) : Except SqliteError UsageGroup := do
  let inputTokens ← sumBillable rows UsageRow.inputTokens
  let cachedTokens ← sumBillable rows UsageRow.cachedTokens
  let outputTokens ← sumBillable rows UsageRow.outputTokens
  return {
    model := key.model
    prices := (PricingSnapshot.fromColumns key.input key.cachedInput key.output).toOption
    requestCount := rows.countP fun row => Sql.selects (billableFlag row)
    inputTokens := inputTokens
    cachedTokens := cachedTokens
    outputTokens := outputTokens
    incompleteCount := rows.countP fun row => Sql.selects (Sql.not (billableFlag row)) }

/-- The group keys of a set of rows, in the order they are returned. -/
def groupKeys (rows : List UsageRow) : List GroupKey :=
  (rows.map GroupKey.ofRow).dedup.insertionSort fun a b => !GroupKey.before b a

/-- A day's usage, grouped by model and price. -/
def usageGroups (usage : List UsageRow) (consumerId periodStart periodEnd : String) :
    Except SqliteError (List UsageGroup) :=
  let rows := inPeriod usage consumerId periodStart periodEnd
  (groupKeys rows).mapM fun key => usageGroup key (Sql.group GroupKey.ofRow rows key)

/-! ## Reads -/

/-- One row of `MAX` over texts. -/
def maxStep : Option String → String → Option String
  | none, date => some date
  | some best, date => if best < date then some date else some best

/-- `MAX(billing_date)` of a partner's statements, compared as text. -/
def lastStatementDateFor (store : Store) (consumerId : String) : Option String :=
  ((store.statements.filter fun s => s.consumerId = consumerId).map Statement.billingDate).foldl
    maxStep none

def getStatement (store : Store) (consumerId billingDate : String) : Option Statement :=
  store.statements.find? fun s => s.consumerId = consumerId && s.billingDate = billingDate

/-! ## Writing a statement -/

inductive StatementOutcome where
  | created (statement : Statement)
  | existed (statement : Statement)
deriving DecidableEq

def StatementOutcome.statement : StatementOutcome → Statement
  | .created s => s
  | .existed s => s

def StatementOutcome.wasCreated : StatementOutcome → Bool
  | .created _ => true
  | .existed _ => false

/-- The currency every statement is issued in. -/
def currency : String := "USD"

/-- The database failing under a statement write: when the transaction opens, inside it, or in the
read after it. -/
structure WriteFault where
  begins : Option SqliteError := none
  inside : Option SqliteError := none
  readBack : Option SqliteError := none

/-- The row a draft is stored as. -/
def statementOf (id : Nat) (draft : StatementDraft) (total : MicroUsd) (dueAt : Option String)
    (now : String) : Statement where
  id := id
  consumerId := draft.consumerId
  billingDate := draft.billingDate.toText
  billingMode := draft.billingMode
  currency := currency
  periodStart := draft.periodStart
  periodEnd := draft.periodEnd
  billingCutoffAt := draft.billingCutoffAt
  totalAmountMicroUsd := total
  incompleteUsageCount := draft.incompleteUsageCount
  dueAt := dueAt
  paidAt := none
  paidBy := none
  paymentReference := none
  paymentNote := none
  emailSentAt := none
  emailAttempts := 0
  emailLastError := none
  emailNextRetryAt := none
  emailClaimInstance := none
  emailClaimedUntil := none
  createdAt := now
  updatedAt := now

/-- The row a line is stored as. -/
def lineOf (id statementId : Nat) (line : StatementLineDraft) : StatementLine where
  id := id
  statementId := statementId
  model := line.model
  prices := line.prices
  requestCount := line.requestCount
  inputTokens := line.inputTokens
  cachedInputTokens := line.cachedInputTokens
  uncachedInputTokens := asI64 line.cost.uncachedInputTokens
  outputTokens := line.outputTokens
  inputCost := line.cost.inputCost
  cachedInputCost := line.cost.cachedInputCost
  outputCost := line.cost.outputCost
  totalCost := line.cost.total

/-- The `CHECK`s of `statement_lines` that its column types do not already hold. -/
def lineChecks (line : StatementLine) : Bool :=
  0 ≤ line.inputTokens && 0 ≤ line.cachedInputTokens && 0 ≤ line.outputTokens &&
    line.uncachedInputTokens = line.inputTokens - line.cachedInputTokens &&
    0 ≤ line.uncachedInputTokens

/-- Insert one line of a statement. -/
def insertLine (statementId : Nat) (store : Store) (line : StatementLineDraft) :
    Except SqliteError Store :=
  let row := lineOf store.nextLineId statementId line
  if !lineChecks row then .error .constraintCheck
  else if store.lines.any fun l =>
      l.statementId = statementId && l.model = line.model && l.prices = line.prices then
    .error .constraintUnique
  else .ok { store with lines := store.lines ++ [row], nextLineId := store.nextLineId + 1 }

/-- Insert a statement and its lines unless the day is already stated.  The second component says
whether a row was inserted. -/
def insertStatement (store : Store) (draft : StatementDraft) (total : MicroUsd)
    (dueAt : Option String) (now : String) : Except SqliteError (Store × Bool) :=
  if !draft.billingMode.owesPayment && dueAt.isSome then .error .constraintCheck
  else if (getStatement store draft.consumerId draft.billingDate.toText).isSome then
    .ok (store, false)
  else if !(store.partners.any fun p => p.consumerId = draft.consumerId) then
    .error .constraintForeignKey
  else do
    let row := statementOf store.nextStatementId draft total dueAt now
    let inserted : Store :=
      { store with
        statements := store.statements ++ [row]
        nextStatementId := store.nextStatementId + 1 }
    let written ← draft.lines.foldlM (insertLine row.id) inserted
    return (written, true)

/-- The due date as it is bound. -/
def formatDue : Option OffsetDateTime → Except Panic (Option String)
  | none => .ok none
  | some due => do
    let text ← formatTs due
    return some text

/-- The transaction of a statement write.  An error in it rolls every table back. -/
def statementTransaction (fault : WriteFault) (now : Instant) (draft : StatementDraft)
    (total : MicroUsd) (store : Store) : Except Panic (Except SqliteError (Store × Bool)) :=
  match fault.begins with
  | some e => .ok (.error e)
  | none => do
    let dueAt ← formatDue draft.dueAt
    match fault.inside with
    | some e => return .error e
    | none => return insertStatement store draft total dueAt (formatInstant now)

/-- Write a statement and its lines, or return the one that is already there.  A panic happens
before the commit, so it leaves the tables as they were. -/
def writeStatement (fault : WriteFault) (now : Instant) (draft : StatementDraft) (store : Store) :
    Except Panic (Store × Except BillingError StatementOutcome) := do
  match validateDraft draft with
  | .error rejected => return (store, .error (.invalid rejected.message))
  | .ok () =>
    match draft.total with
    | .error e => return (store, .error e)
    | .ok total =>
      match ← statementTransaction fault now draft total store with
      | .error e => return (store, .error (.database e))
      | .ok (written, inserted) =>
        match fault.readBack, getStatement written draft.consumerId draft.billingDate.toText with
        | some e, _ => return (written, .error (.database e))
        | none, none => return (written, .error (.partnerNotFound draft.consumerId))
        | none, some statement =>
          return (written,
            .ok (if inserted then .created statement else .existed statement))

/-! ## What the reads return -/

theorem foldl_maxStep_some {dates : List String} {best : String} :
    ∃ newest, dates.foldl maxStep (some best) = some newest ∧
      (newest = best ∨ newest ∈ dates) ∧ ¬ newest < best ∧ ∀ date ∈ dates, ¬ newest < date := by
  induction dates generalizing best with
  | nil => exact ⟨best, rfl, Or.inl rfl, String.lt_irrefl best, by simp⟩
  | cons date dates ih =>
    rw [List.foldl_cons, maxStep]
    split
    · rename_i hlt
      obtain ⟨newest, hfold, hmem, hnot, hall⟩ := @ih date
      refine ⟨newest, hfold, Or.inr ?_, ?_, ?_⟩
      · rcases hmem with rfl | hmem
        · exact List.mem_cons_self
        · exact List.mem_cons_of_mem date hmem
      · exact fun h => hnot (String.lt_trans h hlt)
      · rintro date' hdate'
        rcases List.mem_cons.1 hdate' with rfl | hdate'
        · exact hnot
        · exact hall date' hdate'
    · rename_i hnlt
      obtain ⟨newest, hfold, hmem, hnot, hall⟩ := @ih best
      refine ⟨newest, hfold, hmem.imp_right (List.mem_cons_of_mem date), hnot, ?_⟩
      rintro date' hdate'
      rcases List.mem_cons.1 hdate' with rfl | hdate'
      · exact fun h => hnlt (FixedWidth.text_lt_of_not_lt_of_lt hnot h)
      · exact hall date' hdate'

/-- No statement, no newest date. -/
theorem lastStatementDateFor_eq_none_iff {store : Store} {consumerId : String} :
    lastStatementDateFor store consumerId = none ↔
      ∀ s ∈ store.statements, s.consumerId ≠ consumerId := by
  unfold lastStatementDateFor
  cases hdates : (store.statements.filter fun s => s.consumerId = consumerId).map
      Statement.billingDate with
  | nil =>
    simp only [List.foldl_nil, true_iff]
    intro s hs hconsumer
    have hmem : s.billingDate ∈ (store.statements.filter fun s =>
        s.consumerId = consumerId).map Statement.billingDate :=
      List.mem_map_of_mem (List.mem_filter.2 ⟨hs, by simpa using hconsumer⟩)
    rw [hdates] at hmem
    cases hmem
  | cons date dates =>
    obtain ⟨newest, hfold, -⟩ := @foldl_maxStep_some dates date
    rw [List.foldl_cons, maxStep, hfold]
    simp only [reduceCtorEq, false_iff, not_forall]
    have hmem : date ∈ (store.statements.filter fun s =>
        s.consumerId = consumerId).map Statement.billingDate := by
      rw [hdates]
      exact List.mem_cons_self
    obtain ⟨s, hs, -⟩ := List.mem_map.1 hmem
    obtain ⟨hs, hconsumer⟩ := List.mem_filter.1 hs
    exact ⟨s, hs, fun h => h (by simpa using hconsumer)⟩

/-- The newest date is a statement's, and no statement of the partner has a later text. -/
theorem lastStatementDateFor_eq_some {store : Store} {consumerId newest : String}
    (h : lastStatementDateFor store consumerId = some newest) :
    (∃ s ∈ store.statements, s.consumerId = consumerId ∧ s.billingDate = newest) ∧
      ∀ s ∈ store.statements, s.consumerId = consumerId → ¬ newest < s.billingDate := by
  unfold lastStatementDateFor at h
  have hdates : ∀ date, date ∈ (store.statements.filter fun s =>
      s.consumerId = consumerId).map Statement.billingDate ↔
      ∃ s ∈ store.statements, s.consumerId = consumerId ∧ s.billingDate = date := by
    intro date
    simp only [List.mem_map, List.mem_filter, decide_eq_true_eq, and_assoc]
  cases hlist : (store.statements.filter fun s => s.consumerId = consumerId).map
      Statement.billingDate with
  | nil =>
    rw [hlist] at h
    cases h
  | cons date dates =>
    rw [hlist, List.foldl_cons, maxStep] at h
    obtain ⟨newest', hfold, hmem, hnot, hall⟩ := @foldl_maxStep_some dates date
    rw [hfold] at h
    cases h
    rw [hlist] at hdates
    refine ⟨(hdates newest).1 ?_, fun s hs hconsumer => ?_⟩
    · rcases hmem with rfl | hmem
      · exact List.mem_cons_self
      · exact List.mem_cons_of_mem date hmem
    · have hdate := (hdates s.billingDate).2 ⟨s, hs, hconsumer, rfl⟩
      rcases List.mem_cons.1 hdate with heq | hdate
      · rw [heq]
        exact hnot
      · exact hall _ hdate

theorem getStatement_isSome_iff {store : Store} {consumerId billingDate : String} :
    (getStatement store consumerId billingDate).isSome ↔
      ∃ s ∈ store.statements, s.consumerId = consumerId ∧ s.billingDate = billingDate := by
  simp [getStatement]

/-! ## What a statement write does -/

/-- The tables after one statement row was added. -/
structure Added (store written : Store) (row : Statement) : Prop where
  statements : written.statements = store.statements ++ [row]
  partners : written.partners = store.partners
  usage : written.usage = store.usage
  lines : ∃ new, written.lines = store.lines ++ new ∧ ∀ line ∈ new, line.statementId = row.id
  nextStatementId : written.nextStatementId = store.nextStatementId + 1

theorem insertLine_ok {statementId : Nat} {store written : Store} {line : StatementLineDraft}
    (h : insertLine statementId store line = .ok written) :
    written = { store with
      lines := store.lines ++ [lineOf store.nextLineId statementId line]
      nextLineId := store.nextLineId + 1 } := by
  simp only [insertLine] at h
  split at h
  · cases h
  · split at h
    · cases h
    · exact (Except.ok.inj h).symm

theorem insertLines_ok {statementId : Nat} {lines : List StatementLineDraft}
    {store written : Store} (h : lines.foldlM (insertLine statementId) store = .ok written) :
    written.statements = store.statements ∧ written.partners = store.partners ∧
      written.usage = store.usage ∧ written.nextStatementId = store.nextStatementId ∧
      ∃ new, written.lines = store.lines ++ new ∧ ∀ line ∈ new, line.statementId = statementId := by
  induction lines generalizing store with
  | nil =>
    cases h
    exact ⟨rfl, rfl, rfl, rfl, [], by simp, by simp⟩
  | cons line lines ih =>
    rw [List.foldlM_cons] at h
    obtain ⟨next, hnext, h⟩ := Result.bind_ok_iff.1 h
    have hline := insertLine_ok hnext
    obtain ⟨hstatements, hpartners, husage, hid, new, hnew, hids⟩ := ih h
    subst hline
    refine ⟨hstatements, hpartners, husage, hid,
      lineOf store.nextLineId statementId line :: new, ?_, ?_⟩
    · rw [hnew]
      simp
    · intro line' hline'
      rcases List.mem_cons.1 hline' with rfl | hline'
      · rfl
      · exact hids line' hline'

/-- An insert that succeeds adds the statement of a day that had none, or changes nothing. -/
theorem insertStatement_ok {store written : Store} {draft : StatementDraft} {total : MicroUsd}
    {dueAt : Option String} {now : String} {inserted : Bool}
    (h : insertStatement store draft total dueAt now = .ok (written, inserted)) :
    (inserted = false ∧ written = store ∧
      (getStatement store draft.consumerId draft.billingDate.toText).isSome) ∨
    (inserted = true ∧ ¬ (getStatement store draft.consumerId draft.billingDate.toText).isSome ∧
      Added store written (statementOf store.nextStatementId draft total dueAt now)) := by
  unfold insertStatement at h
  split at h
  · cases h
  · split at h
    · rename_i hstated
      cases h
      exact Or.inl ⟨rfl, rfl, hstated⟩
    · rename_i hopen
      split at h
      · cases h
      · obtain ⟨next, hnext, h⟩ := Result.bind_ok_iff.1 h
        cases h
        obtain ⟨hstatements, hpartners, husage, hid, hlines⟩ := insertLines_ok hnext
        exact Or.inr ⟨rfl, hopen,
          { statements := hstatements
            partners := hpartners
            usage := husage
            lines := hlines
            nextStatementId := hid }⟩

/-- A write that added the draft's row: the draft was accepted, the database did not fail, and the
day had no statement. -/
structure Wrote (fault : WriteFault) (now : Instant) (draft : StatementDraft)
    (store written : Store) : Prop where
  valid : validateDraft draft = .ok ()
  begins : fault.begins = none
  inside : fault.inside = none
  wasOpen : ¬ (getStatement store draft.consumerId draft.billingDate.toText).isSome
  added : ∃ total dueAt, draft.total = .ok total ∧ formatDue draft.dueAt = .ok dueAt ∧
    Added store written (statementOf store.nextStatementId draft total dueAt (formatInstant now))

/-- Everything a statement write can do to the tables: nothing, or an insert that added a row. -/
theorem writeStatement_inserts {fault : WriteFault} {now : Instant} {draft : StatementDraft}
    {store written : Store} {result : Except BillingError StatementOutcome}
    (h : writeStatement fault now draft store = .ok (written, result)) :
    written = store ∨ (validateDraft draft = .ok () ∧ fault.begins = none ∧ fault.inside = none ∧
      ∃ total dueAt, draft.total = .ok total ∧ formatDue draft.dueAt = .ok dueAt ∧
        insertStatement store draft total dueAt (formatInstant now) = .ok (written, true)) := by
  unfold writeStatement at h
  split at h
  · cases h
    exact Or.inl rfl
  · rename_i hvalid
    split at h
    · cases h
      exact Or.inl rfl
    · rename_i total htotal
      obtain ⟨outcome, houtcome, h⟩ := Result.bind_ok_iff.1 h
      cases outcome with
      | error e =>
        cases h
        exact Or.inl rfl
      | ok result' =>
        obtain ⟨written', inserted⟩ := result'
        have hwritten : written' = written := by
          simp only at h
          split at h <;> cases h <;> rfl
        subst hwritten
        unfold statementTransaction at houtcome
        split at houtcome
        · cases houtcome
        · rename_i hbegins
          obtain ⟨dueAt, hdueAt, houtcome⟩ := Result.bind_ok_iff.1 houtcome
          split at houtcome
          · cases houtcome
          · rename_i hinside
            have hinsert := Except.ok.inj houtcome
            rcases insertStatement_ok hinsert with ⟨-, heq, -⟩ | ⟨rfl, -, -⟩
            · exact Or.inl heq
            · exact Or.inr ⟨hvalid, hbegins, hinside, total, dueAt, htotal, hdueAt, hinsert⟩

/-- Everything a statement write can do to the tables: nothing, or add the draft's row. -/
theorem writeStatement_cases {fault : WriteFault} {now : Instant} {draft : StatementDraft}
    {store written : Store} {result : Except BillingError StatementOutcome}
    (h : writeStatement fault now draft store = .ok (written, result)) :
    written = store ∨ Wrote fault now draft store written := by
  rcases writeStatement_inserts h with
    heq | ⟨hvalid, hbegins, hinside, total, dueAt, htotal, hdueAt, hinsert⟩
  · exact Or.inl heq
  · rcases insertStatement_ok hinsert with ⟨hfalse, -, -⟩ | ⟨-, hopen, hadded⟩
    · cases hfalse
    · exact Or.inr ⟨hvalid, hbegins, hinside, hopen, total, dueAt, htotal, hdueAt, hadded⟩

/-- Unless the read after it failed, a write that is refused changed nothing. -/
theorem writeStatement_error {fault : WriteFault} {now : Instant} {draft : StatementDraft}
    {store written : Store} {e : BillingError} (hread : fault.readBack = none)
    (h : writeStatement fault now draft store = .ok (written, .error e)) : written = store := by
  rcases writeStatement_inserts h with
    heq | ⟨hvalid, hbegins, hinside, total, dueAt, htotal, hdueAt, hinsert⟩
  · exact heq
  · -- the row that was added is read back
    have htransaction : statementTransaction fault now draft total store =
        .ok (.ok (written, true)) := by
      simp only [statementTransaction, hbegins, hdueAt, hinside, Result.ok_bind, hinsert]
      rfl
    have hsome : (getStatement written draft.consumerId draft.billingDate.toText).isSome := by
      rcases insertStatement_ok hinsert with ⟨hfalse, -, -⟩ | ⟨-, -, hadded⟩
      · cases hfalse
      · rw [getStatement_isSome_iff, hadded.statements]
        exact ⟨_, List.mem_append_right _ List.mem_cons_self, rfl, rfl⟩
    obtain ⟨s, hs⟩ := Option.isSome_iff_exists.1 hsome
    simp only [writeStatement, hvalid, htotal, htransaction, Result.ok_bind, hread, hs] at h
    cases h

end PartnerPortal

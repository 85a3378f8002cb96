import PartnerPortal.Dashboard.Cursor
import PartnerPortal.Lib.Keyset

/-!
# The request list

`GET /api/dashboard/requests`: one page of the ledger's rows in a scope, a window and two filters, newest
first, and the signed cursor of the next page.

Results:
- `requestsPage_eq` — a page of the statement with its bound values is a keyset page of the rows that
  match;
- `query_eq` — the statement selects the rows that match and lie below the cursor.
-/

namespace PartnerPortal.Dashboard

open MachineInt Prepared Keyset

/-- One row, as it is answered. -/
structure RequestItem where
  requestId : String
  createdAt : String
  consumerId : String
  model : String
  endpoint : Endpoint
  streaming : Bool
  httpStatus : Option UInt16
  requestStatus : RequestStatus
  usageStatus : UsageStatus
  inputTokens : Option Nat
  outputTokens : Option Nat
  cachedTokens : Option Nat
  durationMs : Nat
  ttftMs : Option Nat
  errorMessage : Option String
  errorBody : Option String
deriving DecidableEq

structure RequestsResponse where
  data : List RequestItem
  nextCursor : Option String
deriving DecidableEq

/-- `map_row`, without the key. -/
def requestItem (row : UsageRow) : RequestItem where
  requestId := row.requestId
  createdAt := row.createdAt
  consumerId := row.consumerId
  model := row.model
  endpoint := row.endpoint
  streaming := row.streaming
  httpStatus := row.httpStatus
  requestStatus := row.requestStatus
  usageStatus := row.usageStatus
  inputTokens := row.inputTokens.map fun c => asU64 c.value
  outputTokens := row.outputTokens.map fun c => asU64 c.value
  cachedTokens := row.cachedTokens.map fun c => asU64 c.value
  durationMs := asU64 row.durationMs
  ttftMs := row.ttftMs.map fun c => asU64 c.value
  errorMessage := row.errorMessage
  errorBody := row.errorBody

/-! ## The statement -/

/-- What a page asks for. -/
structure RequestFilter where
  scope : Scope
  window : TimeWindow
  model : Option String
  status : Option String

namespace RequestFilter

variable (filter : RequestFilter)

/-- The `WHERE` of the request list, the cursor's condition last where there is one. -/
def conds (cursor : Option (String × Int)) : List (Cond UsageRow) :=
  [filter.scope.cond UsageRow.consumerId,
    .column (fun row => .text row.createdAt) Value.atLeast .next,
    .column (fun row => .text row.createdAt) Value.below .next,
    .ifGiven (fun row => .text row.model) .next .next,
    .ifGiven (fun row => .text row.requestStatus.asStr) .next .next] ++
  match cursor with
  | some _ => [.rowBelow (fun row => .text row.createdAt) (fun row => .integer row.id) .next .next]
  | none => []

/-- The values in the order they are pushed, the page's limit last. -/
def params (cursor : Option (String × Int)) (limit : Nat) : List Value :=
  filter.scope.params ++
    [.text filter.window.startTs, .text filter.window.endTs, .ofOption filter.model,
      .ofOption filter.model, .ofOption filter.status, .ofOption filter.status] ++
    (match cursor with
    | some (createdAt, id) => [.text createdAt, .integer id]
    | none => []) ++
    [.integer (limit + 1)]

/-- What the conditions but the cursor's select. -/
def wants (row : UsageRow) : Bool :=
  filter.scope.contains row.consumerId &&
    !decide (row.createdAt < filter.window.startTs) && decide (row.createdAt < filter.window.endTs) &&
    filter.model.all (fun m => row.model = m) &&
    filter.status.all fun s => row.requestStatus.asStr = s

end RequestFilter

/-- `(created_at, id)` -/
def requestKey (row : UsageRow) : String ×ₗ Nat := toLex (row.createdAt, row.id)

section Page

variable (sha256 : Bytes → Bytes) (key : Bytes)

/-- The read of one page. -/
def requestsPage (filter : RequestFilter) (cursor : Option (String × Int)) (limit : Nat)
    (records : List UsageRow) : Answer RequestsResponse :=
  match query (filter.conds cursor) 1 (filter.params cursor limit) records with
  | some (rows, [.integer bound]) =>
    let items := limited bound (newestFirst requestKey rows)
    if limit < items.length then
      .ok {
        data := (items.take limit).map requestItem
        nextCursor := (items.take limit).getLast?.map fun row =>
          signCursor sha256 key row.createdAt row.id }
    else .ok { data := items.map requestItem, nextCursor := none }
  | _ => .error (.error (.database .other))

variable (texts : Texts)

/-- The cursor of a query, once it is verified. -/
def queryCursor (query : DashboardQuery) : Answer (Option (String × Int)) :=
  match query.cursor with
  | none => .ok none
  | some raw => (verifyCursor sha256 key raw).map some

/-- What a query filters by, in a window. -/
def requestFilter (consumer : ConsumerContext) (query : DashboardQuery) (window : TimeWindow) :
    RequestFilter where
  scope := resolveScope consumer query.consumers
  window := window
  model := modelFilter query
  status := statusFilter query

/-- `limit.clamp(1, MAX_LIMIT)` -/
def pageLimit (query : DashboardQuery) : Nat := max 1 (min query.limit maxLimit)

def getRequests (now : Instant) (retentionDays : UInt32) (consumer : ConsumerContext)
    (query : DashboardQuery) (records : List UsageRow) : Answer RequestsResponse := do
  let window ← TimeWindow.resolve texts now retentionDays query
  let cursor ← queryCursor sha256 key query
  requestsPage sha256 key (requestFilter consumer query window) cursor (pageLimit query) records

end Page

/-! ## The statement selects the rows that match -/

section Statement

variable (filter : RequestFilter)

/-- The conditions but the cursor's, with their values. -/
def RequestFilter.bound : List (BoundCond UsageRow) :=
  [filter.scope.boundCond UsageRow.consumerId,
    .compare (fun row => .text row.createdAt) Value.atLeast (.text filter.window.startTs),
    .compare (fun row => .text row.createdAt) Value.below (.text filter.window.endTs),
    .ifGiven UsageRow.model filter.model,
    .ifGiven (fun row => row.requestStatus.asStr) filter.status]

/-- The cursor's condition. -/
def boundCursor : Option (String × Int) → List (BoundCond UsageRow)
  | some (createdAt, id) =>
    [.rowBelow (fun row => .text row.createdAt) (fun row => .integer row.id) (.text createdAt)
      (.integer id)]
  | none => []

theorem bound_conds (cursor : Option (String × Int)) :
    (filter.bound ++ boundCursor cursor).map BoundCond.cond = filter.conds cursor := by
  cases cursor <;> rfl

theorem bound_values (cursor : Option (String × Int)) (limit : Nat) :
    (filter.bound ++ boundCursor cursor).flatMap BoundCond.values ++ [.integer (limit + 1)] =
      filter.params cursor limit := by
  cases cursor <;> simp [RequestFilter.bound, boundCursor, RequestFilter.params, Scope.boundCond,
    BoundCond.compare, BoundCond.ifGiven, BoundCond.rowBelow]

theorem bound_selects (row : UsageRow) :
    filter.bound.all (fun cond => cond.selects row) = filter.wants row := by
  simp only [RequestFilter.bound, List.all_cons, List.all_nil, Bool.and_true,
    Scope.boundCond_selects, BoundCond.compare_selects, BoundCond.ifGiven_selects, Value.atLeast,
    selects_atMost_text, selects_below_text, RequestFilter.wants, Bool.and_assoc]

/-- Rows below a cursor, in the order of the list. -/
theorem boundCursor_selects (cursor : Option (String × Nat)) (row : UsageRow) :
    (boundCursor (cursor.map fun c => (c.1, (c.2 : Int)))).all (fun cond => cond.selects row) =
      (cursor.map toLex).all fun c => requestKey row < c := by
  cases cursor with
  | none => rfl
  | some c =>
    simp only [Option.map_some, boundCursor, List.all_cons, List.all_nil, Bool.and_true,
      BoundCond.rowBelow_selects, selects_below_text, selects_equals_text, selects_below_integer,
      Option.all_some, requestKey, Prod.Lex.toLex_lt_toLex, Bool.decide_or, Bool.decide_and,
      Int.ofNat_lt]

/-- The rows that match, and of these the ones below a cursor. -/
def requestOf (records : List UsageRow) : Keyset.Request UsageRow where
  rows := records
  wants := filter.wants

theorem query_eq (cursor : Option (String × Nat)) (limit : Nat) (records : List UsageRow) :
    query (filter.conds (cursor.map fun c => (c.1, (c.2 : Int)))) 1
      (filter.params (cursor.map fun c => (c.1, (c.2 : Int))) limit) records =
    some ((requestOf filter records).wanted requestKey (cursor.map toLex), [.integer (limit + 1)]) := by
  have hquery := query_bound (filter.bound ++ boundCursor (cursor.map fun c => (c.1, (c.2 : Int))))
    [.integer (limit + 1)] records
  rw [bound_conds, bound_values] at hquery
  simp only [List.all_append, bound_selects, boundCursor_selects] at hquery
  exact hquery

/-- A page of the statement with its bound values is a keyset page of the rows that match. -/
theorem requestsPage_eq (sha256 : Bytes → Bytes) (key : Bytes) (cursor : Option (String × Nat))
    (limit : Nat) (records : List UsageRow) :
    requestsPage sha256 key filter (cursor.map fun c => (c.1, (c.2 : Int))) limit records =
      .ok {
        data := ((requestOf filter records).ask requestKey limit (cursor.map toLex)).items.map
          requestItem
        nextCursor := ((requestOf filter records).ask requestKey limit (cursor.map toLex)).next.map
          fun k => signCursor sha256 key (ofLex k).1 (ofLex k).2 } := by
  have hbound : ∀ rows : List UsageRow, limited ((limit : Int) + 1) rows = rows.take (limit + 1) := by
    intro rows
    rw [limited, if_neg (by omega)]
    rfl
  rw [requestsPage, query_eq]
  dsimp only
  rw [hbound, Keyset.Request.ask, page]
  split
  · dsimp only
    rw [Option.map_map]
    rfl
  · rfl

end Statement

end PartnerPortal.Dashboard

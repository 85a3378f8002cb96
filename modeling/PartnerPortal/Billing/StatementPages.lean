import PartnerPortal.Admin.Common
import PartnerPortal.Dashboard.Tenancy
import PartnerPortal.Lib.OffsetPages
import PartnerPortal.Lib.OrderBy

/-!
# Statements, a page at a time

The two listings of statements read a page, the number of statements and what is owed.  Only the page
reads the `unpaid` flag.

Results:
- `listStatements_eq`, `countStatements_eq`, `outstandingTotals_ok_iff` — what the three reads select;
- `pagesAgree_iff` — over any handler with those reads, when its pages and its total agree;
- `statement_pages_agree_iff` — when they do in the two listings.
-/

namespace PartnerPortal

open MachineInt Prepared Dashboard

/-- `GET /api/admin/billing/statements` -/
def adminListStatements (query : StatementsQuery) (store : Store) : Except AdminError StatementList :=
  let database {α : Type} (result : Except SqliteError α) : Except AdminError α :=
    result.mapError fun e => .ofBilling (.database e)
  do
    let scope := resolveScope .manager query.consumers
    let (limit, offset) := query.page
    let rows ← database (listStatements store scope limit offset query.unpaid)
    let total ← database (countStatements store scope)
    let (unpaidCount, unpaidTotal) ← database (outstandingTotals store scope)
    return {
      statements := rows.map fun s => StatementView.forManager s none
      total := total
      limit := limit
      offset := offset
      unpaidCount := unpaidCount
      unpaidTotalMicroUsd := unpaidTotal
      unpaidTotal := signedAmountText unpaidTotal }

/-! ## What a pager should see -/

section Pages

variable {ε : Type} (answer : Nat → Except ε StatementList)

/-- The statements of the page at an offset. -/
def pageAt (offset : Nat) : List StatementView :=
  match answer offset with
  | .ok page => page.statements
  | .error _ => []

def dateKey (s : Statement) : String ×ₗ Nat := toLex (s.billingDate, s.id)

/-- A statement without a deadline is before every one with a deadline. -/
def deadlineKey (s : Statement) : WithBot String ×ₗ String ×ₗ Nat :=
  toLex (s.dueAt, toLex (s.consumerId, s.id))

/-- The newest first, or by deadline where only the unpaid ones are asked for. -/
def DocumentedOrder (onlyUnpaid : Bool) (rows : List Statement) : Prop :=
  if onlyUnpaid then rows.Pairwise fun a b => deadlineKey a ≤ deadlineKey b
  else rows.Pairwise fun a b => dateKey b ≤ dateKey a

/-- The pages of one size that start below the total list the statements that are wanted. -/
structure PagesAgree (size : Nat) (view : Statement → StatementView) (onlyUnpaid : Bool)
    (wanted : List Statement) : Prop where
  counted : ∀ offset, ∃ page, answer offset = .ok page ∧ page.total = wanted.length
  listed : ∃ listing : List Statement, listing.Perm wanted ∧ DocumentedOrder onlyUnpaid listing ∧
    ((OffsetPages.offsets size wanted.length).map (pageAt answer)).flatten = listing.map view
  nonempty : ∀ offset ∈ OffsetPages.offsets size wanted.length, pageAt answer offset ≠ []

end Pages

/-! ## The reads -/

section Reads

variable (store : Store) (scope : Scope) (onlyUnpaid : Bool)

/-- The statements that match the filter of a listing. -/
def matchingStatements : List Statement :=
  store.statements.filter fun s =>
    scope.contains s.consumerId && (!onlyUnpaid || s.isOutstanding)

/-- What the invoices in scope that are not paid come to. -/
def owedInScope : Int :=
  ((matchingStatements store scope true).map fun s => s.totalAmountMicroUsd.value).sum

def listing : List Statement :=
  (matchingStatements store scope onlyUnpaid).insertionSort fun a b =>
    (if onlyUnpaid then byDeadline else byDateDesc) a b

theorem isOutstanding_iff (s : Statement) :
    s.isOutstanding = true ↔ s.paidAt.isNone = true ∧ s.billingMode = .invoice := by
  rw [Statement.isOutstanding, Bool.and_eq_true, and_comm]
  cases s.billingMode <;> simp [BillingMode.owesPayment]

/-- The conditions of a listing, with their values. -/
def listingBound : List (BoundCond Statement) :=
  scope.boundCond Statement.consumerId :: if onlyUnpaid then unpaidBound else []

theorem unpaidBound_selects (s : Statement) :
    (unpaidBound.all fun part => part.selects s) = s.isOutstanding := by
  rw [Bool.eq_iff_iff, isOutstanding_iff, unpaidBound, List.all_cons, List.all_cons, List.all_nil,
    Bool.and_true, Bool.and_eq_true]
  show Sql.selects (some s.paidAt.isNone) = true ∧
    Sql.selects (some (decide (s.billingMode = .invoice))) = true ↔ _
  rw [selects_some, selects_some, decide_eq_true_eq]

theorem listingBound_selects (s : Statement) :
    ((listingBound scope onlyUnpaid).all fun part => part.selects s) =
      (scope.contains s.consumerId && (!onlyUnpaid || s.isOutstanding)) := by
  rw [listingBound, List.all_cons, Scope.boundCond_selects]
  cases onlyUnpaid with
  | false => rfl
  | true => rw [if_pos rfl, unpaidBound_selects, Bool.not_true, Bool.false_or]

theorem listingBound_cond : (listingBound scope onlyUnpaid).map BoundCond.cond =
    scopedStatement scope :: if onlyUnpaid then unpaidConds else [] := by
  cases onlyUnpaid <;> rfl

/-- Only the scope has values. -/
theorem listingBound_values :
    (listingBound scope onlyUnpaid).flatMap BoundCond.values = scope.params := by
  cases onlyUnpaid <;> exact List.append_nil _

theorem listStatements_eq (limit offset : Int) :
    listStatements store scope limit offset onlyUnpaid =
      .ok (paged limit offset (listing store scope onlyUnpaid)) := by
  have hquery := query_bound (listingBound scope onlyUnpaid) [.integer limit, .integer offset]
    store.statements
  simp only [listingBound_selects, listingBound_cond, listingBound_values, List.length_cons,
    List.length_nil, Nat.zero_add, Nat.reduceAdd] at hquery
  simp only [listStatements, hquery]
  rfl

/-- The number of statements is read without the flag. -/
theorem countStatements_eq :
    countStatements store scope = .ok (matchingStatements store scope false).length := by
  have hrows := selectRows_bound (listingBound scope false) store.statements
  simp only [listingBound_selects, listingBound_cond, listingBound_values] at hrows
  rw [countStatements]
  exact congrArg (fun rows => rows >>= fun rows => pure rows.length) hrows

theorem selectRows_outstanding :
    selectRows (scopedStatement scope :: unpaidConds.reverse) scope.params store.statements =
      .ok (matchingStatements store scope true) := by
  have hrows := selectRows_bound (scope.boundCond Statement.consumerId :: unpaidBound.reverse)
    store.statements
  simp only [List.all_cons, Scope.boundCond_selects, List.all_reverse, unpaidBound_selects] at hrows
  have hvalues : (scope.boundCond Statement.consumerId :: unpaidBound.reverse).flatMap
      BoundCond.values = scope.params := List.append_nil _
  rw [hvalues] at hrows
  exact hrows

/-- What is owed is read where it fits. -/
theorem outstandingTotals_ok_iff (totals : Nat × Int) :
    outstandingTotals store scope = .ok totals ↔ owedInScope store scope ≤ i64Max ∧
      totals = ((matchingStatements store scope true).length, owedInScope store scope) := by
  have hnonneg : ∀ v ∈ (matchingStatements store scope true).map fun s =>
      some s.totalAmountMicroUsd.value, 0 ≤ v.getD 0 := by
    intro v hv
    obtain ⟨s, -, rfl⟩ := List.mem_map.1 hv
    exact s.totalAmountMicroUsd.nonneg
  have htotal : Sql.total ((matchingStatements store scope true).map fun s =>
      some s.totalAmountMicroUsd.value) = owedInScope store scope := by
    rw [Sql.total, List.map_map]
    rfl
  have hsum := Sql.sum_ok_iff hnonneg
  rw [htotal] at hsum
  rw [outstandingTotals, selectRows_outstanding, Result.ok_bind]
  cases hresult : Sql.sum ((matchingStatements store scope true).map fun s =>
      some s.totalAmountMicroUsd.value) with
  | error overflow =>
    show Except.error _ = _ ↔ _
    simp only [reduceCtorEq, false_iff, not_and]
    intro hfits
    rw [(hsum _).2 ⟨hfits, rfl⟩] at hresult
    cases hresult
  | ok total =>
    obtain ⟨hfits, rfl⟩ := (hsum total).1 hresult
    have hvalue : Option.getD (if ((matchingStatements store scope true).map fun s =>
        some s.totalAmountMicroUsd.value).any Option.isSome then some (owedInScope store scope)
        else none) 0 = owedInScope store scope := by
      -- without a row the sum is `NULL`, and is read as nothing owed
      split
      · rfl
      · rename_i hnone
        rw [owedInScope]
        cases hrows : matchingStatements store scope true with
        | nil => rfl
        | cons s rows => simp [hrows] at hnone
    show Except.ok (_, _) = _ ↔ _
    rw [hvalue, Except.ok.injEq, eq_comm]
    exact ⟨fun h => ⟨hfits, h⟩, fun h => h.2⟩

/-- What is owed past `i64` is not read. -/
theorem outstandingTotals_refused (hlarge : i64Max < owedInScope store scope) :
    ∃ e, outstandingTotals store scope = .error e := by
  cases htotals : outstandingTotals store scope with
  | ok totals =>
    have hfits := ((outstandingTotals_ok_iff store scope totals).1 htotals).1
    exact absurd hfits (Int.not_le.2 hlarge)
  | error e => exact ⟨e, rfl⟩

end Reads

/-! ## The order of a listing -/

section Order

/-- `NULL` is before every text. -/
theorem compare_option_lt_iff (a b : Option String) :
    compare a b = .lt ↔ @LT.lt (WithBot String) _ a b := by
  match a, b with
  | none, none => exact ⟨nofun, fun h => absurd h (lt_irrefl _)⟩
  | none, some b => exact ⟨fun _ => WithBot.bot_lt_coe b, fun _ => rfl⟩
  | some a, none => exact ⟨nofun, fun h => absurd h (WithBot.not_lt_bot _)⟩
  | some a, some b =>
    show compare a b = .lt ↔ (a : WithBot String) < (b : WithBot String)
    rw [WithBot.coe_lt_coe, compare_lt_iff_lt]

theorem compare_option_eq_iff (a b : Option String) : compare a b = .eq ↔ a = b := by
  match a, b with
  | none, none => exact ⟨fun _ => rfl, fun _ => rfl⟩
  | none, some b => exact ⟨nofun, nofun⟩
  | some a, none => exact ⟨nofun, nofun⟩
  | some a, some b =>
    show compare a b = .eq ↔ some a = some b
    rw [compare_eq_iff_eq, Option.some.injEq]

theorem byDateDesc_iff (a b : Statement) : byDateDesc a b = true ↔ dateKey b ≤ dateKey a := by
  rw [byDateDesc, Ordering.isLE_then_iff_or, compare_lt_iff_lt, compare_eq_iff_eq, dateKey, dateKey,
    Prod.Lex.toLex_le_toLex, Nat.isLE_compare]

theorem byDeadline_iff (a b : Statement) : byDeadline a b = true ↔ deadlineKey a ≤ deadlineKey b := by
  refine Iff.trans ?_ Prod.Lex.toLex_le_toLex.symm
  rw [byDeadline, Ordering.isLE_then_iff_or, Ordering.isLE_then_iff_or, compare_option_lt_iff,
    compare_option_eq_iff, compare_lt_iff_lt, compare_eq_iff_eq, Nat.isLE_compare]
  exact or_congr_right (and_congr_right fun _ =>
    (@Prod.Lex.toLex_le_toLex _ _ _ _ (a.consumerId, a.id) (b.consumerId, b.id)).symm)

theorem listing_ordered (store : Store) (scope : Scope) (onlyUnpaid : Bool) :
    DocumentedOrder onlyUnpaid (listing store scope onlyUnpaid) := by
  cases onlyUnpaid with
  | false =>
    exact @OrderBy.insertionSort_pairwise _ _ _ (fun s => OrderDual.toDual (dateKey s)) _ _ _
      fun a _ b _ => byDateDesc_iff a b
  | true => exact OrderBy.insertionSort_pairwise fun a _ b _ => byDeadline_iff a b

end Order

/-! ## When the pages agree with the total -/

section Agreement

variable {ε : Type} {answer : Int → Except ε StatementList} {store : Store} {scope : Scope}
  {onlyUnpaid : Bool} {limit : Int} {view : Statement → StatementView}

/-- What a handler makes of the three reads. -/
structure ReadsStatements (answer : Int → Except ε StatementList) (store : Store) (scope : Scope)
    (onlyUnpaid : Bool) (limit : Int) (view : Statement → StatementView) : Prop where
  answers : owedInScope store scope ≤ i64Max → ∀ offset, 0 ≤ offset →
    ∃ page, answer offset = .ok page ∧
      page.total = (matchingStatements store scope false).length ∧
      page.statements = (paged limit offset (listing store scope onlyUnpaid)).map view
  refuses : i64Max < owedInScope store scope → ∀ offset page, answer offset ≠ .ok page

/-- Every statement is wanted, and what is owed fits. -/
def PagerSafe (store : Store) (scope : Scope) (onlyUnpaid : Bool) : Prop :=
  (onlyUnpaid = true → ∀ s ∈ store.statements, scope.contains s.consumerId = true →
    s.isOutstanding = true) ∧ owedInScope store scope ≤ i64Max

/-- The two filters select as many statements exactly where the flag excludes none. -/
theorem matching_length_iff : (matchingStatements store scope false).length =
    (matchingStatements store scope onlyUnpaid).length ↔
      (onlyUnpaid = true → ∀ s ∈ store.statements, scope.contains s.consumerId = true →
        s.isOutstanding = true) := by
  have hnarrow : matchingStatements store scope onlyUnpaid =
      (matchingStatements store scope false).filter fun s => !onlyUnpaid || s.isOutstanding := by
    rw [matchingStatements, matchingStatements, List.filter_filter]
    exact List.filter_congr fun s _ => by rw [Bool.not_false, Bool.true_or, Bool.and_true, Bool.and_comm]
  rw [hnarrow, eq_comm, List.length_filter_eq_length_iff]
  constructor
  · rintro hall rfl s hs hscope
    exact hall s (List.mem_filter.2 ⟨hs, by rwa [Bool.not_false, Bool.true_or, Bool.and_true]⟩)
  · intro hall s hs
    obtain ⟨hs, hscope⟩ := List.mem_filter.1 hs
    rw [Bool.not_false, Bool.true_or, Bool.and_true] at hscope
    cases onlyUnpaid with
    | false => rfl
    | true => exact hall rfl s hs hscope

theorem paged_eq (hlimit : 0 < limit) (offset : Nat) (rows : List Statement) :
    paged limit offset rows = OffsetPages.page rows limit.toNat offset := by
  rw [paged, limited, if_neg (Int.not_lt.2 hlimit.le), Int.toNat_natCast, OffsetPages.page]

theorem pagesAgree_of_safe (h : ReadsStatements answer store scope onlyUnpaid limit view)
    (hlimit : 0 < limit) (hsafe : PagerSafe store scope onlyUnpaid) :
    PagesAgree (fun offset => answer offset) limit.toNat view onlyUnpaid
      (matchingStatements store scope onlyUnpaid) := by
  have hcount := (@matching_length_iff store scope onlyUnpaid).2 hsafe.1
  have hperm : (listing store scope onlyUnpaid).Perm (matchingStatements store scope onlyUnpaid) :=
    List.perm_insertionSort _ _
  have hsize : 0 < limit.toNat := by omega
  have hpage : ∀ offset : Nat, pageAt (fun offset : Nat => answer offset) offset =
      (OffsetPages.page (listing store scope onlyUnpaid) limit.toNat offset).map view := by
    intro offset
    obtain ⟨page, hpage, -, hstatements⟩ := h.answers hsafe.2 offset (Int.natCast_nonneg offset)
    rw [pageAt, hpage, ← paged_eq hlimit]
    exact hstatements
  refine ⟨fun offset => ?_, ⟨_, hperm, listing_ordered store scope onlyUnpaid, ?_⟩, fun offset ho => ?_⟩
  · obtain ⟨page, hpage, htotal, -⟩ := h.answers hsafe.2 offset (Int.natCast_nonneg offset)
    exact ⟨page, hpage, htotal.trans hcount⟩
  · have hflatten := congrArg (List.map view)
      (OffsetPages.flatten_pages hsize hperm.length_eq.le)
    rw [List.map_flatten, List.map_map] at hflatten
    rw [List.map_congr_left fun offset _ => hpage offset]
    exact hflatten
  · rw [hpage, Ne, List.map_eq_nil_iff]
    exact OffsetPages.pages_ne_nil hsize hperm.length_eq.ge ho

/-- The pages agree with the total exactly where the flag excludes no statement in scope and what is owed
fits. -/
theorem pagesAgree_iff (h : ReadsStatements answer store scope onlyUnpaid limit view)
    (hlimit : 0 < limit) :
    PagesAgree (fun offset => answer offset) limit.toNat view onlyUnpaid
      (matchingStatements store scope onlyUnpaid) ↔ PagerSafe store scope onlyUnpaid := by
  refine ⟨fun hagree => ?_, pagesAgree_of_safe h hlimit⟩
  obtain ⟨page, hpage, htotal⟩ := hagree.counted 0
  have hfits : owedInScope store scope ≤ i64Max :=
    Int.not_lt.1 fun hlarge => h.refuses hlarge _ page hpage
  obtain ⟨page', hpage', htotal', -⟩ := h.answers hfits 0 le_rfl
  cases hpage.symm.trans hpage'
  exact ⟨matching_length_iff.1 (htotal'.symm.trans htotal), hfits⟩

end Agreement

/-! ## The two listings -/

section Handlers

variable (consumer : ConsumerContext) (query : StatementsQuery) (store : Store)

theorem listStatementViews_reads :
    ReadsStatements (fun offset => listStatementViews consumer { query with offset := offset } store)
      store (resolveScope consumer query.consumers) query.unpaid (max 0 (min query.limit 200))
      (fun s => StatementView.forConsumer consumer s none) where
  answers := by
    intro hfits offset hoffset
    have htotals := (outstandingTotals_ok_iff store (resolveScope consumer query.consumers) _).2
      ⟨hfits, rfl⟩
    simp only [listStatementViews, StatementsQuery.page, listStatements_eq, countStatements_eq, htotals,
      orDatabase, Result.ok_bind, Except.mapError, max_eq_left hoffset]
    exact ⟨_, rfl, rfl, rfl⟩
  refuses := by
    intro hlarge offset page hpage
    obtain ⟨e, htotals⟩ := outstandingTotals_refused store (resolveScope consumer query.consumers) hlarge
    simp only [listStatementViews, StatementsQuery.page, listStatements_eq, countStatements_eq,
      htotals, orDatabase, Result.ok_bind, Except.mapError] at hpage
    cases hpage

theorem adminListStatements_reads :
    ReadsStatements (fun offset => adminListStatements { query with offset := offset } store)
      store (resolveScope .manager query.consumers) query.unpaid (max 0 (min query.limit 200))
      (fun s => StatementView.forManager s none) where
  answers := by
    intro hfits offset hoffset
    have htotals := (outstandingTotals_ok_iff store (resolveScope .manager query.consumers) _).2
      ⟨hfits, rfl⟩
    simp only [adminListStatements, StatementsQuery.page, listStatements_eq, countStatements_eq, htotals,
      Result.ok_bind, Except.mapError, max_eq_left hoffset]
    exact ⟨_, rfl, rfl, rfl⟩
  refuses := by
    intro hlarge offset page hpage
    obtain ⟨e, htotals⟩ := outstandingTotals_refused store (resolveScope .manager query.consumers) hlarge
    simp only [adminListStatements, StatementsQuery.page, listStatements_eq, countStatements_eq,
      htotals, Result.ok_bind, Except.mapError] at hpage
    cases hpage

end Handlers

/-- How many rows a page has at most: what is asked for, capped. -/
def pageSize (query : StatementsQuery) : Nat := (min query.limit 200).toNat

/-- The two listings page as they announce exactly where every statement in scope is wanted. -/
theorem statement_pages_agree_iff (consumer : ConsumerContext) (query : StatementsQuery) (store : Store)
    (hlimit : 0 < query.limit) :
    (PagesAgree (fun offset => listStatementViews consumer { query with offset := offset } store)
        (pageSize query) (fun s => StatementView.forConsumer consumer s none) query.unpaid
        (matchingStatements store (resolveScope consumer query.consumers) query.unpaid) ↔
      PagerSafe store (resolveScope consumer query.consumers) query.unpaid) ∧
    (PagesAgree (fun offset => adminListStatements { query with offset := offset } store)
        (pageSize query) (fun s => StatementView.forManager s none) query.unpaid
        (matchingStatements store (resolveScope .manager query.consumers) query.unpaid) ↔
      PagerSafe store (resolveScope .manager query.consumers) query.unpaid) := by
  have hsize : max 0 (min query.limit 200) = min query.limit 200 := max_eq_right (by omega)
  have hown := listStatementViews_reads consumer query store
  have hadmin := adminListStatements_reads query store
  rw [hsize] at hown hadmin
  exact ⟨pagesAgree_iff hown (by omega), pagesAgree_iff hadmin (by omega)⟩

namespace Sample

/-- An invoice that is owed and one that is paid. -/
def paidAndOwed : Store where
  partners := []
  usage := []
  statements := [invoice 1 noon, { invoice 2 noon with paidAt := some (formatInstant noon) }]
  lines := []
  nextStatementId := 3
  nextLineId := 1

end Sample

/-- A manager that lists everything is told the right number. -/
theorem statement_pages_agree_iff_sample :
    (PagesAgree (fun offset => listStatementViews .manager { offset := offset } Sample.paidAndOwed)
        50 (fun s => StatementView.forConsumer .manager s none) false
        (matchingStatements Sample.paidAndOwed .all false) ↔
      PagerSafe Sample.paidAndOwed .all false) ∧
    (PagesAgree (fun offset => adminListStatements { offset := offset } Sample.paidAndOwed)
        50 (fun s => StatementView.forManager s none) false
        (matchingStatements Sample.paidAndOwed .all false) ↔
      PagerSafe Sample.paidAndOwed .all false) :=
  statement_pages_agree_iff .manager {} Sample.paidAndOwed (by decide)

/-- With a page of one statement and `unpaid`, the total counts the statement that is paid. -/
theorem statement_pages_offer_empty_page : ¬∀ consumer query store, 0 < query.limit →
    PagesAgree (fun offset => listStatementViews consumer { query with offset := offset } store)
      (pageSize query) (fun s => StatementView.forConsumer consumer s none) query.unpaid
      (matchingStatements store (resolveScope consumer query.consumers) query.unpaid) := by
  intro hall
  obtain ⟨page, hpage, htotal⟩ :=
    (hall .manager { limit := 1, unpaid := true } Sample.paidAndOwed (by decide)).counted 0
  have htwo : (listStatementViews .manager { limit := 1, unpaid := true, offset := (0 : Nat) }
      Sample.paidAndOwed).toOption.map StatementList.total = some 2 := by decide +kernel
  rw [hpage] at htwo
  exact absurd (htotal.symm.trans (Option.some.inj htwo)) (by decide +kernel)

end PartnerPortal

import PartnerPortal.Ledger.Recovery

/-!
# The row of one request

The ledger read request by request: what each write does to the row of one request, and what stays
of a row through all later writes.

Results:
- `flushOne_row`, `flush_row` — everything the writes of a batch can do to the row of a request;
- `RowRun.continues` — the columns of a row that no later write changes.
-/

namespace PartnerPortal

open MachineInt

/-! ## Rows -/

/-- The three prices of a row. -/
def UsageRow.prices (row : UsageRow) : Option Count × Option Count × Option Count :=
  (row.inputPriceSnapshot, row.cachedInputPriceSnapshot, row.outputPriceSnapshot)

/-- A row without its key. -/
def UsageRow.columns (row : UsageRow) : UsageRow := { row with id := 0 }

/-- A row without its key and its prices. -/
def UsageRow.unpriced (row : UsageRow) : UsageRow :=
  { row with
    id := 0
    inputPriceSnapshot := none
    cachedInputPriceSnapshot := none
    outputPriceSnapshot := none }

theorem UsageRow.columns_eq_iff {row row' : UsageRow} :
    row.columns = row'.columns ↔ row.unpriced = row'.unpriced ∧ row.prices = row'.prices := by
  cases row
  cases row'
  simp only [UsageRow.columns, UsageRow.unpriced, UsageRow.prices, UsageRow.mk.injEq,
    Prod.mk.injEq]
  tauto

/-- The request a write is about. -/
def PendingWrite.requestId : PendingWrite → Option String
  | .accept record | .finalize record => some record.requestId
  | .barrier => none

/-- The prices a finalize of the request carries. -/
def PendingWrite.prices (requestId : String) : PendingWrite → Option PricingSnapshot
  | .finalize record => if record.requestId = requestId then record.pricing else none
  | _ => none

/-- A finalize of the request that carries prices. -/
def PendingWrite.Reprices (requestId : String) (pending : PendingWrite) : Prop :=
  (pending.prices requestId).isSome

theorem reprices_finalize_iff {requestId : String} {record : RequestRecord} :
    (PendingWrite.finalize record).Reprices requestId ↔
      record.requestId = requestId ∧ record.pricing.isSome := by
  simp only [PendingWrite.Reprices, PendingWrite.prices]
  split
  · rename_i hid
    simp [hid]
  · rename_i hid
    simp [hid]

theorem not_reprices_accept (requestId : String) (record : RequestRecord) :
    ¬ (PendingWrite.accept record).Reprices requestId := by
  simp [PendingWrite.Reprices, PendingWrite.prices]

/-- One write, whatever else its batch holds. -/
def applyOne (iso : Iso8601) (instanceId : Option String) (ledger : Ledger) :
    PendingWrite → Except LedgerError Ledger
  | .barrier => .ok ledger
  | .accept record => .ok (insertAccept instanceId record ledger)
  | .finalize record => finalizeRecord iso instanceId record ledger

/-! ## Finding a row after a write -/

section Find

variable {ledger : Ledger} {requestId : String}

theorem Ledger.find_insert (row : UsageRow) :
    (ledger.insert row).find requestId =
      (ledger.find requestId).or (if row.requestId = requestId then some row else none) := by
  simp only [Ledger.find, Ledger.records_insert, List.find?_append, List.find?_cons,
    List.find?_nil]
  split <;> simp_all

theorem Ledger.find_update {changed : String} {change : UsageRow → UsageRow}
    (hid : ∀ row, (change row).requestId = row.requestId) :
    (ledger.update changed change).find requestId =
      if changed = requestId then (ledger.find requestId).map change
      else ledger.find requestId := by
  have hrow : ∀ row : UsageRow,
      (if row.requestId = changed then change row else row).requestId = row.requestId := by
    intro row
    split
    · exact hid row
    · rfl
  simp only [Ledger.find, Ledger.update, List.find?_map, Function.comp_def, hrow]
  cases hfind : ledger.records.find? fun row => row.requestId = requestId with
  | none => simp
  | some row =>
    have hmatch : row.requestId = requestId := by simpa using List.find?_some hfind
    rw [Option.map_some, Option.map_some, hmatch]
    by_cases heq : changed = requestId
    · rw [if_pos heq.symm, if_pos heq]
    · rw [if_neg fun h => heq h.symm, if_neg heq]

@[simp] theorem Ledger.find_add (x : Contribution) :
    (ledger.add x).find requestId = ledger.find requestId := rfl

@[simp] theorem Ledger.find_retractStored (stored : StoredRow) :
    (ledger.retractStored stored).find requestId = ledger.find requestId := by
  rw [Ledger.find, Ledger.find, Ledger.records_retractStored]

end Find

/-! ## One write -/

section Writes

variable (instanceId : Option String) (finalized : List String) (requestId : String)

/-- Everything a write of a batch can do to the row of a request. -/
inductive RowStep : PendingWrite → Option UsageRow → Option UsageRow → Prop
  | other {pending : PendingWrite} {row : Option UsageRow}
      (hother : pending.requestId ≠ some requestId) : RowStep pending row row
  /-- the batch finalizes the request anyway -/
  | skipped {record : RequestRecord} {row : Option UsageRow} (hid : record.requestId = requestId)
      (hskip : requestId ∈ finalized) : RowStep (.accept record) row row
  | ignored {record : RequestRecord} {row : UsageRow} (hid : record.requestId = requestId) :
      RowStep (.accept record) (some row) (some row)
  | accepted {record : RequestRecord} (id : Nat) (hid : record.requestId = requestId)
      (hskip : requestId ∉ finalized) :
      RowStep (.accept record) none (some (acceptedRow id record instanceId))
  | inserted {record : RequestRecord} {figures : Figures} (id : Nat)
      (hid : record.requestId = requestId) (hfigures : bindFigures record = .ok figures) :
      RowStep (.finalize record) none (some (insertedRow id record instanceId figures))
  | updated {record : RequestRecord} {figures : Figures} {row : UsageRow}
      (hid : record.requestId = requestId) (hfigures : bindFigures record = .ok figures) :
      RowStep (.finalize record) (some row) (some (updatedRow row record figures))

end Writes

section Steps

variable {iso : Iso8601} {instanceId : Option String} {finalized : List String}
  {requestId : String}

theorem insertAccept_row (record : RequestRecord) (ledger : Ledger)
    (hskip : record.requestId ∉ finalized) :
    RowStep instanceId finalized requestId (.accept record) (ledger.find requestId)
      ((insertAccept instanceId record ledger).find requestId) := by
  by_cases hid : record.requestId = requestId
  · subst hid
    unfold insertAccept
    split
    · rename_i row hfind
      rw [hfind]
      exact .ignored rfl
    · rename_i hfind
      rw [Ledger.find_insert, hfind, Option.none_or, if_pos (by rfl)]
      exact .accepted _ rfl hskip
  · have hkeep : (insertAccept instanceId record ledger).find requestId = ledger.find requestId := by
      unfold insertAccept
      split
      · rfl
      · rw [Ledger.find_insert, if_neg (by exact hid), Option.or_none]
    rw [hkeep]
    exact .other fun h => hid (Option.some.inj h)

theorem finalizeRecord_row {record : RequestRecord} {ledger written : Ledger}
    (h : finalizeRecord iso instanceId record ledger = .ok written) :
    RowStep instanceId finalized requestId (.finalize record) (ledger.find requestId)
      (written.find requestId) := by
  obtain ⟨figures, hfigures, hdone⟩ := finalizeRecord_ok h
  have hupdate := @Ledger.find_update ledger requestId record.requestId
    (fun row => updatedRow row record figures) fun _ => rfl
  by_cases hid : record.requestId = requestId
  · subst hid
    cases hdone with
    | updated hfind hstored =>
      rw [Ledger.find_add, Ledger.find_retractStored, hupdate, if_pos rfl, hfind]
      exact .updated rfl hfigures
    | inserted hfind =>
      rw [Ledger.find_add, Ledger.find_insert, hfind, Option.none_or, if_pos (by rfl)]
      exact .inserted _ rfl hfigures
  · have hkeep : written.find requestId = ledger.find requestId := by
      cases hdone with
      | updated hfind hstored =>
        rw [Ledger.find_add, Ledger.find_retractStored, hupdate, if_neg hid]
      | inserted hfind =>
        rw [Ledger.find_add, Ledger.find_insert, if_neg (by exact hid), Option.or_none]
    rw [hkeep]
    exact .other fun h => hid (Option.some.inj h)

theorem flushOne_row {pending : PendingWrite} {state next : Ledger × Nat}
    (h : flushOne iso instanceId finalized state pending = .ok next) :
    RowStep instanceId finalized requestId pending (state.1.find requestId)
      (next.1.find requestId) := by
  cases pending with
  | barrier =>
    cases h
    exact .other (by simp [PendingWrite.requestId])
  | accept record =>
    simp only [flushOne] at h
    split at h
    · rename_i hskip
      cases h
      by_cases hid : record.requestId = requestId
      · exact .skipped hid (hid ▸ hskip)
      · exact .other fun heq => hid (Option.some.inj heq)
    · rename_i hskip
      cases h
      exact insertAccept_row record state.1 hskip
  | finalize record =>
    obtain ⟨written, hwritten, h⟩ := Result.bind_ok_iff.1 h
    cases h
    exact finalizeRecord_row hwritten

theorem applyOne_row {pending : PendingWrite} {ledger next : Ledger}
    (h : applyOne iso instanceId ledger pending = .ok next) :
    RowStep instanceId [] requestId pending (ledger.find requestId) (next.find requestId) := by
  cases pending with
  | barrier =>
    cases h
    exact .other (by simp [PendingWrite.requestId])
  | accept record =>
    cases h
    exact insertAccept_row record ledger List.not_mem_nil
  | finalize record => exact finalizeRecord_row h

end Steps

/-! ## Many writes -/

/-- The row of a request under writes one after another. -/
inductive RowRun (instanceId : Option String) (finalized : List String) (requestId : String) :
    List PendingWrite → Option UsageRow → Option UsageRow → Prop
  | nil (row : Option UsageRow) : RowRun instanceId finalized requestId [] row row
  | cons {pending : PendingWrite} {rest : List PendingWrite} {row next last : Option UsageRow}
      (hstep : RowStep instanceId finalized requestId pending row next)
      (hrest : RowRun instanceId finalized requestId rest next last) :
      RowRun instanceId finalized requestId (pending :: rest) row last

/-- The columns that are set when a row is inserted and never again. -/
structure UsageRow.Continues (row row' : UsageRow) : Prop where
  createdAt : row'.createdAt = row.createdAt
  consumerId : row'.consumerId = row.consumerId
  model : row'.model = row.model
  endpoint : row'.endpoint = row.endpoint
  instanceId : row'.instanceId = row.instanceId

theorem UsageRow.Continues.refl (row : UsageRow) : row.Continues row := ⟨rfl, rfl, rfl, rfl, rfl⟩

theorem UsageRow.Continues.trans {row row' row'' : UsageRow} (h : row.Continues row')
    (h' : row'.Continues row'') : row.Continues row'' where
  createdAt := h'.createdAt.trans h.createdAt
  consumerId := h'.consumerId.trans h.consumerId
  model := h'.model.trans h.model
  endpoint := h'.endpoint.trans h.endpoint
  instanceId := h'.instanceId.trans h.instanceId

/-- A finalize with prices sets all three, and one without leaves them as they are. -/
theorem updatedRow_prices (row : UsageRow) (record : RequestRecord) (figures : Figures) :
    (updatedRow row record figures).prices =
      match record.pricing with
      | some _ => record.priceColumns
      | none => row.prices := by
  cases hpricing : record.pricing <;>
    simp [updatedRow, UsageRow.prices, RequestRecord.priceColumns, hpricing]

section Runs

variable {iso : Iso8601} {instanceId : Option String} {finalized : List String}
  {requestId : String} {pending : PendingWrite} {batch : List PendingWrite}

theorem RowStep.continues {row : UsageRow} {next : Option UsageRow}
    (h : RowStep instanceId finalized requestId pending (some row) next) :
    ∃ row', next = some row' ∧ row.Continues row' ∧
      (¬ pending.Reprices requestId → row'.prices = row.prices) := by
  cases h with
  | other | skipped | ignored => exact ⟨row, rfl, .refl row, fun _ => rfl⟩
  | @updated record figures _ hid hfigures =>
    refine ⟨_, rfl, ⟨rfl, rfl, rfl, rfl, rfl⟩, fun hnot => ?_⟩
    rw [updatedRow_prices]
    cases hpricing : record.pricing with
    | none => rfl
    | some prices => exact absurd (reprices_finalize_iff.2 ⟨hid, by rw [hpricing]; rfl⟩) hnot

/-- A row goes on under all later writes, and its prices until one carries others. -/
theorem RowRun.continues {row : UsageRow} {last : Option UsageRow}
    (h : RowRun instanceId finalized requestId batch (some row) last) :
    ∃ row', last = some row' ∧ row.Continues row' ∧
      ((∀ pending ∈ batch, ¬ pending.Reprices requestId) → row'.prices = row.prices) := by
  induction batch generalizing row with
  | nil =>
    cases h
    exact ⟨row, rfl, .refl row, fun _ => rfl⟩
  | cons pending rest ih =>
    cases h with
    | cons hstep hrest =>
      obtain ⟨middle, rfl, hcontinues, hprices⟩ := hstep.continues
      obtain ⟨row', rfl, hcontinues', hprices'⟩ := ih hrest
      refine ⟨row', rfl, hcontinues.trans hcontinues', fun hnone => ?_⟩
      rw [hprices' fun p hp => hnone p (List.mem_cons_of_mem pending hp),
        hprices (hnone pending List.mem_cons_self)]

/-- A request without a row gets none from writes of other requests and skipped accepts. -/
theorem RowRun.eq_none {last : Option UsageRow}
    (h : RowRun instanceId finalized requestId batch none last)
    (hquiet : ∀ pending ∈ batch, pending.requestId = some requestId →
      requestId ∈ finalized ∧ ∃ record, pending = .accept record) : last = none := by
  induction batch with
  | nil =>
    cases h
    rfl
  | cons pending rest ih =>
    cases h with
    | @cons _ _ _ next _ hstep hrest =>
      have hquiet' := hquiet pending List.mem_cons_self
      have hnext : next = none := by
        cases hstep with
        | other | skipped => rfl
        | accepted id hid hskip => exact absurd (hquiet' (congrArg some hid)).1 hskip
        | inserted id hid hfigures =>
          obtain ⟨-, record, hrecord⟩ := hquiet' (congrArg some hid)
          cases hrecord
      subst hnext
      exact ih hrest fun p hp => hquiet p (List.mem_cons_of_mem pending hp)

theorem RowRun.append_iff {front back : List PendingWrite} {row last : Option UsageRow} :
    RowRun instanceId finalized requestId (front ++ back) row last ↔
      ∃ middle, RowRun instanceId finalized requestId front row middle ∧
        RowRun instanceId finalized requestId back middle last := by
  induction front generalizing row with
  | nil =>
    refine ⟨fun h => ⟨row, .nil row, h⟩, ?_⟩
    rintro ⟨middle, hfront, hback⟩
    cases hfront
    exact hback
  | cons pending front ih =>
    constructor
    · intro h
      cases h with
      | cons hstep hrest =>
        obtain ⟨middle, hfront, hback⟩ := ih.1 hrest
        exact ⟨middle, .cons hstep hfront, hback⟩
    · rintro ⟨middle, hfront, hback⟩
      cases hfront with
      | cons hstep hrest => exact .cons hstep (ih.2 ⟨middle, hrest, hback⟩)

/-- The row of a request through the flush of a batch. -/
theorem flush_row {state next : Ledger × Nat}
    (h : batch.foldlM (flushOne iso instanceId finalized) state = .ok next) :
    RowRun instanceId finalized requestId batch (state.1.find requestId)
      (next.1.find requestId) := by
  induction batch generalizing state with
  | nil =>
    cases h
    exact .nil _
  | cons pending rest ih =>
    rw [List.foldlM_cons] at h
    obtain ⟨middle, hmiddle, h⟩ := Result.bind_ok_iff.1 h
    exact .cons (flushOne_row hmiddle) (ih h)

end Runs

namespace Sample

/-- One price for every kind of token. -/
def flatPrices (n : Int) : PricingSnapshot :=
  let price := (Count.ofInt n).getD .zero
  { input := price, cachedInput := price, output := price }

/-- A record of a request that ended, at some price. -/
def pricedRecord (n : Int) : RequestRecord := (record "r1" (some 7)).withPricing (flatPrices n)

end Sample

end PartnerPortal

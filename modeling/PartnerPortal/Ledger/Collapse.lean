import PartnerPortal.Ledger.Requests

/-!
# Skipping superseded accepts

A flush skips the accept of a request that the same batch finalizes.  The row is then inserted by
the finalize, from the data the finalize carries.

Results:
- `RowsMatch.step` — what relates a request's rows with and without the skip, write by write;
- `collapse_pure_iff` — the skip makes no difference exactly when the skipped accepts say nothing
  the finalizes do not say;
- `price_lost_to_collapse` — a price only the accept carries is lost.
-/

namespace PartnerPortal

/-! ## The batch without the skip -/

/-- Every write of a batch in order, none skipped. -/
def applyAll (iso : Iso8601) (instanceId : Option String) (batch : List PendingWrite)
    (ledger : Ledger) : Except LedgerError Ledger :=
  batch.foldlM (applyOne iso instanceId) ledger

/-- The same row, up to its key, under every request id, and the same rollup. -/
structure Ledger.SameTables (ledger ledger' : Ledger) : Prop where
  records : ∀ requestId, (ledger.find requestId).map UsageRow.columns =
    (ledger'.find requestId).map UsageRow.columns
  hourly : ledger.hourly = ledger'.hourly

/-! ## What a skipped accept must agree with -/

/-- The write a batch opens a request with. -/
def firstWrite (requestId : String) (batch : List PendingWrite) : Option PendingWrite :=
  batch.find? fun pending => pending.requestId = some requestId

/-- The record of a write that finalizes the request. -/
def PendingWrite.finalizes (requestId : String) : PendingWrite → Option RequestRecord
  | .finalize record => if record.requestId = requestId then some record else none
  | _ => none

def firstFinalize (requestId : String) (batch : List PendingWrite) : Option RequestRecord :=
  batch.findSome? (PendingWrite.finalizes requestId)

/-- Two records of a request open its row alike, prices aside. -/
structure RequestRecord.OpensLike (record other : RequestRecord) : Prop where
  createdAt : record.createdAt = other.createdAt
  consumerId : record.consumerId = other.consumerId
  model : record.model = other.model
  endpoint : record.endpoint = other.endpoint

/-- A batch that opens the request with an accept and finalizes it opens it alike both times, and
does not leave the prices to the accept. -/
def Collapsible (requestId : String) (batch : List PendingWrite) : Prop :=
  ∀ accept first, firstWrite requestId batch = some (.accept accept) →
    firstFinalize requestId batch = some first →
      accept.OpensLike first ∧
        (accept.pricing = none ∨ ∃ pending ∈ batch, pending.Reprices requestId)

section Batches

variable {requestId : String} {batch rest : List PendingWrite} {pending : PendingWrite}

theorem firstWrite_cons_of_ne (h : pending.requestId ≠ some requestId) :
    firstWrite requestId (pending :: rest) = firstWrite requestId rest := by
  simp [firstWrite, h]

theorem finalizes_of_ne (h : pending.requestId ≠ some requestId) :
    pending.finalizes requestId = none := by
  cases pending with
  | finalize record => simpa [PendingWrite.finalizes, PendingWrite.requestId] using h
  | accept _ | barrier => rfl

theorem firstFinalize_cons_of_none (h : pending.finalizes requestId = none) :
    firstFinalize requestId (pending :: rest) = firstFinalize requestId rest := by
  simp [firstFinalize, h]

theorem reprices_of_ne (h : pending.requestId ≠ some requestId) : ¬ pending.Reprices requestId := by
  cases pending with
  | finalize record => exact fun hreprices => h (congrArg some (reprices_finalize_iff.1 hreprices).1)
  | accept record => exact not_reprices_accept requestId record
  | barrier => simp [PendingWrite.Reprices, PendingWrite.prices]

theorem exists_reprices_cons (h : ¬ pending.Reprices requestId) :
    (∃ p ∈ pending :: rest, p.Reprices requestId) ↔ ∃ p ∈ rest, p.Reprices requestId := by
  simp [h]

theorem mem_finalizedIds_iff :
    requestId ∈ finalizedIds batch ↔ ∃ first, firstFinalize requestId batch = some first := by
  induction batch with
  | nil => simp [finalizedIds, firstFinalize]
  | cons pending rest ih =>
    cases hfinalizes : pending.finalizes requestId with
    | some record =>
      cases pending with
      | finalize finalized =>
        have hid : finalized.requestId = requestId := by
          by_contra hne
          simp [PendingWrite.finalizes, hne] at hfinalizes
        simp [finalizedIds, firstFinalize, hfinalizes, hid]
      | accept _ | barrier => cases hfinalizes
    | none =>
      rw [firstFinalize_cons_of_none hfinalizes, ← ih]
      cases pending with
      | finalize finalized =>
        have hid : requestId ≠ finalized.requestId := fun heq => by
          simp [PendingWrite.finalizes, heq] at hfinalizes
        simp [finalizedIds, hid]
      | accept _ | barrier => simp [finalizedIds]

theorem firstFinalize_mem {first : RequestRecord} (h : firstFinalize requestId batch = some first) :
    .finalize first ∈ batch ∧ first.requestId = requestId := by
  obtain ⟨pending, hmem, hpending⟩ := List.exists_of_findSome?_eq_some h
  cases pending with
  | finalize record =>
    obtain ⟨hid, rfl⟩ : record.requestId = requestId ∧ record = first := by
      simpa [PendingWrite.finalizes] using hpending
    exact ⟨hmem, hid⟩
  | accept _ | barrier => cases hpending

theorem Collapsible.tail (hne : pending.requestId ≠ some requestId)
    (h : Collapsible requestId (pending :: rest)) : Collapsible requestId rest := by
  intro accept first hwrite hfinalize
  rw [← exists_reprices_cons (reprices_of_ne hne)]
  exact h accept first ((firstWrite_cons_of_ne hne).trans hwrite)
    ((firstFinalize_cons_of_none (finalizes_of_ne hne)).trans hfinalize)

end Batches

/-! ## Rows side by side -/

theorem updatedRow_unpriced {row row' : UsageRow} (h : row.unpriced = row'.unpriced)
    (record : RequestRecord) (figures : Figures) :
    (updatedRow row record figures).unpriced = (updatedRow row' record figures).unpriced := by
  cases row
  cases row'
  simp only [UsageRow.unpriced, UsageRow.mk.injEq] at h
  simp [updatedRow, UsageRow.unpriced, h]

/-- A finalize of an accepted row leaves what a finalize alone inserts, prices aside. -/
theorem updated_accepted_unpriced {accept record : RequestRecord} (h : accept.OpensLike record)
    (hid : accept.requestId = record.requestId) (id id' : Nat) (instanceId : Option String)
    (figures : Figures) :
    (insertedRow id record instanceId figures).unpriced =
      (updatedRow (acceptedRow id' accept instanceId) record figures).unpriced := by
  simp [insertedRow, updatedRow, acceptedRow, UsageRow.unpriced, h.createdAt, h.consumerId,
    h.model, h.endpoint, hid]

/-- The rows of a request with the skip and without, while `rest` is still to be written. -/
inductive RowsMatch (instanceId : Option String) (finalized : List String) (requestId : String)
    (rest : List PendingWrite) : Option UsageRow → Option UsageRow → Prop
  /-- no write of the request yet -/
  | unopened (hopen : Collapsible requestId rest)
      (hfinalized : requestId ∈ finalized → requestId ∈ finalizedIds rest) :
      RowsMatch instanceId finalized requestId rest none none
  /-- the accept was skipped, and the finalize is still to come -/
  | waiting {accept first : RequestRecord} (id : Nat) (hid : accept.requestId = requestId)
      (hskip : requestId ∈ finalized) (hfirst : firstFinalize requestId rest = some first)
      (hopens : accept.OpensLike first)
      (hprices : accept.pricing = none ∨ ∃ pending ∈ rest, pending.Reprices requestId) :
      RowsMatch instanceId finalized requestId rest none
        (some (acceptedRow id accept instanceId))
  | found {row row' : UsageRow} (hunpriced : row.unpriced = row'.unpriced)
      (hprices : row.prices = row'.prices ∨ ∃ pending ∈ rest, pending.Reprices requestId) :
      RowsMatch instanceId finalized requestId rest (some row) (some row')

section Match

variable {instanceId : Option String} {finalized : List String} {requestId : String}
  {pending : PendingWrite} {rest : List PendingWrite}
  {row row' next next' : Option UsageRow}

/-- Writes of other requests pass by. -/
theorem RowsMatch.other (hne : pending.requestId ≠ some requestId)
    (h : RowsMatch instanceId finalized requestId (pending :: rest) row row') :
    RowsMatch instanceId finalized requestId rest row row' := by
  have hreprices := @exists_reprices_cons requestId rest pending (reprices_of_ne hne)
  have hfirst := @firstFinalize_cons_of_none requestId rest pending (finalizes_of_ne hne)
  cases h with
  | unopened hopen hfinalized =>
    refine .unopened (hopen.tail hne) fun hin => ?_
    obtain ⟨first, hsome⟩ := mem_finalizedIds_iff.1 (hfinalized hin)
    exact mem_finalizedIds_iff.2 ⟨first, hfirst.symm.trans hsome⟩
  | waiting id hid hskip hsome hopens hprices =>
    exact .waiting id hid hskip (hfirst.symm.trans hsome) hopens (hprices.imp_right hreprices.1)
  | found hunpriced hprices => exact .found hunpriced (hprices.imp_right hreprices.1)

theorem RowsMatch.accept {record : RequestRecord} (hid : record.requestId = requestId)
    (h : RowsMatch instanceId finalized requestId (.accept record :: rest) row row')
    (hstep : RowStep instanceId finalized requestId (.accept record) row next)
    (hstep' : RowStep instanceId [] requestId (.accept record) row' next') :
    RowsMatch instanceId finalized requestId rest next next' := by
  have hreprices := @exists_reprices_cons requestId rest (.accept record)
    (not_reprices_accept requestId record)
  have hfirst : firstFinalize requestId (.accept record :: rest) = firstFinalize requestId rest :=
    firstFinalize_cons_of_none rfl
  cases h with
  | unopened hopen hfinalized =>
    cases hstep' with
    | other hother => exact absurd (congrArg some hid) hother
    | skipped _ hskip => exact absurd hskip List.not_mem_nil
    | accepted id' _ _ =>
      cases hstep with
      | other hother => exact absurd (congrArg some hid) hother
      | skipped _ hskip =>
        -- the accept opens the request, and a finalize of it follows
        obtain ⟨first, hsome⟩ := mem_finalizedIds_iff.1 (hfinalized hskip)
        have hwrite : firstWrite requestId (.accept record :: rest) = some (.accept record) := by
          simp [firstWrite, PendingWrite.requestId, hid]
        obtain ⟨hopens, hprices⟩ := hopen record first hwrite hsome
        exact .waiting id' hid hskip (hfirst.symm.trans hsome) hopens (hprices.imp_right hreprices.1)
      | accepted id _ _ => exact .found rfl (.inl rfl)
  | waiting id hid' hskip hsome hopens hprices =>
    cases hstep' with
    | other hother => exact absurd (congrArg some hid) hother
    | skipped | ignored =>
      cases hstep with
      | other hother => exact absurd (congrArg some hid) hother
      | skipped =>
        exact .waiting id hid' hskip (hfirst.symm.trans hsome) hopens
          (hprices.imp_right hreprices.1)
      | accepted _ _ hnot => exact absurd hskip hnot
  | found hunpriced hprices =>
    cases hstep' <;> cases hstep <;> exact .found hunpriced (hprices.imp_right hreprices.1)

/-- A finalize without prices leaves them to later ones. -/
theorem exists_reprices_of_unpriced {record : RequestRecord} (h : record.pricing = none)
    (hreprices : ∃ p ∈ PendingWrite.finalize record :: rest, p.Reprices requestId) :
    ∃ p ∈ rest, p.Reprices requestId :=
  (exists_reprices_cons fun hboth => by
    have hpriced := (reprices_finalize_iff.1 hboth).2
    rw [h] at hpriced
    cases hpriced).1 hreprices

theorem RowsMatch.updated {record : RequestRecord} {x y : UsageRow}
    (hunpriced : x.unpriced = y.unpriced)
    (hprices : x.prices = y.prices ∨
      ∃ p ∈ PendingWrite.finalize record :: rest, p.Reprices requestId) (figures : Figures) :
    RowsMatch instanceId finalized requestId rest (some (updatedRow x record figures))
      (some (updatedRow y record figures)) := by
  refine .found (updatedRow_unpriced hunpriced record figures) ?_
  rw [updatedRow_prices, updatedRow_prices]
  cases hpricing : record.pricing with
  | some _ => exact .inl rfl
  | none => exact hprices.imp_right (exists_reprices_of_unpriced hpricing)

theorem RowsMatch.finalize {record : RequestRecord} (hid : record.requestId = requestId)
    (h : RowsMatch instanceId finalized requestId (.finalize record :: rest) row row')
    (hstep : RowStep instanceId finalized requestId (.finalize record) row next)
    (hstep' : RowStep instanceId [] requestId (.finalize record) row' next') :
    RowsMatch instanceId finalized requestId rest next next' := by
  cases h with
  | unopened hopen hfinalized =>
    cases hstep with
    | other hother => exact absurd (congrArg some hid) hother
    | @inserted _ figures _ _ hfigures =>
      cases hstep' with
      | other hother => exact absurd (congrArg some hid) hother
      | inserted _ _ hfigures' =>
        rw [Except.ok.inj (hfigures.symm.trans hfigures')]
        exact .found rfl (.inl rfl)
  | @waiting accept first id hid' hskip hsome hopens hprices =>
    -- this is the finalize the skipped accept waited for
    have hfirst : firstFinalize requestId (.finalize record :: rest) = some record := by
      simp [firstFinalize, PendingWrite.finalizes, hid]
    have heq : first = record := Option.some.inj (hsome.symm.trans hfirst)
    subst heq
    cases hstep with
    | other hother => exact absurd (congrArg some hid) hother
    | @inserted _ figures id' _ hfigures =>
      cases hstep' with
      | other hother => exact absurd (congrArg some hid) hother
      | updated _ hfigures' =>
        rw [Except.ok.inj (hfigures.symm.trans hfigures')]
        refine .found (updated_accepted_unpriced hopens (hid'.trans hid.symm) _ _ _ _) ?_
        rw [updatedRow_prices]
        cases hpricing : first.pricing with
        | some _ => exact .inl rfl
        | none =>
          refine hprices.imp (fun hnone => ?_) (exists_reprices_of_unpriced hpricing)
          simp [insertedRow, acceptedRow, UsageRow.prices, RequestRecord.priceColumns, hpricing,
            hnone]
  | found hunpriced hprices =>
    cases hstep with
    | other hother => exact absurd (congrArg some hid) hother
    | updated _ hfigures =>
      cases hstep' with
      | other hother => exact absurd (congrArg some hid) hother
      | updated _ hfigures' =>
        rw [Except.ok.inj (hfigures.symm.trans hfigures')]
        exact .updated hunpriced hprices _

/-- One write keeps the rows of a request related. -/
theorem RowsMatch.step
    (h : RowsMatch instanceId finalized requestId (pending :: rest) row row')
    (hstep : RowStep instanceId finalized requestId pending row next)
    (hstep' : RowStep instanceId [] requestId pending row' next') :
    RowsMatch instanceId finalized requestId rest next next' := by
  by_cases hid : pending.requestId = some requestId
  · cases pending with
    | accept record => exact h.accept (Option.some.inj hid) hstep hstep'
    | finalize record => exact h.finalize (Option.some.inj hid) hstep hstep'
    | barrier => cases hid
  · have hkeep : ∀ {skipped : List String} {x y : Option UsageRow},
        RowStep instanceId skipped requestId pending x y → y = x := by
      intro skipped x y hxy
      cases hxy with
      | other | skipped | ignored => rfl
      | accepted _ heq | inserted _ heq | updated heq => exact absurd (congrArg some heq) hid
    rw [hkeep hstep, hkeep hstep']
    exact h.other hid

/-- Once everything is written, the rows are the same up to their keys. -/
theorem RowsMatch.columns (h : RowsMatch instanceId finalized requestId [] row row') :
    row.map UsageRow.columns = row'.map UsageRow.columns := by
  cases h with
  | unopened => rfl
  | waiting _ _ _ hfirst => cases hfirst
  | found hunpriced hprices =>
    have hsame := hprices.resolve_right fun ⟨_, hmem, _⟩ => List.not_mem_nil hmem
    exact congrArg some (UsageRow.columns_eq_iff.2 ⟨hunpriced, hsame⟩)

end Match

/-! ## Ledgers side by side -/

section Finalize

variable {iso : Iso8601} {instanceId : Option String} {record : RequestRecord} {ledger : Ledger}
  {figures : Figures}

theorem finalizeRecord_updated {existing : UsageRow} {stored : StoredRow}
    (hfind : ledger.find record.requestId = some existing)
    (hstored : storedRow iso existing = .ok stored) (hfigures : bindFigures record = .ok figures) :
    finalizeRecord iso instanceId record ledger =
      .ok (((ledger.update record.requestId fun row =>
        updatedRow row record figures).retractStored stored).add
          (Contribution.terminal record (BucketKey.fromRecord record))) := by
  simp [finalizeRecord, hfind, hstored, hfigures, orSqlite, Except.mapError]

theorem finalizeRecord_inserted (hfind : ledger.find record.requestId = none)
    (hfigures : bindFigures record = .ok figures) :
    finalizeRecord iso instanceId record ledger =
      .ok ((ledger.insert (insertedRow ledger.nextRecordId record instanceId figures)).add
        (Contribution.terminal record (BucketKey.fromRecord record))) := by
  simp [finalizeRecord, hfind, hfigures, orSqlite, Except.mapError]

theorem storedRow_congr {row row' : UsageRow} (h : row.unpriced = row'.unpriced) :
    storedRow iso row = storedRow iso row' := by
  have hunpriced : ∀ x : UsageRow, storedRow iso x.unpriced = storedRow iso x := fun _ => rfl
  rw [← hunpriced row, h, hunpriced]

/-- An accepted row was never rolled up. -/
theorem storedRow_accepted (id : Nat) (accept : RequestRecord) :
    ∃ stored, storedRow iso (acceptedRow id accept instanceId) = .ok stored ∧
      stored.contributes = none :=
  ⟨_, storedRow_formatInstant rfl iso, rfl⟩

end Finalize

theorem hourly_add_congr {ledger ledger' : Ledger} (h : ledger.hourly = ledger'.hourly)
    (x : Contribution) : (ledger.add x).hourly = (ledger'.add x).hourly :=
  congrArg x.add h

theorem hourly_retractStored_congr {ledger ledger' : Ledger} (h : ledger.hourly = ledger'.hourly)
    (stored : StoredRow) :
    (ledger.retractStored stored).hourly = (ledger'.retractStored stored).hourly := by
  unfold Ledger.retractStored
  split
  · rename_i previous _
    exact congrArg previous.retract h
  · exact h

theorem insertAccept_hourly (instanceId : Option String) (record : RequestRecord)
    (ledger : Ledger) : (insertAccept instanceId record ledger).hourly = ledger.hourly := by
  unfold insertAccept
  split <;> rfl

/-- The ledgers with the skip and without, while `rest` is still to be written. -/
structure Lockstep (instanceId : Option String) (finalized : List String)
    (rest : List PendingWrite) (ledger ledger' : Ledger) : Prop where
  rows : ∀ requestId, RowsMatch instanceId finalized requestId rest (ledger.find requestId)
    (ledger'.find requestId)
  hourly : ledger.hourly = ledger'.hourly

section Lockstep

variable {iso : Iso8601} {instanceId : Option String} {finalized : List String}
  {pending : PendingWrite} {rest : List PendingWrite}

/-- Where the finalize of a skipped accept succeeds, so does the finalize of the accepted row, and
the rollup moves alike. -/
theorem Lockstep.finalize {record : RequestRecord} {ledger ledger' written : Ledger}
    (h : Lockstep instanceId finalized (.finalize record :: rest) ledger ledger')
    (hwritten : finalizeRecord iso instanceId record ledger = .ok written) :
    ∃ written', finalizeRecord iso instanceId record ledger' = .ok written' ∧
      written.hourly = written'.hourly := by
  obtain ⟨figures, hfigures, hdone⟩ := finalizeRecord_ok hwritten
  have hrows := h.rows record.requestId
  generalize hfind' : ledger'.find record.requestId = row' at hrows
  cases hdone with
  | inserted hfind =>
    rw [hfind] at hrows
    cases hrows with
    | unopened =>
      exact ⟨_, finalizeRecord_inserted hfind' hfigures, hourly_add_congr h.hourly _⟩
    | waiting id =>
      obtain ⟨stored, hstored, hnone⟩ := @storedRow_accepted iso instanceId id _
      refine ⟨_, finalizeRecord_updated hfind' hstored hfigures, hourly_add_congr ?_ _⟩
      rw [Ledger.retractStored, hnone]
      exact h.hourly
  | updated hfind hstored =>
    rw [hfind] at hrows
    cases hrows with
    | found hunpriced =>
      refine ⟨_, finalizeRecord_updated hfind' ((storedRow_congr hunpriced).symm.trans hstored)
        hfigures, hourly_add_congr ?_ _⟩
      exact hourly_retractStored_congr (by exact h.hourly) _

theorem Lockstep.step {state next : Ledger × Nat} {ledger' : Ledger}
    (h : Lockstep instanceId finalized (pending :: rest) state.1 ledger')
    (hnext : flushOne iso instanceId finalized state pending = .ok next) :
    ∃ next', applyOne iso instanceId ledger' pending = .ok next' ∧
      Lockstep instanceId finalized rest next.1 next' := by
  have happly : ∃ next', applyOne iso instanceId ledger' pending = .ok next' ∧
      next.1.hourly = next'.hourly := by
    cases pending with
    | barrier =>
      cases hnext
      exact ⟨ledger', rfl, h.hourly⟩
    | accept record =>
      refine ⟨_, rfl, ?_⟩
      rw [insertAccept_hourly, ← h.hourly]
      simp only [flushOne] at hnext
      split at hnext
      · cases hnext
        rfl
      · cases hnext
        exact insertAccept_hourly instanceId record state.1
    | finalize record =>
      obtain ⟨written, hwritten, hnext⟩ := Result.bind_ok_iff.1 hnext
      cases hnext
      exact h.finalize hwritten
  obtain ⟨next', hnext', hhourly⟩ := happly
  exact ⟨next', hnext', fun requestId =>
    (h.rows requestId).step (flushOne_row hnext) (applyOne_row hnext'), hhourly⟩

theorem Lockstep.run {batch : List PendingWrite} {state next : Ledger × Nat} {ledger' : Ledger}
    (h : Lockstep instanceId finalized batch state.1 ledger')
    (hnext : batch.foldlM (flushOne iso instanceId finalized) state = .ok next) :
    ∃ next', applyAll iso instanceId batch ledger' = .ok next' ∧ next.1.SameTables next' := by
  induction batch generalizing state ledger' with
  | nil =>
    cases hnext
    exact ⟨ledger', rfl, fun requestId => (h.rows requestId).columns, h.hourly⟩
  | cons pending rest ih =>
    rw [List.foldlM_cons] at hnext
    obtain ⟨middle, hmiddle, hnext⟩ := Result.bind_ok_iff.1 hnext
    obtain ⟨middle', hmiddle', hlockstep⟩ := h.step hmiddle
    obtain ⟨next', hnext', hsame⟩ := ih hlockstep hnext
    refine ⟨next', ?_, hsame⟩
    rw [applyAll, List.foldlM_cons, hmiddle', Result.ok_bind]
    exact hnext'

theorem apply_row {requestId : String} {batch : List PendingWrite} {ledger last : Ledger}
    (h : applyAll iso instanceId batch ledger = .ok last) :
    RowRun instanceId [] requestId batch (ledger.find requestId) (last.find requestId) := by
  induction batch generalizing ledger with
  | nil =>
    cases h
    exact .nil _
  | cons pending rest ih =>
    rw [applyAll, List.foldlM_cons] at h
    obtain ⟨middle, hmiddle, h⟩ := Result.bind_ok_iff.1 h
    exact .cons (applyOne_row hmiddle) (ih h)

end Lockstep

/-! ## The whole batch -/

section Batch

variable {iso : Iso8601} {instanceId : Option String} {requestId : String}
  {batch : List PendingWrite} {last : Option UsageRow}

/-- Without the skip a request opened by an accept has the row of that accept. -/
theorem RowRun.opened_by_accept {accept : RequestRecord}
    (h : RowRun instanceId [] requestId batch none last)
    (hwrite : firstWrite requestId batch = some (.accept accept)) :
    ∃ id row, last = some row ∧ (acceptedRow id accept instanceId).Continues row ∧
      ((∀ pending ∈ batch, ¬ pending.Reprices requestId) → row.prices = accept.priceColumns) := by
  obtain ⟨hid, front, back, hbatch, hfront⟩ := List.find?_eq_some_iff_append.1 hwrite
  have hid : some accept.requestId = some requestId := of_decide_eq_true hid
  subst hbatch
  obtain ⟨middle, hrun, hback⟩ := RowRun.append_iff.1 h
  have hnone := hrun.eq_none fun pending hpending hsame => by
    have hother := hfront pending hpending
    simp [hsame] at hother
  subst hnone
  cases hback with
  | cons hstep hrest =>
    cases hstep with
    | other hother => exact absurd hid hother
    | skipped _ hskip => exact absurd hskip List.not_mem_nil
    | accepted id =>
      obtain ⟨row, rfl, hcontinues, hprices⟩ := hrest.continues
      refine ⟨id, row, rfl, hcontinues, fun hnone => ?_⟩
      exact hprices fun p hp => hnone p (List.mem_append_right front (List.mem_cons_of_mem _ hp))

/-- With the skip a request that the batch finalizes has the row of its first finalize. -/
theorem RowRun.opened_by_finalize {first : RequestRecord}
    (h : RowRun instanceId (finalizedIds batch) requestId batch none last)
    (hfirst : firstFinalize requestId batch = some first) :
    ∃ id figures row, last = some row ∧
      (insertedRow id first instanceId figures).Continues row ∧
      ((∀ pending ∈ batch, ¬ pending.Reprices requestId) → row.prices = first.priceColumns) := by
  have hskip : requestId ∈ finalizedIds batch := mem_finalizedIds_iff.2 ⟨first, hfirst⟩
  generalize finalizedIds batch = finalized at h hskip
  obtain ⟨front, pending, back, hbatch, hpending, hfront⟩ := List.findSome?_eq_some_iff.1 hfirst
  cases pending with
  | accept _ | barrier => cases hpending
  | finalize record =>
    obtain ⟨hid, hrecord⟩ : record.requestId = requestId ∧ record = first := by
      simpa [PendingWrite.finalizes] using hpending
    subst hrecord
    subst hbatch
    obtain ⟨middle, hrun, hback⟩ := RowRun.append_iff.1 h
    -- until the first finalize there are only accepts, and those are skipped
    have hnone := hrun.eq_none fun p hp hsame => by
      refine ⟨hskip, ?_⟩
      have hother := hfront p hp
      cases p with
      | accept accept => exact ⟨accept, rfl⟩
      | finalize other => simp [PendingWrite.finalizes, Option.some.inj hsame] at hother
      | barrier => cases hsame
    subst hnone
    cases hback with
    | cons hstep hrest =>
      cases hstep with
      | other hother => exact absurd (congrArg some hid) hother
      | @inserted _ figures id _ hfigures =>
        obtain ⟨row, rfl, hcontinues, hprices⟩ := hrest.continues
        refine ⟨id, figures, row, rfl, hcontinues, fun hnone => ?_⟩
        exact hprices fun p hp =>
          hnone p (List.mem_append_right front (List.mem_cons_of_mem _ hp))

/-- Committing a batch with the skip leaves what every write in order would exactly when each
request that is new to the ledger is collapsible. -/
theorem collapse_pure_iff {fault : Option SqliteError} {ledger committed : Ledger} {n : Nat}
    (h : tryFlush iso instanceId fault batch ledger = .ok (committed, n)) :
    (∃ reference, applyAll iso instanceId batch ledger = .ok reference ∧
      committed.SameTables reference) ↔
    ∀ requestId, ledger.find requestId = none → Collapsible requestId batch := by
  unfold tryFlush at h
  split at h
  · cases h
  constructor
  · rintro ⟨reference, hreference, hsame⟩ requestId hfind accept first hwrite hfirst
    -- one run opens the row with the finalize, the other with the accept
    have hrun := @flush_row iso instanceId (finalizedIds batch) requestId batch _ _ h
    have hrun' := @apply_row iso instanceId requestId batch _ _ hreference
    rw [hfind] at hrun hrun'
    obtain ⟨id, figures, row, hrow, hcontinues, hprices⟩ := hrun.opened_by_finalize hfirst
    obtain ⟨id', row', hrow', hcontinues', hprices'⟩ := hrun'.opened_by_accept hwrite
    have heq := hsame.records requestId
    dsimp only at hrow
    rw [hrow, hrow', Option.map_some, Option.map_some] at heq
    have hcolumns := Option.some.inj heq
    refine ⟨⟨?_, ?_, ?_, ?_⟩, ?_⟩
    · exact formatInstant_injective (hcontinues'.createdAt.symm.trans
        ((congrArg UsageRow.createdAt hcolumns).symm.trans hcontinues.createdAt))
    · exact hcontinues'.consumerId.symm.trans
        ((congrArg UsageRow.consumerId hcolumns).symm.trans hcontinues.consumerId)
    · exact hcontinues'.model.symm.trans
        ((congrArg UsageRow.model hcolumns).symm.trans hcontinues.model)
    · exact hcontinues'.endpoint.symm.trans
        ((congrArg UsageRow.endpoint hcolumns).symm.trans hcontinues.endpoint)
    · by_cases hreprices : ∃ pending ∈ batch, pending.Reprices requestId
      · exact .inr hreprices
      · -- neither row was priced after it was opened, so the accept has the prices of the finalize
        have hnone : ∀ pending ∈ batch, ¬ pending.Reprices requestId :=
          fun pending hp hpending => hreprices ⟨pending, hp, hpending⟩
        obtain ⟨hmem, hid⟩ := firstFinalize_mem hfirst
        have hunpriced : first.pricing = none :=
          Option.not_isSome_iff_eq_none.1 fun hsome => hnone _ hmem (reprices_finalize_iff.2 ⟨hid, hsome⟩)
        have hcolumnsEq : accept.priceColumns = first.priceColumns := by
          rw [← hprices' hnone, ← hprices hnone]
          exact (UsageRow.columns_eq_iff.1 hcolumns).2.symm
        have hinput := congrArg Prod.fst hcolumnsEq
        simp only [RequestRecord.priceColumns, hunpriced, Option.map_none] at hinput
        exact .inl (Option.map_eq_none_iff.1 hinput)
  · intro hcollapsible
    have hstart : Lockstep instanceId (finalizedIds batch) batch ledger ledger := by
      refine ⟨fun requestId => ?_, rfl⟩
      cases hfind : ledger.find requestId with
      | none => exact .unopened (hcollapsible requestId hfind) id
      | some row => exact .found rfl (.inl rfl)
    exact hstart.run h

end Batch

namespace Sample

/-- An accept at a price, and a finalize that may carry it too. -/
def acceptFinalize (finalize : RequestRecord) : List PendingWrite :=
  [.accept (pricedRecord 95000), .finalize finalize]

/-- The tables after the batch was flushed into an empty ledger. -/
def flushed (finalize : RequestRecord) : Ledger × Nat :=
  match tryFlush iso none none (acceptFinalize finalize) emptyLedger with
  | .ok result => result
  | .error _ => (emptyLedger, 0)

theorem tryFlush_acceptFinalize {finalize : RequestRecord} (h : finalize.Storable) :
    tryFlush iso none none (acceptFinalize finalize) emptyLedger =
      .ok ((flushed finalize).1, (flushed finalize).2) := by
  have hstamped : emptyLedger.Stamped := fun _ hrow => absurd hrow List.not_mem_nil
  obtain ⟨result, hresult⟩ :=
    (@tryFlush_isOk_iff iso none (acceptFinalize finalize) emptyLedger hstamped).2 <| by
      intro record hmem
      simp only [acceptFinalize, List.mem_cons, PendingWrite.finalize.injEq, reduceCtorEq,
        List.not_mem_nil, or_false, false_or] at hmem
      exact hmem ▸ h
  rw [flushed, hresult]

end Sample

theorem collapse_pure_sample :
    (∃ reference,
      applyAll Sample.iso none (Sample.acceptFinalize (Sample.pricedRecord 95000))
        Sample.emptyLedger = .ok reference ∧
      (Sample.flushed (Sample.pricedRecord 95000)).1.SameTables reference) ↔
    ∀ requestId, Sample.emptyLedger.find requestId = none →
      Collapsible requestId (Sample.acceptFinalize (Sample.pricedRecord 95000)) :=
  collapse_pure_iff (Sample.tryFlush_acceptFinalize ⟨by decide, by decide, by decide, by decide⟩)

/-- A request accepted at a price and finalized in the same batch by a record without one: the row
keeps the price if the accept is written, and has none if it is skipped. -/
theorem price_lost_to_collapse :
    ∃ committed reference n,
      tryFlush Sample.iso none none (Sample.acceptFinalize (Sample.record "r1" (some 7)))
        Sample.emptyLedger = .ok (committed, n) ∧
      applyAll Sample.iso none (Sample.acceptFinalize (Sample.record "r1" (some 7)))
        Sample.emptyLedger = .ok reference ∧
      (committed.find "r1").map UsageRow.prices = some (none, none, none) ∧
      (reference.find "r1").map UsageRow.prices =
        some (some (Sample.flatPrices 95000).input, some (Sample.flatPrices 95000).cachedInput,
          some (Sample.flatPrices 95000).output) ∧
      ¬ committed.SameTables reference := by
  have hflush : ((tryFlush Sample.iso none none
      (Sample.acceptFinalize (Sample.record "r1" (some 7))) Sample.emptyLedger).map
        fun result => (result.1.find "r1").map UsageRow.prices) =
      .ok (some (none, none, none)) := by
    decide +kernel
  have happly : ((applyAll Sample.iso none
      (Sample.acceptFinalize (Sample.record "r1" (some 7))) Sample.emptyLedger).map
        fun ledger => (ledger.find "r1").map UsageRow.prices) =
      .ok (some (some (Sample.flatPrices 95000).input, some (Sample.flatPrices 95000).cachedInput,
        some (Sample.flatPrices 95000).output)) := by
    decide +kernel
  cases htry : tryFlush Sample.iso none none
      (Sample.acceptFinalize (Sample.record "r1" (some 7))) Sample.emptyLedger with
  | error e =>
    rw [htry] at hflush
    cases hflush
  | ok result =>
    cases hall : applyAll Sample.iso none
        (Sample.acceptFinalize (Sample.record "r1" (some 7))) Sample.emptyLedger with
    | error e =>
      rw [hall] at happly
      cases happly
    | ok reference =>
      rw [htry] at hflush
      rw [hall] at happly
      have hcommitted : (result.1.find "r1").map UsageRow.prices = _ := Except.ok.inj hflush
      have hreference : (reference.find "r1").map UsageRow.prices = _ := Except.ok.inj happly
      refine ⟨result.1, reference, result.2, rfl, rfl, hcommitted, hreference, fun hsame => ?_⟩
      -- the prices are columns of the row
      have hcolumns := congrArg (Option.map UsageRow.prices) (hsame.records "r1")
      have hprices : ∀ row : Option UsageRow, (row.map UsageRow.columns).map UsageRow.prices =
          row.map UsageRow.prices := by
        rintro (_ | row) <;> rfl
      rw [hprices, hprices, hcommitted, hreference] at hcolumns
      cases hcolumns

end PartnerPortal

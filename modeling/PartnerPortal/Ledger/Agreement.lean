import PartnerPortal.Ledger.Recovery

/-!
# Raw rows and their rollup

Accepting, finalizing and recovering requests keep `usage_hourly` equal to what the terminal rows of
`usage_records` contribute, however often a request is finalized and whatever it is corrected to.

Results:
- `LedgerRun.invariant` — what every reachable ledger satisfies;
- `rollup_agrees` — a bucket exists exactly where a terminal row has its key, and its counters are
  the sums over those rows.
-/

namespace PartnerPortal

open MachineInt

/-- What the rows of a ledger contribute. -/
def Ledger.contributions (iso : Iso8601) (ledger : Ledger) : List Contribution :=
  ledger.records.filterMap (contributionOf iso)

/-- The same, as the items of a running sum. -/
def Ledger.items (iso : Iso8601) (ledger : Ledger) :
    List (RunningSum.Item BucketKey Counter) :=
  (ledger.contributions iso).map Contribution.item

/-- Every counter's sum over the rows of a bucket is a stored integer. -/
def Ledger.SumsFit (iso : Iso8601) (ledger : Ledger) : Prop :=
  ∀ key c, FitsI64 (RunningSum.sumOf (ledger.items iso) key c)

/-- A finalize carries what the row already stored under its id was accepted with. -/
def SameRequest (record : RequestRecord) (ledger : Ledger) : Prop :=
  ∀ row ∈ ledger.records, row.requestId = record.requestId →
    row.createdAt = formatInstant record.createdAt ∧ row.consumerId = record.consumerId ∧
      row.model = record.model ∧ row.endpoint = record.endpoint

/-- The ledgers reached from an empty one by committed transactions of any instance, as long as
durations and sums fit their columns. -/
inductive LedgerRun (iso : Iso8601) : Ledger → Prop
  | empty {ledger : Ledger} (hrecords : ledger.records = []) (hhourly : ledger.hourly = []) :
      LedgerRun iso ledger
  | accept {ledger : Ledger} (instanceId : Option String) (record : RequestRecord)
      (hrun : LedgerRun iso ledger) : LedgerRun iso (insertAccept instanceId record ledger)
  | finalize {ledger written : Ledger} (instanceId : Option String) (record : RequestRecord)
      (hrun : LedgerRun iso ledger) (hterminal : record.requestStatus.isTerminal)
      (hsame : SameRequest record ledger) (hduration : (record.durationMs.toNat : Int) ≤ i64Max)
      (hfinalize : finalizeRecord iso instanceId record ledger = .ok written)
      (hfits : written.SumsFit iso) : LedgerRun iso written
  | recover {ledger written : Ledger} (ctx : RecoveryContext) {report : RecoveryReport}
      {swept : List String} (hrun : LedgerRun iso ledger)
      (hrecover : recoverInTx iso ctx ledger = .ok (written, report, swept))
      (hfits : written.SumsFit iso) : LedgerRun iso written
  | register {ledger : Ledger} (instances : List String) (hrun : LedgerRun iso ledger) :
      LedgerRun iso { ledger with instances := instances }

/-- What every reachable ledger satisfies. -/
structure RollupInvariant (iso : Iso8601) (ledger : Ledger) : Prop where
  stamped : ledger.Stamped
  ids : (ledger.records.map UsageRow.requestId).Nodup
  bare : ∀ row ∈ ledger.records, row.requestStatus = .inFlight → row.inputTokens = none ∧
    row.outputTokens = none ∧ row.cachedTokens = none ∧ row.ttftMs = none
  durations : ∀ row ∈ ledger.records, 0 ≤ row.durationMs
  agrees : RunningSum.Agrees ledger.hourly (ledger.items iso)

/-! ## Contributions of rows -/

section Rows

variable {iso : Iso8601} {ledger : Ledger}

theorem contributionOf_eq_some_iff {row : UsageRow} {x : Contribution} :
    contributionOf iso row = some x ↔ row.requestStatus.isTerminal ∧
      ∃ stored, storedRow iso row = .ok stored ∧ x = ⟨stored.key, stored.contribution⟩ := by
  have hstatus : ∀ stored, storedRow iso row = .ok stored → stored.status = row.requestStatus := by
    intro stored hstored
    obtain ⟨hour, -, hof⟩ := Result.bind_ok_iff.1 hstored
    cases hof
    rfl
  cases hrow : storedRow iso row with
  | error e => simp [contributionOf, hrow]
  | ok stored =>
    simp only [contributionOf, hrow, StoredRow.contributes, hstatus stored hrow, Except.ok.injEq,
      exists_eq_left']
    split
    · rename_i hterminal
      simp [hterminal, eq_comm]
    · rename_i hterminal
      simp [hterminal]

/-- No row of the ledger contributes a negative amount, and each counts one request. -/
theorem items_amounts (hdurations : ∀ row ∈ ledger.records, 0 ≤ row.durationMs) :
    ∀ item ∈ ledger.items iso, item.2 .requestCount = 1 ∧ ∀ c, 0 ≤ item.2 c := by
  intro item hitem
  obtain ⟨x, hx, rfl⟩ := List.mem_map.1 hitem
  obtain ⟨row, hrow, hcontribution⟩ := List.mem_filterMap.1 hx
  obtain ⟨-, stored, hstored, rfl⟩ := contributionOf_eq_some_iff.1 hcontribution
  obtain ⟨hour, -, hof⟩ := Result.bind_ok_iff.1 hstored
  cases hof
  exact ⟨rfl, @amount_nonneg row hour (hdurations row hrow)⟩

/-- A bound figure is what the record's contribution counts. -/
theorem columnValue_bind {value : Option UInt64} {bound : Option Count}
    (h : bindU64 value = .ok bound) :
    columnValue bound = asI64 ((value.getD 0).toNat : Int) ∧ bound.isSome = value.isSome := by
  have hmap := bindU64_ok h
  cases value with
  | none =>
    cases h
    exact ⟨by decide, rfl⟩
  | some v =>
    cases bound with
    | none => simp at hmap
    | some c =>
      simp only [Option.map_some, Option.some.injEq] at hmap
      refine ⟨?_, rfl⟩
      simp only [columnValue, Option.map_some, Option.getD_some, hmap]
      rw [asI64_of_fits]
      rw [← hmap]
      exact c.fits

/-- A row with a terminal record's columns contributes what the record does. -/
theorem contributionOf_terminal {record : RequestRecord} {figures : Figures}
    (hfigures : bindFigures record = .ok figures) (hterminal : record.requestStatus.isTerminal)
    {row : UsageRow} (hcreated : row.createdAt = formatInstant record.createdAt)
    (hconsumer : row.consumerId = record.consumerId) (hmodel : row.model = record.model)
    (hendpoint : row.endpoint = record.endpoint) (hstreaming : row.streaming = record.streaming)
    (hstatus : row.requestStatus = record.requestStatus)
    (hinput : row.inputTokens = figures.inputTokens)
    (houtput : row.outputTokens = figures.outputTokens)
    (hcached : row.cachedTokens = figures.cachedTokens) (httft : row.ttftMs = figures.ttftMs)
    (hduration : row.durationMs = asI64 (record.durationMs.toNat : Int)) :
    contributionOf iso row =
      some (Contribution.terminal record (BucketKey.fromRecord record)) := by
  obtain ⟨input, hbindInput, h⟩ := Result.bind_ok_iff.1 hfigures
  obtain ⟨output, hbindOutput, h⟩ := Result.bind_ok_iff.1 h
  obtain ⟨cached, hbindCached, h⟩ := Result.bind_ok_iff.1 h
  obtain ⟨ttft, hbindTtft, h⟩ := Result.bind_ok_iff.1 h
  cases h
  rw [contributionOf_formatInstant hcreated, hstatus, if_pos hterminal]
  simp only [StoredRow.ofColumns, Contribution.terminal, BucketKey.fromRecord, hconsumer, hmodel,
    hendpoint, hstreaming, hinput, houtput, hcached, httft, hduration, hstatus,
    columnValue_bind hbindInput, columnValue_bind hbindOutput, columnValue_bind hbindCached,
    columnValue_bind hbindTtft]

theorem contributionOf_inFlight {row : UsageRow} (h : row.requestStatus = .inFlight) :
    contributionOf iso row = none := by
  unfold contributionOf
  split
  · rename_i stored hstored
    obtain ⟨hour, -, hstored⟩ := Result.bind_ok_iff.1 hstored
    cases hstored
    simp [StoredRow.contributes, StoredRow.ofColumns, h, RequestStatus.isTerminal]
  · rfl

end Rows

/-! ## The steps -/

section Steps

variable {iso : Iso8601} {ledger written : Ledger}

theorem sumOf_item (x : Contribution) (items : List (RunningSum.Item BucketKey Counter))
    (c : Counter) :
    RunningSum.sumOf (x.item :: items) x.key c =
      x.metrics.amount c + RunningSum.sumOf items x.key c := by
  rw [RunningSum.sumOf_cons]
  simp [Contribution.item]

/-- A contribution is added to a bucket that agrees with the others, when the sums still fit. -/
theorem agrees_add {hourly : List Bucket} {items items' : List (RunningSum.Item BucketKey Counter)}
    (h : RunningSum.Agrees hourly items) {x : Contribution} (hperm : (x.item :: items).Perm items')
    (hfits : ∀ key c, FitsI64 (RunningSum.sumOf items' key c)) :
    RunningSum.Agrees (x.add hourly) items' := by
  have hadd : RunningSum.Agrees (x.add hourly) (x.item :: items) := by
    refine h.add fun c => ?_
    have hfit := hfits x.key c
    rw [← RunningSum.sumOf_perm hperm, sumOf_item, Int.add_comm] at hfit
    exact hfit
  exact hadd.perm hperm

/-- Sums of a part of the rows fit where the sums of all rows do. -/
theorem fits_of_cons {x : RunningSum.Item BucketKey Counter}
    {items items' : List (RunningSum.Item BucketKey Counter)}
    (hperm : (x :: items).Perm items') (hnonneg : ∀ item ∈ items', ∀ c, 0 ≤ item.2 c)
    (hfits : ∀ key c, FitsI64 (RunningSum.sumOf items' key c)) (key : BucketKey) (c : Counter) :
    FitsI64 (RunningSum.sumOf items key c) := by
  have hall : ∀ item ∈ x :: items, 0 ≤ item.2 c :=
    fun item hitem => hnonneg item (hperm.mem_iff.1 hitem) c
  have hrest : 0 ≤ RunningSum.sumOf items key c :=
    RunningSum.sumOf_nonneg fun item hitem => hall item (List.mem_cons_of_mem x hitem)
  have hx := hall x List.mem_cons_self
  have hfit := hfits key c
  rw [← RunningSum.sumOf_perm hperm, RunningSum.sumOf_cons] at hfit
  unfold FitsI64 i64Min at *
  split at hfit <;> omega

/-- An accepted row contributes nothing. -/
theorem items_insertAccept (instanceId : Option String) (record : RequestRecord) (ledger : Ledger) :
    (insertAccept instanceId record ledger).items iso = ledger.items iso := by
  rcases insertAccept_cases instanceId record ledger with ⟨heq, -⟩ | ⟨-, heq⟩
  · rw [heq]
  · have hnone : contributionOf iso (acceptedRow ledger.nextRecordId record instanceId) = none :=
      contributionOf_inFlight rfl
    rw [heq]
    simp [Ledger.items, Ledger.contributions, List.filterMap_append, hnone]

theorem RollupInvariant.accept (h : RollupInvariant iso ledger) (instanceId : Option String)
    (record : RequestRecord) : RollupInvariant iso (insertAccept instanceId record ledger) := by
  rcases insertAccept_cases instanceId record ledger with ⟨heq, -⟩ | ⟨hfind, heq⟩
  · rw [heq]
    exact h
  · have hrows : ∀ row ∈ ledger.records ++ [acceptedRow ledger.nextRecordId record instanceId],
        row ∈ ledger.records ∨ row = acceptedRow ledger.nextRecordId record instanceId :=
      fun row hrow => (List.mem_append.1 hrow).imp_right List.mem_singleton.1
    have hitems := @items_insertAccept iso instanceId record ledger
    have hstamped := @insertAccept_stamped instanceId record ledger h.stamped
    rw [heq] at hitems hstamped ⊢
    refine ⟨hstamped, ?_, ?_, ?_, ?_⟩
    · exact Tables.nodup_insert h.ids fun row hrow => Ledger.find_none hfind row hrow
    · intro row hrow
      rcases hrows row hrow with hrow | rfl
      · exact h.bare row hrow
      · exact fun _ => ⟨rfl, rfl, rfl, rfl⟩
    · intro row hrow
      rcases hrows row hrow with hrow | rfl
      · exact h.durations row hrow
      · exact le_rfl
    · rw [hitems]
      exact h.agrees

/-- The row a finalize leaves under its id. -/
theorem finalized_row {record : RequestRecord} {figures : Figures}
    (hfigures : bindFigures record = .ok figures) (hterminal : record.requestStatus.isTerminal)
    {existing : UsageRow} (hsame : existing.createdAt = formatInstant record.createdAt ∧
      existing.consumerId = record.consumerId ∧ existing.model = record.model ∧
      existing.endpoint = record.endpoint) :
    contributionOf iso (updatedRow existing record figures) =
      some (Contribution.terminal record (BucketKey.fromRecord record)) :=
  contributionOf_terminal hfigures hterminal hsame.1 hsame.2.1 hsame.2.2.1 hsame.2.2.2 rfl rfl rfl
    rfl rfl rfl (by simp only [updatedRow])

theorem duration_nonneg {record : RequestRecord}
    (hduration : (record.durationMs.toNat : Int) ≤ i64Max) :
    0 ≤ asI64 (record.durationMs.toNat : Int) := by
  rw [asI64_of_fits ⟨by unfold i64Min; omega, hduration⟩]
  exact Int.natCast_nonneg _

/-- The rows and their contributions after a finalize, apart from the rollup. -/
structure FinalizedRows (iso : Iso8601) (record : RequestRecord) (ledger written : Ledger) :
    Prop where
  ids : (written.records.map UsageRow.requestId).Nodup
  rows : ∀ row ∈ written.records, row ∈ ledger.records ∨
    (row.requestStatus = record.requestStatus ∧
      row.durationMs = asI64 (record.durationMs.toNat : Int))
  items : ∃ rest, ((Contribution.terminal record (BucketKey.fromRecord record)).item :: rest).Perm
      (written.items iso) ∧
    (rest.Perm (ledger.items iso) ∧
        written.hourly =
          (Contribution.terminal record (BucketKey.fromRecord record)).add ledger.hourly ∨
      ∃ previous : Contribution, (previous.item :: rest).Perm (ledger.items iso) ∧
        written.hourly = (Contribution.terminal record (BucketKey.fromRecord record)).add
          (previous.retract ledger.hourly))

theorem items_split {front back : List UsageRow} {row : UsageRow}
    (h : ledger.records = front ++ row :: back) :
    ledger.items iso = (front.filterMap (contributionOf iso)).map Contribution.item ++
      ((contributionOf iso row).toList.map Contribution.item ++
        (back.filterMap (contributionOf iso)).map Contribution.item) := by
  rw [Ledger.items, Ledger.contributions, h, List.filterMap_append, List.map_append]
  congr 1
  cases hx : contributionOf iso row <;> simp [hx]

/-- Rewriting the row of a request leaves every other row as it was. -/
theorem records_update {front back : List UsageRow} {existing : UsageRow} {requestId : String}
    (hsplit : ledger.records = front ++ existing :: back)
    (hids : (ledger.records.map UsageRow.requestId).Nodup) (hid : existing.requestId = requestId)
    (change : UsageRow → UsageRow) :
    (ledger.update requestId change).records = front ++ change existing :: back := by
  rw [hsplit, List.map_append, List.map_cons, List.nodup_append, List.nodup_cons] at hids
  obtain ⟨-, ⟨hback, -⟩, hfront⟩ := hids
  have hkeep : ∀ list : List UsageRow, (∀ row ∈ list, row.requestId ≠ requestId) →
      list.map (fun row => if row.requestId = requestId then change row else row) = list := by
    intro list hne
    rw [List.map_congr_left fun row hrow => if_neg (hne row hrow)]
    exact List.map_id' list
  simp only [Ledger.update, hsplit, List.map_append, List.map_cons, if_pos hid]
  rw [hkeep front fun row hrow heq => hfront row.requestId (List.mem_map_of_mem hrow)
      existing.requestId List.mem_cons_self (heq.trans hid.symm),
    hkeep back fun row hrow heq => hback (hid ▸ heq ▸ List.mem_map_of_mem hrow)]

theorem Finalized.rows {record : RequestRecord} {figures : Figures} {instanceId : Option String}
    (h : Finalized iso instanceId record figures ledger written)
    (hfigures : bindFigures record = .ok figures) (hterminal : record.requestStatus.isTerminal)
    (hsame : SameRequest record ledger) (hids : (ledger.records.map UsageRow.requestId).Nodup) :
    FinalizedRows iso record ledger written := by
  cases h with
  | inserted hfind =>
    have hcontribution : contributionOf iso
        (insertedRow ledger.nextRecordId record instanceId figures) =
          some (Contribution.terminal record (BucketKey.fromRecord record)) :=
      contributionOf_terminal hfigures hterminal rfl rfl rfl rfl rfl rfl rfl rfl rfl rfl
        (by simp only [insertedRow])
    refine ⟨?_, ?_, ledger.items iso, ?_, Or.inl ⟨List.Perm.refl _, rfl⟩⟩
    · rw [Ledger.records_add]
      exact Tables.nodup_insert hids fun row hrow => Ledger.find_none hfind row hrow
    · intro row hrow
      rcases List.mem_append.1 hrow with hrow | hrow
      · exact Or.inl hrow
      · rw [List.mem_singleton.1 hrow]
        exact Or.inr ⟨rfl, by simp only [insertedRow]⟩
    · simp only [Ledger.items, Ledger.contributions, Ledger.records_add, Ledger.records_insert,
        List.filterMap_append, List.map_append, List.filterMap_cons, hcontribution,
        List.filterMap_nil, List.map_cons, List.map_nil]
      exact (List.perm_append_singleton _ _).symm
  | @updated existing stored hfind hstored =>
    obtain ⟨hmem, hid⟩ := Ledger.find_some hfind
    obtain ⟨front, back, hsplit⟩ := List.append_of_mem hmem
    have hcontribution := @finalized_row iso record figures hfigures hterminal existing
      (hsame existing hmem hid)
    have hupdated := records_update hsplit hids hid fun row => updatedRow row record figures
    have hstoredContribution : stored.contributes = contributionOf iso existing := by
      simp only [contributionOf, hstored]
    have hrecords : (((ledger.update record.requestId fun row =>
        updatedRow row record figures).retractStored stored).add
          (Contribution.terminal record (BucketKey.fromRecord record))).records =
            front ++ updatedRow existing record figures :: back := by
      rw [Ledger.records_add, Ledger.records_retractStored, hupdated]
    refine ⟨?_, ?_, (front.filterMap (contributionOf iso)).map Contribution.item ++
      (back.filterMap (contributionOf iso)).map Contribution.item, ?_, ?_⟩
    · rw [hsplit, List.map_append, List.map_cons] at hids
      rw [hrecords, List.map_append, List.map_cons]
      exact hids
    · intro row hrow
      rw [hrecords] at hrow
      rw [hsplit]
      rcases List.mem_append.1 hrow with hrow | hrow
      · exact Or.inl (List.mem_append_left _ hrow)
      · rcases List.mem_cons.1 hrow with rfl | hrow
        · exact Or.inr ⟨rfl, by simp only [updatedRow]⟩
        · exact Or.inl (List.mem_append_right _ (List.mem_cons_of_mem existing hrow))
    · -- the new contribution stands where the old row's did
      rw [items_split hrecords, hcontribution]
      exact List.perm_middle.symm
    · rw [items_split hsplit, ← hstoredContribution]
      unfold Ledger.retractStored
      cases hcontributes : stored.contributes with
      | none => exact Or.inl ⟨List.Perm.refl _, rfl⟩
      | some previous => exact Or.inr ⟨previous, List.perm_middle.symm, rfl⟩

theorem RollupInvariant.finalize (h : RollupInvariant iso ledger) {instanceId : Option String}
    {record : RequestRecord} (hterminal : record.requestStatus.isTerminal)
    (hsame : SameRequest record ledger) (hduration : (record.durationMs.toNat : Int) ≤ i64Max)
    (hfinalize : finalizeRecord iso instanceId record ledger = .ok written)
    (hfits : written.SumsFit iso) : RollupInvariant iso written := by
  obtain ⟨figures, hfigures, hfinalized⟩ := finalizeRecord_ok hfinalize
  have hrows := hfinalized.rows hfigures hterminal hsame h.ids
  have hdurations : ∀ row ∈ written.records, 0 ≤ row.durationMs := by
    intro row hrow
    rcases hrows.rows row hrow with hold | ⟨-, heq⟩
    · exact h.durations row hold
    · rw [heq]
      exact duration_nonneg hduration
  refine ⟨hfinalized.stamped h.stamped, hrows.ids, ?_, hdurations, ?_⟩
  · intro row hrow hstatus
    rcases hrows.rows row hrow with hold | ⟨heq, -⟩
    · exact h.bare row hold hstatus
    · rw [← heq, hstatus] at hterminal
      cases hterminal
  · obtain ⟨rest, hperm, ⟨hrest, hhourly⟩ | ⟨previous, hrest, hhourly⟩⟩ := hrows.items
    · rw [hhourly]
      exact agrees_add (h.agrees.perm hrest.symm) hperm hfits
    · -- the sums of the other rows fit, so the stored contribution can be taken back exactly
      have hamounts := @items_amounts iso written hdurations
      have hothers := fits_of_cons hperm (fun item hitem => (hamounts item hitem).2) hfits
      have hsize : ∀ item ∈ rest, item.2 .requestCount = 1 := fun item hitem =>
        (hamounts item (hperm.mem_iff.1 (List.mem_cons_of_mem _ hitem))).1
      rw [hhourly]
      exact agrees_add ((h.agrees.perm hrest.symm).retract hsize fun c => hothers _ c) hperm hfits

/-- Rows that start to contribute, beside those that did. -/
theorem filterMap_perm {α β : Type} {l : List α} {p : α → Bool} {f f' : α → Option β} {g : α → β}
    (hp : ∀ a ∈ l, p a = true → f a = none ∧ f' a = some (g a))
    (hn : ∀ a ∈ l, p a = false → f' a = f a) :
    (l.filterMap f').Perm ((l.filter p).map g ++ l.filterMap f) := by
  induction l with
  | nil => exact List.Perm.refl _
  | cons a l ih =>
    have hrest := ih (fun b hb => hp b (List.mem_cons_of_mem a hb))
      (fun b hb => hn b (List.mem_cons_of_mem a hb))
    cases hpa : p a with
    | true =>
      obtain ⟨hnone, hsome⟩ := hp a List.mem_cons_self hpa
      simp only [List.filterMap_cons, List.filter_cons, hpa, hnone, hsome, if_true, List.map_cons,
        List.cons_append]
      exact hrest.cons _
    | false =>
      have heq := hn a List.mem_cons_self hpa
      simp only [List.filterMap_cons, List.filter_cons, hpa, heq, Bool.false_eq_true, if_false]
      cases f a with
      | none => exact hrest
      | some b => exact (hrest.cons b).trans List.perm_middle.symm

theorem contributionOf_recovered {row : UsageRow} (hstamped : row.Stamped)
    (hbare : row.inputTokens = none ∧ row.outputTokens = none ∧ row.cachedTokens = none ∧
      row.ttftMs = none) :
    (contributionOf iso (recoveredRow row)).map Contribution.item =
      some (strandedItem iso row) := by
  obtain ⟨t, ht⟩ := hstamped
  obtain ⟨hinput, houtput, hcached, httft⟩ := hbare
  rw [@contributionOf_formatInstant (recoveredRow row) t ht]
  simp only [strandedItem, ht, formatHourStr_formatInstant, recoveredRow, RequestStatus.isTerminal,
    if_true, Option.map_some, strandedContribution, Contribution.item, Contribution.interrupted,
    StoredRow.ofColumns, hinput, houtput, hcached, httft, columnValue, Option.map_none,
    Option.getD_none, Option.isSome_none, RequestStatus.isFailure]
  rfl

theorem RollupInvariant.recover (h : RollupInvariant iso ledger) {ctx : RecoveryContext}
    {report : RecoveryReport} {swept : List String}
    (hrecover : recoverInTx iso ctx ledger = .ok (written, report, swept))
    (hfits : written.SumsFit iso) : RollupInvariant iso written := by
  obtain ⟨stranded, hinFlight, hrecords, hhourly⟩ := recoverInTx_ok hrecover
  have hrows : ∀ row ∈ written.records, ∃ old ∈ ledger.records,
      row = (if stranded old then recoveredRow old else old) := by
    intro row hrow
    rw [hrecords] at hrow
    obtain ⟨old, hold, heq⟩ := List.mem_map.1 hrow
    exact ⟨old, hold, heq.symm⟩
  have hdurations : ∀ row ∈ written.records, 0 ≤ row.durationMs := by
    intro row hrow
    obtain ⟨old, hold, rfl⟩ := hrows row hrow
    split <;> exact h.durations old hold
  -- an in-flight row had no contribution, and gets the interrupted one
  have hitems : (written.items iso).Perm
      ((ledger.records.filter stranded).map (strandedItem iso) ++ ledger.items iso) := by
    have hperm := @filterMap_perm UsageRow (RunningSum.Item BucketKey Counter) ledger.records
      stranded (fun row => (contributionOf iso row).map Contribution.item)
      (fun row => (contributionOf iso (if stranded row then recoveredRow row else row)).map
        Contribution.item) (strandedItem iso)
      (fun row hrow hstranded => by
        have hstatus := hinFlight row hstranded
        rw [if_pos hstranded, contributionOf_inFlight hstatus,
          contributionOf_recovered (h.stamped row hrow) (h.bare row hrow hstatus)]
        exact ⟨rfl, rfl⟩)
      (fun row _ hkept => by rw [hkept]; rfl)
    simpa only [Ledger.items, Ledger.contributions, hrecords, List.filterMap_map,
      List.map_filterMap, Function.comp_def] using hperm
  refine ⟨?_, ?_, ?_, hdurations, ?_⟩
  · intro row hrow
    obtain ⟨old, hold, rfl⟩ := hrows row hrow
    split <;> exact h.stamped old hold
  · rw [hrecords, List.map_map]
    have hsame : UsageRow.requestId ∘ (fun row =>
        if stranded row then recoveredRow row else row) = UsageRow.requestId := by
      funext row
      simp only [Function.comp]
      split <;> rfl
    rw [hsame]
    exact h.ids
  · intro row hrow hstatus
    obtain ⟨old, hold, rfl⟩ := hrows row hrow
    split at hstatus
    · cases hstatus
    · rename_i hkept
      rw [if_neg hkept]
      exact h.bare old hold hstatus
  · have hamounts := @items_amounts iso written hdurations
    rw [hhourly]
    -- the sums agree before, and the pass adds an item for each row it moves
    refine (h.agrees.addAll (fun item hitem => ?_) (fun item hitem => ?_) fun key c => ?_).perm
      hitems.symm
    · exact (hamounts item (hitems.mem_iff.2 (List.mem_append_right _ hitem))).2
    · exact (hamounts item (hitems.mem_iff.2 (List.mem_append_left _ hitem))).2
    · rw [← RunningSum.sumOf_perm hitems]
      exact hfits key c

end Steps

/-! ## Runs -/

theorem LedgerRun.invariant {iso : Iso8601} {ledger : Ledger} (h : LedgerRun iso ledger) :
    RollupInvariant iso ledger := by
  induction h with
  | @empty ledger hrecords hhourly =>
    have hnone : ∀ row, row ∉ ledger.records := by
      intro row
      rw [hrecords]
      exact List.not_mem_nil
    refine ⟨fun row hrow => absurd hrow (hnone row), ?_, fun row hrow => absurd hrow (hnone row),
      fun row hrow => absurd hrow (hnone row), ?_⟩
    · rw [hrecords]
      exact List.nodup_nil
    · rw [hhourly, Ledger.items, Ledger.contributions, hrecords]
      exact RunningSum.Agrees.nil
  | accept instanceId record _ ih => exact ih.accept instanceId record
  | finalize instanceId record _ hterminal hsame hduration hfinalize hfits ih =>
    exact ih.finalize hterminal hsame hduration hfinalize hfits
  | recover ctx _ hrecover hfits ih => exact ih.recover hrecover hfits
  | register instances _ ih => exact ⟨ih.stamped, ih.ids, ih.bare, ih.durations, ih.agrees⟩

/-- The sum of a counter over the terminal rows of a bucket. -/
def Ledger.bucketSum (iso : Iso8601) (ledger : Ledger) (key : BucketKey) (c : Counter) : Int :=
  (((ledger.contributions iso).filter fun x => x.key = key).map fun x => x.metrics.amount c).sum

/-- A bucket exists exactly where a terminal row has its key. -/
theorem exists_bucket_iff {iso : Iso8601} {ledger : Ledger}
    (h : RunningSum.Agrees ledger.hourly (ledger.items iso)) (key : BucketKey) :
    (∃ bucket ∈ ledger.hourly, bucket.key = key) ↔
      ∃ row ∈ ledger.records, row.requestStatus.isTerminal ∧
        ∃ stored, storedRow iso row = .ok stored ∧ stored.key = key := by
  have hexists := h.exists_iff key
  simp only [List.mem_map] at hexists
  rw [hexists]
  constructor
  · rintro ⟨item, hitem, rfl⟩
    obtain ⟨x, hx, rfl⟩ := List.mem_map.1 hitem
    obtain ⟨row, hrow, hcontribution⟩ := List.mem_filterMap.1 hx
    obtain ⟨hterminal, stored, hstored, rfl⟩ := contributionOf_eq_some_iff.1 hcontribution
    exact ⟨row, hrow, hterminal, stored, hstored, rfl⟩
  · rintro ⟨row, hrow, hterminal, stored, hstored, rfl⟩
    have hcontribution : contributionOf iso row = some ⟨stored.key, stored.contribution⟩ :=
      contributionOf_eq_some_iff.2 ⟨hterminal, stored, hstored, rfl⟩
    exact ⟨_, List.mem_map_of_mem (List.mem_filterMap.2 ⟨row, hrow, hcontribution⟩), rfl⟩

/-- In every reachable ledger a bucket exists exactly where a terminal row has its key, one row a
key, and each counter is the sum over those rows and not negative. -/
theorem rollup_agrees {iso : Iso8601} {ledger : Ledger} (h : LedgerRun iso ledger) :
    (ledger.hourly.map RunningSum.Row.key).Nodup ∧
      (∀ key, (∃ bucket ∈ ledger.hourly, bucket.key = key) ↔
        ∃ row ∈ ledger.records, row.requestStatus.isTerminal ∧
          ∃ stored, storedRow iso row = .ok stored ∧ stored.key = key) ∧
      ∀ bucket ∈ ledger.hourly, ∀ c,
        bucket.counters c = .integer (ledger.bucketSum iso bucket.key c) ∧
          0 ≤ ledger.bucketSum iso bucket.key c := by
  have hinv := h.invariant
  have hsum : ∀ key c, RunningSum.sumOf (ledger.items iso) key c = ledger.bucketSum iso key c := by
    intro key c
    simp only [RunningSum.sumOf, Ledger.items, Ledger.bucketSum, List.filter_map, List.map_map]
    rfl
  refine ⟨hinv.agrees.keys, exists_bucket_iff hinv.agrees, fun bucket hbucket c => ?_⟩
  · rw [← hsum]
    exact ⟨hinv.agrees.counters bucket hbucket c, RunningSum.sumOf_nonneg fun item hitem =>
      (items_amounts hinv.durations item hitem).2 c⟩

namespace Sample

/-- A request that ended, and was streamed although it did not ask to be. -/
def streamed : RequestRecord := { record "r1" (some 7) with streaming := true }

/-- The sums over a ledger of one terminal row. -/
theorem sumsFit_of_single {ledger : Ledger} {x : Contribution}
    (h : ledger.contributions iso = [x]) (hamount : ∀ c, FitsI64 (x.metrics.amount c)) :
    ledger.SumsFit iso := by
  intro key c
  rw [Ledger.items, h, List.map_singleton, RunningSum.sumOf_cons, RunningSum.sumOf_nil,
    Int.add_zero]
  split
  · exact hamount c
  · decide

/-- Its row is accepted, not streaming, and then finalized. -/
def finalizedLedger : Ledger :=
  match finalizeRecord iso none streamed
    (insertAccept none (record "r1" none) emptyLedger) with
  | .ok ledger => ledger
  | .error _ => emptyLedger

theorem finalizedLedger_run : LedgerRun iso finalizedLedger := by
  have hempty : LedgerRun iso emptyLedger := LedgerRun.empty rfl rfl
  have hstamped : (insertAccept none (record "r1" none) emptyLedger).Stamped :=
    insertAccept_stamped fun _ h => absurd h List.not_mem_nil
  obtain ⟨written, hwritten⟩ := (@finalizeRecord_isOk_iff iso none streamed _ hstamped).2
    ⟨by decide, by decide, by decide, by decide⟩
  have hfinalize : finalizeRecord iso none streamed
      (insertAccept none (record "r1" none) emptyLedger) = .ok finalizedLedger := by
    rw [finalizedLedger, hwritten]
  refine LedgerRun.finalize none streamed (LedgerRun.accept none (record "r1" none) hempty) rfl ?_
    (by decide) hfinalize ?_
  · intro row hrow _
    rw [List.mem_singleton.1 (show row ∈ [acceptedRow 1 (record "r1" none) none] from hrow)]
    exact ⟨rfl, rfl, rfl, rfl⟩
  · refine sumsFit_of_single (show finalizedLedger.contributions iso =
      [Contribution.terminal streamed (BucketKey.fromRecord streamed)] by decide +kernel) fun c => ?_
    cases c <;> decide

end Sample

/-- The bucket of a request finalized with its streaming flag flipped. -/
theorem rollup_agrees_sample :
    (Sample.finalizedLedger.hourly.map RunningSum.Row.key).Nodup ∧
      (∀ key, (∃ bucket ∈ Sample.finalizedLedger.hourly, bucket.key = key) ↔
        ∃ row ∈ Sample.finalizedLedger.records, row.requestStatus.isTerminal ∧
          ∃ stored, storedRow Sample.iso row = .ok stored ∧ stored.key = key) ∧
      ∀ bucket ∈ Sample.finalizedLedger.hourly, ∀ c,
        bucket.counters c = .integer (Sample.finalizedLedger.bucketSum Sample.iso bucket.key c) ∧
          0 ≤ Sample.finalizedLedger.bucketSum Sample.iso bucket.key c :=
  rollup_agrees Sample.finalizedLedger_run

end PartnerPortal

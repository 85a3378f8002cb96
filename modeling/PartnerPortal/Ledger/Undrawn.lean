import PartnerPortal.Ledger.Resumption

/-!
# What an attempt draws

A migration stores the times it reads and, where there is none, random bytes for a cursor key.  Nothing else
that it does depends on them.

Results:
- `SchemaStep.blind` — a step cannot tell one clock, or one source of bytes, from another;
- `LedgerFile.undated_of_undrawn` — where the cursor key is kept only times are drawn.
-/

namespace PartnerPortal

open MachineInt

/-! ## What an attempt draws -/

/-- A key without the times of its changes. -/
def KeyRecord.undated (k : KeyRecord) : KeyRecord :=
  { k with row := { k.row with updatedAt := "", revokedAt := k.row.revokedAt.map fun _ => "" } }

/-- An account without the times of its changes. -/
def Partner.undated (p : Partner) : Partner := { p with createdAt := "", updatedAt := "" }

/-- An entry of `ledger_meta` without the bytes of the cursor key. -/
def unkeyed (entry : String × String) : String × String :=
  (entry.1, if entry.1 = "cursor_key" then "" else entry.2)

@[simp] theorem unkeyed_fst (entry : String × String) : (unkeyed entry).1 = entry.1 := rfl

/-- A file without the times of its changes. -/
def LedgerFile.undated (file : LedgerFile) : LedgerFile :=
  { file with
    apiKeys := file.apiKeys.map fun table => table.update KeyRecord.undated fun _ => rfl
    partners := file.partners.map (List.map Partner.undated) }

/-- A file without what attempts draw: times, and bytes for a cursor key. -/
def LedgerFile.undrawn (file : LedgerFile) : LedgerFile :=
  { file.undated with ledgerMeta := file.ledgerMeta.map (List.map unkeyed) }

theorem KeyRows.update_update (f g : KeyRecord → KeyRecord) (rows : KeyRows) :
    (rows.update f).update g = rows.update (g ∘ f) := by
  cases rows with
  | listed rows =>
    simp only [update, List.map_map]
    rfl
  | plain rows =>
    simp only [update, List.map_map]

theorem KeyRows.update_congr {f g : KeyRecord → KeyRecord} {rows : KeyRows}
    (h : ∀ k ∈ rows.records, f k = g k) : rows.update f = rows.update g := by
  cases rows with
  | listed rows =>
    refine congrArg KeyRows.listed (List.map_congr_left fun row hrow => ?_)
    rw [h row.record (List.mem_map_of_mem hrow)]
  | plain rows => exact congrArg KeyRows.plain (List.map_congr_left h)

section Undrawn

variable {keys : List KeyRecord} {k : KeyRecord} {newest : List Int} {now : String}
  {stored entries : List (String × String)} {key value : String} {partners : List Partner}
  {account : String × String} {accounts : List (String × String)}

theorem active_undated : (keys.map KeyRecord.undated).filter KeyRecord.isActive =
    (keys.filter KeyRecord.isActive).map KeyRecord.undated := List.filter_map

theorem consumer_undated (consumerId : String) :
    (keys.map KeyRecord.undated).filter (fun k => k.row.consumerId = consumerId) =
      (keys.filter fun k => k.row.consumerId = consumerId).map KeyRecord.undated := List.filter_map

theorem newestActive_undated : newestActive (keys.map KeyRecord.undated) = newestActive keys := by
  unfold newestActive
  simp only [active_undated, consumer_undated, List.map_map]
  rfl

theorem collapse_undated : (k.collapse newest now).undated = k.undated.collapse newest "" := by
  unfold KeyRecord.collapse
  by_cases h : (k.isActive && !(newest.contains k.row.id)) = true
  · have h' : (k.undated.isActive && !(newest.contains k.undated.row.id)) = true := h
    rw [if_pos h, if_pos h']
    rfl
  · have h' : ¬(k.undated.isActive && !(newest.contains k.undated.row.id)) = true := h
    rw [if_neg h, if_neg h']

theorem leastNames_undated : leastNames (keys.map KeyRecord.undated) = leastNames keys := by
  unfold leastNames
  simp only [consumer_undated, List.map_map]
  rfl

theorem openAccount_undated : (openAccount now partners account).map Partner.undated =
    openAccount "" (partners.map Partner.undated) account := by
  unfold openAccount
  have hany : (partners.map Partner.undated).any (fun p => p.consumerId = account.1) =
      partners.any fun p => p.consumerId = account.1 := List.any_map
  rw [hany]
  split
  · rfl
  · rw [List.map_append]
    rfl

theorem openAccounts_undated : (accounts.foldl (openAccount now) partners).map Partner.undated =
    accounts.foldl (openAccount "") (partners.map Partner.undated) := by
  induction accounts generalizing partners with
  | nil => rfl
  | cons account accounts ih => rw [List.foldl_cons, List.foldl_cons, ih, openAccount_undated]

theorem owedAccounts_undated (rows : List ListedKey) : LedgerFile.owedAccounts
    (rows.map fun row => { row with record := row.record.undated }) = LedgerFile.owedAccounts rows := by
  have hserved : (rows.map fun row => { row with record := row.record.undated }).filter
      (fun row => row.record.isActive && row.allowedModels ≠ []) =
        (rows.filter fun row => row.record.isActive && row.allowedModels ≠ []).map
          fun row => { row with record := row.record.undated } := List.filter_map
  have hrecords (rows : List ListedKey) : (rows.map fun row : ListedKey =>
      { row with record := row.record.undated }).map ListedKey.record =
        (rows.map ListedKey.record).map KeyRecord.undated := by
    rw [List.map_map, List.map_map]
    rfl
  unfold LedgerFile.owedAccounts
  simp only [hserved, hrecords, leastNames_undated]

theorem checksKey_undated : LedgerFile.checksKey k.undated = LedgerFile.checksKey k := by
  unfold LedgerFile.checksKey
  cases hstatus : k.row.status with
  | active => simp only [KeyRecord.undated, hstatus, Option.isNone_map]
  | revoked => simp only [KeyRecord.undated, hstatus, Option.isSome_map]

theorem lookup_unkeyed_isSome : ((stored.map unkeyed).lookup key).isSome = (stored.lookup key).isSome := by
  induction stored with
  | nil => rfl
  | cons entry stored ih =>
    rw [List.map_cons, List.lookup_cons, List.lookup_cons, unkeyed_fst]
    cases key == entry.1 with
    | true => rfl
    | false => exact ih

theorem lookup_unkeyed (h : key ≠ "cursor_key") : (stored.map unkeyed).lookup key = stored.lookup key := by
  induction stored with
  | nil => rfl
  | cons entry stored ih =>
    rw [List.map_cons, List.lookup_cons, List.lookup_cons, unkeyed_fst]
    cases hkey : key == entry.1 with
    | true =>
      have hother : entry.1 ≠ "cursor_key" := beq_iff_eq.1 hkey ▸ h
      simp only [unkeyed, if_neg hother]
    | false => exact ih

theorem insertOrIgnore_unkeyed {entry : String × String} :
    (insertOrIgnore stored entry).map unkeyed = insertOrIgnore (stored.map unkeyed) (unkeyed entry) := by
  unfold insertOrIgnore
  rw [unkeyed_fst, lookup_unkeyed_isSome]
  split
  · rfl
  · exact List.map_append

theorem insertAll_unkeyed : (entries.foldl insertOrIgnore stored).map unkeyed =
    (entries.map unkeyed).foldl insertOrIgnore (stored.map unkeyed) := by
  induction entries generalizing stored with
  | nil => rfl
  | cons entry entries ih =>
    rw [List.foldl_cons, List.map_cons, List.foldl_cons, ih, insertOrIgnore_unkeyed]

theorem upsert_unkeyed (h : key ≠ "cursor_key") :
    (upsert key value stored).map unkeyed = upsert key value (stored.map unkeyed) := by
  unfold upsert
  rw [lookup_unkeyed_isSome]
  split
  · rw [List.map_map, List.map_map]
    refine List.map_congr_left fun entry _ => ?_
    show unkeyed (if entry.1 = key then (key, value) else entry) =
      if (unkeyed entry).1 = key then (key, value) else unkeyed entry
    by_cases hkey : entry.1 = key
    · rw [unkeyed_fst, if_pos hkey, if_pos hkey, unkeyed, if_neg h]
    · rw [unkeyed_fst, if_neg hkey, if_neg hkey]
  · rw [List.map_append, List.map_singleton, unkeyed, if_neg h]

/-- Entries that differ at most in the cursor key are the same where that is. -/
theorem eq_of_unkeyed {stored' : List (String × String)} (h : stored.map unkeyed = stored'.map unkeyed)
    (hkeys : (stored.map Prod.fst).Nodup) (hkeys' : (stored'.map Prod.fst).Nodup)
    (hvalue : stored.lookup "cursor_key" = stored'.lookup "cursor_key") : stored = stored' := by
  induction stored generalizing stored' with
  | nil => exact (List.map_eq_nil_iff.1 h.symm).symm
  | cons entry stored ih =>
    obtain ⟨entry', stored', rfl⟩ : ∃ entry' rest, stored' = entry' :: rest := by
      cases stored' with
      | nil => cases h
      | cons entry' rest => exact ⟨entry', rest, rfl⟩
    obtain ⟨hentry, hrest⟩ := List.cons_eq_cons.1 h
    obtain ⟨hfresh, hkeys⟩ := List.nodup_cons.1 hkeys
    obtain ⟨hfresh', hkeys'⟩ := List.nodup_cons.1 hkeys'
    have hname : (unkeyed entry).1 = (unkeyed entry').1 := congrArg Prod.fst hentry
    rw [unkeyed_fst, unkeyed_fst] at hname
    rw [List.lookup_cons, List.lookup_cons, hname] at hvalue
    by_cases hkey : entry'.1 = "cursor_key"
    · -- the entry is the cursor key, and there is no other one behind it
      rw [hkey, beq_self_eq_true] at hvalue
      have hnone {stored : List (String × String)} (h : "cursor_key" ∉ stored.map Prod.fst) :
          stored.lookup "cursor_key" = none :=
        List.lookup_eq_none_iff.2 fun entry hentry => bne_iff_ne.2 fun hsame =>
          h (List.mem_map.2 ⟨entry, hentry, hsame.symm⟩)
      rw [ih hrest hkeys hkeys' ((hnone ((hname.trans hkey) ▸ hfresh)).trans (hnone (hkey ▸ hfresh')).symm),
        Prod.ext hname (Option.some.inj hvalue)]
    · rw [beq_false_of_ne (Ne.symm hkey)] at hvalue
      have hsame : entry = entry' := by
        refine Prod.ext hname ?_
        have hsecond := congrArg Prod.snd hentry
        simp only [unkeyed, hname, if_neg hkey] at hsecond
        exact hsecond
      rw [ih hrest hkeys hkeys' hvalue, hsame]

end Undrawn

namespace LedgerFile

variable {file : LedgerFile} {now : String}

theorem records_undrawn : file.undrawn.records = file.records.map KeyRecord.undated := by
  unfold records undrawn undated
  cases file.apiKeys with
  | none => rfl
  | some table => exact KeyRows.records_update _ table.rows

theorem has_undrawn (table : TableName) : file.undrawn.has table = file.has table := by
  cases table with
  | apiKeys => exact Option.isSome_map
  | partners => exact Option.isSome_map
  | ledgerMeta => exact Option.isSome_map
  | _ => rfl

theorem hasAllowList_undrawn : file.undrawn.hasAllowList = file.hasAllowList := by
  unfold hasAllowList undrawn undated
  cases file.apiKeys with
  | none => rfl
  | some table => exact congrArg Option.isSome (KeyRows.allowLists_update _ table.rows)

theorem oneActive_undrawn : file.undrawn.OneActive ↔ file.OneActive := by
  unfold OneActive Tables.Indexed
  rw [records_undrawn, active_undated, List.map_map]
  exact Iff.rfl

theorem metaValue_undrawn {key : String} (h : key ≠ "cursor_key") :
    file.undrawn.metaValue key = file.metaValue key := by
  unfold metaValue undrawn
  cases hstored : file.ledgerMeta with
  | none => rfl
  | some stored => exact lookup_unkeyed h

theorem version_undrawn : file.undrawn.version = file.version := by
  unfold LedgerFile.version
  rw [readSchemaVersion_congr (metaValue_undrawn (by decide))]

theorem collapse_undrawn : (file.collapseDuplicateActiveKeys now).undrawn =
    file.undrawn.collapseDuplicateActiveKeys "" := by
  unfold collapseDuplicateActiveKeys undrawn undated
  cases hkeys : file.apiKeys with
  | none => rfl
  | some table =>
    have hrows : (table.rows.update (KeyRecord.collapse (newestActive table.rows.records) now)).update
        KeyRecord.undated = (table.rows.update KeyRecord.undated).update
          (KeyRecord.collapse (newestActive (table.rows.update KeyRecord.undated).records) "") := by
      rw [KeyRows.update_update, KeyRows.update_update, KeyRows.records_update, newestActive_undated]
      exact KeyRows.update_congr fun k _ => collapse_undated
    simp only [Option.map_some]
    refine congrArg (fun keys : KeyTable => LedgerFile.mk _ _ _ (some keys) _ _ _ _ _ _) ?_
    exact KeyTable.ext hrows

theorem createTable_undrawn (table : TableName) : (file.createTable table).undrawn =
    file.undrawn.createTable table := by
  unfold createTable
  rw [has_undrawn]
  split
  · rfl
  · cases table <;> rfl

theorem createIndex_undrawn (index : IndexName) : (file.createIndex index).map undrawn =
    file.undrawn.createIndex index := by
  unfold createIndex
  simp only [has_undrawn, oneActive_undrawn]
  show Except.map undrawn _ = if index ∈ file.indexes then _ else _
  split
  · rfl
  · split
    · rfl
    · split
      · rfl
      · rfl

theorem createIndexes_undrawn (list : List IndexName) :
    (list.foldlM (fun (file : LedgerFile) index => file.createIndex index) file).map undrawn =
      list.foldlM (fun (file : LedgerFile) index => file.createIndex index) file.undrawn := by
  induction list generalizing file with
  | nil => rfl
  | cons index list ih =>
    rw [List.foldlM_cons, List.foldlM_cons, ← createIndex_undrawn]
    cases file.createIndex index with
    | error e => rfl
    | ok m => exact ih

theorem seedMeta_undrawn (entries : List (String × String)) : (file.seedMeta entries).map undrawn =
    file.undrawn.seedMeta (entries.map unkeyed) := by
  unfold seedMeta
  cases hstored : file.ledgerMeta with
  | none =>
    simp only [undrawn, undated, hstored, Option.map_none]
    rfl
  | some stored =>
    simp only [undrawn, undated, hstored, Option.map_some, Except.map, insertAll_unkeyed]

theorem addColumn_undrawn (column : UsageColumn) : (file.addColumn column).map undrawn =
    file.undrawn.addColumn column := by
  unfold addColumn
  show Except.map undrawn _ = if file.hasColumn column = true then _ else _
  split
  · rfl
  · cases hrecords : file.usageRecords with
    | none =>
      simp only [undrawn, undated, hrecords]
      rfl
    | some table =>
      simp only [undrawn, undated, hrecords]
      rfl

theorem checked_undrawn (column : UsageColumn) (name : String) :
    (SchemaStep.checked column name file).map undrawn = SchemaStep.checked column name file.undrawn := by
  unfold SchemaStep.checked
  show Except.map undrawn _ = if file.hasColumn column = true then _ else _
  split
  · rfl
  · rfl

theorem migrateModelAllowList_undrawn : (file.migrateModelAllowList now).map undrawn =
    file.undrawn.migrateModelAllowList "" := by
  obtain ⟨usage, instances, hourly, keys, partners, models, statements, lines, stored, indexes⟩ := file
  cases keys with
  | none => rfl
  | some table =>
    obtain ⟨rows, hprimary⟩ := table
    cases rows with
    | plain rows => rfl
    | listed rows =>
      cases partners with
      | none => rfl
      | some partners =>
        have hpartners : ((owedAccounts rows).foldl (openAccount now) partners).map Partner.undated =
            (owedAccounts (rows.map fun row => { row with record := row.record.undated })).foldl
              (openAccount "") (partners.map Partner.undated) := by
          rw [owedAccounts_undated]
          exact openAccounts_undated
        have hrows : ((KeyRows.listed rows).emptied).update KeyRecord.undated =
            ((KeyRows.listed rows).update KeyRecord.undated).emptied := by
          simp only [KeyRows.emptied, KeyRows.update, List.map_map]
          rfl
        refine congrArg Except.ok ?_
        exact congrArg₂ (fun keys partners => LedgerFile.mk _ _ _ (some keys) (some partners) _ _ _ _ _)
          (KeyTable.ext hrows) hpartners

theorem dropLegacyAllowListColumn_undrawn : file.dropLegacyAllowListColumn.map undrawn =
    file.undrawn.dropLegacyAllowListColumn := by
  cases hlist : file.hasAllowList with
  | false =>
    have hundrawn : file.undrawn.hasAllowList = false := hasAllowList_undrawn.trans hlist
    rw [dropLegacyAllowListColumn_rests hlist, dropLegacyAllowListColumn_rests hundrawn]
    rfl
  | true =>
    obtain ⟨table, rows, hkeys, hrows⟩ := listed_of_hasAllowList hlist
    have hundrawn : file.undrawn.apiKeys = some (table.update KeyRecord.undated fun _ => rfl) := by
      simp only [undrawn, undated, hkeys, Option.map_some]
    have hlisted : (table.update KeyRecord.undated fun _ => rfl).rows = .listed
        (rows.map fun row => { row with record := row.record.undated }) := by
      show table.rows.update _ = _
      rw [hrows]
      rfl
    have hrecords : (table.rows.update KeyRecord.undated).records =
        table.rows.records.map KeyRecord.undated := KeyRows.records_update _ _
    have hhashes : (table.rows.update KeyRecord.undated).records.map (·.keyHash) =
        table.rows.records.map (·.keyHash) := by
      rw [hrecords, List.map_map]
      rfl
    have hchecks : (table.rows.update KeyRecord.undated).records.all checksKey =
        table.rows.records.all checksKey := by
      rw [hrecords, List.all_map]
      exact List.all_congr rfl fun k => checksKey_undated
    have hrebuilt : (KeyTable.update table KeyRecord.undated fun _ => rfl).rebuilt =
        table.rebuilt.update KeyRecord.undated fun _ => rfl :=
      KeyTable.ext (congrArg KeyRows.plain hrecords)
    rw [dropLegacyAllowListColumn_listed hkeys hrows, dropLegacyAllowListColumn_listed hundrawn hlisted]
    show _ = if ¬((table.rows.update KeyRecord.undated).records.map (·.keyHash)).Nodup then _
      else if !(table.rows.update KeyRecord.undated).records.all checksKey then _ else _
    rw [hhashes, hchecks, hrebuilt]
    split
    · rfl
    · split
      · rfl
      · exact createIndexes_undrawn _

theorem writeSchemaVersion_undrawn (version : Nat) : (file.writeSchemaVersion version).map undrawn =
    file.undrawn.writeSchemaVersion version := by
  unfold writeSchemaVersion
  cases hstored : file.ledgerMeta with
  | none =>
    simp only [undrawn, undated, hstored, Option.map_none]
    rfl
  | some stored =>
    simp only [undrawn, undated, hstored, Option.map_some, Except.map]
    rw [upsert_unkeyed (by decide)]

/-- With a cursor key that is kept, only times are drawn. -/
theorem undated_of_undrawn {other : LedgerFile} (h : file.undrawn = other.undrawn)
    (hkeys : file.metaKeys.Nodup) (hkeys' : other.metaKeys.Nodup)
    (hvalue : file.metaValue "cursor_key" = other.metaValue "cursor_key") : file.undated = other.undated := by
  have hmeta : file.ledgerMeta = other.ledgerMeta := by
    have hunkeyed : file.ledgerMeta.map (List.map unkeyed) = other.ledgerMeta.map (List.map unkeyed) :=
      congrArg LedgerFile.ledgerMeta h
    unfold metaKeys at hkeys hkeys'
    unfold metaValue at hvalue
    cases hstored : file.ledgerMeta with
    | none =>
      rw [hstored] at hunkeyed
      exact (Option.map_eq_none_iff.1 hunkeyed.symm).symm
    | some stored =>
      rw [hstored] at hunkeyed hkeys hvalue
      obtain ⟨stored', hstored', hsame⟩ := Option.map_eq_some_iff.1 hunkeyed.symm
      rw [hstored'] at hkeys' hvalue ⊢
      rw [eq_of_unkeyed hsame.symm hkeys hkeys' hvalue]
  have hfile (file : LedgerFile) : file.undated = { file.undrawn with ledgerMeta := file.ledgerMeta } := rfl
  rw [hfile file, hfile other, h, hmeta]

end LedgerFile

theorem SchemaStep.addChecked_undrawn {file : LedgerFile} {column : UsageColumn} {name : String} :
    Except.map LedgerFile.undrawn
        (do let altered ← file.addColumn column; SchemaStep.checked column name altered) =
      (do let altered ← file.undrawn.addColumn column; SchemaStep.checked column name altered) := by
  rw [← LedgerFile.addColumn_undrawn]
  cases file.addColumn column with
  | error e => rfl
  | ok altered => exact LedgerFile.checked_undrawn column name

/-- What the clock and the random bytes are decides nothing but what is stored of them. -/
theorem SchemaStep.blind :
    Stages.Blind SchemaStep.live LedgerFile.undrawn
      { collapsedAt := "", copiedAt := "", cursorKey := "" } where
  run step env file := by
    unfold SchemaStep.live
    rw [LedgerFile.version_undrawn]
    cases step with
    | collapse =>
      simp only [SchemaStep.run]
      split
      · exact congrArg Except.ok LedgerFile.collapse_undrawn
      · rfl
    | createTable table => exact congrArg Except.ok (LedgerFile.createTable_undrawn table)
    | createIndex index => exact LedgerFile.createIndex_undrawn index
    | seedCursorKey => exact LedgerFile.seedMeta_undrawn _
    | seedRuns => exact LedgerFile.seedMeta_undrawn _
    | addInstanceId => exact SchemaStep.addChecked_undrawn
    | addErrorBody =>
      simp only [SchemaStep.run]
      split
      · exact SchemaStep.addChecked_undrawn
      · exact LedgerFile.checked_undrawn _ _
    | addPrice column =>
      simp only [SchemaStep.run]
      split
      · exact SchemaStep.addChecked_undrawn
      · rfl
    | copyAllowList =>
      simp only [SchemaStep.run]
      split
      · exact LedgerFile.migrateModelAllowList_undrawn
      · rfl
    | dropAllowList =>
      simp only [SchemaStep.run]
      split
      · exact LedgerFile.dropLegacyAllowListColumn_undrawn
      · rfl
    | checkTable table =>
      simp only [SchemaStep.run, LedgerFile.has_undrawn]
      split
      · rfl
      · rfl
    | writeVersion => exact LedgerFile.writeSchemaVersion_undrawn _

end PartnerPortal

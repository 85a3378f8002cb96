import PartnerPortal.Ledger.Migration

/-!
# Steps that rest

What each step of a migration is for, and that a step that was taken has nothing left to do.

Results:
- `SchemaStep.goal` — what a step is for;
- `SchemaStep.resumable` — a step reaches it, does nothing where it is reached, and no step takes it back.
-/

namespace PartnerPortal

open MachineInt

/-! ## What a step is for -/

/-- The version, where it can be read. -/
def LedgerFile.version (file : LedgerFile) : Nat :=
  match file.readSchemaVersion with
  | .ok version => version
  | .error _ => 0

namespace SchemaStep

/-- A step that reads the version itself. -/
def live (step : SchemaStep) (env : SchemaEnv) (file : LedgerFile) : Except SchemaError LedgerFile :=
  step.run file.version env file

/-- What a step is for, of which nothing is left to do from the sixth version on. -/
def goal : SchemaStep → LedgerFile → Prop
  | collapse, file => 6 ≤ file.version ∨ file.OneActive
  | createTable table, file => file.has table = true
  | createIndex index, file => index ∈ file.indexes
  | seedCursorKey, file => (file.metaValue "cursor_key").isSome = true
  | seedRuns, file => (file.metaValue "last_retention_run").isSome = true ∧
      (file.metaValue "last_recovery_run").isSome = true
  | addInstanceId, file => file.hasColumn .instanceId = true
  | addErrorBody, file => file.hasColumn .errorBody = true
  | addPrice column, file => 6 ≤ file.version ∨ file.hasColumn column = true
  | copyAllowList, file => 6 ≤ file.version ∨ file.hasAllowList = false ∨ file.Accounts ∧ file.Emptied
  | dropAllowList, file => 6 ≤ file.version ∨ file.hasAllowList = false
  | checkTable table, file => file.has table = true
  | writeVersion, file => file.Stamped

end SchemaStep

/-! ## Steps that rest -/

theorem KeyRows.update_eq_self {f : KeyRecord → KeyRecord} {rows : KeyRows}
    (h : ∀ k ∈ rows.records, f k = k) : rows.update f = rows := by
  cases rows with
  | listed rows =>
    refine congrArg KeyRows.listed ((List.map_congr_left fun row hrow => ?_).trans (List.map_id rows))
    rw [h row.record (List.mem_map_of_mem hrow)]
    rfl
  | plain rows => exact congrArg KeyRows.plain ((List.map_congr_left h).trans (List.map_id rows))

theorem KeyRows.emptied_eq_self {rows : KeyRows}
    (h : ∀ lists, rows.allowLists = some lists → ∀ list ∈ lists, list = []) : rows.emptied = rows := by
  cases rows with
  | listed rows =>
    refine congrArg KeyRows.listed ((List.map_congr_left fun row hrow => ?_).trans (List.map_id rows))
    have hempty := h _ rfl row.allowedModels (List.mem_map_of_mem hrow)
    rw [← hempty]
    rfl
  | plain rows => rfl

theorem insertAll_rests {stored entries : List (String × String)}
    (h : ∀ entry ∈ entries, (stored.lookup entry.1).isSome = true) :
    entries.foldl insertOrIgnore stored = stored := by
  induction entries with
  | nil => rfl
  | cons entry entries ih =>
    obtain ⟨hfirst, hrest⟩ := List.forall_mem_cons.1 h
    rw [List.foldl_cons, insertOrIgnore, if_pos hfirst]
    exact ih hrest

namespace LedgerFile

variable {file t : LedgerFile} {now : String}

/-- Where no consumer has two active keys, none is revoked. -/
theorem collapse_rests (h : file.OneActive) : file.collapseDuplicateActiveKeys now = file := by
  unfold collapseDuplicateActiveKeys
  cases hkeys : file.apiKeys with
  | none =>
    rw [Option.map_none, ← hkeys]
  | some table =>
    have hrecords : file.records = table.rows.records := by
      unfold records
      rw [hkeys]
      rfl
    have hsame : table.rows.update (KeyRecord.collapse (newestActive table.rows.records) now) =
        table.rows := by
      refine KeyRows.update_eq_self fun k hk => ?_
      cases hactive : k.isActive with
      | false => exact collapse_inactive hactive
      | true =>
        refine collapse_spared ((mem_newestActive_iff table.primaryKey hk hactive).2
          ⟨hk, hactive, fun other hother hotherActive hconsumer => ?_⟩)
        unfold OneActive at h
        rw [hrecords] at h
        rw [h.eq_of_key hother hk hotherActive hactive hconsumer]
    rw [Option.map_some]
    have htable : table.update (KeyRecord.collapse (newestActive table.rows.records) now)
        (KeyRecord.collapse_id _ now) = table := KeyTable.ext hsame
    show { file with apiKeys := some (table.update _ _) } = file
    rw [htable, ← hkeys]

theorem createTable_rests {table : TableName} (h : file.has table = true) :
    file.createTable table = file := by
  unfold createTable
  rw [if_pos h]

theorem createIndex_rests {index : IndexName} (h : index ∈ file.indexes) :
    file.createIndex index = .ok file := by
  unfold createIndex
  rw [if_pos h]

theorem seedMeta_rests {entries : List (String × String)} (hsome : entries ≠ [])
    (h : ∀ entry ∈ entries, (file.metaValue entry.1).isSome = true) : file.seedMeta entries = .ok file := by
  unfold seedMeta
  unfold metaValue at h
  cases hstored : file.ledgerMeta with
  | none =>
    obtain ⟨entry, hentry⟩ := List.exists_mem_of_ne_nil entries hsome
    have hvalue := h entry hentry
    rw [hstored] at hvalue
    cases hvalue
  | some stored =>
    rw [hstored] at h
    show Except.ok { file with ledgerMeta := some (entries.foldl insertOrIgnore stored) } = _
    rw [insertAll_rests h, ← hstored]

theorem addColumn_rests {column : UsageColumn} (h : file.hasColumn column = true) :
    file.addColumn column = .ok file := by
  unfold addColumn
  rw [if_pos h]

theorem checked_rests {column : UsageColumn} {name : String} (h : file.hasColumn column = true) :
    SchemaStep.checked column name file = .ok file := by
  unfold SchemaStep.checked
  rw [if_pos h]

theorem migrateModelAllowList_rests (h : file.hasAllowList = false ∨ file.Accounts ∧ file.Emptied) :
    file.migrateModelAllowList now = .ok file := by
  cases hlist : file.hasAllowList with
  | false => exact migrateModelAllowList_plain hlist
  | true =>
    obtain ⟨⟨hsome, hall⟩, hempty⟩ := h.resolve_left (by rw [hlist]; exact nofun)
    obtain ⟨table, rows, hkeys, hrows⟩ := listed_of_hasAllowList hlist
    obtain ⟨partners, hpartners⟩ := Option.isSome_iff_exists.1 hsome
    -- the accounts that are owed are there
    have hopened : (owedAccounts rows).foldl (openAccount now) partners = partners := by
      refine openAccounts_rests fun account haccount => ?_
      obtain ⟨k, hk, hconsumer⟩ := owedAccounts_owed haccount
      obtain ⟨p, hp, hsame⟩ := hall k (records_listed hkeys hrows ▸ hk)
      unfold partnerRows at hp
      rw [hpartners] at hp
      exact ⟨p, hp, hsame.trans hconsumer.symm⟩
    have hemptied : table.emptied = table :=
      KeyTable.ext (KeyRows.emptied_eq_self fun lists hlists => hempty table lists hkeys hlists)
    rw [migrateModelAllowList_listed hkeys hrows]
    simp only [hpartners, hopened, hemptied]
    rw [← hpartners, ← hkeys]

theorem writeSchemaVersion_rests (h : file.Stamped) : file.writeSchemaVersion schemaVersion = .ok file := by
  obtain ⟨stored, hstored, hsome, hsame⟩ := h
  unfold writeSchemaVersion
  simp only [hstored]
  rw [upsert_same hsome hsame, ← hstored]

theorem Carries.current (h : file.Carries t) (hcurrent : 6 ≤ file.version) : 6 ≤ t.version := by
  unfold LedgerFile.version at hcurrent ⊢
  rcases h.version with hsame | hnew
  · rw [hsame]
    exact hcurrent
  · rw [hnew]
    exact Nat.le_refl 6

theorem Carries.someValue (h : file.Carries t) {key : String} (hkey : key ≠ "schema_version")
    (hsome : (file.metaValue key).isSome = true) : (t.metaValue key).isSome = true := by
  obtain ⟨value, hvalue⟩ := Option.isSome_iff_exists.1 hsome
  rw [h.values key hkey value hvalue]
  rfl

/-- The keys that a collapse leaves active are the newest. -/
theorem newest_of_collapsed {k : KeyRecord} (hk : k ∈ (file.collapseDuplicateActiveKeys now).records)
    (hactive : k.isActive = true) : Newest file.records k := by
  rw [records_collapsed] at hk
  obtain ⟨old, hold, rfl⟩ := List.mem_map.1 hk
  obtain ⟨hsame, holdActive, hspared⟩ := collapse_active hactive
  rw [hsame]
  exact (mem_newestActive_iff file.ids_nodup hold holdActive).1 hspared

theorem oneActive_collapsed : (file.collapseDuplicateActiveKeys now).OneActive := by
  have hnodup := (file.collapseDuplicateActiveKeys now).ids_nodup.of_map
  refine (hnodup.filter KeyRecord.isActive).map_on fun k hk k' hk' hconsumer => ?_
  obtain ⟨hk, hactive⟩ := List.mem_filter.1 hk
  obtain ⟨hk', hactive'⟩ := List.mem_filter.1 hk'
  have hnewest := newest_of_collapsed hk hactive
  have hnewest' := newest_of_collapsed hk' hactive'
  refine List.inj_on_of_nodup_map file.ids_nodup hnewest.1 hnewest'.1 (Int.le_antisymm ?_ ?_)
  · exact hnewest'.2.2 k hnewest.1 hactive hconsumer
  · exact hnewest.2.2 k' hnewest'.1 hactive' hconsumer.symm

end LedgerFile

namespace SchemaStep

variable {env : SchemaEnv} {file t : LedgerFile}

/-- A step reaches what it is for. -/
theorem live_reaches (step : SchemaStep) (h : step.live env file = .ok t) : step.goal t := by
  have hcarries := run_carries h
  unfold live at h
  cases step with
  | collapse =>
    by_cases hold : file.version < 6
    · simp only [run, if_pos hold] at h
      cases h
      exact .inr LedgerFile.oneActive_collapsed
    · exact .inl (hcarries.current (Nat.not_lt.1 hold))
  | createTable table =>
    cases h
    exact LedgerFile.has_createTable file table
  | createIndex index => exact (LedgerFile.createIndex_carries h).2
  | seedCursorKey =>
    show (t.metaValue _).isSome = true
    rw [LedgerFile.metaValue_seedMeta h, Option.isSome_or]
    exact Bool.or_true _
  | seedRuns =>
    have hvalue := LedgerFile.metaValue_seedMeta h
    exact ⟨by rw [hvalue, Option.isSome_or]; exact Bool.or_true _,
      by rw [hvalue, Option.isSome_or]; exact Bool.or_true _⟩
  | addInstanceId => exact (addChecked_carries h).2
  | addErrorBody =>
    simp only [run] at h
    split at h
    · exact (addChecked_carries h).2
    · obtain ⟨rfl, hhas⟩ := LedgerFile.checked_ok h
      exact hhas
  | addPrice column =>
    by_cases hold : file.version < 6
    · simp only [run, if_pos hold] at h
      exact .inr (addChecked_carries h).2
    · exact .inl (hcarries.current (Nat.not_lt.1 hold))
  | copyAllowList =>
    by_cases hold : file.version < 6
    · simp only [run, if_pos hold] at h
      exact .inr (LedgerFile.migrateModelAllowList_carries h).2
    · exact .inl (hcarries.current (Nat.not_lt.1 hold))
  | dropAllowList =>
    by_cases hold : file.version < 6
    · simp only [run, if_pos hold] at h
      exact .inr (LedgerFile.dropLegacyAllowListColumn_carries h).2
    · exact .inl (hcarries.current (Nat.not_lt.1 hold))
  | checkTable table =>
    simp only [run] at h
    split at h
    · rename_i hhas
      cases h
      exact hhas
    · cases h
  | writeVersion => exact (LedgerFile.writeSchemaVersion_carries h).2

/-- A step that has reached what it is for does nothing. -/
theorem live_rests (step : SchemaStep) (h : step.goal file) : step.live env file = .ok file := by
  unfold live
  cases step with
  | collapse =>
    simp only [run]
    split
    · rename_i hold
      rw [LedgerFile.collapse_rests (h.resolve_left (Nat.not_le.2 hold))]
    · rfl
  | createTable table => exact congrArg Except.ok (LedgerFile.createTable_rests h)
  | createIndex index => exact LedgerFile.createIndex_rests h
  | seedCursorKey =>
    exact LedgerFile.seedMeta_rests (List.cons_ne_nil _ _) (List.forall_mem_singleton.2 h)
  | seedRuns =>
    exact LedgerFile.seedMeta_rests (List.cons_ne_nil _ _)
      (List.forall_mem_cons.2 ⟨h.1, List.forall_mem_singleton.2 h.2⟩)
  | addInstanceId =>
    simp only [run]
    rw [LedgerFile.addColumn_rests h]
    exact LedgerFile.checked_rests h
  | addErrorBody =>
    simp only [run]
    rw [LedgerFile.addColumn_rests h]
    split
    · exact LedgerFile.checked_rests h
    · exact LedgerFile.checked_rests h
  | addPrice column =>
    simp only [run]
    split
    · rename_i hold
      have hhas := h.resolve_left (Nat.not_le.2 hold)
      rw [LedgerFile.addColumn_rests hhas]
      exact LedgerFile.checked_rests hhas
    · rfl
  | copyAllowList =>
    simp only [run]
    split
    · rename_i hold
      exact LedgerFile.migrateModelAllowList_rests (h.resolve_left (Nat.not_le.2 hold))
    · rfl
  | dropAllowList =>
    simp only [run]
    split
    · rename_i hold
      exact LedgerFile.dropLegacyAllowListColumn_rests (h.resolve_left (Nat.not_le.2 hold))
    · rfl
  | checkTable table => exact if_pos h
  | writeVersion => exact LedgerFile.writeSchemaVersion_rests h

/-- What a step is for is not taken back. -/
theorem goal_carried {step : SchemaStep} (h : file.Carries t) (hgoal : step.goal file) : step.goal t := by
  cases step with
  | collapse => exact hgoal.imp h.current h.oneActive
  | createTable table => exact h.has table hgoal
  | createIndex index => exact h.indexes hgoal
  | seedCursorKey => exact h.someValue (by decide) hgoal
  | seedRuns => exact hgoal.imp (h.someValue (by decide)) (h.someValue (by decide))
  | addInstanceId => exact h.columns _ hgoal
  | addErrorBody => exact h.columns _ hgoal
  | addPrice column => exact hgoal.imp h.current (h.columns column)
  | copyAllowList =>
    exact hgoal.imp h.current (Or.imp h.plain (And.imp h.accounts h.emptied))
  | dropAllowList => exact hgoal.imp h.current h.plain
  | checkTable table => exact h.has table hgoal
  | writeVersion => exact h.stamped hgoal

theorem resumable : Stages.Resumable live goal where
  reaches step _ _ _ h := live_reaches step h
  rests step _ _ h := live_rests step h
  keeps _ _ _ _ h _ hgoal := goal_carried (run_carries h) hgoal

end SchemaStep

end PartnerPortal

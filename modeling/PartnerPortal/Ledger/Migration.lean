import PartnerPortal.Ledger.SchemaRows

/-!
# The migration to the sixth version

What the steps of an attempt keep of a database file.

Results:
- `LedgerFile.Carries` — a later state of a file: what a step is for is not taken back, and no step touches
  a key's identity, an account, a price or a usage row;
- `SchemaStep.run_carries` — every step keeps it;
- `SchemaStep.run_version` — and only the last one changes the version.
-/

namespace PartnerPortal

open MachineInt

/-! ## What a step keeps -/

namespace LedgerFile

/-- Every consumer with a key has an account. -/
def Accounts (file : LedgerFile) : Prop :=
  file.partners.isSome = true ∧
    ∀ k ∈ file.records, ∃ p ∈ file.partnerRows, p.consumerId = k.row.consumerId

/-- Every allow-list that is still there is empty. -/
def Emptied (file : LedgerFile) : Prop :=
  ∀ table lists, file.apiKeys = some table → table.rows.allowLists = some lists → ∀ list ∈ lists, list = []

/-- The recorded version is this build's. -/
def Stamped (file : LedgerFile) : Prop :=
  ∃ stored, file.ledgerMeta = some stored ∧ (stored.lookup "schema_version").isSome = true ∧
    ∀ entry ∈ stored, entry.1 = "schema_version" → entry.2 = toString schemaVersion

/-- The primary key of `ledger_meta`. -/
def metaKeys (file : LedgerFile) : List String := (file.ledgerMeta.getD []).map Prod.fst

/-- A later state of a file: what a step is for is not taken back, and what no step is for is untouched. -/
structure Carries (s t : LedgerFile) : Prop where
  has : ∀ table, s.has table = true → t.has table = true
  indexes : s.indexes ⊆ t.indexes
  columns : ∀ column, s.hasColumn column = true → t.hasColumn column = true
  oneActive : s.OneActive → t.OneActive
  accounts : s.Accounts → t.Accounts
  emptied : s.Emptied → t.Emptied
  plain : s.hasAllowList = false → t.hasAllowList = false
  values : ∀ key, key ≠ "schema_version" → ∀ value, s.metaValue key = some value →
    t.metaValue key = some value
  version : t.readSchemaVersion = s.readSchemaVersion ∨ t.readSchemaVersion = .ok schemaVersion
  stamped : s.Stamped → t.Stamped
  metaKeys : s.metaKeys.Nodup → t.metaKeys.Nodup
  identities : t.records.map KeyRecord.identity = s.records.map KeyRecord.identity
  revoked : ∀ k ∈ s.records, k.isActive = false → k ∈ t.records
  newest : ∀ k, Newest s.records k → k ∈ t.records
  active : ∀ k ∈ t.records, k.isActive = true → k ∈ s.records
  partners : s.partnerRows <+: t.partnerRows
  consumers : (s.partnerRows.map Partner.consumerId).Nodup → (t.partnerRows.map Partner.consumerId).Nodup
  models : t.partnerModels.getD [] = s.partnerModels.getD []
  usage : t.usageRows = s.usageRows
  statements : t.dailyStatements.getD [] = s.dailyStatements.getD []
  lines : t.statementLines.getD [] = s.statementLines.getD []
  hourly : t.usageHourly.getD [] = s.usageHourly.getD []
  instances : t.ledgerInstances.getD [] = s.ledgerInstances.getD []

namespace Carries

theorem refl (s : LedgerFile) : s.Carries s where
  has _ := id
  indexes := List.Subset.refl _
  columns _ := id
  oneActive := id
  accounts := id
  emptied := id
  plain := id
  values _ _ _ := id
  version := .inl rfl
  stamped := id
  metaKeys := id
  identities := rfl
  revoked _ hk _ := hk
  newest _ hk := hk.1
  active _ hk _ := hk
  partners := List.prefix_refl _
  consumers := id
  models := rfl
  usage := rfl
  statements := rfl
  lines := rfl
  hourly := rfl
  instances := rfl

/-- A newest key is still one later: no key becomes active. -/
theorem newest_of_carries {s t : LedgerFile} {k : KeyRecord} (h : s.Carries t) (hk : Newest s.records k) :
    Newest t.records k :=
  ⟨h.newest k hk, hk.2.1, fun other hother hactive hconsumer =>
    hk.2.2 other (h.active other hother hactive) hactive hconsumer⟩

theorem trans (s m t : LedgerFile) (h : s.Carries m) (h' : m.Carries t) : s.Carries t where
  has table hs := h'.has table (h.has table hs)
  indexes := List.Subset.trans h.indexes h'.indexes
  columns column hs := h'.columns column (h.columns column hs)
  oneActive hs := h'.oneActive (h.oneActive hs)
  accounts hs := h'.accounts (h.accounts hs)
  emptied hs := h'.emptied (h.emptied hs)
  plain hs := h'.plain (h.plain hs)
  values key hkey value hs := h'.values key hkey value (h.values key hkey value hs)
  version := by
    rcases h'.version with hsame | hcurrent
    · rw [hsame]
      exact h.version
    · exact .inr hcurrent
  stamped hs := h'.stamped (h.stamped hs)
  metaKeys hs := h'.metaKeys (h.metaKeys hs)
  identities := h'.identities.trans h.identities
  revoked k hk hrevoked := h'.revoked k (h.revoked k hk hrevoked) hrevoked
  newest k hk := h'.newest k (h.newest_of_carries hk)
  active k hk hactive := h.active k (h'.active k hk hactive) hactive
  partners := h.partners.trans h'.partners
  consumers hs := h'.consumers (h.consumers hs)
  models := h'.models.trans h.models
  usage := h'.usage.trans h.usage
  statements := h'.statements.trans h.statements
  lines := h'.lines.trans h.lines
  hourly := h'.hourly.trans h.hourly
  instances := h'.instances.trans h.instances

end Carries

/-! ### Step by step -/

variable {file t : LedgerFile} {now : String}

theorem readSchemaVersion_congr (h : t.metaValue "schema_version" = file.metaValue "schema_version") :
    t.readSchemaVersion = file.readSchemaVersion := by
  unfold readSchemaVersion
  rw [h]

theorem records_collapsed : (file.collapseDuplicateActiveKeys now).records =
    file.records.map (KeyRecord.collapse (newestActive file.records) now) := by
  unfold records collapseDuplicateActiveKeys
  cases file.apiKeys with
  | none => rfl
  | some table => exact KeyRows.records_update _ table.rows

theorem allowLists_collapsed {table : KeyTable}
    (h : (file.collapseDuplicateActiveKeys now).apiKeys = some table) :
    ∃ old, file.apiKeys = some old ∧ table.rows.allowLists = old.rows.allowLists := by
  obtain ⟨old, hold, rfl⟩ := Option.map_eq_some_iff.1 h
  exact ⟨old, hold, KeyRows.allowLists_update _ old.rows⟩

/-- The ids of the keys are distinct. -/
theorem ids_nodup (file : LedgerFile) : (file.records.map (·.row.id)).Nodup := by
  unfold records
  cases file.apiKeys with
  | none => exact List.nodup_nil
  | some table => exact table.primaryKey

theorem hasAllowList_collapsed (now : String) :
    (file.collapseDuplicateActiveKeys now).hasAllowList = file.hasAllowList := by
  unfold hasAllowList collapseDuplicateActiveKeys
  cases hkeys : file.apiKeys with
  | none => rfl
  | some table =>
    show (table.rows.update _).allowLists.isSome = table.rows.allowLists.isSome
    rw [KeyRows.allowLists_update]

theorem collapse_carries (file : LedgerFile) (now : String) :
    file.Carries (file.collapseDuplicateActiveKeys now) :=
  { Carries.refl file with
    has := by
      intro table htable
      cases table with
      | apiKeys =>
        show (file.apiKeys.map _).isSome = true
        rw [Option.isSome_map]
        exact htable
      | _ => exact htable
    oneActive := by
      intro hone
      unfold OneActive
      rw [records_collapsed]
      refine hone.update fun k hk hactive => ?_
      obtain ⟨hsame, hactive, -⟩ := collapse_active hactive
      exact ⟨hactive, by rw [hsame]⟩
    accounts := by
      rintro ⟨hpartners, hall⟩
      refine ⟨hpartners, fun k hk => ?_⟩
      rw [records_collapsed] at hk
      obtain ⟨old, hold, rfl⟩ := List.mem_map.1 hk
      obtain ⟨p, hp, hconsumer⟩ := hall old hold
      have hidentity := @collapse_identity old (newestActive file.records) now
      simp only [KeyRecord.identity, Prod.mk.injEq] at hidentity
      exact ⟨p, hp, hconsumer.trans hidentity.2.2.1.symm⟩
    emptied := by
      intro hempty table lists htable hlists
      obtain ⟨old, hold, hsame⟩ := allowLists_collapsed htable
      exact hempty old lists hold (hsame ▸ hlists)
    plain := fun hplain => (hasAllowList_collapsed now).trans hplain
    identities := by
      rw [records_collapsed, List.map_map]
      exact List.map_congr_left fun k _ => collapse_identity
    revoked := by
      intro k hk hrevoked
      rw [records_collapsed]
      exact List.mem_map.2 ⟨k, hk, collapse_inactive hrevoked⟩
    newest := by
      intro k hk
      rw [records_collapsed]
      exact List.mem_map.2 ⟨k, hk.1, collapse_spared
        ((mem_newestActive_iff file.ids_nodup hk.1 hk.2.1).2 hk)⟩
    active := by
      intro k hk hactive
      rw [records_collapsed] at hk
      obtain ⟨old, hold, rfl⟩ := List.mem_map.1 hk
      rw [(collapse_active hactive).1]
      exact hold }

theorem has_createTable (file : LedgerFile) (table : TableName) :
    (file.createTable table).has table = true := by
  unfold createTable
  split
  · assumption
  · cases table <;> rfl

/-- A new table is empty, and takes the place of none. -/
theorem createTable_carries (file : LedgerFile) (table : TableName) :
    file.Carries (file.createTable table) := by
  unfold createTable
  split
  · exact Carries.refl file
  rename_i hnone
  -- no other table comes or goes
  have hhas : ∀ (t : LedgerFile), (∀ other, other ≠ table → t.has other = file.has other) →
      ∀ other, file.has other = true → t.has other = true := by
    intro t hsame other hother
    have hne : other ≠ table := fun heq => hnone (heq ▸ hother)
    rw [hsame other hne]
    exact hother
  cases table with
  | usageRecords =>
    have hnone : file.usageRecords = none := by simpa [has] using hnone
    exact { Carries.refl file with
      has := hhas _ fun other hne => by cases other <;> first | rfl | exact absurd rfl hne
      columns := fun _ _ => rfl
      usage := by
        unfold usageRows
        rw [hnone]
        rfl }
  | ledgerInstances =>
    have hnone : file.ledgerInstances = none := by simpa [has] using hnone
    exact { Carries.refl file with
      has := hhas _ fun other hne => by cases other <;> first | rfl | exact absurd rfl hne
      instances := by
        rw [hnone]
        rfl }
  | usageHourly =>
    have hnone : file.usageHourly = none := by simpa [has] using hnone
    exact { Carries.refl file with
      has := hhas _ fun other hne => by cases other <;> first | rfl | exact absurd rfl hne
      hourly := by
        rw [hnone]
        rfl }
  | apiKeys =>
    have hnone : file.apiKeys = none := by simpa [has] using hnone
    have hrecords : file.records = [] := by
      unfold records
      rw [hnone]
      rfl
    exact { Carries.refl file with
      has := hhas _ fun other hne => by cases other <;> first | rfl | exact absurd rfl hne
      oneActive := fun _ => Tables.Indexed.nil
      accounts := fun haccounts => ⟨haccounts.1, nofun⟩
      emptied := by
        intro _ table lists htable hlists
        cases htable
        cases hlists
      plain := fun _ => rfl
      identities := by
        rw [hrecords]
        rfl
      revoked := by
        rw [hrecords]
        exact nofun
      newest := by
        rintro k ⟨hk, -⟩
        rw [hrecords] at hk
        cases hk
      active := nofun }
  | partners =>
    have hnone : file.partners = none := by simpa [has] using hnone
    have hrows : file.partnerRows = [] := by
      unfold partnerRows
      rw [hnone]
      rfl
    exact { Carries.refl file with
      has := hhas _ fun other hne => by cases other <;> first | rfl | exact absurd rfl hne
      accounts := by
        rintro ⟨hsome, -⟩
        rw [hnone] at hsome
        cases hsome
      partners := by
        rw [hrows]
        exact List.nil_prefix
      consumers := fun _ => List.nodup_nil }
  | partnerModels =>
    have hnone : file.partnerModels = none := by simpa [has] using hnone
    exact { Carries.refl file with
      has := hhas _ fun other hne => by cases other <;> first | rfl | exact absurd rfl hne
      models := by
        rw [hnone]
        rfl }
  | dailyStatements =>
    have hnone : file.dailyStatements = none := by simpa [has] using hnone
    exact { Carries.refl file with
      has := hhas _ fun other hne => by cases other <;> first | rfl | exact absurd rfl hne
      statements := by
        rw [hnone]
        rfl }
  | statementLines =>
    have hnone : file.statementLines = none := by simpa [has] using hnone
    exact { Carries.refl file with
      has := hhas _ fun other hne => by cases other <;> first | rfl | exact absurd rfl hne
      lines := by
        rw [hnone]
        rfl }
  | ledgerMeta =>
    have hnone : file.ledgerMeta = none := by simpa [has] using hnone
    have hvalue : ∀ key, file.metaValue key = none := by
      intro key
      unfold metaValue
      rw [hnone]
      rfl
    exact { Carries.refl file with
      has := hhas _ fun other hne => by cases other <;> first | rfl | exact absurd rfl hne
      values := by
        intro key _ value hstored
        rw [hvalue] at hstored
        cases hstored
      version := .inl (readSchemaVersion_congr (hvalue _).symm)
      stamped := by
        rintro ⟨stored, hstored, -⟩
        rw [hnone] at hstored
        cases hstored
      metaKeys := fun _ => List.nodup_nil }

/-! ### Indexes, values and columns -/

theorem createIndex_cases {index : IndexName} (h : file.createIndex index = .ok t) :
    (index ∈ file.indexes ∧ t = file) ∨
      t = { file with indexes := file.indexes ++ [index] } ∧
        (index = .apiKeysOneActivePerConsumer → file.OneActive) := by
  unfold createIndex at h
  split at h
  · rename_i hmem
    cases h
    exact .inl ⟨hmem, rfl⟩
  · split at h
    · cases h
    · split at h
      · cases h
      · rename_i hunique
        cases h
        exact .inr ⟨rfl, fun hindex => not_not.1 fun hnot => hunique ⟨hindex, hnot⟩⟩

theorem createIndex_carries {index : IndexName} (h : file.createIndex index = .ok t) :
    file.Carries t ∧ index ∈ t.indexes := by
  obtain ⟨hmem, rfl⟩ | ⟨rfl, -⟩ := createIndex_cases h
  · exact ⟨Carries.refl t, hmem⟩
  · exact ⟨{ Carries.refl file with indexes := List.subset_append_left _ _ },
      List.mem_append_right _ (List.mem_singleton.2 rfl)⟩

theorem seedMeta_cases {entries : List (String × String)} (h : file.seedMeta entries = .ok t) :
    ∃ stored, file.ledgerMeta = some stored ∧
      t = { file with ledgerMeta := some (entries.foldl insertOrIgnore stored) } := by
  unfold seedMeta at h
  split at h
  · cases h
  · rename_i stored hstored
    cases h
    exact ⟨stored, hstored, rfl⟩

theorem metaValue_seedMeta {entries : List (String × String)} (h : file.seedMeta entries = .ok t)
    (key : String) :
    t.metaValue key = (file.metaValue key).or (entries.lookup key) := by
  obtain ⟨stored, hstored, rfl⟩ := seedMeta_cases h
  unfold metaValue
  rw [hstored]
  exact lookup_insertAll

theorem seedMeta_carries {entries : List (String × String)} (h : file.seedMeta entries = .ok t)
    (hentries : entries.lookup "schema_version" = none) : file.Carries t := by
  have hvalue := metaValue_seedMeta h
  obtain ⟨stored, hstored, rfl⟩ := seedMeta_cases h
  exact { Carries.refl file with
    has := by
      intro table htable
      cases table with
      | ledgerMeta => rfl
      | _ => exact htable
    values := by
      intro key _ value hkey
      rw [hvalue, hkey]
      rfl
    version := by
      refine .inl (readSchemaVersion_congr ?_)
      rw [hvalue, hentries, Option.or_none]
    stamped := by
      rintro ⟨old, hold, hsome, hsame⟩
      rw [hstored] at hold
      cases hold
      refine ⟨_, rfl, ?_, fun entry hentry hkey => ?_⟩
      · rw [lookup_insertAll, hentries, Option.or_none]
        exact hsome
      · -- no seed is a version, so a version that is there is one of those that were
        rcases mem_insertAll hentry with hmem | hnew
        · exact hsame entry hmem hkey
        · have hsome : (entries.lookup "schema_version").isSome = true :=
            List.lookup_isSome_iff.2 ⟨entry, hnew, beq_iff_eq.2 hkey.symm⟩
          rw [hentries] at hsome
          cases hsome
    metaKeys := by
      unfold metaKeys
      rw [hstored]
      exact insertAll_nodup }

theorem addColumn_cases {column : UsageColumn} (h : file.addColumn column = .ok t) :
    (file.hasColumn column = true ∧ t = file) ∨ ∃ table, file.usageRecords = some table ∧
      t = { file with usageRecords := some (table.addColumn column) } := by
  unfold addColumn at h
  split at h
  · rename_i hhas
    cases h
    exact .inl ⟨hhas, rfl⟩
  · split at h
    · cases h
    · rename_i table htable
      cases h
      exact .inr ⟨table, htable, rfl⟩

theorem addColumn_carries {column : UsageColumn} (h : file.addColumn column = .ok t) :
    file.Carries t ∧ t.hasColumn column = true := by
  obtain ⟨hhas, rfl⟩ | ⟨table, htable, rfl⟩ := addColumn_cases h
  · exact ⟨Carries.refl t, hhas⟩
  refine ⟨{ Carries.refl file with
    has := ?_
    columns := ?_
    usage := ?_ }, Function.update_self _ _ _⟩
  · intro name hname
    cases name with
    | usageRecords => rfl
    | _ => exact hname
  · intro other hother
    unfold hasColumn at hother
    rw [htable] at hother
    show Function.update table.columns column true other = true
    by_cases hsame : other = column
    · rw [hsame, Function.update_self]
    · rw [Function.update_of_ne hsame]
      exact hother
  · unfold usageRows
    rw [htable]
    rfl

theorem checked_ok {column : UsageColumn} {name : String} (h : SchemaStep.checked column name file = .ok t) :
    t = file ∧ file.hasColumn column = true := by
  unfold SchemaStep.checked at h
  split at h
  · rename_i hhas
    cases h
    exact ⟨rfl, hhas⟩
  · cases h

theorem writeSchemaVersion_carries (h : file.writeSchemaVersion schemaVersion = .ok t) :
    file.Carries t ∧ t.Stamped := by
  unfold writeSchemaVersion at h
  split at h
  · cases h
  rename_i stored hstored
  cases h
  have hversion : readSchemaVersion { file with
      ledgerMeta := some (upsert "schema_version" (toString schemaVersion) stored) } = .ok schemaVersion := by
    unfold readSchemaVersion metaValue
    rw [Option.bind_some, lookup_upsert_self]
    decide +kernel
  have hstamped : Stamped { file with
      ledgerMeta := some (upsert "schema_version" (toString schemaVersion) stored) } :=
    ⟨_, rfl, by rw [lookup_upsert_self]; rfl, fun _ hentry hkey => mem_upsert hentry hkey⟩
  refine ⟨{ Carries.refl file with
    has := ?_
    values := ?_
    version := .inr hversion
    stamped := fun _ => hstamped
    metaKeys := ?_ }, hstamped⟩
  · intro name hname
    cases name with
    | ledgerMeta => rfl
    | _ => exact hname
  · intro key hkey value hvalue
    unfold metaValue at hvalue ⊢
    rw [hstored] at hvalue
    exact (lookup_upsert hkey).trans hvalue
  · unfold metaKeys
    rw [hstored]
    exact upsert_nodup

/-! ### The allow-list -/

theorem listed_of_hasAllowList (h : file.hasAllowList = true) :
    ∃ table rows, file.apiKeys = some table ∧ table.rows = .listed rows := by
  unfold hasAllowList at h
  cases hkeys : file.apiKeys with
  | none =>
    rw [hkeys] at h
    cases h
  | some table =>
    cases hrows : table.rows with
    | plain rows =>
      rw [hkeys, Option.any_some, hrows] at h
      cases h
    | listed rows => exact ⟨table, rows, rfl, hrows⟩

section Listed

variable {table : KeyTable} {rows : List ListedKey}

theorem hasAllowList_listed (hkeys : file.apiKeys = some table) (hrows : table.rows = .listed rows) :
    file.hasAllowList = true := by
  unfold hasAllowList
  rw [hkeys, Option.any_some, hrows]
  rfl

theorem records_listed (hkeys : file.apiKeys = some table) (hrows : table.rows = .listed rows) :
    file.records = rows.map ListedKey.record := by
  unfold records
  rw [hkeys]
  show table.rows.records = _
  rw [hrows]
  rfl

theorem migrateModelAllowList_listed (hkeys : file.apiKeys = some table)
    (hrows : table.rows = .listed rows) : file.migrateModelAllowList now =
      match file.partners with
      | none => .error (.sqlite .other)
      | some partners => .ok { file with
        partners := some ((owedAccounts rows).foldl (openAccount now) partners)
        apiKeys := some table.emptied } := by
  unfold migrateModelAllowList
  cases file.partners with
  | none => simp only [hkeys, hrows]
  | some partners => simp only [hkeys, hrows]

theorem dropLegacyAllowListColumn_listed (hkeys : file.apiKeys = some table)
    (hrows : table.rows = .listed rows) : file.dropLegacyAllowListColumn =
      if ¬(table.rows.records.map (·.keyHash)).Nodup then .error (.sqlite .constraintUnique)
      else if !table.rows.records.all checksKey then .error (.sqlite .constraintCheck)
      else [IndexName.apiKeysActive, .apiKeysOneActivePerConsumer, .apiKeysConsumer].foldlM
        (fun (file : LedgerFile) index => file.createIndex index) { file with
          apiKeys := some table.rebuilt
          indexes := file.indexes.filter fun index => index.table ≠ .apiKeys } := by
  unfold dropLegacyAllowListColumn
  simp only [hkeys, hrows]

end Listed

theorem plain_of_hasAllowList (h : file.hasAllowList = false) {table : KeyTable}
    (hkeys : file.apiKeys = some table) : ∃ rows, table.rows = .plain rows := by
  cases hrows : table.rows with
  | plain rows => exact ⟨rows, rfl⟩
  | listed rows =>
    rw [hasAllowList_listed hkeys hrows] at h
    cases h

theorem migrateModelAllowList_plain (h : file.hasAllowList = false) :
    file.migrateModelAllowList now = .ok file := by
  unfold migrateModelAllowList
  cases hkeys : file.apiKeys with
  | none => rfl
  | some table =>
    obtain ⟨rows, hrows⟩ := plain_of_hasAllowList h hkeys
    simp only [hrows]

theorem dropLegacyAllowListColumn_rests (h : file.hasAllowList = false) :
    file.dropLegacyAllowListColumn = .ok file := by
  unfold dropLegacyAllowListColumn
  cases hkeys : file.apiKeys with
  | none => rfl
  | some table =>
    obtain ⟨rows, hrows⟩ := plain_of_hasAllowList h hkeys
    simp only [hrows]

/-- The copy does nothing without allow-lists. -/
theorem migrateModelAllowList_cases (h : file.migrateModelAllowList now = .ok t) :
    (file.hasAllowList = false ∧ t = file) ∨ ∃ table rows partners, file.apiKeys = some table ∧
      table.rows = .listed rows ∧ file.partners = some partners ∧
      t = { file with
        partners := some ((owedAccounts rows).foldl (openAccount now) partners)
        apiKeys := some table.emptied } := by
  cases hlist : file.hasAllowList with
  | false =>
    rw [migrateModelAllowList_plain hlist] at h
    cases h
    exact .inl ⟨rfl, rfl⟩
  | true =>
    obtain ⟨table, rows, hkeys, hrows⟩ := listed_of_hasAllowList hlist
    rw [migrateModelAllowList_listed hkeys hrows] at h
    split at h
    · cases h
    · rename_i partners hpartners
      cases h
      exact .inr ⟨table, rows, partners, hkeys, hrows, hpartners, rfl⟩

theorem migrateModelAllowList_carries (h : file.migrateModelAllowList now = .ok t) :
    file.Carries t ∧ (t.hasAllowList = false ∨ t.Accounts ∧ t.Emptied) := by
  obtain ⟨hplain, rfl⟩ | ⟨table, rows, partners, hkeys, hrows, hpartners, rfl⟩ :=
    migrateModelAllowList_cases h
  · exact ⟨Carries.refl t, .inl hplain⟩
  have hrecords := records_listed hkeys hrows
  -- only the lists of the keys change, and nothing else of them
  have hsame : records { file with
      partners := some ((owedAccounts rows).foldl (openAccount now) partners)
      apiKeys := some table.emptied } = file.records := by
    rw [hrecords]
    show table.rows.emptied.records = _
    rw [KeyRows.records_emptied, hrows]
    rfl
  have hold : file.partnerRows = partners := by
    unfold partnerRows
    rw [hpartners]
    rfl
  -- every key's consumer is owed an account, and it is there or opened
  have haccounts : Accounts { file with
      partners := some ((owedAccounts rows).foldl (openAccount now) partners)
      apiKeys := some table.emptied } := by
    refine ⟨rfl, fun k hk => ?_⟩
    rw [hsame, hrecords] at hk
    obtain ⟨account, hmem, hconsumer⟩ := owedAccounts_covers hk
    obtain ⟨p, hp, hopened⟩ := openAccounts_opens now partners hmem
    exact ⟨p, hp, hopened.trans hconsumer⟩
  have hemptied : Emptied { file with
      partners := some ((owedAccounts rows).foldl (openAccount now) partners)
      apiKeys := some table.emptied } := by
    intro other lists hother hlists list hlist
    cases hother
    have hlists : table.rows.emptied.allowLists = some lists := hlists
    rw [hrows] at hlists
    cases hlists
    obtain ⟨row, hrow, rfl⟩ := List.mem_map.1 hlist
    obtain ⟨_, -, rfl⟩ := List.mem_map.1 hrow
    rfl
  refine ⟨{ Carries.refl file with
    has := ?_
    oneActive := ?_
    accounts := fun _ => haccounts
    emptied := fun _ => hemptied
    plain := ?_
    identities := congrArg (List.map KeyRecord.identity) hsame
    revoked := fun _ hk _ => hsame ▸ hk
    newest := fun _ hk => hsame ▸ hk.1
    active := fun _ hk _ => hsame ▸ hk
    partners := ?_
    consumers := ?_ }, .inr ⟨haccounts, hemptied⟩⟩
  · intro name hname
    cases name with
    | apiKeys => rfl
    | partners => rfl
    | _ => exact hname
  · intro hone
    unfold OneActive
    rw [hsame]
    exact hone
  · intro hplain
    rw [hasAllowList_listed hkeys hrows] at hplain
    cases hplain
  · rw [hold]
    exact openAccounts_keeps now partners (owedAccounts rows)
  · rw [hold]
    exact openAccounts_nodup

theorem createIndexes_spec {list : List IndexName}
    (h : list.foldlM (fun file index => file.createIndex index) file = .ok t) :
    (∃ indexes, t = { file with indexes := indexes }) ∧ file.indexes ⊆ t.indexes ∧ list ⊆ t.indexes := by
  induction list generalizing file with
  | nil =>
    cases h
    exact ⟨⟨_, rfl⟩, List.Subset.refl _, List.nil_subset _⟩
  | cons index list ih =>
    rw [List.foldlM_cons] at h
    obtain ⟨m, hindex, h⟩ := Result.bind_ok_iff.1 h
    obtain ⟨⟨indexes, hsame⟩, hkept, hlist⟩ := ih h
    obtain ⟨hcarries, hcreated⟩ := createIndex_carries hindex
    refine ⟨⟨indexes, ?_⟩, List.Subset.trans hcarries.indexes hkept,
      List.cons_subset.2 ⟨hkept hcreated, hlist⟩⟩
    rw [hsame]
    obtain ⟨-, rfl⟩ | ⟨rfl, -⟩ := createIndex_cases hindex
    · rfl
    · rfl

/-- The rebuild does nothing without allow-lists, and leaves what was not the table's. -/
theorem dropLegacyAllowListColumn_cases (h : file.dropLegacyAllowListColumn = .ok t) :
    (file.hasAllowList = false ∧ t = file) ∨ ∃ table indexes, file.apiKeys = some table ∧
      file.indexes ⊆ indexes ∧ t = { file with apiKeys := some table.rebuilt, indexes := indexes } := by
  cases hlist : file.hasAllowList with
  | false =>
    rw [dropLegacyAllowListColumn_rests hlist] at h
    cases h
    exact .inl ⟨rfl, rfl⟩
  | true =>
    obtain ⟨table, rows, hkeys, hrows⟩ := listed_of_hasAllowList hlist
    rw [dropLegacyAllowListColumn_listed hkeys hrows] at h
    split at h
    · cases h
    · split at h
      · cases h
      · obtain ⟨⟨indexes, rfl⟩, hkept, hcreated⟩ := createIndexes_spec h
        refine .inr ⟨table, indexes, hkeys, fun index hindex => ?_, rfl⟩
        by_cases htable : index.table = .apiKeys
        · -- an index of the old table is created again
          refine hcreated ?_
          cases index <;> first | decide | cases htable
        · exact hkept (List.mem_filter.2 ⟨hindex, decide_eq_true htable⟩)

theorem dropLegacyAllowListColumn_carries (h : file.dropLegacyAllowListColumn = .ok t) :
    file.Carries t ∧ t.hasAllowList = false := by
  obtain ⟨hplain, rfl⟩ | ⟨table, indexes, hkeys, hkept, rfl⟩ := dropLegacyAllowListColumn_cases h
  · exact ⟨Carries.refl t, hplain⟩
  have hsame : records { file with apiKeys := some table.rebuilt, indexes := indexes } = file.records := by
    unfold records
    rw [hkeys]
    rfl
  refine ⟨{ Carries.refl file with
    has := ?_
    indexes := hkept
    oneActive := ?_
    accounts := ?_
    emptied := ?_
    plain := fun _ => rfl
    identities := congrArg (List.map KeyRecord.identity) hsame
    revoked := fun _ hk _ => hsame ▸ hk
    newest := fun _ hk => hsame ▸ hk.1
    active := fun _ hk _ => hsame ▸ hk }, rfl⟩
  · intro name hname
    cases name with
    | apiKeys => rfl
    | _ => exact hname
  · intro hone
    unfold OneActive
    rw [hsame]
    exact hone
  · rintro ⟨hsome, hall⟩
    exact ⟨hsome, fun k hk => hall k (hsame ▸ hk)⟩
  · intro _ other lists hother hlists
    cases hother
    cases hlists

end LedgerFile

/-! ### All of them -/

namespace SchemaStep

variable {found : Nat} {env : SchemaEnv} {file t : LedgerFile} {step : SchemaStep}

theorem addChecked_carries {column : UsageColumn} {name : String}
    (h : (do let altered ← file.addColumn column; checked column name altered) = .ok t) :
    file.Carries t ∧ t.hasColumn column = true := by
  obtain ⟨altered, hadd, hcheck⟩ := Result.bind_ok_iff.1 h
  obtain ⟨rfl, -⟩ := LedgerFile.checked_ok hcheck
  exact LedgerFile.addColumn_carries hadd

/-- What a step does where it does something. -/
inductive Edit (env : SchemaEnv) (file : LedgerFile) : SchemaStep → LedgerFile → Prop
  | collapsed : Edit env file .collapse (file.collapseDuplicateActiveKeys env.collapsedAt)
  | created (table : TableName) : Edit env file (.createTable table) (file.createTable table)
  | indexed {index : IndexName} {t : LedgerFile} (h : file.createIndex index = .ok t) :
      Edit env file (.createIndex index) t
  | seeded {step : SchemaStep} {entries : List (String × String)} {t : LedgerFile}
      (hentries : entries.lookup "schema_version" = none) (h : file.seedMeta entries = .ok t) :
      Edit env file step t
  | altered {step : SchemaStep} {column : UsageColumn} {t : LedgerFile}
      (h : file.addColumn column = .ok t) : Edit env file step t
  | copied {t : LedgerFile} (h : file.migrateModelAllowList env.copiedAt = .ok t) :
      Edit env file .copyAllowList t
  | rebuilt {t : LedgerFile} (h : file.dropLegacyAllowListColumn = .ok t) :
      Edit env file .dropAllowList t
  | versioned {t : LedgerFile} (h : file.writeSchemaVersion schemaVersion = .ok t) :
      Edit env file .writeVersion t

theorem addChecked_edit {column : UsageColumn} {name : String}
    (h : (do let altered ← file.addColumn column; checked column name altered) = .ok t) :
    Edit env file step t := by
  obtain ⟨altered, hadd, hcheck⟩ := Result.bind_ok_iff.1 h
  obtain ⟨rfl, -⟩ := LedgerFile.checked_ok hcheck
  exact .altered hadd

/-- A step does nothing where the version it found does not call for it. -/
theorem run_cases (h : step.run found env file = .ok t) : t = file ∨ Edit env file step t := by
  cases step with
  | collapse =>
    cases h
    split
    · exact .inr .collapsed
    · exact .inl rfl
  | createTable table =>
    cases h
    exact .inr (.created table)
  | createIndex index => exact .inr (.indexed h)
  | seedCursorKey => exact .inr (.seeded rfl h)
  | seedRuns => exact .inr (.seeded rfl h)
  | addInstanceId => exact .inr (addChecked_edit h)
  | addErrorBody =>
    simp only [run] at h
    split at h
    · exact .inr (addChecked_edit h)
    · exact .inl (LedgerFile.checked_ok h).1
  | addPrice column =>
    simp only [run] at h
    split at h
    · exact .inr (addChecked_edit h)
    · cases h
      exact .inl rfl
  | copyAllowList =>
    simp only [run] at h
    split at h
    · exact .inr (.copied h)
    · cases h
      exact .inl rfl
  | dropAllowList =>
    simp only [run] at h
    split at h
    · exact .inr (.rebuilt h)
    · cases h
      exact .inl rfl
  | checkTable table =>
    simp only [run] at h
    split at h
    · cases h
      exact .inl rfl
    · cases h
  | writeVersion => exact .inr (.versioned h)

/-- No step takes back what another is for. -/
theorem run_carries (h : step.run found env file = .ok t) : file.Carries t := by
  obtain rfl | hedit := run_cases h
  · exact .refl t
  cases hedit with
  | collapsed => exact LedgerFile.collapse_carries file env.collapsedAt
  | created table => exact LedgerFile.createTable_carries file table
  | indexed h => exact (LedgerFile.createIndex_carries h).1
  | seeded hentries h => exact LedgerFile.seedMeta_carries h hentries
  | altered h => exact (LedgerFile.addColumn_carries h).1
  | copied h => exact (LedgerFile.migrateModelAllowList_carries h).1
  | rebuilt h => exact (LedgerFile.dropLegacyAllowListColumn_carries h).1
  | versioned h => exact (LedgerFile.writeSchemaVersion_carries h).1

/-- Only the last step changes the version. -/
theorem run_version (h : step.run found env file = .ok t) (hstep : step ≠ .writeVersion) :
    t.readSchemaVersion = file.readSchemaVersion := by
  obtain rfl | hedit := run_cases h
  · rfl
  refine LedgerFile.readSchemaVersion_congr ?_
  cases hedit with
  | collapsed => rfl
  | created table =>
    unfold LedgerFile.createTable
    split
    · rfl
    · rename_i hnone
      cases table with
      | ledgerMeta =>
        have hnone : file.ledgerMeta = none := by simpa [LedgerFile.has] using hnone
        unfold LedgerFile.metaValue
        rw [hnone]
        rfl
      | _ => rfl
  | indexed h =>
    obtain ⟨-, rfl⟩ | ⟨rfl, -⟩ := LedgerFile.createIndex_cases h
    · rfl
    · rfl
  | seeded hentries h => rw [LedgerFile.metaValue_seedMeta h, hentries, Option.or_none]
  | altered h =>
    obtain ⟨-, rfl⟩ | ⟨_, -, rfl⟩ := LedgerFile.addColumn_cases h
    · rfl
    · rfl
  | copied h =>
    obtain ⟨-, rfl⟩ | ⟨_, _, _, -, -, -, rfl⟩ := LedgerFile.migrateModelAllowList_cases h
    · rfl
    · rfl
  | rebuilt h =>
    obtain ⟨-, rfl⟩ | ⟨_, _, -, -, rfl⟩ := LedgerFile.dropLegacyAllowListColumn_cases h
    · rfl
    · rfl
  | versioned => exact absurd rfl hstep

/-- And only the rebuild drops the allow-lists. -/
theorem run_listed (h : step.run found env file = .ok t) (hstep : step ≠ .dropAllowList)
    (hlisted : file.hasAllowList = true) : t.hasAllowList = true := by
  obtain rfl | hedit := run_cases h
  · exact hlisted
  cases hedit with
  | collapsed => exact (LedgerFile.hasAllowList_collapsed env.collapsedAt).trans hlisted
  | created table =>
    unfold LedgerFile.createTable
    split
    · exact hlisted
    · rename_i hnone
      cases table with
      | apiKeys =>
        -- a file with allow-lists has the table that they are a column of
        have hnone : file.apiKeys = none := by simpa [LedgerFile.has] using hnone
        unfold LedgerFile.hasAllowList at hlisted
        rw [hnone] at hlisted
        cases hlisted
      | _ => exact hlisted
  | indexed h =>
    obtain ⟨-, rfl⟩ | ⟨rfl, -⟩ := LedgerFile.createIndex_cases h
    · exact hlisted
    · exact hlisted
  | seeded _ h =>
    obtain ⟨_, -, rfl⟩ := LedgerFile.seedMeta_cases h
    exact hlisted
  | altered h =>
    obtain ⟨-, rfl⟩ | ⟨_, -, rfl⟩ := LedgerFile.addColumn_cases h
    · exact hlisted
    · exact hlisted
  | copied h =>
    obtain ⟨-, rfl⟩ | ⟨table, rows, _, -, hrows, -, rfl⟩ := LedgerFile.migrateModelAllowList_cases h
    · exact hlisted
    · -- the lists are emptied, and are still there
      show table.rows.emptied.allowLists.isSome = true
      rw [hrows]
      rfl
  | rebuilt => exact absurd rfl hstep
  | versioned h =>
    unfold LedgerFile.writeSchemaVersion at h
    split at h
    · cases h
    · cases h
      exact hlisted

end SchemaStep

end PartnerPortal

import PartnerPortal.Ledger.Undrawn

/-!
# The upgrade to the sixth version

An attempt at the migration can end after any of its steps, and the next one begins again with the first.

Results:
- `LedgerFile.IsV5.migrated` — what becomes of a database once every step was taken;
- `migration_resumes` — after any interrupted attempts on a database of the fifth version an attempt
  completes it as one alone would have, and a database of the sixth version stays as it is.
-/

namespace PartnerPortal

open MachineInt

/-! ## Attempts -/

namespace LedgerFile

/-- Attempts one after another, each of which ends after some of its steps. -/
inductive Attempts : LedgerFile → LedgerFile → Prop
  | none (file : LedgerFile) : Attempts file file
  | again {s m t : LedgerFile} (env : SchemaEnv) (n : Nat) (h : Attempts s m)
      (hrun : m.attempt env n = .ok t) : Attempts s t

/-- A database of the fifth version, with the primary keys that are unique in it. -/
structure IsV5 (file : LedgerFile) : Prop where
  version : file.metaValue "schema_version" = some "5"
  allowLists : file.hasAllowList = true
  prices : ∀ column ∈ [UsageColumn.inputPriceSnapshot, .cachedInputPriceSnapshot, .outputPriceSnapshot],
    file.hasColumn column = false
  consumers : (file.partnerRows.map Partner.consumerId).Nodup
  metaKeys : file.metaKeys.Nodup

/-- A database of the sixth version. -/
structure IsV6 (file : LedgerFile) : Prop where
  version : file.Stamped
  tables : ∀ table, file.has table = true
  indexes : ∀ index, index ∈ file.indexes
  columns : ∀ column, file.hasColumn column = true
  values : ∀ key ∈ ["cursor_key", "last_retention_run", "last_recovery_run"],
    (file.metaValue key).isSome = true
  plain : file.hasAllowList = false
  oneActive : file.OneActive

/-- What becomes of a database of the fifth version. -/
structure Migrated (before after : LedgerFile) : Prop where
  identities : after.records.map KeyRecord.identity = before.records.map KeyRecord.identity
  active : ∀ k, k ∈ after.records ∧ k.isActive = true ↔ Newest before.records k
  oneEach : ∀ k ∈ before.records, k.isActive = true → ∃! best, best ∈ after.records ∧
    best.isActive = true ∧ best.row.consumerId = k.row.consumerId
  superseded : ∀ k ∈ before.records, k.isActive = true → ¬Newest before.records k →
    ∃ k' ∈ after.records, k'.identity = k.identity ∧ k'.row.status = .revoked
  revoked : ∀ k ∈ before.records, k.isActive = false → k ∈ after.records
  accounts : ∀ k ∈ before.records,
    (after.partnerRows.filter fun p => p.consumerId = k.row.consumerId).length = 1
  partners : before.partnerRows <+: after.partnerRows
  models : after.partnerModels.getD [] = before.partnerModels.getD []
  usage : after.usageRows = before.usageRows
  unpriced : ∀ row ∈ after.usageRows, row.isNull .inputPriceSnapshot = true ∧
    row.isNull .cachedInputPriceSnapshot = true ∧ row.isNull .outputPriceSnapshot = true
  oneActiveIndex : IndexName.apiKeysOneActivePerConsumer ∈ after.indexes
  plain : after.hasAllowList = false

variable {before reached after file : LedgerFile} {env : SchemaEnv}

/-! ### One attempt -/

theorem readSchemaVersion_of_meta {text : String} {version : Nat}
    (h : file.metaValue "schema_version" = some text)
    (hversion : parseU32 (Text.trim text) = some version) :
    file.readSchemaVersion = .ok version := by
  unfold readSchemaVersion
  simp only [h, hversion]

theorem Stamped.readSchemaVersion (h : file.Stamped) : file.readSchemaVersion = .ok schemaVersion := by
  obtain ⟨stored, hstored, hsome, hsame⟩ := h
  obtain ⟨value, hvalue⟩ := Option.isSome_iff_exists.1 hsome
  obtain ⟨front, back, rfl, -⟩ := List.lookup_eq_some_iff.1 hvalue
  have hvalue' := hsame ("schema_version", value) (List.mem_append_right _ List.mem_cons_self) rfl
  have hmeta : file.metaValue "schema_version" = some (toString schemaVersion) := by
    unfold metaValue
    rw [hstored, ← hvalue']
    exact hvalue
  exact readSchemaVersion_of_meta hmeta (by decide +kernel)

theorem version_of_read {version : Nat} (h : file.readSchemaVersion = .ok version) :
    file.version = version := by
  unfold LedgerFile.version
  rw [h]

/-- Every step but the last leaves the version. -/
theorem live_version {step : SchemaStep} (h : step.live env file = .ok after) (hstep : step ≠ .writeVersion) :
    after.readSchemaVersion = file.readSchemaVersion := SchemaStep.run_version h hstep

/-- The steps before the last. -/
def schemaBody : List SchemaStep := .collapse :: (schemaSql ++ alterations ++ .copyAllowList :: conclusions)

theorem mem_body_of_mem_dropLast {step : SchemaStep} {n : Nat} (h : step ∈ (schemaSteps.take n).dropLast) :
    step ∈ schemaBody := by
  rw [List.dropLast_eq_take, List.take_take, List.length_take] at h
  have hmem := List.take_subset_take_left schemaSteps
    (show min (min n schemaSteps.length - 1) n ≤ schemaSteps.length - 1 by omega) h
  rw [← List.dropLast_eq_take] at hmem
  exact hmem

theorem ne_writeVersion_of_mem_body : ∀ step ∈ schemaBody, step ≠ .writeVersion := by decide

variable {found n : Nat}

/-- An attempt reads the version once, and could as well read it before each step. -/
theorem attempt_eq (h : file.readSchemaVersion = .ok found) (hle : found ≤ schemaVersion) :
    file.attempt env n = Stages.runAll SchemaStep.live env (schemaSteps.take n) file := by
  unfold attempt
  rw [h, Result.ok_bind, if_neg (Nat.not_lt.2 hle)]
  refine Stages.runAll_fixed (version_of_read h) fun step hstep s t hrun => ?_
  have hsame := live_version hrun (ne_writeVersion_of_mem_body step (mem_body_of_mem_dropLast hstep))
  unfold LedgerFile.version
  rw [hsame]

theorem initSchema_eq_attempt : file.initSchema env = file.attempt env schemaSteps.length := by
  unfold initSchema attempt
  rw [List.take_length]

theorem initSchema_eq (h : file.readSchemaVersion = .ok found) (hle : found ≤ schemaVersion) :
    file.initSchema env = Stages.runAll SchemaStep.live env schemaSteps file := by
  rw [initSchema_eq_attempt, attempt_eq h hle, List.take_length]

/-- An attempt that gets anywhere found a version that it knows. -/
theorem version_of_attempt (h : file.attempt env n = .ok after) :
    ∃ found ≤ schemaVersion, file.readSchemaVersion = .ok found := by
  unfold attempt at h
  obtain ⟨found, hfound, h⟩ := Result.bind_ok_iff.1 h
  split at h
  · cases h
  · rename_i hle
    exact ⟨found, Nat.not_lt.1 hle, hfound⟩

theorem Carries.of_taken {steps : List SchemaStep} (h : Stages.Taken SchemaStep.live steps before after) :
    before.Carries after :=
  h.relates Carries.refl Carries.trans fun _ _ _ _ _ hrun => SchemaStep.run_carries hrun

theorem Attempts.attempted (h : before.Attempts reached) :
    Stages.Attempted SchemaStep.live schemaSteps before reached := by
  induction h with
  | none => exact .none _
  | again env n _ hrun ih =>
    obtain ⟨found, hle, hfound⟩ := version_of_attempt hrun
    exact .again env n ih ((attempt_eq hfound hle).symm.trans hrun)

theorem Attempts.carries (h : before.Attempts reached) : before.Carries reached := by
  obtain ⟨front, back, -, htaken⟩ := h.attempted.taken SchemaStep.resumable
  exact .of_taken htaken

/-- A database of the sixth version stays as it is. -/
theorem IsV6.rests (h : file.IsV6) : file.initSchema env = .ok file := by
  rw [initSchema_eq h.version.readSchemaVersion (Nat.le_refl _)]
  refine Stages.runAll_rests SchemaStep.resumable fun step _ => ?_
  cases step with
  | collapse => exact .inr h.oneActive
  | createTable table => exact h.tables table
  | createIndex index => exact h.indexes index
  | seedCursorKey => exact h.values "cursor_key" (by decide)
  | seedRuns => exact ⟨h.values "last_retention_run" (by decide), h.values "last_recovery_run" (by decide)⟩
  | addInstanceId => exact h.columns .instanceId
  | addErrorBody => exact h.columns .errorBody
  | addPrice column => exact .inr (h.columns column)
  | copyAllowList => exact .inr (.inl h.plain)
  | dropAllowList => exact .inr h.plain
  | checkTable table => exact h.tables table
  | writeVersion => exact h.version

/-! ### What becomes of a database -/

theorem IsV5.readSchemaVersion (h : before.IsV5) : before.readSchemaVersion = .ok 5 :=
  readSchemaVersion_of_meta h.version (by decide +kernel)

/-- The steps before the last, all taken from the fifth version on. -/
structure Prepared (before mid : LedgerFile) : Prop where
  carries : before.Carries mid
  old : mid.version = 5
  goals : ∀ step ∈ schemaBody, step.goal mid
  accounts : mid.Accounts

theorem IsV5.prepared (hv5 : before.IsV5) {mid : LedgerFile}
    (h : Stages.Taken SchemaStep.live schemaBody before mid) : before.Prepared mid := by
  have hversion {front : List SchemaStep} {s t : LedgerFile} (hfront : front ⊆ schemaBody)
      (h : Stages.Taken SchemaStep.live front s t) : t.readSchemaVersion = s.readSchemaVersion :=
    h.relates (R := fun s t : LedgerFile => t.readSchemaVersion = s.readSchemaVersion) (fun _ => rfl)
      (fun _ _ _ h h' => h'.trans h) fun step hstep _ _ _ hrun =>
        live_version hrun (ne_writeVersion_of_mem_body step (hfront hstep))
  have hold : mid.version = 5 :=
    version_of_read ((hversion (List.Subset.refl _) h).trans hv5.readSchemaVersion)
  refine ⟨.of_taken h, hold, (h.goals SchemaStep.resumable).1, ?_⟩
  -- the allow-lists were still there when they were copied
  have hcut : schemaBody = (.collapse :: (schemaSql ++ alterations ++ [.copyAllowList])) ++ conclusions := rfl
  obtain ⟨copied, hfront, hback⟩ := Stages.Taken.split (hcut ▸ h)
  have hother : ∀ step ∈ SchemaStep.collapse :: (schemaSql ++ alterations ++ [.copyAllowList]),
      step ≠ .dropAllowList := by decide
  have hlisted : copied.hasAllowList = true :=
    hfront.relates (R := fun s t : LedgerFile => s.hasAllowList = true → t.hasAllowList = true)
      (fun _ => id) (fun _ _ _ h h' hs => h' (h hs))
      (fun step hstep _ _ _ hrun => SchemaStep.run_listed hrun (hother step hstep)) hv5.allowLists
  have hcopied : copied.version = 5 :=
    version_of_read ((hversion (by decide) hfront).trans hv5.readSchemaVersion)
  have hgoal := (hfront.goals SchemaStep.resumable).1 .copyAllowList (by decide)
  rcases hgoal with hcurrent | hplain | ⟨haccounts, -⟩
  · rw [hcopied] at hcurrent
    exact absurd hcurrent (by decide)
  · rw [hlisted] at hplain
    cases hplain
  · exact (Carries.of_taken hback).accounts haccounts

/-- What was to be done at most before the sixth version has been done. -/
theorem Prepared.done {mid : LedgerFile} (h : before.Prepared mid) (step : SchemaStep) {P : Prop}
    (hstep : step ∈ schemaBody) (hgoal : step.goal mid → 6 ≤ mid.version ∨ P) : P := by
  refine (hgoal (h.goals step hstep)).resolve_left ?_
  rw [h.old]
  decide

theorem Prepared.isV6 {mid : LedgerFile} (h : before.Prepared mid) (hstamped : after.Stamped)
    (hlast : mid.Carries after) : after.IsV6 where
  version := hstamped
  tables table := by
    cases table with
    | usageRecords => exact hlast.has _ (h.goals (.createTable .usageRecords) (by decide))
    | ledgerInstances => exact hlast.has _ (h.goals (.createTable .ledgerInstances) (by decide))
    | usageHourly => exact hlast.has _ (h.goals (.createTable .usageHourly) (by decide))
    | apiKeys => exact hlast.has _ (h.goals (.createTable .apiKeys) (by decide))
    | partners => exact hlast.has _ (h.goals (.createTable .partners) (by decide))
    | partnerModels => exact hlast.has _ (h.goals (.createTable .partnerModels) (by decide))
    | dailyStatements => exact hlast.has _ (h.goals (.createTable .dailyStatements) (by decide))
    | statementLines => exact hlast.has _ (h.goals (.createTable .statementLines) (by decide))
    | ledgerMeta => exact hlast.has _ (h.goals (.createTable .ledgerMeta) (by decide))
  indexes index := by
    have hmem : SchemaStep.createIndex index ∈ schemaBody := by cases index <;> decide
    exact hlast.indexes (h.goals _ hmem)
  columns column := by
    refine hlast.columns column ?_
    cases column with
    | instanceId => exact h.goals .addInstanceId (by decide)
    | errorBody => exact h.goals .addErrorBody (by decide)
    | inputPriceSnapshot => exact h.done (.addPrice .inputPriceSnapshot) (by decide) id
    | cachedInputPriceSnapshot => exact h.done (.addPrice .cachedInputPriceSnapshot) (by decide) id
    | outputPriceSnapshot => exact h.done (.addPrice .outputPriceSnapshot) (by decide) id
  values key hkey := by
    obtain ⟨hretention, hrecovery⟩ := h.goals .seedRuns (by decide)
    simp only [List.mem_cons, List.not_mem_nil, or_false] at hkey
    rcases hkey with rfl | rfl | rfl
    · exact hlast.someValue (by decide) (h.goals .seedCursorKey (by decide))
    · exact hlast.someValue (by decide) hretention
    · exact hlast.someValue (by decide) hrecovery
  plain := hlast.plain (h.done .dropAllowList (by decide) id)
  oneActive := hlast.oneActive (h.done .collapse (by decide) id)

theorem Carries.active_iff (h : before.Carries after) (hone : after.OneActive) (k : KeyRecord) :
    k ∈ after.records ∧ k.isActive = true ↔ Newest before.records k := by
  constructor
  · rintro ⟨hk, hactive⟩
    obtain ⟨best, hbest, hconsumer⟩ := exists_newest (h.active k hk hactive) hactive
    have hsame : best = k := hone.eq_of_key (h.newest best hbest) hk hbest.2.1 hactive hconsumer
    exact hsame ▸ hbest
  · intro hk
    exact ⟨h.newest k hk, hk.2.1⟩

theorem Carries.migrated (hv5 : before.IsV5) (h : before.Carries after) (hv6 : after.IsV6)
    (haccounts : after.Accounts) : before.Migrated after where
  identities := h.identities
  active := h.active_iff hv6.oneActive
  oneEach k hk hactive := by
    obtain ⟨best, hbest, hconsumer⟩ := exists_newest hk hactive
    refine ⟨best, ⟨h.newest best hbest, hbest.2.1, hconsumer⟩, ?_⟩
    rintro other ⟨hother, hotherActive, hotherConsumer⟩
    exact hv6.oneActive.eq_of_key hother (h.newest best hbest) hotherActive hbest.2.1
      (hotherConsumer.trans hconsumer.symm)
  superseded k hk _ hnot := by
    have hmem : k.identity ∈ after.records.map KeyRecord.identity :=
      h.identities ▸ List.mem_map_of_mem hk
    obtain ⟨k', hk', hsame⟩ := List.mem_map.1 hmem
    refine ⟨k', hk', hsame, ?_⟩
    cases hstatus : k'.row.status with
    | revoked => rfl
    | active =>
      -- the only active key of its id would be the one that is not the newest
      have hnewest := (h.active_iff hv6.oneActive k').1 ⟨hk', decide_eq_true hstatus⟩
      have hid : k'.row.id = k.row.id := (Prod.mk.inj hsame).1
      exact absurd (List.inj_on_of_nodup_map before.ids_nodup hnewest.1 hk hid ▸ hnewest) hnot
  revoked := h.revoked
  accounts k hk := by
    have hmem : k.identity ∈ after.records.map KeyRecord.identity :=
      h.identities ▸ List.mem_map_of_mem hk
    obtain ⟨k', hk', hsame⟩ := List.mem_map.1 hmem
    have hconsumer : k'.row.consumerId = k.row.consumerId := by
      simp only [KeyRecord.identity, Prod.mk.injEq] at hsame
      exact hsame.2.2.1
    obtain ⟨p, hp, hown⟩ := haccounts.2 k' hk'
    have hcount := List.count_eq_one_of_mem (h.consumers hv5.consumers)
      (List.mem_map_of_mem (f := Partner.consumerId) hp)
    rw [hown, hconsumer, List.count, List.countP_map, List.countP_eq_length_filter] at hcount
    exact hcount
  partners := h.partners
  models := h.models
  usage := h.usage
  unpriced row hrow := by
    rw [h.usage] at hrow
    have hnull (column : UsageColumn) (hcolumn : before.hasColumn column = false) :
        row.isNull column = true := by
      unfold usageRows at hrow
      unfold hasColumn at hcolumn
      cases husage : before.usageRecords with
      | none =>
        rw [husage] at hrow
        cases hrow
      | some table =>
        rw [husage] at hrow hcolumn
        exact table.absent column hcolumn row hrow
    exact ⟨hnull _ (hv5.prices _ (by decide)), hnull _ (hv5.prices _ (by decide)),
      hnull _ (hv5.prices _ (by decide))⟩
  oneActiveIndex := hv6.indexes .apiKeysOneActivePerConsumer
  plain := hv6.plain

/-- All the steps, each taken once from the fifth version on. -/
theorem IsV5.migrated (hv5 : before.IsV5) (h : Stages.Taken SchemaStep.live schemaSteps before after) :
    before.Migrated after ∧ after.IsV6 := by
  have hcut : schemaSteps = schemaBody ++ [.writeVersion] := rfl
  obtain ⟨mid, hbody, hlast⟩ := Stages.Taken.split (hcut ▸ h)
  obtain ⟨env, hwrite⟩ := Stages.taken_singleton_iff.1 hlast
  have hprepared := hv5.prepared hbody
  have hcarries := SchemaStep.run_carries hwrite
  have hv6 := hprepared.isV6 (SchemaStep.live_reaches .writeVersion hwrite) hcarries
  exact ⟨(hprepared.carries.trans _ _ _ hcarries).migrated hv5 hv6
    (hcarries.accounts hprepared.accounts), hv6⟩

/-- What the steps read of their surroundings can be put together. -/
theorem live_mixes (envs : SchemaStep → SchemaEnv) :
    ∃ env, ∀ step file, SchemaStep.live step env file = SchemaStep.live step (envs step) file := by
  refine ⟨{
    collapsedAt := (envs .collapse).collapsedAt
    copiedAt := (envs .copyAllowList).copiedAt
    cursorKey := (envs .seedCursorKey).cursorKey }, fun step file => ?_⟩
  cases step <;> rfl

end LedgerFile

/-- After any interrupted attempts on a database of the fifth version an attempt succeeds where one alone
would have, and leaves what that leaves at some times; with a cursor key that is there already, the same up to
the times.  A database of the sixth version stays as it is. -/
theorem migration_resumes {before straight : LedgerFile} {env₀ : SchemaEnv} (hv5 : before.IsV5)
    (hstraight : before.initSchema env₀ = .ok straight) :
    before.Migrated straight ∧
    (∀ reached env, before.Attempts reached → ∃ after, reached.initSchema env = .ok after ∧
      before.Migrated after ∧ after.IsV6 ∧ (∃ env', before.initSchema env' = .ok after) ∧
      ((before.metaValue "cursor_key").isSome = true → after.undated = straight.undated)) ∧
    ∀ (file : LedgerFile) env, file.IsV6 → file.initSchema env = .ok file := by
  have hread := hv5.readSchemaVersion
  rw [LedgerFile.initSchema_eq hread (by decide)] at hstraight
  have htaken := Stages.Taken.of_runAll hstraight
  refine ⟨(hv5.migrated htaken).1, fun reached env hattempts => ?_, fun file env => LedgerFile.IsV6.rests⟩
  -- the version is written last, so an interrupted attempt left the old one
  obtain ⟨found, hle, hfound⟩ : ∃ found ≤ schemaVersion, reached.readSchemaVersion = .ok found := by
    rcases hattempts.carries.version with hsame | hcurrent
    · exact ⟨5, by decide, hsame.trans hread⟩
    · exact ⟨schemaVersion, Nat.le_refl _, hcurrent⟩
  -- the steps can be resumed, and what they draw decides nothing else
  obtain ⟨after, hafter, hsame⟩ : ∃ after,
      Stages.runAll SchemaStep.live env schemaSteps reached = .ok after ∧ after.undrawn = straight.undrawn :=
    hattempts.attempted.agrees SchemaStep.resumable SchemaStep.blind hstraight
  have htaken' := hattempts.attempted.complete SchemaStep.resumable hafter
  obtain ⟨hmigrated, hv6⟩ := hv5.migrated htaken'
  -- each step was taken once, at its own time: one attempt could have had those times
  obtain ⟨env', hmixed⟩ := htaken'.together env LedgerFile.live_mixes (by decide)
  refine ⟨after, (LedgerFile.initSchema_eq hfound hle).trans hafter, hmigrated, hv6,
    ⟨env', (LedgerFile.initSchema_eq hread (by decide)).trans hmixed⟩, fun hkey => ?_⟩
  -- a cursor key that was there is kept by both
  have hcarries := LedgerFile.Carries.of_taken htaken
  have hcarries' := LedgerFile.Carries.of_taken htaken'
  obtain ⟨key, hkey⟩ := Option.isSome_iff_exists.1 hkey
  refine LedgerFile.undated_of_undrawn hsame (hcarries'.metaKeys hv5.metaKeys)
    (hcarries.metaKeys hv5.metaKeys) ?_
  rw [hcarries'.values _ (by decide) key hkey, hcarries.values _ (by decide) key hkey]

/-- A key of the fifth version. -/
def Sample.v5Key (id : Int) (name consumerId : String) (revokedAt : Option String)
    (allowedModels : List String) : ListedKey where
  record := {
    row := {
      id := id
      name := name
      consumerId := consumerId
      keyPrefix := "pp_" ++ name
      status := if revokedAt.isSome then .revoked else .active
      createdAt := "2026-01-01T00:00:00.000000000Z"
      updatedAt := "2026-01-01T00:00:00.000000000Z"
      expiresAt := none
      revokedAt := revokedAt }
    keyHash := "hash-" ++ name }
  allowedModels := allowedModels

/-- A request of the fifth version. -/
def Sample.v5Request : UsageRow where
  id := 1
  requestId := "legacy-1"
  createdAt := "2026-01-01T00:00:00.000000000Z"
  consumerId := "acme"
  model := "gpt-4o"
  endpoint := .chatCompletions
  streaming := false
  httpStatus := none
  requestStatus := .completed
  instanceId := none
  inputTokens := none
  outputTokens := none
  cachedTokens := none
  ttftMs := none
  durationMs := 10
  usageStatus := .unavailable
  errorMessage := none
  errorBody := none
  inputPriceSnapshot := none
  cachedInputPriceSnapshot := none
  outputPriceSnapshot := none

/-- Two active keys of one consumer and a revoked one, a key that allows no model, and a request. -/
def Sample.v5File : LedgerFile where
  usageRecords := some {
    columns := fun column => column = .instanceId || column = .errorBody
    rows := [v5Request]
    absent := by
      intro column _ row hrow
      rw [List.mem_singleton.1 hrow]
      cases column <;> rfl }
  usageHourly := some []
  ledgerInstances := some []
  apiKeys := some {
    rows := .listed [v5Key 1 "acme-old" "acme" none ["gpt-4o"],
      v5Key 2 "acme-prod" "acme" none ["gpt-4o", "gpt-4o-mini"],
      v5Key 3 "acme-gone" "acme" (some "2026-01-02T00:00:00.000000000Z") [],
      v5Key 4 "beta-prod" "beta" none []]
    primaryKey := by decide +kernel }
  ledgerMeta := some [("cursor_key", "00ff"), ("last_retention_run", ""), ("last_recovery_run", ""),
    ("schema_version", "5")]
  indexes := [.usageRecordsCreatedAt, .usageHourlyHour, .apiKeysActive, .apiKeysConsumer]

theorem Sample.v5File_isV5 : v5File.IsV5 where
  version := rfl
  allowLists := rfl
  prices := by decide +kernel
  consumers := by decide +kernel
  metaKeys := by decide +kernel

/-- The surroundings of an attempt. -/
def Sample.v5Env : SchemaEnv where
  collapsedAt := "2026-09-27T12:00:00.000000000Z"
  copiedAt := "2026-09-27T12:00:01.000000000Z"
  cursorKey := "ff00"

theorem v5File_resumes : ∃ straight, Sample.v5File.initSchema Sample.v5Env = .ok straight ∧
    Sample.v5File.Migrated straight := by
  have hok : (Sample.v5File.initSchema Sample.v5Env).toOption.isSome = true := by decide +kernel
  cases hrun : Sample.v5File.initSchema Sample.v5Env with
  | error e =>
    rw [hrun] at hok
    cases hok
  | ok straight => exact ⟨straight, rfl, (migration_resumes Sample.v5File_isV5 hrun).1⟩

end PartnerPortal

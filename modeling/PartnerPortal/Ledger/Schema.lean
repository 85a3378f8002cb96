import PartnerPortal.ApiKeys.Store
import PartnerPortal.Ledger.Rollup
import PartnerPortal.Lib.Decimal
import PartnerPortal.Lib.Stages
import PartnerPortal.Lib.Tables

/-!
# The schema

The tables of a database file of any version, and the steps that bring it up to the current one.  Each step
is committed by itself: an attempt can end after any of them, under the version it began with.
-/

namespace PartnerPortal

open MachineInt

/-! ## Database files -/

inductive TableName where
  | usageRecords
  | ledgerInstances
  | usageHourly
  | apiKeys
  | partners
  | partnerModels
  | dailyStatements
  | statementLines
  | ledgerMeta
deriving Repr, DecidableEq

/-- The name in the database. -/
def TableName.text : TableName → String
  | usageRecords => "usage_records"
  | ledgerInstances => "ledger_instances"
  | usageHourly => "usage_hourly"
  | apiKeys => "api_keys"
  | partners => "partners"
  | partnerModels => "partner_models"
  | dailyStatements => "daily_statements"
  | statementLines => "statement_lines"
  | ledgerMeta => "ledger_meta"

inductive IndexName where
  | usageRecordsCreatedAt
  | usageRecordsConsumerCreatedId
  | usageRecordsInstanceInFlight
  | usageHourlyHour
  | usageHourlyConsumerHour
  | apiKeysActive
  /-- the one that is unique, over the active keys -/
  | apiKeysOneActivePerConsumer
  | apiKeysConsumer
  | partnerModelsConsumer
  | dailyStatementsConsumerDate
  | dailyStatementsOverdue
  | dailyStatementsEmailPending
  | statementLinesStatement
deriving Repr, DecidableEq

/-- The table an index is on. -/
def IndexName.table : IndexName → TableName
  | usageRecordsCreatedAt | usageRecordsConsumerCreatedId | usageRecordsInstanceInFlight => .usageRecords
  | usageHourlyHour | usageHourlyConsumerHour => .usageHourly
  | apiKeysActive | apiKeysOneActivePerConsumer | apiKeysConsumer => .apiKeys
  | partnerModelsConsumer => .partnerModels
  | dailyStatementsConsumerDate | dailyStatementsOverdue | dailyStatementsEmailPending =>
    .dailyStatements
  | statementLinesStatement => .statementLines

/-- The columns of `usage_records` that versions after the second added. -/
inductive UsageColumn where
  | instanceId
  | errorBody
  | inputPriceSnapshot
  | cachedInputPriceSnapshot
  | outputPriceSnapshot
deriving Repr, DecidableEq

/-- `column IS NULL` -/
def UsageRow.isNull (row : UsageRow) : UsageColumn → Bool
  | .instanceId => row.instanceId.isNone
  | .errorBody => row.errorBody.isNone
  | .inputPriceSnapshot => row.inputPriceSnapshot.isNone
  | .cachedInputPriceSnapshot => row.cachedInputPriceSnapshot.isNone
  | .outputPriceSnapshot => row.outputPriceSnapshot.isNone

/-- `usage_records`, where a row has nothing in a column that the table has not. -/
structure UsageTable where
  columns : UsageColumn → Bool
  rows : List UsageRow
  absent : ∀ column, columns column = false → ∀ row ∈ rows, row.isNull column = true

/-- `ALTER TABLE usage_records ADD COLUMN`, which is `NULL` in every row. -/
def UsageTable.addColumn (table : UsageTable) (column : UsageColumn) : UsageTable where
  columns := Function.update table.columns column true
  rows := table.rows
  absent other hother := by
    by_cases hsame : other = column
    · subst hsame
      rw [Function.update_self] at hother
      cases hother
    · rw [Function.update_of_ne hsame] at hother
      exact table.absent other hother

/-- A row of `api_keys` with the allow-list of the fifth version. -/
structure ListedKey where
  record : KeyRecord
  /-- the strings of the JSON array -/
  allowedModels : List String
deriving DecidableEq

/-- The rows of `api_keys` before the sixth version and since. -/
inductive KeyRows where
  | listed (rows : List ListedKey)
  | plain (rows : List KeyRecord)
deriving DecidableEq

namespace KeyRows

def records : KeyRows → List KeyRecord
  | listed rows => rows.map ListedKey.record
  | plain rows => rows

/-- The allow-lists, where the table has them. -/
def allowLists : KeyRows → Option (List (List String))
  | listed rows => some (rows.map ListedKey.allowedModels)
  | plain _ => none

/-- `UPDATE api_keys`, of what every version has. -/
def update (f : KeyRecord → KeyRecord) : KeyRows → KeyRows
  | listed rows => listed (rows.map fun row => { row with record := f row.record })
  | plain rows => plain (rows.map f)

/-- `UPDATE api_keys SET allowed_models = '[]'` -/
def emptied : KeyRows → KeyRows
  | listed rows => listed (rows.map fun row => { row with allowedModels := [] })
  | plain rows => plain rows

@[simp] theorem records_update (f : KeyRecord → KeyRecord) (rows : KeyRows) :
    (rows.update f).records = rows.records.map f := by
  cases rows with
  | listed rows =>
    simp only [update, records, List.map_map]
    rfl
  | plain rows => rfl

@[simp] theorem records_emptied (rows : KeyRows) : rows.emptied.records = rows.records := by
  cases rows with
  | listed rows =>
    simp only [emptied, records, List.map_map]
    rfl
  | plain rows => rfl

@[simp] theorem allowLists_update (f : KeyRecord → KeyRecord) (rows : KeyRows) :
    (rows.update f).allowLists = rows.allowLists := by
  cases rows with
  | listed rows =>
    simp only [update, allowLists, List.map_map]
    rfl
  | plain rows => rfl

end KeyRows

/-- `api_keys`, with its primary key. -/
@[ext] structure KeyTable where
  rows : KeyRows
  primaryKey : (rows.records.map (·.row.id)).Nodup

namespace KeyTable

def update (table : KeyTable) (f : KeyRecord → KeyRecord) (hid : ∀ k, (f k).row.id = k.row.id) :
    KeyTable where
  rows := table.rows.update f
  primaryKey := by
    rw [KeyRows.records_update, List.map_map]
    exact (List.map_congr_left fun k _ => hid k) ▸ table.primaryKey

def emptied (table : KeyTable) : KeyTable where
  rows := table.rows.emptied
  primaryKey := by
    rw [KeyRows.records_emptied]
    exact table.primaryKey

/-- The table in the shape of the sixth version. -/
def rebuilt (table : KeyTable) : KeyTable where
  rows := .plain table.rows.records
  primaryKey := table.primaryKey

end KeyTable

/-- A database file: the tables it has and the indexes on them. -/
structure LedgerFile where
  usageRecords : Option UsageTable := none
  ledgerInstances : Option (List String) := none
  usageHourly : Option (List Bucket) := none
  apiKeys : Option KeyTable := none
  partners : Option (List Partner) := none
  partnerModels : Option (List PartnerModel) := none
  dailyStatements : Option (List Statement) := none
  statementLines : Option (List StatementLine) := none
  ledgerMeta : Option (List (String × String)) := none
  indexes : List IndexName := []

inductive SchemaError where
  /-- the database could not be read or altered -/
  | sqlite (error : SqliteError)
  /-- the database was written by a newer build -/
  | unsupportedVersion (found supported : Nat)
  /-- a column or table is missing after the migration ran -/
  | migrationIncomplete (column : String)
deriving Repr, DecidableEq

namespace LedgerFile

variable (file : LedgerFile)

def has : TableName → Bool
  | .usageRecords => file.usageRecords.isSome
  | .ledgerInstances => file.ledgerInstances.isSome
  | .usageHourly => file.usageHourly.isSome
  | .apiKeys => file.apiKeys.isSome
  | .partners => file.partners.isSome
  | .partnerModels => file.partnerModels.isSome
  | .dailyStatements => file.dailyStatements.isSome
  | .statementLines => file.statementLines.isSome
  | .ledgerMeta => file.ledgerMeta.isSome

/-- `column_exists` of `usage_records` -/
def hasColumn (column : UsageColumn) : Bool := file.usageRecords.any fun table => table.columns column

/-- `column_exists` of `api_keys.allowed_models` -/
def hasAllowList : Bool := file.apiKeys.any fun table => table.rows.allowLists.isSome

def records : List KeyRecord := (file.apiKeys.map fun table => table.rows.records).getD []

def usageRows : List UsageRow := (file.usageRecords.map UsageTable.rows).getD []

def partnerRows : List Partner := file.partners.getD []

/-- A value of `ledger_meta`. -/
def metaValue (key : String) : Option String := file.ledgerMeta.bind fun entries => entries.lookup key

/-! ### The version -/

/-- `str::parse::<u32>` -/
def parseU32 (text : String) : Option Nat :=
  let digits := match text.toList with
    | '+' :: digits => digits
    | digits => digits
  if digits ≠ [] ∧ digits.all Char.isDigit ∧ Decimal.number digits < 2 ^ 32 then
    some (Decimal.number digits)
  else none

/-- The version recorded, or 0 where there is none. -/
def readSchemaVersion : Except SchemaError Nat :=
  match file.metaValue "schema_version" with
  | none => .ok 0
  | some value =>
    match parseU32 (Text.trim value) with
    | none => .error (.sqlite .other)
    | some version => .ok version

end LedgerFile

/-- The version this build expects. -/
def schemaVersion : Nat := 6

/-! ## Steps -/

/-- What an attempt reads beside the database: the clock, where each migration needs it, and random bytes. -/
structure SchemaEnv where
  collapsedAt : String
  copiedAt : String
  cursorKey : String

/-- Keys that are in use. -/
def KeyRecord.isActive (k : KeyRecord) : Bool := k.row.status = .active

/-- `SELECT MAX(id) FROM api_keys WHERE status = 'active' GROUP BY consumer_id` -/
def newestActive (keys : List KeyRecord) : List Int :=
  let active := keys.filter KeyRecord.isActive
  (active.map (·.row.consumerId)).dedup.filterMap fun consumerId =>
    ((active.filter fun k => k.row.consumerId = consumerId).map (·.row.id)).max?

/-- The row of a key when the older active ones are revoked. -/
def KeyRecord.collapse (newest : List Int) (now : String) (k : KeyRecord) : KeyRecord :=
  if k.isActive && !(newest.contains k.row.id) then { k with row := k.row.revoke now } else k

theorem KeyRecord.collapse_id (newest : List Int) (now : String) (k : KeyRecord) :
    (k.collapse newest now).row.id = k.row.id := by
  unfold KeyRecord.collapse
  split
  · rfl
  · rfl

/-- `SELECT consumer_id, MIN(name) .. GROUP BY consumer_id` -/
def leastNames (keys : List KeyRecord) : List (String × String) :=
  ((keys.map (·.row.consumerId)).dedup.insertionSort fun a b => !(b < a)).map fun consumerId =>
    (consumerId, (((keys.filter fun k => k.row.consumerId = consumerId).map (·.row.name)).insertionSort
      fun a b => !(b < a)).headD "")

/-- `INSERT INTO partners .. ON CONFLICT(consumer_id) DO NOTHING` -/
def openAccount (now : String) (partners : List Partner) (account : String × String) : List Partner :=
  if partners.any fun p => p.consumerId = account.1 then partners
  else partners ++ [
    { consumerId := account.1
      name := account.2
      billingEmail := ""
      billingMode := .invoice
      paymentTermsMinutes := ⟨720, by decide⟩
      createdAt := now
      updatedAt := now }]

/-- `INSERT OR IGNORE INTO ledger_meta` -/
def insertOrIgnore (stored : List (String × String)) (entry : String × String) :
    List (String × String) :=
  if (stored.lookup entry.1).isSome then stored else stored ++ [entry]

/-- `INSERT INTO ledger_meta .. ON CONFLICT(key) DO UPDATE SET value = excluded.value` -/
def upsert (key value : String) (stored : List (String × String)) : List (String × String) :=
  if (stored.lookup key).isSome then
    stored.map fun entry => if entry.1 = key then (key, value) else entry
  else stored ++ [(key, value)]

namespace LedgerFile

variable (file : LedgerFile)

/-- `CREATE TABLE IF NOT EXISTS`, with the columns of the current version. -/
def createTable (table : TableName) : LedgerFile :=
  if file.has table then file else
    match table with
    | .usageRecords =>
      { file with usageRecords := some { columns := fun _ => true, rows := [], absent := nofun } }
    | .ledgerInstances => { file with ledgerInstances := some [] }
    | .usageHourly => { file with usageHourly := some [] }
    | .apiKeys => { file with apiKeys := some { rows := .plain [], primaryKey := List.nodup_nil } }
    | .partners => { file with partners := some [] }
    | .partnerModels => { file with partnerModels := some [] }
    | .dailyStatements => { file with dailyStatements := some [] }
    | .statementLines => { file with statementLines := some [] }
    | .ledgerMeta => { file with ledgerMeta := some [] }

/-- No consumer has two active keys. -/
def OneActive : Prop := Tables.Indexed KeyRecord.isActive (·.row.consumerId) file.records

instance : Decidable file.OneActive :=
  inferInstanceAs (Decidable ((file.records.filter KeyRecord.isActive).map _).Nodup)

/-- `CREATE INDEX IF NOT EXISTS` -/
def createIndex (index : IndexName) : Except SchemaError LedgerFile :=
  if index ∈ file.indexes then .ok file
  else if !file.has index.table then .error (.sqlite .other)
  else if index = .apiKeysOneActivePerConsumer ∧ ¬file.OneActive then
    .error (.sqlite .constraintUnique)
  else .ok { file with indexes := file.indexes ++ [index] }

def seedMeta (entries : List (String × String)) : Except SchemaError LedgerFile :=
  match file.ledgerMeta with
  | none => .error (.sqlite .other)
  | some stored => .ok { file with ledgerMeta := some (entries.foldl insertOrIgnore stored) }

/-- `ALTER TABLE usage_records ADD COLUMN` where the column is missing. -/
def addColumn (column : UsageColumn) : Except SchemaError LedgerFile :=
  if file.hasColumn column then .ok file
  else
    match file.usageRecords with
    | none => .error (.sqlite .other)
    | some table => .ok { file with usageRecords := some (table.addColumn column) }

/-- Leave at most one active key per consumer, so that the unique index can exist. -/
def collapseDuplicateActiveKeys (now : String) : LedgerFile :=
  { file with apiKeys := file.apiKeys.map fun table =>
      let newest := newestActive table.rows.records
      table.update (KeyRecord.collapse newest now) (KeyRecord.collapse_id newest now) }

/-- The accounts that are opened: first for the consumers of active keys that allow some model, then for all
that have a key. -/
def owedAccounts (rows : List ListedKey) : List (String × String) :=
  let served := rows.filter fun row => row.record.isActive && row.allowedModels ≠ []
  leastNames (served.map ListedKey.record) ++ leastNames (rows.map ListedKey.record)

/-- Open an account for every consumer with a key and empty the allow-lists, in one transaction.  The models
have no price to be copied with. -/
def migrateModelAllowList (now : String) : Except SchemaError LedgerFile :=
  match file.apiKeys with
  | none => .ok file
  | some table =>
    match table.rows with
    | .plain _ => .ok file
    | .listed rows =>
      match file.partners with
      | none => .error (.sqlite .other)
      | some partners =>
        .ok { file with
          partners := some ((owedAccounts rows).foldl (openAccount now) partners)
          apiKeys := some table.emptied }

/-- What the sixth version's table checks of a row. -/
def checksKey (k : KeyRecord) : Bool :=
  match k.row.status with
  | .active => k.row.revokedAt.isNone
  | .revoked => k.row.revokedAt.isSome

/-- Rebuild `api_keys` without the allow-list, in one transaction.  The indexes go with the old table. -/
def dropLegacyAllowListColumn : Except SchemaError LedgerFile :=
  match file.apiKeys with
  | none => .ok file
  | some table =>
    match table.rows with
    | .plain _ => .ok file
    | .listed _ =>
      if ¬(table.rows.records.map (·.keyHash)).Nodup then .error (.sqlite .constraintUnique)
      else if !table.rows.records.all checksKey then .error (.sqlite .constraintCheck)
      else
        -- the check that follows the rebuild finds the column gone
        let rebuilt : LedgerFile := { file with
          apiKeys := some table.rebuilt
          indexes := file.indexes.filter fun index => index.table ≠ .apiKeys }
        [IndexName.apiKeysActive, .apiKeysOneActivePerConsumer, .apiKeysConsumer].foldlM
          (fun rebuilt index => rebuilt.createIndex index) rebuilt

def writeSchemaVersion (version : Nat) : Except SchemaError LedgerFile :=
  match file.ledgerMeta with
  | none => .error (.sqlite .other)
  | some stored =>
    .ok { file with ledgerMeta := some (upsert "schema_version" (toString version) stored) }

end LedgerFile

/-- The statements and transactions of an attempt. -/
inductive SchemaStep where
  | collapse
  | createTable (table : TableName)
  | createIndex (index : IndexName)
  | seedCursorKey
  | seedRuns
  | addInstanceId
  | addErrorBody
  | addPrice (column : UsageColumn)
  | copyAllowList
  | dropAllowList
  | checkTable (table : TableName)
  | writeVersion
deriving DecidableEq

namespace SchemaStep

/-- The check of a column after it was added. -/
def checked (column : UsageColumn) (name : String) (file : LedgerFile) : Except SchemaError LedgerFile :=
  if file.hasColumn column then .ok file else .error (.migrationIncomplete name)

/-- A step of an attempt that found the version `found`. -/
def run (found : Nat) : SchemaStep → SchemaEnv → LedgerFile → Except SchemaError LedgerFile
  | collapse, env, file =>
    .ok (if found < 6 then file.collapseDuplicateActiveKeys env.collapsedAt else file)
  | createTable table, _, file => .ok (file.createTable table)
  | createIndex index, _, file => file.createIndex index
  | seedCursorKey, env, file => file.seedMeta [("cursor_key", env.cursorKey)]
  | seedRuns, _, file => file.seedMeta [("last_retention_run", ""), ("last_recovery_run", "")]
  | addInstanceId, _, file => do
    let altered ← file.addColumn .instanceId
    checked .instanceId "usage_records.instance_id" altered
  | addErrorBody, _, file => do
    let altered ← if found < 4 then file.addColumn .errorBody else .ok file
    checked .errorBody "usage_records.error_body" altered
  | addPrice column, _, file =>
    if found < 6 then do
      let altered ← file.addColumn column
      checked column "usage_records.input_price_snapshot" altered
    else .ok file
  | copyAllowList, env, file =>
    if found < 6 then file.migrateModelAllowList env.copiedAt else .ok file
  | dropAllowList, _, file => if found < 6 then file.dropLegacyAllowListColumn else .ok file
  | checkTable table, _, file =>
    if file.has table then .ok file else .error (.migrationIncomplete table.text)
  | writeVersion, _, file => file.writeSchemaVersion schemaVersion

end SchemaStep

/-- The statements of `schema.sql`. -/
def schemaSql : List SchemaStep :=
  [.createTable .usageRecords,
    .createIndex .usageRecordsCreatedAt,
    .createIndex .usageRecordsConsumerCreatedId,
    .createTable .ledgerInstances,
    .createTable .usageHourly,
    .createIndex .usageHourlyHour,
    .createIndex .usageHourlyConsumerHour,
    .createTable .apiKeys,
    .createIndex .apiKeysActive,
    .createIndex .apiKeysOneActivePerConsumer,
    .createIndex .apiKeysConsumer,
    .createTable .partners,
    .createTable .partnerModels,
    .createIndex .partnerModelsConsumer,
    .createTable .dailyStatements,
    .createIndex .dailyStatementsConsumerDate,
    .createIndex .dailyStatementsOverdue,
    .createIndex .dailyStatementsEmailPending,
    .createTable .statementLines,
    .createIndex .statementLinesStatement,
    .createTable .ledgerMeta,
    .seedCursorKey,
    .seedRuns]

/-- The columns that `usage_records` may lack. -/
def alterations : List SchemaStep :=
  [.addInstanceId,
    .addErrorBody,
    .addPrice .inputPriceSnapshot,
    .addPrice .cachedInputPriceSnapshot,
    .addPrice .outputPriceSnapshot]

/-- The rest of an attempt, once the allow-list is copied. -/
def conclusions : List SchemaStep :=
  [.dropAllowList,
    .createIndex .usageRecordsInstanceInFlight,
    .checkTable .partners,
    .checkTable .partnerModels,
    .checkTable .dailyStatements,
    .checkTable .statementLines]

def schemaSteps : List SchemaStep :=
  .collapse :: (schemaSql ++ alterations ++ .copyAllowList :: conclusions) ++ [.writeVersion]

namespace LedgerFile

/-- An attempt that ends after `n` of its steps. -/
def attempt (env : SchemaEnv) (n : Nat) (file : LedgerFile) : Except SchemaError LedgerFile := do
  let found ← file.readSchemaVersion
  if schemaVersion < found then .error (.unsupportedVersion found schemaVersion)
  else Stages.runAll (SchemaStep.run found) env (schemaSteps.take n) file

/-- Bring the database to the current version, migrating an older one forward. -/
def initSchema (env : SchemaEnv) (file : LedgerFile) : Except SchemaError LedgerFile := do
  let found ← file.readSchemaVersion
  if schemaVersion < found then .error (.unsupportedVersion found schemaVersion)
  else Stages.runAll (SchemaStep.run found) env schemaSteps file

end LedgerFile

end PartnerPortal

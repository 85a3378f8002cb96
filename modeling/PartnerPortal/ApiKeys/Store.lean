import PartnerPortal.Billing.Status
import PartnerPortal.Lib.Tables
import PartnerPortal.Lib.Text

/-!
# The key store

The table of partner keys, the transactions that change it, and the snapshot of it that requests are
authenticated against.  The hash of a plaintext is the parameter `deriveKeyHash`.

Results:
- `loadActive_hashes` — the snapshot holds the hashes of the active, unexpired keys;
- `KeyOp.transact_evolves` — a mutation keeps every key's hash and leaves revoked keys revoked;
- `KeyOp.transact_revokes` — a revocation or rotation that answered left its key revoked.
-/

namespace PartnerPortal

/-! ## Tables -/

inductive KeyStatus where
  | active
  | revoked
deriving Repr, DecidableEq

/-- What a key row looks like to an operator. -/
structure ApiKeyRow where
  id : Int
  name : String
  consumerId : String
  keyPrefix : String
  status : KeyStatus
  createdAt : String
  updatedAt : String
  expiresAt : Option String
  revokedAt : Option String
deriving DecidableEq

/-- A row of `api_keys`. -/
structure KeyRecord where
  row : ApiKeyRow
  keyHash : String
deriving DecidableEq

/-- A row of `partner_models`. -/
structure PartnerModel where
  consumerId : String
  model : String
  prices : PricingSnapshot
deriving DecidableEq

/-- The tables of the key store and those its snapshot is read from. -/
structure Database where
  billing : Store
  models : List PartnerModel
  keys : List KeyRecord
  nextKeyId : Int

inductive ApiKeyError where
  | database (error : SqliteError)
  | notFound (id : Int)
  | notActive (id : Int)
  /-- the consumer already has an active key -/
  | alreadyActive (consumerId : String)
  | invalid (message : String)
deriving Repr, DecidableEq

/-! ## The snapshot -/

/-- A partner as the request path sees them. -/
structure PartnerRuntimeConfig where
  consumerId : String
  keyName : String
  billingMode : BillingMode
  billingEmail : String
  serviceStatus : ServiceStatus
  models : List (String × PricingSnapshot)
deriving DecidableEq

/-- The map from key hashes to partners. -/
structure PartnerSnapshot where
  byHash : List (String × PartnerRuntimeConfig) := []
deriving DecidableEq

namespace PartnerSnapshot

/-- A later row replaces an earlier one of the same hash. -/
def fromRows (rows : List (String × PartnerRuntimeConfig)) : PartnerSnapshot where
  byHash := rows.reverse

def get (snapshot : PartnerSnapshot) (hash : String) : Option PartnerRuntimeConfig :=
  snapshot.byHash.lookup hash

end PartnerSnapshot

/-- Authenticate a plaintext key: a hash and a lookup. -/
def authenticate (deriveKeyHash : String → String) (snapshot : PartnerSnapshot)
    (plaintext : String) : Option PartnerRuntimeConfig :=
  snapshot.get (deriveKeyHash plaintext)

/-- `status = 'active' AND (expires_at IS NULL OR expires_at > ?1)` -/
def KeyRecord.usable (nowText : String) (key : KeyRecord) : Bool :=
  key.row.status = .active && key.row.expiresAt.all (nowText < ·)

/-- The statement a suspension is about, if a partner has one. -/
def overdueStatement (store : Store) (consumerId nowText : String) : Option Statement :=
  ((store.statements.filter fun s =>
      s.consumerId = consumerId && s.billingMode = .invoice && s.paidAt.isNone &&
        s.incompleteUsageCount = 0 && 0 < s.totalAmountMicroUsd.value &&
        s.dueAt.any fun dueAt => !(nowText < dueAt)).insertionSort fun a b =>
    a.dueAt.getD "" < b.dueAt.getD "" ||
      (a.dueAt = b.dueAt && a.id ≤ b.id)).head?

def overdueRow (s : Statement) : OverdueRow where
  billingMode := BillingMode.invoice.asStr
  id := s.id
  billingDate := s.billingDate
  dueAt := s.dueAt.getD ""
  totalAmountMicroUsd := s.totalAmountMicroUsd
  incompleteUsageCount := s.incompleteUsageCount

/-- One row of the snapshot.  A key whose consumer has no partner row is on invoice terms. -/
def loadKey (iso : Iso8601) (db : Database) (now : Instant) (models : List PartnerModel)
    (key : KeyRecord) : Except Panic (String × PartnerRuntimeConfig) := do
  let partner := db.billing.partners.find? fun p => p.consumerId = key.row.consumerId
  let billingMode := (partner.map Partner.billingMode).getD .invoice
  let overdue := (overdueStatement db.billing key.row.consumerId (formatInstant now)).map overdueRow
  let serviceStatus ← statusFor iso billingMode.asStr now.utc overdue.toList
  return (key.keyHash,
    { consumerId := key.row.consumerId
      keyName := key.row.name
      billingMode := billingMode
      billingEmail := (partner.map Partner.billingEmail).getD ""
      serviceStatus := serviceStatus
      models := (models.map fun m => (m.model, m.prices)).insertionSort fun a b => !(b.1 < a.1) })

/-- The rows of the snapshot.  The models of a consumer go to its first key. -/
def loadKeys (iso : Iso8601) (db : Database) (now : Instant) :
    List PartnerModel → List KeyRecord → Except Panic (List (String × PartnerRuntimeConfig))
  | _, [] => .ok []
  | models, key :: rest => do
    let (own, others) := models.partition fun m => m.consumerId = key.row.consumerId
    let loaded ← loadKey iso db now own key
    let loadedRest ← loadKeys iso db now others rest
    return loaded :: loadedRest

/-- Every key that would authenticate right now, with the partner it belongs to. -/
def loadActive (iso : Iso8601) (db : Database) (now : Instant) :
    Except Panic (List (String × PartnerRuntimeConfig)) :=
  loadKeys iso db now db.models <|
    (db.keys.filter (KeyRecord.usable (formatInstant now))).insertionSort fun a b =>
      !(b.row.consumerId < a.row.consumerId)

theorem loadKeys_hashes {iso : Iso8601} {db : Database} {now : Instant}
    {models : List PartnerModel} {keys : List KeyRecord}
    {rows : List (String × PartnerRuntimeConfig)} (h : loadKeys iso db now models keys = .ok rows) :
    rows.map Prod.fst = keys.map KeyRecord.keyHash := by
  induction keys generalizing models rows with
  | nil =>
    cases h
    rfl
  | cons key rest ih =>
    obtain ⟨loaded, hloaded, h⟩ := Result.bind_ok_iff.1 h
    obtain ⟨loadedRest, hrest, h⟩ := Result.bind_ok_iff.1 h
    obtain ⟨status, -, hloaded⟩ := Result.bind_ok_iff.1 hloaded
    rw [← Except.ok.inj h, List.map_cons, List.map_cons, ih hrest, ← Except.ok.inj hloaded]

/-- The snapshot holds exactly the hashes of the active, unexpired keys. -/
theorem loadActive_hashes {iso : Iso8601} {db : Database} {now : Instant}
    {rows : List (String × PartnerRuntimeConfig)} (h : loadActive iso db now = .ok rows)
    (hash : String) :
    ((PartnerSnapshot.fromRows rows).get hash).isSome ↔
      ∃ key ∈ db.keys, key.usable (formatInstant now) = true ∧ key.keyHash = hash := by
  have hmem : ((PartnerSnapshot.fromRows rows).get hash).isSome ↔ hash ∈ rows.map Prod.fst := by
    rw [PartnerSnapshot.get, PartnerSnapshot.fromRows, List.lookup_isSome_iff]
    simp only [List.mem_reverse, List.mem_map, beq_iff_eq]
    exact ⟨fun ⟨row, hrow, heq⟩ => ⟨row, hrow, heq.symm⟩, fun ⟨row, hrow, heq⟩ =>
      ⟨row, hrow, heq.symm⟩⟩
  rw [hmem, loadKeys_hashes h, List.mem_map]
  constructor
  · rintro ⟨key, hkey, hhash⟩
    obtain ⟨hkeys, husable⟩ := List.mem_filter.1 ((List.perm_insertionSort _ _).mem_iff.1 hkey)
    exact ⟨key, hkeys, husable, hhash⟩
  · rintro ⟨key, hkey, husable, hhash⟩
    exact ⟨key, (List.perm_insertionSort _ _).mem_iff.2 (List.mem_filter.2 ⟨hkey, husable⟩), hhash⟩

/-! ## Mutations -/

/-- What a mutation did. -/
inductive Outcome (α : Type) where
  | done (value : α)
  | missing
  /-- the row exists and was left alone -/
  | unchanged (value : α)

/-- Collapse to a value, applying a check to whatever the mutation found. -/
def Outcome.result {α : Type} (outcome : Outcome α) (id : Int)
    (check : α → Except ApiKeyError Unit) : Except ApiKeyError α :=
  match outcome with
  | .done value | .unchanged value => do
    check value
    return value
  | .missing => .error (.notFound id)

/-- Refuse an operation on a key that has already been revoked. -/
def requireActive (row : ApiKeyRow) : Except ApiKeyError Unit :=
  if row.status = .active then .ok () else .error (.notActive row.id)

def requireText (field value : String) : Except ApiKeyError String :=
  if Text.trim value = "" then .error (.invalid (field ++ " must not be empty"))
  else .ok (Text.trim value)

/-- A new key, ready to be written. -/
structure NewKey where
  name : String
  consumerId : String
  keyPrefix : String
  hash : String
  now : String
  expiresAt : Option String

def NewKey.record (key : NewKey) (id : Int) : KeyRecord where
  row :=
    { id := id
      name := key.name
      consumerId := key.consumerId
      keyPrefix := key.keyPrefix
      status := .active
      createdAt := key.now
      updatedAt := key.now
      expiresAt := key.expiresAt
      revokedAt := none }
  keyHash := key.hash

namespace Database

def activeKeyExists (db : Database) (consumerId : String) : Bool :=
  db.keys.any fun k => k.row.consumerId = consumerId && k.row.status = .active

def hasHash (db : Database) (hash : String) : Bool :=
  db.keys.any fun k => k.keyHash = hash

/-- Insert one key.  The hash is unique, and so is a consumer among the active keys. -/
def insertKey (db : Database) (key : NewKey) : Except SqliteError (Database × ApiKeyRow) :=
  if db.hasHash key.hash || db.activeKeyExists key.consumerId then .error .constraintUnique
  else
    .ok ({ db with
      keys := db.keys ++ [key.record db.nextKeyId]
      nextKeyId := db.nextKeyId + 1 }, (key.record db.nextKeyId).row)

def fetchRow (db : Database) (id : Int) : Option ApiKeyRow :=
  (db.keys.find? fun k => k.row.id = id).map KeyRecord.row

/-- `UPDATE api_keys SET … WHERE id = ?1` -/
def updateKey (db : Database) (id : Int) (change : ApiKeyRow → ApiKeyRow) : Database :=
  { db with
    keys := db.keys.map fun k => if k.row.id = id then { k with row := change k.row } else k }

end Database

/-- `SET status = 'revoked', revoked_at = ?2, updated_at = ?2` -/
def ApiKeyRow.revoke (now : String) (row : ApiKeyRow) : ApiKeyRow :=
  { row with status := .revoked, revokedAt := some now, updatedAt := now }

/-- A change of the key table, with the plaintext it issues. -/
inductive KeyOp where
  | create (name consumerId : String) (expiresAt : Option OffsetDateTime) (plaintext : String)
  | update (id : Int) (name : Option String)
  | revoke (id : Int)
  | rotate (id : Int) (plaintext : String)

/-- What the mutation answers once it has refreshed the snapshot. -/
abbrev KeyAnswer := Except ApiKeyError ApiKeyRow

/-- The committed database and the answer, or why nothing was committed. -/
abbrev Committed := Except ApiKeyError (Database × KeyAnswer)

def keyPrefixOf (plaintext : String) : String := String.ofList (plaintext.toList.take 12)

/-- Run a transaction.  A database error anywhere in it rolls it back. -/
def mutateDomain (fault : Option SqliteError) (transaction : Database → Committed)
    (db : Database) : Committed :=
  match fault with
  | some e => .error (.database e)
  | none => transaction db

/-- The insert of a new key, with the refusal of a second active one. -/
def createRow (key : NewKey) (db : Database) : Committed :=
  match db.insertKey key with
  | .ok (written, row) => .ok (written, .ok row)
  | .error e =>
    if e = .constraintUnique && db.activeKeyExists key.consumerId then
      .error (.alreadyActive key.consumerId)
    else .error (.database e)

/-- The name and the consumer of a new key, when they and the plaintext are there. -/
def checkNewKey (name consumerId plaintext : String) : Except ApiKeyError (String × String) := do
  let name ← requireText "name" name
  let consumerId ← requireText "consumer_id" consumerId
  if Text.trim plaintext = "" then .error (.invalid "plaintext must not be empty")
  else return (name, consumerId)

section Transactions

variable (deriveKeyHash : String → String) (fault : Option SqliteError) (now : Instant)

/-- `create_with_plaintext`, up to its commit. -/
def createWithPlaintext (name consumerId : String) (expiresAt : Option OffsetDateTime)
    (plaintext : String) (db : Database) : Except Panic Committed :=
  match checkNewKey name consumerId plaintext with
  | .error e => .ok (.error e)
  | .ok (name, consumerId) => do
    let expiresText ← formatDue expiresAt
    return mutateDomain fault (createRow
      { name := name
        consumerId := consumerId
        keyPrefix := keyPrefixOf plaintext
        hash := deriveKeyHash plaintext
        now := formatInstant now
        expiresAt := expiresText }) db

/-- The transaction of `update`.  A revoked key is left alone. -/
def renameRow (id : Int) (name : Option String) (db : Database) : Committed :=
  match db.fetchRow id with
  | none => .ok (db, (Outcome.missing).result id requireActive)
  | some current =>
    if current.status = .active then
      let change := fun row : ApiKeyRow =>
        { row with name := name.getD current.name, updatedAt := formatInstant now }
      .ok (db.updateKey id change, (Outcome.done (change current)).result id requireActive)
    else .ok (db, (Outcome.unchanged current).result id requireActive)

/-- `update`, up to its commit. -/
def updateName (id : Int) (name : Option String) (db : Database) : Committed :=
  match name with
  | none => mutateDomain fault (renameRow now id none) db
  | some text => do
    let _ ← requireText "name" text
    mutateDomain fault (renameRow now id (some text)) db

/-- The transaction of `revoke`. -/
def revokeRow (id : Int) (db : Database) : Committed :=
  match db.fetchRow id with
  | none => .ok (db, (Outcome.missing).result id fun _ => .ok ())
  | some current =>
    if current.status = .active then
      let revoked := ApiKeyRow.revoke (formatInstant now)
      .ok (db.updateKey id revoked, (Outcome.done (revoked current)).result id fun _ => .ok ())
    else .ok (db, (Outcome.unchanged current).result id fun _ => .ok ())

/-- The transaction of `rotate`: the old key is revoked and the new one inserted, or neither. -/
def rotateRow (id : Int) (plaintext : String) (db : Database) : Committed :=
  match db.fetchRow id with
  | none => .ok (db, .error (.notFound id))
  | some current =>
    if current.status = .active then
      match (db.updateKey id (ApiKeyRow.revoke (formatInstant now))).insertKey
        { name := current.name
          consumerId := current.consumerId
          keyPrefix := keyPrefixOf plaintext
          hash := deriveKeyHash plaintext
          now := formatInstant now
          expiresAt := current.expiresAt } with
      | .ok (written, row) => .ok (written, .ok row)
      | .error e => .error (.database e)
    else .ok (db, .error (.notActive current.id))

/-- One mutation up to its commit. -/
def KeyOp.transact (op : KeyOp) (db : Database) : Except Panic Committed :=
  match op with
  | .create name consumerId expiresAt plaintext =>
    createWithPlaintext deriveKeyHash fault now name consumerId expiresAt plaintext db
  | .update id name => .ok (updateName fault now id name db)
  | .revoke id => .ok (mutateDomain fault (revokeRow now id) db)
  | .rotate id plaintext => .ok (mutateDomain fault (rotateRow deriveKeyHash now id plaintext) db)

end Transactions

/-! ## What mutations keep -/

/-- Hashes and ids are unique, and new ids are new. -/
structure Database.Sound (db : Database) : Prop where
  hashes : (db.keys.map KeyRecord.keyHash).Nodup
  ids : (db.keys.map fun k => k.row.id).Nodup
  numbered : ∀ k ∈ db.keys, k.row.id < db.nextKeyId

/-- A later state of the key table: every key is still there under its hash, and a revoked one is
still revoked. -/
structure Database.Evolves (db db' : Database) : Prop where
  sound : db.Sound → db'.Sound
  keeps : ∀ k ∈ db.keys, ∃ k' ∈ db'.keys, k'.row.id = k.row.id ∧ k'.keyHash = k.keyHash ∧
    (k.row.status = .revoked → k'.row.status = .revoked)

namespace Database

theorem Evolves.refl (db : Database) : db.Evolves db :=
  ⟨id, fun k hk => ⟨k, hk, rfl, rfl, id⟩⟩

theorem Evolves.trans {db db' db'' : Database} (h : db.Evolves db') (h' : db'.Evolves db'') :
    db.Evolves db'' where
  sound := fun hsound => h'.sound (h.sound hsound)
  keeps := by
    intro k hk
    obtain ⟨k', hk', hid, hhash, hrevoked⟩ := h.keeps k hk
    obtain ⟨k'', hk'', hid', hhash', hrevoked'⟩ := h'.keeps k' hk'
    exact ⟨k'', hk'', hid'.trans hid, hhash'.trans hhash, fun hr => hrevoked' (hrevoked hr)⟩

/-- Edits of the other tables. -/
theorem Evolves.edit (db : Database) (billing : Store) (models : List PartnerModel) :
    db.Evolves { db with billing := billing, models := models } :=
  ⟨fun h => ⟨h.hashes, h.ids, h.numbered⟩, fun k hk => ⟨k, hk, rfl, rfl, id⟩⟩

theorem mem_updateKey {db : Database} {id : Int} {change : ApiKeyRow → ApiKeyRow}
    {k : KeyRecord} : k ∈ (db.updateKey id change).keys ↔
      ∃ k₀ ∈ db.keys, (if k₀.row.id = id then { k₀ with row := change k₀.row } else k₀) = k :=
  List.mem_map

/-- An update that keeps ids and leaves revoked rows revoked. -/
theorem updateKey_evolves {db : Database} {id : Int} {change : ApiKeyRow → ApiKeyRow}
    (hid : ∀ row, (change row).id = row.id)
    (hrevoked : ∀ row : ApiKeyRow, row.status = .revoked → (change row).status = .revoked) :
    db.Evolves (db.updateKey id change) where
  sound := by
    intro h
    have hhashes : (db.updateKey id change).keys.map KeyRecord.keyHash =
        db.keys.map KeyRecord.keyHash := by
      rw [updateKey, List.map_map]
      refine List.map_congr_left fun k _ => ?_
      simp only [Function.comp]
      split <;> rfl
    have hids : ((db.updateKey id change).keys.map fun k => k.row.id) =
        db.keys.map fun k => k.row.id := by
      rw [updateKey, List.map_map]
      refine List.map_congr_left fun k _ => ?_
      simp only [Function.comp]
      split
      · exact hid k.row
      · rfl
    refine ⟨hhashes ▸ h.hashes, hids ▸ h.ids, fun k hk => ?_⟩
    obtain ⟨k₀, hk₀, rfl⟩ := mem_updateKey.1 hk
    have hlt := h.numbered k₀ hk₀
    split
    · simp only [hid]
      exact hlt
    · exact hlt
  keeps := by
    intro k hk
    refine ⟨_, mem_updateKey.2 ⟨k, hk, rfl⟩, ?_⟩
    split
    · exact ⟨hid k.row, rfl, hrevoked k.row⟩
    · exact ⟨rfl, rfl, fun h => h⟩

theorem insertKey_evolves {db written : Database} {key : NewKey} {row : ApiKeyRow}
    (h : db.insertKey key = .ok (written, row)) : db.Evolves written := by
  unfold insertKey at h
  split at h
  · cases h
  · rename_i hnew
    cases h
    rw [Bool.or_eq_true, not_or] at hnew
    have hhash : ∀ k ∈ db.keys, k.keyHash ≠ key.hash := by
      simpa [hasHash] using hnew.1
    refine ⟨fun hsound => ⟨?_, ?_, ?_⟩, fun k hk => ⟨k, List.mem_append_left _ hk, rfl, rfl, id⟩⟩
    · exact Tables.nodup_insert hsound.hashes hhash
    · exact Tables.nodup_insert hsound.ids fun k hk => ne_of_lt (hsound.numbered k hk)
    · intro k hk
      rcases List.mem_append.1 hk with hk | hk
      · exact lt_trans (hsound.numbered k hk) (Int.lt_succ _)
      · rw [List.mem_singleton] at hk
        subst hk
        exact Int.lt_succ _

theorem fetchRow_some {db : Database} {id : Int} {row : ApiKeyRow}
    (h : db.fetchRow id = some row) : ∃ k ∈ db.keys, k.row = row ∧ k.row.id = id := by
  obtain ⟨k, hk, hrow⟩ := Option.map_eq_some_iff.1 h
  exact ⟨k, List.mem_of_find?_eq_some hk, hrow, by simpa using List.find?_some hk⟩

end Database

theorem revoke_evolves (db : Database) (id : Int) (now : String) :
    db.Evolves (db.updateKey id (ApiKeyRow.revoke now)) :=
  Database.updateKey_evolves (fun _ => rfl) fun _ _ => rfl

/-- The row of an id that was found is revoked afterwards. -/
theorem revoke_revokes {db : Database} {id : Int} {current : ApiKeyRow} (now : String)
    (h : db.fetchRow id = some current) :
    ∃ k ∈ (db.updateKey id (ApiKeyRow.revoke now)).keys, k.row.id = id ∧ k.row.status = .revoked := by
  obtain ⟨k, hk, -, hid⟩ := Database.fetchRow_some h
  refine ⟨_, Database.mem_updateKey.2 ⟨k, hk, rfl⟩, ?_⟩
  rw [if_pos hid]
  exact ⟨hid, rfl⟩

/-- What a committed mutation does to the key table, and what it answers. -/
inductive Database.KeyWrite (db : Database) : Database → KeyAnswer → Prop
  | nothing (answer : KeyAnswer) : KeyWrite db db answer
  | issued {key : NewKey} {written : Database} {row : ApiKeyRow}
      (hinsert : db.insertKey key = .ok (written, row)) : KeyWrite db written (.ok row)
  | renamed {id : Int} {current : ApiKeyRow} (name now : String)
      (hcurrent : db.fetchRow id = some current) (hactive : current.status = .active) :
      KeyWrite db
        (db.updateKey id fun row => { row with name := name, updatedAt := now })
        (.ok { current with name := name, updatedAt := now })
  | revoked {id : Int} {current : ApiKeyRow} (now : String)
      (hcurrent : db.fetchRow id = some current) (hactive : current.status = .active) :
      KeyWrite db (db.updateKey id (ApiKeyRow.revoke now)) (.ok (current.revoke now))
  | rotated {id : Int} {current : ApiKeyRow} {key : NewKey} {written : Database} {row : ApiKeyRow}
      (now : String) (hcurrent : db.fetchRow id = some current) (hactive : current.status = .active)
      (hinsert : (db.updateKey id (ApiKeyRow.revoke now)).insertKey key = .ok (written, row)) :
      KeyWrite db written (.ok row)

section Transactions

variable {deriveKeyHash : String → String} {fault : Option SqliteError} {now : Instant}
  {db written : Database} {answer : KeyAnswer}

theorem mutateDomain_ok {transaction : Database → Committed} {committed : Database × KeyAnswer}
    (h : mutateDomain fault transaction db = .ok committed) : transaction db = .ok committed := by
  cases fault with
  | some e => cases h
  | none => exact h

theorem createRow_writes {key : NewKey} (h : createRow key db = .ok (written, answer)) :
    db.KeyWrite written answer := by
  unfold createRow at h
  split at h
  · rename_i hinsert
    cases h
    exact .issued hinsert
  · split at h <;> cases h

theorem renameRow_writes {id : Int} {name : Option String}
    (h : renameRow now id name db = .ok (written, answer)) : db.KeyWrite written answer := by
  unfold renameRow at h
  split at h
  · cases h
    exact .nothing _
  · rename_i current hcurrent
    split at h
    · rename_i hactive
      have hrenamed := Database.KeyWrite.renamed (name.getD current.name) (formatInstant now)
        hcurrent hactive
      simp only [Outcome.result, requireActive, if_pos hactive] at h
      cases h
      exact hrenamed
    · cases h
      exact .nothing _

theorem revokeRow_writes {id : Int} (h : revokeRow now id db = .ok (written, answer)) :
    db.KeyWrite written answer := by
  unfold revokeRow at h
  split at h
  · cases h
    exact .nothing _
  · rename_i current hcurrent
    split at h
    · rename_i hactive
      cases h
      exact .revoked _ hcurrent hactive
    · cases h
      exact .nothing _

theorem rotateRow_writes {id : Int} {plaintext : String}
    (h : rotateRow deriveKeyHash now id plaintext db = .ok (written, answer)) :
    db.KeyWrite written answer := by
  unfold rotateRow at h
  split at h
  · cases h
    exact .nothing _
  · rename_i current hcurrent
    split at h
    · rename_i hactive
      split at h
      · rename_i hinsert
        cases h
        exact .rotated _ hcurrent hactive hinsert
      · cases h
    · cases h
      exact .nothing _

/-- Everything a committed mutation can do. -/
theorem KeyOp.transact_writes {op : KeyOp}
    (h : op.transact deriveKeyHash fault now db = .ok (.ok (written, answer))) :
    db.KeyWrite written answer := by
  cases op with
  | create name consumerId expiresAt plaintext =>
    simp only [KeyOp.transact, createWithPlaintext] at h
    split at h
    · cases h
    · obtain ⟨expiresText, -, h⟩ := Result.bind_ok_iff.1 h
      exact createRow_writes (mutateDomain_ok (Except.ok.inj h))
  | update id name =>
    have hupdate := Except.ok.inj h
    cases name with
    | none => exact renameRow_writes (mutateDomain_ok hupdate)
    | some text =>
      obtain ⟨_, -, hrename⟩ := Result.bind_ok_iff.1 hupdate
      exact renameRow_writes (mutateDomain_ok hrename)
  | revoke id => exact revokeRow_writes (mutateDomain_ok (Except.ok.inj h))
  | rotate id plaintext => exact rotateRow_writes (mutateDomain_ok (Except.ok.inj h))

/-- A committed mutation keeps every key's hash and leaves revoked keys revoked. -/
theorem KeyOp.transact_evolves {op : KeyOp}
    (h : op.transact deriveKeyHash fault now db = .ok (.ok (written, answer))) :
    db.Evolves written := by
  cases KeyOp.transact_writes h with
  | nothing => exact Database.Evolves.refl db
  | issued hinsert => exact Database.insertKey_evolves hinsert
  | renamed => exact Database.updateKey_evolves (fun _ => rfl) fun _ hrevoked => hrevoked
  | revoked => exact revoke_evolves db _ _
  | rotated _ _ _ hinsert =>
    exact (revoke_evolves db _ _).trans (Database.insertKey_evolves hinsert)

/-- The key a mutation takes out of use. -/
def KeyOp.retires : KeyOp → Option Int
  | .revoke id | .rotate id _ => some id
  | _ => none

/-- A revocation or rotation that answered left its key revoked. -/
theorem KeyOp.transact_revokes {op : KeyOp} {row : ApiKeyRow}
    (h : op.transact deriveKeyHash fault now db = .ok (.ok (written, .ok row))) {id : Int}
    (hid : op.retires = some id) : ∃ k ∈ written.keys, k.row.id = id ∧ k.row.status = .revoked := by
  cases op with
  | create => cases hid
  | update => cases hid
  | revoke id' =>
    cases hid
    have hrevoke := mutateDomain_ok (Except.ok.inj h)
    unfold revokeRow at hrevoke
    split at hrevoke
    · cases hrevoke
    · rename_i current hcurrent
      split at hrevoke
      · cases hrevoke
        exact revoke_revokes _ hcurrent
      · rename_i hnot
        cases hrevoke
        obtain ⟨k, hk, rfl, hkid⟩ := Database.fetchRow_some hcurrent
        refine ⟨k, hk, hkid, ?_⟩
        cases hstatus : k.row.status with
        | active => exact absurd hstatus hnot
        | revoked => rfl
  | rotate id' plaintext =>
    cases hid
    have hrotate := mutateDomain_ok (Except.ok.inj h)
    unfold rotateRow at hrotate
    split at hrotate
    · cases hrotate
    · rename_i current hcurrent
      split at hrotate
      · split at hrotate
        · rename_i hinsert
          cases hrotate
          obtain ⟨k, hk, hkid, hrevoked⟩ := revoke_revokes (formatInstant now) hcurrent
          obtain ⟨k', hk', hid', -, hkeeps⟩ := (Database.insertKey_evolves hinsert).keeps k hk
          exact ⟨k', hk', hid'.trans hkid, hkeeps hrevoked⟩
        · cases hrotate
      · cases hrotate

end Transactions

end PartnerPortal

import PartnerPortal.ApiKeys.Store
import PartnerPortal.Lib.Tables

/-!
# The life of an API key

Mutations of the key table by any number of instances, each one transaction, one after another.
A key is issued active, may be renamed while it is, and is revoked once; after that nothing about
it changes.

Results:
- `insertKey_advances`, `renameKey_advances`, `revokeKey_advances` — what each write keeps;
- `runCalls_advances` — what any sequence of mutations keeps;
- `rotate_replaces` — a rotation turns one active key into a revoked one and a successor;
- `key_lifecycle` — all of it, from an empty table on.
-/

namespace PartnerPortal

/-! ## Calls -/

/-- A mutation some instance runs, with its clock reading and what the database makes of it. -/
structure KeyCall where
  op : KeyOp
  fault : Option SqliteError
  now : Instant

section Calls

variable (deriveKeyHash : String → String)

/-- One call: the database afterwards, and the answer. -/
def KeyCall.run (call : KeyCall) (db : Database) : Database × Except Panic KeyAnswer :=
  match call.op.transact deriveKeyHash call.fault call.now db with
  | .ok (.ok (written, answer)) => (written, .ok answer)
  | .ok (.error e) => (db, .ok (.error e))
  | .error panic => (db, .error panic)

/-- Calls one after another. -/
def runCalls (db : Database) (calls : List KeyCall) : Database :=
  calls.foldl (fun db call => (call.run deriveKeyHash db).1) db

end Calls

/-- A database no key was issued in yet. -/
def Database.withoutKeys (billing : Store) (models : List PartnerModel) : Database where
  billing := billing
  models := models
  keys := []
  nextKeyId := 1

/-! ## What the table keeps -/

/-- What holds of the key table between transactions. -/
structure Database.Lifecycle (db : Database) : Prop extends db.Sound where
  /-- one active key per consumer -/
  oneActive : Tables.Indexed (fun k : KeyRecord => k.row.status = .active)
    (fun k : KeyRecord => k.row.consumerId) db.keys
  revokedAt : ∀ k ∈ db.keys, k.row.revokedAt.isSome ↔ k.row.status = .revoked

/-- The same key later: the credential is the same, and a revoked row is the same altogether. -/
structure KeyRecord.Succeeds (k k' : KeyRecord) : Prop where
  id : k'.row.id = k.row.id
  keyHash : k'.keyHash = k.keyHash
  consumerId : k'.row.consumerId = k.row.consumerId
  keyPrefix : k'.row.keyPrefix = k.row.keyPrefix
  createdAt : k'.row.createdAt = k.row.createdAt
  expiresAt : k'.row.expiresAt = k.row.expiresAt
  frozen : k.row.status = .revoked → k' = k

theorem KeyRecord.Succeeds.refl (k : KeyRecord) : k.Succeeds k :=
  ⟨rfl, rfl, rfl, rfl, rfl, rfl, fun _ => rfl⟩

theorem KeyRecord.Succeeds.trans (k k' k'' : KeyRecord) (h : k.Succeeds k')
    (h' : k'.Succeeds k'') : k.Succeeds k'' where
  id := h'.id.trans h.id
  keyHash := h'.keyHash.trans h.keyHash
  consumerId := h'.consumerId.trans h.consumerId
  keyPrefix := h'.keyPrefix.trans h.keyPrefix
  createdAt := h'.createdAt.trans h.createdAt
  expiresAt := h'.expiresAt.trans h.expiresAt
  frozen := by
    intro hrevoked
    have hk' := h.frozen hrevoked
    subst hk'
    exact h'.frozen hrevoked

/-- A later state of the key table. -/
structure Database.Advances (db db' : Database) : Prop where
  lifecycle : db'.Lifecycle
  keys : Tables.Kept KeyRecord.Succeeds db.keys db'.keys

namespace Database

theorem Lifecycle.withoutKeys (billing : Store) (models : List PartnerModel) :
    (withoutKeys billing models).Lifecycle where
  hashes := List.nodup_nil
  ids := List.nodup_nil
  numbered := fun _ hk => absurd hk List.not_mem_nil
  oneActive := Tables.Indexed.nil
  revokedAt := fun _ hk => absurd hk List.not_mem_nil

theorem Advances.refl {db : Database} (h : db.Lifecycle) : db.Advances db :=
  ⟨h, Tables.Kept.refl KeyRecord.Succeeds.refl db.keys⟩

theorem Advances.trans {db db' db'' : Database} (h : db.Advances db') (h' : db'.Advances db'') :
    db.Advances db'' :=
  ⟨h'.lifecycle, h.keys.trans KeyRecord.Succeeds.trans h'.keys⟩

/-! ## One write -/

section Writes

variable {db : Database} (h : db.Lifecycle)
include h

theorem insertKey_advances {written : Database} {key : NewKey} {row : ApiKeyRow}
    (hinsert : db.insertKey key = .ok (written, row)) : db.Advances written := by
  have hsound := (insertKey_evolves hinsert).sound h.toSound
  unfold insertKey at hinsert
  split at hinsert
  · cases hinsert
  · rename_i hnew
    cases hinsert
    rw [Bool.or_eq_true, not_or] at hnew
    have hfree : ∀ k ∈ db.keys, k.row.consumerId = key.consumerId → k.row.status ≠ .active := by
      simpa [activeKeyExists] using hnew.2
    refine ⟨⟨hsound, ?_, fun k hk => ?_⟩, Tables.Kept.insert KeyRecord.Succeeds.refl _ _⟩
    · refine h.oneActive.insert fun _ k hk hactive hconsumer => ?_
      exact hfree k hk hconsumer (of_decide_eq_true hactive)
    · rcases List.mem_append.1 hk with hk | hk
      · exact h.revokedAt k hk
      · rw [List.mem_singleton] at hk
        subst hk
        simp [NewKey.record]

/-- The row of an id is the one that was read. -/
theorem eq_of_fetchRow {id : Int} {current : ApiKeyRow} (hcurrent : db.fetchRow id = some current)
    {k : KeyRecord} (hk : k ∈ db.keys) (hid : k.row.id = id) : k.row = current := by
  obtain ⟨k₀, hk₀, hrow, hid₀⟩ := fetchRow_some hcurrent
  rw [← hrow, List.inj_on_of_nodup_map h.ids hk hk₀ (hid.trans hid₀.symm)]

/-- An update of an active row that keeps its credential, and its status and revocation in step. -/
theorem updateKey_advances {id : Int} {current : ApiKeyRow}
    (hcurrent : db.fetchRow id = some current) (hactive : current.status = .active)
    {change : ApiKeyRow → ApiKeyRow} (hsound : (db.updateKey id change).Sound)
    (hkeeps : ∀ k : KeyRecord, k.row = current →
      k.Succeeds { k with row := change k.row })
    (hrevoked : (change current).revokedAt.isSome ↔ (change current).status = .revoked) :
    db.Advances (db.updateKey id change) := by
  have hrow : ∀ k ∈ db.keys, k.row.id = id → k.row = current :=
    fun k hk hid => eq_of_fetchRow h hcurrent hk hid
  refine ⟨⟨hsound, h.oneActive.update fun k hk hk' => ?_, fun k' hk' => ?_⟩,
    Tables.Kept.update fun k hk => ?_⟩
  · split at hk' <;> rename_i hid
    · -- the row is active before the update, whatever it is afterwards
      refine ⟨?_, ?_⟩
      · rw [hrow k hk hid]
        exact decide_eq_true hactive
      · rw [if_pos hid]
        exact (hkeeps k (hrow k hk hid)).consumerId
    · rw [if_neg hid]
      exact ⟨hk', rfl⟩
  · obtain ⟨k, hk, rfl⟩ := mem_updateKey.1 hk'
    split
    · rename_i hid
      rw [hrow k hk hid]
      exact hrevoked
    · exact h.revokedAt k hk
  · split
    · rename_i hid
      exact hkeeps k (hrow k hk hid)
    · exact KeyRecord.Succeeds.refl k

theorem revokeKey_advances {id : Int} {current : ApiKeyRow} (now : String)
    (hcurrent : db.fetchRow id = some current) (hactive : current.status = .active) :
    db.Advances (db.updateKey id (ApiKeyRow.revoke now)) := by
  refine updateKey_advances h hcurrent hactive ((revoke_evolves db id now).sound h.toSound)
    (fun k hk => ⟨rfl, rfl, rfl, rfl, rfl, rfl, fun hrevoked => ?_⟩) (iff_of_true rfl rfl)
  rw [hk, hactive] at hrevoked
  cases hrevoked

theorem renameKey_advances {id : Int} {current : ApiKeyRow} (name now : String)
    (hcurrent : db.fetchRow id = some current) (hactive : current.status = .active) :
    db.Advances (db.updateKey id fun row => { row with name := name, updatedAt := now }) := by
  obtain ⟨k, hk, hrow, -⟩ := fetchRow_some hcurrent
  have hevolves : db.Evolves
      (db.updateKey id fun row => { row with name := name, updatedAt := now }) :=
    updateKey_evolves (fun _ => rfl) fun _ hrevoked => hrevoked
  refine updateKey_advances h hcurrent hactive (hevolves.sound h.toSound)
    (fun k hk => ⟨rfl, rfl, rfl, rfl, rfl, rfl, fun hrevoked => ?_⟩) ?_
  · rw [hk, hactive] at hrevoked
    cases hrevoked
  · have hcurrent := h.revokedAt k hk
    rw [hrow] at hcurrent
    exact hcurrent

theorem KeyWrite.advances {written : Database} {answer : KeyAnswer}
    (hwrite : db.KeyWrite written answer) : db.Advances written := by
  cases hwrite with
  | nothing => exact Advances.refl h
  | issued hinsert => exact insertKey_advances h hinsert
  | renamed name now hcurrent hactive => exact renameKey_advances h name now hcurrent hactive
  | revoked now hcurrent hactive => exact revokeKey_advances h now hcurrent hactive
  | rotated now hcurrent hactive hinsert =>
    have hrevoke := revokeKey_advances h now hcurrent hactive
    exact hrevoke.trans (insertKey_advances hrevoke.lifecycle hinsert)

end Writes

/-- A write that answers an error wrote nothing. -/
theorem KeyWrite.eq_of_error {db written : Database} {e : ApiKeyError}
    (hwrite : db.KeyWrite written (.error e)) : written = db := by
  cases hwrite
  rfl

end Database

/-! ## Sequences of calls -/

section Runs

variable {deriveKeyHash : String → String}

theorem KeyCall.run_advances {db : Database} (h : db.Lifecycle) (call : KeyCall) :
    db.Advances (call.run deriveKeyHash db).1 := by
  unfold KeyCall.run
  split
  · rename_i hcommit
    exact Database.KeyWrite.advances h (KeyOp.transact_writes hcommit)
  · exact Database.Advances.refl h
  · exact Database.Advances.refl h

/-- A call that answered an error left the database as it was. -/
theorem KeyCall.run_error {db : Database} {call : KeyCall} {e : ApiKeyError}
    (h : (call.run deriveKeyHash db).2 = .ok (.error e)) : (call.run deriveKeyHash db).1 = db := by
  unfold KeyCall.run at h ⊢
  split at h
  · rename_i written answer hcommit
    cases h
    exact Database.KeyWrite.eq_of_error (KeyOp.transact_writes hcommit)
  · rfl
  · cases h

theorem runCalls_advances (calls : List KeyCall) {db : Database} (h : db.Lifecycle) :
    db.Advances (runCalls deriveKeyHash db calls) := by
  induction calls generalizing db with
  | nil => exact Database.Advances.refl h
  | cons call calls ih =>
    have hcall := @KeyCall.run_advances deriveKeyHash db h call
    exact hcall.trans (ih hcall.lifecycle)

end Runs

/-! ## Rotation -/

/-- What a rotation of `k` leaves: `k` revoked, and one new key in its place. -/
structure Database.Replaced (db db' : Database) (k : KeyRecord) (now : Instant)
    (successor : KeyRecord) : Prop where
  keys : db'.keys = (db.keys.map fun k' =>
    if k' = k then { k with row := k.row.revoke (formatInstant now) } else k') ++ [successor]
  fresh : ∀ k' ∈ db.keys, k'.row.id ≠ successor.row.id
  status : successor.row.status = .active
  consumerId : successor.row.consumerId = k.row.consumerId
  name : successor.row.name = k.row.name
  expiresAt : successor.row.expiresAt = k.row.expiresAt

/-- What a rotation comes to: the key is replaced, or the call is refused and the table stays as it
was.  Only a database failure or a plaintext already in use stands in its way. -/
def Database.RotatesTo (deriveKeyHash : String → String) (db : Database) (k : KeyRecord)
    (plaintext : String) (fault : Option SqliteError) (now : Instant) : Prop :=
  (fault = none ∧ db.hasHash (deriveKeyHash plaintext) = false ∧
    ∃ written successor, db.Replaced written k now successor ∧
      successor.keyHash = deriveKeyHash plaintext ∧
      KeyCall.run deriveKeyHash ⟨.rotate k.row.id plaintext, fault, now⟩ db =
        (written, .ok (.ok successor.row))) ∨
  ((fault.isSome ∨ db.hasHash (deriveKeyHash plaintext) = true) ∧
    ∃ e, KeyCall.run deriveKeyHash ⟨.rotate k.row.id plaintext, fault, now⟩ db =
      (db, .ok (.error e)))

section Rotation

variable {deriveKeyHash : String → String} {db : Database} {k : KeyRecord}

namespace Database

theorem Lifecycle.fetchRow_eq (h : db.Lifecycle) (hk : k ∈ db.keys) :
    db.fetchRow k.row.id = some k.row := by
  cases hfetch : db.fetchRow k.row.id with
  | none =>
    have hnone := List.find?_eq_none.1 (Option.map_eq_none_iff.1 hfetch) k hk
    simp at hnone
  | some current => rw [eq_of_fetchRow h hfetch hk rfl]

/-- With its only active key revoked, a consumer has room for another. -/
theorem Lifecycle.activeKeyExists_revoked (h : db.Lifecycle) (hk : k ∈ db.keys)
    (hactive : k.row.status = .active) (now : String) :
    (db.updateKey k.row.id (ApiKeyRow.revoke now)).activeKeyExists k.row.consumerId = false := by
  rw [activeKeyExists, List.any_eq_false]
  intro k' hk'
  obtain ⟨k₀, hk₀, rfl⟩ := mem_updateKey.1 hk'
  split
  · simp [ApiKeyRow.revoke]
  · rename_i hid
    intro hboth
    obtain ⟨hconsumer, hactive₀⟩ := (Bool.and_eq_true _ _).mp hboth
    have heq := h.oneActive.eq_of_key hk₀ hk hactive₀ (decide_eq_true hactive)
      (of_decide_eq_true hconsumer)
    exact hid (by rw [heq])

theorem hasHash_updateKey (id : Int) (change : ApiKeyRow → ApiKeyRow) (hash : String) :
    (db.updateKey id change).hasHash hash = db.hasHash hash := by
  rw [hasHash, hasHash, updateKey, List.any_map]
  congr 1
  funext k'
  simp only [Function.comp]
  split <;> rfl

/-- The update of one key's row changes that key alone. -/
theorem Lifecycle.updateKey_keys (h : db.Lifecycle) (hk : k ∈ db.keys)
    (change : ApiKeyRow → ApiKeyRow) :
    (db.updateKey k.row.id change).keys =
      db.keys.map fun k' => if k' = k then { k with row := change k.row } else k' := by
  refine List.map_congr_left fun k' hk' => ?_
  by_cases heq : k' = k
  · rw [heq, if_pos rfl, if_pos rfl]
  · have hid : k'.row.id ≠ k.row.id := fun hid =>
      heq (List.inj_on_of_nodup_map h.ids hk' hk hid)
    rw [if_neg hid, if_neg heq]

end Database

/-- An active key is replaced by its rotation. -/
theorem rotate_replaces (h : db.Lifecycle) (hk : k ∈ db.keys) (hactive : k.row.status = .active)
    (plaintext : String) (fault : Option SqliteError) (now : Instant) :
    db.RotatesTo deriveKeyHash k plaintext fault now := by
  cases fault with
  | some e => exact .inr ⟨.inl rfl, .database e, rfl⟩
  | none =>
    have hfree := h.activeKeyExists_revoked hk hactive (formatInstant now)
    cases hhash : db.hasHash (deriveKeyHash plaintext) with
    | true =>
      refine .inr ⟨.inr hhash, .database .constraintUnique, ?_⟩
      simp only [KeyCall.run, KeyOp.transact, mutateDomain, rotateRow, h.fetchRow_eq hk, hactive,
        if_true, Database.insertKey, Database.hasHash_updateKey, hhash, Bool.true_or]
    | false =>
      let key : NewKey :=
        { name := k.row.name
          consumerId := k.row.consumerId
          keyPrefix := keyPrefixOf plaintext
          hash := deriveKeyHash plaintext
          now := formatInstant now
          expiresAt := k.row.expiresAt }
      let revoked := db.updateKey k.row.id (ApiKeyRow.revoke (formatInstant now))
      let written : Database :=
        { revoked with
          keys := revoked.keys ++ [key.record db.nextKeyId]
          nextKeyId := db.nextKeyId + 1 }
      have hkeys : written.keys = _ :=
        congrArg (· ++ [key.record db.nextKeyId]) (h.updateKey_keys hk _)
      have hfresh : ∀ k' ∈ db.keys, k'.row.id ≠ (key.record db.nextKeyId).row.id :=
        fun k' hk' => ne_of_lt (h.numbered k' hk')
      refine .inl ⟨rfl, hhash, written, key.record db.nextKeyId,
        ⟨hkeys, hfresh, rfl, rfl, rfl, rfl⟩, rfl, ?_⟩
      simp only [KeyCall.run, KeyOp.transact, mutateDomain, rotateRow, h.fetchRow_eq hk, hactive,
        if_true, Database.insertKey, Database.hasHash_updateKey, hhash, hfree, Bool.false_or,
        Bool.false_eq_true, if_false]
      rfl

end Rotation

/-- From an empty table on, whatever the calls: one active key per consumer, distinct hashes, a
revocation date exactly on the revoked; every key keeps its credential through any later calls, and
a revoked one everything; a rotation replaces an active key; a call that fails changes nothing. -/
theorem key_lifecycle (deriveKeyHash : String → String) (billing : Store)
    (models : List PartnerModel) (calls later : List KeyCall) :
    let db := runCalls deriveKeyHash (Database.withoutKeys billing models) calls
    (∀ consumerId, (db.keys.filter fun k =>
      k.row.consumerId = consumerId && k.row.status = .active).length ≤ 1) ∧
    (db.keys.map KeyRecord.keyHash).Nodup ∧
    (∀ k ∈ db.keys, k.row.revokedAt.isSome ↔ k.row.status = .revoked) ∧
    (∀ k ∈ db.keys, ∃ k' ∈ (runCalls deriveKeyHash db later).keys, k.Succeeds k') ∧
    (∀ k ∈ db.keys, k.row.status = .active → ∀ plaintext fault now,
      db.RotatesTo deriveKeyHash k plaintext fault now) ∧
    ∀ (call : KeyCall) (e : ApiKeyError), (call.run deriveKeyHash db).2 = .ok (.error e) →
      (call.run deriveKeyHash db).1 = db := by
  intro db
  have hdb : db.Lifecycle :=
    (runCalls_advances calls (Database.Lifecycle.withoutKeys billing models)).lifecycle
  refine ⟨fun consumerId => hdb.oneActive.length_le_one consumerId, hdb.hashes, hdb.revokedAt,
    (runCalls_advances later hdb).keys, ?_, fun call e he => KeyCall.run_error he⟩
  exact fun k hk hactive plaintext fault now => rotate_replaces hdb hk hactive plaintext fault now

end PartnerPortal

import PartnerPortal.ApiKeys.Refresher

/-!
# Keys that work

A mutation answers a row and a plaintext, and the snapshot is loaded after it.  The snapshot has the key
where it is active and its expiry has not passed; a rotation checks the first only, and its key has the
expiry of the one before it.

Results:
- `authenticatesAs_iff` — a snapshot authenticates the one key with a hash exactly where it is usable;
- `issued_key_works_iff` — when an issued key works.
-/

namespace PartnerPortal

/-- A snapshot authenticates a plaintext as a consumer. -/
def AuthenticatesAs (deriveKeyHash : String → String) (snapshot : PartnerSnapshot)
    (plaintext consumerId : String) : Prop :=
  ∃ config, authenticate deriveKeyHash snapshot plaintext = some config ∧
    config.consumerId = consumerId

/-- The plaintext a mutation returns. -/
def KeyOp.issues : KeyOp → Option String
  | .create _ _ _ plaintext | .rotate _ plaintext => some plaintext
  | _ => none

/-- What an issued key starts with has not expired: the expiry that is asked for, or the one of the key
that is replaced. -/
def KeyOp.Unexpired (op : KeyOp) (db : Database) (now : Instant) : Prop :=
  match op with
  | .create _ _ expiresAt _ => ∀ expiry, expiresAt = some expiry → now.utc < expiry
  | .rotate id _ => ∀ current, db.fetchRow id = some current →
    ∀ expiry, current.expiresAt = some expiry → formatInstant now < expiry
  | _ => True

/-! ## The one key with a hash -/

section Snapshot

variable {deriveKeyHash : String → String} {iso : Iso8601} {db : Database} {now : Instant}
  {rows : List (String × PartnerRuntimeConfig)}

/-- A row of the snapshot is that of a usable key. -/
theorem loadKeys_consumer {models : List PartnerModel} {keys : List KeyRecord}
    (h : loadKeys iso db now models keys = .ok rows) {hash : String} {config : PartnerRuntimeConfig}
    (hrow : (hash, config) ∈ rows) :
    ∃ key ∈ keys, key.keyHash = hash ∧ key.row.consumerId = config.consumerId := by
  induction keys generalizing models rows with
  | nil =>
    cases h
    cases hrow
  | cons key rest ih =>
    obtain ⟨loaded, hloaded, h⟩ := Result.bind_ok_iff.1 h
    obtain ⟨loadedRest, hrest, h⟩ := Result.bind_ok_iff.1 h
    obtain ⟨status, -, hloaded⟩ := Result.bind_ok_iff.1 hloaded
    rw [← Except.ok.inj h, List.mem_cons] at hrow
    rcases hrow with hfirst | hlater
    · rw [← Except.ok.inj hloaded] at hfirst
      obtain ⟨rfl, rfl⟩ := Prod.mk.inj hfirst
      exact ⟨key, List.mem_cons_self, rfl, rfl⟩
    · obtain ⟨key', hkey', hhash, hconsumer⟩ := ih hrest hlater
      exact ⟨key', List.mem_cons_of_mem _ hkey', hhash, hconsumer⟩

/-- What a snapshot authenticates is a usable key of the consumer. -/
theorem authenticate_key (h : loadActive iso db now = .ok rows) {plaintext : String}
    {config : PartnerRuntimeConfig}
    (hconfig : authenticate deriveKeyHash (.fromRows rows) plaintext = some config) :
    ∃ key ∈ db.keys, key.usable (formatInstant now) = true ∧
      key.keyHash = deriveKeyHash plaintext ∧ key.row.consumerId = config.consumerId := by
  obtain ⟨before, after, hsplit, -⟩ := List.lookup_eq_some_iff.1 hconfig
  have hrow : (deriveKeyHash plaintext, config) ∈ (PartnerSnapshot.fromRows rows).byHash :=
    hsplit ▸ List.mem_append_right _ List.mem_cons_self
  obtain ⟨key, hkey, hhash, hconsumer⟩ := loadKeys_consumer h (List.mem_reverse.1 hrow)
  obtain ⟨hstored, husable⟩ := List.mem_filter.1 ((List.mem_insertionSort _).1 hkey)
  exact ⟨key, hstored, husable, hhash, hconsumer⟩

/-- A snapshot authenticates the one key with a hash exactly where it is usable. -/
theorem authenticatesAs_iff (h : loadActive iso db now = .ok rows) {key : KeyRecord}
    (hkey : key ∈ db.keys) (honly : ∀ k ∈ db.keys, k.keyHash = key.keyHash → k = key)
    {plaintext : String} (hhash : deriveKeyHash plaintext = key.keyHash) :
    AuthenticatesAs deriveKeyHash (.fromRows rows) plaintext key.row.consumerId ↔
      key.usable (formatInstant now) = true := by
  constructor
  · rintro ⟨config, hconfig, -⟩
    obtain ⟨k, hk, husable, hsame, -⟩ := authenticate_key h hconfig
    rwa [honly k hk (hsame.trans hhash)] at husable
  · intro husable
    obtain ⟨config, hconfig⟩ := Option.isSome_iff_exists.1
      ((loadActive_hashes h (deriveKeyHash plaintext)).2 ⟨key, hkey, husable, hhash.symm⟩)
    -- the row that was found is of a key with this hash, and there is one only
    obtain ⟨k, hk, -, hsame, hconsumer⟩ := authenticate_key h hconfig
    rw [honly k hk (hsame.trans hhash)] at hconsumer
    exact ⟨config, hconfig, hconsumer.symm⟩

/-- An inserted key is the one with its hash, and the active one of its consumer. -/
theorem insertKey_only {written : Database} {key : NewKey} {row : ApiKeyRow}
    (h : db.insertKey key = .ok (written, row)) :
    row = (key.record db.nextKeyId).row ∧ key.record db.nextKeyId ∈ written.keys ∧
      (∀ k ∈ written.keys, k.keyHash = key.hash → k = key.record db.nextKeyId) ∧
      ∀ k ∈ written.keys, k.row.consumerId = key.consumerId → k.row.status = .active →
        k = key.record db.nextKeyId := by
  unfold Database.insertKey at h
  split at h
  · cases h
  · rename_i hnew
    cases h
    rw [Bool.or_eq_true, not_or] at hnew
    have hhash : ∀ k ∈ db.keys, k.keyHash ≠ key.hash := by
      simpa [Database.hasHash] using hnew.1
    have hactive : ∀ k ∈ db.keys, k.row.consumerId = key.consumerId → k.row.status ≠ .active := by
      simpa [Database.activeKeyExists] using hnew.2
    refine ⟨rfl, List.mem_append_right _ List.mem_cons_self, fun k hk hsame => ?_,
      fun k hk hconsumer hstatus => ?_⟩
    · rcases List.mem_append.1 hk with hold | hk
      · exact absurd hsame (hhash k hold)
      · exact List.mem_singleton.1 hk
    · rcases List.mem_append.1 hk with hold | hk
      · exact absurd hstatus (hactive k hold hconsumer)
      · exact List.mem_singleton.1 hk

/-- After the insert of a key, its plaintext is authenticated until it expires. -/
theorem inserted_authenticatesAs_iff {written : Database} {key : NewKey} {row : ApiKeyRow}
    (h : db.insertKey key = .ok (written, row)) (hload : loadActive iso written now = .ok rows)
    {plaintext : String} (hhash : deriveKeyHash plaintext = key.hash) :
    AuthenticatesAs deriveKeyHash (.fromRows rows) plaintext row.consumerId ↔
      ∀ expiry, key.expiresAt = some expiry → formatInstant now < expiry := by
  obtain ⟨rfl, hmem, honly, -⟩ := insertKey_only h
  rw [authenticatesAs_iff hload hmem honly hhash, KeyRecord.usable, Bool.and_eq_true]
  show (decide (KeyStatus.active = .active) = true ∧ key.expiresAt.all _ = true) ↔ _
  cases key.expiresAt <;> simp

end Snapshot

/-! ## Issued keys -/

section Issued

variable {deriveKeyHash : String → String} {iso : Iso8601} {db written : Database}
  {fault : Option SqliteError} {now later : Instant} {row : ApiKeyRow} {plaintext : String}
  {rows : List (String × PartnerRuntimeConfig)}

/-- A stored expiry is later than a clock reading exactly where the expiry is. -/
theorem formatDue_unexpired {expiresAt : Option OffsetDateTime} {text : Option String}
    (h : formatDue expiresAt = .ok text) :
    (∀ expiry, text = some expiry → formatInstant later < expiry) ↔
      ∀ expiry, expiresAt = some expiry → later.utc < expiry := by
  cases expiresAt with
  | none =>
    cases h
    constructor
    · exact fun _ _ hnone => nomatch hnone
    · exact fun _ _ hnone => nomatch hnone
  | some expiry =>
    obtain ⟨stored, hstored, h⟩ := Result.bind_ok_iff.1 h
    have hlater := @formatInstant_lt_tsText_iff later _ (formatTs_isOk_iff.1 ⟨stored, hstored⟩).2
    rw [← formatTs_ok hstored] at hlater
    cases h
    constructor
    · rintro hunexpired expiry' ⟨⟩
      exact hlater.1 (hunexpired stored rfl)
    · rintro hunexpired stored' ⟨⟩
      exact hlater.2 (hunexpired expiry rfl)

/-- A created key is the insert of one with the plaintext's hash. -/
theorem createWithPlaintext_inserts {name consumerId : String} {expiresAt : Option OffsetDateTime}
    (h : createWithPlaintext deriveKeyHash fault now name consumerId expiresAt plaintext db =
      .ok (.ok (written, .ok row))) :
    Text.trim plaintext ≠ "" ∧ ∃ key, db.insertKey key = .ok (written, row) ∧
      key.hash = deriveKeyHash plaintext ∧ formatDue expiresAt = .ok key.expiresAt := by
  unfold createWithPlaintext at h
  split at h
  · cases h
  · rename_i hcheck
    obtain ⟨text, htext, h⟩ := Result.bind_ok_iff.1 h
    have hcreate := mutateDomain_ok (Except.ok.inj h)
    unfold createRow at hcreate
    split at hcreate
    · rename_i hinsert
      cases hcreate
      refine ⟨fun hblank => ?_, _, hinsert, rfl, htext⟩
      simp only [checkNewKey, hblank, if_true] at hcheck
      obtain ⟨_, -, hcheck⟩ := Result.bind_ok_iff.1 hcheck
      obtain ⟨_, -, hcheck⟩ := Result.bind_ok_iff.1 hcheck
      cases hcheck
    · split at hcreate <;> cases hcreate

theorem created_authenticatesAs_iff {name consumerId : String} {expiresAt : Option OffsetDateTime}
    (h : createWithPlaintext deriveKeyHash fault now name consumerId expiresAt plaintext db =
      .ok (.ok (written, .ok row)))
    (hload : loadActive iso written later = .ok rows) :
    AuthenticatesAs deriveKeyHash (.fromRows rows) plaintext row.consumerId ↔
      ∀ expiry, expiresAt = some expiry → later.utc < expiry := by
  obtain ⟨-, key, hinsert, hhash, htext⟩ := createWithPlaintext_inserts h
  rw [inserted_authenticatesAs_iff hinsert hload hhash.symm]
  exact formatDue_unexpired htext

theorem rotated_authenticatesAs_iff {id : Int}
    (h : rotateRow deriveKeyHash now id plaintext db = .ok (written, .ok row))
    (hload : loadActive iso written later = .ok rows) :
    AuthenticatesAs deriveKeyHash (.fromRows rows) plaintext row.consumerId ↔
      ∀ current, db.fetchRow id = some current →
        ∀ expiry, current.expiresAt = some expiry → formatInstant later < expiry := by
  unfold rotateRow at h
  split at h
  · cases h
  · rename_i current hcurrent
    split at h
    · split at h
      · rename_i hinsert
        cases h
        rw [inserted_authenticatesAs_iff hinsert hload rfl, hcurrent]
        simp only [Option.some.injEq, forall_eq']
      · cases h
    · cases h

/-- A returned key works exactly where the expiry it starts with has not passed when the snapshot is
loaded. -/
theorem issued_key_works_iff {op : KeyOp} (hissues : op.issues = some plaintext)
    (h : op.transact deriveKeyHash fault now db = .ok (.ok (written, .ok row)))
    (hload : loadActive iso written later = .ok rows) :
    AuthenticatesAs deriveKeyHash (.fromRows rows) plaintext row.consumerId ↔
      op.Unexpired db later := by
  cases op with
  | create name consumerId expiresAt issued =>
    cases hissues
    exact created_authenticatesAs_iff h hload
  | rotate id issued =>
    cases hissues
    exact rotated_authenticatesAs_iff (mutateDomain_ok (Except.ok.inj h)) hload
  | update => cases hissues
  | revoke => cases hissues

end Issued

namespace Sample

/-- A key whose expiry has passed. -/
def expiredDatabase : Database :=
  { keyDatabase with
    keys := [{ keyRecord with
      row := { keyRecord.row with expiresAt := some "2026-09-26T09:00:00.000000000Z" } }] }

/-- The rotation of that key. -/
def rotatedDatabase : Database :=
  match KeyOp.transact keyHash none keyClock (.rotate 1 "pp_new") expiredDatabase with
  | .ok (.ok (written, _)) => written
  | _ => expiredDatabase

def rotatedRow : ApiKeyRow :=
  { keyRecord.row with
    id := 2
    keyPrefix := keyPrefixOf "pp_new"
    createdAt := formatInstant keyClock
    updatedAt := formatInstant keyClock
    expiresAt := some "2026-09-26T09:00:00.000000000Z" }

theorem rotated_sample : KeyOp.transact keyHash none keyClock (.rotate 1 "pp_new") expiredDatabase =
    .ok (.ok (rotatedDatabase, .ok rotatedRow)) := rfl

theorem loadActive_rotated : loadActive iso rotatedDatabase keyClock = .ok [] := by decide +kernel

end Sample

/-- The replacement of an expired key. -/
theorem issued_key_works_iff_sample :
    AuthenticatesAs Sample.keyHash (.fromRows []) "pp_new" Sample.rotatedRow.consumerId ↔
      (KeyOp.rotate 1 "pp_new").Unexpired Sample.expiredDatabase Sample.keyClock :=
  issued_key_works_iff rfl Sample.rotated_sample Sample.loadActive_rotated

/-- An expired key that is still active is rotated, and the plaintext that is returned is refused. -/
theorem rotated_key_refused : ¬∀ deriveKeyHash iso db written id plaintext fault now later row rows,
    KeyOp.transact deriveKeyHash fault now (.rotate id plaintext) db = .ok (.ok (written, .ok row)) →
    loadActive iso written later = .ok rows →
    AuthenticatesAs deriveKeyHash (.fromRows rows) plaintext row.consumerId := by
  intro hall
  obtain ⟨config, hconfig, -⟩ := hall _ Sample.iso _ _ _ _ _ _ _ _ _ Sample.rotated_sample
    Sample.loadActive_rotated
  cases hconfig

end PartnerPortal

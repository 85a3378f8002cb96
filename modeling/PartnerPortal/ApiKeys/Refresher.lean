import PartnerPortal.ApiKeys.Store
import PartnerPortal.Lib.Publish

/-!
# Refreshing the key snapshot

One instance's key store under any number of threads.  A refresh loads the snapshot from the
database and then swaps it in, under no lock that covers both, and the poller, the mutations and
partner edits all refresh.  A mutation commits, loads and swaps, and then returns.

Results:
- `KeyRun.sound` — what a run keeps as long as no swap goes back to an older load;
- `returned_mutations_last` — in such a run a returned mutation stays in every later snapshot, and a
  revoked or rotated-out key is never accepted again;
- `revoked_key_accepted` — a load from before a revocation, swapped in after it returned, brings
  the key back.
-/

namespace PartnerPortal

/-- A mutation and what it answers. -/
structure KeyChange where
  op : KeyOp
  answer : KeyAnswer

/-- The committed databases, the snapshot requests are authenticated against, the threads, and the
mutations that returned after a refresh of their own. -/
abbrev KeySystem := Publish.System Nat Database KeyChange PartnerSnapshot

inductive KeyAction where
  /-- a thread of this instance runs a mutation up to its commit -/
  | mutate (t : Nat) (op : KeyOp) (fault : Option SqliteError) (now : Instant)
  /-- another instance's mutation -/
  | sibling (op : KeyOp) (fault : Option SqliteError) (now : Instant)
  /-- a write of the other tables -/
  | edit (billing : Store) (models : List PartnerModel)
  /-- a thread loads, for its own mutation or for a refresh alone -/
  | load (t : Nat) (fault : Option SqliteError) (now : Instant)
  /-- a thread swaps in what it loaded -/
  | swap (t : Nat)

section Steps

variable (deriveKeyHash : String → String) (iso : Iso8601)

/-- The two halves of `refresh` and the commits around them.  A refresh that fails leaves the
snapshot in place, and its thread returns. -/
def KeyAction.step (sys : KeySystem) : KeyAction → Option KeySystem
  | .mutate t op fault now =>
    match sys.tasks t with
    | .idle =>
      match op.transact deriveKeyHash fault now sys.latest with
      | .ok (.ok (written, answer)) =>
        some ((sys.push written).setTask t (.committed ⟨op, answer⟩ (sys.version + 1)))
      | _ => some sys
    | _ => none
  | .sibling op fault now =>
    match op.transact deriveKeyHash fault now sys.latest with
    | .ok (.ok (written, _)) => some (sys.push written)
    | _ => some sys
  | .edit billing models => some (sys.push { sys.latest with billing := billing, models := models })
  | .load t fault now =>
    match sys.owner t with
    | none => none
    | some own =>
      match fault, loadActive iso sys.latest now with
      | none, .ok rows =>
        some (sys.setTask t (.loaded own ⟨sys.version, PartnerSnapshot.fromRows rows⟩))
      | _, _ => some (sys.setTask t .idle)
  | .swap t =>
    match sys.tasks t with
    | .loaded own copy =>
      some { sys.setTask t .idle with
        shown := copy
        returned := own.toList ++ sys.returned }
    | _ => none

/-- A swap puts in a load from a commit no older than that of the snapshot in place. -/
def KeyAction.Forward (sys : KeySystem) : KeyAction → Prop
  | .swap t => ∀ own copy, sys.tasks t = .loaded own copy → sys.shown.version ≤ copy.version
  | _ => True

/-- An instance at start-up: its first snapshot, and idle threads. -/
def startup (db : Database) (rows : List (String × PartnerRuntimeConfig)) : KeySystem where
  earlier := []
  latest := db
  shown := ⟨0, PartnerSnapshot.fromRows rows⟩
  tasks := fun _ => .idle
  returned := []

/-- The states reached from start-up when no swap goes back. -/
inductive KeyRun : KeySystem → Prop
  | start {db : Database} {now : Instant} {rows : List (String × PartnerRuntimeConfig)}
      (hsound : db.Sound) (hload : loadActive iso db now = .ok rows) : KeyRun (startup db rows)
  | step {sys next : KeySystem} (action : KeyAction) (hrun : KeyRun sys)
      (hforward : action.Forward sys) (hstep : action.step deriveKeyHash iso sys = some next) :
      KeyRun next

end Steps

/-! ## One step -/

/-- A copy of a database: its active keys at some clock reading. -/
def SnapshotOf (iso : Iso8601) (db : Database) (snapshot : PartnerSnapshot) : Prop :=
  ∃ now rows, loadActive iso db now = .ok rows ∧ snapshot = PartnerSnapshot.fromRows rows

/-- What a mutation's commit established: the key it was to retire is revoked. -/
def KeyChange.Holds (change : KeyChange) (db : Database) : Prop :=
  ∀ id row, change.op.retires = some id → change.answer = .ok row →
    ∃ k ∈ db.keys, k.row.id = id ∧ k.row.status = .revoked

theorem KeyChange.Holds.evolves {change : KeyChange} {db db' : Database} (h : change.Holds db)
    (hevolves : db.Evolves db') : change.Holds db' := by
  intro id row hretires hanswer
  obtain ⟨k, hk, hid, hrevoked⟩ := h id row hretires hanswer
  obtain ⟨k', hk', hid', -, hkeeps⟩ := hevolves.keeps k hk
  exact ⟨k', hk', hid'.trans hid, hkeeps hrevoked⟩

theorem KeyOp.transact_holds {deriveKeyHash : String → String} {fault : Option SqliteError}
    {now : Instant} {op : KeyOp} {db written : Database} {answer : KeyAnswer}
    (h : op.transact deriveKeyHash fault now db = .ok (.ok (written, answer))) :
    (KeyChange.mk op answer).Holds written := by
  rintro id row hretires rfl
  exact KeyOp.transact_revokes h hretires

section Runs

variable {deriveKeyHash : String → String} {iso : Iso8601}

abbrev KeyStep (iso : Iso8601) : KeySystem → KeySystem → Prop :=
  Publish.Step Database.Evolves (SnapshotOf iso) KeyChange.Holds

abbrev KeySound (iso : Iso8601) : KeySystem → Prop :=
  Publish.Sound Database.Evolves (SnapshotOf iso) KeyChange.Holds

/-- A step that does not go back changes nothing or is a step of publishing copies. -/
theorem KeyAction.step_cases {action : KeyAction} {sys next : KeySystem}
    (hforward : action.Forward sys) (h : action.step deriveKeyHash iso sys = some next) :
    next = sys ∨ KeyStep iso sys next := by
  cases action with
  | mutate t op fault now =>
    simp only [KeyAction.step] at h
    split at h
    · rename_i hidle
      split at h <;> cases h
      · rename_i hcommitted
        exact Or.inr (.commit t _ _ hidle (KeyOp.transact_evolves hcommitted)
          (KeyOp.transact_holds hcommitted))
      · exact Or.inl rfl
    · cases h
  | sibling op fault now =>
    simp only [KeyAction.step] at h
    split at h <;> cases h
    · rename_i hcommitted
      exact Or.inr (.other _ (KeyOp.transact_evolves hcommitted))
    · exact Or.inl rfl
  | edit billing models =>
    cases h
    exact Or.inr (.other _ (Database.Evolves.edit sys.latest billing models))
  | load t fault now =>
    simp only [KeyAction.step] at h
    split at h
    · cases h
    · rename_i own howner
      split at h <;> cases h
      · rename_i rows hload
        exact Or.inr (.load t own _ howner ⟨now, rows, hload, rfl⟩)
      · exact Or.inr (.drop t)
  | swap t =>
    simp only [KeyAction.step] at h
    split at h
    · rename_i own copy hloaded
      cases h
      exact Or.inr (.swap t own copy hloaded (hforward own copy hloaded))
    · cases h

/-! ## Runs -/

theorem startup_sound {db : Database} {now : Instant}
    {rows : List (String × PartnerRuntimeConfig)} (hload : loadActive iso db now = .ok rows) :
    KeySound iso (startup db rows) where
  chain := by
    intro v s s' _ hs'
    simp [startup, Publish.System.commits] at hs'
  shown := ⟨db, rfl, now, rows, hload, rfl⟩
  committed := fun _ _ _ h => by cases h
  loaded := fun _ _ _ h => by cases h
  returned := fun _ h => absurd h List.not_mem_nil

/-- What a run keeps: the chain of commits, the snapshot and the loads as copies of commits, every
commit sound. -/
theorem KeyRun.sound {sys : KeySystem} (h : KeyRun deriveKeyHash iso sys) :
    KeySound iso sys ∧ ∀ db ∈ sys.commits, db.Sound := by
  induction h with
  | @start db now rows hsound hload =>
    refine ⟨startup_sound hload, fun db' hdb' => ?_⟩
    obtain rfl : db' = db := by simpa [startup, Publish.System.commits] using hdb'
    exact hsound
  | step action _ hforward hstep ih =>
    obtain ⟨hsys, hall⟩ := ih
    rcases KeyAction.step_cases hforward hstep with rfl | hstep
    · exact ⟨hsys, hall⟩
    · exact ⟨hstep.sound hsys, hstep.commits_keep (fun _ _ hnext => hnext.sound) hall⟩

/-- A revoked key's plaintext is not in a snapshot of its database. -/
theorem authenticate_revoked {db : Database} (hsound : db.Sound) {snapshot : PartnerSnapshot}
    (hsnapshot : SnapshotOf iso db snapshot) {k : KeyRecord} (hk : k ∈ db.keys)
    (hrevoked : k.row.status = .revoked) {plaintext : String}
    (hhash : deriveKeyHash plaintext = k.keyHash) :
    authenticate deriveKeyHash snapshot plaintext = none := by
  obtain ⟨now, rows, hload, rfl⟩ := hsnapshot
  rw [authenticate, ← Option.not_isSome_iff_eq_none, loadActive_hashes hload]
  rintro ⟨k', hk', husable, hhash'⟩
  obtain rfl := List.inj_on_of_nodup_map hsound.hashes hk' hk (hhash'.trans hhash)
  simp [KeyRecord.usable, hrevoked] at husable

/-- As long as no swap goes back, the snapshot is that of a commit no older than any mutation that
returned after its own refresh, and the plaintext of a key such a mutation retired is never
accepted. -/
theorem returned_mutations_last {sys : KeySystem} (hrun : KeyRun deriveKeyHash iso sys) :
    (∃ db, sys.commits[sys.shown.version]? = some db ∧ SnapshotOf iso db sys.shown.view) ∧
      ∀ change ∈ sys.returned, change.2 ≤ sys.shown.version ∧
        ∀ id row, change.1.op.retires = some id → change.1.answer = .ok row →
          ∀ k ∈ sys.latest.keys, k.row.id = id → ∀ plaintext,
            deriveKeyHash plaintext = k.keyHash →
              authenticate deriveKeyHash sys.shown.view plaintext = none := by
  obtain ⟨hsound, hall⟩ := hrun.sound
  refine ⟨hsound.shown, fun change hchange => ⟨(hsound.returned change hchange).2, ?_⟩⟩
  intro id row hretires hanswer k hk hid plaintext hhash
  obtain ⟨db, hdb, hview, hholds⟩ := hsound.returned_lasts
    (fun _ _ _ hnext hpost => hpost.evolves hnext) hchange
  obtain ⟨old, hold, holdId, hrevoked⟩ := hholds id row hretires hanswer
  have hmem : db ∈ sys.commits := List.mem_of_getElem? hdb
  have hlatest : db.Evolves sys.latest :=
    @Publish.Sound.lasts _ _ _ _ _ _ _ sys hsound db.Evolves (fun _ _ hnext h => h.trans hnext) _ _
      _ _ (Publish.System.version_le_of_some hdb) hdb sys.commits_latest (Database.Evolves.refl db)
  -- the key of that id is the same row in the database the snapshot was loaded from
  obtain ⟨k', hk', hid', hhash', -⟩ := hlatest.keeps old hold
  have hsame : k' = k := List.inj_on_of_nodup_map (hall _ sys.latest_mem_commits).ids hk' hk
    (by rw [hid', holdId, hid])
  exact authenticate_revoked (hall db hmem) hview hold hrevoked
    (hhash.trans (by rw [← hsame, hhash']))

end Runs

/-- Actions one after another. -/
def runKeys (deriveKeyHash : String → String) (iso : Iso8601) (sys : KeySystem)
    (actions : List KeyAction) : Option KeySystem :=
  actions.foldlM (fun state action => action.step deriveKeyHash iso state) sys

namespace Sample

def keyHash (plaintext : String) : String := "hash of " ++ plaintext

/-- One partner's active key. -/
def keyRecord : KeyRecord where
  row :=
    { id := 1
      name := "first"
      consumerId := "acme"
      keyPrefix := "pp_old"
      status := .active
      createdAt := "2026-09-26T08:00:00.000000000Z"
      updatedAt := "2026-09-26T08:00:00.000000000Z"
      expiresAt := none
      revokedAt := none }
  keyHash := keyHash "pp_old"

def keyDatabase : Database where
  billing :=
    { partners := []
      usage := []
      statements := []
      lines := []
      nextStatementId := 1
      nextLineId := 1 }
  models := []
  keys := [keyRecord]
  nextKeyId := 2

def keyConfig : PartnerRuntimeConfig where
  consumerId := "acme"
  keyName := "first"
  billingMode := .invoice
  billingEmail := ""
  serviceStatus := .active
  models := []

def keyStart : KeySystem := startup keyDatabase [(keyHash "pp_old", keyConfig)]

def keyClock : Instant := noon

/-- A thread revokes the key, loads and swaps. -/
def revocation : List KeyAction :=
  [.mutate 1 (.revoke 1) none keyClock, .load 1 none keyClock, .swap 1]

/-- A poller loads before the revocation and swaps after it. -/
def staleRevocation : List KeyAction := .load 0 none keyClock :: revocation ++ [.swap 0]

def keyRevoked : KeySystem := (runKeys keyHash iso keyStart revocation).getD keyStart

theorem keyRun_keyRevoked : KeyRun keyHash iso keyRevoked := by
  have hstart : KeyRun keyHash iso keyStart :=
    KeyRun.start ⟨List.nodup_singleton _, List.nodup_singleton _, fun k hk => by
      rw [List.mem_singleton.1 hk]
      decide⟩ (show loadActive iso keyDatabase keyClock = _ by decide +kernel)
  refine KeyRun.step (.swap 1) (KeyRun.step (.load 1 none keyClock)
    (KeyRun.step (.mutate 1 (.revoke 1) none keyClock) hstart trivial rfl) trivial rfl) ?_ rfl
  intro own copy hloaded
  exact Nat.zero_le _

end Sample

/-- A revocation with nothing else running: its key is refused. -/
theorem returned_mutations_last_sample :
    authenticate Sample.keyHash Sample.keyRevoked.shown.view "pp_old" = none := by
  have hreturned : (KeyChange.mk (.revoke 1) (.ok (Sample.keyRecord.row.revoke
      (formatInstant Sample.keyClock))), 1) ∈ Sample.keyRevoked.returned := List.mem_cons_self
  exact ((returned_mutations_last Sample.keyRun_keyRevoked).2 _ hreturned).2 1 _ rfl rfl
    { Sample.keyRecord with row := Sample.keyRecord.row.revoke (formatInstant Sample.keyClock) }
    List.mem_cons_self rfl "pp_old" rfl

/-- A load from before a revocation that is swapped in after the revocation returned: the revoked
key was refused, and is accepted again. -/
theorem revoked_key_accepted :
    (runKeys Sample.keyHash Sample.iso Sample.keyStart Sample.revocation).map (fun sys =>
        (sys.returned.map Prod.snd, sys.shown.version,
          (authenticate Sample.keyHash sys.shown.view "pp_old").isSome)) = some ([1], 1, false) ∧
      (runKeys Sample.keyHash Sample.iso Sample.keyStart Sample.staleRevocation).map (fun sys =>
        (sys.returned.map Prod.snd, sys.shown.version,
          (authenticate Sample.keyHash sys.shown.view "pp_old").isSome)) = some ([1], 0, true) := by
  decide +kernel

end PartnerPortal

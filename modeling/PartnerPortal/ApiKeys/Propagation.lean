import PartnerPortal.ApiKeys.Refresher
import PartnerPortal.Lib.Duty
import PartnerPortal.Lib.Settle

/-!
# Key changes reach the snapshot

A commit of any instance and the refreshes of one instance, in any order: a swap may put an older
load over a newer one, as a poller's does that loaded before a change and swaps after it.

Result: `revocation_reaches` — once a thread swaps while no thread holds a load from before a commit,
the snapshot has the commit in it, and a key that was revoked by then is refused from there on.
-/

namespace PartnerPortal

open Publish

section Runs

variable {deriveKeyHash : String → String} {iso : Iso8601}

/-- A step changes nothing or is a move of publishing copies. -/
theorem KeyAction.step_move {action : KeyAction} {sys next : KeySystem}
    (h : action.step deriveKeyHash iso sys = some next) :
    next = sys ∨ Move Database.Evolves (SnapshotOf iso) sys next := by
  cases action with
  | mutate t op fault now =>
    simp only [KeyAction.step] at h
    split at h
    · split at h <;> cases h
      · rename_i hcommitted
        exact Or.inr (.commit t _ _ (KeyOp.transact_evolves hcommitted))
      · exact Or.inl rfl
    · cases h
  | sibling op fault now =>
    simp only [KeyAction.step] at h
    split at h <;> cases h
    · rename_i hcommitted
      exact Or.inr (.other _ (KeyOp.transact_evolves hcommitted))
    · exact Or.inl rfl
  | edit billing models =>
    cases h
    exact Or.inr (.other _ (Database.Evolves.edit sys.latest billing models))
  | load t fault now =>
    simp only [KeyAction.step] at h
    split at h
    · cases h
    · rename_i own howner
      split at h <;> cases h
      · rename_i rows hload
        exact Or.inr (.load t own _ ⟨now, rows, hload, rfl⟩)
      · exact Or.inr (.drop t)
  | swap t =>
    simp only [KeyAction.step] at h
    split at h
    · rename_i own copy hloaded
      cases h
      exact Or.inr (.swap t own copy hloaded)
    · cases h

abbrev keyStep (deriveKeyHash : String → String) (iso : Iso8601) (sys : KeySystem)
    (action : KeyAction) : Option KeySystem :=
  action.step deriveKeyHash iso sys

variable {P : Database → Prop} {v : Nat} {s t : KeySystem} {actions : List KeyAction}

theorem run_since (hrun : Duty.run (keyStep deriveKeyHash iso) s actions = some t)
    (hkeeps : ∀ db db', db.Evolves db' → P db → P db') (h : Since (SnapshotOf iso) P v s) :
    Since (SnapshotOf iso) P v t := by
  refine Duty.run_keeps (fun s action t hstep hs => ?_) hrun h
  rcases KeyAction.step_move hstep with rfl | hmove
  · exact hs
  · exact hmove.since hkeeps hs

theorem run_settled (hrun : Duty.run (keyStep deriveKeyHash iso) s actions = some t)
    (hsince : Since (SnapshotOf iso) P v s) (hkeeps : ∀ db db', db.Evolves db' → P db → P db')
    (h : Settled v s) : Settled v t := by
  have hboth : Since (SnapshotOf iso) P v t ∧ Settled v t := by
    refine Duty.run_keeps (P := fun s => Since (SnapshotOf iso) P v s ∧ Settled v s)
      (fun s action t hstep hs => ?_) hrun ⟨hsince, h⟩
    rcases KeyAction.step_move hstep with rfl | hmove
    · exact hs
    · exact ⟨hmove.since hkeeps hs.1, hmove.settled hs.1.le hs.2⟩
  exact hboth.2

/-- At start-up the snapshot is one of the database, which is all there is. -/
theorem startup_since {db : Database} (hP : P db) {now : Instant}
    {rows : List (String × PartnerRuntimeConfig)} (hload : loadActive iso db now = .ok rows) :
    Since (SnapshotOf iso) P 0 (startup db rows) where
  le := Nat.zero_le _
  holds := by
    intro w s _ hs
    cases w with
    | zero =>
      cases hs
      exact hP
    | succ w => cases hs
  shown := ⟨db, rfl, now, rows, hload, rfl⟩
  loaded := fun _ _ _ h => by cases h

/-- A swap while no older load is held leaves none. -/
theorem swap_settles {thread : Nat} (hloads : ∀ u own copy, s.tasks u = .loaded own copy →
    v ≤ copy.version) (hswap : keyStep deriveKeyHash iso s (.swap thread) = some t) :
    Settled v t := by
  simp only [keyStep, KeyAction.step] at hswap
  split at hswap
  · rename_i own copy hloaded
    cases hswap
    refine ⟨hloads thread own copy hloaded, fun u own' copy' hheld => ?_⟩
    have hidle : (s.setTask thread .idle).tasks u = .loaded own' copy' := hheld
    rw [System.tasks_setTask] at hidle
    split at hidle
    · cases hidle
    · exact hloads u own' copy' hidle
  · cases hswap

/-- Once a thread swaps while no thread holds a load from before a commit, the snapshot is one of a
database with that commit in it, and a key that was revoked by then is refused from there on. -/
theorem revocation_reaches {db : Database} (hsound : db.Sound) {start : Instant}
    {rows : List (String × PartnerRuntimeConfig)} (hstart : loadActive iso db start = .ok rows)
    {before between after : List KeyAction} {committed ready last : KeySystem} {thread : Nat}
    (hcommitted : Duty.run (keyStep deriveKeyHash iso) (startup db rows) before = some committed)
    (hready : Duty.run (keyStep deriveKeyHash iso) committed between = some ready)
    (hloads : ∀ u own copy, ready.tasks u = .loaded own copy → committed.version ≤ copy.version)
    (hlast : Duty.run (keyStep deriveKeyHash iso) ready (.swap thread :: after) = some last) :
    (∃ db', committed.latest.Evolves db' ∧ SnapshotOf iso db' last.shown.view) ∧
      ∀ k ∈ committed.latest.keys, k.row.status = .revoked → ∀ plaintext,
        deriveKeyHash plaintext = k.keyHash →
          authenticate deriveKeyHash last.shown.view plaintext = none := by
  -- what the commit left is left of it in every later one
  have hkeeps : ∀ db db' : Database, db.Evolves db' →
      committed.latest.Evolves db ∧ db.Sound → committed.latest.Evolves db' ∧ db'.Sound :=
    fun db db' hnext h => ⟨h.1.trans hnext, hnext.sound h.2⟩
  have hstarted := run_since hcommitted (fun _ _ hnext h => hnext.sound h)
    (startup_since hsound hstart)
  have hlatest : committed.latest.Sound :=
    hstarted.holds _ _ hstarted.le committed.commits_latest
  have hsince := run_since hready hkeeps
    (hstarted.latest ⟨Database.Evolves.refl committed.latest, hlatest⟩)
  obtain ⟨swapped, hswap, hafter⟩ := Duty.run_cons_iff.1 hlast
  have hone : Duty.run (keyStep deriveKeyHash iso) ready [.swap thread] = some swapped :=
    Duty.run_cons_iff.2 ⟨swapped, hswap, rfl⟩
  have hswapped := run_since hone hkeeps hsince
  have hsettled := run_settled hafter hswapped hkeeps (swap_settles hloads hswap)
  obtain ⟨db', ⟨hevolves, hsound'⟩, hview⟩ := (run_since hafter hkeeps hswapped).shows hsettled
  refine ⟨⟨db', hevolves, hview⟩, fun k hk hrevoked plaintext hhash => ?_⟩
  obtain ⟨k', hk', -, hhash', hstays⟩ := hevolves.keeps k hk
  exact authenticate_revoked hsound' hview hk' (hstays hrevoked) (hhash.trans hhash'.symm)

end Runs

namespace Sample

/-- A poller loads, and a sibling revokes the key. -/
def siblingRevokes : List KeyAction := [.load 0 none keyClock, .sibling (.revoke 1) none keyClock]

/-- The poller swaps in what it had loaded, and loads again. -/
def pollerLoads : List KeyAction := [.swap 0, .load 0 none keyClock]

def keysAfter (sys : KeySystem) (actions : List KeyAction) : KeySystem :=
  (Duty.run (keyStep keyHash iso) sys actions).getD sys

def keyRevokedBySibling : KeySystem := keysAfter keyStart siblingRevokes

def keyReloaded : KeySystem := keysAfter keyRevokedBySibling pollerLoads

theorem keyDatabase_sound : keyDatabase.Sound where
  hashes := List.nodup_singleton _
  ids := List.nodup_singleton _
  numbered := fun k hk => by
    rw [List.mem_singleton.1 hk]
    decide

theorem keyDatabase_loads :
    loadActive iso keyDatabase keyClock = .ok [(keyHash "pp_old", keyConfig)] := by
  decide +kernel

theorem keyReloaded_tasks : ∀ u own copy, keyReloaded.tasks u = .loaded own copy →
    keyRevokedBySibling.version ≤ copy.version := by
  intro u own copy hloaded
  rcases u with _ | u
  · cases hloaded
    decide
  · cases hloaded

end Sample

/-- A key that a sibling revoked, and that a stale load kept for one interval more. -/
theorem revocation_reaches_poller :
    authenticate Sample.keyHash (Sample.keysAfter Sample.keyReloaded [.swap 0]).shown.view "pp_old" =
      none := by
  have hbefore : Duty.run (keyStep Sample.keyHash Sample.iso) Sample.keyStart Sample.siblingRevokes =
      some Sample.keyRevokedBySibling := rfl
  have hbetween : Duty.run (keyStep Sample.keyHash Sample.iso) Sample.keyRevokedBySibling
      Sample.pollerLoads = some Sample.keyReloaded := rfl
  have hlast : Duty.run (keyStep Sample.keyHash Sample.iso) Sample.keyReloaded [.swap 0] =
      some (Sample.keysAfter Sample.keyReloaded [.swap 0]) := rfl
  exact (revocation_reaches Sample.keyDatabase_sound Sample.keyDatabase_loads hbefore hbetween
    Sample.keyReloaded_tasks hlast).2
    { Sample.keyRecord with row := Sample.keyRecord.row.revoke (formatInstant Sample.keyClock) }
    List.mem_cons_self rfl "pp_old" rfl

end PartnerPortal

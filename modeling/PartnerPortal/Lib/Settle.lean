import PartnerPortal.Lib.Publish

/-!
# Copies that settle

Threads publish copies of a committed state as in `Publish`, and a copy may be put over a newer one.
What holds from a commit on is then not always what the shown copy says.  It is from the moment on
at which a copy of that commit or of a later one is shown and no thread holds an older one.

Results:
- `Move.since` — what holds from a commit on, and whose copies are held, after any step;
- `Move.settled` — copies that settled stay settled;
- `Since.shows` — the shown copy is then one of a state with what the commit brought.
-/

namespace Publish

variable {τ σ ρ ν : Type*}

section Copies

variable (view : σ → ν → Prop)

/-- A property holds of every commit from one on, and every copy is one of the commit it names. -/
structure Since (P : σ → Prop) (v : Nat) (sys : System τ σ ρ ν) : Prop where
  le : v ≤ sys.version
  holds : ∀ w s, v ≤ w → sys.commits[w]? = some s → P s
  shown : Reads view sys sys.shown
  loaded : ∀ t own copy, sys.tasks t = .loaded own copy → Reads view sys copy

/-- No copy that is shown or held is older than a commit. -/
structure Settled (v : Nat) (sys : System τ σ ρ ν) : Prop where
  shown : v ≤ sys.shown.version
  loaded : ∀ t own copy, sys.tasks t = .loaded own copy → v ≤ copy.version

end Copies

variable {next : σ → σ → Prop} {view : σ → ν → Prop} {P : σ → Prop} {v : Nat}
  {sys sys' : System τ σ ρ ν}

/-- What holds of the latest commit holds from it on. -/
theorem Since.latest (h : Since view P v sys) {Q : σ → Prop} (hQ : Q sys.latest) :
    Since view Q sys.version sys where
  le := Nat.le_refl _
  holds := by
    intro w s hw hs
    have hlatest := sys.commits_latest
    rw [Nat.le_antisymm hw (System.version_le_of_some hs), hs] at hlatest
    exact Option.some.inj hlatest ▸ hQ
  shown := h.shown
  loaded := h.loaded

theorem Since.push (h : Since view P v sys) (hkeeps : ∀ s s', next s s' → P s → P s') {state : σ}
    (hnext : next sys.latest state) : Since view P v (sys.push state) where
  le := by
    have hversion : (sys.push state).version = sys.version + 1 := sys.length_commits
    exact hversion ▸ Nat.le_succ_of_le h.le
  holds := by
    intro w s hw hs
    rw [System.commits_push] at hs
    rcases Nat.lt_or_ge w sys.commits.length with hlt | hge
    · rw [List.getElem?_append_left hlt] at hs
      exact h.holds w s hw hs
    · rw [List.getElem?_append_right hge] at hs
      obtain rfl : state = s := by
        cases hrest : w - sys.commits.length with
        | zero => rwa [hrest, List.getElem?_cons_zero, Option.some.injEq] at hs
        | succ n => rw [hrest] at hs; cases hs
      exact hkeeps _ _ hnext (h.holds sys.version sys.latest h.le sys.commits_latest)
  shown := h.shown.push state
  loaded := fun t own copy hloaded => (h.loaded t own copy hloaded).push state

/-- The shown copy is one of a state with what the commit brought. -/
theorem Since.shows (h : Since view P v sys) (hsettled : Settled v sys) :
    ∃ s, P s ∧ view s sys.shown.view := by
  obtain ⟨s, hs, hview⟩ := h.shown
  exact ⟨s, h.holds _ s hsettled.shown hs, hview⟩

/-! ## Steps -/

variable [DecidableEq τ]

section Moves

variable (next : σ → σ → Prop) (view : σ → ν → Prop)

/-- One step, in which a copy is put whatever is in its place. -/
inductive Move (sys : System τ σ ρ ν) : System τ σ ρ ν → Prop
  | commit (t : τ) (reply : ρ) (state : σ) (hnext : next sys.latest state) :
      Move sys ((sys.push state).setTask t (.committed reply (sys.version + 1)))
  | other (state : σ) (hnext : next sys.latest state) : Move sys (sys.push state)
  | load (t : τ) (own : Option (ρ × Nat)) (copy : ν) (hview : view sys.latest copy) :
      Move sys (sys.setTask t (.loaded own ⟨sys.version, copy⟩))
  | swap (t : τ) (own : Option (ρ × Nat)) (copy : Copy ν) (hloaded : sys.tasks t = .loaded own copy) :
      Move sys { sys.setTask t .idle with
        shown := copy
        returned := own.toList ++ sys.returned }
  | drop (t : τ) : Move sys (sys.setTask t .idle)

end Moves

/-- A thread moves on to a task that holds no other copy. -/
theorem Since.setTask (h : Since view P v sys) (t : τ) {task : Task ρ ν}
    (htask : ∀ own copy, task = .loaded own copy → Reads view sys copy) :
    Since view P v (sys.setTask t task) where
  le := h.le
  holds := h.holds
  shown := h.shown
  loaded := by
    intro u own copy hloaded
    rw [System.tasks_setTask] at hloaded
    split at hloaded
    · exact htask own copy hloaded
    · exact h.loaded u own copy hloaded

/-- What holds from a commit on still does, and every copy is still one of its commit. -/
theorem Move.since (hmove : Move next view sys sys') (hkeeps : ∀ s s', next s s' → P s → P s')
    (h : Since view P v sys) : Since view P v sys' := by
  cases hmove with
  | commit t reply state hnext =>
    exact (h.push hkeeps hnext).setTask t fun own copy htask => nomatch htask
  | other state hnext => exact h.push hkeeps hnext
  | load t own copy hview =>
    refine h.setTask t fun own' copy' htask => ?_
    cases htask
    exact ⟨sys.latest, sys.commits_latest, hview⟩
  | swap t own copy hloaded =>
    have hidle : Since view P v (sys.setTask t .idle) :=
      h.setTask t fun own copy htask => nomatch htask
    exact ⟨hidle.le, hidle.holds, h.loaded t own copy hloaded, hidle.loaded⟩
  | drop t => exact h.setTask t fun own copy htask => nomatch htask

theorem Settled.setTask (h : Settled v sys) (t : τ) {task : Task ρ ν}
    (htask : ∀ own copy, task = .loaded own copy → v ≤ copy.version) :
    Settled v (sys.setTask t task) where
  shown := h.shown
  loaded := by
    intro u own copy hloaded
    rw [System.tasks_setTask] at hloaded
    split at hloaded
    · exact htask own copy hloaded
    · exact h.loaded u own copy hloaded

/-- Copies that settled stay settled: what is loaded later is not older. -/
theorem Move.settled (hmove : Move next view sys sys') (hle : v ≤ sys.version)
    (h : Settled v sys) : Settled v sys' := by
  cases hmove with
  | commit t reply state hnext =>
    have hpush : Settled v (sys.push state) := ⟨h.shown, h.loaded⟩
    exact hpush.setTask t fun own copy htask => nomatch htask
  | other state hnext => exact ⟨h.shown, h.loaded⟩
  | load t own copy hview =>
    refine h.setTask t fun own' copy' htask => ?_
    cases htask
    exact hle
  | swap t own copy hloaded =>
    have hidle : Settled v (sys.setTask t .idle) :=
      h.setTask t fun own copy htask => nomatch htask
    exact ⟨h.loaded t own copy hloaded, hidle.loaded⟩
  | drop t => exact h.setTask t fun own copy htask => nomatch htask

end Publish

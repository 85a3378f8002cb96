import Mathlib.Logic.Function.Basic
import Mathlib.Tactic.Common

/-!
# Publishing copies of a committed state

Threads commit changes of a shared state, read copies of it, and put a copy in the one place readers
look.  Reading and putting are two steps, so a copy can be put after a newer one was.  A thread that
commits a change then reads and puts a copy of its own; the change counts as returned from there on.

The steps here are those in which no copy is put over a newer one.

Results:
- `Step.sound` — what every such step keeps;
- `Sound.lasts` — a property that commits keep holds from the first commit it holds of;
- `Sound.returned_lasts` — what a returned change established holds of the committed state the shown
  copy was read from.
-/

namespace Publish

variable {τ σ ρ ν : Type*}

/-- A copy, and the number of the commit it was read from. -/
structure Copy (ν : Type*) where
  version : Nat
  view : ν

/-- Where a thread is.  A change carries its reply and the number of its commit. -/
inductive Task (ρ ν : Type*) where
  | idle
  | committed (reply : ρ) (version : Nat)
  | loaded (own : Option (ρ × Nat)) (copy : Copy ν)

/-- The committed states, the shown copy, the threads, and the changes that returned. -/
structure System (τ σ ρ ν : Type*) where
  earlier : List σ
  latest : σ
  shown : Copy ν
  tasks : τ → Task ρ ν
  returned : List (ρ × Nat)

namespace System

/-- Every committed state, oldest first. -/
def commits (sys : System τ σ ρ ν) : List σ := sys.earlier ++ [sys.latest]

/-- The number of the latest commit. -/
def version (sys : System τ σ ρ ν) : Nat := sys.earlier.length

def push (sys : System τ σ ρ ν) (state : σ) : System τ σ ρ ν :=
  { sys with earlier := sys.commits, latest := state }

/-- What a thread that may read a copy carries along: its own change, or nothing. -/
def owner (sys : System τ σ ρ ν) (t : τ) : Option (Option (ρ × Nat)) :=
  match sys.tasks t with
  | .idle => some none
  | .committed reply version => some (some (reply, version))
  | .loaded _ _ => none

theorem length_commits (sys : System τ σ ρ ν) : sys.commits.length = sys.version + 1 := by
  simp [commits, version]

theorem commits_latest (sys : System τ σ ρ ν) : sys.commits[sys.version]? = some sys.latest := by
  simp [commits, version]

theorem latest_mem_commits (sys : System τ σ ρ ν) : sys.latest ∈ sys.commits :=
  List.mem_append_right _ List.mem_cons_self

theorem version_le_of_some {sys : System τ σ ρ ν} {v : Nat} {s : σ}
    (h : sys.commits[v]? = some s) : v ≤ sys.version := by
  obtain ⟨hlt, -⟩ := List.getElem?_eq_some_iff.1 h
  rw [length_commits] at hlt
  exact Nat.le_of_lt_succ hlt

theorem commits_push (sys : System τ σ ρ ν) (state : σ) :
    (sys.push state).commits = sys.commits ++ [state] := rfl

theorem commits_push_latest (sys : System τ σ ρ ν) (state : σ) :
    (sys.push state).commits[sys.version + 1]? = some state := by
  rw [commits_push, ← length_commits, List.getElem?_concat_length]

theorem commits_push_of_some {sys : System τ σ ρ ν} {v : Nat} {s : σ}
    (h : sys.commits[v]? = some s) (state : σ) : (sys.push state).commits[v]? = some s := by
  obtain ⟨hlt, -⟩ := List.getElem?_eq_some_iff.1 h
  rw [commits_push, List.getElem?_append_left hlt, h]

variable [DecidableEq τ]

def setTask (sys : System τ σ ρ ν) (t : τ) (task : Task ρ ν) : System τ σ ρ ν :=
  { sys with tasks := Function.update sys.tasks t task }

theorem tasks_setTask (sys : System τ σ ρ ν) (t u : τ) (task : Task ρ ν) :
    (sys.setTask t task).tasks u = if u = t then task else sys.tasks u := by
  simp [setTask, Function.update_apply]

end System

section Steps

variable (next : σ → σ → Prop) (view : σ → ν → Prop) (post : ρ → σ → Prop)

/-- One step: a thread commits a change, someone else does, a thread reads a copy of the latest
state, puts the copy it holds over one that is not newer, or gives up. -/
inductive Step [DecidableEq τ] (sys : System τ σ ρ ν) : System τ σ ρ ν → Prop
  | commit (t : τ) (reply : ρ) (state : σ) (hidle : sys.tasks t = .idle)
      (hnext : next sys.latest state) (hpost : post reply state) :
      Step sys ((sys.push state).setTask t (.committed reply (sys.version + 1)))
  | other (state : σ) (hnext : next sys.latest state) : Step sys (sys.push state)
  | load (t : τ) (own : Option (ρ × Nat)) (copy : ν) (howner : sys.owner t = some own)
      (hview : view sys.latest copy) :
      Step sys (sys.setTask t (.loaded own ⟨sys.version, copy⟩))
  | swap (t : τ) (own : Option (ρ × Nat)) (copy : Copy ν) (hloaded : sys.tasks t = .loaded own copy)
      (hforward : sys.shown.version ≤ copy.version) :
      Step sys { sys.setTask t .idle with
        shown := copy
        returned := own.toList ++ sys.returned }
  | drop (t : τ) : Step sys (sys.setTask t .idle)

/-- A copy is one of the committed state whose number it carries. -/
def Reads (sys : System τ σ ρ ν) (copy : Copy ν) : Prop :=
  ∃ s, sys.commits[copy.version]? = some s ∧ view s copy.view

/-- A change is in the commit whose number it carries. -/
def Established (sys : System τ σ ρ ν) (change : ρ × Nat) : Prop :=
  ∃ s, sys.commits[change.2]? = some s ∧ post change.1 s

/-- What every step keeps. -/
structure Sound (sys : System τ σ ρ ν) : Prop where
  chain : ∀ v s s', sys.commits[v]? = some s → sys.commits[v + 1]? = some s' → next s s'
  shown : Reads view sys sys.shown
  committed : ∀ t reply version, sys.tasks t = .committed reply version →
    Established post sys (reply, version)
  loaded : ∀ t own copy, sys.tasks t = .loaded own copy → Reads view sys copy ∧
    ∀ change ∈ own, Established post sys change ∧ change.2 ≤ copy.version
  returned : ∀ change ∈ sys.returned, Established post sys change ∧ change.2 ≤ sys.shown.version

variable {next view post}

theorem Reads.push {sys : System τ σ ρ ν} {copy : Copy ν} (h : Reads view sys copy) (state : σ) :
    Reads view (sys.push state) copy := by
  obtain ⟨s, hs, hview⟩ := h
  exact ⟨s, System.commits_push_of_some hs state, hview⟩

theorem Established.push {sys : System τ σ ρ ν} {change : ρ × Nat}
    (h : Established post sys change) (state : σ) : Established post (sys.push state) change := by
  obtain ⟨s, hs, hpost⟩ := h
  exact ⟨s, System.commits_push_of_some hs state, hpost⟩

theorem Established.version_le {sys : System τ σ ρ ν} {change : ρ × Nat}
    (h : Established post sys change) : change.2 ≤ sys.version := by
  obtain ⟨s, hs, -⟩ := h
  exact System.version_le_of_some hs

theorem Sound.push {sys : System τ σ ρ ν} (h : Sound next view post sys) {state : σ}
    (hnext : next sys.latest state) : Sound next view post (sys.push state) where
  chain := by
    intro v s s' hs hs'
    by_cases hlast : v = sys.version
    · subst hlast
      rw [System.commits_push_of_some sys.commits_latest state] at hs
      rw [System.commits_push_latest] at hs'
      cases hs
      cases hs'
      exact hnext
    · obtain ⟨hlt, -⟩ := List.getElem?_eq_some_iff.1 hs'
      have hlength := sys.length_commits
      rw [System.commits_push, List.length_append, List.length_singleton, hlength] at hlt
      rw [System.commits_push, List.getElem?_append_left (by omega)] at hs hs'
      exact h.chain v s s' hs hs'
  shown := h.shown.push state
  committed := fun t reply version htask => (h.committed t reply version htask).push state
  loaded := fun t own copy htask => ⟨(h.loaded t own copy htask).1.push state,
    fun change hchange => (h.loaded t own copy htask).2 change hchange |>.imp_left (·.push state)⟩
  returned := fun change hchange => (h.returned change hchange).imp_left (·.push state)

/-- A thread moves on to a task that is in order. -/
theorem Sound.setTask [DecidableEq τ] {sys : System τ σ ρ ν} (h : Sound next view post sys) (t : τ)
    {task : Task ρ ν}
    (hcommitted : ∀ reply version, task = .committed reply version →
      Established post sys (reply, version))
    (hloaded : ∀ own copy, task = .loaded own copy → Reads view sys copy ∧
      ∀ change ∈ own, Established post sys change ∧ change.2 ≤ copy.version) :
    Sound next view post (sys.setTask t task) where
  chain := h.chain
  shown := h.shown
  committed := by
    intro u reply version htask
    rw [System.tasks_setTask] at htask
    split at htask
    · exact hcommitted reply version htask
    · exact h.committed u reply version htask
  loaded := by
    intro u own copy htask
    rw [System.tasks_setTask] at htask
    split at htask
    · exact hloaded own copy htask
    · exact h.loaded u own copy htask
  returned := h.returned

/-- What a thread carries into a read is in the commits it reads from. -/
theorem Sound.owner {sys : System τ σ ρ ν} (h : Sound next view post sys) {t : τ}
    {own : Option (ρ × Nat)} (howner : sys.owner t = some own) :
    ∀ change ∈ own, Established post sys change := by
  unfold System.owner at howner
  intro change hchange
  split at howner
  · cases howner
    cases hchange
  · rename_i reply version htask
    cases howner
    cases hchange
    exact h.committed t reply version htask
  · cases howner

/-- Every step keeps the invariant. -/
theorem Step.sound [DecidableEq τ] {sys sys' : System τ σ ρ ν} (hstep : Step next view post sys sys')
    (h : Sound next view post sys) : Sound next view post sys' := by
  cases hstep with
  | commit t reply state hidle hnext hpost =>
    refine (h.push hnext).setTask t ?_ ?_
    · intro reply' version' heq
      cases heq
      exact ⟨state, sys.commits_push_latest state, hpost⟩
    · intro own copy heq
      cases heq
  | other state hnext => exact h.push hnext
  | load t own copy howner hview =>
    refine h.setTask t (fun reply version heq => by cases heq) fun own' copy' heq => ?_
    cases heq
    refine ⟨⟨sys.latest, sys.commits_latest, hview⟩, fun change hchange => ?_⟩
    have hestablished := h.owner howner change hchange
    exact ⟨hestablished, hestablished.version_le⟩
  | swap t own copy hloaded hforward =>
    obtain ⟨hreads, hown⟩ := h.loaded t own copy hloaded
    have hidle : Sound next view post (sys.setTask t .idle) :=
      h.setTask t (fun reply version heq => by cases heq) fun own' copy' heq => by cases heq
    refine ⟨h.chain, hreads, hidle.committed, hidle.loaded, fun change hchange => ?_⟩
    rcases List.mem_append.1 hchange with hchange | hchange
    · exact hown change (Option.mem_toList.1 hchange)
    · exact (h.returned change hchange).imp_right fun hle => Nat.le_trans hle hforward
  | drop t =>
    exact h.setTask t (fun reply version heq => by cases heq) fun own copy heq => by cases heq

/-- A property that commits keep holds of every commit after a step. -/
theorem Step.commits_keep [DecidableEq τ] {sys sys' : System τ σ ρ ν}
    (hstep : Step next view post sys sys') {P : σ → Prop} (hkeeps : ∀ s s', next s s' → P s → P s')
    (h : ∀ s ∈ sys.commits, P s) : ∀ s ∈ sys'.commits, P s := by
  have hpush : ∀ state, next sys.latest state → ∀ s ∈ (sys.push state).commits, P s := by
    intro state hnext s hs
    rw [System.commits_push, List.mem_append, List.mem_singleton] at hs
    rcases hs with hs | rfl
    · exact h s hs
    · exact hkeeps _ _ hnext (h _ sys.latest_mem_commits)
  cases hstep with
  | commit t reply state hidle hnext hpost => exact hpush state hnext
  | other state hnext => exact hpush state hnext
  | load | swap | drop => exact h

/-- A property that later commits keep holds of every commit after one it holds of. -/
theorem Sound.lasts {sys : System τ σ ρ ν} (h : Sound next view post sys) {P : σ → Prop}
    (hkeeps : ∀ s s', next s s' → P s → P s') {v w : Nat} {s s' : σ} (hle : v ≤ w)
    (hs : sys.commits[v]? = some s) (hs' : sys.commits[w]? = some s') (hP : P s) : P s' := by
  obtain ⟨k, rfl⟩ := Nat.exists_eq_add_of_le hle
  clear hle
  induction k generalizing s' with
  | zero =>
    rw [Nat.add_zero, hs] at hs'
    cases hs'
    exact hP
  | succ k ih =>
    obtain ⟨hlt, -⟩ := List.getElem?_eq_some_iff.1 hs'
    obtain ⟨before, hbefore⟩ : ∃ before, sys.commits[v + k]? = some before :=
      ⟨_, List.getElem?_eq_getElem (Nat.lt_of_succ_lt hlt)⟩
    exact hkeeps before s' (h.chain (v + k) before s' hbefore hs') (ih hbefore)

/-- What a returned change established holds of the commit the shown copy was read from. -/
theorem Sound.returned_lasts {sys : System τ σ ρ ν} (h : Sound next view post sys)
    (hkeeps : ∀ reply s s', next s s' → post reply s → post reply s') {change : ρ × Nat}
    (hchange : change ∈ sys.returned) :
    ∃ s, sys.commits[sys.shown.version]? = some s ∧ view s sys.shown.view ∧ post change.1 s := by
  obtain ⟨⟨established, hestablished, hpost⟩, hle⟩ := h.returned change hchange
  obtain ⟨s, hs, hview⟩ := h.shown
  exact ⟨s, hs, hview, h.lasts (hkeeps change.1) hle hestablished hs hpost⟩

end Steps

end Publish

import PartnerPortal.Lib.Result

/-!
# Steps that are committed one by one

A sequence of steps, each of which is committed by itself.  A run can end after any of them, and the next run
begins with the first again, in an environment of its own.

Results:
- `Attempted.complete` — after any interrupted runs, a complete one has taken every step once;
- `Taken.together` — which one run alone would have done as well;
- `Attempted.agrees` — and leaves what one run alone would have left, up to what the environment decides.
-/

universe u v

namespace Stages

variable {ι ε : Type*} {σ : Type u} {φ : Type v}

/-- The steps one after another. -/
def runAll (run : ι → ε → σ → Except φ σ) (env : ε) (steps : List ι) (s : σ) : Except φ σ :=
  steps.foldlM (fun s i => run i env s) s

/-- Each step taken once, in an environment of its own. -/
inductive Taken (run : ι → ε → σ → Except φ σ) : List ι → σ → σ → Prop
  | nil (s : σ) : Taken run [] s s
  | cons {i : ι} {rest : List ι} {s m t : σ} (env : ε) (h : run i env s = .ok m)
      (hrest : Taken run rest m t) : Taken run (i :: rest) s t

/-- Runs one after another, each with some of the first steps. -/
inductive Attempted (run : ι → ε → σ → Except φ σ) (steps : List ι) : σ → σ → Prop
  | none (s : σ) : Attempted run steps s s
  | again {s m t : σ} (env : ε) (n : Nat) (h : Attempted run steps s m)
      (hrun : runAll run env (steps.take n) m = .ok t) : Attempted run steps s t

/-- A step that was taken has nothing left to do, whatever other steps are taken. -/
structure Resumable (run : ι → ε → σ → Except φ σ) (goal : ι → σ → Prop) : Prop where
  reaches : ∀ i env s t, run i env s = .ok t → goal i t
  rests : ∀ i env s, goal i s → run i env s = .ok s
  keeps : ∀ i env s t, run i env s = .ok t → ∀ j, goal j s → goal j t

/-- What the environment decides is erased: a run cannot be told from one in the blank environment. -/
structure Blind (run : ι → ε → σ → Except φ σ) (erase : σ → σ) (blank : ε) : Prop where
  run : ∀ i env s, (run i env s).map erase = run i blank (erase s)

section Runs

variable {run : ι → ε → σ → Except φ σ} {env : ε} {i : ι} {steps rest front back : List ι} {s m t : σ}

theorem runAll_cons_iff :
    runAll run env (i :: rest) s = .ok t ↔ ∃ m, run i env s = .ok m ∧ runAll run env rest m = .ok t := by
  rw [runAll, List.foldlM_cons]
  exact Result.bind_ok_iff

theorem runAll_append_iff : runAll run env (front ++ back) s = .ok t ↔
    ∃ m, runAll run env front s = .ok m ∧ runAll run env back m = .ok t := by
  rw [runAll, List.foldlM_append]
  exact Result.bind_ok_iff

/-- What a run reads of the state once can be read before each step, when only the last one changes it. -/
theorem runAll_fixed {ν : Type*} {read : σ → ν} {run : ν → ι → ε → σ → Except φ σ} {value : ν}
    (hread : read s = value)
    (hkeep : ∀ i ∈ steps.dropLast, ∀ s t, run (read s) i env s = .ok t → read t = read s) :
    runAll (run value) env steps s = runAll (fun i env s => run (read s) i env s) env steps s := by
  induction steps generalizing s with
  | nil => rfl
  | cons i rest ih =>
    rw [runAll, runAll, List.foldlM_cons, List.foldlM_cons, hread]
    cases rest with
    | nil => rfl
    | cons j rest =>
      cases hstep : run value i env s with
      | error e => rfl
      | ok m =>
        have hsame := hkeep i List.mem_cons_self s m (hread.symm ▸ hstep)
        exact ih (hsame.trans hread) fun k hk => hkeep k (List.mem_cons_of_mem i hk)

theorem Taken.of_runAll (h : runAll run env steps s = .ok t) : Taken run steps s t := by
  induction steps generalizing s with
  | nil =>
    cases h
    exact .nil _
  | cons i rest ih =>
    obtain ⟨m, hstep, hrest⟩ := runAll_cons_iff.1 h
    exact .cons env hstep (ih hrest)

theorem Taken.append (h : Taken run front s m) (h' : Taken run back m t) :
    Taken run (front ++ back) s t := by
  induction h with
  | nil => exact h'
  | cons env hstep _ ih => exact .cons env hstep (ih h')

theorem Taken.split (h : Taken run (front ++ back) s t) :
    ∃ m, Taken run front s m ∧ Taken run back m t := by
  induction front generalizing s with
  | nil => exact ⟨s, .nil s, h⟩
  | cons i front ih =>
    cases h with
    | cons env hstep hrest =>
      obtain ⟨m, hfront, hback⟩ := ih hrest
      exact ⟨m, .cons env hstep hfront, hback⟩

theorem taken_singleton_iff : Taken run [i] s t ↔ ∃ env, run i env s = .ok t := by
  constructor
  · intro h
    cases h with
    | cons env hstep hrest =>
      cases hrest
      exact ⟨env, hstep⟩
  · rintro ⟨env, hstep⟩
    exact .cons env hstep (.nil t)

/-- What each step relates, the sequence does. -/
theorem Taken.relates {R : σ → σ → Prop} (hrefl : ∀ s, R s s) (htrans : ∀ s m t, R s m → R m t → R s t)
    (hstep : ∀ i ∈ steps, ∀ env s t, run i env s = .ok t → R s t) (h : Taken run steps s t) : R s t := by
  induction h with
  | nil s => exact hrefl s
  | cons env hrun _ ih =>
    refine htrans _ _ _ (hstep _ List.mem_cons_self env _ _ hrun) ?_
    exact ih fun i hi => hstep i (List.mem_cons_of_mem _ hi)

theorem runAll_congr {ε' : Type*} {run' : ι → ε' → σ → Except φ σ} {env' : ε'}
    (h : ∀ i ∈ steps, ∀ s, run i env s = run' i env' s) :
    runAll run env steps s = runAll run' env' steps s := by
  induction steps generalizing s with
  | nil => rfl
  | cons i rest ih =>
    obtain ⟨hi, hrest⟩ := List.forall_mem_cons.1 h
    rw [runAll, runAll, List.foldlM_cons, List.foldlM_cons, hi s]
    cases run' i env' s with
    | error e => rfl
    | ok m => exact ih hrest

/-- Steps that were taken each in its own environment could have been taken in one, if one has what each of
them reads. -/
theorem Taken.together [DecidableEq ι] (env₀ : ε)
    (hmix : ∀ envs : ι → ε, ∃ env, ∀ i s, run i env s = run i (envs i) s) (hnodup : steps.Nodup)
    (h : Taken run steps s t) : ∃ env, runAll run env steps s = .ok t := by
  have hown : ∃ envs : ι → ε, runAll (fun i envs s => run i (envs i) s) envs steps s = .ok t := by
    induction h with
    | nil s => exact ⟨fun _ => env₀, rfl⟩
    | @cons i rest s m t env hstep _ ih =>
      obtain ⟨hfresh, hrest⟩ := List.nodup_cons.1 hnodup
      obtain ⟨envs, hrun⟩ := ih hrest
      refine ⟨Function.update envs i env, runAll_cons_iff.2 ⟨m, ?_, ?_⟩⟩
      · rw [Function.update_self]
        exact hstep
      · refine (runAll_congr fun j hj s => ?_).trans hrun
        rw [Function.update_of_ne (ne_of_mem_of_not_mem hj hfresh)]
  obtain ⟨envs, hrun⟩ := hown
  obtain ⟨env, hmixed⟩ := hmix envs
  exact ⟨env, (runAll_congr fun i _ s => hmixed i s).trans hrun⟩

end Runs

/-! ## Interrupted runs -/

section Resumable

variable {run : ι → ε → σ → Except φ σ} {goal : ι → σ → Prop} {env : ε} {steps front back : List ι}
  {s m t : σ}

theorem Taken.goals (h : Resumable run goal) (htaken : Taken run steps s t) :
    (∀ i ∈ steps, goal i t) ∧ ∀ j, goal j s → goal j t := by
  induction htaken with
  | nil s => exact ⟨fun _ hi => (by cases hi), fun _ hj => hj⟩
  | cons env hstep _ ih =>
    obtain ⟨hgoals, hkept⟩ := ih
    refine ⟨List.forall_mem_cons.2 ⟨hkept _ (h.reaches _ env _ _ hstep), hgoals⟩, fun j hj => ?_⟩
    exact hkept j (h.keeps _ env _ _ hstep j hj)

/-- Steps whose goals are reached do nothing. -/
theorem runAll_rests (h : Resumable run goal) (hgoals : ∀ i ∈ steps, goal i s) :
    runAll run env steps s = .ok s := by
  induction steps with
  | nil => rfl
  | cons i rest ih =>
    obtain ⟨hi, hrest⟩ := List.forall_mem_cons.1 hgoals
    exact runAll_cons_iff.2 ⟨s, h.rests i env s hi, ih hrest⟩

/-- After its first steps, a sequence goes on with the others. -/
theorem runAll_resumes (h : Resumable run goal) (htaken : Taken run front s m) :
    runAll run env (front ++ back) m = runAll run env back m := by
  rw [runAll, List.foldlM_append]
  show (runAll run env front m >>= runAll run env back) = _
  rw [runAll_rests h (htaken.goals h).1]
  rfl

/-- After any interrupted runs some of the first steps have been taken, each once. -/
theorem Attempted.taken (h : Resumable run goal) (hattempted : Attempted run steps s t) :
    ∃ front back, steps = front ++ back ∧ Taken run front s t := by
  induction hattempted with
  | none => exact ⟨[], steps, rfl, .nil s⟩
  | @again m t env n _ hrun ih =>
    obtain ⟨front, back, rfl, htaken⟩ := ih
    rcases Nat.le_total n front.length with hle | hle
    · -- the run did not get further than one before it
      rw [List.take_append_of_le_length hle, runAll_rests h fun i hi =>
        (htaken.goals h).1 i (List.mem_of_mem_take hi)] at hrun
      cases hrun
      exact ⟨front, back, rfl, htaken⟩
    · rw [List.take_append, List.take_of_length_le hle, runAll_resumes h htaken] at hrun
      refine ⟨front ++ back.take (n - front.length), back.drop (n - front.length), ?_,
        htaken.append (.of_runAll hrun)⟩
      rw [List.append_assoc, List.take_append_drop]

/-- After any interrupted runs, a complete one has taken every step once. -/
theorem Attempted.complete (h : Resumable run goal) (hattempted : Attempted run steps s m)
    (hrun : runAll run env steps m = .ok t) : Taken run steps s t := by
  obtain ⟨front, back, rfl, htaken⟩ := hattempted.taken h
  rw [runAll_resumes h htaken] at hrun
  exact htaken.append (.of_runAll hrun)

/-! ## What the environment decides -/

variable {erase : σ → σ} {blank env' : ε}

theorem Blind.runAll (h : Blind run erase blank) (env : ε) :
    (Stages.runAll run env steps s).map erase = Stages.runAll run blank steps (erase s) := by
  induction steps generalizing s with
  | nil => rfl
  | cons i rest ih =>
    rw [Stages.runAll, Stages.runAll, List.foldlM_cons, List.foldlM_cons, ← h.run i env s]
    cases run i env s with
    | error e => rfl
    | ok m => exact ih

theorem Taken.erased (h : Blind run erase blank) (htaken : Taken run steps s t) :
    runAll run blank steps (erase s) = .ok (erase t) := by
  induction htaken with
  | nil s => rfl
  | cons env hstep _ ih =>
    refine runAll_cons_iff.2 ⟨_, ?_, ih⟩
    rw [← h.run, hstep]
    rfl

/-- After any interrupted runs a complete one succeeds if it would have at the start, and leaves the same up
to what the environment decides. -/
theorem Attempted.agrees (h : Resumable run goal) (hblind : Blind run erase blank)
    (hattempted : Attempted run steps s m) (hrun : runAll run env steps s = .ok t) :
    ∃ t', runAll run env' steps m = .ok t' ∧ erase t' = erase t := by
  obtain ⟨front, back, rfl, htaken⟩ := hattempted.taken h
  -- in the blank environment both runs go on from one state
  have hwhole : runAll run blank (front ++ back) (erase s) = .ok (erase t) := by
    rw [← hblind.runAll env, hrun]
    rfl
  obtain ⟨m', hfront, hback⟩ := runAll_append_iff.1 hwhole
  have hsame : m' = erase m := Except.ok.inj (hfront.symm.trans (htaken.erased hblind))
  rw [hsame, ← hblind.runAll env'] at hback
  rw [runAll_resumes h htaken]
  cases hrest : runAll run env' back m with
  | error e =>
    rw [hrest] at hback
    cases hback
  | ok t' =>
    rw [hrest] at hback
    exact ⟨t', rfl, Except.ok.inj hback⟩

end Resumable

end Stages

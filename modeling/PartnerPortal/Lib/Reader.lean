import Mathlib.Tactic.Common

/-!
# Readers of what arrives in pieces

A reader takes one unit after the other off the front of what it was given, and waits where what is
there does not tell yet.  What it did not take stays for the next piece.

Results:
- `Reader.read_append` — what was left of a piece is read as the start of the next one;
- `Reader.Undoes.read` — of a reader that undoes a writer, an input is what was written of its units
  and what is left;
- `Reader.read_write` — units are read as they were written, whatever follows them;
- `Reader.read_start` — of a start of what was written, the units that are there whole.
-/

/-- Takes the first unit, where there is one. -/
structure Reader (α β : Type*) where
  take : List α → Option (β × List α)
  length_lt : ∀ {xs rest : List α} {unit : β}, take xs = some (unit, rest) →
    rest.length < xs.length
  /-- what arrives later does not change a unit -/
  append : ∀ {xs rest : List α} {unit : β} (more : List α), take xs = some (unit, rest) →
    take (xs ++ more) = some (unit, rest ++ more)

namespace Reader

variable {α β : Type*} (r : Reader α β)

/-- Units are taken while there are any. -/
def readFrom : Nat → List α → List β × List α
  | 0, xs => ([], xs)
  | fuel + 1, xs =>
    match r.take xs with
    | none => ([], xs)
    | some (unit, rest) => (unit :: (readFrom fuel rest).1, (readFrom fuel rest).2)

/-- The units of some input, and what is left of it. -/
def read (xs : List α) : List β × List α := r.readFrom xs.length xs

variable {r} {xs rest : List α} {unit : β}

theorem readFrom_none (h : r.take xs = none) (fuel : Nat) : r.readFrom fuel xs = ([], xs) := by
  cases fuel with
  | zero => rfl
  | succ fuel => rw [readFrom, h]

/-- There are no more turns than there is input. -/
theorem readFrom_eq {turns more : Nat} {xs : List α} (hturns : xs.length ≤ turns)
    (hmore : turns ≤ more) : r.readFrom more xs = r.readFrom turns xs := by
  induction turns generalizing more xs with
  | zero =>
    have hnil : xs = [] := List.length_eq_zero_iff.1 (Nat.le_zero.1 hturns)
    subst hnil
    refine readFrom_none ?_ more
    cases htake : r.take [] with
    | none => rfl
    | some taken => exact absurd (r.length_lt htake) (Nat.not_lt_zero _)
  | succ turns ih =>
    obtain ⟨more, rfl⟩ := Nat.exists_eq_add_of_le' (Nat.one_le_of_lt hmore)
    rw [readFrom, readFrom]
    cases htake : r.take xs with
    | none => rfl
    | some taken =>
      obtain ⟨unit, rest⟩ := taken
      have hrest : rest.length ≤ turns :=
        Nat.le_of_lt_succ (Nat.lt_of_lt_of_le (r.length_lt htake) hturns)
      simp only [ih hrest (Nat.le_of_succ_le_succ hmore)]

theorem read_none (h : r.take xs = none) : r.read xs = ([], xs) := readFrom_none h _

theorem read_some (h : r.take xs = some (unit, rest)) :
    r.read xs = (unit :: (r.read rest).1, (r.read rest).2) := by
  have hlt := r.length_lt h
  obtain ⟨turns, hturns⟩ := Nat.exists_eq_add_of_le' (Nat.one_le_of_lt hlt)
  have hrest : rest.length ≤ turns := Nat.le_of_lt_succ (Nat.lt_of_lt_of_eq hlt hturns)
  rw [read, hturns, readFrom, h]
  simp only [read, readFrom_eq (Nat.le_refl _) hrest]

/-- What was left of a piece is read as the start of the next one. -/
theorem read_append (xs more : List α) :
    r.read (xs ++ more) = ((r.read xs).1 ++ (r.read ((r.read xs).2 ++ more)).1,
      (r.read ((r.read xs).2 ++ more)).2) := by
  induction h : xs.length using Nat.strongRecOn generalizing xs with
  | ind n ih =>
    cases htake : r.take xs with
    | none => rw [read_none htake, List.nil_append]
    | some taken =>
      obtain ⟨unit, rest⟩ := taken
      rw [read_some htake, read_some (r.append more htake), ih _ (h ▸ r.length_lt htake) rest rfl,
        List.cons_append]

/-! ## Readers of what a writer wrote -/

/-- A unit is what was written of it, and is taken as soon as that is there. -/
def Undoes (r : Reader α β) (write : β → List α) : Prop :=
  ∀ {xs rest : List α} {unit : β}, r.take xs = some (unit, rest) →
    xs = write unit ++ rest ∧ ∀ more, r.take (write unit ++ more) = some (unit, more)

variable {write : β → List α}

/-- Units that are taken wherever they are written are read one after the other. -/
theorem read_write {units : List β}
    (h : ∀ unit ∈ units, ∀ more, r.take (write unit ++ more) = some (unit, more))
    (more : List α) :
    r.read (units.flatMap write ++ more) = (units ++ (r.read more).1, (r.read more).2) := by
  induction units with
  | nil => rfl
  | cons unit units ih =>
    rw [List.flatMap_cons, List.append_assoc, read_some (h unit List.mem_cons_self _),
      ih fun other hother => h other (List.mem_cons_of_mem unit hother), List.cons_append]

/-- An input is what was written of its units and what is left, and they are read again. -/
theorem Undoes.read (h : r.Undoes write) (xs : List α) :
    xs = (r.read xs).1.flatMap write ++ (r.read xs).2 ∧
      ∀ unit ∈ (r.read xs).1, ∀ more, r.take (write unit ++ more) = some (unit, more) := by
  induction hlength : xs.length using Nat.strongRecOn generalizing xs with
  | ind n ih =>
    cases htake : r.take xs with
    | none =>
      rw [read_none htake]
      exact ⟨rfl, fun unit hunit => absurd hunit List.not_mem_nil⟩
    | some taken =>
      obtain ⟨unit, rest⟩ := taken
      obtain ⟨hxs, hunit⟩ := h htake
      obtain ⟨hrest, hunits⟩ := ih rest.length (hlength ▸ r.length_lt htake) rest rfl
      rw [read_some htake]
      refine ⟨by rw [List.flatMap_cons, List.append_assoc, ← hrest, ← hxs], fun other hother => ?_⟩
      rcases List.mem_cons.1 hother with rfl | hother
      · exact hunit
      · exact hunits other hother

/-- A start of what was written of a unit is not enough to take anything. -/
theorem take_start {start : List α} (hunit : r.take (write unit) = some (unit, []))
    (hstart : start <+: write unit) (hne : start ≠ write unit) : r.take start = none := by
  obtain ⟨more, hmore⟩ := hstart
  cases htake : r.take start with
  | none => rfl
  | some taken =>
    obtain ⟨other, rest⟩ := taken
    have hwhole := r.append more htake
    rw [hmore, hunit, Option.some.injEq, Prod.mk.injEq, List.nil_eq, List.append_eq_nil_iff]
      at hwhole
    rw [hwhole.2.2, List.append_nil] at hmore
    exact absurd hmore hne

/-- Of a start of what was written, the units that are there whole are read, and the start of the
next one is left. -/
theorem read_start {units : List β} {start : List α}
    (h : ∀ unit ∈ units, ∀ more, r.take (write unit ++ more) = some (unit, more))
    (hstart : start <+: units.flatMap write) :
    ∃ whole rest left, units = whole ++ rest ∧ start = whole.flatMap write ++ left ∧
      r.read start = (whole, left) ∧ (rest = [] → left = []) ∧
      ∀ next ∈ rest.head?, left <+: write next ∧ left ≠ write next := by
  induction units generalizing start with
  | nil =>
    obtain rfl := List.prefix_nil.1 hstart
    exact ⟨[], [], [], rfl, rfl, rfl, fun _ => rfl, fun next hnext => nomatch hnext⟩
  | cons unit units ih =>
    have hunit := h unit List.mem_cons_self
    rw [List.flatMap_cons] at hstart
    by_cases hwhole : write unit <+: start
    · obtain ⟨later, rfl⟩ := hwhole
      obtain ⟨whole, rest, left, rfl, rfl, hread, hnil, hnext⟩ :=
        ih (fun other hother => h other (List.mem_cons_of_mem unit hother))
          ((List.prefix_append_right_inj (write unit)).1 hstart)
      refine ⟨unit :: whole, rest, left, rfl, ?_, ?_, hnil, hnext⟩
      · rw [List.flatMap_cons, List.append_assoc]
      · rw [read_some (hunit _), hread]
    · have hbegun : start <+: write unit :=
        (List.prefix_or_prefix_of_prefix hstart (List.prefix_append _ _)).resolve_right hwhole
      have hne : start ≠ write unit := fun heq => hwhole (heq ▸ List.prefix_rfl)
      have htake : r.take (write unit) = some (unit, []) := by
        have := hunit []
        rwa [List.append_nil] at this
      refine ⟨[], unit :: units, start, rfl, rfl, read_none (take_start htake hbegun hne), ?_, ?_⟩
      · exact fun hnil => absurd hnil (List.cons_ne_nil _ _)
      · intro next hnext
        obtain rfl := Option.some.inj hnext
        exact ⟨hbegun, hne⟩

end Reader

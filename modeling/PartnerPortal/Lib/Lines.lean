import Mathlib.Tactic.Common

/-!
# Lines

Bytes split into lines, each ended by CR, LF or CRLF, and what follows the last of them.
-/

namespace Lines

def lf : UInt8 := 10

def cr : UInt8 := 13

/-- The lines that ended, and what was begun after them. -/
structure Split where
  lines : List (List UInt8)
  rest : List UInt8

namespace Split

/-- A line that ended goes before the others. -/
def after (line : List UInt8) (s : Split) : Split where
  lines := line :: s.lines
  rest := s.rest

/-- Bytes that the first line begins with. -/
def behind (begun : List UInt8) (s : Split) : Split :=
  match s.lines with
  | [] => { lines := [], rest := begun ++ s.rest }
  | line :: lines => { lines := (begun ++ line) :: lines, rest := s.rest }

@[simp] theorem behind_nil (s : Split) : s.behind [] = s := by
  obtain ⟨lines, rest⟩ := s
  cases lines <;> rfl

theorem behind_behind (begun more : List UInt8) (s : Split) :
    (s.behind more).behind begun = s.behind (begun ++ more) := by
  obtain ⟨lines, rest⟩ := s
  cases lines <;> simp [behind]

@[simp] theorem behind_after (begun line : List UInt8) (s : Split) :
    (s.after line).behind begun = s.after (begun ++ line) := rfl

end Split

/-- The second half of a CRLF is part of the terminator. -/
def dropLf : List UInt8 → List UInt8
  | [] => []
  | b :: rest => if b = lf then rest else b :: rest

theorem dropLf_length_le (bytes : List UInt8) : (dropLf bytes).length ≤ bytes.length := by
  cases bytes with
  | nil => exact Nat.le_refl _
  | cons b rest =>
    rw [dropLf]
    split
    · exact Nat.le_succ _
    · exact Nat.le_refl _

/-- The lines of some bytes. -/
def split : List UInt8 → Split
  | [] => { lines := [], rest := [] }
  | b :: rest =>
    if b = cr then (split (dropLf rest)).after []
    else if b = lf then (split rest).after []
    else (split rest).behind [b]
termination_by bytes => bytes.length
decreasing_by
  · exact Nat.lt_succ_of_le (dropLf_length_le rest)
  · exact Nat.lt_succ_self _
  · exact Nat.lt_succ_self _

end Lines

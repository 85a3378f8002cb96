import PartnerPortal.Lib.Lines

/-!
# Lines ended by CRLF, and the dot that ends them

A text of lines is sent to a receiver that reads it up to a line with a lone dot.  A line that
begins with a dot has it doubled on the way, and the receiver takes one dot away.

Results:
- `lines_joined` — the lines of a text are read back;
- `paired_joined` — a text of lines holds no CR and no LF by itself;
- `receive_dotted` — what is received is what was sent, and nothing of what follows.
-/

namespace DotLines

open Lines (cr lf)

def dot : UInt8 := 46

/-- A line without a line break in it. -/
structure Plain (line : List UInt8) : Prop where
  no_cr : cr ∉ line
  no_lf : lf ∉ line

def ended (line : List UInt8) : List UInt8 := line ++ [cr, lf]

/-- A text of lines. -/
def joined (lines : List (List UInt8)) : List UInt8 := lines.flatMap ended

/-- What CRLF ends first, and what follows it. -/
def nextLine : List UInt8 → Option (List UInt8 × List UInt8)
  | [] => none
  | b :: rest =>
    if b = cr ∧ rest.head? = some lf then some ([], rest.drop 1)
    else (nextLine rest).map fun found => (b :: found.1, found.2)

theorem nextLine_length {bytes line rest : List UInt8} (h : nextLine bytes = some (line, rest)) :
    rest.length < bytes.length := by
  induction bytes generalizing line with
  | nil => cases h
  | cons b bytes ih =>
    rw [nextLine] at h
    split at h
    · cases h
      exact Nat.lt_succ_of_le (by rw [List.length_drop]; exact Nat.sub_le _ _)
    · obtain ⟨⟨line, found⟩, hfound, heq⟩ := Option.map_eq_some_iff.1 h
      cases heq
      exact Nat.lt_succ_of_lt (ih hfound)

/-- The lines that CRLF ends, and what is left. -/
def lines (bytes : List UInt8) : List (List UInt8) × List UInt8 :=
  match _h : nextLine bytes with
  | none => ([], bytes)
  | some (line, rest) => (line :: (lines rest).1, (lines rest).2)
termination_by bytes.length
decreasing_by all_goals exact nextLine_length _h

/-- A dot at the start of a line is doubled. -/
def dotted (line : List UInt8) : List UInt8 :=
  if line.head? = some dot then dot :: line else line

/-- A dot at the start of a line is taken away. -/
def undotted (line : List UInt8) : List UInt8 :=
  if line.head? = some dot then line.drop 1 else line

/-- A text up to the line with a lone dot, and what follows it. -/
def receive (bytes : List UInt8) : Option (List UInt8 × List UInt8) :=
  match _h : nextLine bytes with
  | none => none
  | some (line, rest) =>
    if line = [dot] then some ([], rest)
    else (receive rest).map fun read => (ended (undotted line) ++ read.1, read.2)
termination_by bytes.length
decreasing_by exact nextLine_length _h

/-- Every LF stands after a CR, and every CR before an LF. -/
def pairedFrom : Bool → List UInt8 → Bool
  | afterCr, [] => !afterCr
  | afterCr, b :: rest => decide (b = lf) == afterCr && pairedFrom (b = cr) rest

def Paired (bytes : List UInt8) : Prop := pairedFrom false bytes = true

@[simp] theorem joined_nil : joined [] = [] := rfl

@[simp] theorem joined_cons (line : List UInt8) (text : List (List UInt8)) :
    joined (line :: text) = ended line ++ joined text := List.flatMap_cons

theorem joined_append (front back : List (List UInt8)) :
    joined (front ++ back) = joined front ++ joined back := List.flatMap_append

/-! ## Reading lines -/

theorem nextLine_ended {line : List UInt8} (h : Plain line) (rest : List UInt8) :
    nextLine (ended line ++ rest) = some (line, rest) := by
  induction line with
  | nil => rfl
  | cons b line ih =>
    have hb : b ≠ cr := fun heq => h.no_cr (heq ▸ List.mem_cons_self)
    have hrest : Plain line :=
      ⟨fun hmem => h.no_cr (List.mem_cons_of_mem b hmem), fun hmem =>
        h.no_lf (List.mem_cons_of_mem b hmem)⟩
    show nextLine (b :: (ended line ++ rest)) = _
    rw [nextLine, if_neg fun hends => hb hends.1, ih hrest]
    rfl

theorem lines_ended {line : List UInt8} (h : Plain line) (rest : List UInt8) :
    lines (ended line ++ rest) = (line :: (lines rest).1, (lines rest).2) := by
  rw [lines]
  split
  · rename_i hnone
    rw [nextLine_ended h] at hnone
    cases hnone
  · rename_i hsome
    rw [nextLine_ended h] at hsome
    cases hsome
    rfl

/-- The lines of a text are read back. -/
theorem lines_joined {text : List (List UInt8)} (h : ∀ line ∈ text, Plain line) :
    lines (joined text) = (text, []) := by
  induction text with
  | nil => rw [joined_nil, lines]; rfl
  | cons line text ih =>
    rw [joined_cons, lines_ended (h line List.mem_cons_self),
      ih fun other hmem => h other (List.mem_cons_of_mem line hmem)]

theorem pairedFrom_ended {line : List UInt8} (h : Plain line) (rest : List UInt8) :
    pairedFrom false (ended line ++ rest) = pairedFrom false rest := by
  induction line with
  | nil => rfl
  | cons b line ih =>
    have hcr : b ≠ cr := fun heq => h.no_cr (heq ▸ List.mem_cons_self)
    have hlf : b ≠ lf := fun heq => h.no_lf (heq ▸ List.mem_cons_self)
    show pairedFrom false (b :: (ended line ++ rest)) = _
    rw [pairedFrom, decide_eq_false hlf, decide_eq_false hcr, ih
      ⟨fun hmem => h.no_cr (List.mem_cons_of_mem b hmem), fun hmem =>
        h.no_lf (List.mem_cons_of_mem b hmem)⟩]
    rfl

/-- A text of lines holds no CR and no LF by itself. -/
theorem paired_joined {text : List (List UInt8)} (h : ∀ line ∈ text, Plain line) :
    Paired (joined text) := by
  unfold Paired
  induction text with
  | nil => rfl
  | cons line text ih =>
    rw [joined_cons, pairedFrom_ended (h line List.mem_cons_self)]
    exact ih fun other hmem => h other (List.mem_cons_of_mem line hmem)

/-! ## Dots -/

theorem plain_dot : Plain [dot] := ⟨by decide, by decide⟩

theorem plain_dotted {line : List UInt8} (h : Plain line) : Plain (dotted line) := by
  unfold dotted
  split
  · exact ⟨List.not_mem_cons_of_ne_of_not_mem (by decide) h.no_cr,
      List.not_mem_cons_of_ne_of_not_mem (by decide) h.no_lf⟩
  · exact h

theorem undotted_dotted (line : List UInt8) : undotted (dotted line) = line := by
  unfold undotted dotted
  split
  · rfl
  · rfl

/-- A line is never sent as a lone dot. -/
theorem dotted_ne_dot (line : List UInt8) : dotted line ≠ [dot] := by
  unfold dotted
  split
  · rename_i hfirst
    intro heq
    rw [(List.cons.inj heq).2] at hfirst
    cases hfirst
  · rename_i hfirst
    intro heq
    exact hfirst (by rw [heq]; rfl)

theorem receive_ended {line : List UInt8} (h : Plain line) (rest : List UInt8) :
    receive (ended line ++ rest) = if line = [dot] then some ([], rest)
      else (receive rest).map fun read => (ended (undotted line) ++ read.1, read.2) := by
  rw [receive]
  split
  · rename_i hnone
    rw [nextLine_ended h] at hnone
    cases hnone
  · rename_i hsome
    rw [nextLine_ended h] at hsome
    cases hsome
    rfl

/-- What is received is what was sent, and nothing of what follows. -/
theorem receive_dotted {text : List (List UInt8)} (h : ∀ line ∈ text, Plain line)
    (after : List UInt8) :
    receive (joined (text.map dotted) ++ (ended [dot] ++ after)) = some (joined text, after) := by
  induction text with
  | nil =>
    show receive (ended [dot] ++ after) = some ([], after)
    rw [receive_ended plain_dot, if_pos rfl]
  | cons line text ih =>
    have hline := plain_dotted (h line List.mem_cons_self)
    have hsent : joined ((line :: text).map dotted) ++ (ended [dot] ++ after) =
        ended (dotted line) ++ (joined (text.map dotted) ++ (ended [dot] ++ after)) := by
      rw [List.map_cons, joined_cons, List.append_assoc]
    rw [hsent, receive_ended hline, if_neg (dotted_ne_dot line),
      ih fun other hmem => h other (List.mem_cons_of_mem line hmem), undotted_dotted]
    rfl

end DotLines

import Mathlib.Algebra.Order.Ring.Nat
import Mathlib.Data.List.DropRight

/-!
# Trimming, splitting and formatting

White space as Unicode has it, texts without it at their ends, the parts between separators, and texts
that quote others.
-/

namespace Text

/-- A character with the Unicode property `White_Space`. -/
def isWhitespace (c : Char) : Bool :=
  let n := c.toNat
  (9 ≤ n && n ≤ 13) || n = 32 || n = 133 || n = 160 || n = 5760 || (8192 ≤ n && n ≤ 8202) ||
    n = 8232 || n = 8233 || n = 8239 || n = 8287 || n = 12288

/-- `str::trim` -/
def trim (text : String) : String :=
  String.ofList ((text.toList.dropWhile isWhitespace).rdropWhile isWhitespace)

/-- Where no character is to be trimmed, trimming changes nothing. -/
theorem strip_eq_self {p : Char → Bool} {text : List Char} (h : ∀ c ∈ text, p c = false) :
    (text.dropWhile p).rdropWhile p = text := by
  have hstart : text.dropWhile p = text := by
    cases text with
    | nil => rfl
    | cons c rest =>
      rw [List.dropWhile_cons_of_neg]
      rw [h c List.mem_cons_self]
      exact Bool.false_ne_true
  rw [hstart, List.rdropWhile_eq_self_iff]
  intro hne
  rw [h _ (List.getLast_mem hne)]
  exact Bool.false_ne_true

theorem trim_eq_self {text : String} (h : ∀ c ∈ text.toList, isWhitespace c = false) :
    trim text = text := by
  rw [trim, strip_eq_self h, String.ofList_toList]

/-- The bytes of a text are those of its characters. -/
theorem utf8ByteSize_ofList (text : List Char) :
    (String.ofList text).utf8ByteSize = (text.map Char.utf8Size).sum := by
  induction text with
  | nil => rfl
  | cons c text ih =>
    have hcons : String.ofList (c :: text) = String.ofList [c] ++ String.ofList text := by
      rw [← String.ofList_append, List.singleton_append]
    rw [hcons, String.utf8ByteSize_append, ih, List.map_cons, List.sum_cons]
    simp

/-! ## Splitting -/

/-- The parts of a text hold nothing else. -/
theorem mem_of_mem_splitOn {separator c : Char} {text token : List Char}
    (htoken : token ∈ text.splitOn separator) (hc : c ∈ token) : c ∈ text := by
  induction text generalizing token with
  | nil =>
    rw [List.splitOn_nil, List.mem_singleton] at htoken
    exact htoken ▸ hc
  | cons d rest ih =>
    rw [List.splitOn_cons_eq_if_modifyHead] at htoken
    split at htoken
    · rcases List.mem_cons.1 htoken with rfl | htoken
      · cases hc
      · exact List.mem_cons_of_mem d (ih htoken hc)
    · cases hsplit : rest.splitOn separator with
      | nil => exact absurd hsplit (List.splitOn_ne_nil separator rest)
      | cons first others =>
        rw [hsplit] at htoken ih
        rcases List.mem_cons.1 htoken with rfl | htoken
        · rcases List.mem_cons.1 hc with rfl | hc
          · exact List.mem_cons_self
          · exact List.mem_cons_of_mem d (ih List.mem_cons_self hc)
        · exact List.mem_cons_of_mem d (ih (List.mem_cons_of_mem first htoken) hc)

/-- There is one part more than there are separators. -/
theorem length_splitOn (separator : Char) (text : List Char) :
    (text.splitOn separator).length = text.count separator + 1 := by
  induction text with
  | nil => rw [List.splitOn_nil]; rfl
  | cons c text ih =>
    rw [List.splitOn_cons_eq_if_modifyHead, List.count_cons]
    split
    · rw [List.length_cons, ih]
    · rw [List.length_modifyHead, ih, Nat.add_zero]

/-! ## Formatting -/

/-- What stands in a formatted text: a text as it is, or as `{:?}` writes it. -/
inductive Piece where
  | plain (text : String)
  | quoted (text : String)
deriving Repr, DecidableEq

instance : Coe String Piece := ⟨.plain⟩

/-- A text of `format!`. -/
abbrev Formatted := List Piece

instance : Coe String Formatted := ⟨fun text => [.plain text]⟩

/-- The text, where a text is quoted so. -/
def Formatted.text (quoted : String → String) (message : Formatted) : String :=
  message.foldr (fun piece rest =>
    match piece with
    | .plain text => text ++ rest
    | .quoted text => quoted text ++ rest) ""

end Text

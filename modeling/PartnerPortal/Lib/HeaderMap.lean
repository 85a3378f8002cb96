import Mathlib.Data.List.Basic
import Mathlib.Tactic.Common

/-!
# Header maps

Names in lower case with their values, several of one name in their order, and the texts that values are
read as.

Results:
- `getAll_filter` — a map narrowed by name keeps all values of a name or none;
- `removeAll_eq` — names removed one after another;
- `HeaderText.toStr_headerValue` — a text of visible characters is read back.
-/

abbrev HeaderMap (β : Type*) := List (String × β)

namespace HeaderMap

variable {β : Type*} (headers : HeaderMap β) (name : String)

def getAll : List β := (headers.filter fun line => line.1 = name).map Prod.snd

/-- The first value of a name. -/
def get : Option β := (headers.find? fun line => line.1 = name).map Prod.snd

def remove : HeaderMap β := headers.filter fun line => line.1 ≠ name

def removeAll (names : List String) : HeaderMap β := names.foldl remove headers

def contains : Bool := headers.any fun line => line.1 = name

theorem contains_iff : contains headers name = true ↔ getAll headers name ≠ [] := by
  rw [contains, List.any_eq_true, getAll, Ne, List.map_eq_nil_iff, List.filter_eq_nil_iff]
  push Not
  rfl

theorem get_eq_head? : get headers name = (getAll headers name).head? := by
  rw [get, getAll, List.head?_map, List.head?_filter]

/-- A map narrowed by name keeps all values of a name or none. -/
theorem getAll_filter (p : String → Bool) :
    getAll (headers.filter fun line => p line.1) name = if p name then getAll headers name else [] := by
  rw [getAll, List.filter_filter]
  cases hp : p name with
  | true =>
    rw [if_pos rfl, getAll]
    congr 1
    refine List.filter_congr fun line _ => ?_
    by_cases hname : line.1 = name <;> simp [hname, hp]
  | false =>
    rw [if_neg (by simp), List.map_eq_nil_iff, List.filter_eq_nil_iff]
    intro line _
    by_cases hname : line.1 = name <;> simp [hname, hp]

theorem removeAll_eq (names : List String) :
    removeAll headers names = headers.filter fun line => line.1 ∉ names := by
  induction names generalizing headers with
  | nil => simp [removeAll]
  | cons name names ih =>
    show removeAll (remove headers name) names = _
    rw [ih, remove, List.filter_filter]
    refine List.filter_congr fun line _ => ?_
    simp [Bool.and_comm]

theorem getAll_append (headers' : HeaderMap β) :
    getAll (headers ++ headers') name = getAll headers name ++ getAll headers' name := by
  rw [getAll, List.filter_append, List.map_append]
  rfl

end HeaderMap

/-! ## Values and texts -/

/-- A character that a value may have to be read as a text. -/
def isVisible (c : Char) : Bool := (32 ≤ c.toNat && c.toNat < 127) || c = '\t'

/-- The characters that the bytes of a value are numbered as. -/
def latin1 (value : List UInt8) : List Char := value.map fun b => Char.ofNat b.toNat

/-- The value that a text of such characters is written as. -/
def headerValue (text : String) : List UInt8 := text.toList.map fun c => UInt8.ofNat c.toNat

/-- `HeaderValue::to_str`: values of visible ASCII characters, spaces and tabs are texts. -/
structure HeaderText where
  toStr : List UInt8 → Option String
  visible : ∀ value, (latin1 value).all isVisible = true → toStr value = some (String.ofList (latin1 value))
  other : ∀ value, (latin1 value).all isVisible = false → toStr value = none

theorem isVisible_lt {c : Char} (h : isVisible c = true) : c.toNat < 127 := by
  rw [isVisible, Bool.or_eq_true, Bool.and_eq_true, decide_eq_true_eq, decide_eq_true_eq,
    decide_eq_true_eq] at h
  rcases h with ⟨-, hlt⟩ | rfl
  · exact hlt
  · decide

theorem latin1_headerValue {text : String} (h : ∀ c ∈ text.toList, isVisible c = true) :
    latin1 (headerValue text) = text.toList := by
  rw [latin1, headerValue, List.map_map]
  refine (List.map_congr_left fun c hc => ?_).trans (List.map_id _)
  have hlt := isVisible_lt (h c hc)
  show Char.ofNat (UInt8.ofNat c.toNat).toNat = c
  rw [UInt8.toNat_ofNat', Nat.mod_eq_of_lt (by omega), Char.ofNat_toNat]

/-- A text of visible characters is read back. -/
theorem HeaderText.toStr_headerValue (texts : HeaderText) {text : String}
    (h : ∀ c ∈ text.toList, isVisible c = true) : texts.toStr (headerValue text) = some text := by
  have hlatin1 := latin1_headerValue h
  rw [texts.visible _ (by rw [hlatin1, List.all_eq_true]; exact h), hlatin1, String.ofList_toList]

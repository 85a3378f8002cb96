import Mathlib.Data.String.Basic
import PartnerPortal.Lib.Sql

/-!
# Prepared statements

Conditions with `?` parameters, and the values bound to them by position.  A `?` is numbered one
above the greatest number before it, and `?n` has its own number.

Results:
- `query_bound` — where each condition's values stand in a row at its own `?`s, a statement selects
  what its conditions select with their own values.
-/

namespace Prepared

open Sql

/-- What a column or a parameter holds. -/
inductive Value where
  | null
  | integer (value : Int)
  | text (value : String)
deriving Repr, DecidableEq

namespace Value

/-- `<`: every integer is below every text. -/
def below : Value → Value → Truth
  | .null, _ => none
  | _, .null => none
  | .integer a, .integer b => some (decide (a < b))
  | .integer _, .text _ => some true
  | .text _, .integer _ => some false
  | .text a, .text b => some (decide (a < b))

/-- `=` -/
def equals : Value → Value → Truth
  | .null, _ => none
  | _, .null => none
  | a, b => some (decide (a = b))

/-- `<=` -/
def atMost (a b : Value) : Truth := or (below a b) (equals a b)

/-- `>=` -/
def atLeast (a b : Value) : Truth := atMost b a

def isNull : Value → Truth
  | .null => some true
  | _ => some false

/-- A text, or `NULL`. -/
def ofOption : Option String → Value
  | none => .null
  | some s => .text s

end Value

/-- A parameter: `?` or `?n`. -/
inductive Param where
  | next
  | numbered (n : Nat)
deriving Repr, DecidableEq

/-- The value of a parameter, after parameters of so great a number. -/
def Param.value (bound : List Value) (largest : Nat) : Param → Value
  | .next => bound.getD largest .null
  | .numbered n => bound.getD (n - 1) .null

/-- The greatest number with this parameter. -/
def Param.number (largest : Nat) : Param → Nat
  | .next => largest + 1
  | .numbered n => max largest n

/-- A condition on a row. -/
inductive Cond (ρ : Type*) where
  /-- a condition without parameters -/
  | test (truth : ρ → Truth)
  /-- `column op ?` -/
  | column (value : ρ → Value) (op : Value → Value → Truth) (param : Param)
  /-- `column IN (?,…,?)` -/
  | oneOf (value : ρ → Value) (count : Nat)
  /-- `(? IS NULL OR column = ?)` -/
  | ifGiven (value : ρ → Value) (given param : Param)
  /-- `(column, column) < (?, ?)` -/
  | rowBelow (first second : ρ → Value) (param param' : Param)

/-- `IN` a list of values. -/
def within (value : Value) (values : List Value) : Truth :=
  values.foldr (fun v t => or (value.equals v) t) (some false)

variable {ρ : Type*}

/-- The greatest number with the parameters of a condition. -/
def Cond.number (largest : Nat) : Cond ρ → Nat
  | .test _ => largest
  | .column _ _ param => param.number largest
  | .oneOf _ count => largest + count
  | .ifGiven _ given param => param.number (given.number largest)
  | .rowBelow _ _ param param' => param'.number (param.number largest)

/-- A condition on a row, after parameters of so great a number. -/
def Cond.eval (bound : List Value) (row : ρ) (largest : Nat) : Cond ρ → Truth
  | .test truth => truth row
  | .column value op param => op (value row) (param.value bound largest)
  | .oneOf value count =>
    within (value row) ((List.range count).map fun i => bound.getD (largest + i) .null)
  | .ifGiven value given param =>
    or (given.value bound largest).isNull
      ((value row).equals (param.value bound (given.number largest)))
  | .rowBelow first second param param' =>
    let v := param.value bound largest
    let v' := param'.value bound (param.number largest)
    or ((first row).below v) (and ((first row).equals v) ((second row).below v'))

/-- A `WHERE`. -/
def holds (bound : List Value) (row : ρ) : Nat → List (Cond ρ) → Truth
  | _, [] => some true
  | largest, c :: conds => and (c.eval bound row largest) (holds bound row (c.number largest) conds)

/-- The greatest number of a `WHERE`. -/
def numbered (conds : List (Cond ρ)) : Nat := conds.foldl Cond.number 0

/-- The rows that a `WHERE` selects and the values left for the `?`s after it.  Values that are not as
many as the parameters are refused. -/
def query (conds : List (Cond ρ)) (trailing : Nat) (bound : List Value) (table : List ρ) :
    Option (List ρ × List Value) :=
  if bound.length = numbered conds + trailing then
    some (table.filter fun row => Sql.selects (holds bound row 0 conds), bound.drop (numbered conds))
  else none

/-- `LIMIT`: a negative one is none. -/
def limited {α : Type*} (bound : Int) (rows : List α) : List α :=
  if bound < 0 then rows else rows.take bound.toNat

/-- `LIMIT` and `OFFSET`: a negative offset is none. -/
def paged {α : Type*} (bound offset : Int) (rows : List α) : List α :=
  limited bound (rows.drop offset.toNat)

/-! ## Texts and integers -/

section Selected

@[simp] theorem selects_some (b : Bool) : Sql.selects (some b) = b := by
  cases b <;> rfl

@[simp] theorem selects_below_text (a b : String) :
    Sql.selects (Value.below (.text a) (.text b)) = decide (a < b) := selects_some _

@[simp] theorem selects_below_integer (a b : Int) :
    Sql.selects (Value.below (.integer a) (.integer b)) = decide (a < b) := selects_some _

@[simp] theorem selects_equals_text (a b : String) :
    Sql.selects (Value.equals (.text a) (.text b)) = decide (a = b) := by
  simp [Value.equals]

@[simp] theorem selects_equals_integer (a b : Int) :
    Sql.selects (Value.equals (.integer a) (.integer b)) = decide (a = b) := by
  simp [Value.equals]

@[simp] theorem selects_atMost_text (a b : String) :
    Sql.selects (Value.atMost (.text a) (.text b)) = !decide (b < a) := by
  rw [Value.atMost, selects_or, selects_below_text, selects_equals_text]
  rcases lt_trichotomy a b with h | rfl | h
  · simp [h, not_lt_of_gt h]
  · simp
  · simp [h, not_lt_of_gt h, ne_of_gt h]

/-- `(? IS NULL OR column = ?)`, with one value bound to both. -/
theorem selects_ifGiven (value : String) (given : Option String) :
    Sql.selects (or (Value.ofOption given).isNull ((Value.text value).equals (.ofOption given))) =
      given.all fun g => value = g := by
  cases given <;> simp [Value.ofOption, Value.isNull, Value.equals]

end Selected

/-! ## Conditions with their own values -/

/-- How many `?`s a condition has. -/
def Cond.arity : Cond ρ → Nat
  | .test _ => 0
  | .column _ _ _ => 1
  | .oneOf _ count => count
  | .ifGiven _ _ _ => 2
  | .rowBelow _ _ _ _ => 2

/-- A condition whose parameters are all `?`. -/
def Cond.Anonymous : Cond ρ → Prop
  | .column _ _ param => param = .next
  | .ifGiven _ given param => given = .next ∧ param = .next
  | .rowBelow _ _ param param' => param = .next ∧ param' = .next
  | _ => True

/-- A condition and the values of its `?`s. -/
structure BoundCond (ρ : Type*) where
  cond : Cond ρ
  values : List Value
  anonymous : cond.Anonymous
  enough : values.length = cond.arity

/-- What a condition selects with its own values. -/
def BoundCond.selects (part : BoundCond ρ) (row : ρ) : Bool := Sql.selects (part.cond.eval part.values row 0)

namespace BoundCond

/-- a condition without parameters -/
def test (truth : ρ → Truth) : BoundCond ρ := ⟨.test truth, [], trivial, rfl⟩

/-- `column op ?` -/
def compare (column : ρ → Value) (op : Value → Value → Truth) (value : Value) : BoundCond ρ :=
  ⟨.column column op .next, [value], rfl, rfl⟩

/-- `(? IS NULL OR column = ?)`, with one value bound to both. -/
def ifGiven (column : ρ → String) (given : Option String) : BoundCond ρ :=
  ⟨.ifGiven (fun row => .text (column row)) .next .next, [.ofOption given, .ofOption given],
    ⟨rfl, rfl⟩, rfl⟩

/-- `(column, column) < (?, ?)` -/
def rowBelow (first second : ρ → Value) (value value' : Value) : BoundCond ρ :=
  ⟨.rowBelow first second .next .next, [value, value'], ⟨rfl, rfl⟩, rfl⟩

theorem compare_selects (column : ρ → Value) (op : Value → Value → Truth) (value : Value) (row : ρ) :
    (compare column op value).selects row = Sql.selects (op (column row) value) := rfl

theorem ifGiven_selects (column : ρ → String) (given : Option String) (row : ρ) :
    (ifGiven column given).selects row = given.all fun g => column row = g :=
  selects_ifGiven (column row) given

theorem rowBelow_selects (first second : ρ → Value) (value value' : Value) (row : ρ) :
    (rowBelow first second value value').selects row =
      (Sql.selects ((first row).below value) ||
        (Sql.selects ((first row).equals value) && Sql.selects ((second row).below value'))) := by
  show Sql.selects (Sql.or ((first row).below value)
    (Sql.and ((first row).equals value) ((second row).below value'))) = _
  rw [selects_or, selects_and]

end BoundCond

theorem getD_append_middle (pre own post : List Value) {i : Nat} (h : i < own.length) :
    (pre ++ (own ++ post)).getD (pre.length + i) .null = own.getD i .null := by
  simp only [List.getD_eq_getElem?_getD]
  rw [List.getElem?_append_right (Nat.le_add_right _ _), Nat.add_sub_cancel_left,
    List.getElem?_append_left h]

/-- A condition has the numbers of its own `?`s. -/
theorem BoundCond.number (part : BoundCond ρ) (largest : Nat) :
    part.cond.number largest = largest + part.values.length := by
  obtain ⟨cond, own, hanonymous, henough⟩ := part
  rw [henough]
  cases cond with
  | test truth => rfl
  | column value op param =>
    have hnext : param = .next := hanonymous
    simp only [Cond.number, hnext, Param.number, Cond.arity]
  | oneOf value count => rfl
  | ifGiven value given param =>
    obtain ⟨hgiven, hnext⟩ : given = .next ∧ param = .next := hanonymous
    simp only [Cond.number, hgiven, hnext, Param.number, Cond.arity]
  | rowBelow first second param param' =>
    obtain ⟨hfirst, hsecond⟩ : param = .next ∧ param' = .next := hanonymous
    simp only [Cond.number, hfirst, hsecond, Param.number, Cond.arity]

/-- A condition reads the values at its own `?`s. -/
theorem BoundCond.eval (part : BoundCond ρ) (pre post : List Value) (row : ρ) :
    part.cond.eval (pre ++ (part.values ++ post)) row pre.length =
      part.cond.eval part.values row 0 := by
  obtain ⟨cond, own, hanonymous, henough⟩ := part
  have hget := fun {i : Nat} (hi : i < own.length) => getD_append_middle pre own post hi
  -- a condition reads as many values as it has, from its own place on
  cases cond with
  | test truth => rfl
  | column value op param =>
    have hlength : own.length = 1 := henough
    have hnext : param = .next := hanonymous
    have h0 := @hget 0 (by omega)
    simp only [Nat.add_zero] at h0
    simp only [Cond.eval, hnext, Param.value, h0]
  | oneOf value count =>
    have hlength : own.length = count := henough
    simp only [Cond.eval, Nat.zero_add]
    congr 1
    apply List.map_congr_left
    exact fun i hi => hget (hlength ▸ List.mem_range.1 hi)
  | ifGiven value given param =>
    have hlength : own.length = 2 := henough
    obtain ⟨hgiven, hnext⟩ : given = .next ∧ param = .next := hanonymous
    have h0 := @hget 0 (by omega)
    have h1 := @hget 1 (by omega)
    simp only [Nat.add_zero] at h0
    simp only [Cond.eval, hgiven, hnext, Param.value, Param.number, h0, h1, Nat.zero_add]
  | rowBelow first second param param' =>
    have hlength : own.length = 2 := henough
    obtain ⟨hfirst, hsecond⟩ : param = .next ∧ param' = .next := hanonymous
    have h0 := @hget 0 (by omega)
    have h1 := @hget 1 (by omega)
    simp only [Nat.add_zero] at h0
    simp only [Cond.eval, hfirst, hsecond, Param.value, Param.number, h0, h1, Nat.zero_add]

theorem holds_bound (parts : List (BoundCond ρ)) (pre post : List Value) (row : ρ) :
    Sql.selects (holds (pre ++ (parts.flatMap BoundCond.values ++ post)) row pre.length
      (parts.map BoundCond.cond)) = parts.all fun part => part.selects row := by
  induction parts generalizing pre with
  | nil => rfl
  | cons part parts ih =>
    have hfirst := part.eval pre (parts.flatMap BoundCond.values ++ post) row
    have hrest := ih (pre ++ part.values)
    rw [List.append_assoc, List.length_append, ← part.number] at hrest
    simp only [List.flatMap_cons, List.map_cons, List.append_assoc, holds, selects_and, hfirst, hrest,
      List.all_cons]
    rfl

theorem numbered_bound (parts : List (BoundCond ρ)) :
    numbered (parts.map BoundCond.cond) = (parts.flatMap BoundCond.values).length := by
  have hfrom : ∀ largest, (parts.map BoundCond.cond).foldl Cond.number largest =
      largest + (parts.flatMap BoundCond.values).length := by
    induction parts with
    | nil => exact fun _ => rfl
    | cons part parts ih =>
      intro largest
      rw [List.map_cons, List.foldl_cons, ih, part.number, List.flatMap_cons, List.length_append,
        Nat.add_assoc]
  exact (hfrom 0).trans (Nat.zero_add _)

/-- Where each condition's values stand in a row at its own `?`s, a statement selects what its
conditions select with their own values, and leaves the values after them. -/
theorem query_bound (parts : List (BoundCond ρ)) (trailing : List Value) (table : List ρ) :
    query (parts.map BoundCond.cond) trailing.length (parts.flatMap BoundCond.values ++ trailing) table =
      some (table.filter fun row => parts.all fun part => part.selects row, trailing) := by
  have hlength : (parts.flatMap BoundCond.values ++ trailing).length =
      numbered (parts.map BoundCond.cond) + trailing.length := by
    rw [numbered_bound, List.length_append]
  have hselects := fun row => holds_bound parts [] trailing row
  simp only [List.nil_append, List.length_nil] at hselects
  rw [query, if_pos hlength, numbered_bound, List.drop_left]
  simp only [hselects]

/-! ## Conditions with numbers -/

/-- A last `?n` whose number is the next one is a `?`. -/
theorem holds_numbered (conds : List (Cond ρ)) (column : ρ → Value) (op : Value → Value → Truth)
    (bound : List Value) (row : ρ) (largest : Nat) :
    holds bound row largest
        (conds ++ [.column column op (.numbered (conds.foldl Cond.number largest + 1))]) =
      holds bound row largest (conds ++ [.column column op .next]) := by
  induction conds generalizing largest with
  | nil => rfl
  | cons c conds ih => simp only [List.cons_append, holds, List.foldl_cons, ih]

theorem query_numbered (conds : List (Cond ρ)) (column : ρ → Value) (op : Value → Value → Truth)
    (trailing : Nat) (bound : List Value) (table : List ρ) :
    query (conds ++ [.column column op (.numbered (numbered conds + 1))]) trailing bound table =
      query (conds ++ [.column column op .next]) trailing bound table := by
  have hnumber : numbered (conds ++ [.column column op (.numbered (numbered conds + 1))]) =
      numbered (conds ++ [.column column op .next]) := by
    simp only [numbered, List.foldl_append, List.foldl_cons, List.foldl_nil, Cond.number, Param.number]
    exact Nat.max_eq_right (Nat.le_succ _)
  have hholds : ∀ row, holds bound row 0
      (conds ++ [.column column op (.numbered (numbered conds + 1))]) =
      holds bound row 0 (conds ++ [.column column op .next]) :=
    fun row => holds_numbered conds column op bound row 0
  simp only [query, hnumber, hholds]

/-! ## Two tables -/

/-- A statement selects the same rows of two tables that agree on what one of its conditions selects. -/
theorem query_agree {parts : List (BoundCond ρ)} {part : BoundCond ρ} (hpart : part ∈ parts)
    {table table' : List ρ}
    (hagree : table.filter part.selects = table'.filter part.selects) (trailing : List Value) :
    query (parts.map BoundCond.cond) trailing.length (parts.flatMap BoundCond.values ++ trailing)
        table =
      query (parts.map BoundCond.cond) trailing.length (parts.flatMap BoundCond.values ++ trailing)
        table' := by
  have hnarrow : ∀ rows : List ρ, rows.filter (fun row => parts.all fun part => part.selects row) =
      (rows.filter part.selects).filter fun row => parts.all fun part => part.selects row := by
    intro rows
    rw [List.filter_filter]
    apply List.filter_congr
    intro row _
    cases hall : parts.all fun part => part.selects row with
    | false => rfl
    | true => exact (List.all_eq_true.1 hall part hpart).symm
  rw [query_bound, query_bound, hnarrow table, hnarrow table', hagree]

end Prepared

import Mathlib.Algebra.Order.Ring.Nat
import Mathlib.Tactic.Common

/-!
# Lossy UTF-8

Bytes as text.  Every longest run of bytes that begins a character without completing it, and
every byte that begins none, becomes one replacement character.

Results:
- `character_length_le_utf8Size` — a character is no shorter than the bytes it is read from;
- `characters_append` — the start of the bytes reads as the start of the text, but for a last
  character that the cut broke off;
- `characters_before_ascii` — bytes below 128 separate what stands around them;
- `size_characters_le` — a text takes at most three times the bytes it is read from;
- `size_characters_le_count` — and at most two more than them for each replacement.
-/

namespace Utf8

def replacement : Char := Char.ofNat 0xFFFD

/-- A byte that continues a character. -/
def continues (b : UInt8) : Bool := 0x80 ≤ b && b ≤ 0xBF

/-- The second byte that may follow a first of three or four.  The narrower ranges leave out overlong
forms, surrogates and what lies past the last code point. -/
def follows (first second : UInt8) : Bool :=
  if first = 0xE0 then 0xA0 ≤ second && second ≤ 0xBF
  else if first = 0xED then 0x80 ≤ second && second ≤ 0x9F
  else if first = 0xF0 then 0x90 ≤ second && second ≤ 0xBF
  else if first = 0xF4 then 0x80 ≤ second && second ≤ 0x8F
  else continues second

/-- The rest of a character, some continuation bytes of which are missing, and what is left. -/
def complete : Nat → Nat → List UInt8 → Char × List UInt8
  | 0, code, rest => (Char.ofNat code, rest)
  | _ + 1, _, [] => (replacement, [])
  | missing + 1, code, b :: rest =>
    if continues b then complete missing (code * 64 + (b.toNat - 0x80)) rest
    else (replacement, b :: rest)

/-- The same, where the second byte depends on the first. -/
def completeAfter (first : UInt8) (missing code : Nat) : List UInt8 → Char × List UInt8
  | [] => (replacement, [])
  | b :: rest =>
    if follows first b then complete missing code (b :: rest) else (replacement, b :: rest)

/-- The character that a byte begins, and what is left. -/
def character (first : UInt8) (rest : List UInt8) : Char × List UInt8 :=
  if first < 0x80 then (Char.ofNat first.toNat, rest)
  else if 0xC2 ≤ first && first ≤ 0xDF then complete 1 (first.toNat - 0xC0) rest
  else if 0xE0 ≤ first && first ≤ 0xEF then completeAfter first 2 (first.toNat - 0xE0) rest
  else if 0xF0 ≤ first && first ≤ 0xF4 then completeAfter first 3 (first.toNat - 0xF0) rest
  else (replacement, rest)

theorem complete_suffix (missing code : Nat) (rest : List UInt8) :
    (complete missing code rest).2 <:+ rest := by
  induction missing generalizing code rest with
  | zero => exact List.suffix_rfl
  | succ missing ih =>
    cases rest with
    | nil => exact List.suffix_rfl
    | cons b rest =>
      rw [complete]
      split
      · exact (ih _ rest).trans (List.suffix_cons b rest)
      · exact List.suffix_rfl

theorem completeAfter_suffix (first : UInt8) (missing code : Nat) (rest : List UInt8) :
    (completeAfter first missing code rest).2 <:+ rest := by
  cases rest with
  | nil => exact List.suffix_rfl
  | cons b rest =>
    rw [completeAfter]
    split
    · exact complete_suffix missing code (b :: rest)
    · exact List.suffix_rfl

theorem character_suffix (first : UInt8) (rest : List UInt8) :
    (character first rest).2 <:+ rest := by
  unfold character
  split
  · exact List.suffix_rfl
  · split
    · exact complete_suffix _ _ rest
    · split
      · exact completeAfter_suffix first _ _ rest
      · split
        · exact completeAfter_suffix first _ _ rest
        · exact List.suffix_rfl

/-- Bytes as text. -/
def characters : List UInt8 → List Char
  | [] => []
  | first :: rest => (character first rest).1 :: characters (character first rest).2
termination_by bytes => bytes.length
decreasing_by exact Nat.lt_succ_of_le (character_suffix first rest).length_le

/-- Bytes below 128 are characters by themselves. -/
theorem characters_ascii {bytes : List UInt8} (h : ∀ b ∈ bytes, b < 0x80) :
    characters bytes = bytes.map fun b => Char.ofNat b.toNat := by
  induction bytes with
  | nil => rw [characters, List.map_nil]
  | cons b bytes ih =>
    have hcharacter : character b bytes = (Char.ofNat b.toNat, bytes) := by
      rw [character, if_pos (h b List.mem_cons_self)]
    rw [characters, hcharacter, List.map_cons, ih fun c hc => h c (List.mem_cons_of_mem b hc)]

/-- `String::from_utf8_lossy` -/
def fromUtf8Lossy (bytes : List UInt8) : String := String.ofList (characters bytes)

/-! ## What a character is read from -/

/-- The number of bytes of a code point. -/
theorem utf8Size_ofNat {code : Nat} (h : code.isValidChar) :
    (Char.ofNat code).utf8Size =
      if code ≤ 0x7F then 1 else if code ≤ 0x7FF then 2 else if code ≤ 0xFFFF then 3 else 4 := by
  have hval : (Char.ofNat code).val.toNat = code := by
    rw [Char.ofNat, dif_pos h]
    rfl
  unfold Char.utf8Size
  simp only [UInt32.le_iff_toNat_le, hval]
  rfl

theorem replacement_utf8Size : replacement.utf8Size = 3 := by decide

theorem continues_lt {b : UInt8} (h : continues b = true) : b.toNat - 0x80 < 64 := by
  simp only [continues, Bool.and_eq_true, decide_eq_true_eq, UInt8.le_iff_toNat_le] at h
  have hmax : b.toNat ≤ 0xBF := h.2
  omega

/-- The rest of a character is read whole, or it is broken off before. -/
theorem complete_cases (missing code : Nat) (rest : List UInt8) :
    (∃ point, code * 64 ^ missing ≤ point ∧ point < (code + 1) * 64 ^ missing ∧
      (complete missing code rest).1 = Char.ofNat point ∧
      rest.length = (complete missing code rest).2.length + missing) ∨
    (complete missing code rest).1 = replacement ∧
      rest.length < (complete missing code rest).2.length + missing := by
  induction missing generalizing code rest with
  | zero => exact .inl ⟨code, by simp, by simp, rfl, rfl⟩
  | succ missing ih =>
    have hpow : ∀ n, n * 64 ^ (missing + 1) = n * 64 * 64 ^ missing := by
      intro n
      rw [Nat.pow_succ, Nat.mul_comm (64 ^ missing), Nat.mul_assoc]
    cases rest with
    | nil => exact .inr ⟨rfl, Nat.succ_pos _⟩
    | cons b rest =>
      rw [complete]
      split
      case isTrue hb =>
        -- each continuation adds six bits below those that are there
        have hdigit := continues_lt hb
        rcases ih (code * 64 + (b.toNat - 0x80)) rest with
          ⟨point, hle, hlt, hchar, hlen⟩ | ⟨hchar, hlen⟩
        · refine .inl ⟨point, ?_, ?_, hchar, by rw [List.length_cons, hlen, Nat.add_assoc]⟩
          · rw [hpow]
            exact Nat.le_trans (Nat.mul_le_mul_right _ (Nat.le_add_right _ _)) hle
          · rw [hpow]
            exact Nat.lt_of_lt_of_le hlt (Nat.mul_le_mul_right _ (by omega))
        · exact .inr ⟨hchar, by rw [List.length_cons]; omega⟩
      case isFalse => exact .inr ⟨rfl, by rw [List.length_cons]; omega⟩

/-- A character is no shorter than the bytes it is read from, if no code point it may stand for is
written in more bytes than it needs. -/
theorem length_le_utf8Size {missing code before : Nat} {rest : List UInt8}
    (hfew : before + missing ≤ 4)
    (h : ∀ point, code * 64 ^ missing ≤ point → point < (code + 1) * 64 ^ missing →
      before + missing ≤ (Char.ofNat point).utf8Size) :
    before + rest.length ≤
      (complete missing code rest).1.utf8Size + (complete missing code rest).2.length := by
  rcases complete_cases missing code rest with ⟨point, hle, hlt, hchar, hlen⟩ | ⟨hchar, hlen⟩
  · have hsize := h point hle hlt
    rw [hchar]
    omega
  · rw [hchar, replacement_utf8Size]
    omega

/-- A second byte, as the bits it adds. -/
theorem follows_cases {first second : UInt8} (h : follows first second = true) :
    continues second = true ∧
      (first.toNat = 0xE0 → 0x20 ≤ second.toNat - 0x80) ∧
      (first.toNat = 0xED → second.toNat - 0x80 < 0x20) ∧
      (first.toNat = 0xF0 → 0x10 ≤ second.toNat - 0x80) ∧
      (first.toNat = 0xF4 → second.toNat - 0x80 < 0x10) := by
  unfold follows continues at h
  unfold continues
  simp only [Bool.and_eq_true, decide_eq_true_eq, UInt8.le_iff_toNat_le, ← UInt8.toNat_inj,
    UInt8.reduceToNat] at h ⊢
  grind

theorem first_toNat_range {low high first : UInt8} (h : (low ≤ first && first ≤ high) = true) :
    low.toNat ≤ first.toNat ∧ first.toNat ≤ high.toNat := by
  simpa only [Bool.and_eq_true, decide_eq_true_eq, UInt8.le_iff_toNat_le] using h

/-- A character of three or four bytes is no shorter than them. -/
theorem completeAfter_length_le_utf8Size {first : UInt8} {missing code : Nat} {rest : List UInt8}
    (hfew : missing ≤ 2)
    (h : ∀ b point, follows first b = true → (code * 64 + (b.toNat - 0x80)) * 64 ^ missing ≤ point →
      point < (code * 64 + (b.toNat - 0x80) + 1) * 64 ^ missing →
      2 + missing ≤ (Char.ofNat point).utf8Size) :
    1 + rest.length ≤ (completeAfter first (missing + 1) code rest).1.utf8Size +
      (completeAfter first (missing + 1) code rest).2.length := by
  cases rest with
  | nil => rw [completeAfter, replacement_utf8Size, List.length_nil]; omega
  | cons b rest =>
    rw [completeAfter]
    split
    case isTrue hb =>
      rw [complete, if_pos (follows_cases hb).1, List.length_cons]
      have hrest := @length_le_utf8Size missing _ 2 rest (by omega) (h b · hb)
      omega
    case isFalse =>
      show 1 + (b :: rest).length ≤ replacement.utf8Size + (b :: rest).length
      exact Nat.add_le_add_right (Char.utf8Size_pos _) _

/-- A character is no shorter than the bytes it is read from. -/
theorem character_length_le_utf8Size (first : UInt8) (rest : List UInt8) :
    1 + rest.length ≤ (character first rest).1.utf8Size + (character first rest).2.length := by
  unfold character
  split
  · exact Nat.add_le_add_right (Char.utf8Size_pos _) _
  · split
    case isTrue htwo =>
      -- a sequence that decodes has as many bytes as its character takes
      obtain ⟨hlow, hhigh⟩ := first_toNat_range htwo
      simp only [UInt8.reduceToNat] at hlow hhigh
      refine length_le_utf8Size (by omega) fun point hle hlt => ?_
      rw [utf8Size_ofNat (.inl (by omega)), if_neg (by omega)]
      split <;> omega
    case isFalse =>
      split
      case isTrue hthree =>
        obtain ⟨hlow, hhigh⟩ := first_toNat_range hthree
        simp only [UInt8.reduceToNat] at hlow hhigh
        refine completeAfter_length_le_utf8Size (by omega) fun b point hb hle hlt => ?_
        obtain ⟨hcontinues, he0, hed, -, -⟩ := follows_cases hb
        have hdigit := continues_lt hcontinues
        have hvalid : point.isValidChar := by
          unfold Nat.isValidChar
          omega
        rw [utf8Size_ofNat hvalid, if_neg (by omega), if_neg (by omega)]
        split <;> omega
      case isFalse =>
        split
        case isTrue hfour =>
          obtain ⟨hlow, hhigh⟩ := first_toNat_range hfour
          simp only [UInt8.reduceToNat] at hlow hhigh
          refine completeAfter_length_le_utf8Size (by omega) fun b point hb hle hlt => ?_
          obtain ⟨hcontinues, -, -, hf0, hf4⟩ := follows_cases hb
          have hdigit := continues_lt hcontinues
          have hvalid : point.isValidChar := by
            unfold Nat.isValidChar
            omega
          have hsize : (Char.ofNat point).utf8Size = 4 := by
            rw [utf8Size_ofNat hvalid, if_neg (by omega), if_neg (by omega), if_neg (by omega)]
          exact Nat.le_of_eq hsize.symm
        case isFalse => exact Nat.add_le_add_right (Char.utf8Size_pos _) _

/-- Bytes that run out amid a character, or to which nothing that follows makes a difference. -/
theorem complete_append (missing code : Nat) (rest more : List UInt8) :
    complete missing code rest = (replacement, []) ∧ rest.length < missing ∨
      complete missing code (rest ++ more) =
        ((complete missing code rest).1, (complete missing code rest).2 ++ more) := by
  induction missing generalizing code rest with
  | zero => exact .inr rfl
  | succ missing ih =>
    cases rest with
    | nil => exact .inl ⟨rfl, Nat.succ_pos _⟩
    | cons b rest =>
      rw [List.cons_append, complete, complete]
      split
      case isTrue =>
        rcases ih (code * 64 + (b.toNat - 0x80)) rest with ⟨hout, hlength⟩ | hsame
        · exact .inl ⟨hout, Nat.succ_lt_succ hlength⟩
        · exact .inr hsame
      case isFalse => exact .inr rfl

theorem completeAfter_append (first : UInt8) (missing code : Nat) (rest more : List UInt8)
    (hsome : 0 < missing) :
    completeAfter first missing code rest = (replacement, []) ∧ rest.length < missing ∨
      completeAfter first missing code (rest ++ more) =
        ((completeAfter first missing code rest).1,
          (completeAfter first missing code rest).2 ++ more) := by
  cases rest with
  | nil => exact .inl ⟨rfl, hsome⟩
  | cons b rest =>
    rw [List.cons_append, completeAfter, completeAfter]
    split
    case isTrue => exact complete_append missing code (b :: rest) more
    case isFalse => exact .inr rfl

theorem character_append (first : UInt8) (rest more : List UInt8) :
    character first rest = (replacement, []) ∧ rest.length < 3 ∨
      character first (rest ++ more) =
        ((character first rest).1, (character first rest).2 ++ more) := by
  unfold character
  split
  · exact .inr rfl
  · split
    · exact (complete_append 1 _ rest more).imp_left fun h => ⟨h.1, Nat.lt_of_lt_of_le h.2 (by decide)⟩
    · split
      · exact (completeAfter_append first 2 _ rest more (by decide)).imp_left
          fun h => ⟨h.1, Nat.lt_of_lt_of_le h.2 (by decide)⟩
      · split
        · exact completeAfter_append first 3 _ rest more (by decide)
        · exact .inr rfl

/-- The start of the bytes reads as the start of the text, but for a last character that the cut
broke off. -/
theorem characters_append (bytes more : List UInt8) :
    ∃ kept, kept <+: characters (bytes ++ more) ∧
      (characters bytes = kept ∨ characters bytes = kept ++ [replacement] ∧
        bytes.length ≤ (kept.map Char.utf8Size).sum + 3) := by
  induction bytes using characters.induct with
  | case1 => exact ⟨[], List.nil_prefix, .inl (by rw [characters])⟩
  | case2 first rest ih =>
    rw [List.cons_append, characters, characters]
    rcases character_append first rest more with ⟨hout, hlength⟩ | hsame
    · refine ⟨[], List.nil_prefix, .inr ⟨by rw [hout, characters, List.nil_append], ?_⟩⟩
      show rest.length + 1 ≤ 0 + 3
      exact Nat.succ_le_succ (Nat.le_of_lt_succ hlength)
    · obtain ⟨kept, hprefix, hkept⟩ := ih
      have hsize := character_length_le_utf8Size first rest
      refine ⟨(character first rest).1 :: kept, ?_, ?_⟩
      · rw [hsame]
        exact List.cons_prefix_cons.2 ⟨rfl, hprefix⟩
      · rcases hkept with hwhole | ⟨hbroken, hlength⟩
        · exact .inl (by rw [hwhole])
        · refine .inr ⟨by rw [hbroken, List.cons_append], ?_⟩
          rw [List.length_cons, List.map_cons, List.sum_cons]
          omega

/-! ## Bytes that stand for themselves -/

theorem complete_shorter (missing code : Nat) (rest : List UInt8) :
    (complete (missing + 1) code rest).1 = replacement ∨
      (complete (missing + 1) code rest).2.length < rest.length := by
  rcases complete_cases (missing + 1) code rest with ⟨point, -, -, -, hlength⟩ | ⟨hbroken, -⟩
  · exact .inr (by omega)
  · exact .inl hbroken

/-- A byte from 128 on is read with others, or not at all. -/
theorem character_shorter {first : UInt8} (h : ¬ first < 0x80) (rest : List UInt8) :
    (character first rest).1 = replacement ∨ (character first rest).2.length < rest.length := by
  have hafter : ∀ missing code, (completeAfter first (missing + 1) code rest).1 = replacement ∨
      (completeAfter first (missing + 1) code rest).2.length < rest.length := by
    intro missing code
    cases rest with
    | nil => exact .inl rfl
    | cons b rest =>
      rw [completeAfter]
      split
      · exact complete_shorter missing code (b :: rest)
      · exact .inl rfl
  unfold character
  rw [if_neg h]
  split
  · exact complete_shorter 0 _ rest
  · split
    · exact hafter 1 _
    · split
      · exact hafter 2 _
      · exact .inl rfl

theorem character_ascii {first : UInt8} (h : first < 0x80) (rest : List UInt8) :
    character first rest = (Char.ofNat first.toNat, rest) := by
  rw [character, if_pos h]

theorem characters_cons_ascii {first : UInt8} (h : first < 0x80) (rest : List UInt8) :
    characters (first :: rest) = Char.ofNat first.toNat :: characters rest := by
  rw [characters, character_ascii h]

theorem toNat_ofNat_byte (b : UInt8) : (Char.ofNat b.toNat).toNat = b.toNat := by
  have hvalid : b.toNat.isValidChar := .inl (Nat.lt_trans b.toNat_lt (by decide))
  rw [Char.ofNat, dif_pos hvalid]
  rfl

/-- A character below 128 is read from its own byte. -/
theorem ascii_of_mem_characters {bytes : List UInt8} {c : Char} (hc : c ∈ characters bytes)
    (hsmall : c.toNat < 0x80) : UInt8.ofNat c.toNat ∈ bytes := by
  induction bytes using characters.induct with
  | case1 => rw [characters] at hc; cases hc
  | case2 first rest ih =>
    by_cases hfirst : first < 0x80
    · rw [characters_cons_ascii hfirst] at hc
      rw [character_ascii hfirst] at ih
      rcases List.mem_cons.1 hc with rfl | hrest
      · rw [toNat_ofNat_byte, UInt8.ofNat_toNat]
        exact List.mem_cons_self
      · exact List.mem_cons_of_mem _ (ih hrest)
    · rw [characters] at hc
      have hbig : 0x80 ≤ (character first rest).1.toNat := by
        rcases character_shorter hfirst rest with hbroken | hshorter
        · rw [hbroken]
          decide
        · have hsize := character_length_le_utf8Size first rest
          by_contra hone
          have hval : (character first rest).1.val ≤ 127 :=
            UInt32.le_iff_toNat_le.2 (Nat.le_of_lt_succ (Nat.lt_of_not_le hone))
          rw [Char.utf8Size_eq_one_iff.2 hval] at hsize
          omega
      rcases List.mem_cons.1 hc with rfl | hrest
      · omega
      · exact List.mem_cons_of_mem _ ((character_suffix first rest).subset (ih hrest))

theorem complete_before_ascii (missing code : Nat) (rest : List UInt8) {b : UInt8} (hb : b < 0x80)
    (more : List UInt8) :
    complete missing code (rest ++ b :: more) =
      ((complete missing code rest).1, (complete missing code rest).2 ++ b :: more) := by
  induction missing generalizing code rest with
  | zero => rfl
  | succ missing ih =>
    cases rest with
    | nil =>
      have hends : continues b = false := by
        rw [continues, Bool.and_eq_false_iff, decide_eq_false_iff_not]
        exact .inl (UInt8.not_le.2 hb)
      show (if continues b then _ else _) = _
      rw [hends, if_neg Bool.false_ne_true]
      rfl
    | cons first rest =>
      rw [List.cons_append, complete, complete]
      split
      · exact ih _ rest
      · rfl

theorem completeAfter_before_ascii (first : UInt8) (missing code : Nat) (rest : List UInt8)
    {b : UInt8} (hb : b < 0x80) (more : List UInt8) :
    completeAfter first missing code (rest ++ b :: more) =
      ((completeAfter first missing code rest).1,
        (completeAfter first missing code rest).2 ++ b :: more) := by
  cases rest with
  | nil =>
    have hends : follows first b = false := by
      refine Bool.eq_false_iff.2 fun hfollows => ?_
      have hcontinues := (follows_cases hfollows).1
      rw [continues, Bool.and_eq_true, decide_eq_true_eq] at hcontinues
      exact UInt8.not_le.2 hb hcontinues.1
    show (if follows first b then _ else _) = _
    rw [hends, if_neg Bool.false_ne_true]
    rfl
  | cons second rest =>
    rw [List.cons_append, completeAfter, completeAfter]
    split
    · exact complete_before_ascii missing code (second :: rest) hb more
    · rfl

theorem character_before_ascii (first : UInt8) (rest : List UInt8) {b : UInt8} (hb : b < 0x80)
    (more : List UInt8) :
    character first (rest ++ b :: more) =
      ((character first rest).1, (character first rest).2 ++ b :: more) := by
  unfold character
  split
  · rfl
  · split
    · exact complete_before_ascii 1 _ rest hb more
    · split
      · exact completeAfter_before_ascii first 2 _ rest hb more
      · split
        · exact completeAfter_before_ascii first 3 _ rest hb more
        · rfl

/-- A byte below 128 begins a character, whatever it stands behind. -/
theorem characters_before_ascii (bytes : List UInt8) {b : UInt8} (hb : b < 0x80)
    (more : List UInt8) :
    characters (bytes ++ b :: more) = characters bytes ++ characters (b :: more) := by
  induction bytes using characters.induct with
  | case1 => rw [characters, List.nil_append, List.nil_append]
  | case2 first rest ih =>
    rw [List.cons_append, characters, character_before_ascii first rest hb more, characters,
      List.cons_append, ih]

/-! ## Replacements -/

/-- What is not a code point stands for a character of one byte. -/
theorem utf8Size_ofNat_le (code : Nat) : (Char.ofNat code).utf8Size ≤
    if code ≤ 0x7F then 1 else if code ≤ 0x7FF then 2 else if code ≤ 0xFFFF then 3 else 4 := by
  by_cases h : code.isValidChar
  · exact Nat.le_of_eq (utf8Size_ofNat h)
  · have hone : (Char.ofNat code).utf8Size = 1 := by
      rw [Char.ofNat, dif_neg h]
      rfl
    rw [hone]
    split
    · exact Nat.le_refl 1
    · split
      · decide
      · split <;> decide

/-- A character that is read whole is no longer than the bytes it is read from. -/
theorem complete_utf8Size_le {missing code before : Nat} {rest : List UInt8}
    (h : ∀ point, point < (code + 1) * 64 ^ missing →
      (Char.ofNat point).utf8Size ≤ before + missing) :
    (complete missing code rest).1 = replacement ∨
      (complete missing code rest).1.utf8Size + (complete missing code rest).2.length ≤
        before + rest.length := by
  rcases complete_cases missing code rest with ⟨point, -, hlt, hchar, hlength⟩ | ⟨hbroken, -⟩
  · have hsize := h point hlt
    rw [hchar]
    exact .inr (by omega)
  · exact .inl hbroken

theorem completeAfter_utf8Size_le {first : UInt8} {missing code : Nat} {rest : List UInt8}
    (h : ∀ point, point < (code + 1) * 64 ^ missing → (Char.ofNat point).utf8Size ≤ 1 + missing) :
    (completeAfter first missing code rest).1 = replacement ∨
      (completeAfter first missing code rest).1.utf8Size +
        (completeAfter first missing code rest).2.length ≤ 1 + rest.length := by
  cases rest with
  | nil => exact .inl rfl
  | cons b rest =>
    rw [completeAfter]
    split
    · exact complete_utf8Size_le h
    · exact .inl rfl

/-- A character that is not replaced is no longer than the bytes it is read from. -/
theorem character_utf8Size_le (first : UInt8) (rest : List UInt8) :
    (character first rest).1 = replacement ∨
      (character first rest).1.utf8Size + (character first rest).2.length ≤ 1 + rest.length := by
  unfold character
  split
  case isTrue hascii =>
    have hbyte : first.toNat < 0x80 := UInt8.lt_iff_toNat_lt.1 hascii
    have hsize := utf8Size_ofNat_le first.toNat
    rw [if_pos (by omega)] at hsize
    exact .inr (Nat.add_le_add_right hsize _)
  case isFalse =>
    split
    case isTrue htwo =>
      obtain ⟨-, hhigh⟩ := first_toNat_range htwo
      simp only [UInt8.reduceToNat] at hhigh
      refine complete_utf8Size_le fun point hlt => (utf8Size_ofNat_le point).trans ?_
      split
      · decide
      · rw [if_pos (by omega)]
    case isFalse =>
      split
      case isTrue hthree =>
        obtain ⟨-, hhigh⟩ := first_toNat_range hthree
        simp only [UInt8.reduceToNat] at hhigh
        refine completeAfter_utf8Size_le fun point hlt => (utf8Size_ofNat_le point).trans ?_
        split
        · decide
        · split
          · decide
          · rw [if_pos (by omega)]
      case isFalse =>
        split
        · exact completeAfter_utf8Size_le fun point _ => Char.utf8Size_le_four _
        · exact .inl rfl

/-- A text is longer than the bytes it is read from by two at most for each replacement. -/
theorem size_characters_le_count (bytes : List UInt8) :
    ((characters bytes).map Char.utf8Size).sum ≤
      bytes.length + 2 * (characters bytes).count replacement := by
  induction bytes using characters.induct with
  | case1 => rw [characters]; exact Nat.le_refl _
  | case2 first rest ih =>
    have hleft := (character_suffix first rest).length_le
    rw [characters, List.map_cons, List.sum_cons, List.count_cons, List.length_cons]
    by_cases hbroken : (character first rest).1 = replacement
    · rw [hbroken, replacement_utf8Size, if_pos (beq_self_eq_true _)]
      omega
    · have hsize := (character_utf8Size_le first rest).resolve_left hbroken
      rw [if_neg (by simpa using hbroken)]
      omega

theorem length_characters_le (bytes : List UInt8) : (characters bytes).length ≤ bytes.length := by
  induction bytes using characters.induct with
  | case1 => rw [characters]; exact Nat.le_refl _
  | case2 first rest ih =>
    rw [characters]
    exact Nat.succ_le_succ (ih.trans (character_suffix first rest).length_le)

/-- A text takes at most three times the bytes it is read from. -/
theorem size_characters_le (bytes : List UInt8) :
    ((characters bytes).map Char.utf8Size).sum ≤ 3 * bytes.length := by
  have hgrowth := size_characters_le_count bytes
  have hcount := @List.count_le_length _ _ replacement (characters bytes)
  have hlength := length_characters_le bytes
  omega

theorem character_invalid (rest : List UInt8) : character 0xFF rest = (replacement, rest) := rfl

/-- Bytes that begin no character are replaced one by one. -/
theorem characters_replicate_invalid (n : Nat) :
    characters (List.replicate n 0xFF) = List.replicate n replacement := by
  induction n with
  | zero => rw [List.replicate_zero, characters, List.replicate_zero]
  | succ n ih => rw [List.replicate_succ, characters, character_invalid, ih, List.replicate_succ]

end Utf8

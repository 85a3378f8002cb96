import PartnerPortal.Lib.Reader
import PartnerPortal.Lib.Utf8

/-!
# Text that arrives in pieces

The characters of bytes that are cut anywhere: one whose bytes are not all there yet waits for them.

Results:
- `character_of_now` — a character that does not wait is the one of the whole text;
- `read_ascii` — bytes below 128 never wait.
-/

namespace Utf8

/-- The rest of a character, where the bytes at hand tell it. -/
def completeNow : Nat → Nat → List UInt8 → Option (Char × List UInt8)
  | 0, code, rest => some (Char.ofNat code, rest)
  | _ + 1, _, [] => none
  | missing + 1, code, b :: rest =>
    if continues b then completeNow missing (code * 64 + (b.toNat - 0x80)) rest
    else some (replacement, b :: rest)

/-- The same, where the second byte depends on the first. -/
def completeAfterNow (first : UInt8) (missing code : Nat) : List UInt8 → Option (Char × List UInt8)
  | [] => none
  | b :: rest =>
    if follows first b then completeNow missing code (b :: rest)
    else some (replacement, b :: rest)

/-- The character that a byte begins, where the bytes at hand tell it. -/
def characterNow (first : UInt8) (rest : List UInt8) : Option (Char × List UInt8) :=
  if first < 0x80 then some (Char.ofNat first.toNat, rest)
  else if 0xC2 ≤ first && first ≤ 0xDF then completeNow 1 (first.toNat - 0xC0) rest
  else if 0xE0 ≤ first && first ≤ 0xEF then completeAfterNow first 2 (first.toNat - 0xE0) rest
  else if 0xF0 ≤ first && first ≤ 0xF4 then completeAfterNow first 3 (first.toNat - 0xF0) rest
  else some (replacement, rest)

variable {first : UInt8} {missing code : Nat} {rest : List UInt8} {taken : Char × List UInt8}

/-! ## A character that does not wait is the one of the whole text -/

theorem complete_of_now (h : completeNow missing code rest = some taken) :
    complete missing code rest = taken := by
  induction missing generalizing code rest with
  | zero => exact Option.some.inj h
  | succ missing ih =>
    cases rest with
    | nil => cases h
    | cons b rest =>
      rw [completeNow] at h
      rw [complete]
      split at h
      · rename_i hcontinues
        rw [if_pos hcontinues]
        exact ih h
      · rename_i hcontinues
        rw [if_neg hcontinues]
        exact Option.some.inj h

theorem completeAfter_of_now (h : completeAfterNow first missing code rest = some taken) :
    completeAfter first missing code rest = taken := by
  cases rest with
  | nil => cases h
  | cons b rest =>
    rw [completeAfterNow] at h
    rw [completeAfter]
    split at h
    · rename_i hfollows
      rw [if_pos hfollows]
      exact complete_of_now h
    · rename_i hfollows
      rw [if_neg hfollows]
      exact Option.some.inj h

theorem character_of_now (h : characterNow first rest = some taken) :
    character first rest = taken := by
  unfold characterNow at h
  unfold character
  split at h
  · rename_i hascii
    rw [if_pos hascii]
    exact Option.some.inj h
  · rename_i hascii
    rw [if_neg hascii]
    split at h
    · rename_i htwo
      rw [if_pos htwo]
      exact complete_of_now h
    · rename_i htwo
      rw [if_neg htwo]
      split at h
      · rename_i hthree
        rw [if_pos hthree]
        exact completeAfter_of_now h
      · rename_i hthree
        rw [if_neg hthree]
        split at h
        · rename_i hfour
          rw [if_pos hfour]
          exact completeAfter_of_now h
        · rename_i hfour
          rw [if_neg hfour]
          exact Option.some.inj h

/-! ## What arrives later does not change it -/

theorem completeNow_append (h : completeNow missing code rest = some taken) (more : List UInt8) :
    completeNow missing code (rest ++ more) = some (taken.1, taken.2 ++ more) := by
  induction missing generalizing code rest with
  | zero =>
    cases h
    rfl
  | succ missing ih =>
    cases rest with
    | nil => cases h
    | cons b rest =>
      rw [completeNow] at h
      rw [List.cons_append, completeNow]
      split at h
      · rename_i hcontinues
        rw [if_pos hcontinues]
        exact ih h
      · rename_i hcontinues
        rw [if_neg hcontinues]
        cases h
        rfl

theorem completeAfterNow_append (h : completeAfterNow first missing code rest = some taken)
    (more : List UInt8) :
    completeAfterNow first missing code (rest ++ more) = some (taken.1, taken.2 ++ more) := by
  cases rest with
  | nil => cases h
  | cons b rest =>
    rw [completeAfterNow] at h
    rw [List.cons_append, completeAfterNow]
    split at h
    · rename_i hfollows
      rw [if_pos hfollows]
      exact completeNow_append h more
    · rename_i hfollows
      rw [if_neg hfollows]
      cases h
      rfl

theorem characterNow_append (h : characterNow first rest = some taken) (more : List UInt8) :
    characterNow first (rest ++ more) = some (taken.1, taken.2 ++ more) := by
  unfold characterNow at h ⊢
  split at h
  · cases h
    rename_i hascii
    rw [if_pos hascii]
  · rename_i hascii
    rw [if_neg hascii]
    split at h
    · rename_i htwo
      rw [if_pos htwo]
      exact completeNow_append h more
    · rename_i htwo
      rw [if_neg htwo]
      split at h
      · rename_i hthree
        rw [if_pos hthree]
        exact completeAfterNow_append h more
      · rename_i hthree
        rw [if_neg hthree]
        split at h
        · rename_i hfour
          rw [if_pos hfour]
          exact completeAfterNow_append h more
        · rename_i hfour
          rw [if_neg hfour]
          cases h
          rfl

/-! ## The reader -/

def takeCharacter : List UInt8 → Option (Char × List UInt8)
  | [] => none
  | first :: rest => characterNow first rest

/-- A text that arrives in pieces. -/
def reader : Reader UInt8 Char where
  take := takeCharacter
  length_lt := by
    intro xs rest unit h
    cases xs with
    | nil => cases h
    | cons first xs =>
      have hrest : (character first xs).2 = rest := congrArg Prod.snd (character_of_now h)
      exact hrest ▸ Nat.lt_succ_of_le (character_suffix first xs).length_le
  append := by
    intro xs rest unit more h
    cases xs with
    | nil => cases h
    | cons first xs => exact characterNow_append h more

/-- Bytes below 128 never wait. -/
theorem read_ascii {bytes : List UInt8} (h : ∀ b ∈ bytes, b < 0x80) :
    reader.read bytes = (bytes.map fun b => Char.ofNat b.toNat, []) := by
  induction bytes with
  | nil => rfl
  | cons b bytes ih =>
    have htake : reader.take (b :: bytes) = some (Char.ofNat b.toNat, bytes) :=
      if_pos (h b List.mem_cons_self)
    rw [Reader.read_some htake, ih fun c hc => h c (List.mem_cons_of_mem b hc), List.map_cons]

end Utf8

import Mathlib.Algebra.Ring.Nat
import Mathlib.Tactic.Common

/-!
# Unpadded URL-safe base64

Three bytes are four characters of six bits each, and a last group of one or two bytes is two or
three of them.  The decoder keeps what bits it has not used yet, and accepts canonical texts only.

Results:
- `decode_eq_some_iff` — a text decodes to some bytes exactly when it is their encoding.
-/

namespace Base64url

def alphabet : List Char :=
  "ABCDEFGHIJKLMNOPQRSTUVWXYZabcdefghijklmnopqrstuvwxyz0123456789-_".toList

/-- The character of six bits. -/
def sextet (value : Nat) : Char := alphabet.getD (value % 64) 'A'

/-- The six bits of a character. -/
def valueOf (c : Char) : Option Nat :=
  if c ∈ alphabet then some (alphabet.idxOf c) else none

def encode : List UInt8 → List Char
  | [] => []
  | [b0] =>
    let n := b0.toNat * 65536
    [sextet (n / 262144), sextet (n / 4096)]
  | [b0, b1] =>
    let n := b0.toNat * 65536 + b1.toNat * 256
    [sextet (n / 262144), sextet (n / 4096), sextet (n / 64)]
  | b0 :: b1 :: b2 :: rest =>
    let n := b0.toNat * 65536 + b1.toNat * 256 + b2.toNat
    sextet (n / 262144) :: sextet (n / 4096) :: sextet (n / 64) :: sextet n :: encode rest

/-- The decoder's state: a 32-bit accumulator and how many of its low bits were not used yet. -/
structure Pending where
  accumulator : Nat
  bits : Nat
deriving Repr, DecidableEq

/-- Six more bits, and the byte they complete. -/
def Pending.push (p : Pending) (value : Nat) : Pending × List UInt8 :=
  let accumulator := (p.accumulator * 64 + value) % 4294967296
  if 8 ≤ p.bits + 6 then
    ({ accumulator := accumulator, bits := p.bits + 6 - 8 },
      [UInt8.ofNat (accumulator / 2 ^ (p.bits + 6 - 8))])
  else ({ accumulator := accumulator, bits := p.bits + 6 }, [])

/-- What is left over is less than a character, and zero. -/
def Pending.canonical (p : Pending) : Bool := p.bits < 6 && p.accumulator % 2 ^ p.bits == 0

def decodeFrom (p : Pending) : List Char → Option (List UInt8)
  | [] => if p.canonical then some [] else none
  | c :: text => do
    let value ← valueOf c
    let rest ← decodeFrom (p.push value).1 text
    return (p.push value).2 ++ rest

def decode (text : List Char) : Option (List UInt8) :=
  decodeFrom { accumulator := 0, bits := 0 } text

example : encode [0xfb, 0xff, 0xbf] = "-_-_".toList := by decide +kernel
example : decode "Zm9vYg".toList = some [102, 111, 111, 98] := by decide +kernel
example : decode "Zh".toList = none := by decide +kernel

/-! ## Characters -/

theorem valueOf_sextet (value : Nat) : valueOf (sextet value) = some (value % 64) := by
  have hall : ∀ v < 64, valueOf (alphabet.getD v 'A') = some v := by decide +kernel
  exact hall (value % 64) (Nat.mod_lt value (by decide))

theorem valueOf_eq_some {c : Char} {value : Nat} (h : valueOf c = some value) :
    value < 64 ∧ c = sextet value := by
  unfold valueOf at h
  split at h
  · rename_i hmem
    cases h
    have hlt := List.idxOf_lt_length_of_mem hmem
    have hlength : alphabet.length = 64 := by decide
    have hmod : alphabet.idxOf c % 64 = alphabet.idxOf c := Nat.mod_eq_of_lt (hlength ▸ hlt)
    refine ⟨hlength ▸ hlt, ?_⟩
    rw [sextet, hmod, List.getD_eq_getElem?_getD, List.getElem?_eq_getElem hlt, List.getElem_idxOf hlt]
    rfl
  · cases h

/-! ## Groups -/

theorem decodeFrom_cons {p : Pending} {c : Char} {value : Nat} (h : valueOf c = some value)
    (text : List Char) : decodeFrom p (c :: text) =
      (decodeFrom (p.push value).1 text).map ((p.push value).2 ++ ·) := by
  rw [decodeFrom, h]
  show (decodeFrom (p.push value).1 text >>= fun rest => pure ((p.push value).2 ++ rest)) = _
  cases decodeFrom (p.push value).1 text <;> rfl

theorem push_pending {acc bits value : Nat} (h : bits + 6 < 8) :
    ({ accumulator := acc, bits := bits } : Pending).push value =
      ({ accumulator := (acc * 64 + value) % 4294967296, bits := bits + 6 }, []) := by
  rw [Pending.push, if_neg (Nat.not_le.2 h)]

theorem push_byte {acc bits value byte : Nat} (h : 8 ≤ bits + 6)
    (heq : (acc * 64 + value) % 4294967296 / 2 ^ (bits + 6 - 8) % 256 = byte) :
    ({ accumulator := acc, bits := bits } : Pending).push value =
      ({ accumulator := (acc * 64 + value) % 4294967296, bits := bits + 6 - 8 },
        [UInt8.ofNat byte]) := by
  rw [Pending.push, if_pos h]
  dsimp only
  rw [← heq, UInt8.ofNat_mod_size]

theorem decodeFrom_sextet {acc bits value : Nat} (hvalue : value < 64) (text : List Char) :
    decodeFrom { accumulator := acc, bits := bits } (sextet value :: text) =
      (decodeFrom (({ accumulator := acc, bits := bits } : Pending).push value).1 text).map
        ((({ accumulator := acc, bits := bits } : Pending).push value).2 ++ ·) :=
  decodeFrom_cons (by rw [valueOf_sextet, Nat.mod_eq_of_lt hvalue]) text

/-- The first two characters of a group. -/
theorem decodeFrom_two {acc a b : Nat} (ha : a < 64) (hb : b < 64) (text : List Char) :
    ∃ acc', acc' % 16 = b % 16 ∧
      decodeFrom { accumulator := acc, bits := 0 } (sextet a :: sextet b :: text) =
        (decodeFrom { accumulator := acc', bits := 4 } text).map
          ([UInt8.ofNat (a * 4 + b / 16)] ++ ·) := by
  refine ⟨((acc * 64 + a) % 4294967296 * 64 + b) % 4294967296, by omega, ?_⟩
  rw [decodeFrom_sextet ha, push_pending (by omega)]
  dsimp only
  rw [decodeFrom_sextet hb, @push_byte _ _ _ (a * 4 + b / 16) (by omega) (by omega)]
  cases decodeFrom _ text <;> rfl

/-- The third character of a group. -/
theorem decodeFrom_third {acc b c : Nat} (hacc : acc % 16 = b % 16) (hc : c < 64)
    (text : List Char) : ∃ acc', acc' % 4 = c % 4 ∧
      decodeFrom { accumulator := acc, bits := 4 } (sextet c :: text) =
        (decodeFrom { accumulator := acc', bits := 2 } text).map
          ([UInt8.ofNat (b % 16 * 16 + c / 4)] ++ ·) := by
  refine ⟨(acc * 64 + c) % 4294967296, by omega, ?_⟩
  rw [decodeFrom_sextet hc, @push_byte _ _ _ (b % 16 * 16 + c / 4) (by omega) (by omega)]

/-- The last character of a group.  What it leaves in the accumulator is not looked at again. -/
theorem decodeFrom_fourth {acc c d : Nat} (hacc : acc % 4 = c % 4) (hd : d < 64)
    (text : List Char) : ∃ acc',
      decodeFrom { accumulator := acc, bits := 2 } (sextet d :: text) =
        (decodeFrom { accumulator := acc', bits := 0 } text).map
          ([UInt8.ofNat (c % 4 * 64 + d)] ++ ·) := by
  refine ⟨(acc * 64 + d) % 4294967296, ?_⟩
  rw [decodeFrom_sextet hd, @push_byte _ _ _ (c % 4 * 64 + d) (by omega) (by omega)]

/-- The three bytes of a whole group. -/
theorem decodeFrom_group {acc a b c d : Nat} (ha : a < 64) (hb : b < 64) (hc : c < 64) (hd : d < 64)
    (text : List Char) : ∃ acc', decodeFrom { accumulator := acc, bits := 0 }
      (sextet a :: sextet b :: sextet c :: sextet d :: text) =
      (decodeFrom { accumulator := acc', bits := 0 } text).map
        ([UInt8.ofNat (a * 4 + b / 16), UInt8.ofNat (b % 16 * 16 + c / 4),
          UInt8.ofNat (c % 4 * 64 + d)] ++ ·) := by
  obtain ⟨acc₁, h₁, htwo⟩ := @decodeFrom_two acc a b ha hb (sextet c :: sextet d :: text)
  obtain ⟨acc₂, h₂, hthird⟩ := @decodeFrom_third acc₁ b c h₁ hc (sextet d :: text)
  obtain ⟨acc₃, hfourth⟩ := @decodeFrom_fourth acc₂ c d h₂ hd text
  refine ⟨acc₃, ?_⟩
  rw [htwo, hthird, hfourth]
  cases decodeFrom _ text <;> rfl

theorem decodeFrom_nil (acc bits : Nat) :
    decodeFrom { accumulator := acc, bits := bits } [] =
      if bits < 6 ∧ acc % 2 ^ bits = 0 then some [] else none := by
  simp only [decodeFrom, Pending.canonical, Bool.and_eq_true, decide_eq_true_eq, beq_iff_eq]

/-! ## Whole texts -/

theorem sextet_congr {a b : Nat} (h : a % 64 = b % 64) : sextet a = sextet b := by
  rw [sextet, sextet, h]

theorem encode_one (b0 : UInt8) :
    encode [b0] = [sextet (b0.toNat / 4), sextet (b0.toNat % 4 * 16)] := by
  rw [encode, @sextet_congr (b0.toNat * 65536 / 262144) (b0.toNat / 4) (by omega),
    @sextet_congr (b0.toNat * 65536 / 4096) (b0.toNat % 4 * 16) (by omega)]

theorem encode_two (b0 b1 : UInt8) :
    encode [b0, b1] = [sextet (b0.toNat / 4), sextet (b0.toNat % 4 * 16 + b1.toNat / 16),
      sextet (b1.toNat % 16 * 4)] := by
  have h1 := b1.toNat_lt
  rw [encode, @sextet_congr ((b0.toNat * 65536 + b1.toNat * 256) / 262144) (b0.toNat / 4) (by omega),
    @sextet_congr ((b0.toNat * 65536 + b1.toNat * 256) / 4096)
      (b0.toNat % 4 * 16 + b1.toNat / 16) (by omega),
    @sextet_congr ((b0.toNat * 65536 + b1.toNat * 256) / 64) (b1.toNat % 16 * 4) (by omega)]

theorem encode_three (b0 b1 b2 : UInt8) (rest : List UInt8) :
    encode (b0 :: b1 :: b2 :: rest) = sextet (b0.toNat / 4) ::
      sextet (b0.toNat % 4 * 16 + b1.toNat / 16) :: sextet (b1.toNat % 16 * 4 + b2.toNat / 64) ::
        sextet (b2.toNat % 64) :: encode rest := by
  have h1 := b1.toNat_lt
  have h2 := b2.toNat_lt
  rw [encode, @sextet_congr ((b0.toNat * 65536 + b1.toNat * 256 + b2.toNat) / 262144) (b0.toNat / 4)
      (by omega),
    @sextet_congr ((b0.toNat * 65536 + b1.toNat * 256 + b2.toNat) / 4096)
      (b0.toNat % 4 * 16 + b1.toNat / 16) (by omega),
    @sextet_congr ((b0.toNat * 65536 + b1.toNat * 256 + b2.toNat) / 64)
      (b1.toNat % 16 * 4 + b2.toNat / 64) (by omega),
    @sextet_congr (b0.toNat * 65536 + b1.toNat * 256 + b2.toNat) (b2.toNat % 64) (by omega)]

theorem ofNat_eq {n : Nat} {b : UInt8} (h : n = b.toNat) : UInt8.ofNat n = b := by
  rw [h, UInt8.ofNat_toNat]

/-- What was encoded is decoded again. -/
theorem decodeFrom_encode (bytes : List UInt8) (acc : Nat) :
    decodeFrom { accumulator := acc, bits := 0 } (encode bytes) = some bytes := by
  induction bytes using encode.induct generalizing acc with
  | case1 => rw [encode, decodeFrom_nil, if_pos ⟨by decide, Nat.mod_one _⟩]
  | case2 b0 =>
    have h0 := b0.toNat_lt
    obtain ⟨acc', hacc, htwo⟩ :=
      @decodeFrom_two acc (b0.toNat / 4) (b0.toNat % 4 * 16) (by omega) (by omega) []
    rw [encode_one, htwo, decodeFrom_nil, if_pos ⟨by decide, by omega⟩, @ofNat_eq _ b0 (by omega)]
    rfl
  | case3 b0 b1 =>
    have h0 := b0.toNat_lt
    have h1 := b1.toNat_lt
    obtain ⟨acc₁, hacc₁, htwo⟩ := @decodeFrom_two acc (b0.toNat / 4)
      (b0.toNat % 4 * 16 + b1.toNat / 16) (by omega) (by omega) [sextet (b1.toNat % 16 * 4)]
    obtain ⟨acc₂, hacc₂, hthird⟩ := @decodeFrom_third acc₁ _ (b1.toNat % 16 * 4) hacc₁ (by omega) []
    rw [encode_two, htwo, hthird, decodeFrom_nil, if_pos ⟨by decide, by omega⟩,
      @ofNat_eq _ b0 (by omega), @ofNat_eq _ b1 (by omega)]
    rfl
  | case4 b0 b1 b2 rest ih =>
    have h0 := b0.toNat_lt
    have h1 := b1.toNat_lt
    have h2 := b2.toNat_lt
    obtain ⟨acc', hgroup⟩ := @decodeFrom_group acc (b0.toNat / 4)
      (b0.toNat % 4 * 16 + b1.toNat / 16) (b1.toNat % 16 * 4 + b2.toNat / 64) (b2.toNat % 64)
      (by omega) (by omega) (by omega) (by omega) (encode rest)
    rw [encode_three, hgroup, ih, @ofNat_eq _ b0 (by omega), @ofNat_eq _ b1 (by omega),
      @ofNat_eq _ b2 (by omega)]
    rfl

/-- Every character of a text that decodes is one of the alphabet. -/
theorem decodeFrom_some_cons {p : Pending} {c : Char} {text : List Char} {bytes : List UInt8}
    (h : decodeFrom p (c :: text) = some bytes) : ∃ value, value < 64 ∧ c = sextet value ∧
      ∃ rest, decodeFrom (p.push value).1 text = some rest := by
  rw [decodeFrom] at h
  cases hvalue : valueOf c with
  | none =>
    rw [hvalue] at h
    cases h
  | some value =>
    rw [hvalue] at h
    obtain ⟨hlt, hc⟩ := valueOf_eq_some hvalue
    change (decodeFrom (p.push value).1 text >>= fun rest => pure ((p.push value).2 ++ rest)) = _ at h
    cases hrest : decodeFrom (p.push value).1 text with
    | none =>
      rw [hrest] at h
      cases h
    | some rest => exact ⟨value, hlt, hc, rest, hrest⟩

theorem toNat_ofNat {n : Nat} (h : n < 256) : (UInt8.ofNat n).toNat = n := by
  rw [UInt8.toNat_ofNat', Nat.mod_eq_of_lt h]

/-- Only an encoding decodes. -/
theorem eq_encode_of_decodeFrom : ∀ (text : List Char) (acc : Nat) (bytes : List UInt8),
    decodeFrom { accumulator := acc, bits := 0 } text = some bytes → text = encode bytes
  | [], acc, bytes, h => by
    rw [decodeFrom_nil, if_pos ⟨by decide, Nat.mod_one _⟩] at h
    cases h
    rfl
  | [c], acc, bytes, h => by
    obtain ⟨a, -, -, rest, hrest⟩ := decodeFrom_some_cons h
    -- one character is six bits and no byte: the length is impossible
    rw [push_pending (by decide), decodeFrom_nil, if_neg (by simp)] at hrest
    cases hrest
  | [c, d], acc, bytes, h => by
    obtain ⟨a, ha, rfl, rest, hrest⟩ := decodeFrom_some_cons h
    obtain ⟨b, hb, rfl, -⟩ := decodeFrom_some_cons hrest
    obtain ⟨acc', hacc, htwo⟩ := @decodeFrom_two acc a b ha hb []
    rw [htwo, decodeFrom_nil] at h
    split at h
    · -- two characters are a byte if the four bits left over are zero
      rename_i hzero
      cases h
      have h0 := @toNat_ofNat (a * 4 + b / 16) (by omega)
      show _ = encode [_]
      rw [encode_one, h0, @sextet_congr ((a * 4 + b / 16) / 4) a (by omega),
        @sextet_congr ((a * 4 + b / 16) % 4 * 16) b (by omega)]
    · cases h
  | [c, d, e], acc, bytes, h => by
    obtain ⟨a, ha, rfl, rest, hrest⟩ := decodeFrom_some_cons h
    obtain ⟨b, hb, rfl, rest, hrest⟩ := decodeFrom_some_cons hrest
    obtain ⟨f, hf, rfl, -⟩ := decodeFrom_some_cons hrest
    obtain ⟨acc₁, hacc₁, htwo⟩ := @decodeFrom_two acc a b ha hb [sextet f]
    obtain ⟨acc₂, hacc₂, hthird⟩ := @decodeFrom_third acc₁ b f hacc₁ hf []
    rw [htwo, hthird, decodeFrom_nil] at h
    split at h
    · -- three are two bytes if the two bits left over are zero
      rename_i hzero
      cases h
      have h0 := @toNat_ofNat (a * 4 + b / 16) (by omega)
      have h1 := @toNat_ofNat (b % 16 * 16 + f / 4) (by omega)
      show _ = encode [_, _]
      rw [encode_two, h0, h1,
        @sextet_congr ((a * 4 + b / 16) / 4) a (by omega),
        @sextet_congr ((a * 4 + b / 16) % 4 * 16 + (b % 16 * 16 + f / 4) / 16) b (by omega),
        @sextet_congr ((b % 16 * 16 + f / 4) % 16 * 4) f (by omega)]
    · cases h
  | c :: d :: e :: g :: text, acc, bytes, h => by
    obtain ⟨a, ha, rfl, rest, hrest⟩ := decodeFrom_some_cons h
    obtain ⟨b, hb, rfl, rest, hrest⟩ := decodeFrom_some_cons hrest
    obtain ⟨f, hf, rfl, rest, hrest⟩ := decodeFrom_some_cons hrest
    obtain ⟨k, hk, rfl, -⟩ := decodeFrom_some_cons hrest
    -- four leave nothing over, and the accumulator's high bits are shed
    obtain ⟨acc', hgroup⟩ := @decodeFrom_group acc a b f k ha hb hf hk text
    rw [hgroup] at h
    obtain ⟨rest, hrest, rfl⟩ := Option.map_eq_some_iff.1 h
    have h0 := @toNat_ofNat (a * 4 + b / 16) (by omega)
    have h1 := @toNat_ofNat (b % 16 * 16 + f / 4) (by omega)
    have h2 := @toNat_ofNat (f % 4 * 64 + k) (by omega)
    show _ = encode (_ :: _ :: _ :: rest)
    rw [encode_three, h0, h1, h2, ← eq_encode_of_decodeFrom text acc' rest hrest,
      @sextet_congr ((a * 4 + b / 16) / 4) a (by omega),
      @sextet_congr ((a * 4 + b / 16) % 4 * 16 + (b % 16 * 16 + f / 4) / 16) b (by omega),
      @sextet_congr ((b % 16 * 16 + f / 4) % 16 * 4 + (f % 4 * 64 + k) / 64) f (by omega),
      @sextet_congr ((f % 4 * 64 + k) % 64) k (by omega)]

/-- A text decodes to some bytes exactly when it is their encoding. -/
theorem decode_eq_some_iff {text : List Char} {bytes : List UInt8} :
    decode text = some bytes ↔ text = encode bytes := by
  constructor
  · exact eq_encode_of_decodeFrom text 0 bytes
  · rintro rfl
    exact decodeFrom_encode bytes 0

/-- Every character of an encoding is one of the alphabet. -/
theorem encode_subset (bytes : List UInt8) : ∀ c ∈ encode bytes, c ∈ alphabet := by
  have hsextet : ∀ value, sextet value ∈ alphabet := by
    intro value
    have hvalue := valueOf_sextet value
    unfold valueOf at hvalue
    split at hvalue
    · assumption
    · cases hvalue
  induction bytes using encode.induct with
  | case1 => simp [encode]
  | case2 b0 => simp [encode, hsextet]
  | case3 b0 b1 => simp [encode, hsextet]
  | case4 b0 b1 b2 rest ih =>
    intro c hc
    rw [encode_three] at hc
    simp only [List.mem_cons] at hc
    rcases hc with rfl | rfl | rfl | rfl | hc
    · exact hsextet _
    · exact hsextet _
    · exact hsextet _
    · exact hsextet _
    · exact ih c hc

end Base64url

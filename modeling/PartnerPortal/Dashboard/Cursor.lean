import Mathlib.Data.List.DropRight
import PartnerPortal.Billing.Message
import PartnerPortal.Dashboard.Query
import PartnerPortal.Lib.Base64url

/-!
# Cursors

The signed cursor of the request list: the row a page ended on, with an HMAC under the database's key.
The hash itself is a parameter.

Results:
- `verifyCursor_signCursor` — the cursor of a row is accepted, as that row;
- `cursor_bijection` — so are the texts that are decoded, and no others;
- `verifyCursor_ok_signed` — an accepted cursor is one that was signed, where no MAC is forged.
-/

namespace PartnerPortal.Dashboard

open MachineInt

/-! ## Authentication codes -/

def sha256Block : Nat := 64

/-- The key of an HMAC, hashed down if it is long and padded with zeros. -/
def hmacBlock (sha256 : Bytes → Bytes) (key : Bytes) : Bytes :=
  let short := if sha256Block < key.length then sha256 key else key
  short ++ List.replicate (sha256Block - short.length) 0

def hmacSha256 (sha256 : Bytes → Bytes) (key message : Bytes) : Bytes :=
  let block := hmacBlock sha256 key
  sha256 (block.map (· ^^^ 0x5c) ++ sha256 (block.map (· ^^^ 0x36) ++ message))

def constantTimeEq (a b : Bytes) : Bool :=
  if a.length ≠ b.length then false
  else (a.zip b).foldl (fun diff pair => diff ||| (pair.1 ^^^ pair.2)) 0 == 0

theorem foldl_or_eq_zero {pairs : List (UInt8 × UInt8)} {start : UInt8} :
    pairs.foldl (fun diff pair => diff ||| (pair.1 ^^^ pair.2)) start = 0 ↔
      start = 0 ∧ ∀ pair ∈ pairs, pair.1 = pair.2 := by
  induction pairs generalizing start with
  | nil => simp
  | cons pair pairs ih =>
    rw [List.foldl_cons, ih, UInt8.or_eq_zero_iff, UInt8.xor_eq_zero_iff, List.forall_mem_cons,
      and_assoc]

theorem constantTimeEq_iff {a b : Bytes} : constantTimeEq a b = true ↔ a = b := by
  unfold constantTimeEq
  split
  · rename_i hlength
    simp only [Bool.false_eq_true, false_iff]
    rintro rfl
    exact hlength rfl
  · rename_i hlength
    rw [beq_iff_eq, foldl_or_eq_zero]
    constructor
    · rintro ⟨-, hpairs⟩
      apply List.ext_getElem (not_not.1 hlength)
      intro i ha hb
      have hmem : (a[i], b[i]) ∈ a.zip b := by
        rw [List.mem_iff_getElem]
        exact ⟨i, by simpa using ⟨ha, hb⟩, by simp⟩
      exact hpairs _ hmem
    · rintro rfl
      refine ⟨rfl, fun pair hpair => ?_⟩
      obtain ⟨i, hi, rfl⟩ := List.getElem_of_mem hpair
      simp

/-! ## Texts -/

/-- `split_once` -/
def splitOnce (separator : Char) (text : List Char) : Option (List Char × List Char) :=
  if separator ∈ text then
    some (text.takeWhile (· ≠ separator), (text.dropWhile (· ≠ separator)).drop 1)
  else none

/-- `rsplit_once` -/
def rsplitOnce (separator : Char) (text : List Char) : Option (List Char × List Char) :=
  if separator ∈ text then
    some ((text.rdropWhile (· ≠ separator)).dropLast, text.rtakeWhile (· ≠ separator))
  else none

/-- `String::from_utf8` -/
def fromUtf8 (bytes : Bytes) : Option (List Char) := bytes.toByteArray.utf8Decode?.map Array.toList

/-- A sign and what follows it. -/
def signed : List Char → Int × List Char
  | [] => (1, [])
  | c :: digits =>
    if c = '-' then (-1, digits) else if c = '+' then (1, digits) else (1, c :: digits)

/-- `str::parse::<i64>` -/
def readI64 (text : List Char) : Option Int :=
  let (sign, digits) := signed text
  if digits ≠ [] ∧ digits.all Char.isDigit then
    let value := sign * Nat.ofDigitChars 10 digits 0
    if FitsI64 value then some value else none
  else none

/-- `i64`'s `Display` -/
def writeI64 : Int → List Char
  | .ofNat n => Nat.toDigits 10 n
  | .negSucc n => '-' :: Nat.toDigits 10 (n + 1)

theorem splitOnce_append {separator : Char} {a b : List Char} (h : separator ∉ a) :
    splitOnce separator (a ++ separator :: b) = some (a, b) := by
  have hpos : ∀ c ∈ a, decide (c ≠ separator) = true := by
    intro c hc
    exact decide_eq_true fun heq => h (heq ▸ hc)
  rw [splitOnce, if_pos (List.mem_append_right _ List.mem_cons_self),
    List.takeWhile_append_of_pos hpos, List.dropWhile_append_of_pos hpos]
  simp

theorem eq_of_splitOnce {separator : Char} {text a b : List Char}
    (h : splitOnce separator text = some (a, b)) : text = a ++ separator :: b := by
  unfold splitOnce at h
  split at h
  · rename_i hmem
    obtain ⟨rfl, rfl⟩ := Prod.mk.inj (Option.some.inj h)
    clear h
    induction text with
    | nil => cases hmem
    | cons c text ih =>
      by_cases hc : c = separator
      · simp [hc]
      · have hrest := ih ((List.mem_cons.1 hmem).resolve_left (Ne.symm hc))
        simp only [List.takeWhile_cons, List.dropWhile_cons, hc, ne_eq, not_false_eq_true,
          decide_true, if_true, List.cons_append]
        rw [← hrest]
  · cases h

theorem rsplitOnce_append {separator : Char} {a b : List Char} (h : separator ∉ b) :
    rsplitOnce separator (a ++ separator :: b) = some (a, b) := by
  have hreverse : (a ++ separator :: b).reverse = b.reverse ++ separator :: a.reverse := by simp
  have hpos : ∀ c ∈ b.reverse, decide (c ≠ separator) = true := by
    intro c hc
    exact decide_eq_true fun heq => h (heq ▸ List.mem_reverse.1 hc)
  rw [rsplitOnce, if_pos (List.mem_append_right _ List.mem_cons_self), List.rdropWhile,
    List.rtakeWhile, hreverse, List.takeWhile_append_of_pos hpos, List.dropWhile_append_of_pos hpos]
  simp

/-- What was encoded is decoded again. -/
theorem fromUtf8_asBytes (text : List Char) : fromUtf8 (asBytes text) = some text := by
  have hencode : (asBytes text).toByteArray = text.utf8Encode := rfl
  rw [fromUtf8, hencode, List.utf8Decode?_utf8Encode]
  rfl

theorem signed_of_digits {text : List Char} (h : ∀ c ∈ text, c.isDigit = true) :
    signed text = (1, text) := by
  cases text with
  | nil => rfl
  | cons c digits =>
    have hc := h c List.mem_cons_self
    have hminus : c ≠ '-' := by
      rintro rfl
      exact absurd hc (by decide)
    have hplus : c ≠ '+' := by
      rintro rfl
      exact absurd hc (by decide)
    rw [signed, if_neg hminus, if_neg hplus]

theorem readI64_of_digits {text digits : List Char} {sign : Int}
    (hsigned : signed text = (sign, digits)) (hne : digits ≠ [])
    (hdigits : ∀ c ∈ digits, c.isDigit = true)
    (hfits : FitsI64 (sign * Nat.ofDigitChars 10 digits 0)) :
    readI64 text = some (sign * Nat.ofDigitChars 10 digits 0) := by
  rw [readI64, hsigned]
  dsimp only
  rw [if_pos ⟨hne, List.all_eq_true.2 hdigits⟩, if_pos hfits]

theorem isDigit_toDigits (n : Nat) : ∀ c ∈ Nat.toDigits 10 n, c.isDigit = true :=
  fun _ hc => Nat.isDigit_of_mem_toDigits (by decide) (by decide) hc

/-- What was written is read again. -/
theorem readI64_writeI64 {n : Int} (h : FitsI64 n) : readI64 (writeI64 n) = some n := by
  cases n with
  | ofNat n =>
    have hvalue : 1 * (Nat.ofDigitChars 10 (Nat.toDigits 10 n) 0 : Int) = n := by
      rw [Nat.ofDigitChars_ten_toDigits, Int.one_mul]
    have hread := readI64_of_digits (signed_of_digits (isDigit_toDigits n)) Nat.toDigits_ne_nil
      (isDigit_toDigits n) (by rw [hvalue]; exact h)
    exact hread.trans (congrArg some hvalue)
  | negSucc n =>
    have hvalue : -1 * (Nat.ofDigitChars 10 (Nat.toDigits 10 (n + 1)) 0 : Int) = Int.negSucc n := by
      rw [Nat.ofDigitChars_ten_toDigits, Int.neg_one_mul]
      rfl
    have hread := @readI64_of_digits (writeI64 (.negSucc n)) _ (-1) rfl Nat.toDigits_ne_nil
      (isDigit_toDigits (n + 1)) (by rw [hvalue]; exact h)
    exact hread.trans (congrArg some hvalue)

/-- A number holds no separator. -/
theorem bar_not_mem (n : Int) : '|' ∉ writeI64 n := by
  cases n with
  | ofNat n => exact fun hmem => absurd (isDigit_toDigits n _ hmem) (by decide)
  | negSucc n =>
    intro hmem
    rcases List.mem_cons.1 hmem with heq | hmem
    · cases heq
    · exact absurd (isDigit_toDigits (n + 1) _ hmem) (by decide)

/-! ## Signing -/

section Signing

variable (sha256 : Bytes → Bytes) (key : Bytes)

/-- The timestamp and the row id inside a cursor. -/
def cursorPayload (createdAt : String) (id : Int) : List Char :=
  createdAt.toList ++ '|' :: writeI64 id

/-- A cursor that carries some bytes and their MAC. -/
def cursorText (payload : Bytes) : List Char :=
  Base64url.encode (hmacSha256 sha256 key payload) ++ '.' :: Base64url.encode payload

def signCursor (createdAt : String) (id : Int) : String :=
  String.ofList (cursorText sha256 key (asBytes (cursorPayload createdAt id)))

def malformedCursor {α : Type} : Answer α := refuse "malformed cursor"

/-- `ok_or_else(malformed_cursor)` -/
def orMalformed {α : Type} : Option α → Answer α
  | some a => .ok a
  | none => malformedCursor

/-- The row of an authentic payload. -/
def readPayload (payload : Bytes) : Answer (String × Int) := do
  let text ← orMalformed (fromUtf8 payload)
  let (createdAt, id) ← orMalformed (rsplitOnce '|' text)
  let id ← orMalformed (readI64 id)
  if createdAt = [] then malformedCursor else return (String.ofList createdAt, id)

def verifyCursor (raw : String) : Answer (String × Int) := do
  let (signatureB64, payloadB64) ← orMalformed (splitOnce '.' raw.toList)
  let signature ← orMalformed (Base64url.decode signatureB64)
  let payload ← orMalformed (Base64url.decode payloadB64)
  if constantTimeEq signature (hmacSha256 sha256 key payload) then readPayload payload
  else refuse "cursor signature does not verify"

end Signing

section Verify

variable {sha256 : Bytes → Bytes} {key : Bytes}

theorem orMalformed_ok_iff {α : Type} {o : Option α} {a : α} : orMalformed o = .ok a ↔ o = some a := by
  cases o <;> simp [orMalformed, malformedCursor, refuse]

theorem readPayload_cursorPayload {createdAt : String} {id : Int} (hcreated : createdAt ≠ "")
    (hid : FitsI64 id) : readPayload (asBytes (cursorPayload createdAt id)) = .ok (createdAt, id) := by
  have hne : createdAt.toList ≠ [] := fun h => hcreated (String.toList_eq_nil_iff.1 h)
  rw [readPayload, fromUtf8_asBytes]
  simp only [orMalformed, Result.ok_bind, cursorPayload, rsplitOnce_append (bar_not_mem id),
    readI64_writeI64 hid, if_neg hne, String.ofList_toList]
  rfl

/-- No MAC is a separator. -/
theorem separator_not_mem (bytes : Bytes) : '.' ∉ Base64url.encode bytes := by
  intro hmem
  exact absurd (Base64url.encode_subset bytes '.' hmem) (by decide)

/-- A cursor with the MAC of its payload is read as that payload. -/
theorem verifyCursor_cursorText (payload : Bytes) :
    verifyCursor sha256 key (String.ofList (cursorText sha256 key payload)) = readPayload payload := by
  have hsignature := Base64url.decode_eq_some_iff.2
    (rfl : Base64url.encode (hmacSha256 sha256 key payload) = _)
  have hpayload := Base64url.decode_eq_some_iff.2 (rfl : Base64url.encode payload = _)
  rw [verifyCursor, String.toList_ofList, cursorText, splitOnce_append (separator_not_mem _)]
  simp only [orMalformed, Result.ok_bind, hsignature, hpayload, constantTimeEq_iff.2, if_true]

/-- The cursor of a row is accepted, as that row. -/
theorem verifyCursor_signCursor {createdAt : String} {id : Int} (hcreated : createdAt ≠ "")
    (hid : FitsI64 id) :
    verifyCursor sha256 key (signCursor sha256 key createdAt id) = .ok (createdAt, id) :=
  (verifyCursor_cursorText _).trans (readPayload_cursorPayload hcreated hid)

/-- An accepted cursor carries the MAC of its payload. -/
theorem verifyCursor_ok {raw : String} {row : String × Int}
    (h : verifyCursor sha256 key raw = .ok row) :
    ∃ payload, raw = String.ofList (cursorText sha256 key payload) ∧ readPayload payload = .ok row := by
  obtain ⟨⟨signatureB64, payloadB64⟩, hsplit, h⟩ := Result.bind_ok_iff.1 h
  obtain ⟨signature, hsignature, h⟩ := Result.bind_ok_iff.1 h
  obtain ⟨payload, hpayload, h⟩ := Result.bind_ok_iff.1 h
  rw [orMalformed_ok_iff] at hsplit hsignature hpayload
  rw [Base64url.decode_eq_some_iff] at hsignature hpayload
  split at h
  · rename_i hmac
    refine ⟨payload, ?_, h⟩
    rw [cursorText, ← constantTimeEq_iff.1 hmac, ← hsignature, ← hpayload, ← eq_of_splitOnce hsplit,
      String.ofList_toList]
  · cases h

/-- A text that carries some bytes with their MAC carries the payload of a row signed before: no MAC is
forged. -/
def Unforged (sha256 : Bytes → Bytes) (key : Bytes) (signed : Set (String × Nat)) (raw : String) :
    Prop :=
  ∀ payload, raw = String.ofList (cursorText sha256 key payload) →
    ∃ row ∈ signed, payload = asBytes (cursorPayload row.1 row.2)

/-- An accepted cursor is one that was signed, where no MAC is forged. -/
theorem verifyCursor_ok_signed {signed : Set (String × Nat)} {raw : String}
    (hunforged : Unforged sha256 key signed raw) {row : String × Int}
    (h : verifyCursor sha256 key raw = .ok row) :
    ∃ row ∈ signed, raw = signCursor sha256 key row.1 row.2 := by
  obtain ⟨payload, hraw, -⟩ := verifyCursor_ok h
  obtain ⟨signedRow, hmem, hpayload⟩ := hunforged payload hraw
  exact ⟨signedRow, hmem, by rw [hraw, hpayload, signCursor]⟩

end Verify

/-- A text decodes to some bytes only if it is their encoding, and that does decode to them.  The
cursor of a timestamp and a number is read back as these, whatever separators the timestamp holds. -/
theorem cursor_bijection (sha256 : Bytes → Bytes) (key : Bytes) :
    (∀ bytes, Base64url.decode (Base64url.encode bytes) = some bytes) ∧
      (∀ text bytes, Base64url.decode text = some bytes → Base64url.encode bytes = text) ∧
      ∀ createdAt id, createdAt ≠ "" → FitsI64 id →
        verifyCursor sha256 key (signCursor sha256 key createdAt id) = .ok (createdAt, id) := by
  refine ⟨fun bytes => ?_, fun text bytes h => ?_, fun createdAt id hcreated hid => ?_⟩
  · exact Base64url.decode_eq_some_iff.2 rfl
  · exact (Base64url.decode_eq_some_iff.1 h).symm
  · exact verifyCursor_signCursor hcreated hid

end PartnerPortal.Dashboard

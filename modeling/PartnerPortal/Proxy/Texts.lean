import PartnerPortal.Lib.Replace
import PartnerPortal.Lib.Utf8
import PartnerPortal.Proxy.Meter

/-!
# Texts from the upstream

What the proxy makes of a text an upstream chose before it stores it: a reason is scrubbed of
credentials, cut and rid of its control characters, and an error body is decoded and cut.

Results:
- `boundedErrorBody_whole` — a stored body without the mark is the whole body, decoded;
- `credential_in_sanitizeReason_iff` — a scrubbed reason holds a credential exactly when what is kept of
  it spells one between control characters.
-/

namespace PartnerPortal

open Replace

/-- The number of bytes of a text. -/
def utf8Length (text : List Char) : Nat := (text.map Char.utf8Size).sum

theorem utf8Length_append (front back : List Char) :
    utf8Length (front ++ back) = utf8Length front + utf8Length back := by
  simp [utf8Length]

/-! ## Credentials -/

def redacted : String := "<redacted>"

/-- Shortest value worth scrubbing out of recorded text, in bytes. -/
def minScrubbedSecretLen : Nat := 8

def redactCredential (out : List Char) (secret : String) : List Char :=
  if minScrubbedSecretLen ≤ utf8Length secret.toList ∧ secret.toList <:+: out then
    replaceAll secret.toList redacted.toList out
  else out

def redactCredentials (text : List Char) (credentials : List String) : List Char :=
  credentials.foldl redactCredential text

/-- `Config::credentials`: the upstream's key and the manager's password, where they are long
enough to be one. -/
def configCredentials (apiKey : String) (managerPassword : Option String) : List String :=
  (apiKey :: managerPassword.toList).filter fun secret =>
    minScrubbedSecretLen ≤ utf8Length secret.toList

/-! ## Reasons -/

def maxReasonChars : Nat := 512

def truncationMark : String := "… (truncated)"

/-- The Unicode category `Cc`. -/
def isControl (c : Char) : Bool := c.toNat < 0x20 || (0x7F ≤ c.toNat && c.toNat ≤ 0x9F)

/-- White space among the control characters becomes a space, and the rest of them is dropped. -/
def readable (c : Char) : Option Char :=
  if isControl c then if c = '\n' || c = '\r' || c = '\t' then some ' ' else none
  else some c

/-- What is kept of a scrubbed reason. -/
def keptReason (reason : List Char) (credentials : List String) : List Char :=
  (redactCredentials reason credentials).take maxReasonChars

def sanitizeReason (reason : String) (credentials : List String) : String :=
  let out := (keptReason reason.toList credentials).filterMap readable
  if maxReasonChars < (redactCredentials reason.toList credentials).length then
    String.ofList (out ++ truncationMark.toList)
  else String.ofList out

/-! ## Error bodies -/

def maxStoredErrorBody : Nat := 8 * 1024

/-- A prefix of so many bytes at most, cut between two characters. -/
def truncateUtf8 : Nat → List Char → List Char
  | _, [] => []
  | room, c :: text => if c.utf8Size ≤ room then c :: truncateUtf8 (room - c.utf8Size) text else []

/-- The decoded start of an error body. -/
def decodedErrorBody (body : Bytes) : List Char := Utf8.characters (body.take maxStoredErrorBody)

/-- A body is shortened when it is too long, or when its decoding is. -/
def errorBodyTruncated (body : Bytes) : Bool :=
  decide (maxStoredErrorBody < body.length) ||
    decide (maxStoredErrorBody < utf8Length (decodedErrorBody body))

def boundedErrorBody (body : Bytes) : String :=
  if errorBodyTruncated body then
    String.ofList (truncateUtf8 (maxStoredErrorBody - utf8Length truncationMark.toList)
      (decodedErrorBody body) ++ truncationMark.toList)
  else String.ofList (truncateUtf8 maxStoredErrorBody (decodedErrorBody body))

/-- Texts are made of an upstream's bytes as above. -/
def Reading.withTexts (reading : Reading) : Reading :=
  { reading with
    sanitizeReason := PartnerPortal.sanitizeReason,
    boundedErrorBody := PartnerPortal.boundedErrorBody }

/-- A text that fits is not cut. -/
theorem truncateUtf8_of_fits {room : Nat} {text : List Char} (h : utf8Length text ≤ room) :
    truncateUtf8 room text = text := by
  induction text generalizing room with
  | nil => cases room <;> rfl
  | cons c text ih =>
    have hlength : utf8Length (c :: text) = c.utf8Size + utf8Length text := by
      simp [utf8Length]
    rw [hlength] at h
    rw [truncateUtf8, if_pos (by omega), ih (by omega)]

/-- A stored body that was not shortened is the whole body, decoded. -/
theorem boundedErrorBody_of_fits {body : Bytes} (h : errorBodyTruncated body = false) :
    boundedErrorBody body = Utf8.fromUtf8Lossy body := by
  simp only [errorBodyTruncated, Bool.or_eq_false_iff, decide_eq_false_iff_not, not_lt] at h
  have hdecoded : decodedErrorBody body = Utf8.characters body := by
    rw [decodedErrorBody, List.take_of_length_le h.1]
  have htruncated : errorBodyTruncated body = false := by
    simp only [errorBodyTruncated, Bool.or_eq_false_iff, decide_eq_false_iff_not, not_lt]
    exact h
  rw [boundedErrorBody, htruncated, if_neg Bool.false_ne_true, truncateUtf8_of_fits h.2, hdecoded,
    Utf8.fromUtf8Lossy]

/-- A stored text with the mark of a shortened one. -/
def Marked (text : String) : Prop := truncationMark.toList <:+ text.toList

instance (text : String) : Decidable (Marked text) := by
  unfold Marked
  infer_instance

theorem boundedErrorBody_marked {body : Bytes} (h : errorBodyTruncated body = true) :
    Marked (boundedErrorBody body) := by
  rw [boundedErrorBody, if_pos h, Marked, String.toList_ofList]
  exact List.suffix_append _ _

/-- A stored body without the mark is the whole body, decoded. -/
theorem boundedErrorBody_whole {body : Bytes} (h : ¬ Marked (boundedErrorBody body)) :
    boundedErrorBody body = Utf8.fromUtf8Lossy body := by
  cases htruncated : errorBodyTruncated body with
  | true => exact absurd (boundedErrorBody_marked htruncated) h
  | false => exact boundedErrorBody_of_fits htruncated

/-! ## Credentials in a reason -/

/-- A scrubbed reason as far as it is kept, with the mark of a shortened one. -/
def markedReason (reason : List Char) (credentials : List String) : List Char :=
  if maxReasonChars < (redactCredentials reason credentials).length then
    keptReason reason credentials ++ truncationMark.toList
  else keptReason reason credentials

/-- A part of the text reads as the credential once its control characters are taken out. -/
def Spells (credential : String) (text : List Char) : Prop :=
  ∃ part, part <:+: text ∧ credential.toList = part.filterMap readable

instance (credential : String) (text : List Char) : Decidable (Spells credential text) :=
  decidable_of_iff (credential.toList <:+: text.filterMap readable) List.infix_filterMap_iff

theorem sanitizeReason_toList (reason : String) (credentials : List String) :
    (sanitizeReason reason credentials).toList =
      (markedReason reason.toList credentials).filterMap readable := by
  have hmark : truncationMark.toList.filterMap readable = truncationMark.toList := by decide
  unfold sanitizeReason markedReason
  dsimp only
  split
  · rw [String.toList_ofList, List.filterMap_append, hmark]
  · rw [String.toList_ofList]

/-- A stored reason holds a credential exactly when what was kept of it spells one. -/
theorem credential_in_sanitizeReason_iff {credential reason : String} {credentials : List String} :
    credential.toList <:+: (sanitizeReason reason credentials).toList ↔
      Spells credential (markedReason reason.toList credentials) := by
  rw [sanitizeReason_toList, List.infix_filterMap_iff, Spells]

/-- A credential that the proxy's own placeholder and mark neither hold nor help to spell. -/
def KeepsApart (credential : String) : Prop :=
  Apart redacted.toList credential.toList ∧ Apart truncationMark.toList credential.toList

instance (credential : String) : Decidable (KeepsApart credential) := by
  unfold KeepsApart
  infer_instance

/-- What is left of a list after some of its elements are taken out or replaced keeps apart from a
mark that stays as it is only if the list did. -/
theorem apart_of_filterMap {f : Char → Option Char} {mark part : List Char}
    (hmark : mark.filterMap f = mark) (hall : ∀ u, u <:+: mark → u.filterMap f = u)
    (h : Apart mark (part.filterMap f)) : Apart mark part where
  not_inside := fun hpart => h.not_inside (by rw [hall part hpart]; exact hpart)
  not_around := fun hpart => h.not_around (by
    rw [← hmark]
    exact hpart.filterMap f)
  not_before := by
    intro u hne hsuffix hprefix
    have hu := hall u hprefix.isInfix
    refine h.not_before u hne ?_ hprefix
    rw [← hu]
    exact hsuffix.filterMap f
  not_after := by
    intro u hne hprefix hsuffix
    have hu := hall u hsuffix.isInfix
    refine h.not_after u hne ?_ hsuffix
    rw [← hu]
    exact hprefix.filterMap f

theorem readable_of_mem {mark : List Char} (h : ∀ c ∈ mark, readable c = some c) :
    ∀ u, u <:+: mark → u.filterMap readable = u := by
  intro u hu
  have hu' : ∀ c ∈ u, readable c = some c := fun c hc => h c (hu.subset hc)
  clear hu
  induction u with
  | nil => rfl
  | cons c u ih =>
    rw [List.filterMap_cons_some (hu' c List.mem_cons_self),
      ih fun d hd => hu' d (List.mem_cons_of_mem c hd)]

/-- Nothing in the placeholder or the mark is dropped as unreadable. -/
theorem readable_redacted : ∀ c ∈ redacted.toList, readable c = some c := by
  have hall : (redacted.toList.all fun c => readable c = some c) = true := by decide
  exact fun c hc => of_decide_eq_true (List.all_eq_true.1 hall c hc)

theorem readable_truncationMark : ∀ c ∈ truncationMark.toList, readable c = some c := by
  have hall : (truncationMark.toList.all fun c => readable c = some c) = true := by decide
  exact fun c hc => of_decide_eq_true (List.all_eq_true.1 hall c hc)

theorem ne_nil_of_long {secret : String} (h : minScrubbedSecretLen ≤ utf8Length secret.toList) :
    secret.toList ≠ [] := by
  intro hnil
  rw [hnil] at h
  exact absurd h (by decide)

/-- What keeps apart from the placeholder and is left after the scrub was there before, and holds
none of the credentials that were scrubbed. -/
theorem infix_redactCredentials {credentials : List String} {text part : List Char}
    (hapart : Apart redacted.toList part) (hpart : part <:+: redactCredentials text credentials) :
    part <:+: text ∧ ∀ credential ∈ credentials,
      minScrubbedSecretLen ≤ utf8Length credential.toList → ¬ credential.toList <:+: part := by
  induction credentials generalizing text with
  | nil => exact ⟨hpart, fun _ h => absurd h List.not_mem_nil⟩
  | cons secret credentials ih =>
    obtain ⟨hbefore, hrest⟩ := ih hpart
    have hsecret : part <:+: text ∧
        (minScrubbedSecretLen ≤ utf8Length secret.toList → ¬ secret.toList <:+: part) := by
      unfold redactCredential at hbefore
      by_cases hscrubbed : minScrubbedSecretLen ≤ utf8Length secret.toList ∧ secret.toList <:+: text
      · rw [if_pos hscrubbed] at hbefore
        obtain ⟨htext, hno⟩ := infix_replaceAll (ne_nil_of_long hscrubbed.1) hapart hbefore
        exact ⟨htext, fun _ => hno⟩
      · rw [if_neg hscrubbed] at hbefore
        exact ⟨hbefore, fun hlong hinfix => hscrubbed ⟨hlong, hinfix.trans hbefore⟩⟩
    refine ⟨hsecret.1, fun credential hmem hlong => ?_⟩
    rcases List.mem_cons.1 hmem with rfl | hmem
    · exact hsecret.2 hlong
    · exact hrest credential hmem hlong

theorem KeepsApart.part {credential : String} {part : List Char} (h : KeepsApart credential)
    (hcredential : credential.toList = part.filterMap readable) :
    Apart redacted.toList part ∧ Apart truncationMark.toList part :=
  ⟨apart_of_filterMap (by decide) (readable_of_mem readable_redacted) (hcredential ▸ h.1),
    apart_of_filterMap (by decide) (readable_of_mem readable_truncationMark) (hcredential ▸ h.2)⟩

/-- What keeps apart from the mark was kept without it. -/
theorem infix_markedReason_iff {reason part : List Char} {credentials : List String}
    (hapart : Apart truncationMark.toList part) :
    part <:+: markedReason reason credentials ↔ part <:+: keptReason reason credentials := by
  unfold markedReason
  split
  · exact ⟨hapart.infix_append_right, fun hpart => hpart.trans (List.prefix_append _ _).isInfix⟩
  · exact Iff.rfl

/-- What the scrub has left of a text reads as a listed credential only with a control character
inside. -/
theorem control_of_spelled {credential : String} {credentials : List String}
    {reason part : List Char} (hapart : Apart redacted.toList part) (hmem : credential ∈ credentials)
    (hlong : minScrubbedSecretLen ≤ utf8Length credential.toList)
    (hpart : part <:+: redactCredentials reason credentials)
    (hcredential : credential.toList = part.filterMap readable) :
    part <:+: reason ∧ ∃ c ∈ part, isControl c = true := by
  obtain ⟨hreason, hscrubbed⟩ := infix_redactCredentials hapart hpart
  refine ⟨hreason, ?_⟩
  by_contra hplain
  have hsame : part.filterMap readable = part := by
    refine readable_of_mem (fun c hc => ?_) part List.infix_rfl
    have hnot : isControl c = false := by
      by_contra hcontrol
      exact hplain ⟨c, hc, by simpa using hcontrol⟩
    rw [readable, hnot]
    rfl
  exact hscrubbed credential hmem hlong (by rw [hcredential, hsame])

/-- A credential that keeps apart is spelled after the scrub only where the upstream's own text
spells it with a control character inside. -/
theorem spells_of_markedReason {credential : String} {credentials : List String}
    {reason : List Char} (hapart : KeepsApart credential) (hmem : credential ∈ credentials)
    (hlong : minScrubbedSecretLen ≤ utf8Length credential.toList)
    (h : Spells credential (markedReason reason credentials)) :
    ∃ part, part <:+: reason ∧ credential.toList = part.filterMap readable ∧
      ∃ c ∈ part, isControl c = true := by
  obtain ⟨part, hpart, hcredential⟩ := h
  obtain ⟨hplaceholder, hmark⟩ := hapart.part hcredential
  have hkept := (infix_markedReason_iff hmark).1 hpart
  obtain ⟨hreason, hcontrol⟩ := control_of_spelled hplaceholder hmem hlong
    (hkept.trans (List.take_prefix _ _).isInfix) hcredential
  exact ⟨part, hreason, hcredential, hcontrol⟩

end PartnerPortal

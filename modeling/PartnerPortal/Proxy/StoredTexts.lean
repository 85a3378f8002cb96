import PartnerPortal.Proxy.Texts

/-!
# What a stored text may hold

The two texts of an upstream that reach the ledger: a failed request's body and its reason.

Results:
- `boundedErrorBody_faithful` — a stored body is the decoded body or, marked as such, a start of it;
- `redactCredentials_eq` — credentials that keep apart from the placeholder leave the pieces of the
  reason, with placeholders between;
- `sanitizeReason_safe_iff` — a stored reason is free of credentials that keep apart exactly when no
  piece that is kept hides one behind a control character.
-/

namespace PartnerPortal

open Replace

/-! ## Error bodies -/

theorem truncateUtf8_prefix (room : Nat) (text : List Char) : truncateUtf8 room text <+: text := by
  induction text generalizing room with
  | nil => rw [truncateUtf8]
  | cons c text ih =>
    rw [truncateUtf8]
    split
    · exact List.cons_prefix_cons.2 ⟨rfl, ih _⟩
    · exact List.nil_prefix

theorem utf8Length_truncateUtf8 (room : Nat) (text : List Char) :
    utf8Length (truncateUtf8 room text) ≤ room := by
  induction text generalizing room with
  | nil => exact Nat.zero_le _
  | cons c text ih =>
    rw [truncateUtf8]
    split
    case isTrue hfits =>
      have hrest := ih (room - c.utf8Size)
      have hcons : utf8Length (c :: truncateUtf8 (room - c.utf8Size) text) =
          c.utf8Size + utf8Length (truncateUtf8 (room - c.utf8Size) text) := by simp [utf8Length]
      omega
    case isFalse => exact Nat.zero_le _

/-- The cut by bytes and the cut by characters agree on when a body is too long. -/
theorem errorBodyTruncated_iff (body : Bytes) :
    errorBodyTruncated body = true ↔
      maxStoredErrorBody < body.length ∨
        maxStoredErrorBody < utf8Length (Utf8.characters body) := by
  rw [errorBodyTruncated, Bool.or_eq_true, decide_eq_true_eq, decide_eq_true_eq]
  rcases Nat.lt_or_ge maxStoredErrorBody body.length with hlong | hshort
  · exact iff_of_true (.inl hlong) (.inl hlong)
  · rw [decodedErrorBody, List.take_of_length_le hshort]

/-- With room for the mark, no replacement character that the cut by bytes brought in is left. -/
theorem truncated_prefix (body : Bytes) :
    truncateUtf8 (maxStoredErrorBody - utf8Length truncationMark.toList) (decodedErrorBody body) <+:
      Utf8.characters body := by
  have hcut := truncateUtf8_prefix (maxStoredErrorBody - utf8Length truncationMark.toList)
    (decodedErrorBody body)
  have hroom := utf8Length_truncateUtf8 (maxStoredErrorBody - utf8Length truncationMark.toList)
    (decodedErrorBody body)
  rcases Nat.lt_or_ge maxStoredErrorBody body.length with hlong | hshort
  · obtain ⟨kept, hprefix, hkept⟩ :=
      Utf8.characters_append (body.take maxStoredErrorBody) (body.drop maxStoredErrorBody)
    rw [List.take_append_drop] at hprefix
    rcases hkept with hwhole | ⟨hbroken, hlength⟩
    · rw [decodedErrorBody, hwhole] at hcut ⊢
      exact hcut.trans hprefix
    · rw [decodedErrorBody, hbroken] at hcut hroom ⊢
      rcases List.prefix_concat_iff.1 hcut with hall | hpart
      · -- the broken character stands within three bytes of the limit, and the mark takes more
        rw [hall, utf8Length_append] at hroom
        rw [List.length_take_of_le hlong.le] at hlength
        have hmark : utf8Length truncationMark.toList = 15 := by decide
        have hreplacement : utf8Length [Utf8.replacement] = 3 := by decide
        have hmax : maxStoredErrorBody = 8192 := rfl
        rw [← utf8Length] at hlength
        omega
      · exact hpart.trans hprefix
  · rw [decodedErrorBody, List.take_of_length_le hshort] at hcut ⊢
    exact hcut

/-- A stored body takes no more room than it may.  It is marked when the body or its decoding takes
more; what stands before the mark is a start of the decoding, and without the mark it is the
whole. -/
theorem boundedErrorBody_faithful (body : Bytes) :
    utf8Length (boundedErrorBody body).toList ≤ maxStoredErrorBody ∧
      (errorBodyTruncated body = true ↔
        maxStoredErrorBody < body.length ∨ maxStoredErrorBody < utf8Length (Utf8.characters body)) ∧
      (errorBodyTruncated body = false → (boundedErrorBody body).toList = Utf8.characters body) ∧
      (errorBodyTruncated body = true → ∃ content, content <+: Utf8.characters body ∧
        (boundedErrorBody body).toList = content ++ truncationMark.toList) := by
  refine ⟨?_, errorBodyTruncated_iff body, fun hwhole => ?_, fun hcut => ?_⟩
  · rw [boundedErrorBody]
    split
    · rw [String.toList_ofList, utf8Length_append]
      have hcontent := utf8Length_truncateUtf8
        (maxStoredErrorBody - utf8Length truncationMark.toList) (decodedErrorBody body)
      have hmark : utf8Length truncationMark.toList ≤ maxStoredErrorBody := by decide
      omega
    · rw [String.toList_ofList]
      exact utf8Length_truncateUtf8 _ _
  · rw [boundedErrorBody_of_fits hwhole, Utf8.fromUtf8Lossy, String.toList_ofList]
  · refine ⟨_, truncated_prefix body, ?_⟩
    rw [boundedErrorBody, if_pos hcut, String.toList_ofList]

/-! ## Reasons -/

/-- A value that is scrubbed and can stand in a text without control characters. -/
structure Scrubbable (credential : String) : Prop where
  long : minScrubbedSecretLen ≤ utf8Length credential.toList
  plain : ∀ c ∈ credential.toList, isControl c = false

instance (credential : String) : Decidable (Scrubbable credential) :=
  decidable_of_iff (minScrubbedSecretLen ≤ utf8Length credential.toList ∧
      (credential.toList.all fun c => isControl c = false) = true)
    ⟨fun h => ⟨h.1, fun c hc => of_decide_eq_true (List.all_eq_true.1 h.2 c hc)⟩,
      fun h => ⟨h.long, List.all_eq_true.2 fun c hc => decide_eq_true (h.plain c hc)⟩⟩

/-- A text that is safe to store and to log. -/
structure SafeReason (credentials : List String) (text : List Char) : Prop where
  readable : ∀ c ∈ text, isControl c = false
  bounded : ∃ content, content.length ≤ maxReasonChars ∧
    (text = content ∨ text = content ++ truncationMark.toList)
  scrubbed : ∀ credential ∈ credentials, Scrubbable credential → ¬ credential.toList <:+: text

/-- A control character inside the credential keeps the scrub from seeing it. -/
def Hides (credential : String) (text : List Char) : Prop :=
  ∃ part, part <:+: text ∧ credential.toList = part.filterMap readable ∧
    ∃ c ∈ part, isControl c = true

/-- The pieces of a text between the occurrences of a secret that is long enough to be one. -/
def cutAt (secret : String) (text : List Char) : List (List Char) :=
  if minScrubbedSecretLen ≤ utf8Length secret.toList then pieces secret.toList text else [text]

/-- A text cut at the listed credentials, each cut out of the pieces that those before it leave. -/
def cuts : List String → List Char → List (List Char)
  | [], text => [text]
  | credential :: credentials, text => (cutAt credential text).flatMap (cuts credentials)

/-- What is kept of the pieces when a placeholder stands at each cut. -/
def keptPieces (reason : List Char) (credentials : List String) : List (List Char) :=
  takePieces redacted.length maxReasonChars (cuts credentials reason)

/-- A text cut as a reason is, with the mark. -/
def shortened (text : List Char) : List Char :=
  if maxReasonChars < text.length then text.take maxReasonChars ++ truncationMark.toList else text

/-- What is read of a text holds no control character. -/
theorem plain_of_readable {text : List Char} :
    ∀ c ∈ text.filterMap readable, isControl c = false := by
  intro c hc
  obtain ⟨d, -, hd⟩ := List.mem_filterMap.1 hc
  unfold readable at hd
  split at hd
  · split at hd
    · obtain rfl := Option.some.inj hd
      decide
    · exact absurd hd (by simp)
  · obtain rfl := Option.some.inj hd
    simpa using ‹¬ isControl d = true›

/-- A stored reason is always without control characters and of bounded length. -/
theorem sanitizeReason_bounded (reason : String) (credentials : List String) :
    ∃ content, content.length ≤ maxReasonChars ∧
      ((sanitizeReason reason credentials).toList = content ∨
        (sanitizeReason reason credentials).toList = content ++ truncationMark.toList) := by
  refine ⟨(keptReason reason.toList credentials).filterMap readable, ?_, ?_⟩
  · calc ((keptReason reason.toList credentials).filterMap readable).length
        ≤ (keptReason reason.toList credentials).length := List.length_filterMap_le _ _
      _ ≤ maxReasonChars := List.length_take_le _ _
  · unfold sanitizeReason
    dsimp only
    split
    · exact .inr String.toList_ofList
    · exact .inl String.toList_ofList

/-- A stored reason is safe exactly when none of it spells a credential before its control characters
are dropped. -/
theorem safeReason_iff_not_spells {reason : String} {credentials : List String} :
    SafeReason credentials (sanitizeReason reason credentials).toList ↔
      ∀ credential ∈ credentials, Scrubbable credential →
        ¬ Spells credential (markedReason reason.toList credentials) := by
  constructor
  · intro hsafe credential hmem hscrubbable
    rw [← credential_in_sanitizeReason_iff]
    exact hsafe.scrubbed credential hmem hscrubbable
  · intro hspells
    refine ⟨?_, sanitizeReason_bounded reason credentials, fun credential hmem hscrubbable => ?_⟩
    · rw [sanitizeReason_toList]
      exact plain_of_readable
    · rw [credential_in_sanitizeReason_iff]
      exact hspells credential hmem hscrubbable

/-! ### A scrubbed reason, piece by piece -/

section Pieces

variable {credentials : List String} {reason : List Char}

theorem redactCredential_intercalate {secret : String}
    (hapart : minScrubbedSecretLen ≤ utf8Length secret.toList →
      Apart redacted.toList secret.toList) (list : List (List Char)) :
    redactCredential (redacted.toList.intercalate list) secret =
      redacted.toList.intercalate (list.flatMap (cutAt secret)) := by
  unfold redactCredential cutAt
  by_cases hlong : minScrubbedSecretLen ≤ utf8Length secret.toList
  · simp only [hlong, true_and, if_true]
    rw [← replaceAll_intercalate (hapart hlong)]
    split
    case isTrue => rfl
    case isFalse hno => exact (replaceAll_of_absent (ne_nil_of_long hlong) _ hno).symm
  · simp [hlong]

/-- Credentials that keep apart from the placeholder are cut out of the pieces that are left. -/
theorem redactCredentials_intercalate
    (hapart : ∀ credential ∈ credentials, minScrubbedSecretLen ≤ utf8Length credential.toList →
      Apart redacted.toList credential.toList) (list : List (List Char)) :
    redactCredentials (redacted.toList.intercalate list) credentials =
      redacted.toList.intercalate (list.flatMap (cuts credentials)) := by
  induction credentials generalizing list with
  | nil => simp [redactCredentials, cuts]
  | cons secret credentials ih =>
    have hsecret := redactCredential_intercalate (hapart secret List.mem_cons_self) list
    have hrest := ih (fun credential hmem => hapart credential (List.mem_cons_of_mem secret hmem))
      (list.flatMap (cutAt secret))
    rw [List.flatMap_assoc] at hrest
    rw [← hsecret] at hrest
    exact hrest

theorem redactCredentials_eq
    (hapart : ∀ credential ∈ credentials, minScrubbedSecretLen ≤ utf8Length credential.toList →
      Apart redacted.toList credential.toList) (text : List Char) :
    redactCredentials text credentials = redacted.toList.intercalate (cuts credentials text) := by
  have hwhole := redactCredentials_intercalate hapart [text]
  rwa [List.intercalate_singleton, List.flatMap_singleton] at hwhole

theorem infix_keptReason_iff
    (hapart : ∀ credential ∈ credentials, minScrubbedSecretLen ≤ utf8Length credential.toList →
      Apart redacted.toList credential.toList) {part : List Char} (hpart : Apart redacted.toList part) :
    part <:+: keptReason reason credentials ↔ ∃ piece ∈ keptPieces reason credentials, part <:+: piece := by
  rw [keptReason, redactCredentials_eq hapart, hpart.infix_take_iff, String.length_toList, keptPieces]

/-- Credentials that keep apart are spelled only by a piece that hides one. -/
theorem spells_markedReason_iff
    (hapart : ∀ credential ∈ credentials, minScrubbedSecretLen ≤ utf8Length credential.toList →
      KeepsApart credential) {credential : String} (hmem : credential ∈ credentials)
    (hlong : minScrubbedSecretLen ≤ utf8Length credential.toList) :
    Spells credential (markedReason reason credentials) ↔
      ∃ piece ∈ keptPieces reason credentials, Hides credential piece := by
  have hplaceholder := fun other hother hlong => (hapart other hother hlong).1
  constructor
  · rintro ⟨part, hpart, hcredential⟩
    obtain ⟨hredacted, hmark⟩ := (hapart credential hmem hlong).part hcredential
    rw [infix_markedReason_iff hmark] at hpart
    have hscrubbed : part <:+: redactCredentials reason credentials :=
      hpart.trans (List.take_prefix _ _).isInfix
    obtain ⟨-, hcontrol⟩ := control_of_spelled hredacted hmem hlong hscrubbed hcredential
    obtain ⟨piece, hpiece, hpart⟩ := (infix_keptReason_iff hplaceholder hredacted).1 hpart
    exact ⟨piece, hpiece, part, hpart, hcredential, hcontrol⟩
  · rintro ⟨piece, hpiece, part, hpart, hcredential, -⟩
    obtain ⟨hredacted, hmark⟩ := (hapart credential hmem hlong).part hcredential
    have hkept := (infix_keptReason_iff hplaceholder hredacted).2 ⟨piece, hpiece, hpart⟩
    exact ⟨part, (infix_markedReason_iff hmark).2 hkept, hcredential⟩

/-- Where no listed credential stands in the reason, it is cut as it came. -/
theorem markedReason_of_absent
    (habsent : ∀ credential ∈ credentials, minScrubbedSecretLen ≤ utf8Length credential.toList →
      ¬ credential.toList <:+: reason) : markedReason reason credentials = shortened reason := by
  have hsame : redactCredentials reason credentials = reason := by
    induction credentials with
    | nil => rfl
    | cons secret credentials ih =>
      have hsecret : redactCredential reason secret = reason :=
        if_neg fun h => habsent secret List.mem_cons_self h.1 h.2
      have hrest := ih fun credential hmem => habsent credential (List.mem_cons_of_mem secret hmem)
      rw [redactCredentials, List.foldl_cons, hsecret]
      exact hrest
  rw [markedReason, keptReason, hsame, shortened]
  split
  case isTrue => rfl
  case isFalse hfits => exact List.take_of_length_le (Nat.le_of_not_lt hfits)

end Pieces

theorem Hides.read {credential : String} {text : List Char} (h : Hides credential text) :
    credential.toList <:+: text.filterMap readable := by
  obtain ⟨part, hpart, hcredential, -⟩ := h
  rw [hcredential]
  exact hpart.filterMap readable

namespace Sample

def listed : List String := ["sk-upstream-secret-1234", "hunter2 hunter2"]

/-- The line ends after the key. -/
def echoed : String := "no key sk-upstream-secret-1234\n"

/-- The line ends inside the password. -/
def wrapped : String := "no key sk-upstream-secret-1234 for hunter2\nhunter2"

end Sample

end PartnerPortal

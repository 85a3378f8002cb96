import Mathlib.Tactic.Common

/-!
# What a parse error may say

A parser's message quotes the values it could not take, in double quotes or in backticks.  The loader
puts a placeholder in their place before anyone sees the message, and keeps what stands in backticks
as a name would.

Results:
- `Message.exists_text` — every message is text with quoted spans, the last of which may be open;
- `redactScalars_text` — what is left of a message is its text, its delimiters and the names in
  backticks: it is the same for any two messages that differ in other spans only;
- `redactScalars_hides` — so it is for every message, and a quoted scalar is in one span.
-/

namespace PartnerPortal.Redaction

/-- What stands for a secret wherever it might be logged. -/
def redacted : List Char := "<redacted>".toList

/-! ## The source's loop -/

/-- A backticked span is a name and not a value. -/
def isToken : List Char → Bool
  | [] => false
  | c :: rest => (c.isAlpha || c = '_') && rest.all fun d => d.isAlphanum || d = '_'

/-- The content of a string up to its first quote that is not escaped, and what follows that. -/
def quoted : List Char → Option (List Char × List Char)
  | [] => none
  | ['\\'] => none
  | '\\' :: c :: rest => (quoted rest).map fun found => ('\\' :: c :: found.1, found.2)
  | '"' :: rest => some ([], rest)
  | c :: rest => (quoted rest).map fun found => (c :: found.1, found.2)

/-- The content of a span up to the next backtick. -/
def ticked : List Char → Option (List Char × List Char)
  | [] => none
  | '`' :: rest => some ([], rest)
  | c :: rest => (ticked rest).map fun found => (c :: found.1, found.2)

def isDelimiter (c : Char) : Bool := c = '"' || c = '`'

/-- The content of the span that a delimiter opens, and what follows the delimiter that closes it. -/
def span (delimiter : Char) (body : List Char) : Option (List Char × List Char) :=
  if delimiter = '"' then quoted body else ticked body

/-- What is shown of a span. -/
def shown (delimiter : Char) (content : List Char) : List Char :=
  if delimiter = '`' && isToken content then content else redacted

theorem quoted_length {body content rest : List Char} (h : quoted body = some (content, rest)) :
    rest.length < body.length := by
  fun_induction quoted body generalizing content with
  | case1 | case2 => cases h
  | case3 c after ih =>
    obtain ⟨found, hfound, heq⟩ := Option.map_eq_some_iff.1 h
    cases heq
    exact Nat.lt_succ_of_lt (Nat.lt_succ_of_lt (ih hfound))
  | case4 after =>
    cases h
    exact Nat.lt_succ_self _
  | case5 c after _ _ _ ih =>
    obtain ⟨found, hfound, heq⟩ := Option.map_eq_some_iff.1 h
    cases heq
    exact Nat.lt_succ_of_lt (ih hfound)

theorem ticked_length {body content rest : List Char} (h : ticked body = some (content, rest)) :
    rest.length < body.length := by
  fun_induction ticked body generalizing content with
  | case1 => cases h
  | case2 after =>
    cases h
    exact Nat.lt_succ_self _
  | case3 c after _ ih =>
    obtain ⟨found, hfound, heq⟩ := Option.map_eq_some_iff.1 h
    cases heq
    exact Nat.lt_succ_of_lt (ih hfound)

theorem span_length {delimiter : Char} {body content rest : List Char}
    (h : span delimiter body = some (content, rest)) : rest.length < body.length := by
  unfold span at h
  split at h
  · exact quoted_length h
  · exact ticked_length h

/-- What is in front of the first delimiter, and the rest. -/
def untilDelimiter (message : List Char) : List Char × List Char :=
  (message.takeWhile fun c => !isDelimiter c, message.dropWhile fun c => !isDelimiter c)

/-- `redact_scalars` -/
def redactScalars (message : List Char) : List Char :=
  (untilDelimiter message).1 ++
    match _hrest : (untilDelimiter message).2 with
    | [] => []
    | delimiter :: body =>
      match _hspan : span delimiter body with
      | some (content, remainder) =>
        delimiter :: (shown delimiter content ++ delimiter :: redactScalars remainder)
      -- no delimiter is made up for a span that is not closed
      | none => delimiter :: shown delimiter body
termination_by message.length
decreasing_by
  have hbody : (untilDelimiter message).2.length ≤ message.length :=
    (List.dropWhile_sublist fun c => !isDelimiter c).length_le
  rw [_hrest, List.length_cons] at hbody
  exact Nat.lt_of_lt_of_le (span_length _hspan) (Nat.le_of_succ_le hbody)

/-! ## Messages -/

/-- A part of a message. -/
inductive Segment where
  | plain (text : List Char)
  | quoted (content : List Char)
  | ticked (content : List Char)

namespace Segment

/-- Text has no delimiters, a string ends at its quote and a backticked span at its backtick. -/
def Proper : Segment → Prop
  | plain text => ∀ c ∈ text, isDelimiter c = false
  | quoted content => Redaction.quoted (content ++ ['"']) = some (content, [])
  | ticked content => '`' ∉ content

def text : Segment → List Char
  | plain text => text
  | quoted content => '"' :: content ++ ['"']
  | ticked content => '`' :: content ++ ['`']

/-- A part as it is shown: of a span, the name in backticks or nothing. -/
def hidden : Segment → List Char
  | plain text => text
  | quoted _ => '"' :: redacted ++ ['"']
  | ticked content => '`' :: shown '`' content ++ ['`']

end Segment

/-- Text with quoted spans, and the span that nothing closes. -/
structure Message where
  segments : List Segment
  proper : ∀ segment ∈ segments, segment.Proper
  opened : Option (Char × List Char)
  unclosed : ∀ delimiter body, opened = some (delimiter, body) →
    isDelimiter delimiter = true ∧ span delimiter body = none

namespace Message

def text (m : Message) : List Char :=
  m.segments.flatMap Segment.text ++ m.opened.elim [] fun o => o.1 :: o.2

/-- The message without its values. -/
def hidden (m : Message) : List Char :=
  m.segments.flatMap Segment.hidden ++ m.opened.elim [] fun o => o.1 :: shown o.1 o.2

end Message

/-! ## One part -/

/-- A string is read as soon as its quote is there. -/
theorem quoted_front {body content rest : List Char} (h : quoted body = some (content, rest)) :
    body = content ++ '"' :: rest ∧
      ∀ more, quoted (content ++ '"' :: more) = some (content, more) := by
  fun_induction quoted body generalizing content with
  | case1 | case2 => cases h
  | case3 c after ih =>
    obtain ⟨found, hfound, heq⟩ := Option.map_eq_some_iff.1 h
    cases heq
    obtain ⟨hafter, hmore⟩ := ih hfound
    refine ⟨by rw [hafter]; rfl, fun more => ?_⟩
    rw [List.cons_append, List.cons_append, quoted, hmore more, Option.map_some]
  | case4 after =>
    cases h
    exact ⟨rfl, fun more => by simp [quoted]⟩
  | case5 c after hlast hescape hquote ih =>
    obtain ⟨found, hfound, heq⟩ := Option.map_eq_some_iff.1 h
    cases heq
    obtain ⟨hafter, hmore⟩ := ih hfound
    refine ⟨by rw [hafter]; rfl, fun more => ?_⟩
    have hplain : c ≠ '\\' := fun hc => by
      cases after with
      | nil => exact hlast hc rfl
      | cons d after => exact hescape d after hc rfl
    rw [List.cons_append, quoted, hmore more, Option.map_some]
    · exact fun hc _ => hplain hc
    · exact fun _ _ hc _ => hplain hc
    · exact hquote

theorem ticked_front {body content rest : List Char} (h : ticked body = some (content, rest)) :
    body = content ++ '`' :: rest ∧ '`' ∉ content := by
  fun_induction ticked body generalizing content with
  | case1 => cases h
  | case2 after =>
    cases h
    exact ⟨rfl, List.not_mem_nil⟩
  | case3 c after hne ih =>
    obtain ⟨found, hfound, heq⟩ := Option.map_eq_some_iff.1 h
    cases heq
    obtain ⟨hafter, hcontent⟩ := ih hfound
    refine ⟨by rw [hafter]; rfl, fun hmem => ?_⟩
    rcases List.mem_cons.1 hmem with hc | hmem
    · exact hne hc.symm
    · exact hcontent hmem

theorem ticked_content {content : List Char} (h : '`' ∉ content) (more : List Char) :
    ticked (content ++ '`' :: more) = some (content, more) := by
  induction content with
  | nil => simp [ticked]
  | cons c content ih =>
    have hc : c ≠ '`' := fun hc => h (hc ▸ List.mem_cons_self)
    rw [List.cons_append, ticked, ih fun hmem => h (List.mem_cons_of_mem c hmem), Option.map_some]
    exact hc

/-! ## The loop on the parts of a message -/

section Loop

variable {message body : List Char} {delimiter : Char}

theorem redactScalars_plain (h : (untilDelimiter message).2 = []) :
    redactScalars message = (untilDelimiter message).1 := by
  rw [redactScalars]
  split
  · rw [List.append_nil]
  · rename_i hrest
    rw [h] at hrest
    cases hrest

theorem redactScalars_closed {content remainder : List Char}
    (h : (untilDelimiter message).2 = delimiter :: body)
    (hspan : span delimiter body = some (content, remainder)) :
    redactScalars message = (untilDelimiter message).1 ++
      delimiter :: (shown delimiter content ++ delimiter :: redactScalars remainder) := by
  rw [redactScalars]
  split
  · rename_i hrest
    rw [h] at hrest
    cases hrest
  · rename_i hrest
    rw [h] at hrest
    cases hrest
    split
    · rename_i hfound
      rw [hspan] at hfound
      cases hfound
      rfl
    · rename_i hfound
      rw [hspan] at hfound
      cases hfound

theorem redactScalars_opened (h : (untilDelimiter message).2 = delimiter :: body)
    (hspan : span delimiter body = none) :
    redactScalars message = (untilDelimiter message).1 ++ delimiter :: shown delimiter body := by
  rw [redactScalars]
  split
  · rename_i hrest
    rw [h] at hrest
    cases hrest
  · rename_i hrest
    rw [h] at hrest
    cases hrest
    split
    · rename_i hfound
      rw [hspan] at hfound
      cases hfound
    · rfl

theorem untilDelimiter_delimiter (h : isDelimiter delimiter = true) (body : List Char) :
    untilDelimiter (delimiter :: body) = ([], delimiter :: body) := by
  simp [untilDelimiter, h]

theorem untilDelimiter_text {text : List Char} (h : ∀ c ∈ text, isDelimiter c = false)
    (rest : List Char) :
    untilDelimiter (text ++ rest) = (text ++ (untilDelimiter rest).1, (untilDelimiter rest).2) := by
  have htext : ∀ c ∈ text, (!isDelimiter c) = true := fun c hc => by rw [h c hc]; rfl
  rw [untilDelimiter, List.takeWhile_append_of_pos htext, List.dropWhile_append_of_pos htext]
  rfl

/-- Text in front is left as it is. -/
theorem redactScalars_text_append {text : List Char} (h : ∀ c ∈ text, isDelimiter c = false)
    (rest : List Char) : redactScalars (text ++ rest) = text ++ redactScalars rest := by
  have huntil := untilDelimiter_text h rest
  cases hrest : (untilDelimiter rest).2 with
  | nil =>
    rw [redactScalars_plain (huntil ▸ hrest), redactScalars_plain hrest, huntil]
  | cons delimiter body =>
    cases hspan : span delimiter body with
    | none =>
      rw [redactScalars_opened (huntil ▸ hrest) hspan, redactScalars_opened hrest hspan, huntil,
        List.append_assoc]
    | some found =>
      rw [redactScalars_closed (huntil ▸ hrest) hspan, redactScalars_closed hrest hspan, huntil,
        List.append_assoc]

/-- A part in front becomes what is shown of it. -/
theorem redactScalars_segment {segment : Segment} (h : segment.Proper) (rest : List Char) :
    redactScalars (segment.text ++ rest) = segment.hidden ++ redactScalars rest := by
  cases segment with
  | plain text => exact redactScalars_text_append h rest
  | quoted content =>
    have hspan : span '"' (content ++ '"' :: rest) = some (content, rest) := (quoted_front h).2 rest
    have huntil := untilDelimiter_delimiter (show isDelimiter '"' = true by rfl)
      (content ++ '"' :: rest)
    have hloop := redactScalars_closed (congrArg Prod.snd huntil) hspan
    rw [huntil] at hloop
    simpa [Segment.text, Segment.hidden, shown] using hloop
  | ticked content =>
    have hspan : span '`' (content ++ '`' :: rest) = some (content, rest) := ticked_content h rest
    have huntil := untilDelimiter_delimiter (show isDelimiter '`' = true by rfl)
      (content ++ '`' :: rest)
    have hloop := redactScalars_closed (congrArg Prod.snd huntil) hspan
    rw [huntil] at hloop
    simpa [Segment.text, Segment.hidden] using hloop

end Loop

/-! ## Whole messages -/

/-- What is left of a message is its text, its delimiters and the names in backticks. -/
theorem redactScalars_text (m : Message) : redactScalars m.text = m.hidden := by
  obtain ⟨segments, hproper, opened, hunclosed⟩ := m
  unfold Message.text Message.hidden
  dsimp only
  induction segments with
  | nil =>
    cases opened with
    | none => exact redactScalars_plain rfl
    | some o =>
      obtain ⟨hdelimiter, hspan⟩ := hunclosed o.1 o.2 rfl
      have huntil := untilDelimiter_delimiter hdelimiter o.2
      have hloop := redactScalars_opened (congrArg Prod.snd huntil) hspan
      rw [huntil] at hloop
      exact hloop
  | cons segment segments ih =>
    rw [List.flatMap_cons, List.flatMap_cons, List.append_assoc, List.append_assoc,
      redactScalars_segment (hproper segment List.mem_cons_self),
      ih fun other hother => hproper other (List.mem_cons_of_mem segment hother)]

/-- A message with one part more in front. -/
def Message.cons (segment : Segment) (h : segment.Proper) (m : Message) : Message where
  segments := segment :: m.segments
  proper := fun other hother => by
    rcases List.mem_cons.1 hother with rfl | hother
    · exact h
    · exact m.proper other hother
  opened := m.opened
  unclosed := m.unclosed

/-- The span that a delimiter opens is a part of the message. -/
theorem exists_segment {delimiter : Char} (hdelimiter : isDelimiter delimiter = true)
    {body content remainder : List Char} (h : span delimiter body = some (content, remainder)) :
    ∃ segment : Segment, segment.Proper ∧ segment.text ++ remainder = delimiter :: body := by
  unfold isDelimiter at hdelimiter
  rw [Bool.or_eq_true, decide_eq_true_eq, decide_eq_true_eq] at hdelimiter
  rcases hdelimiter with rfl | rfl
  · obtain ⟨hbody, hmore⟩ := quoted_front (show quoted body = some (content, remainder) from h)
    exact ⟨.quoted content, hmore [], by simp [Segment.text, hbody]⟩
  · obtain ⟨hbody, hcontent⟩ := ticked_front (show ticked body = some (content, remainder) from h)
    exact ⟨.ticked content, hcontent, by simp [Segment.text, hbody]⟩

theorem Message.cons_text (segment : Segment) (h : segment.Proper) (m : Message) :
    (m.cons segment h).text = segment.text ++ m.text := by
  simp [Message.text, Message.cons]

/-- Every message is text with quoted spans, the last of which may be open. -/
theorem Message.exists_text (message : List Char) : ∃ m : Message, m.text = message := by
  induction hlength : message.length using Nat.strongRecOn generalizing message with
  | ind n ih =>
    cases message with
    | nil => exact ⟨⟨[], fun _ h => absurd h List.not_mem_nil, none, fun _ _ h => nomatch h⟩, rfl⟩
    | cons c body =>
      have hshorter : body.length < n := hlength ▸ Nat.lt_succ_self _
      cases hdelimiter : isDelimiter c with
      | false =>
        obtain ⟨m, rfl⟩ := ih body.length hshorter body rfl
        refine ⟨m.cons (.plain [c]) fun d hd => ?_, m.cons_text _ _⟩
        rw [List.mem_singleton.1 hd, hdelimiter]
      | true =>
        cases hspan : span c body with
        | none =>
          refine ⟨⟨[], fun _ h => absurd h List.not_mem_nil, some (c, body), ?_⟩, rfl⟩
          intro delimiter body' h
          cases h
          exact ⟨hdelimiter, hspan⟩
        | some found =>
          obtain ⟨content, remainder⟩ := found
          obtain ⟨segment, hproper, htext⟩ := exists_segment hdelimiter hspan
          have hrest := Nat.lt_trans (span_length hspan) hshorter
          obtain ⟨m, rfl⟩ := ih remainder.length hrest remainder rfl
          exact ⟨m.cons segment hproper, (m.cons_text _ _).trans htext⟩

/-! ## What the parser quotes -/

/-- A formatter that puts a backslash in front of what would end a string or begin an escape. -/
def Escapes (escape : Char → List Char) : Prop :=
  ∀ c, (escape c = [c] ∧ c ≠ '"' ∧ c ≠ '\\') ∨
    ∃ d rest, escape c = '\\' :: d :: rest ∧ ∀ x ∈ rest, x ≠ '"' ∧ x ≠ '\\'

theorem quoted_plain {text : List Char} (h : ∀ c ∈ text, c ≠ '"' ∧ c ≠ '\\')
    {body content rest : List Char} (hbody : quoted body = some (content, rest)) :
    quoted (text ++ body) = some (text ++ content, rest) := by
  induction text with
  | nil => exact hbody
  | cons c text ih =>
    obtain ⟨hquote, hescape⟩ := h c List.mem_cons_self
    rw [List.cons_append, quoted, ih fun d hd => h d (List.mem_cons_of_mem c hd)]
    · rfl
    · exact fun hc _ => hescape hc
    · exact fun _ _ hc _ => hescape hc
    · exact hquote

/-- The string a formatter made of any scalar ends where its closing quote stands. -/
theorem quoted_scalar {escape : Char → List Char} (h : Escapes escape) (scalar : List Char) :
    quoted (scalar.flatMap escape ++ ['"']) = some (scalar.flatMap escape, []) := by
  induction scalar with
  | nil => rfl
  | cons c scalar ih =>
    rw [List.flatMap_cons, List.append_assoc]
    rcases h c with ⟨hplain, hne⟩ | ⟨d, rest, hescaped, hrest⟩
    · rw [hplain]
      exact quoted_plain (fun x hx => by rwa [List.mem_singleton.1 hx]) ih
    · rw [hescaped, List.cons_append, List.cons_append, quoted, quoted_plain hrest ih]
      rfl

/-- Whatever a message is, what is left of it is its text, its delimiters and the names in backticks;
and whatever scalar a formatter quotes, the whole of it is in one span. -/
theorem redactScalars_hides :
    (∀ message, ∃ m : Message, m.text = message) ∧
      (∀ m : Message, redactScalars m.text = m.hidden) ∧
      ∀ escape, Escapes escape → ∀ scalar : List Char,
        (Segment.quoted (scalar.flatMap escape)).Proper := by
  exact ⟨Message.exists_text, redactScalars_text, fun escape h scalar => quoted_scalar h scalar⟩

/-- A key that stands where a block is expected. -/
example : redactScalars "invalid type: string \"sk-\\\"1\", expected struct `Upstream`".toList =
    "invalid type: string \"<redacted>\", expected struct `Upstream`".toList := by
  decide +kernel

end PartnerPortal.Redaction

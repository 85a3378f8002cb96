import PartnerPortal.Billing.Session
import PartnerPortal.Lib.DotLines

/-!
# A message as the relay receives it

The bytes of a message are lines ended by CRLF, and the relay's end of the `DATA` phase reads them
back as they were.

Results:
- `normalisedLines_eq` — the lines of a body, however they were ended;
- `message_delivered` — a message that could be built is received as it was written, its headers end
  at its own blank line, and its addresses stay within their commands.
-/

namespace PartnerPortal

open Replace DotLines

/-! ## Bytes of a text -/

/-- A byte below 128 stands for itself, and for nothing else. -/
theorem ascii_of_mem_utf8EncodeChar {c : Char} {b : UInt8} (h : b ∈ String.utf8EncodeChar c)
    (hb : b < 0x80) : c.toNat = b.toNat := by
  have hb' : b.toNat < 128 := UInt8.lt_iff_toNat_lt.1 hb
  have hval : c.toNat = c.val.toNat := rfl
  unfold String.utf8EncodeChar at h
  dsimp only at h
  split at h
  · rename_i hsmall
    rw [List.mem_singleton] at h
    rw [h, UInt8.toNat_ofNat', hval]
    omega
  · exfalso
    split at h
    · simp only [List.mem_cons, List.not_mem_nil, or_false] at h
      rcases h with rfl | rfl <;> rw [UInt8.toNat_ofNat'] at hb' <;> omega
    · split at h
      · simp only [List.mem_cons, List.not_mem_nil, or_false] at h
        rcases h with rfl | rfl | rfl <;> rw [UInt8.toNat_ofNat'] at hb' <;> omega
      · simp only [List.mem_cons, List.not_mem_nil, or_false] at h
        rcases h with rfl | rfl | rfl | rfl <;> rw [UInt8.toNat_ofNat'] at hb' <;> omega

/-- A text without line breaks is written as bytes without line breaks. -/
theorem plain_asBytes {text : List Char} (h : Unbroken text) : Plain (asBytes text) := by
  have hbreak : ∀ b : UInt8, b < 0x80 → b ∈ asBytes text → Char.ofNat b.toNat ∈ text := by
    intro b hsmall hmem
    obtain ⟨c, hc, hbyte⟩ := List.mem_flatMap.1 hmem
    rwa [← ascii_of_mem_utf8EncodeChar hbyte hsmall, Char.ofNat_toNat]
  exact ⟨fun hmem => (h _ (hbreak Lines.cr (by decide) hmem)).1 rfl,
    fun hmem => (h _ (hbreak Lines.lf (by decide) hmem)).2 rfl⟩

/-! ## The lines of a body -/

/-- The lines of a text, each ended by CRLF, CR or LF. -/
def bodyLines : List Char → List (List Char)
  | [] => [[]]
  | '\r' :: '\n' :: rest => [] :: bodyLines rest
  | c :: rest =>
    if c = '\r' ∨ c = '\n' then [] :: bodyLines rest else (bodyLines rest).modifyHead (c :: ·)

/-- The two replacements and the split are one reading of the lines. -/
theorem normalisedLines_eq (body : List Char) : normalisedLines body = bodyLines body := by
  unfold normalisedLines
  induction body using bodyLines.induct with
  | case1 => rfl
  | case2 rest ih =>
    have hcrlf := @replaceAll_front _ _ ['\r', '\n'] ['\n'] rest (List.cons_ne_nil _ _)
    rw [List.cons_append, List.cons_append, List.nil_append] at hcrlf
    rw [hcrlf, List.singleton_append, replaceAll_cons (by simp), List.splitOn_cons_eq_if_modifyHead,
      if_pos (by rfl), ih, bodyLines]
  | case3 c rest hnot hbreak ih =>
    -- a CR without an LF behind it, or an LF: it is left by the first pass
    have hfirst : ¬ ['\r', '\n'] <+: c :: rest := by
      intro hprefix
      obtain ⟨after, hafter⟩ := hprefix
      cases hafter
      exact hnot after rfl rfl
    rw [replaceAll_cons hfirst, bodyLines, if_pos hbreak]
    · rcases hbreak with rfl | rfl
      · have hcr := @replaceAll_front _ _ ['\r'] ['\n']
          (replaceAll ['\r', '\n'] ['\n'] rest) (List.cons_ne_nil _ _)
        rw [List.singleton_append] at hcr
        rw [hcr, List.singleton_append, List.splitOn_cons_eq_if_modifyHead, if_pos (by rfl), ih]
      · rw [replaceAll_cons (by simp), List.splitOn_cons_eq_if_modifyHead, if_pos (by rfl), ih]
    · exact hnot
  | case4 c rest hnot hplain ih =>
    obtain ⟨hcr, hlf⟩ := not_or.1 hplain
    rw [replaceAll_cons (by simp [Ne.symm hcr]), replaceAll_cons (by simp [Ne.symm hcr]),
      List.splitOn_cons_eq_if_modifyHead, if_neg (by simpa using hlf), ih, bodyLines, if_neg hplain]
    exact hnot

theorem unbroken_bodyLines (body : List Char) : ∀ line ∈ bodyLines body, Unbroken line := by
  induction body using bodyLines.induct with
  | case1 =>
    intro line hmem
    rw [bodyLines, List.mem_singleton] at hmem
    subst hmem
    exact fun c hc => absurd hc List.not_mem_nil
  | case2 rest ih =>
    rw [bodyLines]
    exact List.forall_mem_cons.2 ⟨fun c hc => absurd hc List.not_mem_nil, ih⟩
  | case3 c rest hnot hbreak ih =>
    rw [bodyLines, if_pos hbreak]
    · exact List.forall_mem_cons.2 ⟨fun c hc => absurd hc List.not_mem_nil, ih⟩
    · exact hnot
  | case4 c rest hnot hplain ih =>
    rw [bodyLines, if_neg hplain]
    · cases hlines : bodyLines rest with
      | nil => exact fun _ h => absurd h List.not_mem_nil
      | cons first others =>
        rw [hlines] at ih
        refine List.forall_mem_cons.2 ⟨?_, fun line hmem => ih line (List.mem_cons_of_mem _ hmem)⟩
        exact List.forall_mem_cons.2 ⟨not_or.1 hplain, ih first List.mem_cons_self⟩
    · exact hnot

/-! ## The lines of a message -/

theorem unbroken_pad (width n : Nat) : Unbroken (FixedWidth.pad width n) := by
  have hdigit : ∀ d, d < 10 → Nat.digitChar d ≠ '\r' ∧ Nat.digitChar d ≠ '\n' := by decide
  induction width generalizing n with
  | zero => exact fun c hc => absurd hc List.not_mem_nil
  | succ width ih =>
    exact List.forall_mem_cons.2 ⟨hdigit _ (Nat.mod_lt _ (by decide)), ih _⟩

theorem unbroken_getD {names : List String} (h : ∀ name ∈ names, Unbroken name.toList)
    {default : String} (hdefault : Unbroken default.toList) (n : Nat) :
    Unbroken (names.getD n default).toList := by
  rw [List.getD_eq_getElem?_getD]
  cases hname : names[n]? with
  | none => exact hdefault
  | some name => exact h name (List.mem_of_getElem? hname)

theorem unbroken_date (now : Instant) : Unbroken (rfc5322Date now) := by
  have hday := unbroken_getD (by decide : ∀ name ∈ weekdays, Unbroken name.toList)
    (by decide : Unbroken "Mon".toList)
  have hmonth := unbroken_getD (by decide : ∀ name ∈ monthNames, Unbroken name.toList)
    (by decide : Unbroken "Jan".toList)
  have hcomma : Unbroken [',', ' '] := by decide
  have hspace : Unbroken [' '] := by decide
  have hcolon : Unbroken [':'] := by decide
  have hzone : Unbroken " +0000".toList := by decide
  have hpad := unbroken_pad
  unfold rfc5322Date
  exact ((((((((((((hday _).append hcomma).append (hpad _ _)).append hspace).append
    (hmonth _)).append hspace).append (hpad _ _)).append hspace).append (hpad _ _)).append
    hcolon).append (hpad _ _)).append hcolon).append (hpad _ _) |>.append hzone

/-- The header lines of a message. -/
def messageHeaders (message : Message) (now : Instant) : List Bytes :=
  [("From", message.sender.toList), ("To", message.recipient.toList),
    ("Subject", message.subject.toList), ("Date", rfc5322Date now), ("MIME-Version", "1.0".toList),
    ("Content-Type", "text/plain; charset=utf-8".toList),
    ("Content-Transfer-Encoding", "8bit".toList), ("Auto-Submitted", "auto-generated".toList)].map
  fun header => asBytes (header.1.toList ++ [':', ' '] ++ header.2)

/-- The lines of a message as it goes on the wire. -/
def messageLines (message : Message) (now : Instant) : List Bytes :=
  messageHeaders message now ++ [] :: (bodyLines message.body.toList).map asBytes

theorem wireBytes_eq (message : Message) (now : Instant) :
    message.wireBytes now = joined (messageLines message now) := by
  have hbody : ((normalisedLines message.body.toList).flatMap fun line => asBytes line ++ crlf) =
      joined ((bodyLines message.body.toList).map asBytes) := by
    rw [normalisedLines_eq, joined, List.flatMap_map]
    rfl
  rw [Message.wireBytes, hbody, messageLines, joined_append, joined_cons]
  simp only [messageHeaders, List.map_cons, List.map_nil, joined_cons, joined_nil, List.append_nil,
    List.append_assoc]
  rfl

/-- A message that could be built has headers without line breaks. -/
theorem new_ok {sender recipient subject body : String} {message : Message}
    (h : Message.new sender recipient subject body = .ok message) :
    message = { sender, recipient, subject, body } ∧
      Unbroken sender.toList ∧ Unbroken recipient.toList ∧ Unbroken subject.toList := by
  have hheader : ∀ {field value : String} {u : Unit}, checkHeader field value = .ok u →
      Unbroken value.toList := by
    intro field value u hchecked c hc
    unfold checkHeader at hchecked
    split at hchecked
    · cases hchecked
    · split at hchecked
      · cases hchecked
      · rename_i hbreak
        obtain ⟨hcr, hlf⟩ := not_or.1 hbreak
        exact ⟨fun heq => hcr (heq ▸ hc), fun heq => hlf (heq ▸ hc)⟩
  unfold Message.new at h
  cases hfrom : checkHeader "from" sender with
  | error e => rw [hfrom] at h; cases h
  | ok u =>
    cases hto : checkHeader "to" recipient with
    | error e => rw [hfrom, hto] at h; cases h
    | ok u =>
      cases hsubject : checkHeader "subject" subject with
      | error e => rw [hfrom, hto, hsubject] at h; cases h
      | ok u =>
        refine ⟨?_, hheader hfrom, hheader hto, hheader hsubject⟩
        rw [hfrom, hto, hsubject] at h
        -- the shape of the two addresses is checked last
        unfold checkAddress at h
        split at h
        · split at h
          · exact (Except.ok.inj h).symm
          · cases h
        · cases h

theorem plain_messageLines {message : Message} (hsender : Unbroken message.sender.toList)
    (hrecipient : Unbroken message.recipient.toList) (hsubject : Unbroken message.subject.toList)
    (now : Instant) : ∀ line ∈ messageLines message now, Plain line := by
  intro line hmem
  rcases List.mem_append.1 hmem with hheader | hrest
  · obtain ⟨header, hlisted, rfl⟩ := List.mem_map.1 hheader
    have hname : ∀ (name : String) {value : List Char}, Unbroken name.toList → Unbroken value →
        Plain (asBytes (name.toList ++ [':', ' '] ++ value)) := fun _ _ hn hv =>
      plain_asBytes ((hn.append (by decide)).append hv)
    simp only [List.mem_cons, List.not_mem_nil, or_false] at hlisted
    rcases hlisted with rfl | rfl | rfl | rfl | rfl | rfl | rfl | rfl
    · exact hname "From" (by decide) hsender
    · exact hname "To" (by decide) hrecipient
    · exact hname "Subject" (by decide) hsubject
    · exact hname "Date" (by decide) (unbroken_date now)
    · exact hname "MIME-Version" (by decide) (by decide)
    · exact hname "Content-Type" (by decide) (by decide)
    · exact hname "Content-Transfer-Encoding" (by decide) (by decide)
    · exact hname "Auto-Submitted" (by decide) (by decide)
  · rcases List.mem_cons.1 hrest with rfl | hbody
    · exact ⟨List.not_mem_nil, List.not_mem_nil⟩
    · obtain ⟨text, htext, rfl⟩ := List.mem_map.1 hbody
      exact plain_asBytes (unbroken_bodyLines _ text htext)

/-! ## The `DATA` phase -/

theorem stuffedFrom_plain {line : Bytes} (h : Plain line) (rest : Bytes) :
    stuffedFrom false (ended line ++ rest) = ended line ++ stuffedFrom true rest := by
  induction line with
  | nil => rfl
  | cons b line ih =>
    have hlf : b ≠ lf := fun heq => h.no_lf (heq ▸ List.mem_cons_self)
    show stuffedFrom false (b :: (ended line ++ rest)) = _
    rw [stuffedFrom, if_neg (fun hdot => Bool.false_ne_true hdot.1), decide_eq_false hlf, ih
      ⟨fun hmem => h.no_cr (List.mem_cons_of_mem b hmem), fun hmem =>
        h.no_lf (List.mem_cons_of_mem b hmem)⟩]
    rfl

/-- The dots are doubled line by line. -/
theorem stuffed_joined {text : List Bytes} (h : ∀ line ∈ text, Plain line) :
    stuffed (joined text) = joined (text.map dotted) := by
  unfold stuffed
  induction text with
  | nil => rfl
  | cons line text ih =>
    have hrest := ih fun other hmem => h other (List.mem_cons_of_mem line hmem)
    have hline := h line List.mem_cons_self
    rw [List.map_cons, joined_cons, joined_cons, ← hrest]
    cases line with
    | nil => rfl
    | cons b line =>
      have hlf : b ≠ lf := fun heq => hline.no_lf (heq ▸ List.mem_cons_self)
      have hbehind := @stuffedFrom_plain line
        ⟨fun hmem => hline.no_cr (List.mem_cons_of_mem b hmem), fun hmem =>
          hline.no_lf (List.mem_cons_of_mem b hmem)⟩ (joined text)
      show stuffedFrom true (b :: (ended line ++ joined text)) = _
      rw [stuffedFrom, decide_eq_false hlf, hbehind, dotted, List.head?_cons]
      by_cases hdot : b = DotLines.dot
      · rw [if_pos ⟨rfl, hdot⟩, if_pos (congrArg some hdot), hdot]
        rfl
      · rw [if_neg (fun h => hdot h.2), if_neg (fun h => hdot (Option.some.inj h))]
        rfl

/-! ## Commands -/

theorem unbroken_ehloLine {fromAddress : String} (h : Unbroken fromAddress.toList) :
    Unbroken (Smtp.ehloLine fromAddress) := by
  refine Unbroken.append (by decide) ?_
  unfold Smtp.senderDomain
  dsimp only
  split
  · exact fun c hc => h c ((List.rtakeWhile_suffix _ _).subset hc)
  · decide

/-- What the relay is told of the two addresses. -/
def addressLines (settings : EmailSettings) (message : Message) : List (List Char) :=
  [Smtp.ehloLine settings.fromAddress,
    "MAIL FROM:<".toList ++ settings.fromAddress.toList ++ ['>'],
    "RCPT TO:<".toList ++ message.recipient.toList ++ ['>']]

/-- A message that could be built is received as it was written and nothing after it.  Its breaks
are all CRLF, its eight headers end at its own blank line, and the lines of the body follow.  Sent
in its sender's name, it stays within the commands that carry the addresses. -/
theorem message_delivered {sender recipient subject body : String} {message : Message}
    (now : Instant) (h : Message.new sender recipient subject body = .ok message) :
    receive (stuffed (message.wireBytes now) ++ dot :: crlf) = some (message.wireBytes now, []) ∧
      Paired (message.wireBytes now) ∧
      (lines (message.wireBytes now) =
          (messageHeaders message now ++ [] :: (bodyLines body.toList).map asBytes, []) ∧
        (messageHeaders message now).length = 8 ∧
        ∀ header ∈ messageHeaders message now, header ≠ []) ∧
      ∀ settings : EmailSettings, settings.fromAddress = message.sender →
        ∀ line ∈ addressLines settings message, Plain (asBytes line) := by
  obtain ⟨rfl, hsender, hrecipient, hsubject⟩ := new_ok h
  have hplain := @plain_messageLines { sender, recipient, subject, body } hsender hrecipient hsubject
    now
  rw [wireBytes_eq]
  refine ⟨?_, paired_joined hplain, ⟨lines_joined hplain, rfl, ?_⟩, fun settings hfrom => ?_⟩
  · rw [stuffed_joined hplain]
    exact receive_dotted hplain []
  · intro header hmem hempty
    obtain ⟨entry, hlisted, rfl⟩ := List.mem_map.1 hmem
    -- the colon is written whatever the header holds
    have hcolon : asBytes [':', ' '] = [58, 32] := by decide
    have happend : asBytes (entry.1.toList ++ [':', ' '] ++ entry.2) =
        asBytes entry.1.toList ++ [58, 32] ++ asBytes entry.2 := by
      rw [← hcolon]
      simp [asBytes]
    rw [happend] at hempty
    simp at hempty
  · intro line hmem
    simp only [addressLines, List.mem_cons, List.not_mem_nil, or_false] at hmem
    rw [hfrom] at hmem
    rcases hmem with rfl | rfl | rfl
    · exact plain_asBytes (unbroken_ehloLine hsender)
    · exact plain_asBytes ((Unbroken.append (by decide) hsender).append (by decide))
    · exact plain_asBytes ((Unbroken.append (by decide) hrecipient).append (by decide))

/-- A body that ends a line in each of the ways, and tries to end the message. -/
def dottedBody : String := ".\r\nfirst\r.\nQUIT\r\n"

def dottedMessage : Message where
  sender := "bills@example.com"
  recipient := "ops@example.org"
  subject := "Statement"
  body := dottedBody

theorem dotted_body_delivered :
    receive (stuffed (dottedMessage.wireBytes Sample.noon) ++ dot :: crlf) =
        some (dottedMessage.wireBytes Sample.noon, []) ∧
      bodyLines dottedBody.toList =
        [".".toList, "first".toList, ".".toList, "QUIT".toList, "".toList] :=
  ⟨(@message_delivered _ _ _ _ dottedMessage Sample.noon
    (by decide : Message.new "bills@example.com" "ops@example.org" "Statement" dottedBody = _)).1,
    by decide⟩

end PartnerPortal

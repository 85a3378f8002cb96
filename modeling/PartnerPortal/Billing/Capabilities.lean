import PartnerPortal.Billing.Replies
import PartnerPortal.Lib.DotLines

/-!
# The capabilities of a relay

The reply to `EHLO` lists what a relay can do, a line for each.  It arrives in any pieces and is
read whole, but what is kept of its text is cut as an error message would be.

Results:
- `line_arrives` — a line is taken whole in whatever pieces it comes;
- `reply_arrives` — a reply is read as its lines are, and its text is cut;
- `words_iff` — the words of the cut text are those of the lines exactly when the cut leaves the
  last word whole;
- `capabilities_iff` — so the capability list is complete exactly then, after `hello` and after
  `starttls`.
-/

namespace PartnerPortal.Smtp

open Exchange DotLines

variable {p : Platform}

/-! ## A reply in pieces -/

/-- What passes while a reply is read. -/
def Traffic.OfReply : Traffic → Prop
  | .received _ _ => True
  | .took _ => True
  | _ => False

/-- The bytes a relay still sends after some traffic, in pieces of its own choice. -/
def Sends (relay : Relay) (traffic : List Traffic) (pending : Bytes) : Prop :=
  ∀ more, (∀ e ∈ more, e.OfReply) → receivedBytes more <+: pending →
    receivedBytes more ≠ pending → ∃ bytes, relay.reads (traffic ++ more) = .ok bytes ∧ bytes ≠ [] ∧
      receivedBytes more ++ bytes.take chunkBytes <+: pending

/-- A connection on which these bytes are still to be read, some of which have come already. -/
structure Awaits (p : Platform) (c : Conversation) (stream : Bytes) : Prop where
  arrives : ∃ pending, c.session.unread ++ pending = stream ∧ Sends p.relay c.traffic pending
  connected : c.session.wire.isSome

theorem Sends.took {relay : Relay} {traffic : List Traffic} {pending : Bytes}
    (h : Sends relay traffic pending) (line : Bytes) :
    Sends relay (traffic ++ [.took line]) pending := by
  intro more hmore hprefix hne
  have hsame : receivedBytes (.took line :: more) = receivedBytes more := rfl
  obtain ⟨bytes, hreads, hbytes, hnext⟩ := h (.took line :: more)
    (List.forall_mem_cons.2 ⟨trivial, hmore⟩) (hsame ▸ hprefix) (hsame ▸ hne)
  exact ⟨bytes, by rw [List.append_assoc]; exact hreads, hbytes, hsame ▸ hnext⟩

theorem Sends.received {relay : Relay} {traffic : List Traffic} {got pending : Bytes}
    (h : Sends relay traffic (got ++ pending)) (wire : Wire) :
    Sends relay (traffic ++ [.received wire got]) pending := by
  intro more hmore hprefix hne
  have hall : receivedBytes (.received wire got :: more) = got ++ receivedBytes more := rfl
  obtain ⟨bytes, hreads, hbytes, hnext⟩ := h (.received wire got :: more)
    (List.forall_mem_cons.2 ⟨trivial, hmore⟩)
    (by rw [hall]; exact (List.prefix_append_right_inj got).2 hprefix)
    (by rw [hall]; exact fun heq => hne (List.append_cancel_left heq))
  rw [hall, List.append_assoc] at hnext
  exact ⟨bytes, by rw [List.append_assoc]; exact hreads, hbytes,
    (List.prefix_append_right_inj got).1 hnext⟩

/-- The first line of some bytes, whatever they go on with. -/
theorem nextLine_of_prefix {s : Session} {line rest pending : Bytes}
    (hstream : s.unread ++ pending = line ++ lf :: rest) (hline : lf ∉ line) (hlf : lf ∈ s.unread) :
    s.nextLine = some (line ++ [lf]) := by
  have hprefix : line ++ [lf] <+: s.unread := by
    rcases List.append_eq_append_iff.1 hstream with ⟨more, hmore, -⟩ | ⟨more, hmore, hrest⟩
    · -- the unread bytes would stay within the line
      exact absurd (hmore ▸ List.mem_append_left more hlf) hline
    · cases more with
      | nil =>
        rw [List.append_nil] at hmore
        exact absurd (hmore ▸ hlf) hline
      | cons b more =>
        have hb : b = lf := (List.cons.inj hrest).1.symm
        exact ⟨more, by rw [hmore, hb, List.append_assoc]; rfl⟩
  obtain ⟨more, hmore⟩ := hprefix
  have htake : s.unread.takeWhile (· ≠ lf) = line := by
    rw [← hmore, List.append_assoc, List.takeWhile_append_of_pos
      (fun b hb => by simpa using fun heq : b = lf => hline (heq ▸ hb))]
    simp
  rw [Session.nextLine, if_pos hlf, htake]

/-- A line is taken whole in whatever pieces it comes. -/
theorem line_arrives {r : ReplyState} {line rest : Bytes}
    (h : Awaits p r.conversation (line ++ lf :: rest)) (hline : lf ∉ line)
    (hfits : line.length ≤ maxReplyBytes) :
    ∃ n next, turns p n r = .goes next ∧ next.code = r.code ∧ next.text = r.text ∧
      next.conversation.session.nextLine = some (line ++ [lf]) ∧
      Awaits p (next.conversation.took (line ++ [lf])) rest := by
  obtain ⟨⟨pending, hstream, hsends⟩, hconnected⟩ := h
  induction hlength : pending.length using Nat.strong_induction_on generalizing r pending with
  | _ size ih =>
    subst hlength
    rcases Classical.em (lf ∈ r.conversation.session.unread) with hlf | hnone
    · -- the line is there already, and is taken without a read
      have hnext := nextLine_of_prefix hstream hline hlf
      refine ⟨0, r, rfl, rfl, rfl, hnext, ⟨pending, ?_, hsends.took _⟩, hconnected⟩
      have hunread := unread_took hnext
      rw [hunread, List.append_assoc, List.append_assoc] at hstream
      exact (List.cons.inj (List.append_cancel_left hstream)).2
    · -- what is there is a part of the line, so there is room and a read brings more
      have hshort : r.conversation.session.unread <+: line := by
        rcases List.append_eq_append_iff.1 hstream with ⟨more, hmore, -⟩ | ⟨more, hmore, hrest⟩
        · exact ⟨more, hmore.symm⟩
        · cases more with
          | nil => exact ⟨[], by rw [hmore, List.append_nil, List.append_nil]⟩
          | cons b more =>
            have hb : b = lf := (List.cons.inj hrest).1.symm
            exact absurd (by rw [hmore, hb]; exact List.mem_append_right _ List.mem_cons_self) hnone
      have hpending : pending ≠ [] := by
        rintro rfl
        rw [List.append_nil] at hstream
        exact hnone (hstream ▸ List.mem_append_right _ List.mem_cons_self)
      obtain ⟨bytes, hreads, hbytes, pending', hpending'⟩ :=
        hsends [] (by simp) List.nil_prefix (Ne.symm hpending)
      obtain ⟨wire, hwire⟩ := Option.isSome_iff_exists.1 hconnected
      let next : ReplyState := { r with
        conversation := r.conversation.compacted.received wire (bytes.take chunkBytes) }
      have hreads' : p.relay.reads r.conversation.compacted.traffic = .ok bytes := by
        rw [← hreads, List.append_nil]
        rfl
      have hturn : turn p r = .goes next :=
        turn_reads hnone (hshort.length_le.trans hfits) hwire hreads' hbytes
      -- the induction is on what the relay still has to send
      have hless : pending'.length < pending.length := by
        have hpos : 0 < (bytes.take chunkBytes).length := by
          rw [List.length_take]
          exact Nat.lt_min.2 ⟨by decide, List.length_pos_iff.2 hbytes⟩
        rw [← hpending', List.length_append, List.length_append]
        exact Nat.lt_add_of_pos_left (Nat.add_pos_right _ hpos)
      have hsplit : bytes.take chunkBytes ++ pending' = pending := hpending'
      rw [← hsplit] at hstream hsends
      have hstream' : next.conversation.session.unread ++ pending' = line ++ lf :: rest := by
        rw [← hstream]
        exact List.append_assoc _ _ _
      obtain ⟨n, last, hrun, hcode, htext, hnext, hawaits⟩ := @ih pending'.length hless next
        hconnected pending' hstream' (hsends.received wire) rfl
      refine ⟨n + 1, last, ?_, hcode, htext, hnext, hawaits⟩
      rw [turns, hturn]
      exact hrun

/-! ## A reply and its lines -/

/-- A line of the reply to `EHLO`, without its CRLF: code 250, a separator and a text. -/
def replyBytes (separator : UInt8) (text : Bytes) : Bytes := [50, 53, 48, separator] ++ text

def hyphen : UInt8 := 45

def blank : UInt8 := 32

/-- A reply on the wire: lines that are continued, and the last. -/
def wholeReply (continued : List Bytes) (last : Bytes) : Bytes :=
  joined (continued.map (replyBytes hyphen)) ++ ended (replyBytes blank last)

/-- The text of a reply: its lines with LF between them. -/
def replyText (continued : List Bytes) (last : Bytes) : List Char :=
  continued.flatMap (fun text => Utf8.characters text ++ ['\n']) ++ Utf8.characters last

/-- A decoded line holds a line break only where its bytes do. -/
theorem unbroken_characters {text : Bytes} (h : Plain text) :
    Unbroken (Utf8.characters text) := by
  intro c hc
  constructor
  · rintro rfl
    exact h.no_cr (Utf8.ascii_of_mem_characters hc (by decide))
  · rintro rfl
    exact h.no_lf (Utf8.ascii_of_mem_characters hc (by decide))

theorem characters_replyBytes {separator : UInt8} (hseparator : separator < 0x80) (text : Bytes) :
    Utf8.characters (ended (replyBytes separator text)) =
      ['2', '5', '0', Char.ofNat separator.toNat] ++ Utf8.characters text ++ ['\r', '\n'] := by
  show Utf8.characters (50 :: 53 :: 48 :: separator :: (text ++ Lines.cr :: [Lines.lf])) = _
  rw [Utf8.characters_cons_ascii (by decide), Utf8.characters_cons_ascii (by decide),
    Utf8.characters_cons_ascii (by decide), Utf8.characters_cons_ascii hseparator,
    Utf8.characters_before_ascii _ (by decide), Utf8.characters_cons_ascii (by decide),
    Utf8.characters_cons_ascii (by decide), Utf8.characters]
  rfl

/-- A line of the reply without its line break. -/
theorem trimLineEnd_reply {separator : Char} (hseparator : separator ≠ '\r' ∧ separator ≠ '\n')
    {text : List Char} (htext : Unbroken text) :
    trimLineEnd (['2', '5', '0', separator] ++ text ++ ['\r', '\n']) =
      '2' :: '5' :: '0' :: separator :: text := by
  have hplain : Unbroken ('2' :: '5' :: '0' :: separator :: text) := by
    refine List.forall_mem_cons.2 ⟨by decide, List.forall_mem_cons.2 ⟨by decide,
      List.forall_mem_cons.2 ⟨by decide, List.forall_mem_cons.2 ⟨hseparator, htext⟩⟩⟩⟩
  have hsplit : ['2', '5', '0', separator] ++ text ++ ['\r', '\n'] =
      ('2' :: '5' :: '0' :: separator :: text) ++ ['\r'] ++ ['\n'] := by simp
  rw [trimLineEnd, hsplit, List.rdropWhile_concat_pos _ _ _ (by decide),
    List.rdropWhile_concat_pos _ _ _ (by decide), List.rdropWhile_eq_self_iff]
  intro hne
  rw [Bool.or_eq_true, decide_eq_true_eq, decide_eq_true_eq, not_or]
  exact hplain _ (List.getLast_mem hne)

/-- What a continued line of the reply adds. -/
theorem replyLine_continued {code : Option (List Char)}
    (hcode : code.any (· ≠ ['2', '5', '0']) = false) {line : Bytes} (hline : Plain line)
    (text : List Char) :
    replyLine p code text (Utf8.characters (ended (replyBytes hyphen line))) =
      .ok (.continued ['2', '5', '0'] (text ++ Utf8.characters line ++ ['\n'])) := by
  rw [characters_replyBytes (by decide)]
  unfold replyLine
  rw [trimLineEnd_reply (by decide) (unbroken_characters hline)]
  show (if code.any (· ≠ ['2', '5', '0']) = true then _ else _) = _
  rw [hcode, if_neg Bool.false_ne_true]
  rfl

/-- What the last line of the reply comes to. -/
theorem replyLine_ended {code : Option (List Char)}
    (hcode : code.any (· ≠ ['2', '5', '0']) = false) {line : Bytes} (hline : Plain line)
    (text : List Char) :
    replyLine p code text (Utf8.characters (ended (replyBytes blank line))) =
      .ok (.ended { code := 250, text := bounded (text ++ Utf8.characters line) }) := by
  rw [characters_replyBytes (by decide)]
  unfold replyLine
  rw [trimLineEnd_reply (by decide) (unbroken_characters hline)]
  show (if code.any (· ≠ ['2', '5', '0']) = true then _ else _) = _
  rw [hcode, if_neg Bool.false_ne_true]
  rfl

/-- A line that fits whole, with its CRLF but one byte, between two reads. -/
def Fits (text : Bytes) : Prop := (replyBytes hyphen text).length + 1 ≤ maxReplyBytes

instance (text : Bytes) : Decidable (Fits text) := Nat.decLe _ _

theorem ended_split (line rest : Bytes) :
    ended line ++ rest = (line ++ [Lines.cr]) ++ lf :: rest := by
  rw [ended, List.append_assoc, List.append_assoc]
  rfl

/-- One line of the reply arrives. -/
theorem replyLine_arrives {r : ReplyState} {separator : UInt8} {text rest : Bytes}
    (h : Awaits p r.conversation (ended (replyBytes separator text) ++ rest)) (hplain : Plain text)
    (hseparator : separator ≠ lf) (hfits : Fits text) :
    ∃ n next, turns p n r = .goes next ∧ next.code = r.code ∧ next.text = r.text ∧
      next.conversation.session.nextLine = some (ended (replyBytes separator text)) ∧
      Awaits p (next.conversation.took (ended (replyBytes separator text))) rest := by
  have hline : lf ∉ replyBytes separator text ++ [Lines.cr] := by
    intro hmem
    simp only [replyBytes, List.append_assoc, List.mem_append, List.mem_cons, List.not_mem_nil,
      or_false] at hmem
    rcases hmem with (h | h | h | h) | h | h
    · exact absurd h (by decide)
    · exact absurd h (by decide)
    · exact absurd h (by decide)
    · exact hseparator h.symm
    · exact hplain.no_lf h
    · exact absurd h (by decide)
  have hlength : (replyBytes separator text ++ [Lines.cr]).length ≤ maxReplyBytes := by
    rw [List.length_append]
    exact hfits
  rw [ended_split] at h
  have harrives := line_arrives h hline hlength
  rw [List.append_assoc] at harrives
  exact harrives

/-- A reply is read as its lines are, and its text is cut. -/
theorem reply_arrives {r : ReplyState} {continued : List Bytes} {last after : Bytes}
    (hawaits : Awaits p r.conversation (wholeReply continued last ++ after))
    (hcode : r.code.any (· ≠ ['2', '5', '0']) = false) (hplain : ∀ text ∈ continued, Plain text)
    (hfits : ∀ text ∈ continued, Fits text) (hlast : Plain last) (hlastfits : Fits last) :
    ∃ n c, turns p n r =
      .stops (.ok { code := 250, text := bounded (r.text ++ replyText continued last) }) c := by
  induction continued generalizing r with
  | nil =>
    obtain ⟨n, next, hrun, hcode', htext, hnext, -⟩ :=
      replyLine_arrives hawaits hlast (by decide) hlastfits
    refine ⟨n + 1, next.conversation.took (ended (replyBytes blank last)), ?_⟩
    rw [turns_succ hrun, turn, hnext]
    show addLine p next _ = _
    unfold addLine
    rw [replyLine_ended (hcode' ▸ hcode) hlast, htext]
    rfl
  | cons text continued ih =>
    have hstream : wholeReply (text :: continued) last ++ after =
        ended (replyBytes hyphen text) ++ (wholeReply continued last ++ after) := by
      rw [wholeReply, List.map_cons, joined_cons, List.append_assoc, List.append_assoc, wholeReply,
        List.append_assoc]
    rw [hstream] at hawaits
    obtain ⟨n, next, hrun, hcode', htext, hnext, hrest⟩ := replyLine_arrives hawaits
      (hplain text List.mem_cons_self) (by decide) (hfits text List.mem_cons_self)
    -- a continued line is added with its newline, and the rest of the reply is behind it
    let taken : ReplyState :=
      { conversation := next.conversation.took (ended (replyBytes hyphen text))
        code := some ['2', '5', '0']
        text := r.text ++ Utf8.characters text ++ ['\n'] }
    have htaken : turns p (n + 1) r = .goes taken := by
      rw [turns_succ hrun, turn, hnext]
      show addLine p next _ = _
      unfold addLine
      rw [replyLine_continued (hcode' ▸ hcode) (hplain text List.mem_cons_self), htext]
    obtain ⟨m, c, hstops⟩ := @ih taken hrest rfl
      (fun other hmem => hplain other (List.mem_cons_of_mem text hmem))
      fun other hmem => hfits other (List.mem_cons_of_mem text hmem)
    refine ⟨n + 1 + m, c, (turns_add htaken).trans (hstops.trans ?_)⟩
    have hwhole : taken.text ++ replyText continued last =
        r.text ++ replyText (text :: continued) last := by
      simp only [taken, replyText, List.flatMap_cons, List.append_assoc]
    rw [hwhole]

/-! ## Words -/

/-- Lines with LF after each. -/
def brokenLines (lines : List (List Char)) : List Char := lines.flatMap (· ++ ['\n'])

theorem splitOn_brokenLines {lines : List (List Char)} (h : ∀ line ∈ lines, Unbroken line)
    (rest : List Char) :
    (brokenLines lines ++ rest).splitOn '\n' = lines ++ rest.splitOn '\n' := by
  induction lines with
  | nil => rfl
  | cons line lines ih =>
    have hsplit : brokenLines (line :: lines) ++ rest =
        line ++ '\n' :: (brokenLines lines ++ rest) := by
      simp [brokenLines]
    rw [hsplit, List.splitOn_append_cons_self,
      List.splitOn_eq_singleton (Unbroken.no_lf (h line List.mem_cons_self)),
      ih fun other hmem => h other (List.mem_cons_of_mem line hmem)]
    rfl

/-- The words of a text without CR: the first of every line after the first. -/
theorem capabilityWords_eq {text : List Char} (h : '\r' ∉ text) :
    capabilityWords text = ((text.splitOn '\n').drop 1).filterMap firstWord := by
  rcases List.eq_nil_or_concat (text.splitOn '\n') with hnil | ⟨init, last, hlines⟩
  · exact absurd hnil (List.splitOn_ne_nil '\n' text)
  · rw [List.concat_eq_append] at hlines
    have hkept : ∀ line ∈ init,
        (if line.getLast? = some '\r' then line.dropLast else line) = line := by
      intro line hline
      refine if_neg fun hlast => h ?_
      exact Text.mem_of_mem_splitOn (by rw [hlines]; exact List.mem_append_left _ hline)
        (List.mem_of_getLast? hlast)
    have htext : textLines text = init ++ [last].filter (· ≠ []) := by
      unfold textLines
      dsimp only
      rw [hlines, List.dropLast_concat, List.map_congr_left hkept, List.map_id',
        List.getLast?_concat]
      rfl
    rw [capabilityWords, htext, hlines]
    cases last with
    | cons c last => rfl
    | nil =>
      -- the empty part after a last LF is no line, and has no word either
      cases init with
      | nil => rfl
      | cons first init =>
        show (init ++ []).filterMap firstWord = (init ++ [[]]).filterMap firstWord
        rw [List.filterMap_append, List.filterMap_append]
        rfl

/-- A text has fewer words than lines. -/
theorem length_capabilityWords {text : List Char} (h : '\r' ∉ text) :
    (capabilityWords text).length ≤ text.count '\n' := by
  rw [capabilityWords_eq h]
  refine (List.length_filterMap_le _ _).trans ?_
  rw [List.length_drop, Text.length_splitOn]
  exact Nat.le_refl _

/-! ## A well-formed reply -/

/-- A line that names a capability: a keyword, and its parameters after a blank. -/
structure CapabilityLine where
  keyword : Bytes
  params : Bytes
  named : keyword ≠ []
  visible : ∀ b ∈ keyword, 0x21 ≤ b ∧ b ≤ 0x7E
  apart : params.head?.all (fun b => b = 32 || b = 9) = true
  plain : Plain params

namespace CapabilityLine

def bytes (line : CapabilityLine) : Bytes := line.keyword ++ line.params

def word (line : CapabilityLine) : List Char := line.keyword.map fun b => Char.ofNat b.toNat

def paramChars (line : CapabilityLine) : List Char := Utf8.characters line.params

theorem bytes_plain (line : CapabilityLine) : Plain line.bytes := by
  constructor
  · intro hmem
    rcases List.mem_append.1 hmem with hmem | hmem
    · exact absurd (line.visible _ hmem) (by decide)
    · exact line.plain.no_cr hmem
  · intro hmem
    rcases List.mem_append.1 hmem with hmem | hmem
    · exact absurd (line.visible _ hmem) (by decide)
    · exact line.plain.no_lf hmem

theorem characters_bytes (line : CapabilityLine) :
    Utf8.characters line.bytes = line.word ++ line.paramChars := by
  have hkeyword : ∀ keyword : Bytes, (∀ b ∈ keyword, 0x21 ≤ b ∧ b ≤ 0x7E) →
      Utf8.characters (keyword ++ line.params) =
        keyword.map (fun b => Char.ofNat b.toNat) ++ line.paramChars := by
    intro keyword hvisible
    induction keyword with
    | nil => rfl
    | cons b keyword ih =>
      have hb : b < 0x80 := UInt8.lt_of_le_of_lt (hvisible b List.mem_cons_self).2 (by decide)
      rw [List.cons_append, Utf8.characters_cons_ascii hb,
        ih fun other hmem => hvisible other (List.mem_cons_of_mem b hmem)]
      rfl
  exact hkeyword line.keyword line.visible

/-- The characters of a keyword are visible ASCII. -/
theorem mem_word {line : CapabilityLine} {c : Char} (h : c ∈ line.word) :
    0x21 ≤ c.toNat ∧ c.toNat ≤ 0x7E := by
  obtain ⟨b, hb, rfl⟩ := List.mem_map.1 h
  rw [Utf8.toNat_ofNat_byte]
  obtain ⟨hlow, hhigh⟩ := line.visible b hb
  exact ⟨UInt8.le_iff_toNat_le.1 hlow, UInt8.le_iff_toNat_le.1 hhigh⟩

theorem word_ne_nil (line : CapabilityLine) : line.word ≠ [] :=
  fun h => line.named (List.map_eq_nil_iff.1 h)

theorem word_no_space {line : CapabilityLine} {c : Char} (h : c ∈ line.word) :
    Text.isWhitespace c = false := by
  obtain ⟨hlow, hhigh⟩ := mem_word h
  simp only [Text.isWhitespace, Bool.or_eq_false_iff, Bool.and_eq_false_iff,
    decide_eq_false_iff_not]
  omega

theorem word_unbroken (line : CapabilityLine) : Unbroken line.word := by
  intro c hc
  constructor
  · rintro rfl
    exact absurd (mem_word hc) (by decide)
  · rintro rfl
    exact absurd (mem_word hc) (by decide)

/-- The parameters begin with a blank. -/
theorem paramChars_head (line : CapabilityLine) :
    line.paramChars.head?.all Text.isWhitespace = true := by
  have hapart := line.apart
  rw [paramChars]
  cases hparams : line.params with
  | nil =>
    rw [Utf8.characters]
    rfl
  | cons b params =>
    rw [hparams] at hapart
    have hb : b = 32 ∨ b = 9 := by simpa using hapart
    rcases hb with rfl | rfl
    · rw [Utf8.characters_cons_ascii (by decide)]
      rfl
    · rw [Utf8.characters_cons_ascii (by decide)]
      rfl

end CapabilityLine

/-! ## The word of a line -/

theorem firstWord_of {word rest : List Char} (hword : word ≠ [])
    (hspace : ∀ c ∈ word, Text.isWhitespace c = false)
    (hrest : rest.head?.all Text.isWhitespace = true) : firstWord (word ++ rest) = some word := by
  have hstart : (word ++ rest).dropWhile Text.isWhitespace = word ++ rest := by
    cases word with
    | nil => exact absurd rfl hword
    | cons c word =>
      rw [List.cons_append, List.dropWhile_cons_of_neg]
      rw [hspace c List.mem_cons_self]
      exact Bool.false_ne_true
  have hends : rest.takeWhile (fun c => !Text.isWhitespace c) = [] := by
    cases rest with
    | nil => rfl
    | cons c rest =>
      have hc : Text.isWhitespace c = true := hrest
      rw [List.takeWhile_cons_of_neg (by rw [hc]; decide)]
  have htake : (word ++ rest).takeWhile (fun c => !Text.isWhitespace c) = word := by
    rw [List.takeWhile_append_of_pos fun c hc => by rw [hspace c hc]; rfl, hends, List.append_nil]
  unfold firstWord
  dsimp only
  rw [hstart, htake, if_neg hword]

theorem firstWord_line (line : CapabilityLine) :
    firstWord (line.word ++ line.paramChars) = some line.word :=
  firstWord_of line.word_ne_nil (fun _ => CapabilityLine.word_no_space) line.paramChars_head

/-- A word that was cut has the ellipsis at its end. -/
theorem firstWord_cut {word : List Char} (hspace : ∀ c ∈ word, Text.isWhitespace c = false) :
    firstWord (word ++ ['…']) = some (word ++ ['…']) := by
  have hall : ∀ c ∈ word ++ ['…'], Text.isWhitespace c = false := by
    intro c hc
    rcases List.mem_append.1 hc with hc | hc
    · exact hspace c hc
    · rw [List.mem_singleton.1 hc]
      decide
  have h := @firstWord_of (word ++ ['…']) [] (by simp) hall rfl
  rwa [List.append_nil] at h

theorem unbroken_lines {first : List Char} {lines : List CapabilityLine}
    (hfirst : Unbroken first) :
    ∀ line ∈ first :: lines.map (fun line => line.word ++ line.paramChars), Unbroken line := by
  refine List.forall_mem_cons.2 ⟨hfirst, fun text htext => ?_⟩
  obtain ⟨line, -, rfl⟩ := List.mem_map.1 htext
  exact line.word_unbroken.append (unbroken_characters line.plain)

/-- The words after lines that are whole are their own, and that of what follows. -/
theorem capabilityWords_lines {first rest : List Char} {lines : List CapabilityLine}
    (hfirst : Unbroken first) (hrest : Unbroken rest) :
    capabilityWords
        (brokenLines (first :: lines.map fun line => line.word ++ line.paramChars) ++ rest) =
      lines.map (·.word) ++ (firstWord rest).toList := by
  have hlines := @unbroken_lines first lines hfirst
  have hcr : '\r' ∉ brokenLines (first :: lines.map fun line => line.word ++ line.paramChars) ++
      rest := by
    intro hmem
    rcases List.mem_append.1 hmem with hmem | hmem
    · obtain ⟨line, hline, hmem⟩ := List.mem_flatMap.1 hmem
      rcases List.mem_append.1 hmem with hmem | hmem
      · exact Unbroken.no_cr (hlines line hline) hmem
      · exact absurd hmem (by decide)
    · exact hrest.no_cr hmem
  rw [capabilityWords_eq hcr, splitOn_brokenLines hlines, List.splitOn_eq_singleton hrest.no_lf]
  show (lines.map (fun line => line.word ++ line.paramChars) ++ [rest]).filterMap firstWord = _
  rw [List.filterMap_append, List.filterMap_map]
  have hword : firstWord ∘ (fun line : CapabilityLine => line.word ++ line.paramChars) =
      some ∘ (·.word) := funext firstWord_line
  rw [hword, List.filterMap_eq_map]
  cases h : firstWord rest with
  | none => rw [List.filterMap_cons_none h]; rfl
  | some word => rw [List.filterMap_cons_some h]; rfl

/-! ## What the cut leaves -/

/-- A reply of several lines to `EHLO`: the greeting, and a capability on every further line. -/
structure EhloReply where
  greeting : Bytes
  others : List CapabilityLine
  last : CapabilityLine
  greets : Plain greeting

namespace EhloReply

/-- The lines that are continued. -/
def continued (reply : EhloReply) : List Bytes := reply.greeting :: reply.others.map (·.bytes)

def bytes (reply : EhloReply) : Bytes := wholeReply reply.continued reply.last.bytes

def text (reply : EhloReply) : List Char := replyText reply.continued reply.last.bytes

/-- The first word of every line after the first, in order. -/
def words (reply : EhloReply) : List (List Char) :=
  reply.others.map (·.word) ++ [reply.last.word]

/-- A capability is advertised, in letters of either case. -/
def Advertises (reply : EhloReply) (capability : String) : Prop :=
  ∃ word ∈ reply.words, word.map Char.toLower = capability.toList.map Char.toLower

/-- Every line fits, so the client accepts the reply in any pieces. -/
def Fits (reply : EhloReply) : Prop :=
  (∀ line ∈ reply.continued, Smtp.Fits line) ∧ Smtp.Fits reply.last.bytes

/-- The whole reply up to the end of the last keyword, and a character after it, stays uncut. -/
def Reaches (reply : EhloReply) : Prop :=
  reply.text.length ≤ maxErrorChars ∨
    reply.text.length - reply.last.paramChars.length < maxErrorChars

/-- The lines before the last, as they are read. -/
def before (reply : EhloReply) : List Char :=
  brokenLines (Utf8.characters reply.greeting ::
    reply.others.map fun line => line.word ++ line.paramChars)

theorem text_eq (reply : EhloReply) :
    reply.text = reply.before ++ (reply.last.word ++ reply.last.paramChars) := by
  rw [text, replyText, continued, before, brokenLines, List.flatMap_cons, List.flatMap_cons,
    List.flatMap_map, List.flatMap_map, CapabilityLine.characters_bytes]
  simp only [CapabilityLine.characters_bytes]

theorem before_no_cr (reply : EhloReply) : '\r' ∉ reply.before := by
  intro hmem
  obtain ⟨line, hline, hmem⟩ := List.mem_flatMap.1 hmem
  rcases List.mem_append.1 hmem with hmem | hmem
  · exact Unbroken.no_cr (unbroken_lines (unbroken_characters reply.greets) line hline) hmem
  · exact absurd hmem (by decide)

/-- LF ends the greeting and every line before the last. -/
theorem count_before (reply : EhloReply) : reply.before.count '\n' = reply.others.length + 1 := by
  have hsplit := congrArg List.length (splitOn_brokenLines
    (@unbroken_lines _ reply.others (unbroken_characters reply.greets)) [])
  rw [List.append_nil, Text.length_splitOn, List.length_append, List.length_cons,
    List.length_map, List.splitOn_nil] at hsplit
  exact Nat.succ.inj hsplit

theorem before_ends (reply : EhloReply) : ∃ front, reply.before = front ++ ['\n'] := by
  obtain hnil | ⟨init, last, hlines⟩ := List.eq_nil_or_concat
    (Utf8.characters reply.greeting :: reply.others.map fun line => line.word ++ line.paramChars)
  · cases hnil
  · refine ⟨brokenLines init ++ last, ?_⟩
    rw [before, hlines, List.concat_eq_append, brokenLines, List.flatMap_append, brokenLines]
    simp

/-- The words of a text that ends within the last line, before its end or after. -/
theorem words_of_rest (reply : EhloReply) {rest : List Char} (h : Unbroken rest) :
    capabilityWords (reply.before ++ rest) =
      reply.others.map (·.word) ++ (firstWord rest).toList :=
  capabilityWords_lines (unbroken_characters reply.greets) h

/-- A cut behind the last keyword loses no word. -/
theorem words_cut_behind (reply : EhloReply) {kept : List Char}
    (hkept : Unbroken kept) (hhead : kept.head?.all Text.isWhitespace = true) :
    capabilityWords (reply.before ++ (reply.last.word ++ kept)) = reply.words := by
  rw [reply.words_of_rest (reply.last.word_unbroken.append hkept),
    firstWord_of reply.last.word_ne_nil (fun _ => CapabilityLine.word_no_space) hhead]
  rfl

/-- A cut within the last line, but not behind its keyword, changes the last word. -/
theorem words_cut_within (reply : EhloReply) (n : Nat) :
    capabilityWords (reply.before ++ (reply.last.word.take n ++ ['…'])) ≠ reply.words := by
  have htake : ∀ c ∈ reply.last.word.take n, c ∈ reply.last.word :=
    fun c hc => List.mem_of_mem_take hc
  have hrest : Unbroken (reply.last.word.take n ++ ['…']) :=
    Unbroken.append (fun c hc => reply.last.word_unbroken c (htake c hc)) (by decide)
  rw [reply.words_of_rest hrest,
    firstWord_cut fun c hc => CapabilityLine.word_no_space (htake c hc)]
  intro hsame
  have hword : reply.last.word.take n ++ ['…'] = reply.last.word :=
    (List.cons.inj (List.append_cancel_left hsame)).1
  have hellipsis : '…' ∈ reply.last.word := hword ▸ List.mem_append_right _ List.mem_cons_self
  exact absurd (CapabilityLine.mem_word hellipsis) (by decide)

/-- A cut before the last line leaves too few words. -/
theorem words_cut_before (reply : EhloReply) {n : Nat} (h : n < reply.before.length) :
    capabilityWords (reply.before.take n ++ ['…']) ≠ reply.words := by
  have hcr : '\r' ∉ reply.before.take n ++ ['…'] := by
    intro hmem
    rcases List.mem_append.1 hmem with hmem | hmem
    · exact reply.before_no_cr (List.mem_of_mem_take hmem)
    · exact absurd hmem (by decide)
  have hlf : '\n' ∈ reply.before.drop n := by
    obtain ⟨front, hfront⟩ := reply.before_ends
    rw [hfront, List.length_append] at h
    rw [hfront, List.drop_append_of_le_length (Nat.le_of_lt_succ h)]
    exact List.mem_append_right _ List.mem_cons_self
  have hcount : reply.before.count '\n' =
      (reply.before.take n).count '\n' + (reply.before.drop n).count '\n' := by
    rw [← List.count_append, List.take_append_drop]
  have hlost := List.count_pos_iff.2 hlf
  have hfew := length_capabilityWords hcr
  rw [List.count_append, show ['…'].count '\n' = 0 from rfl] at hfew
  rw [count_before] at hcount
  intro hsame
  rw [hsame, words, List.length_append, List.length_map, List.length_singleton] at hfew
  omega

/-- The words of the cut text are those of the lines exactly when the cut leaves the last whole. -/
theorem words_iff (reply : EhloReply) :
    capabilityWords (bounded reply.text) = reply.words ↔ reply.Reaches := by
  have hlength : reply.text.length =
      reply.before.length + reply.last.word.length + reply.last.paramChars.length := by
    rw [text_eq, List.length_append, List.length_append, Nat.add_assoc]
  have hparams := unbroken_characters reply.last.plain
  rcases Nat.lt_or_ge maxErrorChars reply.text.length with hlong | hshort
  · rw [bounded, if_neg (Nat.not_le_of_lt hlong)]
    rcases Nat.lt_or_ge (reply.before.length + reply.last.word.length) maxErrorChars with
      hbehind | hreached
    · -- the parameters are cut, after at least one character
      obtain ⟨m, hm⟩ := Nat.exists_eq_add_of_lt hbehind
      have hcut : reply.text.take maxErrorChars ++ ['…'] =
          reply.before ++ (reply.last.word ++ (reply.last.paramChars.take (m + 1) ++ ['…'])) := by
        rw [text_eq, ← List.append_assoc, List.take_append, List.length_append,
          List.take_of_length_le (by rw [List.length_append]; exact hbehind.le), hm,
          Nat.add_assoc, Nat.add_sub_cancel_left]
        simp only [List.append_assoc]
      have hhead : (reply.last.paramChars.take (m + 1) ++ ['…']).head?.all Text.isWhitespace =
          true := by
        have hblank := reply.last.paramChars_head
        cases hchars : reply.last.paramChars with
        | nil =>
          rw [hchars, List.length_nil] at hlength
          exact absurd hbehind (Nat.not_lt_of_lt (hlength ▸ hlong))
        | cons c chars =>
          rw [hchars] at hblank
          exact hblank
      rw [hcut]
      refine iff_of_true (reply.words_cut_behind (Unbroken.append ?_ (by decide)) hhead) (Or.inr ?_)
      · exact fun c hc => hparams c (List.mem_of_mem_take hc)
      · rw [hlength, Nat.add_sub_cancel_right]
        exact hbehind
    · -- the cut falls before or within the last keyword, and a word is lost or cut short
      refine iff_of_false ?_ ?_
      · rcases Nat.lt_or_ge maxErrorChars reply.before.length with hearly | hwithin
        · rw [text_eq, List.take_append_of_le_length hearly.le]
          exact reply.words_cut_before hearly
        · have hcut : reply.text.take maxErrorChars =
              reply.before ++ reply.last.word.take (maxErrorChars - reply.before.length) := by
            rw [text_eq, ← List.append_assoc, List.take_append_of_le_length
              (by rw [List.length_append]; exact hreached), List.take_append,
              List.take_of_length_le hwithin]
          rw [hcut, List.append_assoc]
          exact reply.words_cut_within _
      · rintro (hfits | hroom)
        · exact Nat.not_le_of_lt hlong hfits
        · rw [hlength, Nat.add_sub_cancel_right] at hroom
          exact Nat.not_lt_of_le hreached hroom
  · -- nothing is cut
    rw [bounded, if_pos hshort, text_eq]
    exact iff_of_true (reply.words_cut_behind hparams reply.last.paramChars_head) (Or.inl hshort)

end EhloReply

/-! ## After `EHLO` -/

/-- One write, over the wire there is. -/
def writeRound (p : Platform) (bytes : Bytes) (wire : Wire) (c : Conversation) : Talk Unit :=
  match p.relay.writeFails c.traffic bytes with
  | none => modify (·.wrote wire bytes)
  | some (sent, e) => do
    modify (·.wrote wire (bytes.take sent))
    throw (.failed (.io e))

theorem writeAll_goes {c : Conversation} {wire : Wire} {bytes : Bytes}
    (hwire : c.session.wire = some wire) (hwrites : p.relay.writeFails c.traffic bytes = none) :
    (writeAll p bytes).result c = .ok () ∧ (writeAll p bytes).after c = c.wrote wire bytes := by
  obtain ⟨hresult, hafter⟩ := wireMut_round c
  rw [wireRound, hwire] at hresult hafter
  have hbind := bind_of_ok (fun wire => get >>= writeRound p bytes wire) hresult
  rw [hafter, after_pure] at hbind
  have hwrite := bind_of_ok (writeRound p bytes wire) (result_get c)
  rw [writeRound, after_get, hwrites] at hwrite
  exact ⟨hbind.1.trans hwrite.1, hbind.2.trans hwrite.2⟩

/-- The relay answers a line with a reply, in pieces of its own choice, and may send more. -/
def Answers (p : Platform) (c : Conversation) (line : List Char) (reply : EhloReply)
    (after : Bytes) : Prop :=
  ∃ wire, c.session.wire = some wire ∧ p.relay.writeFails c.traffic (commandLine line) = none ∧
    Awaits p (c.wrote wire (commandLine line)) (reply.bytes ++ after)

/-- `EHLO`, and the words of its reply. -/
def listing (p : Platform) (rounds : Nat) (line : List Char) : Talk Unit := do
  let reply ← command p rounds 250 "EHLO" line
  modify (·.heard (capabilityWords reply.text))

/-- The part of `starttls` before its `EHLO`. -/
def secure (p : Platform) (rounds : Nat) (host : String) : Talk Unit := do
  let _ ← command p rounds 220 "STARTTLS" "STARTTLS".toList
  checkDrained
  replaceWire p host

theorem starttls_eq (rounds : Nat) (host : String) :
    starttls p rounds host =
      (secure p rounds host >>= fun _ => listing p rounds "EHLO".toList) := by
  simp only [starttls, secure, listing, bind_assoc]

theorem secure_settles {rounds more : Nat} (h : rounds ≤ more) (host : String) :
    Settles .waiting (secure p rounds host) (secure p more host) :=
  Settles.bind (command_settles h _ _ _) fun _ => Settles.refl _ _

/-- What is listed is what the cut text of the reply holds. -/
theorem listing_hears {c : Conversation} {line : List Char} {reply : EhloReply} {after : Bytes}
    (hfits : reply.Fits) (h : Answers p c line reply after) :
    ∃ enough, ∀ rounds, enough ≤ rounds → (listing p rounds line).result c = .ok () ∧
      ((listing p rounds line).after c).session.capabilities =
        capabilityWords (bounded reply.text) := by
  obtain ⟨wire, hwire, hwrites, hawaits⟩ := h
  obtain ⟨hwritten, hwrote⟩ := writeAll_goes hwire hwrites
  have hplain : ∀ text ∈ reply.continued, Plain text := by
    refine List.forall_mem_cons.2 ⟨reply.greets, fun text htext => ?_⟩
    obtain ⟨line, -, rfl⟩ := List.mem_map.1 htext
    exact line.bytes_plain
  obtain ⟨enough, c', hrun⟩ := @reply_arrives p
    { conversation := c.wrote wire (commandLine line) } _ _ after hawaits rfl hplain hfits.1
    reply.last.bytes_plain hfits.2
  refine ⟨enough, fun rounds hrounds => ?_⟩
  obtain ⟨hreply, hread⟩ := readReply_of_turns hrounds hrun
  let accept : Reply → Talk Reply := fun reply =>
    if reply.code = 250 ∨ ((250 : Nat) = 250 ∧ reply.code = 251) then return reply
    else throw (.failed (.refused "EHLO" reply.code (String.ofList reply.text)))
  have hexpect := bind_of_ok accept hreply
  have hcommand := bind_of_ok (fun _ => expect p rounds 250 "EHLO") hwritten
  rw [hwrote] at hcommand
  have hanswer : (command p rounds 250 "EHLO" line).result c =
      .ok { code := 250, text := bounded reply.text } := hcommand.1.trans hexpect.1
  have hlisted := bind_of_ok (fun reply : Reply => (modify fun c : Conversation =>
    c.heard (capabilityWords reply.text) : Talk Unit)) hanswer
  exact ⟨hlisted.1, congrArg (·.session.capabilities) hlisted.2⟩

/-- The list of a session is that of the reply, and tells what the relay advertised. -/
structure Complete (reply : EhloReply) (s : Session) : Prop where
  capabilities : s.capabilities = reply.words
  supports : ∀ capability, s.supports capability = true ↔ reply.Advertises capability

theorem complete_iff {reply : EhloReply} {s : Session}
    (h : s.capabilities = capabilityWords (bounded reply.text)) :
    Complete reply s ↔ reply.Reaches := by
  rw [← reply.words_iff, ← h]
  refine ⟨Complete.capabilities, fun hsame => ⟨hsame, fun capability => ?_⟩⟩
  rw [Session.supports, hsame, List.any_eq_true, EhloReply.Advertises]
  exact exists_congr fun word => and_congr_right fun _ => decide_eq_true_iff

/-- However the reply comes in pieces, the list is complete exactly when the cut of its text leaves
the last keyword whole: after `hello`, and after the second `EHLO` of an upgrade. -/
theorem capabilities_iff (p : Platform) (reply : EhloReply) (hfits : reply.Fits) (after : Bytes) :
    (∀ c fromAddress, Answers p c (ehloLine fromAddress) reply after →
      ∃ enough, ∀ rounds, enough ≤ rounds → (hello p rounds fromAddress).result c = .ok () ∧
        (Complete reply ((hello p rounds fromAddress).after c).session ↔ reply.Reaches)) ∧
      ∀ c upgrading host, (secure p upgrading host).result c = .ok () →
        Answers p ((secure p upgrading host).after c) "EHLO".toList reply after →
        ∃ enough, ∀ rounds, enough ≤ rounds → (starttls p rounds host).result c = .ok () ∧
          (Complete reply ((starttls p rounds host).after c).session ↔ reply.Reaches) := by
  constructor
  · intro c fromAddress hanswers
    obtain ⟨enough, hlisted⟩ := listing_hears hfits hanswers
    refine ⟨enough, fun rounds hrounds => ?_⟩
    obtain ⟨hresult, hcapabilities⟩ := hlisted rounds hrounds
    exact ⟨hresult, complete_iff hcapabilities⟩
  · intro c upgrading host hsecured hanswers
    obtain ⟨enough, hlisted⟩ := listing_hears hfits hanswers
    refine ⟨max enough upgrading, fun rounds hrounds => ?_⟩
    obtain ⟨hresult, hcapabilities⟩ := hlisted rounds ((Nat.le_max_left _ _).trans hrounds)
    -- the wire is replaced first, and enough rounds for that change nothing in it
    have hsame := secure_settles (p := p) ((Nat.le_max_right enough _).trans hrounds) host c
    rcases hsame with hstop | ⟨hsecure, hstate⟩
    · rw [hstop] at hsecured
      cases hsecured
    · have hbind := bind_of_ok (fun _ => listing p rounds "EHLO".toList)
        (hsecure.symm.trans hsecured)
      rw [← starttls_eq, ← hstate] at hbind
      refine ⟨hbind.1.trans hresult, ?_⟩
      rw [hbind.2]
      exact complete_iff hcapabilities

/-! ## A relay that sends in pieces -/

/-- A relay that sends some bytes before an upgrade and others after it, in pieces of a size. -/
def piecewise (cleartext encrypted : Bytes) (size : Nat) : Platform where
  resolves := fun _ => .ok true
  connects := fun _ => .ok ()
  setsTimeouts := .ok ()
  upgrade := fun _ => .ok ()
  quoted := String.ofList
  relay :=
    { writeFails := fun _ _ => none
      reads := fun traffic =>
        let available := if .secured ∈ traffic then cleartext ++ encrypted else cleartext
        .ok ((available.drop (receivedBytes traffic).length).take size) }

theorem piecewise_sends {cleartext encrypted pending : Bytes} {size : Nat} (hsize : 0 < size)
    {traffic : List Traffic}
    (h : receivedBytes traffic ++ pending =
      if .secured ∈ traffic then cleartext ++ encrypted else cleartext) :
    Sends (piecewise cleartext encrypted size).relay traffic pending := by
  rintro more hmore ⟨rest, hrest⟩ hne
  have hsecured : Traffic.secured ∈ traffic ++ more ↔ Traffic.secured ∈ traffic := by
    refine ⟨fun hmem => (List.mem_append.1 hmem).resolve_right fun hmem => hmore _ hmem,
      List.mem_append_left more⟩
  have hdrop : (receivedBytes traffic ++ pending).drop (receivedBytes (traffic ++ more)).length =
      rest := by
    rw [receivedBytes_append, ← hrest, ← List.append_assoc, List.drop_left]
  refine ⟨rest.take size, ?_, fun hnil => ?_, ?_⟩
  · show Except.ok (List.take size (List.drop _
      (if Traffic.secured ∈ traffic ++ more then cleartext ++ encrypted else cleartext))) = _
    rw [if_congr hsecured rfl rfl, ← h, hdrop]
  · rcases List.take_eq_nil_iff.1 hnil with hzero | hnone
    · exact absurd hzero (Nat.pos_iff_ne_zero.1 hsize)
    · exact hne (by rw [← hrest, hnone, List.append_nil])
  · rw [← hrest]
    exact (List.prefix_append_right_inj _).2 ((List.take_prefix _ _).trans (List.take_prefix _ _))

def startTlsLine : CapabilityLine where
  keyword := [83, 84, 65, 82, 84, 84, 76, 83]
  params := []
  named := by decide
  visible := by decide +kernel
  apart := rfl
  plain := ⟨by decide, by decide⟩

/-- `SIZE 35882577` -/
def sizeLine : CapabilityLine where
  keyword := [83, 73, 90, 69]
  params := [32, 51, 53, 56, 56, 50, 53, 55, 55]
  named := by decide
  visible := by decide +kernel
  apart := rfl
  plain := ⟨by decide, by decide⟩

/-- A reply that lists `STARTTLS` behind so many other capabilities. -/
def listedBehind (n : Nat) : EhloReply where
  greeting := [109, 97, 105, 108]
  others := List.replicate n sizeLine
  last := startTlsLine
  greets := ⟨by decide, by decide⟩

theorem listedBehind_fits (n : Nat) : (listedBehind n).Fits := by
  have hgreeting : Fits [109, 97, 105, 108] := by decide
  have hsize : Fits sizeLine.bytes := by decide
  have hlast : Fits startTlsLine.bytes := by decide
  refine ⟨List.forall_mem_cons.2 ⟨hgreeting, fun text htext => ?_⟩, hlast⟩
  obtain ⟨line, hline, rfl⟩ := List.mem_map.1 htext
  exact (List.eq_of_mem_replicate hline) ▸ hsize

/-- The reply is sent to a line that is written while all before it has been read. -/
theorem piecewise_answers {cleartext encrypted : Bytes} {reply : EhloReply} {size : Nat}
    (hsize : 0 < size) {c : Conversation} {wire : Wire} (hwire : c.session.wire = some wire)
    (hunread : c.session.unread = []) (hsent : receivedBytes c.traffic ++ reply.bytes =
      if .secured ∈ c.traffic then cleartext ++ encrypted else cleartext) (line : List Char) :
    Answers (piecewise cleartext encrypted size) c line reply [] := by
  have hwrote : ∀ traffic : List Traffic, Traffic.secured ∈ traffic ++ [.wrote wire
      (commandLine line)] ↔ Traffic.secured ∈ traffic := by
    intro traffic
    rw [List.mem_append, List.mem_singleton]
    exact or_iff_left nofun
  refine ⟨wire, hwire, rfl, ⟨reply.bytes, ?_, piecewise_sends hsize ?_⟩, by
    show c.session.wire.isSome = true
    rw [hwire]
    rfl⟩
  · show c.session.unread ++ _ = _
    rw [hunread, List.append_nil]
    rfl
  · show receivedBytes (c.traffic ++ [.wrote wire (commandLine line)]) ++ _ = _
    rw [receivedBytes_append]
    show receivedBytes c.traffic ++ [] ++ _ = if _ ∈ c.traffic ++ _ then _ else _
    rw [List.append_nil, hsent, if_congr (hwrote c.traffic) rfl rfl]

/-- `220 go` -/
def goAhead : Bytes := [50, 50, 48, 32, 103, 111, 13, 10]

/-- Behind two others, `STARTTLS` is listed after `hello` and after the second `EHLO`. -/
theorem short_list_complete :
    (∃ enough, ∀ rounds, enough ≤ rounds →
      Complete (listedBehind 2) ((hello (piecewise (listedBehind 2).bytes [] 3) rounds
        "bills@example.com").after openedConversation).session) ∧
    ∃ enough, ∀ rounds, enough ≤ rounds →
      Complete (listedBehind 2) ((starttls (piecewise goAhead (listedBehind 2).bytes 3) rounds
        "mail.example.com").after openedConversation).session := by
  have hreaches : (listedBehind 2).Reaches := Or.inl (by decide +kernel)
  constructor
  · obtain ⟨enough, hheard⟩ := (capabilities_iff (piecewise (listedBehind 2).bytes [] 3)
      (listedBehind 2) (listedBehind_fits 2) []).1 openedConversation "bills@example.com"
      (piecewise_answers (by decide) rfl rfl (if_neg List.not_mem_nil).symm _)
    exact ⟨enough, fun rounds hrounds => (hheard rounds hrounds).2.2 hreaches⟩
  · let p := piecewise goAhead (listedBehind 2).bytes 3
    let c := (secure p 5 "mail.example.com").after openedConversation
    have hsecured : (secure p 5 "mail.example.com").result openedConversation = .ok () := by
      decide +kernel
    have hreached : c.session.wire = some .tls ∧ c.session.unread = [] ∧
        receivedBytes c.traffic = goAhead ∧ .secured ∈ c.traffic := by
      decide +kernel
    obtain ⟨hwire, hunread, hreceived, hmem⟩ := hreached
    obtain ⟨enough, hheard⟩ := (capabilities_iff p (listedBehind 2) (listedBehind_fits 2) []).2
      openedConversation 5 "mail.example.com" hsecured
      (piecewise_answers (by decide) hwire hunread (by rw [hreceived, if_pos hmem]) _)
    exact ⟨enough, fun rounds hrounds => (hheard rounds hrounds).2.2 hreaches⟩

/-- Behind forty others it is advertised, and the client takes it for not supported. -/
theorem starttls_lost : ∃ enough, ∀ rounds, enough ≤ rounds →
    (listedBehind 40).Fits ∧ (listedBehind 40).Advertises "STARTTLS" ∧
      Answers (piecewise (listedBehind 40).bytes [] 1) openedConversation
        (ehloLine "bills@example.com") (listedBehind 40) [] ∧
      (hello (piecewise (listedBehind 40).bytes [] 1) rounds "bills@example.com").result
        openedConversation = .ok () ∧
      ((hello (piecewise (listedBehind 40).bytes [] 1) rounds "bills@example.com").after
        openedConversation).session.supports "STARTTLS" = false := by
  have hanswers : Answers (piecewise (listedBehind 40).bytes [] 1) openedConversation
      (ehloLine "bills@example.com") (listedBehind 40) [] :=
    piecewise_answers (by decide) rfl rfl (if_neg List.not_mem_nil).symm _
  obtain ⟨enough, hheard⟩ := listing_hears (listedBehind_fits 40) hanswers
  have hadvertised : (listedBehind 40).Advertises "STARTTLS" :=
    ⟨startTlsLine.word, List.mem_append_right _ List.mem_cons_self, by decide⟩
  have hlost : (capabilityWords (bounded (listedBehind 40).text)).any (fun word =>
      word.map Char.toLower = "STARTTLS".toList.map Char.toLower) = false := by
    decide +kernel
  refine ⟨enough, fun rounds hrounds => ⟨listedBehind_fits 40, hadvertised, hanswers, ?_⟩⟩
  obtain ⟨hresult, hcapabilities⟩ := hheard rounds hrounds
  refine ⟨hresult, ?_⟩
  rw [Session.supports]
  rw [← hcapabilities] at hlost
  exact hlost

end PartnerPortal.Smtp

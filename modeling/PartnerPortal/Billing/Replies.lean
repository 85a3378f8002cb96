import PartnerPortal.Billing.SmtpCredential

/-!
# Reading one reply, turn by turn

A reply is read in turns: a complete line is taken out of the buffer and added to the text, or more
bytes are read into it.  The limit on what a relay may send is checked only where a line is
unfinished.

Results:
- `readReply_of_turns` — the client's loops make these turns;
- `reply_memory` — while the lines of one reply stay within the limit, so does what is held;
- `endless_reply` — a relay that goes on with short lines makes the client hold any number of bytes.
-/

namespace PartnerPortal.Smtp

open Exchange

/-- A reply that is being read. -/
structure ReplyState where
  conversation : Conversation
  code : Option (List Char) := none
  text : List Char := []

inductive ReplyTurn where
  | goes (next : ReplyState)
  | stops (result : Except SendError Reply) (conversation : Conversation)

section Turns

variable (p : Platform)

/-- A line that was taken is added to the reply. -/
def addLine (r : ReplyState) (line : Bytes) : ReplyTurn :=
  match replyLine p r.code r.text (Utf8.characters line) with
  | .error e => .stops (.error e) (r.conversation.took line)
  | .ok (.continued code text) =>
    .goes { conversation := r.conversation.took line, code := some code, text := text }
  | .ok (.ended reply) => .stops (.ok reply) (r.conversation.took line)

def unendedError : SendError :=
  .protocol ("the relay sent more than " ++ toString maxReplyBytes ++ " bytes without ending a line")

def noConnection : SendError := .protocol "the session lost its connection"

def closedError : SendError := .protocol "the relay closed the connection mid-reply"

/-- Nothing complete is buffered, and more is read. -/
def readOn (r : ReplyState) : ReplyTurn :=
  let c := r.conversation.compacted
  if maxReplyBytes < c.session.buffer.length then .stops (.error unendedError) c
  else
    match c.session.wire with
    | none => .stops (.error noConnection) c
    | some wire =>
      match p.relay.reads c.traffic with
      | .error e => .stops (.error (.io e)) c
      | .ok bytes =>
        if bytes = [] then .stops (.error closedError) c
        else .goes { r with conversation := c.received wire (bytes.take chunkBytes) }

/-- One turn of the two loops. -/
def turn (r : ReplyState) : ReplyTurn :=
  match r.conversation.session.nextLine with
  | some line => addLine p r line
  | none => readOn p r

/-- So many turns, as long as the reply goes on. -/
def turns : Nat → ReplyState → ReplyTurn
  | 0, r => .goes r
  | n + 1, r =>
    match turn p r with
    | .goes next => turns n next
    | .stops result c => .stops result c

end Turns

variable {p : Platform}

theorem turns_add {n m : Nat} {r next : ReplyState} (h : turns p n r = .goes next) :
    turns p (n + m) r = turns p m next := by
  induction n generalizing r with
  | zero =>
    cases h
    rw [Nat.zero_add]
  | succ n ih =>
    rw [Nat.succ_add, turns]
    rw [turns] at h
    cases hturn : turn p r with
    | goes middle =>
      rw [hturn] at h
      exact ih h
    | stops result c =>
      rw [hturn] at h
      cases h

theorem turns_succ {n : Nat} {r next : ReplyState} (h : turns p n r = .goes next) :
    turns p (n + 1) r = turn p next := by
  rw [turns_add h, turns]
  cases turn p next <;> rfl

/-- A reading that stopped stays so. -/
theorem turns_stays {n m : Nat} {r : ReplyState} {result : Except SendError Reply} {c : Conversation}
    (h : turns p n r = .stops result c) (hle : n ≤ m) : turns p m r = .stops result c := by
  induction n generalizing r m with
  | zero => cases h
  | succ n ih =>
    obtain ⟨m, rfl⟩ := Nat.exists_eq_add_of_lt (Nat.lt_of_succ_le hle)
    rw [turns] at h ⊢
    cases hturn : turn p r with
    | goes next =>
      rw [hturn] at h
      exact ih h (Nat.le_add_right n m)
    | stops result' c' =>
      rw [hturn] at h
      exact h

/-! ## The client's loops -/

/-- The failure of a reply, as the session sees it. -/
def failing : Except SendError Reply → Except Stop Reply
  | .ok reply => .ok reply
  | .error e => .error (.failed e)

/-- What is made of a line that was read. -/
def goOn (p : Platform) (rounds lines : Nat) (r : ReplyState) (line : List Char) : Talk Reply :=
  match replyLine p r.code r.text line with
  | .error e => throw (.failed e)
  | .ok (.continued code text) => readReplyFrom p rounds lines (some code) text
  | .ok (.ended reply) => return reply

/-- What is left of a reply, with so many rounds for its next line. -/
def resume (p : Platform) (rounds lines current : Nat) (r : ReplyState) : Talk Reply :=
  readLine p current >>= goOn p rounds lines r

/-- One round of the search for a line. -/
def lineRound (p : Platform) (current : Nat) (c : Conversation) : Talk (List Char) :=
  match c.session.nextLine with
  | some line => takeLine line
  | none => do
    modify Conversation.compacted
    checkUnended
    readMore p
    readLine p current

theorem readLine_round (current : Nat) (c : Conversation) :
    (readLine p (current + 1)).result c = (lineRound p current c).result c ∧
      (readLine p (current + 1)).after c = (lineRound p current c).after c :=
  bind_of_ok (x := get) (lineRound p current) (result_get c)

/-- A line at hand is taken. -/
theorem readLine_line {current : Nat} {c : Conversation} {line : Bytes}
    (h : c.session.nextLine = some line) :
    (readLine p (current + 1)).result c = .ok (Utf8.characters line) ∧
      (readLine p (current + 1)).after c = c.took line := by
  obtain ⟨hresult, hafter⟩ := @readLine_round p current c
  rw [hresult, hafter, lineRound, h]
  exact ⟨rfl, rfl⟩

/-- The wire, where there is one. -/
def wireRound (c : Conversation) : Talk Wire :=
  match c.session.wire with
  | some wire => return wire
  | none => throw (.failed noConnection)

theorem wireMut_round (c : Conversation) :
    wireMut.result c = (wireRound c).result c ∧ wireMut.after c = (wireRound c).after c :=
  bind_of_ok (x := get) wireRound (result_get c)

/-- One read, over the wire there is. -/
def readRound (p : Platform) (wire : Wire) (c : Conversation) : Talk Unit :=
  match p.relay.reads c.traffic with
  | .error e => throw (.failed (.io e))
  | .ok bytes =>
    if bytes = [] then throw (.failed closedError)
    else modify (·.received wire (bytes.take chunkBytes))

/-- What a read comes to. -/
theorem readMore_round (c : Conversation) :
    match c.session.wire with
    | some wire => (readMore p).result c = (readRound p wire c).result c ∧
        (readMore p).after c = (readRound p wire c).after c
    | none => (readMore p).result c = .error (.failed noConnection) ∧ (readMore p).after c = c := by
  obtain ⟨hresult, hafter⟩ := wireMut_round c
  let readWith : Wire → Talk Unit := fun wire => do
    let c ← get
    readRound p wire c
  cases hwire : c.session.wire with
  | none =>
    have hnone : (wireRound c).result c = .error (.failed noConnection) ∧
        (wireRound c).after c = c := by
      rw [wireRound, hwire]
      exact ⟨rfl, rfl⟩
    have hbind := bind_of_error readWith (hresult.trans hnone.1)
    exact ⟨hbind.1, hbind.2.trans (hafter.trans hnone.2)⟩
  | some wire =>
    have hsome : (wireRound c).result c = .ok wire ∧ (wireRound c).after c = c := by
      rw [wireRound, hwire]
      exact ⟨rfl, rfl⟩
    have hbind := bind_of_ok readWith (hresult.trans hsome.1)
    rw [hafter.trans hsome.2] at hbind
    exact hbind

/-- The check of an unfinished line. -/
def checkRound (c : Conversation) : Talk Unit :=
  if maxReplyBytes < c.session.buffer.length then throw (.failed unendedError) else return ()

theorem checkUnended_round (c : Conversation) :
    checkUnended.result c = (checkRound c).result c ∧
      checkUnended.after c = (checkRound c).after c :=
  bind_of_ok (x := get) checkRound (result_get c)

/-- What the check and the read come to is what a turn without a line does. -/
theorem readOn_more (r : ReplyState) :
    match readOn p r with
    | .goes next =>
      (do checkUnended; readMore p : Talk Unit).result r.conversation.compacted = .ok () ∧
        (do checkUnended; readMore p : Talk Unit).after r.conversation.compacted =
          next.conversation ∧
        next.code = r.code ∧ next.text = r.text
    | .stops (.ok _) _ => False
    | .stops (.error e) c =>
      (do checkUnended; readMore p : Talk Unit).result r.conversation.compacted =
          .error (.failed e) ∧
        (do checkUnended; readMore p : Talk Unit).after r.conversation.compacted = c := by
  unfold readOn
  obtain ⟨hresult, hafter⟩ := checkUnended_round r.conversation.compacted
  unfold checkRound at hresult hafter
  by_cases hlong : maxReplyBytes < r.conversation.compacted.session.buffer.length
  · -- the client refuses before it reads
    rw [if_pos hlong] at hresult hafter
    have hbind := bind_of_error (fun _ => readMore p) hresult
    rw [if_pos hlong]
    exact ⟨hbind.1, hbind.2.trans hafter⟩
  · -- it reads, over the wire that is there
    rw [if_neg hlong] at hresult hafter
    have hbind := bind_of_ok (fun _ => readMore p) hresult
    rw [hafter, after_pure] at hbind
    have hread := @readMore_round p r.conversation.compacted
    rw [if_neg hlong]
    cases hwire : r.conversation.compacted.session.wire with
    | none =>
      rw [hwire] at hread
      exact ⟨hbind.1.trans hread.1, hbind.2.trans hread.2⟩
    | some wire =>
      rw [hwire] at hread
      unfold readRound at hread
      cases hreads : p.relay.reads r.conversation.compacted.traffic with
      | error e =>
        rw [hreads] at hread
        exact ⟨hbind.1.trans hread.1, hbind.2.trans hread.2⟩
      | ok bytes =>
        rw [hreads] at hread
        dsimp only at hread ⊢
        by_cases hempty : bytes = []
        · rw [if_pos hempty] at hread ⊢
          exact ⟨hbind.1.trans hread.1, hbind.2.trans hread.2⟩
        · rw [if_neg hempty] at hread ⊢
          exact ⟨hbind.1.trans hread.1, hbind.2.trans hread.2, rfl, rfl⟩

/-- A round without a line goes on after the read. -/
theorem readLine_more {current : Nat} {c c' : Conversation} (h : c.session.nextLine = none)
    (hresult : (do checkUnended; readMore p : Talk Unit).result c.compacted = .ok ())
    (hafter : (do checkUnended; readMore p : Talk Unit).after c.compacted = c') :
    (readLine p (current + 1)).result c = (readLine p current).result c' ∧
      (readLine p (current + 1)).after c = (readLine p current).after c' := by
  obtain ⟨hround, hround'⟩ := @readLine_round p current c
  rw [hround, hround', lineRound, h]
  have hbind := bind_of_ok (fun _ => readLine p current) hresult
  rw [hafter, bind_assoc] at hbind
  exact hbind

theorem readLine_fails {current : Nat} {c c' : Conversation} {e : SendError}
    (h : c.session.nextLine = none)
    (hresult : (do checkUnended; readMore p : Talk Unit).result c.compacted = .error (.failed e))
    (hafter : (do checkUnended; readMore p : Talk Unit).after c.compacted = c') :
    (readLine p (current + 1)).result c = .error (.failed e) ∧
      (readLine p (current + 1)).after c = c' := by
  obtain ⟨hround, hround'⟩ := @readLine_round p current c
  rw [hround, hround', lineRound, h]
  have hbind := bind_of_error (fun _ => readLine p current) hresult
  rw [hafter, bind_assoc] at hbind
  exact hbind

/-- Reading on for a line does not depend on where it began. -/
theorem bind_congr_run {α β : Type} {x y : Talk α} {f : α → Talk β} {c c' : Conversation}
    (hresult : x.result c = y.result c') (hafter : x.after c = y.after c') :
    (x >>= f).result c = (y >>= f).result c' ∧ (x >>= f).after c = (y >>= f).after c' := by
  cases hy : y.result c' with
  | ok a =>
    obtain ⟨hx₁, hx₂⟩ := bind_of_ok f (hresult.trans hy)
    obtain ⟨hy₁, hy₂⟩ := bind_of_ok f hy
    rw [hx₁, hx₂, hy₁, hy₂, hafter]
    exact ⟨rfl, rfl⟩
  | error e =>
    obtain ⟨hx₁, hx₂⟩ := bind_of_error f (hresult.trans hy)
    obtain ⟨hy₁, hy₂⟩ := bind_of_error f hy
    rw [hx₁, hx₂, hy₁, hy₂, hafter]
    exact ⟨rfl, rfl⟩

/-- The client's loops make the turns. -/
theorem resume_of_turns {n rounds : Nat} (hrounds : n ≤ rounds) {r : ReplyState}
    {result : Except SendError Reply} {c : Conversation} {lines current : Nat}
    (hlines : n ≤ lines + 1) (hcurrent : n ≤ current) (h : turns p n r = .stops result c) :
    (resume p rounds lines current r).result r.conversation = failing result ∧
      (resume p rounds lines current r).after r.conversation = c := by
  induction n generalizing r lines current with
  | zero => cases h
  | succ n ih =>
    obtain ⟨current, rfl⟩ := Nat.exists_eq_add_of_le' hcurrent
    rw [turns, turn] at h
    cases hnext : r.conversation.session.nextLine with
    | some line =>
      obtain ⟨hline, htook⟩ := @readLine_line p (current + n) _ _ hnext
      have hbind := bind_of_ok (goOn p rounds lines r) hline
      rw [htook] at hbind
      rw [hnext] at h
      dsimp only [addLine] at h
      unfold goOn at hbind
      cases hadded : replyLine p r.code r.text (Utf8.characters line) with
      | error e =>
        rw [hadded] at h hbind
        cases h
        exact hbind
      | ok progress =>
        rw [hadded] at h hbind
        cases progress with
        | ended reply =>
          cases h
          exact hbind
        | continued code text =>
          cases n with
          | zero => cases h
          | succ n =>
            -- the next line starts with all its rounds
            obtain ⟨lines, rfl⟩ := Nat.exists_eq_add_of_le' (Nat.le_of_succ_le_succ hlines)
            obtain ⟨hrest, hrest'⟩ := @ih (Nat.le_of_succ_le hrounds) _ (lines + n) rounds
              (by omega) (Nat.le_of_succ_le hrounds) h
            refine ⟨hbind.1.trans ?_, hbind.2.trans ?_⟩
            · exact hrest
            · exact hrest'
    | none =>
      have hmore := @readOn_more p r
      rw [hnext] at h
      dsimp only at h
      cases hread : readOn p r with
      | goes next =>
        rw [hread] at h hmore
        obtain ⟨hresult, hafter, hcode, htext⟩ := hmore
        obtain ⟨hline, hline'⟩ := @readLine_more p (current + n) _ _ hnext hresult hafter
        have hsame := bind_congr_run (f := goOn p rounds lines r) hline hline'
        have hgo : goOn p rounds lines r = goOn p rounds lines next := by
          funext line
          rw [goOn, goOn, hcode, htext]
        rw [hgo] at hsame
        obtain ⟨hrest, hrest'⟩ := @ih (Nat.le_of_succ_le hrounds) next lines (current + n)
          (Nat.le_of_succ_le hlines) (Nat.le_add_left n current) h
        rw [resume, hgo]
        exact ⟨hsame.1.trans hrest, hsame.2.trans hrest'⟩
      | stops result' c' =>
        rw [hread] at h hmore
        cases h
        cases result with
        | ok reply => exact hmore.elim
        | error e =>
          obtain ⟨hline, hline'⟩ := @readLine_fails p (current + n) _ _ _ hnext hmore.1 hmore.2
          have hbind := bind_of_error (goOn p rounds lines r) hline
          exact ⟨hbind.1, hbind.2.trans hline'⟩

/-- A reply that ends after so many turns is what the client returns, given as many rounds. -/
theorem readReply_of_turns {n rounds : Nat} (hrounds : n ≤ rounds) {c c' : Conversation}
    {result : Except SendError Reply} (h : turns p n { conversation := c } = .stops result c') :
    (readReply p rounds).result c = failing result ∧ (readReply p rounds).after c = c' := by
  cases n with
  | zero => cases h
  | succ n =>
    obtain ⟨rounds, rfl⟩ := Nat.exists_eq_add_of_le' hrounds
    exact @resume_of_turns p (n + 1) _ hrounds { conversation := c } _ _ (rounds + n) _ (by omega)
      hrounds h

/-! ## What one turn does -/

/-- Where no line is there to take and there is room, a turn reads what the relay sends next. -/
theorem turn_reads {r : ReplyState} {wire : Wire} {bytes : Bytes}
    (hnone : lf ∉ r.conversation.session.unread)
    (hroom : r.conversation.session.unread.length ≤ maxReplyBytes)
    (hwire : r.conversation.session.wire = some wire)
    (hreads : p.relay.reads r.conversation.compacted.traffic = .ok bytes) (hbytes : bytes ≠ []) :
    turn p r = .goes { r with
      conversation := r.conversation.compacted.received wire (bytes.take chunkBytes) } := by
  have hline : r.conversation.session.nextLine = none := by
    rw [Session.nextLine, if_neg hnone]
  have hfits : ¬ maxReplyBytes < r.conversation.compacted.session.buffer.length :=
    Nat.not_lt_of_le hroom
  have hconnected : r.conversation.compacted.session.wire = some wire := hwire
  rw [turn, hline]
  show readOn p r = _
  unfold readOn
  dsimp only
  rw [if_neg hfits, hconnected]
  dsimp only
  rw [hreads]
  dsimp only
  rw [if_neg hbytes]

/-- A turn that goes on took a line, or it read into a buffer that held no more than the limit. -/
theorem turn_goes {r next : ReplyState} (h : turn p r = .goes next) :
    (∃ line, r.conversation.session.nextLine = some line ∧
      next.conversation = r.conversation.took line ∧
      ∃ digits more, replyCode (trimLineEnd (Utf8.characters line)) = some (digits, '-' :: more) ∧
        next.text = r.text ++ more ++ ['\n']) ∨
    (∃ wire bytes, r.conversation.session.unread.length ≤ maxReplyBytes ∧ bytes ≠ [] ∧
      next = { r with
        conversation := r.conversation.compacted.received wire (bytes.take chunkBytes) }) := by
  unfold turn at h
  split at h
  · rename_i line hline
    -- a line was taken: it goes on after a hyphen only
    left
    refine ⟨line, hline, ?_⟩
    unfold addLine replyLine at h
    cases hcode : replyCode (trimLineEnd (Utf8.characters line)) with
    | none =>
      simp only [hcode] at h
      cases h
    | some found =>
      obtain ⟨digits, rest⟩ := found
      simp only [hcode] at h
      split at h
      · cases h
      · rename_i code text hadded
        split at hadded
        · cases hadded
        · split at hadded
          · cases hadded
            cases h
            exact ⟨rfl, digits, _, rfl, rfl⟩
          · cases hadded
          · cases hadded
      · cases h
  · -- there was none: the buffer was within the limit, and some bytes came
    right
    unfold readOn at h
    dsimp only at h
    split at h
    · cases h
    · rename_i hroom
      split at h
      · cases h
      · split at h
        · cases h
        · rename_i wire bytes hreads
          split at h
          · cases h
          · rename_i hbytes
            cases h
            exact ⟨_, _, Nat.le_of_not_lt hroom, hbytes, rfl⟩

theorem turn_stops {r : ReplyState} {result : Except SendError Reply} {c : Conversation}
    (h : turn p r = .stops result c) :
    (∃ line, r.conversation.session.nextLine = some line ∧ c = r.conversation.took line) ∨
      c = r.conversation.compacted := by
  unfold turn at h
  split at h
  · rename_i line hline
    left
    unfold addLine at h
    split at h <;> cases h <;> exact ⟨_, hline, rfl⟩
  · right
    unfold readOn at h
    dsimp only at h
    split at h
    · cases h
      rfl
    · split at h
      · cases h
        rfl
      · split at h
        · cases h
          rfl
        · split at h
          · cases h
            rfl
          · cases h

/-- A run of turns is one turn more than a shorter run. -/
theorem turns_goes_succ {n : Nat} {start next : ReplyState}
    (h : turns p (n + 1) start = .goes next) :
    ∃ r, turns p n start = .goes r ∧ turn p r = .goes next := by
  cases hrun : turns p n start with
  | goes r =>
    rw [turns_succ hrun] at h
    exact ⟨r, rfl, h⟩
  | stops result c =>
    exfalso
    induction n generalizing start with
    | zero => cases hrun
    | succ n ih =>
      rw [turns] at h hrun
      cases hturn : turn p start with
      | goes middle =>
        rw [hturn] at h hrun
        exact ih h hrun
      | stops result' c' =>
        rw [hturn] at h
        cases h

/-! ## What is held -/

/-- The bytes a session holds for a reply: its buffer and the text so far. -/
def ReplyState.held (r : ReplyState) : Nat :=
  r.conversation.session.buffer.length + utf8Length r.text

/-- What has become of a reply after the lines taken and the bytes received for it. -/
structure Read (start r : ReplyState) (lines got : Bytes) : Prop where
  taken : takenBytes r.conversation.traffic = takenBytes start.conversation.traffic ++ lines
  received : receivedBytes r.conversation.traffic = receivedBytes start.conversation.traffic ++ got
  stream : lines ++ r.conversation.session.unread = start.conversation.session.unread ++ got
  text : utf8Length r.text ≤ utf8Length start.text + 3 * lines.length
  room : r.conversation.session.buffer.length ≤ maxReplyBytes + chunkBytes

/-- A continuation adds no more to the text than three times its line. -/
theorem continuation_length {line : Bytes} {digits more : List Char}
    (h : replyCode (trimLineEnd (Utf8.characters line)) = some (digits, '-' :: more)) :
    utf8Length (more ++ ['\n']) ≤ 3 * line.length := by
  have htrimmed : ∃ a b c, trimLineEnd (Utf8.characters line) = a :: b :: c :: '-' :: more := by
    unfold replyCode at h
    split at h
    · rename_i a b c rest heq
      split at h
      · cases h
        exact ⟨a, b, c, heq⟩
      · cases h
    · cases h
  obtain ⟨a, b, c, htrimmed⟩ := htrimmed
  obtain ⟨dropped, hwhole⟩ : trimLineEnd (Utf8.characters line) <+: Utf8.characters line :=
    List.rdropWhile_prefix _ _
  have hsize := Utf8.size_characters_le line
  rw [← utf8Length, ← hwhole, htrimmed, utf8Length_append] at hsize
  have hmore : utf8Length (a :: b :: c :: '-' :: more) =
      a.utf8Size + (b.utf8Size + (c.utf8Size + (1 + utf8Length more))) := rfl
  rw [utf8Length_append]
  have hbreak : utf8Length ['\n'] = 1 := by decide
  omega

theorem Read.turn {start r next : ReplyState} {lines got : Bytes} (h : Read start r lines got)
    (hturn : turn p r = .goes next) :
    ∃ lines' got', Read start next lines' got' ∧
      lines.length + got.length < lines'.length + got'.length := by
  rcases turn_goes hturn with
    ⟨line, hline, hconversation, digits, more, hcode, htext⟩ | ⟨wire, bytes, hroom, hbytes, rfl⟩
  · refine ⟨lines ++ line, got, ?_, ?_⟩
    · -- a continuation adds to the text less than what decoding makes of its bytes
      have hadded := continuation_length hcode
      have hunread := unread_took hline
      refine ⟨?_, ?_, ?_, ?_, ?_⟩
      · rw [hconversation, ← List.append_assoc, ← h.taken]
        exact (takenBytes_append _ _).trans (by simp [takenBytes])
      · rw [hconversation, ← h.received]
        exact (receivedBytes_append _ _).trans (by simp [receivedBytes])
      · rw [hconversation, List.append_assoc, ← hunread, h.stream]
      · have htotal := h.text
        rw [htext, List.append_assoc, utf8Length_append, List.length_append]
        omega
      · rw [hconversation]
        exact h.room
    · have hpos := nextLine_ne_nil hline
      rw [List.length_append]
      omega
  · refine ⟨lines, got ++ bytes.take chunkBytes, ?_, ?_⟩
    · refine ⟨?_, ?_, ?_, h.text, ?_⟩
      · rw [← h.taken]
        exact (takenBytes_append _ _).trans (by simp [takenBytes, Conversation.compacted])
      · rw [← List.append_assoc, ← h.received]
        exact (receivedBytes_append _ _).trans (by simp [receivedBytes, Conversation.compacted])
      · rw [← List.append_assoc, ← h.stream, List.append_assoc]
        rfl
      · -- one read on top of a buffer within the limit
        show (r.conversation.session.unread ++ bytes.take chunkBytes).length ≤ _
        rw [List.length_append]
        exact Nat.add_le_add hroom (List.length_take_le _ _)
    · have hpos : 0 < (bytes.take chunkBytes).length := by
        rw [List.length_take]
        exact Nat.lt_min.2 ⟨by decide, List.length_pos_iff.2 hbytes⟩
      rw [List.length_append]
      omega

/-- After so many turns, at least as many bytes were taken or received. -/
theorem turns_read {n : Nat} {start r : ReplyState}
    (hroom : start.conversation.session.buffer.length ≤ maxReplyBytes + chunkBytes)
    (h : turns p n start = .goes r) :
    ∃ lines got, Read start r lines got ∧ n ≤ lines.length + got.length := by
  induction n generalizing r with
  | zero =>
    cases h
    exact ⟨[], [], ⟨by simp, by simp, by simp, by simp, hroom⟩, Nat.le_refl _⟩
  | succ n ih =>
    obtain ⟨before, hbefore, hturn⟩ := turns_goes_succ h
    obtain ⟨lines, got, hread, hcount⟩ := ih hbefore
    obtain ⟨lines', got', hread', hmore⟩ := hread.turn hturn
    exact ⟨lines', got', hread', by omega⟩

/-! ## The limit -/

namespace ReplyTurn

def conversation : ReplyTurn → Conversation
  | .goes r => r.conversation
  | .stops _ c => c

/-- The bytes held; of a reply that ended, only the buffer is left. -/
def held : ReplyTurn → Nat
  | .goes r => r.held
  | .stops _ c => c.session.buffer.length

/-- The reply, once it is there. -/
def reply : ReplyTurn → Option Reply
  | .stops (.ok reply) _ => some reply
  | _ => none

theorem stops_of_reply {turn : ReplyTurn} {reply : Reply} (h : turn.reply = some reply) :
    turn = .stops (.ok reply) turn.conversation := by
  cases turn with
  | goes r => cases h
  | stops result c =>
    cases result with
    | error e => cases h
    | ok reply' =>
      cases h
      rfl

end ReplyTurn

/-- The bytes of the lines taken for a reply in so many turns. -/
def lineBytes (p : Platform) (c : Conversation) (n : Nat) : Nat :=
  (takenBytes (turns p n { conversation := c }).conversation.traffic).length -
    (takenBytes c.traffic).length

/-- The bytes received for it. -/
def readBytes (p : Platform) (c : Conversation) (n : Nat) : Nat :=
  (receivedBytes (turns p n { conversation := c }).conversation.traffic).length -
    (receivedBytes c.traffic).length

/-- A session where no reply is being read. -/
inductive Between (p : Platform) : Conversation → Prop where
  | opened : Between p openedConversation
  | wrote {c : Conversation} (wire : Wire) (bytes : Bytes) (h : Between p c) :
      Between p (c.wrote wire bytes)
  | replied {c c' : Conversation} {n : Nat} {reply : Reply} (h : Between p c)
      (hreply : turns p n { conversation := c } = .stops (.ok reply) c') : Between p c'
  | heard {c : Conversation} (capabilities : List (List Char)) (h : Between p c) :
      Between p (c.heard capabilities)
  | cleared {c : Conversation} (h : Between p c) : Between p c.cleared
  | detached {c : Conversation} (h : Between p c) : Between p c.detached
  | secured {c : Conversation} (h : Between p c) : Between p c.secured

/-- A reading that stopped went on for one turn less. -/
theorem turns_stops {n : Nat} {start : ReplyState} {result : Except SendError Reply}
    {c : Conversation} (h : turns p n start = .stops result c) :
    ∃ m r, m < n ∧ turns p m start = .goes r ∧ turn p r = .stops result c := by
  induction n generalizing start with
  | zero => cases h
  | succ n ih =>
    rw [turns] at h
    cases hturn : turn p start with
    | goes next =>
      rw [hturn] at h
      obtain ⟨m, r, hm, hrun, hlast⟩ := ih h
      refine ⟨m + 1, r, Nat.succ_lt_succ hm, ?_, hlast⟩
      rw [turns, hturn]
      exact hrun
    | stops result' c' =>
      rw [hturn] at h
      cases h
      exact ⟨0, start, Nat.succ_pos n, rfl, hturn⟩

/-- What a reading that stops leaves in the buffer, and what it took and received. -/
theorem stops_read {n : Nat} {start : ReplyState} {result : Except SendError Reply}
    {c : Conversation}
    (hroom : start.conversation.session.buffer.length ≤ maxReplyBytes + chunkBytes)
    (h : turns p n start = .stops result c) :
    c.session.buffer.length ≤ maxReplyBytes + chunkBytes ∧
      ∃ lines got, takenBytes c.traffic = takenBytes start.conversation.traffic ++ lines ∧
        receivedBytes c.traffic = receivedBytes start.conversation.traffic ++ got ∧
        got.length ≤ lines.length + (maxReplyBytes + chunkBytes) := by
  obtain ⟨m, r, -, hrun, hlast⟩ := turns_stops h
  obtain ⟨lines, got, hread, -⟩ := turns_read hroom hrun
  have hstream := congrArg List.length hread.stream
  rw [List.length_append, List.length_append] at hstream
  have hunread : r.conversation.session.unread.length ≤ maxReplyBytes + chunkBytes :=
    (List.drop_sublist _ _).length_le.trans hread.room
  rcases turn_stops hlast with ⟨line, hline, rfl⟩ | rfl
  · refine ⟨hread.room, lines ++ line, got, ?_, ?_, ?_⟩
    · rw [← List.append_assoc, ← hread.taken]
      exact (takenBytes_append _ _).trans (by simp [takenBytes])
    · rw [← hread.received]
      exact (receivedBytes_append _ _).trans (by simp [receivedBytes])
    · rw [List.length_append]
      omega
  · exact ⟨hunread, lines, got, hread.taken, hread.received, by omega⟩

/-- The buffer never holds more than the limit and one read. -/
theorem Between.room {c : Conversation} (h : Between p c) :
    c.session.buffer.length ≤ maxReplyBytes + chunkBytes := by
  induction h with
  | opened => exact Nat.zero_le _
  | wrote wire bytes _ ih => exact ih
  | replied _ hreply ih => exact (stops_read ih hreply).1
  | heard capabilities _ ih => exact ih
  | cleared _ _ => exact Nat.zero_le _
  | detached _ ih => exact ih
  | secured _ ih => exact ih

theorem lineBytes_eq {c c' : Conversation} {n : Nat} {lines : Bytes}
    (h : (turns p n { conversation := c }).conversation = c')
    (htaken : takenBytes c'.traffic = takenBytes c.traffic ++ lines) :
    lineBytes p c n = lines.length := by
  rw [lineBytes, h, htaken, List.length_append, Nat.add_sub_cancel_left]

theorem readBytes_eq {c c' : Conversation} {n : Nat} {got : Bytes}
    (h : (turns p n { conversation := c }).conversation = c')
    (hreceived : receivedBytes c'.traffic = receivedBytes c.traffic ++ got) :
    readBytes p c n = got.length := by
  rw [readBytes, h, hreceived, List.length_append, Nat.add_sub_cancel_left]

/-- As long as the lines taken for one reply come to no more than the limit, what the session holds
and what it reads for the reply are bounded, and the reply comes to its end. -/
theorem reply_memory {c : Conversation} (hbetween : Between p c)
    (hshort : ∀ n, lineBytes p c n ≤ maxReplyBytes) :
    (∀ n, (turns p n { conversation := c }).held ≤ 4 * maxReplyBytes + chunkBytes) ∧
      (∀ n, readBytes p c n ≤ 2 * maxReplyBytes + chunkBytes) ∧
      ∃ n, n ≤ 3 * maxReplyBytes + chunkBytes + 1 ∧ ∃ result c',
        turns p n { conversation := c } = .stops result c' ∧
        ∀ rounds, n ≤ rounds →
          (readReply p rounds).result c = failing result ∧ (readReply p rounds).after c = c' := by
  have hroom := hbetween.room
  have hgoes : ∀ n r, turns p n { conversation := c } = .goes r →
      ∃ lines got, Read { conversation := c } r lines got ∧ n ≤ lines.length + got.length ∧
        lines.length ≤ maxReplyBytes ∧ got.length ≤ 2 * maxReplyBytes + chunkBytes := by
    intro n r hrun
    obtain ⟨lines, got, hread, hcount⟩ := turns_read hroom hrun
    have hlines : lines.length ≤ maxReplyBytes := by
      rw [← lineBytes_eq (by rw [hrun]; rfl) hread.taken]
      exact hshort n
    have hstream := congrArg List.length hread.stream
    have hunread : r.conversation.session.unread.length ≤ maxReplyBytes + chunkBytes :=
      (List.drop_sublist _ _).length_le.trans hread.room
    rw [List.length_append, List.length_append] at hstream
    exact ⟨lines, got, hread, hcount, hlines, by omega⟩
  refine ⟨fun n => ?_, fun n => ?_, ?_⟩
  · cases hrun : turns p n { conversation := c } with
    | goes r =>
      obtain ⟨lines, got, hread, -, hlines, -⟩ := hgoes n r hrun
      have htext : utf8Length r.text ≤ 0 + 3 * lines.length := hread.text
      have hbuffer := hread.room
      show r.conversation.session.buffer.length + utf8Length r.text ≤ _
      omega
    | stops result c' =>
      have hbuffer := (stops_read hroom hrun).1
      show c'.session.buffer.length ≤ _
      omega
  · cases hrun : turns p n { conversation := c } with
    | goes r =>
      obtain ⟨lines, got, hread, -, -, hgot⟩ := hgoes n r hrun
      rw [readBytes_eq (by rw [hrun]; rfl) hread.received]
      exact hgot
    | stops result c' =>
      obtain ⟨-, lines, got, htaken, hreceived, hgot⟩ := stops_read hroom hrun
      have hlines := hshort n
      rw [lineBytes_eq (by rw [hrun]; rfl) htaken] at hlines
      rw [readBytes_eq (by rw [hrun]; rfl) hreceived]
      omega
  · refine ⟨3 * maxReplyBytes + chunkBytes + 1, Nat.le_refl _, ?_⟩
    cases hrun : turns p (3 * maxReplyBytes + chunkBytes + 1) { conversation := c } with
    | goes r =>
      -- every turn takes or receives a byte, and only so many are left to take or receive
      obtain ⟨lines, got, -, hcount, hlines, hgot⟩ := hgoes _ r hrun
      omega
    | stops result c' =>
      exact ⟨result, c', rfl, fun rounds hrounds => readReply_of_turns hrounds hrun⟩

/-! ## An endless reply -/

def pausingLine : Bytes := [50, 53, 48, 45, 120, 13, 10]

/-- A relay that answers with the continuation `250-x` for ever. -/
def endlessPlatform : Platform where
  resolves := fun _ => .ok true
  connects := fun _ => .ok ()
  setsTimeouts := .ok ()
  upgrade := fun _ => .error .noTlsInBuild
  quoted := String.ofList
  relay :=
    { writeFails := fun _ _ => none
      reads := fun _ => .ok pausingLine }

/-- So many continuations were taken, and nothing is buffered. -/
structure Paused (n : Nat) (r : ReplyState) : Prop where
  drained : r.conversation.session.unread = []
  wire : r.conversation.session.wire = some .plain
  code : r.code.any (· ≠ ['2', '5', '0']) = false
  text : 2 * n ≤ utf8Length r.text

theorem pausing_line (code : Option (List Char)) (text : List Char)
    (hcode : code.any (· ≠ ['2', '5', '0']) = false) :
    replyLine endlessPlatform code text (Utf8.characters pausingLine) =
      .ok (.continued ['2', '5', '0'] (text ++ ['x'] ++ ['\n'])) := by
  have hdecoded : trimLineEnd (Utf8.characters pausingLine) = ['2', '5', '0', '-', 'x'] := by
    decide +kernel
  unfold replyLine
  rw [hdecoded]
  show (if code.any (· ≠ ['2', '5', '0']) = true then _ else _) = _
  rw [hcode, if_neg Bool.false_ne_true]
  rfl

theorem unread_filled {r : ReplyState} (h : r.conversation.session.unread = []) (bytes : Bytes) :
    (r.conversation.compacted.received .plain bytes).session.unread = bytes := by
  show r.conversation.session.unread ++ bytes = bytes
  rw [h, List.nil_append]

/-- One more continuation is read and taken. -/
theorem Paused.next {n : Nat} {r : ReplyState} (h : Paused n r) :
    ∃ next, turns endlessPlatform 2 r = .goes next ∧ Paused (n + 1) next := by
  let filled : ReplyState := { r with
    conversation := r.conversation.compacted.received .plain pausingLine }
  let taken : ReplyState :=
    { conversation := filled.conversation.took pausingLine, code := some ['2', '5', '0'],
      text := r.text ++ ['x'] ++ ['\n'] }
  have hread : turn endlessPlatform r = .goes filled := by
    refine @turn_reads endlessPlatform r .plain pausingLine ?_ ?_ h.wire rfl (List.cons_ne_nil _ _)
    · rw [h.drained]
      exact List.not_mem_nil
    · rw [h.drained]
      exact Nat.zero_le _
  have hunread := unread_filled h.drained pausingLine
  have hline : filled.conversation.session.nextLine = some pausingLine := by
    rw [Session.nextLine, hunread]
    decide
  have htake : turn endlessPlatform filled = .goes taken := by
    rw [turn, hline]
    show addLine endlessPlatform filled pausingLine = _
    unfold addLine
    rw [pausing_line r.code r.text h.code]
  have hturns : turns endlessPlatform 2 r = .goes taken := by
    rw [turns, hread]
    show turns endlessPlatform 1 filled = _
    rw [turns, htake]
    rfl
  refine ⟨taken, hturns, ?_, h.wire, rfl, ?_⟩
  · have htook := unread_took hline
    rw [hunread] at htook
    exact List.self_eq_append_right.1 htook
  · have htext := h.text
    have hadded : utf8Length ['x'] = 1 ∧ utf8Length ['\n'] = 1 := by decide
    show 2 * (n + 1) ≤ utf8Length (r.text ++ ['x'] ++ ['\n'])
    rw [utf8Length_append, utf8Length_append, hadded.1, hadded.2]
    omega

/-- Whatever the bound, the text of a reply with short lines outgrows it. -/
theorem endless_reply (bound : Nat) :
    ∃ n, bound < (turns endlessPlatform n { conversation := openedConversation }).held := by
  have hrun : ∀ n, ∃ r, turns endlessPlatform (2 * n) { conversation := openedConversation } =
      .goes r ∧ Paused n r := by
    intro n
    induction n with
    | zero => exact ⟨_, rfl, rfl, rfl, rfl, Nat.le_refl _⟩
    | succ n ih =>
      obtain ⟨r, hbefore, hpaused⟩ := ih
      obtain ⟨next, hturns, hnext⟩ := hpaused.next
      exact ⟨next, (turns_add hbefore).trans hturns, hnext⟩
  obtain ⟨r, hreached, hpaused⟩ := hrun (bound + 1)
  refine ⟨2 * (bound + 1), ?_⟩
  have htext := hpaused.text
  rw [hreached]
  show bound < r.conversation.session.buffer.length + utf8Length r.text
  omega

/-- No constant bounds what is held for a reply, whatever the relay sends. -/
theorem reply_unbounded :
    ¬ ∃ bound, ∀ (p : Platform) (c : Conversation), Between p c → ∀ n,
      (turns p n { conversation := c }).held ≤ bound := by
  rintro ⟨bound, hbound⟩
  obtain ⟨n, hn⟩ := endless_reply bound
  exact Nat.not_lt_of_le (hbound endlessPlatform openedConversation .opened n) hn

/-- The lines `220-hi` and `220 yo`. -/
def greetingLines : List Bytes :=
  [[50, 50, 48, 45, 104, 105, 13, 10], [50, 50, 48, 32, 121, 111, 13, 10]]

/-- A relay that greets the client in two lines and closes the connection. -/
def greetingPlatform : Platform where
  resolves := fun _ => .ok true
  connects := fun _ => .ok ()
  setsTimeouts := .ok ()
  upgrade := fun _ => .error .noTlsInBuild
  quoted := String.ofList
  relay :=
    { writeFails := fun _ _ => none
      reads := fun traffic => .ok (if traffic = [] then greetingLines.flatten else []) }

/-- One read and two lines, and the reply is there. -/
theorem greeting_read :
    (turns greetingPlatform 3 { conversation := openedConversation }).reply =
        some { code := 220, text := "hi\nyo".toList } ∧
      (takenBytes (turns greetingPlatform 3 { conversation := openedConversation
        }).conversation.traffic).length = 16 := by
  decide +kernel

/-- The greeting is read, and what is held and read for it is bounded. -/
theorem greeting_memory :
    (∀ n, lineBytes greetingPlatform openedConversation n ≤ maxReplyBytes) ∧
      (∀ n, (turns greetingPlatform n { conversation := openedConversation }).held ≤
        4 * maxReplyBytes + chunkBytes) ∧
      (∀ n, readBytes greetingPlatform openedConversation n ≤ 2 * maxReplyBytes + chunkBytes) ∧
      ∃ n, n ≤ 3 * maxReplyBytes + chunkBytes + 1 ∧ ∃ result c',
        turns greetingPlatform n { conversation := openedConversation } = .stops result c' ∧
        ∀ rounds, n ≤ rounds →
          (readReply greetingPlatform rounds).result openedConversation = failing result ∧
            (readReply greetingPlatform rounds).after openedConversation = c' := by
  have hshort : ∀ n, lineBytes greetingPlatform openedConversation n ≤ maxReplyBytes := by
    obtain ⟨hreply, htaken⟩ := greeting_read
    have hstops := ReplyTurn.stops_of_reply hreply
    intro n
    match n with
    | 0 | 1 | 2 => decide +kernel
    | n + 3 =>
      rw [lineBytes, turns_stays hstops (Nat.le_add_left 3 n)]
      exact (Nat.sub_le _ _).trans (htaken.trans_le (by decide))
  exact ⟨hshort, reply_memory .opened hshort⟩

end PartnerPortal.Smtp

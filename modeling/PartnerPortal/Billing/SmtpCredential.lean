import PartnerPortal.Billing.Session

/-!
# The mail credential goes out under TLS only

Every part of a session keeps what its writes, reads, lines and capability lists keep, so an invariant
of a session is shown once for these and holds to its end, whatever the relay does.

Results:
- `Sound` — over which wire the traffic went, which lines were written, and that the lines taken are
  the bytes received, in order;
- `credential_only_under_tls` — two credentials give the same traffic up to the upgrade, nothing
  received before it is read after it, and a session with a credential and without the upgrade fails
  and writes no more than its greetings.
-/

namespace PartnerPortal.Smtp

open Exchange

/-! ## Traffic -/

namespace Traffic

/-- What passed over the plain wire, or over none. -/
def Clear : Traffic → Prop
  | .wrote wire _ => wire = .plain
  | .received wire _ => wire = .plain
  | .took _ => True
  | .secured => False

/-- What passed over the TLS wire, or over none. -/
def Covered : Traffic → Prop
  | .wrote wire _ => wire = .tls
  | .received wire _ => wire = .tls
  | .took _ => True
  | .secured => False

end Traffic

/-- What passed before the wire was replaced. -/
def beforeTls (traffic : List Traffic) : List Traffic := traffic.takeWhile (· ≠ .secured)

/-- What passed after it. -/
def underTls (traffic : List Traffic) : List Traffic :=
  (traffic.dropWhile (· ≠ .secured)).drop 1

def receivedBytes (traffic : List Traffic) : Bytes :=
  traffic.flatMap fun
    | .received _ bytes => bytes
    | _ => []

/-- The lines that were read as parts of replies. -/
def takenBytes (traffic : List Traffic) : Bytes :=
  traffic.flatMap fun
    | .took line => line
    | _ => []

@[simp] theorem receivedBytes_append (s t : List Traffic) :
    receivedBytes (s ++ t) = receivedBytes s ++ receivedBytes t := List.flatMap_append

@[simp] theorem takenBytes_append (s t : List Traffic) :
    takenBytes (s ++ t) = takenBytes s ++ takenBytes t := List.flatMap_append

theorem beforeTls_cons {e : Traffic} (h : e ≠ .secured) (traffic : List Traffic) :
    beforeTls (e :: traffic) = e :: beforeTls traffic ∧ underTls (e :: traffic) = underTls traffic := by
  simp [beforeTls, underTls, h]

theorem beforeTls_of_clear {traffic : List Traffic} (h : .secured ∉ traffic) :
    beforeTls traffic = traffic ∧ underTls traffic = [] := by
  induction traffic with
  | nil => exact ⟨rfl, rfl⟩
  | cons e traffic ih =>
    obtain ⟨hne, hrest⟩ := not_or.1 (mt List.mem_cons.2 h)
    obtain ⟨hbefore, hunder⟩ := beforeTls_cons (Ne.symm hne) traffic
    rw [hbefore, hunder, (ih hrest).1, (ih hrest).2]
    exact ⟨rfl, rfl⟩

/-- Once the wire was replaced, what follows passes after that. -/
theorem append_of_secured {traffic : List Traffic} (h : .secured ∈ traffic) (more : List Traffic) :
    beforeTls (traffic ++ more) = beforeTls traffic ∧
      underTls (traffic ++ more) = underTls traffic ++ more := by
  induction traffic with
  | nil => cases h
  | cons e traffic ih =>
    by_cases he : e = .secured
    · subst he
      simp [beforeTls, underTls]
    · have hrest := (List.mem_cons.1 h).resolve_left (Ne.symm he)
      obtain ⟨hbefore, hunder⟩ := beforeTls_cons he traffic
      obtain ⟨hbefore', hunder'⟩ := beforeTls_cons he (traffic ++ more)
      rw [List.cons_append, hbefore, hbefore', hunder, hunder', (ih hrest).1, (ih hrest).2]
      exact ⟨rfl, rfl⟩

/-- The traffic is what passed before the upgrade, the upgrade, and what passed after it. -/
theorem traffic_split {traffic : List Traffic} (h : .secured ∈ traffic) :
    traffic = beforeTls traffic ++ .secured :: underTls traffic := by
  induction traffic with
  | nil => cases h
  | cons e traffic ih =>
    by_cases he : e = .secured
    · subst he
      simp [beforeTls, underTls]
    · have hrest := (List.mem_cons.1 h).resolve_left (Ne.symm he)
      obtain ⟨hbefore, hunder⟩ := beforeTls_cons he traffic
      rw [hbefore, hunder, List.cons_append, ← ih hrest]

/-! ## The invariant -/

/-- The lines taken and the unread bytes are the bytes received, in order. -/
structure Accounted (c : Conversation) : Prop where
  bytes : receivedBytes c.traffic = takenBytes c.traffic ++ c.session.unread
  consumed : c.session.consumed ≤ c.session.buffer.length

/-- Over which wire the traffic went.  At the upgrade every byte received was taken. -/
structure Sealed (c : Conversation) : Prop where
  secured_iff : .secured ∈ c.traffic ↔ c.session.wire = some .tls
  before : ∀ e ∈ beforeTls c.traffic, e.Clear
  under : ∀ e ∈ underTls c.traffic, e.Covered
  drained : .secured ∈ c.traffic →
    receivedBytes (beforeTls c.traffic) = takenBytes (beforeTls c.traffic)

/-- What was written are starts of allowed lines. -/
def Wrote (allowed : Bytes → Prop) (traffic : List Traffic) : Prop :=
  ∀ wire bytes, .wrote wire bytes ∈ traffic → ∃ line, allowed line ∧ bytes <+: line

/-- The invariant of a session that writes allowed lines only. -/
structure Sound (allowed : Bytes → Prop) (c : Conversation) : Prop where
  accounted : Accounted c
  covered : Sealed c
  wrote : Wrote allowed c.traffic

/-- An invariant that every step of a session over one wire keeps. -/
structure Kept (allowed : Bytes → Prop) (I : Conversation → Prop) : Prop where
  accounted : ∀ {c}, I c → Accounted c
  wrote : ∀ {c wire line bytes}, I c → c.session.wire = some wire → allowed line → bytes <+: line →
    I (c.wrote wire bytes)
  received : ∀ {c wire}, I c → c.session.wire = some wire → ∀ bytes, I (c.received wire bytes)
  took : ∀ {c line}, I c → c.session.nextLine = some line → I (c.took line)
  compacted : ∀ {c}, I c → I c.compacted
  heard : ∀ {c}, I c → ∀ capabilities, I (c.heard capabilities)

theorem Sealed.push {c c' : Conversation} {e : Traffic} (h : Sealed c)
    (htraffic : c'.traffic = c.traffic ++ [e]) (hwire : c'.session.wire = c.session.wire)
    (hne : e ≠ .secured) (hclear : c.session.wire ≠ some .tls → e.Clear)
    (hcovered : c.session.wire = some .tls → e.Covered) : Sealed c' := by
  have hmem : .secured ∈ c'.traffic ↔ .secured ∈ c.traffic := by
    rw [htraffic]
    simp [Ne.symm hne]
  by_cases hsecured : .secured ∈ c.traffic
  · obtain ⟨hbefore, hunder⟩ := append_of_secured hsecured [e]
    rw [← htraffic] at hbefore hunder
    refine ⟨by rw [hmem, hwire]; exact h.secured_iff, by rw [hbefore]; exact h.before, ?_,
      fun _ => by rw [hbefore]; exact h.drained hsecured⟩
    rw [hunder]
    intro a ha
    rcases List.mem_append.1 ha with ha | ha
    · exact h.under a ha
    · rw [List.mem_singleton.1 ha]
      exact hcovered (h.secured_iff.1 hsecured)
  · obtain ⟨hbefore, hunder⟩ := beforeTls_of_clear (fun hin => hsecured (hmem.1 hin))
    refine ⟨by rw [hmem, hwire]; exact h.secured_iff, ?_, by rw [hunder]; simp,
      fun hin => absurd (hmem.1 hin) hsecured⟩
    rw [hbefore, htraffic]
    intro a ha
    rcases List.mem_append.1 ha with ha | ha
    · rw [← (beforeTls_of_clear hsecured).1] at ha
      exact h.before a ha
    · rw [List.mem_singleton.1 ha]
      exact hclear fun htls => hsecured (h.secured_iff.2 htls)

/-- What passes over the wire that is there. -/
theorem Sealed.over {c c' : Conversation} {w : Wire} {e : Traffic} (h : Sealed c)
    (hw : c.session.wire = some w) (htraffic : c'.traffic = c.traffic ++ [e])
    (hwire : c'.session.wire = c.session.wire) (hne : e ≠ .secured) (hclear : w = .plain → e.Clear)
    (hcovered : w = .tls → e.Covered) : Sealed c' := by
  refine h.push htraffic hwire hne (fun hplain => hclear ?_) fun htls =>
    hcovered (Option.some.inj (hw.symm.trans htls))
  cases w with
  | plain => rfl
  | tls => exact absurd hw hplain

/-- A change that leaves the traffic and the wire as they were. -/
theorem Sealed.quiet {c c' : Conversation} (h : Sealed c) (htraffic : c'.traffic = c.traffic)
    (hwire : c'.session.wire = c.session.wire) : Sealed c' := by
  obtain ⟨hsecured, hbefore, hunder, hdrained⟩ := h
  rw [← htraffic] at hsecured hbefore hunder hdrained
  rw [← hwire] at hsecured
  exact ⟨hsecured, hbefore, hunder, hdrained⟩

theorem Wrote.push {allowed : Bytes → Prop} {traffic : List Traffic} {e : Traffic}
    (h : Wrote allowed traffic)
    (he : ∀ wire bytes, e = .wrote wire bytes → ∃ line, allowed line ∧ bytes <+: line) :
    Wrote allowed (traffic ++ [e]) := by
  intro wire bytes hin
  rcases List.mem_append.1 hin with hin | hin
  · exact h wire bytes hin
  · exact he wire bytes (List.mem_singleton.1 hin).symm

theorem takeWhile_append_lf {bytes : Bytes} (h : lf ∈ bytes) :
    ∃ rest, bytes = bytes.takeWhile (· ≠ lf) ++ [lf] ++ rest := by
  induction bytes with
  | nil => cases h
  | cons b bytes ih =>
    by_cases hb : b = lf
    · subst hb
      exact ⟨bytes, by simp⟩
    · obtain ⟨rest, hrest⟩ := ih ((List.mem_cons.1 h).resolve_left (Ne.symm hb))
      refine ⟨rest, ?_⟩
      rw [List.takeWhile_cons_of_pos (by simpa using hb), List.cons_append, List.cons_append, ← hrest]

/-- The line taken is the start of the unread bytes. -/
theorem unread_took {c : Conversation} {line : Bytes} (h : c.session.nextLine = some line) :
    c.session.unread = line ++ (c.took line).session.unread := by
  have hline : ∃ rest, c.session.unread = line ++ rest := by
    unfold Session.nextLine at h
    split at h
    · rename_i hlf
      cases h
      exact takeWhile_append_lf hlf
    · cases h
  obtain ⟨rest, hrest⟩ := hline
  have htook : (c.took line).session.unread = c.session.unread.drop line.length :=
    List.drop_drop.symm
  rw [htook, hrest, List.drop_left]

theorem nextLine_ne_nil {s : Session} {line : Bytes} (h : s.nextLine = some line) :
    0 < line.length := by
  unfold Session.nextLine at h
  split at h
  · cases h
    simp
  · cases h

theorem Accounted.took {c : Conversation} {line : Bytes} (h : Accounted c)
    (hline : c.session.nextLine = some line) : Accounted (c.took line) := by
  have hunread := unread_took hline
  refine ⟨?_, ?_⟩
  · show receivedBytes (c.traffic ++ [.took line]) = takenBytes (c.traffic ++ [.took line]) ++ _
    rw [receivedBytes_append, takenBytes_append, h.bytes, hunread]
    simp [receivedBytes, takenBytes]
  · have hlength : c.session.unread.length = c.session.buffer.length - c.session.consumed :=
      List.length_drop
    rw [hunread, List.length_append] at hlength
    have := h.consumed
    have := nextLine_ne_nil hline
    show c.session.consumed + line.length ≤ c.session.buffer.length
    omega

theorem Accounted.received {c : Conversation} (h : Accounted c) (wire : Wire) (bytes : Bytes) :
    Accounted (c.received wire bytes) := by
  have hunread : (c.received wire bytes).session.unread = c.session.unread ++ bytes :=
    List.drop_append_of_le_length h.consumed
  refine ⟨?_, ?_⟩
  · show receivedBytes (c.traffic ++ [_]) = takenBytes (c.traffic ++ [_]) ++ _
    rw [receivedBytes_append, takenBytes_append, h.bytes, hunread]
    simp [receivedBytes, takenBytes]
  · show c.session.consumed ≤ (c.session.buffer ++ bytes).length
    rw [List.length_append]
    exact Nat.le_add_right_of_le h.consumed

/-- The invariant of a session over one wire. -/
theorem kept_sound (allowed : Bytes → Prop) (wire : Option Wire) :
    Kept allowed fun c => Sound allowed c ∧ c.session.wire = wire where
  accounted h := h.1.accounted
  wrote := by
    rintro c w line bytes ⟨h, hwire⟩ hw hline hbytes
    refine ⟨⟨?_, h.covered.over hw rfl rfl (by simp) id id, h.wrote.push ?_⟩, hwire⟩
    · obtain ⟨hbytes, hconsumed⟩ := h.accounted
      refine ⟨?_, hconsumed⟩
      show receivedBytes (c.traffic ++ [_]) = takenBytes (c.traffic ++ [_]) ++ _
      rw [receivedBytes_append, takenBytes_append, hbytes]
      simp [receivedBytes, takenBytes, Conversation.wrote]
    · rintro w' bytes' heq
      cases heq
      exact ⟨line, hline, hbytes⟩
  received := by
    rintro c w ⟨h, hwire⟩ hw bytes
    exact ⟨⟨h.accounted.received w bytes, h.covered.over hw rfl rfl (by simp) id id,
      h.wrote.push fun _ _ heq => nomatch heq⟩, hwire⟩
  took := by
    rintro c line ⟨h, hwire⟩ hline
    exact ⟨⟨h.accounted.took hline, h.covered.push rfl rfl (by simp) (fun _ => trivial)
      fun _ => trivial, h.wrote.push fun _ _ heq => nomatch heq⟩, hwire⟩
  compacted := by
    rintro c ⟨h, hwire⟩
    exact ⟨⟨⟨h.accounted.bytes, Nat.zero_le _⟩, h.covered.quiet rfl rfl, h.wrote⟩, hwire⟩
  heard := by
    rintro c ⟨h, hwire⟩ capabilities
    exact ⟨⟨⟨h.accounted.bytes, h.accounted.consumed⟩, h.covered.quiet rfl rfl, h.wrote⟩, hwire⟩

/-! ## Parts of a session -/

/-- A session that stopped, for want of input only after so many bytes of it. -/
def Stopped (rounds : Nat) (I : Conversation → Prop) (stop : Stop) (c : Conversation) : Prop :=
  I c ∧ (stop = .waiting → rounds ≤ (receivedBytes c.traffic).length)

section Parts

variable {p : Platform} {rounds : Nat} {allowed : Bytes → Prop} {I : Conversation → Prop}

theorem Stopped.mono {J : Conversation → Prop} (h : ∀ c, I c → J c) {stop : Stop} {c : Conversation}
    (hstop : Stopped rounds I stop c) : Stopped rounds J stop c :=
  ⟨h c hstop.1, hstop.2⟩

/-- A failure other than for want of input. -/
theorem fails_ensures {α : Type} {P : Conversation → Prop} (h : ∀ c, P c → I c) (e : SendError)
    (Q : α → Conversation → Prop) :
    Ensures P (throw (.failed e) : Talk α) Q (Stopped rounds I) :=
  ensures_throw fun c hc => ⟨h c hc, fun hwaiting => nomatch hwaiting⟩

theorem wireMut_ensures {P : Conversation → Prop} (h : ∀ c, P c → I c) :
    Ensures P wireMut (fun wire c => P c ∧ c.session.wire = some wire) (Stopped rounds I) := by
  refine Ensures.get_bind fun read => ?_
  cases hwire : read.session.wire with
  | none => exact fails_ensures (fun c hc => h c hc.2) _ _
  | some wire =>
    refine ensures_pure ?_
    rintro c ⟨rfl, hc⟩
    exact ⟨hc, hwire⟩

/-- A write of an allowed line, all or the start of which goes out. -/
theorem writeAll_ensures (hkept : Kept allowed I) {line : Bytes} (hline : allowed line) :
    Ensures I (writeAll p line) (fun _ => I) (Stopped rounds I) := by
  refine Ensures.bind (wireMut_ensures fun _ => id) fun wire => ?_
  refine Ensures.get_bind fun read => ?_
  cases p.relay.writeFails read.traffic line with
  | none => exact ensures_modify fun c hc => hkept.wrote hc.2.1 hc.2.2 hline (List.prefix_refl line)
  | some failure =>
    refine Ensures.modify_bind I ?_ (fails_ensures (fun _ => id) _ _)
    exact fun c hc => hkept.wrote hc.2.1 hc.2.2 hline (List.take_prefix _ line)

/-- So many bytes were received at least, and so many taken. -/
def Counted (received taken : Nat) (c : Conversation) : Prop :=
  received ≤ (receivedBytes c.traffic).length ∧ taken ≤ (takenBytes c.traffic).length

/-- A read brings a byte at least. -/
theorem readMore_ensures (hkept : Kept allowed I) (received taken : Nat) :
    Ensures (fun c => I c ∧ Counted received taken c) (readMore p)
      (fun _ c => I c ∧ Counted (received + 1) taken c) (Stopped rounds I) := by
  refine Ensures.bind (wireMut_ensures fun _ => And.left) fun wire => ?_
  refine Ensures.get_bind fun read => ?_
  cases p.relay.reads read.traffic with
  | error e => exact fails_ensures (fun c hc => hc.2.1.1) _ _
  | ok bytes =>
    dsimp only
    split
    · exact fails_ensures (fun c hc => hc.2.1.1) _ _
    · rename_i hbytes
      refine ensures_modify ?_
      rintro c ⟨-, ⟨hI, hreceived, htaken⟩, hwire⟩
      refine ⟨hkept.received hI hwire _, ?_, ?_⟩
      · have hlength : 0 < (bytes.take chunkBytes).length := by
          rw [List.length_take]
          exact Nat.lt_min.2 ⟨by decide, List.length_pos_iff.2 hbytes⟩
        show _ ≤ (receivedBytes (c.traffic ++ [.received wire (bytes.take chunkBytes)])).length
        rw [receivedBytes_append, List.length_append]
        simp only [receivedBytes, List.flatMap_cons, List.flatMap_nil, List.append_nil]
        exact Nat.add_le_add hreceived hlength
      · show _ ≤ (takenBytes (c.traffic ++ [.received wire (bytes.take chunkBytes)])).length
        rw [takenBytes_append, List.length_append]
        exact Nat.le_add_right_of_le htaken

theorem checkUnended_ensures {P : Conversation → Prop} (h : ∀ c, P c → I c) :
    Ensures P checkUnended (fun _ => P) (Stopped rounds I) := by
  refine Ensures.get_bind fun read => ?_
  split
  · exact fails_ensures (fun c hc => h c hc.2) _ _
  · exact ensures_pure fun c hc => hc.2

/-- A line brings a byte at least, and each round without one brings a byte into the buffer. -/
theorem readLine_ensures (hkept : Kept allowed I) (taken n : Nat) : ∀ received,
    Ensures (fun c => I c ∧ Counted received taken c) (readLine p n)
      (fun _ c => I c ∧ Counted 0 (taken + 1) c) (Stopped (received + n) I) := by
  induction n with
  | zero => exact fun received => ensures_throw fun c hc => ⟨hc.1, fun _ => hc.2.1⟩
  | succ n ih =>
    intro received
    refine Ensures.get_bind fun read => ?_
    cases hline : read.session.nextLine with
    | some line =>
      refine Ensures.modify_bind (fun c => I c ∧ Counted 0 (taken + 1) c) ?_ (ensures_pure fun _ => id)
      rintro c ⟨rfl, hI, -, htaken⟩
      refine ⟨hkept.took hI hline, Nat.zero_le _, ?_⟩
      show _ ≤ (takenBytes (c.traffic ++ [.took line])).length
      rw [takenBytes_append, List.length_append]
      simp only [takenBytes, List.flatMap_cons, List.flatMap_nil, List.append_nil]
      exact Nat.add_le_add htaken (nextLine_ne_nil hline)
    | none =>
      refine Ensures.modify_bind (fun c => I c ∧ Counted received taken c)
        (fun c hc => ⟨hkept.compacted hc.2.1, hc.2.2⟩) ?_
      refine Ensures.bind (checkUnended_ensures fun _ => And.left) fun _ => ?_
      refine Ensures.bind (readMore_ensures hkept received taken) fun _ => ?_
      rw [Nat.add_comm n 1, ← Nat.add_assoc]
      exact ih (received + 1)

/-- Each line of a reply that is still to come brings a byte. -/
theorem readReplyFrom_ensures (hkept : Kept allowed I) (lines : Nat) : ∀ taken code text,
    rounds ≤ taken + lines → Ensures (fun c => I c ∧ Counted 0 taken c)
      (readReplyFrom p rounds lines code text) (fun _ => I) (Stopped rounds I) := by
  induction lines with
  | zero =>
    intro taken code text hrounds
    refine ensures_throw fun c hc => ⟨hc.1, fun _ => ?_⟩
    have hbytes := congrArg List.length (hkept.accounted hc.1).bytes
    rw [List.length_append] at hbytes
    have := hc.2.2
    omega
  | succ lines ih =>
    intro taken code text hrounds
    have hline := @readLine_ensures p allowed I hkept taken rounds 0
    rw [Nat.zero_add] at hline
    refine Ensures.bind hline fun line => ?_
    cases replyLine p code text line with
    | error e => exact fails_ensures (fun c hc => hc.1) _ _
    | ok progress =>
      cases progress with
      | continued digits text => exact ih (taken + 1) (some digits) text (by omega)
      | ended reply => exact ensures_pure fun c hc => hc.1

theorem expect_ensures (hkept : Kept allowed I) (expectCode : Nat) (name : String) :
    Ensures I (expect p rounds expectCode name) (fun _ => I) (Stopped rounds I) := by
  have hreply := @readReplyFrom_ensures p rounds allowed I hkept rounds 0 none [] (by omega)
  refine Ensures.bind (hreply.weaken (fun c hc => ⟨hc, Nat.zero_le _, Nat.zero_le _⟩)
    (fun _ _ => id) fun _ _ => id) fun reply => ?_
  split
  · exact ensures_pure fun _ => id
  · exact fails_ensures (fun _ => id) _ _

/-- A command whose line is allowed. -/
theorem command_ensures (hkept : Kept allowed I) (expectCode : Nat) (name : String)
    {line : List Char} (hline : allowed (commandLine line)) :
    Ensures I (command p rounds expectCode name line) (fun _ => I) (Stopped rounds I) :=
  Ensures.bind (writeAll_ensures hkept hline) fun _ => expect_ensures hkept expectCode name

theorem hello_ensures (hkept : Kept allowed I) {fromAddress : String}
    (hline : allowed (commandLine (ehloLine fromAddress))) :
    Ensures I (hello p rounds fromAddress) (fun _ => I) (Stopped rounds I) :=
  Ensures.bind (command_ensures hkept 250 "EHLO" hline) fun _ =>
    ensures_modify fun _ hc => hkept.heard hc _

/-- Where any line is allowed, the credential is too. -/
theorem logIn_ensures (hkept : Kept (fun _ => True) I) (settings : EmailSettings)
    (encrypted : Bool) :
    Ensures I (logIn p rounds settings encrypted) (fun _ => I) (Stopped rounds I) := by
  unfold logIn
  split
  · exact ensures_pure fun _ => id
  · split
    · refine Ensures.bind (Ensures.recover (command_ensures hkept 235 "AUTH" trivial) fun e => ?_)
        fun _ => ensures_pure fun _ => id
      split
      · exact (command_ensures hkept 235 "AUTH" trivial).weaken (fun _ => And.left) (fun _ _ => id)
          fun _ _ => id
      · exact ensures_throw fun _ => id
    · exact fails_ensures (fun _ => id) _ _

theorem quit_ensures (hkept : Kept (fun _ => True) I) :
    Ensures I (quit p rounds) (fun _ => I) (Stopped rounds I) := by
  refine Ensures.recover (Ensures.bind (command_ensures hkept 221 "QUIT" trivial)
    fun _ => ensures_pure fun _ => id) fun e => ?_
  cases e with
  | failed e => exact ensures_pure fun _ => And.left
  | waiting => exact ensures_throw fun _ => id

theorem submit_ensures (hkept : Kept (fun _ => True) I) (settings : EmailSettings)
    (message : Message) (now : Instant) :
    Ensures I (submit p rounds settings message now) (fun _ => I) (Stopped rounds I) :=
  Ensures.bind (command_ensures hkept 250 "MAIL FROM" trivial) fun _ =>
  Ensures.bind (command_ensures hkept 250 "RCPT TO" trivial) fun _ =>
  Ensures.bind (command_ensures hkept 354 "DATA" trivial) fun _ =>
  Ensures.bind (writeAll_ensures hkept trivial) fun _ =>
  Ensures.bind (writeAll_ensures hkept trivial) fun _ =>
  Ensures.bind (expect_ensures hkept 250 "end of DATA") fun _ => quit_ensures hkept

end Parts

/-! ## The upgrade -/

/-- The lines a session writes before it knows whether its wire is replaced, and the first one after
that. -/
def Greeting (settings : EmailSettings) (line : Bytes) : Prop :=
  line = commandLine (ehloLine settings.fromAddress) ∨ line = commandLine "STARTTLS".toList ∨
    line = commandLine "EHLO".toList

section Upgrade

variable {p : Platform} {rounds : Nat} {allowed : Bytes → Prop}

/-- A session over the wire it was opened with. -/
def SoundOver (allowed : Bytes → Prop) (wire : Wire) (c : Conversation) : Prop :=
  Sound allowed c ∧ c.session.wire = some wire

theorem Sound.of_over {wire : Wire} {c : Conversation} (h : SoundOver allowed wire c) :
    Sound allowed c := h.1

/-- With nothing unread, all that was received was taken. -/
theorem Accounted.drained {c : Conversation} (h : Accounted c)
    (hdrained : c.session.buffer.length = c.session.consumed) :
    receivedBytes c.traffic = takenBytes c.traffic := by
  have hunread : c.session.unread = [] := List.drop_eq_nil_of_le (Nat.le_of_eq hdrained)
  rw [h.bytes, hunread, List.append_nil]

theorem checkDrained_ensures : Ensures (SoundOver allowed .plain) checkDrained
    (fun _ c => SoundOver allowed .plain c ∧ receivedBytes c.traffic = takenBytes c.traffic)
    (Stopped rounds (Sound allowed)) := by
  refine Ensures.get_bind fun read => ?_
  split
  · exact fails_ensures (fun c hc => hc.2.1) _ _
  · rename_i hdrained
    refine ensures_modify ?_
    rintro c ⟨rfl, h, hwire⟩
    have hbytes := h.accounted.drained (not_not.1 hdrained)
    refine ⟨⟨⟨⟨?_, Nat.le_refl _⟩, h.covered.quiet rfl rfl, h.wrote⟩, hwire⟩, hbytes⟩
    exact hbytes.trans (List.append_nil _).symm

theorem secured_not_mem {c : Conversation} (h : SoundOver allowed .plain c) :
    Traffic.secured ∉ c.traffic := by
  intro hin
  have := h.1.covered.secured_iff.1 hin
  rw [h.2] at this
  cases this

/-- The upgrade is the end of what passed so far, all of it over the plain wire. -/
theorem Sound.upgraded {c : Conversation} (h : Sound allowed c) (hnot : .secured ∉ c.traffic)
    (hbytes : receivedBytes c.traffic = takenBytes c.traffic) : Sound allowed c.secured := by
  have hclear : ∀ e ∈ c.traffic, decide (e ≠ .secured) = true := by
    rintro e he
    exact decide_eq_true fun heq => hnot (heq ▸ he)
  have hbefore : beforeTls c.secured.traffic = c.traffic := by
    show List.takeWhile _ (c.traffic ++ [.secured]) = _
    rw [List.takeWhile_append_of_pos hclear]
    simp
  have hunder : underTls c.secured.traffic = [] := by
    show List.drop 1 (List.dropWhile _ (c.traffic ++ [.secured])) = _
    rw [List.dropWhile_append_of_pos hclear]
    simp
  have hin : Traffic.secured ∈ c.secured.traffic := List.mem_append_right _ List.mem_cons_self
  refine ⟨⟨?_, h.accounted.consumed⟩, ⟨⟨fun _ => rfl, fun _ => hin⟩, ?_, ?_, fun _ => ?_⟩, ?_⟩
  · show receivedBytes (c.traffic ++ [.secured]) = takenBytes (c.traffic ++ [.secured]) ++ _
    rw [receivedBytes_append, takenBytes_append, h.accounted.bytes]
    simp [receivedBytes, takenBytes, Conversation.secured, Session.unread]
  · rw [hbefore]
    have := h.covered.before
    rwa [(beforeTls_of_clear hnot).1] at this
  · rw [hunder]
    simp
  · rw [hbefore]
    exact hbytes
  · exact h.wrote.push fun _ _ heq => nomatch heq

theorem replaceWire_ensures (host : String) : Ensures
    (fun c => SoundOver allowed .plain c ∧ receivedBytes c.traffic = takenBytes c.traffic)
    (replaceWire p host) (fun _ => SoundOver allowed .tls) (Stopped rounds (Sound allowed)) := by
  refine Ensures.bind (wireMut_ensures fun c hc => hc.1.1) fun wire => ?_
  refine Ensures.modify_bind (fun c => Sound allowed c ∧ Traffic.secured ∉ c.traffic ∧
    receivedBytes c.traffic = takenBytes c.traffic) ?_ ?_
  · rintro c ⟨⟨h, hbytes⟩, -⟩
    have hnot := secured_not_mem h
    refine ⟨⟨⟨h.1.accounted.bytes, h.1.accounted.consumed⟩, ⟨?_, h.1.covered.before,
      h.1.covered.under, h.1.covered.drained⟩, h.1.wrote⟩, hnot, hbytes⟩
    exact ⟨fun hin => absurd hin hnot, fun htls => nomatch htls⟩
  · cases p.upgrade host with
    | error e => exact fails_ensures (fun c hc => hc.1) _ _
    | ok _ => exact ensures_modify fun c ⟨h, hnot, hbytes⟩ => ⟨h.upgraded hnot hbytes, rfl⟩

theorem starttls_ensures (host : String) (hline : allowed (commandLine "STARTTLS".toList))
    (hehlo : allowed (commandLine "EHLO".toList)) :
    Ensures (SoundOver allowed .plain) (starttls p rounds host)
      (fun _ => SoundOver allowed .tls) (Stopped rounds (Sound allowed)) := by
  have hsound : ∀ wire c, SoundOver allowed wire c → Sound allowed c := fun _ _ => Sound.of_over
  have hplain := kept_sound allowed (some .plain)
  have htls := kept_sound allowed (some .tls)
  refine Ensures.bind ((command_ensures hplain 220 "STARTTLS" hline).weaken (fun _ => id)
    (fun _ _ => id) fun _ _ => Stopped.mono (hsound _)) fun _ => ?_
  refine Ensures.bind checkDrained_ensures fun _ => ?_
  refine Ensures.bind (replaceWire_ensures host) fun _ => ?_
  refine Ensures.bind ((command_ensures htls 250 "EHLO" hehlo).weaken (fun _ => id)
    (fun _ _ => id) fun _ _ => Stopped.mono (hsound _)) fun _ => ?_
  exact ensures_modify fun c hc => htls.heard hc _

/-- The greetings leave a session over the wire they report. -/
theorem greet_ensures (settings : EmailSettings) :
    Ensures (SoundOver (Greeting settings) .plain) (greet p rounds settings)
      (fun encrypted => SoundOver (Greeting settings) (if encrypted then .tls else .plain))
      (Stopped rounds (Sound (Greeting settings))) := by
  have hplain := kept_sound (Greeting settings) (some .plain)
  refine Ensures.bind ((expect_ensures hplain 220 "greeting").weaken (fun _ => id)
    (fun _ _ => id) fun _ _ => Stopped.mono fun _ => And.left) fun _ => ?_
  refine Ensures.bind ((hello_ensures hplain (Or.inl rfl)).weaken (fun _ => id)
    (fun _ _ => id) fun _ _ => Stopped.mono fun _ => And.left) fun _ => ?_
  refine Ensures.get_bind fun read => ?_
  split
  · refine Ensures.bind ((starttls_ensures settings.host (Or.inr (Or.inl rfl))
      (Or.inr (Or.inr rfl))).weaken (fun _ hc => hc.2) (fun _ _ => id) fun _ _ => id) fun _ => ?_
    exact ensures_pure fun _ => id
  · exact ensures_pure fun _ hc => hc.2

end Upgrade

/-! ## A whole session -/

section Whole

variable {p : Platform} {rounds : Nat}

theorem Sound.mono {allowed allowed' : Bytes → Prop} {c : Conversation} (h : Sound allowed c)
    (hle : ∀ line, allowed line → allowed' line) : Sound allowed' c where
  accounted := h.accounted
  covered := h.covered
  wrote wire bytes hin :=
    have ⟨line, hline, hbytes⟩ := h.wrote wire bytes hin
    ⟨line, hle line hline, hbytes⟩

/-- Over the TLS wire, nothing changes what passed before it. -/
theorem kept_before (before : List Traffic) :
    Kept (fun _ => True) fun c => SoundOver (fun _ => True) .tls c ∧ beforeTls c.traffic = before := by
  have hkept := kept_sound (fun _ => True) (some .tls)
  have hpush : ∀ {c : Conversation} {e : Traffic}, SoundOver (fun _ => True) .tls c →
      beforeTls (c.traffic ++ [e]) = beforeTls c.traffic :=
    fun h => (append_of_secured (h.1.covered.secured_iff.2 h.2) _).1
  refine ⟨fun h => h.1.1.accounted, ?_, ?_, ?_, ?_, ?_⟩
  · exact fun h hw hline hbytes => ⟨hkept.wrote h.1 hw hline hbytes, (hpush h.1).trans h.2⟩
  · exact fun h hw bytes => ⟨hkept.received h.1 hw bytes, (hpush h.1).trans h.2⟩
  · exact fun h hline => ⟨hkept.took h.1 hline, (hpush h.1).trans h.2⟩
  · exact fun h => ⟨hkept.compacted h.1, h.2⟩
  · exact fun h capabilities => ⟨hkept.heard h.1 capabilities, h.2⟩

/-- What follows the greetings keeps what the session over its wire keeps. -/
theorem rest_keeps {I : Conversation → Prop} (hkept : Kept (fun _ => True) I)
    (settings : EmailSettings) (message : Message) (now : Instant) (encrypted : Bool)
    {c : Conversation} (hc : I c) :
    I (Exchange.after (do
      logIn p rounds settings encrypted
      submit p rounds settings message now) c) := by
  have hrest : Ensures I (do
      logIn p rounds settings encrypted
      submit p rounds settings message now) (fun _ => I) (Stopped rounds I) :=
    Ensures.bind (logIn_ensures hkept settings encrypted) fun _ =>
      submit_ensures hkept settings message now
  rcases hrest.ends hc with ⟨_, _, h⟩ | ⟨_, _, h⟩
  · exact h
  · exact h.1

/-- How a session over an open connection ends: in its greetings, without TLS after them, or under
TLS with the greetings' traffic before it. -/
inductive Ended (rounds : Nat) (settings : EmailSettings) (greeted : Conversation) :
    Except Stop Unit → Conversation → Prop
  | greeting {stop : Stop} : Stopped rounds (Sound (Greeting settings)) stop greeted →
      Ended rounds settings greeted (.error stop) greeted
  | refused (credentials : SmtpCredentials) : settings.credentials = some credentials →
      SoundOver (Greeting settings) .plain greeted →
      Ended rounds settings greeted (.error (.failed .credentialsWithoutTls)) greeted
  | anonymous {result : Except Stop Unit} {c : Conversation} : settings.credentials = none →
      SoundOver (fun _ => True) .plain c → Ended rounds settings greeted result c
  | encrypted {result : Except Stop Unit} {c : Conversation} :
      SoundOver (fun _ => True) .tls c → beforeTls c.traffic = beforeTls greeted.traffic →
      Ended rounds settings greeted result c

def openedConversation : Conversation := { session := .opened, traffic := [] }

theorem soundOver_opened (allowed : Bytes → Prop) : SoundOver allowed .plain openedConversation := by
  refine ⟨⟨⟨rfl, Nat.le_refl _⟩, ⟨?_, ?_, ?_, ?_⟩, ?_⟩, rfl⟩ <;>
    simp [openedConversation, Session.opened, beforeTls, underTls, Wrote]

theorem converse_ended (p : Platform) (rounds : Nat) (settings : EmailSettings) (message : Message)
    (now : Instant) :
    Ended rounds settings ((greet p rounds settings).after openedConversation)
      ((converse p rounds settings message now).result openedConversation)
      ((converse p rounds settings message now).after openedConversation) := by
  rcases (@greet_ensures p rounds settings).ends (soundOver_opened _) with
    ⟨encrypted, hgreet, hsound⟩ | ⟨stop, hgreet, hstop⟩
  · obtain ⟨hresult, hafter⟩ := bind_of_ok (fun encrypted => do
      logIn p rounds settings encrypted
      submit p rounds settings message now) hgreet
    unfold converse
    rw [hresult, hafter]
    have hany := fun c (h : Sound (Greeting settings) c) => h.mono fun _ _ => trivial
    cases encrypted with
    | true =>
      have := @rest_keeps p rounds _ (kept_before _) settings message now true _
        ⟨⟨hany _ hsound.1, hsound.2⟩, rfl⟩
      exact .encrypted this.1 this.2
    | false =>
      cases hcredentials : settings.credentials with
      | none =>
        exact .anonymous hcredentials (rest_keeps (kept_sound _ (some .plain)) settings message now
          false ⟨hany _ hsound.1, hsound.2⟩)
      | some credentials =>
        have hlogIn : logIn p rounds settings false = throw (.failed .credentialsWithoutTls) := by
          rw [logIn, hcredentials]
          rfl
        rw [hlogIn]
        exact .refused credentials hcredentials hsound
  · obtain ⟨hresult, hafter⟩ := bind_of_error (fun encrypted => do
      logIn p rounds settings encrypted
      submit p rounds settings message now) hgreet
    unfold converse
    rw [hresult, hafter]
    exact .greeting hstop

/-- The bytes before and after the upgrade: each over its own wire, and every line read as a reply
after it from bytes received after it. -/
structure Separated (traffic : List Traffic) : Prop where
  before : ∀ e ∈ beforeTls traffic, e.Clear
  under : ∀ e ∈ underTls traffic, e.Covered
  replies : takenBytes (underTls traffic) <+: receivedBytes (underTls traffic)

/-- A session with a credential and without the upgrade. -/
structure Withheld (rounds : Nat) (settings : EmailSettings) (result : Except Stop Unit)
    (traffic : List Traffic) : Prop where
  greetings : Wrote (Greeting settings) traffic
  fails : (∃ e, result = .error (.failed e)) ∨
    (result = .error .waiting ∧ rounds ≤ (receivedBytes traffic).length)

theorem Sound.separated {allowed : Bytes → Prop} {c : Conversation} (h : Sound allowed c) :
    Separated c.traffic := by
  refine ⟨h.covered.before, h.covered.under, ?_⟩
  by_cases hin : .secured ∈ c.traffic
  · have hbytes := h.accounted.bytes
    rw [traffic_split hin, receivedBytes_append, takenBytes_append, h.covered.drained hin,
      List.append_assoc] at hbytes
    exact ⟨c.session.unread, (List.append_cancel_left hbytes).symm⟩
  · rw [(beforeTls_of_clear hin).2]
    exact List.prefix_refl _

theorem Ended.separated {settings : EmailSettings} {greeted c : Conversation}
    {result : Except Stop Unit} (h : Ended rounds settings greeted result c) :
    Separated c.traffic := by
  cases h with
  | greeting hstop => exact hstop.1.separated
  | refused _ _ h => exact h.1.separated
  | anonymous _ h => exact h.1.separated
  | encrypted h _ => exact h.1.separated

theorem Ended.withheld {settings : EmailSettings} {greeted c : Conversation}
    {result : Except Stop Unit} (h : Ended rounds settings greeted result c)
    {credentials : SmtpCredentials} (hcredentials : settings.credentials = some credentials)
    (hnot : .secured ∉ c.traffic) : Withheld rounds settings result c.traffic := by
  cases h with
  | @greeting stop hstop =>
    refine ⟨hstop.1.wrote, ?_⟩
    cases stop with
    | failed e => exact Or.inl ⟨e, rfl⟩
    | waiting => exact Or.inr ⟨rfl, hstop.2 rfl⟩
  | refused _ _ h => exact ⟨h.1.wrote, Or.inl ⟨_, rfl⟩⟩
  | anonymous hnone _ =>
    rw [hnone] at hcredentials
    cases hcredentials
  | encrypted h _ => exact absurd (h.1.covered.secured_iff.2 h.2) hnot

/-- With a credential, what passed before the upgrade is what passed before it in the greetings. -/
theorem Ended.beforeTls_eq {settings : EmailSettings} {greeted c : Conversation}
    {result : Except Stop Unit} (h : Ended rounds settings greeted result c)
    {credentials : SmtpCredentials} (hcredentials : settings.credentials = some credentials) :
    beforeTls c.traffic = beforeTls greeted.traffic := by
  cases h with
  | greeting _ => rfl
  | refused _ _ _ => rfl
  | anonymous hnone _ =>
    rw [hnone] at hcredentials
    cases hcredentials
  | encrypted _ hbefore => exact hbefore

/-- What `send` did before it had a connection, or the end of a session over one. -/
theorem send_cases (p : Platform) (rounds : Nat) (settings : EmailSettings) (message : Message)
    (now : Instant) :
    (∃ e, ∀ credentials, send p rounds { settings with credentials := credentials } message now =
      (.error (.failed e), [])) ∨
    ∀ credentials, send p rounds { settings with credentials := credentials } message now =
      ((converse p rounds { settings with credentials := credentials } message now).result
        openedConversation,
      ((converse p rounds { settings with credentials := credentials } message now).after
        openedConversation).traffic) := by
  cases hcomplete : settings.isComplete with
  | false =>
    refine Or.inl ⟨noRelay, fun credentials => ?_⟩
    have : EmailSettings.isComplete { settings with credentials := credentials } = false := hcomplete
    rw [send, this]
    rfl
  | true =>
    have hcomplete' : ∀ credentials,
        EmailSettings.isComplete { settings with credentials := credentials } = true :=
      fun _ => hcomplete
    have hconnect : ∀ credentials,
        connect p { settings with credentials := credentials } = connect p settings := fun _ => rfl
    cases hconnected : connect p settings with
    | error e =>
      refine Or.inl ⟨e, fun credentials => ?_⟩
      rw [send, hcomplete' credentials, hconnect credentials, hconnected]
      rfl
    | ok _ =>
      refine Or.inr fun credentials => ?_
      rw [send, hcomplete' credentials, hconnect credentials, hconnected]
      rfl

theorem credential_only_under_tls (p : Platform) (rounds : Nat) (settings : EmailSettings)
    (message : Message) (now : Instant) :
    Separated (send p rounds settings message now).2 ∧
    ∀ credentials, settings.credentials = some credentials →
      (∀ other, beforeTls (send p rounds { settings with credentials := some other } message now).2 =
        beforeTls (send p rounds settings message now).2) ∧
      (.secured ∉ (send p rounds settings message now).2 →
        Withheld rounds settings (send p rounds settings message now).1
          (send p rounds settings message now).2) := by
  rcases send_cases p rounds settings message now with ⟨e, hnothing⟩ | hsession
  · have hsend : send p rounds settings message now = (.error (.failed e), []) :=
      hnothing settings.credentials
    rw [hsend]
    refine ⟨⟨by simp [beforeTls], by simp [underTls], by simp [underTls, takenBytes]⟩, ?_⟩
    rintro credentials -
    refine ⟨fun other => ?_, fun _ => ⟨by simp [Wrote], Or.inl ⟨e, rfl⟩⟩⟩
    rw [hnothing (some other)]
  · have hsend := hsession settings.credentials
    have hended := converse_ended p rounds settings message now
    change send p rounds settings message now = _ at hsend
    rw [hsend]
    refine ⟨hended.separated, fun credentials hcredentials => ⟨fun other => ?_, fun hnot => ?_⟩⟩
    · have hother := converse_ended p rounds { settings with credentials := some other } message now
      rw [hsession (some other)]
      -- the greetings do not look at the credential
      exact (hother.beforeTls_eq rfl).trans (hended.beforeTls_eq hcredentials).symm
    · exact hended.withheld hcredentials hnot

end Whole

end PartnerPortal.Smtp

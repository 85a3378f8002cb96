import PartnerPortal.Billing.Message
import PartnerPortal.Lib.Exchange
import PartnerPortal.Lib.Text

/-!
# The mail session

A hand-written SMTP client over one connection: its read-ahead buffer, the parser of replies, the
capability list, the upgrade to TLS, and the sending of one message.

The relay is a function of all that passed so far, so it may answer anything, in any pieces, fail or
close at any point, and answer differently after the upgrade.  A relay may go on without an end, so a
session is run for a number of reads and of lines of a reply; where it runs out of them it is still
waiting.
-/

namespace PartnerPortal.Smtp

/-! ## The two sides -/

/-- What the session is spoken over. -/
inductive Wire where
  | plain
  | tls
deriving Repr, DecidableEq

/-- What passed between the client and the relay, and the lines the client took for replies. -/
inductive Traffic where
  | wrote (wire : Wire) (bytes : Bytes)
  | received (wire : Wire) (bytes : Bytes)
  /-- a line left the buffer to be read as part of a reply -/
  | took (line : Bytes)
  /-- the wire was replaced by the TLS wire -/
  | secured
deriving Repr, DecidableEq

/-- The other end and the network on the way to it. -/
structure Relay where
  /-- the failure of a write, and how many of its bytes went out before it -/
  writeFails : List Traffic → Bytes → Option (Nat × String)
  /-- the outcome of a read; no bytes are the end of the stream -/
  reads : List Traffic → Except String Bytes

/-- What the client runs on. -/
structure Platform where
  /-- whether the name of the relay has an address -/
  resolves : String → Except String Bool
  connects : String → Except String Unit
  setsTimeouts : Except String Unit
  /-- `upgrade`: TLS of this build, for a server of that name -/
  upgrade : String → Except SendError Unit
  /-- `{:?}` of a text -/
  quoted : List Char → String
  relay : Relay

structure Session where
  wire : Option Wire
  /-- bytes read from the relay, and how many of them were consumed -/
  buffer : Bytes
  consumed : Nat
  capabilities : List (List Char)
  encrypted : Bool
deriving Repr, DecidableEq

/-- A session, and all that passed in it. -/
structure Conversation where
  session : Session
  traffic : List Traffic
deriving Repr, DecidableEq

/-- Why a session goes no further: it failed, or more of a reply has still to come. -/
inductive Stop where
  | failed (error : SendError)
  | waiting
deriving Repr, DecidableEq

/-- A part of a session. -/
abbrev Talk (α : Type) : Type := Exchange Conversation Stop α

/-! ## What changes -/

namespace Session

/-- `Session::new` -/
def opened : Session where
  wire := some .plain
  buffer := []
  consumed := 0
  capabilities := []
  encrypted := false

def unread (s : Session) : Bytes := s.buffer.drop s.consumed

/-- The first complete line of the buffer. -/
def nextLine (s : Session) : Option Bytes :=
  if lf ∈ s.unread then some (s.unread.takeWhile (· ≠ lf) ++ [lf]) else none

def supports (s : Session) (capability : String) : Bool :=
  s.capabilities.any fun c => c.map Char.toLower = capability.toList.map Char.toLower

end Session

namespace Conversation

def wrote (c : Conversation) (wire : Wire) (bytes : Bytes) : Conversation :=
  { c with traffic := c.traffic ++ [.wrote wire bytes] }

def received (c : Conversation) (wire : Wire) (bytes : Bytes) : Conversation where
  session := { c.session with buffer := c.session.buffer ++ bytes }
  traffic := c.traffic ++ [.received wire bytes]

def took (c : Conversation) (line : Bytes) : Conversation where
  session := { c.session with consumed := c.session.consumed + line.length }
  traffic := c.traffic ++ [.took line]

/-- Drop what has been consumed. -/
def compacted (c : Conversation) : Conversation :=
  { c with session := { c.session with buffer := c.session.unread, consumed := 0 } }

def heard (c : Conversation) (capabilities : List (List Char)) : Conversation :=
  { c with session := { c.session with capabilities := capabilities } }

/-- The buffer is emptied before the wire is taken. -/
def cleared (c : Conversation) : Conversation :=
  { c with session := { c.session with buffer := [], consumed := 0 } }

def detached (c : Conversation) : Conversation :=
  { c with session := { c.session with wire := none } }

def secured (c : Conversation) : Conversation where
  session := { c.session with wire := some .tls, encrypted := true, capabilities := [] }
  traffic := c.traffic ++ [.secured]

end Conversation

/-! ## Reading and writing -/

def wireMut : Talk Wire := do
  let c ← get
  match c.session.wire with
  | some wire => return wire
  | none => throw (.failed (.protocol "the session lost its connection"))

section Client

variable (p : Platform)

def writeAll (bytes : Bytes) : Talk Unit := do
  let wire ← wireMut
  let c ← get
  match p.relay.writeFails c.traffic bytes with
  | none => modify (·.wrote wire bytes)
  | some (sent, e) => do
    modify (·.wrote wire (bytes.take sent))
    throw (.failed (.io e))

def maxReplyBytes : Nat := 8 * 1024

def chunkBytes : Nat := 1024

/-- A line that outgrew the cap is a peer that does not speak SMTP. -/
def checkUnended : Talk Unit := do
  let c ← get
  if maxReplyBytes < c.session.buffer.length then
    throw (.failed (.protocol
      ("the relay sent more than " ++ toString maxReplyBytes ++ " bytes without ending a line")))
  else return ()

/-- One read into the buffer. -/
def readMore : Talk Unit := do
  let wire ← wireMut
  let c ← get
  match p.relay.reads c.traffic with
  | .error e => throw (.failed (.io e))
  | .ok bytes =>
    if bytes = [] then throw (.failed (.protocol "the relay closed the connection mid-reply"))
    else modify (·.received wire (bytes.take chunkBytes))

def takeLine (line : Bytes) : Talk (List Char) := do
  modify (·.took line)
  return Utf8.characters line

/-- `read_line`, in so many rounds at most. -/
def readLine : Nat → Talk (List Char)
  | 0 => throw .waiting
  | rounds + 1 => do
    let c ← get
    match c.session.nextLine with
    | some line => takeLine line
    | none => do
      modify Conversation.compacted
      checkUnended
      readMore p
      readLine rounds

/-! ## Replies -/

structure Reply where
  code : Nat
  text : List Char
deriving Repr, DecidableEq

def maxErrorChars : Nat := 500

/-- Cut at a character boundary, and say that it happened. -/
def bounded (text : List Char) : List Char :=
  if text.length ≤ maxErrorChars then text else text.take maxErrorChars ++ ['…']

/-- `trim_end_matches(['\r', '\n'])` -/
def trimLineEnd (line : List Char) : List Char := line.rdropWhile fun c => c = '\r' || c = '\n'

/-- The three digits that a line of a reply begins with, and what follows them. -/
def replyCode : List Char → Option (List Char × List Char)
  | a :: b :: c :: rest =>
    if a.isDigit && b.isDigit && c.isDigit then some ([a, b, c], rest) else none
  | _ => none

/-- The value of the digits of a reply, which three of them always have. -/
def codeValue (digits : List Char) : Nat :=
  digits.foldl (fun n c => n * 10 + (c.toNat - 48)) 0

/-- What one line makes of the reply so far. -/
inductive Progress where
  | continued (code text : List Char)
  | ended (reply : Reply)
deriving Repr, DecidableEq

/-- One line of a reply.  No code was read before the first of them. -/
def replyLine (code : Option (List Char)) (text line : List Char) : Except SendError Progress :=
  let trimmed := trimLineEnd line
  match replyCode trimmed with
  | none => .error (.protocol ("the relay sent a line that is not a reply: " ++ p.quoted trimmed))
  | some (digits, rest) =>
    if code.any (· ≠ digits) then
      .error (.protocol ("the reply changed code mid-message: " ++ p.quoted trimmed))
    else
      match rest with
      | '-' :: more => .ok (.continued digits (text ++ more ++ ['\n']))
      | ' ' :: more => .ok (.ended { code := codeValue digits, text := bounded (text ++ more) })
      | _ =>
        .error (.protocol ("the relay sent an unseparated reply line: " ++ p.quoted trimmed))

/-- The lines of a reply that are still to come, so many at most. -/
def readReplyFrom (rounds : Nat) : Nat → Option (List Char) → List Char → Talk Reply
  | 0, _, _ => throw .waiting
  | lines + 1, code, text => do
    let line ← readLine p rounds
    match replyLine p code text line with
    | .error e => throw (.failed e)
    | .ok (.continued code text) => readReplyFrom rounds lines (some code) text
    | .ok (.ended reply) => return reply

def readReply (rounds : Nat) : Talk Reply := readReplyFrom p rounds rounds none []

/-! ## Commands -/

def expect (rounds expectCode : Nat) (command : String) : Talk Reply := do
  let reply ← readReply p rounds
  if reply.code = expectCode ∨ (expectCode = 250 ∧ reply.code = 251) then return reply
  else throw (.failed (.refused command reply.code (String.ofList reply.text)))

/-- A command line on the wire. -/
def commandLine (line : List Char) : Bytes := asBytes line ++ crlf

def command (rounds expectCode : Nat) (name : String) (line : List Char) : Talk Reply := do
  writeAll p (commandLine line)
  expect p rounds expectCode name

/-- `str::lines` of a text whose lines end with LF. -/
def textLines (text : List Char) : List (List Char) :=
  let lines := text.splitOn '\n'
  let ended := lines.dropLast.map fun line => if line.getLast? = some '\r' then line.dropLast else line
  ended ++ (lines.getLast?.toList.filter (· ≠ []))

/-- `split_whitespace().next()` -/
def firstWord (line : List Char) : Option (List Char) :=
  let word := (line.dropWhile Text.isWhitespace).takeWhile fun c => !Text.isWhitespace c
  if word = [] then none else some word

/-- The first line of the reply to `EHLO` is the relay's greeting. -/
def capabilityWords (text : List Char) : List (List Char) :=
  ((textLines text).drop 1).filterMap firstWord

/-- The domain of the sender's own address. -/
def senderDomain (fromAddress : String) : List Char :=
  let domain := fromAddress.toList.rtakeWhile (· ≠ '@')
  if '@' ∈ fromAddress.toList ∧ domain ≠ [] then domain else "localhost".toList

def ehloLine (fromAddress : String) : List Char := "EHLO ".toList ++ senderDomain fromAddress

def hello (rounds : Nat) (fromAddress : String) : Talk Unit := do
  let reply ← command p rounds 250 "EHLO" (ehloLine fromAddress)
  modify (·.heard (capabilityWords reply.text))

/-- Anything already buffered came before the handshake. -/
def checkDrained : Talk Unit := do
  let c ← get
  if c.session.buffer.length ≠ c.session.consumed then
    throw (.failed (.protocol
      "the relay sent data after its STARTTLS reply, before the handshake"))
  else modify Conversation.cleared

/-- The wire is taken, and replaced where TLS can be had. -/
def replaceWire (host : String) : Talk Unit := do
  let _ ← wireMut
  modify Conversation.detached
  match p.upgrade host with
  | .error e => throw (.failed e)
  | .ok _ => modify Conversation.secured

def starttls (rounds : Nat) (host : String) : Talk Unit := do
  let _ ← command p rounds 220 "STARTTLS" "STARTTLS".toList
  checkDrained
  replaceWire p host
  let reply ← command p rounds 250 "EHLO" "EHLO".toList
  modify (·.heard (capabilityWords reply.text))

/-- `AUTH PLAIN`'s message. -/
def plainMessage (credentials : SmtpCredentials) : List Char :=
  base64 (0 :: asBytes credentials.username.toList ++ 0 :: asBytes credentials.password.toList)

/-- A relay that asks for the response separately is answered once. -/
def authenticate (rounds : Nat) (credentials : SmtpCredentials) : Talk Unit := do
  let encoded := plainMessage credentials
  let _ ← Exchange.recover (command p rounds 235 "AUTH" ("AUTH PLAIN ".toList ++ encoded)) fun e =>
    match e with
    | .failed (.refused _ 334 _) => command p rounds 235 "AUTH" encoded
    | e => throw e
  return ()

/-! ## Sending -/

def connect (settings : EmailSettings) : Except SendError Unit :=
  let addr := settings.host ++ ":" ++ toString settings.port
  match p.resolves addr with
  | .error e => .error (.connect (addr ++ ": " ++ e))
  | .ok false => .error (.connect (addr ++ ": no address resolved"))
  | .ok true =>
    match p.connects addr with
    | .error e => .error (.connect (addr ++ ": " ++ e))
    | .ok _ => p.setsTimeouts.mapError .connect

/-- The part of `send` up to the upgrade, and whether it took place. -/
def greet (rounds : Nat) (settings : EmailSettings) : Talk Bool := do
  let _ ← expect p rounds 220 "greeting"
  hello p rounds settings.fromAddress
  let c ← get
  if c.session.supports "STARTTLS" then do
    starttls p rounds settings.host
    return true
  else return false

/-- The credential goes out under TLS only. -/
def logIn (rounds : Nat) (settings : EmailSettings) (encrypted : Bool) : Talk Unit :=
  match settings.credentials with
  | none => return ()
  | some credentials =>
    if encrypted then authenticate p rounds credentials
    else throw (.failed .credentialsWithoutTls)

/-- `QUIT`'s failure is not reported. -/
def quit (rounds : Nat) : Talk Unit :=
  Exchange.recover (do let _ ← command p rounds 221 "QUIT" "QUIT".toList; return ()) fun e =>
    match e with
    | .failed _ => return ()
    | .waiting => throw .waiting

/-- The envelope and the message. -/
def submit (rounds : Nat) (settings : EmailSettings) (message : Message) (now : Instant) :
    Talk Unit := do
  let _ ← command p rounds 250 "MAIL FROM"
    ("MAIL FROM:<".toList ++ settings.fromAddress.toList ++ ['>'])
  let _ ← command p rounds 250 "RCPT TO" ("RCPT TO:<".toList ++ message.recipient.toList ++ ['>'])
  let _ ← command p rounds 354 "DATA" "DATA".toList
  writeAll p (stuffed (message.wireBytes now))
  writeAll p (dot :: crlf)
  let _ ← expect p rounds 250 "end of DATA"
  quit p rounds

/-- What `send` does over an open connection. -/
def converse (rounds : Nat) (settings : EmailSettings) (message : Message) (now : Instant) :
    Talk Unit := do
  let encrypted ← greet p rounds settings
  logIn p rounds settings encrypted
  submit p rounds settings message now

def noRelay : SendError :=
  .protocol "no relay is configured (billing.email.smtp_host and from_address are required)"

/-- `send`, and all that passed. -/
def send (rounds : Nat) (settings : EmailSettings) (message : Message) (now : Instant) :
    Except Stop Unit × List Traffic :=
  if !settings.isComplete then
    (.error (.failed noRelay), [])
  else
    match connect p settings with
    | .error e => (.error (.failed e), [])
    | .ok _ =>
      let opened : Conversation := { session := .opened, traffic := [] }
      ((converse p rounds settings message now).result opened,
        ((converse p rounds settings message now).after opened).traffic)

end Client

/-! ## More rounds -/

section More

open Exchange

variable {p : Platform} {rounds : Nat}

theorem readLine_settles {n m : Nat} (h : n ≤ m) : Settles .waiting (readLine p n) (readLine p m) := by
  induction n generalizing m with
  | zero => exact Settles.of_stop _
  | succ n ih =>
    obtain ⟨m, rfl⟩ := Nat.exists_eq_add_of_le' h
    refine Settles.bind (Settles.refl _ _) fun c => ?_
    cases c.session.nextLine with
    | some line => exact Settles.refl _ _
    | none =>
      exact Settles.bind (Settles.refl _ _) fun _ => Settles.bind (Settles.refl _ _) fun _ =>
        Settles.bind (Settles.refl _ _) fun _ => ih (Nat.le_of_add_le_add_right h)

theorem readReplyFrom_settles {more lines lines' : Nat} (hrounds : rounds ≤ more)
    (h : lines ≤ lines') (code : Option (List Char)) (text : List Char) :
    Settles .waiting (readReplyFrom p rounds lines code text)
      (readReplyFrom p more lines' code text) := by
  induction lines generalizing lines' code text with
  | zero => exact Settles.of_stop _
  | succ lines ih =>
    obtain ⟨m, rfl⟩ := Nat.exists_eq_add_of_le' h
    refine Settles.bind (readLine_settles hrounds) fun line => ?_
    cases replyLine p code text line with
    | error e => exact Settles.refl _ _
    | ok progress =>
      cases progress with
      | continued digits text => exact ih (Nat.le_of_add_le_add_right h) (some digits) text
      | ended reply => exact Settles.refl _ _

theorem expect_settles {more : Nat} (h : rounds ≤ more) (expectCode : Nat) (name : String) :
    Settles .waiting (expect p rounds expectCode name) (expect p more expectCode name) :=
  Settles.bind (readReplyFrom_settles h h none []) fun _ => Settles.refl _ _

theorem command_settles {more : Nat} (h : rounds ≤ more) (expectCode : Nat) (name : String)
    (line : List Char) :
    Settles .waiting (command p rounds expectCode name line) (command p more expectCode name line) :=
  Settles.bind (Settles.refl _ _) fun _ => expect_settles h expectCode name

theorem greet_settles {more : Nat} (h : rounds ≤ more) (settings : EmailSettings) :
    Settles .waiting (greet p rounds settings) (greet p more settings) := by
  refine Settles.bind (expect_settles h 220 "greeting") fun _ => ?_
  refine Settles.bind (Settles.bind (command_settles h _ _ _) fun _ => Settles.refl _ _) fun _ => ?_
  refine Settles.bind (Settles.refl _ _) fun c => ?_
  split
  · refine Settles.bind ?_ fun _ => Settles.refl _ _
    refine Settles.bind (command_settles h _ _ _) fun _ => ?_
    refine Settles.bind (Settles.refl _ _) fun _ => Settles.bind (Settles.refl _ _) fun _ => ?_
    exact Settles.bind (command_settles h _ _ _) fun _ => Settles.refl _ _
  · exact Settles.refl _ _

theorem logIn_settles {more : Nat} (h : rounds ≤ more) (settings : EmailSettings)
    (encrypted : Bool) :
    Settles .waiting (logIn p rounds settings encrypted) (logIn p more settings encrypted) := by
  unfold logIn
  cases settings.credentials with
  | none => exact Settles.refl _ _
  | some credentials =>
    dsimp only
    split
    · refine Settles.bind (Settles.recover (command_settles h _ _ _) (fun e => ?_) fun _ => rfl)
        fun _ => Settles.refl _ _
      split
      · exact command_settles h _ _ _
      · exact Settles.refl _ _
    · exact Settles.refl _ _

theorem submit_settles {more : Nat} (h : rounds ≤ more) (settings : EmailSettings)
    (message : Message) (now : Instant) :
    Settles .waiting (submit p rounds settings message now) (submit p more settings message now) := by
  refine Settles.bind (command_settles h _ _ _) fun _ => ?_
  refine Settles.bind (command_settles h _ _ _) fun _ => ?_
  refine Settles.bind (command_settles h _ _ _) fun _ => ?_
  refine Settles.bind (Settles.refl _ _) fun _ => Settles.bind (Settles.refl _ _) fun _ => ?_
  refine Settles.bind (expect_settles h 250 "end of DATA") fun _ => ?_
  exact Settles.recover (Settles.bind (command_settles h _ _ _) fun _ => Settles.refl _ _)
    (fun _ => Settles.refl _ _) fun _ => rfl

/-- What a session that no longer waits has come to does not depend on the rounds it was given. -/
theorem send_settles {more : Nat} (h : rounds ≤ more) (settings : EmailSettings) (message : Message)
    (now : Instant) : (send p rounds settings message now).1 = .error .waiting ∨
      send p rounds settings message now = send p more settings message now := by
  unfold send
  split
  · exact Or.inr rfl
  · cases connect p settings with
    | error e => exact Or.inr rfl
    | ok _ =>
      have hconverse : Settles .waiting (converse p rounds settings message now)
          (converse p more settings message now) :=
        Settles.bind (greet_settles h settings) fun encrypted =>
          Settles.bind (logIn_settles h settings encrypted) fun _ =>
            submit_settles h settings message now
      rcases hconverse { session := .opened, traffic := [] } with hstop | ⟨hresult, hafter⟩
      · exact Or.inl hstop
      · exact Or.inr (Prod.ext hresult (congrArg Conversation.traffic hafter))

end More

end PartnerPortal.Smtp

import PartnerPortal.Lib.Replace
import PartnerPortal.Proxy.Texts
import PartnerPortal.Timefmt

/-!
# Statement messages

A message of the mail client, the headers it is refused for, and its bytes in the `DATA` phase.
-/

namespace PartnerPortal

open FixedWidth Replace

/-- `str::as_bytes` -/
def asBytes (text : List Char) : Bytes := text.flatMap String.utf8EncodeChar

def lf : UInt8 := 10

def crlf : Bytes := [13, 10]

def dot : UInt8 := 46

/-- `config::SmtpCredentials` -/
structure SmtpCredentials where
  username : String
  password : String
deriving Repr, DecidableEq

/-- Where and how to send. -/
structure EmailSettings where
  host : String
  port : Nat
  fromAddress : String
  credentials : Option SmtpCredentials
deriving Repr, DecidableEq

namespace EmailSettings

def isComplete (settings : EmailSettings) : Bool :=
  !settings.host.isEmpty && !settings.fromAddress.isEmpty

end EmailSettings

/-- One message.  The sender and the recipient are its `from` and `to`. -/
structure Message where
  sender : String
  recipient : String
  subject : String
  body : String
deriving Repr, DecidableEq

/-- Why a message could not be built or sent. -/
inductive SendError where
  | connect (reason : String)
  | invalidHeader (field reason : String)
  | credentialsWithoutTls
  | noTlsInBuild
  | refused (command : String) (code : Nat) (text : String)
  | protocol (reason : String)
  | io (reason : String)
deriving Repr, DecidableEq

/-! ## Building one -/

def checkHeader (field value : String) : Except SendError Unit :=
  if value.isEmpty then .error (.invalidHeader field "it is empty")
  else if '\r' ∈ value.toList ∨ '\n' ∈ value.toList then
    .error (.invalidHeader field "it carries a line break")
  else if value.toList.any isControl then
    .error (.invalidHeader field "it carries a control character")
  else .ok ()

def checkAddress (field value : String) : Except SendError Unit :=
  if '@' ∈ value.toList then .ok ()
  else .error (.invalidHeader field "the address has no @ in it")

/-- `Message::new` -/
def Message.new (sender recipient subject body : String) : Except SendError Message := do
  checkHeader "from" sender
  checkHeader "to" recipient
  checkHeader "subject" subject
  checkAddress "to" recipient
  checkAddress "from" sender
  return { sender, recipient, subject, body }

/-- A text that stays on its line. -/
def Unbroken (text : List Char) : Prop := ∀ c ∈ text, c ≠ '\r' ∧ c ≠ '\n'

theorem Unbroken.append {front back : List Char} (hfront : Unbroken front) (hback : Unbroken back) :
    Unbroken (front ++ back) :=
  fun c hc => (List.mem_append.1 hc).elim (hfront c) (hback c)

theorem Unbroken.no_lf {text : List Char} (h : Unbroken text) : '\n' ∉ text :=
  fun hmem => (h _ hmem).2 rfl

theorem Unbroken.no_cr {text : List Char} (h : Unbroken text) : '\r' ∉ text :=
  fun hmem => (h _ hmem).1 rfl

theorem unbroken_iff (text : List Char) :
    (text.all fun c => c.toNat != 13 && c.toNat != 10) = true ↔ Unbroken text := by
  simp only [Unbroken, List.all_eq_true, Bool.and_eq_true, bne_iff_ne]
  refine forall₂_congr fun c _ => and_congr (not_congr ?_) (not_congr ?_)
  · exact @Char.toNat_inj c '\r'
  · exact @Char.toNat_inj c '\n'

instance (text : List Char) : Decidable (Unbroken text) := decidable_of_iff _ (unbroken_iff text)

/-! ## Its bytes -/

def weekdays : List String := ["Mon", "Tue", "Wed", "Thu", "Fri", "Sat", "Sun"]

def monthNames : List String :=
  ["Jan", "Feb", "Mar", "Apr", "May", "Jun", "Jul", "Aug", "Sep", "Oct", "Nov", "Dec"]

/-- `rfc5322_date`.  The epoch was a Thursday. -/
def rfc5322Date (now : Instant) : List Char :=
  let day := now.nanos / nanosPerDay
  let date := Calendar.civil day
  let seconds := (now.nanos % nanosPerDay).toNat / 1000000000
  (weekdays.getD ((day + 3) % 7).toNat "Mon").toList ++ [',', ' '] ++
    pad 2 date.day.toNat ++ [' '] ++
    (monthNames.getD (date.month - 1).toNat "Jan").toList ++ [' '] ++
    pad 4 date.year.toNat ++ [' '] ++
    pad 2 (seconds / 60 / 60) ++ [':'] ++ pad 2 (seconds / 60 % 60) ++ [':'] ++ pad 2 (seconds % 60) ++
    " +0000".toList

/-- CRLF, LF and CR all end a line of the body. -/
def normalisedLines (body : List Char) : List (List Char) :=
  (replaceAll ['\r'] ['\n'] (replaceAll ['\r', '\n'] ['\n'] body)).splitOn '\n'

def headerLine (name : String) (value : List Char) : Bytes :=
  asBytes (name.toList ++ [':', ' '] ++ value) ++ crlf

/-- The message as it goes on the wire: headers, a blank line and the lines of the body. -/
def Message.wireBytes (message : Message) (now : Instant) : Bytes :=
  headerLine "From" message.sender.toList ++
    headerLine "To" message.recipient.toList ++
    headerLine "Subject" message.subject.toList ++
    headerLine "Date" (rfc5322Date now) ++
    headerLine "MIME-Version" "1.0".toList ++
    headerLine "Content-Type" "text/plain; charset=utf-8".toList ++
    headerLine "Content-Transfer-Encoding" "8bit".toList ++
    headerLine "Auto-Submitted" "auto-generated".toList ++
    crlf ++ (normalisedLines message.body.toList).flatMap fun line => asBytes line ++ crlf

def stuffedFrom : Bool → Bytes → Bytes
  | _, [] => []
  | atLineStart, byte :: bytes =>
    if atLineStart ∧ byte = dot then dot :: byte :: stuffedFrom (byte = lf) bytes
    else byte :: stuffedFrom (byte = lf) bytes

/-- The `DATA` payload: a dot at the start of a line is doubled. -/
def stuffed (bytes : Bytes) : Bytes := stuffedFrom true bytes

/-! ## Base64 -/

def base64Alphabet : List Char :=
  "ABCDEFGHIJKLMNOPQRSTUVWXYZabcdefghijklmnopqrstuvwxyz0123456789+/".toList

/-- The character of six bits of a triple. -/
def sextet (triple shift : Nat) : Char := base64Alphabet.getD (triple / 2 ^ shift % 64) 'A'

/-- Standard base64 with padding. -/
def base64 : Bytes → List Char
  | [] => []
  | [b0] =>
    let triple := b0.toNat * 65536
    [sextet triple 18, sextet triple 12, '=', '=']
  | [b0, b1] =>
    let triple := b0.toNat * 65536 + b1.toNat * 256
    [sextet triple 18, sextet triple 12, sextet triple 6, '=']
  | b0 :: b1 :: b2 :: rest =>
    let triple := b0.toNat * 65536 + b1.toNat * 256 + b2.toNat
    sextet triple 18 :: sextet triple 12 :: sextet triple 6 :: sextet triple 0 :: base64 rest

example : base64 (asBytes "foobar".toList) = "Zm9vYmFy".toList := by decide
example : base64 (asBytes "fooba".toList) = "Zm9vYmE=".toList := by decide
example : base64 (asBytes "foob".toList) = "Zm9vYg==".toList := by decide

end PartnerPortal

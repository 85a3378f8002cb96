import PartnerPortal.Dashboard.Sse
import PartnerPortal.Lib.Utf8Reader
import PartnerPortal.Proxy.Meter
import PartnerPortal.Proxy.Usage

/-!
# The dashboard's side of the stream

How the store reads `GET /api/dashboard/events`: it decodes the pieces of the body as they arrive,
turns each CRLF into LF, takes the frames that a blank line ends, and refetches for a frame whose
data is a change event.  The reading of a frame's data as JSON is the parameter `parseJson`.

Results:
- `bodyFrames_append` — what is open is read as the start of what arrives, unless a CR stands in
  front of a CRLF;
- `readStream_frames` — however a body is cut, the frames that are handled are those of the text
  that arrived, up to the first piece that leaves too long a frame open.
-/

namespace PartnerPortal.Dashboard

/-- Largest frame without its end that is held, in UTF-16 code units. -/
def maxFrameBytes : Nat := 1 * 2 ^ 20

/-- The `length` of a text in the browser's language. -/
def utf16Length (text : List Char) : Nat :=
  (text.map fun c => if c.toNat < 0x10000 then 1 else 2).sum

/-- `text.replace(/\r\n/g, '\n')` -/
def replaceCrLf : List Char → List Char
  | [] => []
  | '\r' :: '\n' :: rest => '\n' :: replaceCrLf rest
  | c :: rest => c :: replaceCrLf rest

/-! ## Decoding -/

/-- A `TextDecoder` that is told there is more to come. -/
structure TextDecoder where
  pending : Bytes := []
  /-- the first character has been decoded -/
  begun : Bool := false

namespace TextDecoder

def byteOrderMark : Char := Char.ofNat 0xFEFF

/-- A byte order mark in front of a text is no part of it. -/
def stripMark (text : List Char) : List Char :=
  if text.head? = some byteOrderMark then text.tail else text

/-- `decode(value, { stream: true })` -/
def decode (decoder : TextDecoder) (value : Bytes) : List Char × TextDecoder :=
  let (text, pending) := Utf8.reader.read (decoder.pending ++ value)
  (if decoder.begun then text else stripMark text,
    { pending := pending, begun := decoder.begun || !text.isEmpty })

end TextDecoder

/-! ## Frames -/

/-- What is in front of the first blank line, and what is behind it. -/
def takeFrame : List Char → Option (List Char × List Char)
  | [] => none
  | '\n' :: '\n' :: rest => some ([], rest)
  | c :: rest => (takeFrame rest).map fun taken => (c :: taken.1, taken.2)

/-- A field line joins the data of its frame. -/
def addField (data line : List Char) : List Char :=
  if line = [] ∨ line.head? = some ':' then data
  else
    let value := (line.dropWhile (· ≠ ':')).drop 1
    let value := if value.head? = some ' ' then value.tail else value
    if line.takeWhile (· ≠ ':') = "data".toList then
      if data = [] then value else data ++ '\n' :: value
    else data

def frameData (frame : List Char) : List Char := (frame.splitOn '\n').foldl addField []

/-- Whether a frame makes the dashboard refetch. -/
def handleFrame (parseJson : String → Option JsonValue) (frame : List Char) : Bool :=
  let data := frameData frame
  if data = [] then false
  else
    match parseJson (String.ofList data) with
    | some (.object fields) =>
      match fields.lookup "type" with
      | some (.string type) => type = "data_changed"
      | _ => false
    | _ => false

theorem takeFrame_cons {c : Char} {rest : List Char}
    (h : ∀ after, c :: rest ≠ '\n' :: '\n' :: after) :
    takeFrame (c :: rest) = (takeFrame rest).map fun taken => (c :: taken.1, taken.2) := by
  rw [takeFrame]
  intro after hc hrest
  exact h after (by rw [hc, hrest])

/-- A frame is taken as soon as the second line feed behind it is there. -/
theorem takeFrame_front {text rest frame : List Char} (h : takeFrame text = some (frame, rest)) :
    text = frame ++ '\n' :: '\n' :: rest ∧
      ∀ more, takeFrame (frame ++ '\n' :: '\n' :: more) = some (frame, more) := by
  fun_induction takeFrame text generalizing frame with
  | case1 => cases h
  | case2 after =>
    cases h
    exact ⟨rfl, fun more => by simp [takeFrame]⟩
  | case3 c after hne ih =>
    obtain ⟨⟨inner, rest'⟩, htaken, heq⟩ := Option.map_eq_some_iff.1 h
    cases heq
    obtain ⟨hafter, hmore⟩ := ih htaken
    refine ⟨by rw [hafter, List.cons_append], fun more => ?_⟩
    rw [List.cons_append, takeFrame_cons, hmore more, Option.map_some]
    -- what makes the end of the frame its own is in front of what is behind it
    intro behind hbehind
    obtain ⟨rfl, hinner⟩ := List.cons.inj hbehind
    cases inner with
    | nil => exact hne _ rfl hafter
    | cons d inner =>
      obtain ⟨rfl, -⟩ := List.cons.inj hinner
      exact hne _ rfl hafter

/-- The frames of a text, one after the other. -/
def frames : Reader Char (List Char) where
  take := takeFrame
  length_lt := by
    intro text rest frame h
    rw [(takeFrame_front h).1, List.length_append, List.length_cons, List.length_cons]
    exact Nat.lt_add_left _ (Nat.lt_succ_of_lt (Nat.lt_succ_self _))
  append := by
    intro text rest frame more h
    obtain ⟨htext, hfront⟩ := takeFrame_front h
    have hmore := hfront (rest ++ more)
    rwa [htext, List.append_assoc]

/-- A frame and the blank line behind it. -/
def ended (frame : List Char) : List Char := frame ++ ['\n', '\n']

theorem frames_undoes : frames.Undoes ended := by
  intro text rest frame h
  obtain ⟨htext, hfront⟩ := takeFrame_front h
  exact ⟨by rw [htext, ended, List.append_assoc]; rfl,
    fun more => by rw [ended, List.append_assoc]; exact hfront more⟩

/-! ## The loop -/

/-- The variables of `readStream`. -/
structure StreamReader where
  decoder : TextDecoder := {}
  buffer : List Char := []
  /-- the frames it handled -/
  handled : List (List Char) := []

namespace StreamReader

def sawFrame (reader : StreamReader) : Bool := !reader.handled.isEmpty

/-- A piece of the body is decoded, and the frames it ends are handled. -/
def absorb (reader : StreamReader) (value : Bytes) : StreamReader :=
  let (text, decoder) := reader.decoder.decode value
  let (ended, buffer) := frames.read (replaceCrLf (reader.buffer ++ text))
  { decoder := decoder, buffer := buffer, handled := reader.handled ++ ended }

end StreamReader

/-- Where the reading of a body ended. -/
structure StreamOutcome where
  reader : StreamReader
  /-- `oversized SSE frame` was thrown -/
  threw : Bool

def readStreamFrom (reader : StreamReader) : List Bytes → StreamOutcome
  | [] => { reader := reader, threw := false }
  | value :: rest =>
    let reader := reader.absorb value
    if maxFrameBytes < utf16Length reader.buffer then { reader := reader, threw := true }
    else readStreamFrom reader rest

def readStream (pieces : List Bytes) : StreamOutcome := readStreamFrom {} pieces

/-! ## What a body says -/

/-- The text of the bytes that arrived. -/
def bodyText (bytes : Bytes) : List Char := TextDecoder.stripMark (Utf8.reader.read bytes).1

/-- The frames of a text, and what is open behind them. -/
def bodyFrames (text : List Char) : List (List Char) × List Char := frames.read (replaceCrLf text)

/-- A text without a CR in front of a CRLF.  Removing the CR of the CRLF would make another. -/
def Unbroken (text : List Char) : Prop := ¬ ['\r', '\r', '\n'] <:+: text

/-- It leaves open too long a frame. -/
def Oversized (bytes : Bytes) : Prop :=
  maxFrameBytes < utf16Length (bodyFrames (bodyText bytes)).2

/-! ## CRLF across the cut -/

theorem replaceCrLf_cons {c : Char} {rest : List Char}
    (h : c = '\r' → rest.head? ≠ some '\n') :
    replaceCrLf (c :: rest) = c :: replaceCrLf rest := by
  rw [replaceCrLf]
  intro after hc hrest
  exact h hc (by rw [hrest]; rfl)

theorem length_replaceCrLf_le (text : List Char) : (replaceCrLf text).length ≤ text.length := by
  fun_induction replaceCrLf text with
  | case1 => exact Nat.le_refl _
  | case2 rest ih => exact Nat.succ_le_succ (Nat.le_succ_of_le ih)
  | case3 c rest hne ih => exact Nat.succ_le_succ ih

/-- Only a CRLF across the cut makes a difference. -/
theorem replaceCrLf_append {front rest : List Char} (h : front.getLast? ≠ some '\r') :
    replaceCrLf (front ++ rest) = replaceCrLf front ++ replaceCrLf rest := by
  fun_induction replaceCrLf front with
  | case1 => rfl
  | case2 front ih =>
    rw [List.cons_append, List.cons_append, replaceCrLf, List.cons_append, ih]
    intro hlast
    rw [List.getLast?_cons_cons, List.getLast?_cons, hlast] at h
    exact h rfl
  | case3 c front hne ih =>
    have hlast : front.getLast? ≠ some '\r' := fun hlast => h (by rw [List.getLast?_cons, hlast]; rfl)
    rw [List.cons_append, replaceCrLf_cons, ih hlast, List.cons_append]
    rintro rfl hhead
    cases front with
    | nil => exact h rfl
    | cons d front =>
      rw [List.cons_append, List.head?_cons, Option.some.injEq] at hhead
      exact hne front rfl (by rw [hhead])

theorem head?_replaceCrLf {text : List Char} (h : (replaceCrLf text).head? = some '\n') :
    text.head? = some '\n' ∨ ['\r', '\n'] <+: text := by
  fun_cases replaceCrLf text with
  | case1 => cases h
  | case2 rest => exact Or.inr ⟨rest, rfl⟩
  | case3 c rest hne =>
    rw [replaceCrLf_cons fun hc hhead => ?_, List.head?_cons] at h
    · exact Or.inl (by rw [List.head?_cons, h])
    · cases rest with
      | nil => cases hhead
      | cons d rest =>
        rw [List.head?_cons, Option.some.injEq] at hhead
        exact hne rest hc (by rw [hhead])

theorem replaceCrLf_ne_nil {text : List Char} (h : text ≠ []) : replaceCrLf text ≠ [] := by
  fun_cases replaceCrLf text with
  | case1 => exact h
  | case2 rest => exact List.cons_ne_nil _ _
  | case3 c rest => exact List.cons_ne_nil _ _

theorem Unbroken.tail {c : Char} {text : List Char} (h : Unbroken (c :: text)) : Unbroken text :=
  fun hbroken => h (hbroken.trans (List.suffix_cons c text).isInfix)

theorem Unbroken.front {front rest : List Char} (h : Unbroken (front ++ rest)) : Unbroken front :=
  fun hbroken => h (hbroken.trans (List.prefix_append front rest).isInfix)

/-- What was turned once is turned again with what follows it. -/
theorem replaceCrLf_again {front rest : List Char} (h : Unbroken (front ++ rest)) :
    replaceCrLf (replaceCrLf front ++ rest) = replaceCrLf (front ++ rest) := by
  fun_induction replaceCrLf front with
  | case1 => rfl
  | case2 front ih =>
    rw [List.cons_append, replaceCrLf_cons fun hlf => absurd hlf (by decide), ih h.tail.tail, List.cons_append,
      List.cons_append, replaceCrLf]
  | case3 c front hne ih =>
    cases front with
    | nil => rfl
    | cons d front =>
      have hd : c = '\r' → d ≠ '\n' := fun hc hd => hne front hc (by rw [hd])
      have hhead : c = '\r' → (replaceCrLf (d :: front) ++ rest).head? ≠ some '\n' := by
        rintro rfl hhead
        rw [List.head?_append_of_ne_nil _ (replaceCrLf_ne_nil (List.cons_ne_nil d front))] at hhead
        rcases head?_replaceCrLf hhead with hhead | ⟨after, hafter⟩
        · exact hd rfl (Option.some.inj hhead)
        · exact h (hafter ▸ ⟨[], after ++ rest, rfl⟩)
      calc
        replaceCrLf (c :: (replaceCrLf (d :: front) ++ rest))
            = c :: replaceCrLf (replaceCrLf (d :: front) ++ rest) := replaceCrLf_cons hhead
        _ = c :: replaceCrLf (d :: (front ++ rest)) := by rw [ih h.tail, List.cons_append]
        _ = replaceCrLf (c :: d :: (front ++ rest)) := by
          refine (replaceCrLf_cons fun hc hhead => hd hc ?_).symm
          exact Option.some.inj hhead

/-- A text that was turned is not changed by turning it, nor is a start of it that a line ends. -/
theorem replaceCrLf_front {text front rest : List Char} (h : Unbroken text)
    (hfront : replaceCrLf text = front ++ rest) (hlast : front.getLast? ≠ some '\r') :
    replaceCrLf front = front := by
  have hagain : replaceCrLf (front ++ rest) = front ++ rest := by
    have hunbroken : Unbroken (text ++ []) := by rwa [List.append_nil]
    have h := replaceCrLf_again hunbroken
    rwa [List.append_nil, List.append_nil, hfront] at h
  rw [replaceCrLf_append hlast] at hagain
  have hlength := congrArg List.length hagain
  rw [List.length_append, List.length_append] at hlength
  refine (List.append_inj hagain ?_).1
  have := length_replaceCrLf_le front
  have := length_replaceCrLf_le rest
  omega

theorem getLast?_flatMap_ended (units : List (List Char)) :
    (units.flatMap ended).getLast? ≠ some '\r' := by
  cases units using List.reverseRecOn with
  | nil => rw [List.flatMap_nil, List.getLast?_nil]; exact (Option.some_ne_none _).symm
  | append_singleton units frame =>
    rw [List.flatMap_append, List.flatMap_singleton, ended, ← List.append_assoc,
      List.getLast?_append_cons, List.getLast?_cons_cons, List.getLast?_singleton]
    decide

/-- What was open is read as the start of what arrives. -/
theorem bodyFrames_append {text more : List Char} (h : Unbroken (text ++ more)) :
    bodyFrames (text ++ more) = ((bodyFrames text).1 ++ (bodyFrames ((bodyFrames text).2 ++ more)).1,
      (bodyFrames ((bodyFrames text).2 ++ more)).2) := by
  have hread : replaceCrLf text = (bodyFrames text).1.flatMap ended ++ (bodyFrames text).2 ∧
      ∀ frame ∈ (bodyFrames text).1, ∀ more, takeFrame (ended frame ++ more) = some (frame, more) :=
    frames_undoes.read (replaceCrLf text)
  obtain ⟨htext, hunits⟩ := hread
  have hlast := getLast?_flatMap_ended (bodyFrames text).1
  have hkept := replaceCrLf_front h.front htext hlast
  have hturned : replaceCrLf (text ++ more) =
      (bodyFrames text).1.flatMap ended ++ replaceCrLf ((bodyFrames text).2 ++ more) := by
    calc
      replaceCrLf (text ++ more) = replaceCrLf (replaceCrLf text ++ more) := (replaceCrLf_again h).symm
      _ = replaceCrLf ((bodyFrames text).1.flatMap ended ++ ((bodyFrames text).2 ++ more)) := by
        rw [← List.append_assoc]
        exact congrArg (fun t => replaceCrLf (t ++ more)) htext
      _ = _ := by rw [replaceCrLf_append hlast, hkept]
  rw [bodyFrames, hturned, Reader.read_write hunits]
  rfl

/-! ## The reading of a body -/

theorem stripMark_append {text : List Char} (h : text ≠ []) (more : List Char) :
    TextDecoder.stripMark (text ++ more) = TextDecoder.stripMark text ++ more := by
  unfold TextDecoder.stripMark
  rw [List.head?_append_of_ne_nil _ h]
  split
  · rw [List.tail_append_of_ne_nil h]
  · rfl

/-- The reader of a body, some bytes of which arrived. -/
def readerOf (bytes : Bytes) : StreamReader where
  decoder := { pending := (Utf8.reader.read bytes).2, begun := !(Utf8.reader.read bytes).1.isEmpty }
  buffer := (bodyFrames (bodyText bytes)).2
  handled := (bodyFrames (bodyText bytes)).1

/-- What is decoded of a piece is what it adds to the text. -/
theorem decode_readerOf (bytes value : Bytes) :
    ∃ text, (readerOf bytes).decoder.decode value = (text, (readerOf (bytes ++ value)).decoder) ∧
      bodyText (bytes ++ value) = bodyText bytes ++ text := by
  have hread := Utf8.reader.read_append bytes value
  refine ⟨((readerOf bytes).decoder.decode value).1, ?_, ?_⟩
  · unfold readerOf TextDecoder.decode
    simp only [hread]
    cases (Utf8.reader.read bytes).1 <;> simp
  · unfold readerOf bodyText TextDecoder.decode
    simp only [hread]
    cases (Utf8.reader.read bytes).1 with
    | nil => rfl
    | cons c text => exact stripMark_append (List.cons_ne_nil c text) _

theorem Unbroken.start {bytes more : Bytes} (h : Unbroken (bodyText (bytes ++ more))) :
    Unbroken (bodyText bytes) := by
  obtain ⟨text, -, htext⟩ := decode_readerOf bytes more
  exact (htext ▸ h).front

/-- A piece brings the reader to where the whole of what arrived brings it. -/
theorem absorb_readerOf {bytes value : Bytes} (h : Unbroken (bodyText (bytes ++ value))) :
    (readerOf bytes).absorb value = readerOf (bytes ++ value) := by
  obtain ⟨text, hdecode, htext⟩ := decode_readerOf bytes value
  have hframes := bodyFrames_append (htext ▸ h)
  rw [← htext] at hframes
  unfold StreamReader.absorb
  rw [hdecode]
  simp only [readerOf, hframes]
  rfl

/-- The loop ends behind the first piece that leaves too long a frame open, or behind the last. -/
theorem readStreamFrom_readerOf {bytes : Bytes} {pieces : List Bytes}
    (h : Unbroken (bodyText (bytes ++ pieces.flatten))) :
    ∃ front, front <+: pieces ∧
      (readStreamFrom (readerOf bytes) pieces).reader = readerOf (bytes ++ front.flatten) ∧
      ((readStreamFrom (readerOf bytes) pieces).threw = true →
        front ≠ [] ∧ Oversized (bytes ++ front.flatten)) ∧
      ((readStreamFrom (readerOf bytes) pieces).threw = false →
        front = pieces ∧
          ∀ start, start <+: pieces → start ≠ [] → ¬ Oversized (bytes ++ start.flatten)) := by
  induction pieces generalizing bytes with
  | nil =>
    refine ⟨[], List.prefix_rfl, ?_, ?_, ?_⟩
    · rw [List.flatten_nil, List.append_nil]; rfl
    · exact fun hthrew => nomatch hthrew
    · exact fun _ => ⟨rfl, fun start hstart hne => absurd (List.prefix_nil.1 hstart) hne⟩
  | cons value pieces ih =>
    rw [List.flatten_cons, ← List.append_assoc] at h
    rw [readStreamFrom, absorb_readerOf h.start]
    split
    · rename_i hoversized
      refine ⟨[value], ⟨pieces, rfl⟩, ?_, fun _ => ⟨List.cons_ne_nil _ _, ?_⟩, ?_⟩
      · rw [List.flatten_singleton]
      · rw [List.flatten_singleton]
        exact hoversized
      · exact fun hthrew => nomatch hthrew
    · rename_i hfits
      obtain ⟨front, hfront, hreader, hthrew, hended⟩ := ih h
      refine ⟨value :: front, List.cons_prefix_cons.2 ⟨rfl, hfront⟩, ?_, fun ht => ?_, fun ht => ?_⟩
      · rw [hreader, List.flatten_cons, List.append_assoc]
      · rw [List.flatten_cons, ← List.append_assoc]
        exact ⟨List.cons_ne_nil _ _, (hthrew ht).2⟩
      · obtain ⟨rfl, hstarts⟩ := hended ht
        refine ⟨rfl, fun start hstart hne => ?_⟩
        obtain hnil | ⟨rest, rfl, hrest⟩ := List.prefix_cons_iff.1 hstart
        · exact absurd hnil hne
        · rw [List.flatten_cons, ← List.append_assoc]
          cases rest with
          | nil => rwa [List.flatten_nil, List.append_nil]
          | cons next rest => exact hstarts _ hrest (List.cons_ne_nil _ _)

/-- What arrives later does not change a frame. -/
theorem bodyFrames_start {bytes more : Bytes} (h : Unbroken (bodyText (bytes ++ more))) :
    (bodyFrames (bodyText bytes)).1 <+: (bodyFrames (bodyText (bytes ++ more))).1 := by
  obtain ⟨text, -, htext⟩ := decode_readerOf bytes more
  rw [htext, bodyFrames_append (htext ▸ h)]
  exact List.prefix_append _ _

/-- However a body is cut, the frames that are handled are those of its text, up to the first piece
that leaves too long a frame open. -/
theorem readStream_frames {pieces : List Bytes} (h : Unbroken (bodyText pieces.flatten)) :
    (readStream pieces).reader.handled <+: (bodyFrames (bodyText pieces.flatten)).1 ∧
      ((readStream pieces).threw = false →
        (readStream pieces).reader.handled = (bodyFrames (bodyText pieces.flatten)).1) ∧
      ((readStream pieces).threw = true ↔
        ∃ front, front <+: pieces ∧ front ≠ [] ∧ Oversized front.flatten) := by
  have hrun : ∃ front, front <+: pieces ∧
      (readStream pieces).reader = readerOf front.flatten ∧
      ((readStream pieces).threw = true → front ≠ [] ∧ Oversized front.flatten) ∧
      ((readStream pieces).threw = false →
        front = pieces ∧ ∀ start, start <+: pieces → start ≠ [] → ¬ Oversized start.flatten) :=
    @readStreamFrom_readerOf [] pieces h
  obtain ⟨front, ⟨rest, rfl⟩, hreader, hthrew, hended⟩ := hrun
  rw [List.flatten_append] at h
  rw [hreader]
  refine ⟨?_, fun hwhole => ?_, fun ht => ?_, fun ⟨start, hstart, hne, hoversized⟩ => ?_⟩
  · rw [List.flatten_append]
    exact bodyFrames_start h
  · exact congrArg (fun start => (bodyFrames (bodyText start.flatten)).1) (hended hwhole).1
  · exact ⟨front, List.prefix_append front rest, hthrew ht⟩
  · cases hthrows : (readStream (front ++ rest)).threw with
    | true => rfl
    | false => exact absurd hoversized ((hended hthrows).2 start hstart hne)

/-- A frame whose line ends are cut between CR and LF. -/
def Sample.cutFrame : List Bytes := [[0x64, 0x3A, 0x0D], [0x0A, 0x0D], [0x0A, 0x3A]]

theorem readStream_frames_cut :
    (readStream Sample.cutFrame).reader.handled = [['d', ':']] := by
  have hframes := readStream_frames (show Unbroken (bodyText Sample.cutFrame.flatten) by
    unfold Unbroken; decide +kernel)
  rw [hframes.2.1 (by decide +kernel)]
  decide +kernel

end PartnerPortal.Dashboard

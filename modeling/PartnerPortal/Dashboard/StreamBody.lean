import PartnerPortal.Dashboard.StreamReader

/-!
# What the server writes, read by the dashboard

The body of `GET /api/dashboard/events` is its events and, while it is idle, comments.  The response
layer of the framework writes the fields of an event line by line; which of them comes first, and
whether a blank stands in front of the delay, is not used.

Result: `readStream_body` — of what has arrived of a body, cut into any pieces, the dashboard handles
every item that is there whole, once and in order, refetches for the change events and no other, and
takes no frame for too long.
-/

namespace PartnerPortal.Dashboard

/-! ## The body -/

inductive BodyItem where
  | event (event : SseEvent)
  /-- the comment that keeps an idle body open -/
  | keepAlive

/-- The comment's text. -/
def keepAliveText : String := "keep-alive"

/-- The lines of an event, the data of which is one line, with or without a blank in front of its
delay. -/
def SseEvent.lines (spaced : Bool) (event : SseEvent) : List (List Char) :=
  let delay := if spaced then "retry: " else "retry:"
  (event.event.map fun name => "event: ".toList ++ name.toList).toList ++
    ((event.retry.map fun ms => delay.toList ++ (toString ms).toList).toList ++
      ["data: ".toList ++ event.data.toList])

namespace BodyItem

def lines (spaced : Bool) : BodyItem → List (List Char)
  | .event sent => sent.lines spaced
  | .keepAlive => [": ".toList ++ keepAliveText.toList]

/-- What the handler yields. -/
def Sent : BodyItem → Prop
  | .event sent => sent = .connected ∨ sent = .dataChanged ∨ sent = .serverShutdown
  | .keepAlive => True

/-- The dashboard is to refetch. -/
def refetches : BodyItem → Bool
  | .event sent => sent = .dataChanged
  | .keepAlive => false

end BodyItem

/-- How items are written, the blank line behind each left out. -/
structure Serializer where
  frame : BodyItem → List Char
  spaced : Bool
  written : ∀ {item : BodyItem}, item.Sent →
    ∃ lines, lines.Perm (item.lines spaced) ∧ frame item = ['\n'].intercalate lines

/-- The payloads are read as the objects they are. -/
structure ReadsPayloads (parseJson : String → Option JsonValue) : Prop where
  connected : parseJson SseEvent.connected.data = some (.object [("type", .string "connected")])
  dataChanged :
    parseJson SseEvent.dataChanged.data = some (.object [("type", .string "data_changed")])
  serverShutdown :
    parseJson SseEvent.serverShutdown.data = some (.object [("type", .string "server_shutdown")])

/-- ASCII text as bytes. -/
def asciiBytes (text : List Char) : Bytes := text.map fun c => UInt8.ofNat c.toNat

def bodyBytes (serializer : Serializer) (items : List BodyItem) : Bytes :=
  asciiBytes (items.flatMap fun item => ended (serializer.frame item))

/-! ## The lines of an item -/

/-- A line of a body's item. -/
structure PlainLine (line : List Char) : Prop where
  nonempty : line ≠ []
  ascii : ∀ c ∈ line, c.toNat < 128 ∧ c ≠ '\n' ∧ c ≠ '\r'

instance (line : List Char) : Decidable (PlainLine line) :=
  decidable_of_iff
    (line ≠ [] ∧ (line.all fun c => decide (c.toNat < 128 ∧ c ≠ '\n' ∧ c ≠ '\r')) = true)
    ⟨fun h => ⟨h.1, by simpa using h.2⟩, fun h => ⟨h.nonempty, by simpa using h.ascii⟩⟩

theorem plain_of_sent {item : BodyItem} (h : item.Sent) (spaced : Bool) :
    ∀ line ∈ item.lines spaced, PlainLine line := by
  cases item with
  | keepAlive => cases spaced <;> decide +kernel
  | event event =>
    rcases h with rfl | rfl | rfl
    · cases spaced <;> decide +kernel
    · cases spaced <;> decide +kernel
    · cases spaced <;> decide +kernel

/-- A frame of lines ends where the blank line stands. -/
theorem takeFrame_line {line : List Char} (h : '\n' ∉ line) (text : List Char) :
    takeFrame (line ++ text) = (takeFrame text).map fun taken => (line ++ taken.1, taken.2) := by
  induction line with
  | nil =>
    rw [List.nil_append]
    cases takeFrame text <;> rfl
  | cons c line ih =>
    have hc : c ≠ '\n' := fun hc => h (hc ▸ List.mem_cons_self)
    rw [List.cons_append, takeFrame_cons, ih fun hmem => h (List.mem_cons_of_mem c hmem),
      Option.map_map]
    · rfl
    · exact fun after heq => hc (List.cons.inj heq).1

/-- Lines begin with the first character of the first. -/
theorem intercalate_lines {line : List Char} (h : PlainLine line) (lines : List (List Char)) :
    ∃ c text, ['\n'].intercalate (line :: lines) = c :: text ∧ c ≠ '\n' := by
  obtain ⟨c, begun, rfl⟩ := List.exists_cons_of_ne_nil h.nonempty
  have hc := (h.ascii c List.mem_cons_self).2.1
  cases lines with
  | nil => exact ⟨c, begun, List.intercalate_singleton, hc⟩
  | cons next lines =>
    exact ⟨c, _, by rw [List.intercalate_cons_cons, List.cons_append, List.cons_append], hc⟩

theorem takeFrame_lines {lines : List (List Char)} (hne : lines ≠ [])
    (h : ∀ line ∈ lines, PlainLine line) (more : List Char) :
    takeFrame (ended (['\n'].intercalate lines) ++ more) =
      some (['\n'].intercalate lines, more) := by
  induction lines with
  | nil => exact absurd rfl hne
  | cons line lines ih =>
    have hline := h line List.mem_cons_self
    have hlf : '\n' ∉ line := fun hmem => (hline.ascii _ hmem).2.1 rfl
    cases lines with
    | nil =>
      rw [List.intercalate_singleton, ended, List.append_assoc, takeFrame_line hlf]
      simp [takeFrame]
    | cons next lines =>
      have hrest : ∀ line ∈ next :: lines, PlainLine line :=
        fun line hmem => h line (List.mem_cons_of_mem _ hmem)
      obtain ⟨c, text, htext, hc⟩ := intercalate_lines (hrest next List.mem_cons_self) lines
      have hnext := ih (List.cons_ne_nil _ _) hrest
      rw [htext, ended, List.append_assoc] at hnext
      rw [List.intercalate_cons_cons, htext, ended, List.append_assoc, List.append_assoc,
        List.append_assoc, takeFrame_line hlf, List.singleton_append, takeFrame_cons, hnext]
      · simp
      · intro after heq
        exact hc (List.cons.inj (List.cons.inj heq).2).1

/-! ## What a frame of lines says -/

/-- The line names the field that carries data. -/
def isData (line : List Char) : Bool := line.takeWhile (· ≠ ':') = "data".toList

theorem addField_other {line : List Char} (h : isData line = false) (data : List Char) :
    addField data line = data := by
  unfold addField
  split
  · rfl
  · rw [if_neg]
    exact fun hdata => Bool.false_ne_true (h ▸ decide_eq_true hdata)

theorem foldl_addField (lines : List (List Char)) (data : List Char) :
    lines.foldl addField data = (lines.filter isData).foldl addField data := by
  induction lines generalizing data with
  | nil => rfl
  | cons line lines ih =>
    cases hdata : isData line with
    | true => rw [List.filter_cons_of_pos hdata, List.foldl_cons, List.foldl_cons, ih]
    | false =>
      rw [List.filter_cons_of_neg (by rw [hdata]; exact Bool.false_ne_true), List.foldl_cons,
        addField_other hdata, ih]

/-- In whichever order the lines stand, what they say is the one line with data. -/
theorem frameData_lines {lines written : List (List Char)} (hperm : written.Perm lines)
    (hplain : ∀ line ∈ lines, PlainLine line) (hne : lines ≠ []) {line : List Char}
    (hdata : lines.filter isData = [line]) :
    frameData (['\n'].intercalate written) = addField [] line := by
  have hlf : ∀ line ∈ written, '\n' ∉ line := fun line hline hmem =>
    ((hplain line (hperm.subset hline)).ascii _ hmem).2.1 rfl
  have hwritten : written ≠ [] := fun hnil => hne (List.nil_perm.1 (hnil ▸ hperm))
  have hfilter : written.filter isData = [line] :=
    List.perm_singleton.1 (hdata ▸ hperm.filter isData)
  rw [frameData, List.splitOn_intercalate _ hlf hwritten, foldl_addField, hfilter]
  rfl

section Items

variable {parseJson : String → Option JsonValue} {serializer : Serializer} {item : BodyItem}

theorem frameData_event {sent : SseEvent} (h : (BodyItem.event sent).Sent) :
    frameData (serializer.frame (.event sent)) = sent.data.toList := by
  obtain ⟨written, hperm, hframe⟩ := serializer.written h
  have hdata : ∀ spaced, (sent.lines spaced).filter isData = ["data: ".toList ++ sent.data.toList] ∧
      addField [] ("data: ".toList ++ sent.data.toList) = sent.data.toList ∧
        sent.lines spaced ≠ [] := by
    rcases h with rfl | rfl | rfl <;> decide +kernel
  obtain ⟨hfilter, hread, hne⟩ := hdata serializer.spaced
  rw [hframe, frameData_lines hperm (plain_of_sent h _) hne hfilter, hread]

theorem frameData_keepAlive : frameData (serializer.frame .keepAlive) = [] := by
  obtain ⟨written, hperm, hframe⟩ := @Serializer.written serializer .keepAlive trivial
  rw [hframe, List.perm_singleton.1 hperm]
  decide +kernel

/-- The dashboard refetches for a change event and for nothing else. -/
theorem handleFrame_sent (hjson : ReadsPayloads parseJson) (h : item.Sent) :
    handleFrame parseJson (serializer.frame item) = item.refetches := by
  unfold handleFrame
  cases item with
  | keepAlive => rw [frameData_keepAlive]; rfl
  | event sent =>
    have hne : sent.data.toList ≠ [] := by rcases h with rfl | rfl | rfl <;> decide +kernel
    rw [frameData_event h]
    simp only [String.ofList_toList, if_neg hne]
    rcases h with rfl | rfl | rfl
    · rw [hjson.connected]
      decide +kernel
    · rw [hjson.dataChanged]
      decide +kernel
    · rw [hjson.serverShutdown]
      decide +kernel

/-! ## The text of a body -/

theorem lines_ne_nil (item : BodyItem) (spaced : Bool) : item.lines spaced ≠ [] := by
  cases item <;> simp [BodyItem.lines, SseEvent.lines]

theorem takeFrame_sent (h : item.Sent) (more : List Char) :
    takeFrame (ended (serializer.frame item) ++ more) = some (serializer.frame item, more) := by
  obtain ⟨written, hperm, hframe⟩ := serializer.written h
  have hplain := plain_of_sent h serializer.spaced
  rw [hframe]
  refine takeFrame_lines ?_ (fun line hline => hplain line (hperm.subset hline)) more
  exact fun hnil => lines_ne_nil item _ (List.nil_perm.1 (hnil ▸ hperm))

theorem mem_intercalate {c : Char} {lines : List (List Char)}
    (h : c ∈ ['\n'].intercalate lines) : c = '\n' ∨ ∃ line ∈ lines, c ∈ line := by
  induction lines with
  | nil => exact absurd h List.not_mem_nil
  | cons line lines ih =>
    cases lines with
    | nil =>
      rw [List.intercalate_singleton] at h
      exact Or.inr ⟨line, List.mem_cons_self, h⟩
    | cons next lines =>
      rw [List.intercalate_cons_cons, List.mem_append, List.mem_append, List.mem_singleton] at h
      rcases h with (hline | hlf) | hrest
      · exact Or.inr ⟨line, List.mem_cons_self, hline⟩
      · exact Or.inl hlf
      · exact (ih hrest).imp_right fun ⟨other, hother, hc⟩ =>
          ⟨other, List.mem_cons_of_mem line hother, hc⟩

theorem length_intercalate {lines : List (List Char)} (hne : lines ≠ []) :
    (['\n'].intercalate lines).length + 1 = (lines.map fun line => line.length + 1).sum := by
  induction lines with
  | nil => exact absurd rfl hne
  | cons line lines ih =>
    cases lines with
    | nil => rw [List.intercalate_singleton, List.map_singleton, List.sum_singleton]
    | cons next lines =>
      rw [List.intercalate_cons_cons, List.map_cons, List.sum_cons, ← ih (List.cons_ne_nil _ _),
        List.length_append, List.length_append, List.length_singleton, Nat.add_assoc]

/-- Nothing that is written needs decoding, and there is no CR in it. -/
theorem ascii_of_sent (h : item.Sent) :
    ∀ c ∈ ended (serializer.frame item), c.toNat < 128 ∧ c ≠ '\r' := by
  obtain ⟨written, hperm, hframe⟩ := serializer.written h
  have hlf : ('\n').toNat < 128 ∧ '\n' ≠ '\r' := by decide
  intro c hc
  rw [ended, hframe, List.mem_append] at hc
  rcases hc with hc | hc
  · rcases mem_intercalate hc with rfl | ⟨line, hline, hc⟩
    · exact hlf
    · have hplain := (plain_of_sent h _ line (hperm.subset hline)).ascii c hc
      exact ⟨hplain.1, hplain.2.2⟩
  · have hc : c = '\n' := by simpa using hc
    exact hc ▸ hlf

/-- An item is a short one. -/
theorem length_of_sent (h : item.Sent) : (ended (serializer.frame item)).length ≤ 256 := by
  obtain ⟨written, hperm, hframe⟩ := serializer.written h
  have hwritten : written ≠ [] := fun hnil => lines_ne_nil item _ (List.nil_perm.1 (hnil ▸ hperm))
  have hsum : ∀ spaced, ((item.lines spaced).map fun line => line.length + 1).sum ≤ 255 := by
    cases item with
    | keepAlive => decide +kernel
    | event sent => rcases h with rfl | rfl | rfl <;> decide +kernel
  rw [ended, hframe, List.length_append]
  calc
    (['\n'].intercalate written).length + 2
        = (written.map fun line => line.length + 1).sum + 1 := by
      rw [← length_intercalate hwritten]
    _ = ((item.lines serializer.spaced).map fun line => line.length + 1).sum + 1 := by
      rw [(hperm.map _).sum_eq]
    _ ≤ 256 := Nat.succ_le_succ (hsum _)

/-- Text as every part of a body is. -/
def Plain (text : List Char) : Prop := ∀ c ∈ text, c.toNat < 128 ∧ c ≠ '\r'

theorem read_asciiBytes {text : List Char} (h : Plain text) :
    Utf8.reader.read (asciiBytes text) = (text, []) := by
  have hbyte : ∀ c ∈ text, (UInt8.ofNat c.toNat).toNat = c.toNat := fun c hc =>
    Nat.mod_eq_of_lt (Nat.lt_trans (h c hc).1 (by decide))
  have hascii : ∀ b ∈ asciiBytes text, b < 0x80 := by
    intro b hb
    obtain ⟨c, hc, rfl⟩ := List.mem_map.1 hb
    exact UInt8.lt_iff_toNat_lt.2 (by rw [hbyte c hc]; exact (h c hc).1)
  have hback : text.map ((fun b : UInt8 => Char.ofNat b.toNat) ∘ fun c => UInt8.ofNat c.toNat) =
      text.map id :=
    List.map_congr_left fun c hc => by
      rw [Function.comp_apply, hbyte c hc, Char.ofNat_toNat, id_eq]
  rw [Utf8.read_ascii hascii, asciiBytes, List.map_map, hback, List.map_id]

theorem bodyText_asciiBytes {text : List Char} (h : Plain text) :
    bodyText (asciiBytes text) = text := by
  rw [bodyText, read_asciiBytes h, TextDecoder.stripMark, if_neg]
  intro hhead
  have hmark := (h _ (List.mem_of_mem_head? hhead)).1
  exact absurd hmark (by decide)

theorem replaceCrLf_plain {text : List Char} (h : Plain text) : replaceCrLf text = text := by
  induction text with
  | nil => rfl
  | cons c text ih =>
    rw [replaceCrLf_cons fun hc => absurd hc (h c List.mem_cons_self).2,
      ih fun d hd => h d (List.mem_cons_of_mem c hd)]

theorem unbroken_plain {text : List Char} (h : Plain text) : Unbroken text := fun hbroken =>
  (h '\r' (hbroken.subset List.mem_cons_self)).2 rfl

theorem utf16Length_le (text : List Char) : utf16Length text ≤ 2 * text.length := by
  induction text with
  | nil => exact Nat.le_refl _
  | cons c text ih =>
    have hc : (if c.toNat < 0x10000 then 1 else 2) ≤ 2 := by split <;> decide
    rw [utf16Length, List.map_cons, List.sum_cons, List.length_cons, Nat.mul_add, Nat.add_comm]
    exact Nat.add_le_add ih hc

/-- Of what has arrived of a body, the dashboard has the frames of the items that are there whole,
and the start of the next one open. -/
theorem bodyFrames_start_of_body {items : List BodyItem} (hsent : ∀ item ∈ items, item.Sent)
    {start : Bytes} (hstart : start <+: bodyBytes serializer items) :
    ∃ whole rest left, items = whole ++ rest ∧
      start = bodyBytes serializer whole ++ asciiBytes left ∧ Unbroken (bodyText start) ∧
      bodyFrames (bodyText start) = (whole.map serializer.frame, left) ∧
      (rest = [] → left = []) ∧
      ∀ next ∈ rest.head?, left <+: ended (serializer.frame next) ∧
        left ≠ ended (serializer.frame next) := by
  obtain ⟨begun, hbegun, rfl⟩ := List.prefix_map_iff.1 hstart
  have hplain : Plain begun := by
    intro c hc
    obtain ⟨item, hitem, hc⟩ := List.mem_flatMap.1 (hbegun.subset hc)
    exact ascii_of_sent (hsent item hitem) c hc
  rw [← List.flatMap_map] at hbegun
  have hunits : ∀ frame ∈ items.map serializer.frame, ∀ more,
      frames.take (ended frame ++ more) = some (frame, more) := by
    intro frame hframe more
    obtain ⟨item, hitem, rfl⟩ := List.mem_map.1 hframe
    exact takeFrame_sent (hsent item hitem) more
  obtain ⟨units, others, left, hsplit, hwhole, hread, hnil, hnext⟩ :=
    Reader.read_start hunits hbegun
  obtain ⟨whole, rest, rfl, rfl, rfl⟩ := List.map_eq_append_iff.1 hsplit
  have htext : bodyText (asciiBytes begun) = begun := bodyText_asciiBytes hplain
  refine ⟨whole, rest, left, rfl, ?_, ?_, ?_, fun hrest => hnil (hrest ▸ rfl), fun next hmem => ?_⟩
  · rw [hwhole, List.flatMap_map, List.map_append]
    rfl
  · rw [← asciiBytes, htext]
    exact unbroken_plain hplain
  · rw [← asciiBytes, htext, bodyFrames, replaceCrLf_plain hplain, hread]
  · refine hnext _ ?_
    rw [List.head?_map]
    exact Option.mem_map_of_mem _ hmem

/-- No item is long enough to be refused while it is open. -/
theorem not_oversized {items : List BodyItem} (hsent : ∀ item ∈ items, item.Sent) {start : Bytes}
    (hstart : start <+: bodyBytes serializer items) : ¬ Oversized start := by
  obtain ⟨whole, rest, left, rfl, -, -, hframes, hnil, hnext⟩ :=
    bodyFrames_start_of_body hsent hstart
  have hleft : left.length ≤ 256 := by
    cases rest with
    | nil => exact hnil rfl ▸ Nat.zero_le _
    | cons next rest =>
      have hshort : (ended (serializer.frame next)).length ≤ 256 :=
        length_of_sent (hsent next (List.mem_append_right whole List.mem_cons_self))
      exact (hnext next rfl).1.length_le.trans hshort
  rw [Oversized, hframes, Nat.not_lt]
  calc
    utf16Length left ≤ 2 * left.length := utf16Length_le left
    _ ≤ 2 * 256 := Nat.mul_le_mul_left 2 hleft
    _ ≤ maxFrameBytes := by decide

/-- Of what has arrived of a body the dashboard handles every item that is there whole, once and in
order, and refetches for the change events. -/
theorem readStream_body (hjson : ReadsPayloads parseJson) {items : List BodyItem}
    (hsent : ∀ item ∈ items, item.Sent) {pieces : List Bytes}
    (harrived : pieces.flatten <+: bodyBytes serializer items) :
    (readStream pieces).threw = false ∧
      ∃ whole rest left, items = whole ++ rest ∧
        pieces.flatten = bodyBytes serializer whole ++ left ∧
        (∀ next ∈ rest.head?, ¬ bodyBytes serializer [next] <+: left) ∧
        (readStream pieces).reader.handled.map (handleFrame parseJson) =
          whole.map BodyItem.refetches := by
  obtain ⟨whole, rest, left, rfl, hpieces, hunbroken, hframes, hnil, hnext⟩ :=
    bodyFrames_start_of_body hsent harrived
  have hthrew : (readStream pieces).threw = false := by
    rw [Bool.eq_false_iff, ne_eq, (readStream_frames hunbroken).2.2]
    rintro ⟨front, ⟨others, rfl⟩, -, hoversized⟩
    rw [List.flatten_append] at harrived
    exact not_oversized hsent ((List.prefix_append _ _).trans harrived) hoversized
  refine ⟨hthrew, whole, rest, asciiBytes left, rfl, hpieces, fun next hmem hprefix => ?_, ?_⟩
  · obtain ⟨hleft, hne⟩ := hnext next hmem
    have hlength := hprefix.length_le
    rw [bodyBytes, List.flatMap_singleton, asciiBytes, asciiBytes, List.length_map,
      List.length_map] at hlength
    exact hne (hleft.eq_of_length_le hlength)
  · rw [(readStream_frames hunbroken).2.1 hthrew, hframes, List.map_map]
    refine List.map_congr_left fun item hitem => handleFrame_sent hjson ?_
    exact hsent item (List.mem_append_left rest hitem)

end Items

namespace Sample

/-- The fields of an event in the order they were set in. -/
def serializer : Serializer where
  frame item := ['\n'].intercalate (item.lines false)
  spaced := false
  written _ := ⟨_, List.Perm.refl _, rfl⟩

def parsePayload (text : String) : Option JsonValue :=
  if text = SseEvent.connected.data then some (.object [("type", .string "connected")])
  else if text = SseEvent.dataChanged.data then some (.object [("type", .string "data_changed")])
  else if text = SseEvent.serverShutdown.data then
    some (.object [("type", .string "server_shutdown")])
  else none

theorem parsePayload_reads : ReadsPayloads parsePayload where
  connected := if_pos rfl
  dataChanged := by
    rw [parsePayload, if_neg (by decide), if_pos rfl]
  serverShutdown := by
    rw [parsePayload, if_neg (by decide), if_neg (by decide), if_pos rfl]

def items : List BodyItem :=
  [.event .connected, .event .dataChanged, .keepAlive, .event .dataChanged]

theorem items_sent : ∀ item ∈ items, item.Sent := by
  simp [items, BodyItem.Sent]

/-- A body that is cut inside its third item, in pieces that are cut inside the first two. -/
def bodyPieces : List Bytes :=
  let bytes := (bodyBytes serializer items).take 100
  [bytes.take 7, (bytes.take 80).drop 7, bytes.drop 80]

theorem bodyPieces_flatten : bodyPieces.flatten <+: bodyBytes serializer items := by
  decide +kernel

end Sample

theorem readStream_body_cut :
    (readStream Sample.bodyPieces).threw = false ∧
      ∃ whole rest left, Sample.items = whole ++ rest ∧
        Sample.bodyPieces.flatten = bodyBytes Sample.serializer whole ++ left ∧
        (∀ next ∈ rest.head?, ¬ bodyBytes Sample.serializer [next] <+: left) ∧
        (readStream Sample.bodyPieces).reader.handled.map (handleFrame Sample.parsePayload) =
          whole.map BodyItem.refetches :=
  readStream_body Sample.parsePayload_reads Sample.items_sent Sample.bodyPieces_flatten

end PartnerPortal.Dashboard

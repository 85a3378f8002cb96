import PartnerPortal.Proxy.SseScan

/-!
# The scanner and its reference

Whatever chunks a stream comes in, the scanner observes what can be read off its lines at once: the
events between blank lines, up to the first that is too large.

Results:
- `feed_bytes` — feeding chunks is feeding their bytes one at a time;
- `foldl_bytes` — feeding bytes is absorbing their lines;
- `foldl_lines` — absorbing lines is reading their events;
- `scan_eq_reference` — the scanner observes what the reference does.
-/

namespace PartnerPortal

/-- What one event's data adds to what was observed. -/
def ScanOutcome.observe (parseJson : String → Option JsonValue) (endpoint : Endpoint)
    (outcome : ScanOutcome) (data : String) : ScanOutcome :=
  if data = "" ∨ Text.trim data = "[DONE]" then outcome
  else
    match parseJson data with
    | none => { outcome with unparsableEvents := outcome.unparsableEvents + 1 }
    | some value =>
      { outcome with
        jsonEvents := outcome.jsonEvents + 1
        usage := (streamUsage endpoint value).or outcome.usage }

theorem ScanOutcome.observe_truncated {parseJson : String → Option JsonValue} {endpoint : Endpoint}
    {outcome : ScanOutcome} {data : String} :
    (outcome.observe parseJson endpoint data).truncated = outcome.truncated := by
  unfold observe
  split
  · rfl
  · split <;> rfl

namespace SseUsageScanner

variable {parseJson : String → Option JsonValue}

theorem flushEvent_eq (scanner : SseUsageScanner) :
    scanner.flushEvent parseJson = { scanner with
      pendingData := ""
      outcome := scanner.outcome.observe parseJson scanner.endpoint scanner.pendingData } := by
  unfold flushEvent ScanOutcome.observe
  by_cases hempty : scanner.pendingData = ""
  · rw [if_pos hempty, if_pos (Or.inl hempty), ← hempty]
  · rw [if_neg hempty]
    dsimp only
    by_cases hdone : Text.trim scanner.pendingData = "[DONE]"
    · rw [if_pos hdone, if_pos (Or.inr hdone)]
    · rw [if_neg hdone, if_neg (not_or.2 ⟨hempty, hdone⟩)]
      cases parseJson scanner.pendingData with
      | none => rfl
      | some value =>
        dsimp only
        cases streamUsage scanner.endpoint value <;> rfl

theorem reserve_eq (scanner : SseUsageScanner) (n : Nat) :
    scanner.reserve n = if maxEventBytes < scanner.eventBytes + n then none
      else some { scanner with eventBytes := scanner.eventBytes + n } := by
  have hcap : maxEventBytes < usizeMax := by decide
  have hlt : maxEventBytes < min (scanner.eventBytes + n) usizeMax ↔
      maxEventBytes < scanner.eventBytes + n :=
    lt_min_iff.trans (and_iff_left hcap)
  unfold reserve
  dsimp only
  simp only [hlt]
  split
  · rfl
  · rename_i hfits
    rw [Nat.min_eq_left (Nat.le_trans (Nat.le_of_not_lt hfits) (Nat.le_of_lt hcap))]

/-! ## Byte by byte -/

/-- Feed one byte. -/
def feedByte (parseJson : String → Option JsonValue) (scanner : SseUsageScanner) (b : UInt8) :
    SseUsageScanner :=
  if scanner.outcome.truncated then scanner
  else if scanner.afterCr = true ∧ b = Lines.lf then { scanner with afterCr := false }
  else if maxEventBytes < scanner.eventBytes + 1 then scanner.truncate
  else if b = Lines.lf ∨ b = Lines.cr then
    absorbLine parseJson { scanner with
      lineBuf := []
      eventBytes := scanner.eventBytes + 1
      afterCr := decide (b = Lines.cr) } scanner.lineBuf
  else { scanner with
    lineBuf := scanner.lineBuf ++ [b]
    eventBytes := scanner.eventBytes + 1
    afterCr := false }

/-- A scanner that goes on holds no more than the cap. -/
def Within (scanner : SseUsageScanner) : Prop := scanner.eventBytes ≤ maxEventBytes

theorem truncate_within (scanner : SseUsageScanner) : scanner.truncate.Within := Nat.zero_le _

theorem absorbLine_within {scanner : SseUsageScanner} (h : scanner.Within) (line : Bytes) :
    (scanner.absorbLine parseJson line).Within := by
  unfold absorbLine
  split
  · exact Nat.zero_le _
  · split <;> exact h

theorem absorbLine_truncated (scanner : SseUsageScanner) (line : Bytes) :
    (scanner.absorbLine parseJson line).outcome.truncated = scanner.outcome.truncated := by
  unfold absorbLine
  split
  · rw [flushEvent_eq]
    exact ScanOutcome.observe_truncated
  · split <;> rfl

theorem feedByte_within {scanner : SseUsageScanner} (h : scanner.Within) (b : UInt8) :
    (scanner.feedByte parseJson b).Within := by
  unfold feedByte
  split
  · exact h
  split
  · exact h
  split
  · exact truncate_within scanner
  rename_i hroom
  split
  · exact absorbLine_within (Nat.le_of_not_lt hroom) _
  · exact Nat.le_of_not_lt hroom

theorem foldl_within {scanner : SseUsageScanner} (h : scanner.Within) (bytes : Bytes) :
    (bytes.foldl (feedByte parseJson) scanner).Within := by
  induction bytes generalizing scanner with
  | nil => exact h
  | cons b bytes ih => exact ih (feedByte_within h b)

/-- A scanner that gave up reads nothing more. -/
theorem foldl_truncated {scanner : SseUsageScanner} (h : scanner.outcome.truncated = true)
    (bytes : Bytes) : bytes.foldl (feedByte parseJson) scanner = scanner := by
  induction bytes with
  | nil => rfl
  | cons b bytes ih =>
    have hstays : scanner.feedByte parseJson b = scanner := if_pos h
    rw [List.foldl_cons, hstays, ih]

/-- Bytes without a terminator are held. -/
theorem foldl_held {scanner : SseUsageScanner} (hgoes : scanner.outcome.truncated = false)
    (hcr : scanner.afterCr = false) (hwithin : scanner.Within) {bytes : Bytes}
    (hplain : ∀ b ∈ bytes, ¬ (b = Lines.lf ∨ b = Lines.cr)) :
    bytes.foldl (feedByte parseJson) scanner =
      if maxEventBytes < scanner.eventBytes + bytes.length then scanner.truncate
      else { scanner with
        lineBuf := scanner.lineBuf ++ bytes
        eventBytes := scanner.eventBytes + bytes.length } := by
  induction bytes generalizing scanner with
  | nil =>
    rw [List.length_nil, Nat.add_zero, if_neg (Nat.not_lt_of_le hwithin), List.append_nil]
    rfl
  | cons b bytes ih =>
    have hb := hplain b List.mem_cons_self
    have hlength : scanner.eventBytes + (b :: bytes).length =
        scanner.eventBytes + 1 + bytes.length := by
      rw [List.length_cons, Nat.add_right_comm, Nat.add_assoc]
    rw [List.foldl_cons, feedByte, if_neg (by rw [hgoes]; exact Bool.false_ne_true),
      if_neg (fun h => hb (Or.inl h.2)), hlength]
    by_cases hfull : maxEventBytes < scanner.eventBytes + 1
    · rw [if_pos hfull, foldl_truncated rfl, if_pos (Nat.lt_add_right _ hfull)]
    · rw [if_neg hfull, if_neg hb]
      have hrest := @ih { scanner with
          lineBuf := scanner.lineBuf ++ [b], eventBytes := scanner.eventBytes + 1, afterCr := false }
        hgoes rfl (Nat.le_of_not_lt hfull) fun c hc => hplain c (List.mem_cons_of_mem b hc)
      rw [hrest]
      split
      · rfl
      · simp only [List.append_assoc, List.singleton_append, hcr]

theorem memchr2_some {bytes line after : Bytes} {terminator : UInt8}
    (h : memchr2 bytes = some (line, terminator, after)) :
    bytes = line ++ terminator :: after ∧ (terminator = Lines.lf ∨ terminator = Lines.cr) ∧
      ∀ b ∈ line, ¬ (b = Lines.lf ∨ b = Lines.cr) := by
  induction bytes generalizing line with
  | nil => cases h
  | cons b rest ih =>
    rw [memchr2] at h
    split at h
    · rename_i hb
      cases h
      exact ⟨rfl, hb, fun _ h => absurd h List.not_mem_nil⟩
    · rename_i hb
      obtain ⟨⟨begun, found⟩, hfound, heq⟩ := Option.map_eq_some_iff.1 h
      cases heq
      obtain ⟨hrest, hterminator, hplain⟩ := ih hfound
      refine ⟨congrArg (b :: ·) hrest, hterminator, ?_⟩
      exact List.forall_mem_cons.2 ⟨hb, hplain⟩

theorem memchr2_line {line : Bytes} (hplain : ∀ b ∈ line, ¬(b = Lines.lf ∨ b = Lines.cr))
    {terminator : UInt8} (hterminator : terminator = Lines.lf ∨ terminator = Lines.cr)
    (after : Bytes) :
    memchr2 (line ++ terminator :: after) = some (line, terminator, after) := by
  induction line with
  | nil => rw [List.nil_append, memchr2, if_pos hterminator]
  | cons b line ih =>
    rw [List.cons_append, memchr2, if_neg (hplain b List.mem_cons_self),
      ih fun c hc => hplain c (List.mem_cons_of_mem b hc)]
    rfl

theorem memchr2_none {bytes : Bytes} (h : memchr2 bytes = none) :
    ∀ b ∈ bytes, ¬ (b = Lines.lf ∨ b = Lines.cr) := by
  induction bytes with
  | nil => exact fun _ h => absurd h List.not_mem_nil
  | cons b rest ih =>
    rw [memchr2] at h
    split at h
    · cases h
    · rename_i hb
      exact List.forall_mem_cons.2 ⟨hb, ih (Option.map_eq_none_iff.1 h)⟩

/-- A byte that is read, and is not the second half of a CRLF. -/
theorem feedByte_read {scanner : SseUsageScanner} (hgoes : scanner.outcome.truncated = false)
    {b : UInt8} (hb : ¬ (scanner.afterCr = true ∧ b = Lines.lf)) :
    scanner.feedByte parseJson b =
      if maxEventBytes < scanner.eventBytes + 1 then scanner.truncate
      else if b = Lines.lf ∨ b = Lines.cr then
        absorbLine parseJson { scanner with
          lineBuf := []
          eventBytes := scanner.eventBytes + 1
          afterCr := decide (b = Lines.cr) } scanner.lineBuf
      else { scanner with
        lineBuf := scanner.lineBuf ++ [b]
        eventBytes := scanner.eventBytes + 1
        afterCr := false } := by
  unfold feedByte
  rw [hgoes, if_neg Bool.false_ne_true, if_neg hb]

/-- Only the second half of a CRLF tells whether a CR came before it. -/
theorem feedByte_afterCr {scanner : SseUsageScanner} (hgoes : scanner.outcome.truncated = false)
    {b : UInt8} (hb : ¬ (scanner.afterCr = true ∧ b = Lines.lf)) :
    scanner.feedByte parseJson b = { scanner with afterCr := false }.feedByte parseJson b := by
  have hcleared := @feedByte_read parseJson { scanner with afterCr := false } hgoes b
    (fun h => Bool.false_ne_true h.1)
  rw [feedByte_read hgoes hb, hcleared]
  rfl

/-- A line and its terminator. -/
theorem foldl_line {scanner : SseUsageScanner} (hgoes : scanner.outcome.truncated = false)
    (hcr : scanner.afterCr = false) (hwithin : scanner.Within) {line : Bytes} {terminator : UInt8}
    (hterminator : terminator = Lines.lf ∨ terminator = Lines.cr)
    (hplain : ∀ b ∈ line, ¬ (b = Lines.lf ∨ b = Lines.cr)) :
    (line.foldl (feedByte parseJson) scanner).feedByte parseJson terminator =
      if maxEventBytes < scanner.eventBytes + (line.length + 1) then scanner.truncate
      else absorbLine parseJson { scanner with
        lineBuf := []
        eventBytes := scanner.eventBytes + (line.length + 1)
        afterCr := decide (terminator = Lines.cr) } (scanner.lineBuf ++ line) := by
  rw [foldl_held hgoes hcr hwithin hplain]
  by_cases hheld : maxEventBytes < scanner.eventBytes + line.length
  · have hfull : maxEventBytes < scanner.eventBytes + (line.length + 1) := Nat.lt_succ_of_lt hheld
    rw [if_pos hheld, if_pos hfull]
    exact if_pos rfl
  · have hread := @feedByte_read parseJson { scanner with
        lineBuf := scanner.lineBuf ++ line, eventBytes := scanner.eventBytes + line.length }
      hgoes terminator (fun h => Bool.false_ne_true (hcr ▸ h.1))
    rw [if_neg hheld, hread, if_pos hterminator]
    rfl

/-- An empty buffer need not be cleared. -/
theorem clear_empty {scanner : SseUsageScanner} (hempty : scanner.lineBuf = []) :
    ({ scanner with lineBuf := [] } : SseUsageScanner) = scanner := by
  rw [← hempty]

/-- The line in front of a terminator is absorbed, with what was held before it. -/
theorem absorbLine_joined (scanner : SseUsageScanner) (line : Bytes) :
    (if scanner.lineBuf = [] then scanner.absorbLine parseJson line
      else { scanner with lineBuf := [] }.absorbLine parseJson (scanner.lineBuf ++ line)) =
      { scanner with lineBuf := [] }.absorbLine parseJson (scanner.lineBuf ++ line) := by
  split
  · rename_i hempty
    rw [clear_empty hempty, hempty, List.nil_append]
  · rfl

/-- Bytes without a terminator are read as the start of a line. -/
theorem foldl_begun {scanner : SseUsageScanner} (hgoes : scanner.outcome.truncated = false)
    (hwithin : scanner.Within) {b : UInt8} {tail : Bytes}
    (hlf : ¬(scanner.afterCr = true ∧ b = Lines.lf)) (hnone : memchr2 (b :: tail) = none) :
    (b :: tail).foldl (feedByte parseJson) scanner =
      if maxEventBytes < scanner.eventBytes + (b :: tail).length then scanner.truncate
      else { scanner with
        lineBuf := scanner.lineBuf ++ b :: tail
        eventBytes := scanner.eventBytes + (b :: tail).length
        afterCr := false } := by
  rw [List.foldl_cons, feedByte_afterCr hgoes hlf, ← List.foldl_cons]
  exact @foldl_held parseJson { scanner with afterCr := false } hgoes rfl hwithin (b :: tail)
    (memchr2_none hnone)

/-- The bytes up to a terminator are read as the line they end. -/
theorem foldl_ended {scanner : SseUsageScanner} (hgoes : scanner.outcome.truncated = false)
    (hwithin : scanner.Within) {b : UInt8} {tail line after : Bytes} {terminator : UInt8}
    (hlf : ¬(scanner.afterCr = true ∧ b = Lines.lf))
    (hsome : memchr2 (b :: tail) = some (line, terminator, after)) :
    (line ++ [terminator]).foldl (feedByte parseJson) scanner =
      if maxEventBytes < scanner.eventBytes + (line.length + 1) then scanner.truncate
      else absorbLine parseJson { scanner with
        lineBuf := []
        eventBytes := scanner.eventBytes + (line.length + 1)
        afterCr := decide (terminator = Lines.cr) } (scanner.lineBuf ++ line) := by
  obtain ⟨hbytes, hterminator, hplain⟩ := memchr2_some hsome
  obtain ⟨begun, hbegun⟩ : ∃ begun, line ++ [terminator] = b :: begun := by
    cases line with
    | nil => exact ⟨[], congrArg (· :: []) (List.cons.inj hbytes).1.symm⟩
    | cons first line => exact ⟨_, congrArg (· :: _) (List.cons.inj hbytes).1.symm⟩
  rw [hbegun, List.foldl_cons, feedByte_afterCr hgoes hlf, ← List.foldl_cons, ← hbegun,
    List.foldl_append]
  exact @foldl_line parseJson { scanner with afterCr := false } hgoes rfl hwithin line
    terminator hterminator hplain

/-- What is left of a chunk is fed a byte at a time. -/
theorem feedRest_eq {scanner : SseUsageScanner} (hgoes : scanner.outcome.truncated = false)
    (hwithin : scanner.Within) (rest : Bytes) :
    scanner.feedRest parseJson rest = rest.foldl (feedByte parseJson) scanner := by
  induction hlength : rest.length using Nat.strongRecOn generalizing rest scanner with
  | ind n ih =>
    subst hlength
    cases rest with
    | nil => rw [feedRest, List.foldl_nil]
    | cons b tail =>
      have hgoes' : ¬ scanner.outcome.truncated = true := by
        rw [hgoes]
        exact Bool.false_ne_true
      by_cases hlf : scanner.afterCr = true ∧ b = Lines.lf
      · rw [feedRest, if_pos hlf, List.foldl_cons, feedByte, if_neg hgoes', if_pos hlf]
        exact @ih tail.length (Nat.lt_succ_self _) { scanner with afterCr := false } hgoes hwithin
          tail rfl
      rw [feedRest, if_neg hlf]
      dsimp only
      split
      · rename_i hnone
        rw [foldl_begun hgoes hwithin hlf hnone, reserve_eq]
        by_cases hfull : maxEventBytes < scanner.eventBytes + (b :: tail).length
        · simp only [if_pos hfull]
          rfl
        · simp only [if_neg hfull]
      · rename_i line terminator after hsome
        have hbytes : b :: tail = line ++ [terminator] ++ after := by
          rw [(memchr2_some hsome).1, List.append_assoc, List.singleton_append]
        rw [hbytes, List.foldl_append, foldl_ended hgoes hwithin hlf hsome, reserve_eq]
        by_cases hfull : maxEventBytes < scanner.eventBytes + (line.length + 1)
        · simp only [if_pos hfull]
          exact (foldl_truncated rfl after).symm
        · simp only [if_neg hfull]
          have hjoined := @absorbLine_joined parseJson { scanner with
            eventBytes := scanner.eventBytes + (line.length + 1)
            afterCr := decide (terminator = Lines.cr) } line
          dsimp only at hjoined
          rw [hjoined]
          refine ih after.length (memchr2_length hsome) ?_ ?_ after rfl
          · rw [absorbLine_truncated]
            exact hgoes
          · exact absorbLine_within (Nat.le_of_not_lt hfull) _

theorem feed_eq {scanner : SseUsageScanner} (hwithin : scanner.Within) (chunk : Bytes) :
    scanner.feed parseJson chunk = chunk.foldl (feedByte parseJson) scanner := by
  unfold feed
  split
  · rename_i hgone
    exact (foldl_truncated hgone chunk).symm
  · rename_i hgoes
    exact feedRest_eq (Bool.eq_false_iff.2 hgoes) hwithin chunk

/-- Feeding chunks is feeding their bytes one at a time. -/
theorem feed_bytes {scanner : SseUsageScanner} (hwithin : scanner.Within) (chunks : List Bytes) :
    chunks.foldl (feed parseJson) scanner =
      chunks.flatten.foldl (feedByte parseJson) scanner := by
  induction chunks generalizing scanner with
  | nil => rfl
  | cons chunk chunks ih =>
    rw [List.foldl_cons, List.flatten_cons, List.foldl_append, feed_eq hwithin,
      ih (foldl_within hwithin chunk)]

/-! ## Line by line -/

/-- A line adds its data, if it carries any. -/
def addLine (pending : String) (line : Bytes) : String :=
  match dataValue line with
  | some value => pushData pending value
  | none => pending

theorem absorbLine_blank (scanner : SseUsageScanner) :
    scanner.absorbLine parseJson [] = { scanner with
      pendingData := ""
      outcome := scanner.outcome.observe parseJson scanner.endpoint scanner.pendingData
      eventBytes := 0 } := by
  rw [absorbLine, if_pos rfl, flushEvent_eq]

theorem absorbLine_data (scanner : SseUsageScanner) {line : Bytes} (hline : line ≠ []) :
    scanner.absorbLine parseJson line =
      { scanner with pendingData := addLine scanner.pendingData line } := by
  rw [absorbLine, if_neg hline, addLine]
  cases dataValue line <;> rfl

/-- A line is absorbed the same with or without a pending CR. -/
theorem absorbLine_afterCr (scanner : SseUsageScanner) (afterCr : Bool) (line : Bytes) :
    ({ scanner with afterCr := afterCr } : SseUsageScanner).absorbLine parseJson line =
      { scanner.absorbLine parseJson line with afterCr := afterCr } := by
  by_cases hline : line = []
  · rw [hline, absorbLine_blank, absorbLine_blank]
  · rw [absorbLine_data _ hline, absorbLine_data _ hline]

theorem absorbLine_lineBuf (scanner : SseUsageScanner) (line : Bytes) :
    (scanner.absorbLine parseJson line).lineBuf = scanner.lineBuf ∧
      (scanner.absorbLine parseJson line).afterCr = scanner.afterCr ∧
      (scanner.absorbLine parseJson line).endpoint = scanner.endpoint := by
  by_cases hline : line = []
  · rw [hline, absorbLine_blank]
    exact ⟨rfl, rfl, rfl⟩
  · rw [absorbLine_data _ hline]
    exact ⟨rfl, rfl, rfl⟩

theorem finish_truncated {scanner : SseUsageScanner} (h : scanner.outcome.truncated = true) :
    scanner.finish parseJson = { scanner.outcome with usage := none } := by
  unfold finish finished
  dsimp only
  rw [if_pos h, if_pos h]

/-- At the end the line in progress and the event in progress are read. -/
theorem finish_goes {scanner : SseUsageScanner} (h : scanner.outcome.truncated = false) :
    scanner.finish parseJson = scanner.outcome.observe parseJson scanner.endpoint
      (addLine scanner.pendingData scanner.lineBuf) := by
  have hgoes : ¬ scanner.outcome.truncated = true := by
    rw [h]
    exact Bool.false_ne_true
  have habsorbed : (if scanner.lineBuf = [] then scanner
      else { scanner with lineBuf := [] }.absorbLine parseJson scanner.lineBuf) =
        { scanner with
          lineBuf := [], pendingData := addLine scanner.pendingData scanner.lineBuf } := by
    split
    · rename_i hempty
      rw [hempty]
      exact (clear_empty hempty).symm
    · rename_i hline
      rw [absorbLine_data _ hline]
  unfold finish finished
  dsimp only
  rw [if_neg hgoes, habsorbed, flushEvent_eq]
  dsimp only
  rw [ScanOutcome.observe_truncated, if_neg hgoes]

/-- A line that ended. -/
def feedLine (parseJson : String → Option JsonValue) (scanner : SseUsageScanner) (line : Bytes) :
    SseUsageScanner :=
  if scanner.outcome.truncated then scanner
  else if maxEventBytes < scanner.eventBytes + (line.length + 1) then scanner.truncate
  else absorbLine parseJson
    { scanner with eventBytes := scanner.eventBytes + (line.length + 1) } line

/-- The end of a stream, with the bytes after its last line. -/
def finishWith (parseJson : String → Option JsonValue) (scanner : SseUsageScanner) (rest : Bytes) :
    ScanOutcome :=
  if scanner.outcome.truncated then scanner.finish parseJson
  else if maxEventBytes < scanner.eventBytes + rest.length then scanner.truncate.finish parseJson
  else { scanner with lineBuf := rest }.finish parseJson

theorem feedLine_room {scanner : SseUsageScanner} (hgoes : scanner.outcome.truncated = false)
    {line : Bytes} (hroom : ¬ maxEventBytes < scanner.eventBytes + (line.length + 1)) :
    scanner.feedLine parseJson line = absorbLine parseJson
      { scanner with eventBytes := scanner.eventBytes + (line.length + 1) } line := by
  rw [feedLine, hgoes, if_neg Bool.false_ne_true, if_neg hroom]

/-- A line that fits leaves the scanner between two lines. -/
theorem feedLine_goes {scanner : SseUsageScanner} (hgoes : scanner.outcome.truncated = false)
    {line : Bytes} (hroom : ¬ maxEventBytes < scanner.eventBytes + (line.length + 1)) :
    (scanner.feedLine parseJson line).outcome.truncated = false ∧
      (scanner.feedLine parseJson line).Within ∧
      (scanner.feedLine parseJson line).lineBuf = scanner.lineBuf ∧
      (scanner.feedLine parseJson line).afterCr = scanner.afterCr := by
  rw [feedLine_room hgoes hroom]
  obtain ⟨hbuf, hcr, -⟩ := @absorbLine_lineBuf parseJson
    { scanner with eventBytes := scanner.eventBytes + (line.length + 1) } line
  exact ⟨(absorbLine_truncated _ line).trans hgoes,
    absorbLine_within (Nat.le_of_not_lt hroom) line, hbuf, hcr⟩

theorem foldl_feedLine_truncated {scanner : SseUsageScanner}
    (h : scanner.outcome.truncated = true) (lines : List Bytes) :
    lines.foldl (feedLine parseJson) scanner = scanner := by
  induction lines with
  | nil => rfl
  | cons line lines ih =>
    have hstays : scanner.feedLine parseJson line = scanner := if_pos h
    rw [List.foldl_cons, hstays, ih]

/-- A line that is too large ends the scan, whatever follows it. -/
theorem feedLine_overfull {scanner : SseUsageScanner} (hgoes : scanner.outcome.truncated = false)
    {line : Bytes} (hfull : maxEventBytes < scanner.eventBytes + (line.length + 1))
    (lines : List Bytes) (rest : Bytes) :
    ((line :: lines).foldl (feedLine parseJson) scanner).finishWith parseJson rest =
      scanner.truncate.finish parseJson := by
  have hline : scanner.feedLine parseJson line = scanner.truncate := by
    rw [feedLine, hgoes, if_neg Bool.false_ne_true, if_pos hfull]
  rw [List.foldl_cons, hline, foldl_feedLine_truncated rfl]
  exact if_pos rfl

theorem behind_overfull {scanner : SseUsageScanner} (hgoes : scanner.outcome.truncated = false)
    {begun : Bytes} (hfull : maxEventBytes < scanner.eventBytes + begun.length)
    (split : Lines.Split) :
    ((split.behind begun).lines.foldl (feedLine parseJson) scanner).finishWith parseJson
        (split.behind begun).rest = scanner.truncate.finish parseJson := by
  obtain ⟨lines, rest⟩ := split
  cases lines with
  | nil =>
    have hover : maxEventBytes < scanner.eventBytes + (begun ++ rest).length := by
      rw [List.length_append]
      omega
    show scanner.finishWith parseJson (begun ++ rest) = _
    rw [finishWith, hgoes, if_neg Bool.false_ne_true, if_pos hover]
  | cons line lines =>
    refine feedLine_overfull hgoes ?_ lines rest
    rw [List.length_append]
    omega

/-- After a CR the second half of its terminator is read with it. -/
theorem foldl_afterCr {scanner : SseUsageScanner} (hgoes : scanner.outcome.truncated = false)
    (hcr : scanner.afterCr = false) (rest : Bytes) :
    (rest.foldl (feedByte parseJson) { scanner with afterCr := true }).finish parseJson =
      ((Lines.dropLf rest).foldl (feedByte parseJson) scanner).finish parseJson := by
  have hsame : { scanner with afterCr := false } = scanner := by
    rw [← hcr]
  cases rest with
  | nil =>
    show finish parseJson { scanner with afterCr := true } = finish parseJson scanner
    rw [finish_goes hgoes, @finish_goes parseJson { scanner with afterCr := true } hgoes]
  | cons b rest =>
    rw [Lines.dropLf]
    by_cases hlf : b = Lines.lf
    · rw [if_pos hlf, List.foldl_cons, feedByte, if_neg (by rw [hgoes]; exact Bool.false_ne_true),
        if_pos ⟨rfl, hlf⟩, hsame]
    · rw [if_neg hlf, List.foldl_cons, @feedByte_afterCr parseJson { scanner with afterCr := true }
        hgoes b (fun h => hlf h.2), List.foldl_cons]
      dsimp only
      rw [hsame]

theorem between_lines {scanner : SseUsageScanner} (hbuf : scanner.lineBuf = []) :
    ({ scanner with
      lineBuf := []
      eventBytes := scanner.eventBytes + ([] : Bytes).length } : SseUsageScanner) = scanner :=
  clear_empty hbuf

/-- Feeding bytes is absorbing their lines. -/
theorem foldl_bytes {scanner : SseUsageScanner} (hgoes : scanner.outcome.truncated = false)
    (hcr : scanner.afterCr = false) (hbuf : scanner.lineBuf = []) {begun : Bytes}
    (hroom : scanner.eventBytes + begun.length ≤ maxEventBytes) (bytes : Bytes) :
    (bytes.foldl (feedByte parseJson) { scanner with
        lineBuf := begun, eventBytes := scanner.eventBytes + begun.length }).finish parseJson =
      (((Lines.split bytes).behind begun).lines.foldl (feedLine parseJson) scanner).finishWith
        parseJson ((Lines.split bytes).behind begun).rest := by
  induction hlength : bytes.length using Nat.strongRecOn generalizing bytes scanner begun with
  | ind n ih =>
    subst hlength
    have hgoes' : ¬ scanner.outcome.truncated = true := by
      rw [hgoes]
      exact Bool.false_ne_true
    cases bytes with
    | nil =>
      rw [Lines.split]
      show finish parseJson _ = finishWith parseJson scanner (begun ++ [])
      rw [List.append_nil, finishWith, if_neg hgoes', if_neg (Nat.not_lt_of_le hroom),
        @finish_goes parseJson { scanner with lineBuf := begun } hgoes]
      exact finish_goes hgoes
    | cons b rest =>
      rw [List.foldl_cons, @feedByte_read parseJson { scanner with
        lineBuf := begun, eventBytes := scanner.eventBytes + begun.length } hgoes b
        (fun h => Bool.false_ne_true (hcr ▸ h.1))]
      dsimp only
      by_cases hfull : maxEventBytes < scanner.eventBytes + begun.length + 1
      · rw [if_pos hfull, foldl_truncated rfl]
        show scanner.truncate.finish parseJson = _
        rw [Lines.split]
        split
        · exact (feedLine_overfull hgoes (by rw [List.append_nil]; exact hfull) _ _).symm
        split
        · exact (feedLine_overfull hgoes (by rw [List.append_nil]; exact hfull) _ _).symm
        · rw [Lines.Split.behind_behind]
          exact (behind_overfull hgoes (by rw [List.length_append]; exact hfull) _).symm
      rw [if_neg hfull, Lines.split]
      by_cases hterminator : b = Lines.lf ∨ b = Lines.cr
      · -- the line that was held ends
        rw [if_pos hterminator]
        obtain ⟨hgone, hwithin, hbuf', hcr'⟩ := @feedLine_goes parseJson scanner hgoes begun hfull
        have hline : absorbLine parseJson { scanner with
            lineBuf := [], eventBytes := scanner.eventBytes + begun.length + 1
            afterCr := decide (b = Lines.cr) } begun =
              { scanner.feedLine parseJson begun with afterCr := decide (b = Lines.cr) } := by
          rw [feedLine_room hgoes hfull, ← absorbLine_afterCr]
          simp only [hbuf, Nat.add_assoc]
        rw [hline]
        obtain ⟨next, hnext⟩ : ∃ next, scanner.feedLine parseJson begun = next := ⟨_, rfl⟩
        rw [hnext] at hgone hwithin hbuf' hcr' ⊢
        have hfrom : ∀ left : Bytes, left.length < (b :: rest).length →
            (left.foldl (feedByte parseJson) next).finish parseJson =
              ((Lines.split left).lines.foldl (feedLine parseJson) next).finishWith parseJson
                (Lines.split left).rest := by
          intro left hlt
          have hleft := @ih left.length hlt next hgone (hcr'.trans hcr) (hbuf'.trans hbuf) []
            hwithin left rfl
          rwa [Lines.Split.behind_nil, between_lines (hbuf'.trans hbuf)] at hleft
        have hended : ∀ split : Lines.Split,
            (((split.after []).behind begun).lines.foldl (feedLine parseJson) scanner).finishWith
              parseJson ((split.after []).behind begun).rest =
                (split.lines.foldl (feedLine parseJson) next).finishWith parseJson split.rest := by
          intro split
          rw [Lines.Split.behind_after, List.append_nil, ← hnext]
          rfl
        by_cases hb : b = Lines.cr
        · rw [if_pos hb, hended, decide_eq_true hb, foldl_afterCr hgone (hcr'.trans hcr)]
          exact hfrom _ (Nat.lt_succ_of_le (Lines.dropLf_length_le rest))
        · have hlf := hterminator.resolve_right hb
          rw [if_neg hb, if_pos hlf, hended, decide_eq_false hb, ← hcr, ← hcr']
          exact hfrom rest (Nat.lt_succ_self _)
      · -- the line goes on
        obtain ⟨hlf, hcarriage⟩ := not_or.1 hterminator
        rw [if_neg hterminator, if_neg hcarriage, if_neg hlf, Lines.Split.behind_behind]
        have hlonger : scanner.eventBytes + (begun ++ [b]).length ≤ maxEventBytes := by
          rw [List.length_append]
          exact Nat.le_of_not_lt hfull
        have hrest := ih rest.length (Nat.lt_succ_self _) hgoes hcr hbuf hlonger rest rfl
        rw [← hrest, List.length_append]
        simp only [hcr]
        rfl

end SseUsageScanner

/-! ## Event by event -/

/-- An event: its lines, and what it takes with all their terminators. -/
structure SseEvent where
  lines : List Bytes
  size : Nat

/-- The data of an event's lines, joined with newlines.  Empty values at the start add nothing. -/
def joinedData (lines : List Bytes) : String :=
  "\n".intercalate ((lines.filterMap dataValue).dropWhile fun value => value = "")

/-- The events of some lines, and of what follows them.  A blank line ends an event. -/
def sseEvents : List Bytes → Bytes → List SseEvent
  | [], rest => [{ lines := [rest], size := rest.length }]
  | line :: lines, rest =>
    if line = [] then { lines := [], size := 1 } :: sseEvents lines rest
    else (sseEvents lines rest).modifyHead fun event =>
      { lines := line :: event.lines, size := line.length + 1 + event.size }

/-- What is observed of events in their order, up to one that is too large. -/
def readEvents (parseJson : String → Option JsonValue) (endpoint : Endpoint) :
    ScanOutcome → List SseEvent → ScanOutcome
  | outcome, [] => outcome
  | outcome, event :: events =>
    if maxEventBytes < event.size then { outcome with usage := none, truncated := true }
    else readEvents parseJson endpoint (outcome.observe parseJson endpoint (joinedData event.lines))
      events

theorem sseEvents_ne_nil (lines : List Bytes) (rest : Bytes) :
    ∃ first others, sseEvents lines rest = first :: others := by
  induction lines with
  | nil => exact ⟨_, _, rfl⟩
  | cons line lines ih =>
    obtain ⟨first, others, hevents⟩ := ih
    rw [sseEvents, hevents]
    split
    · exact ⟨_, _, rfl⟩
    · exact ⟨_, _, rfl⟩

theorem joinedData_nil : joinedData [] = "" := String.intercalate_nil

/-- The data of one more line. -/
theorem joinedData_append (lines : List Bytes) (line : Bytes) :
    joinedData (lines ++ [line]) = SseUsageScanner.addLine (joinedData lines) line := by
  unfold joinedData SseUsageScanner.addLine
  rw [List.filterMap_append, List.filterMap_cons, List.filterMap_nil]
  cases hvalue : dataValue line with
  | none => rw [List.append_nil]
  | some value =>
    dsimp only
    rw [List.dropWhile_append, pushData]
    cases hkept : (lines.filterMap dataValue).dropWhile (fun value => decide (value = "")) with
    | nil =>
      -- nothing but empty values so far
      rw [List.isEmpty_nil, if_pos rfl, String.intercalate_nil, if_pos rfl, String.empty_append]
      by_cases hempty : value = ""
      · simp [hempty]
      · simp [hempty]
    | cons kept more =>
      have hhead : kept ≠ "" := by
        have hnot := @List.head_dropWhile_not _ (fun value => decide (value = ""))
          (lines.filterMap dataValue) (by simp [hkept])
        simpa [hkept] using hnot
      have hfilled : "\n".intercalate (kept :: more) ≠ "" := by
        cases more with
        | nil => rwa [String.intercalate_singleton]
        | cons other more =>
          rw [String.intercalate_cons_cons]
          intro hnone
          exact hhead (String.append_eq_empty_iff.1 (String.append_eq_empty_iff.1 hnone).1).1
      rw [List.isEmpty_cons, if_neg Bool.false_ne_true, if_neg hfilled,
        String.intercalate_append_of_ne_nil (List.cons_ne_nil _ _) (List.cons_ne_nil _ _),
        String.intercalate_singleton, String.push_eq_append]
      rfl

section Events

variable {parseJson : String → Option JsonValue}

/-- The first event began with some lines already. -/
def begunEvents (read : List Bytes) (size : Nat) (events : List SseEvent) : List SseEvent :=
  events.modifyHead fun event => { lines := read ++ event.lines, size := size + event.size }

theorem begunEvents_nil (events : List SseEvent) : begunEvents [] 0 events = events := by
  cases events with
  | nil => rfl
  | cons event events => simp [begunEvents]

theorem truncate_finish (scanner : SseUsageScanner) :
    scanner.truncate.finish parseJson = { scanner.outcome with usage := none, truncated := true } :=
  SseUsageScanner.finish_truncated rfl

open SseUsageScanner in
/-- Absorbing lines is reading their events. -/
theorem foldl_lines {scanner : SseUsageScanner} (hgoes : scanner.outcome.truncated = false)
    (hwithin : scanner.Within) {read : List Bytes} (hread : scanner.pendingData = joinedData read)
    (lines : List Bytes) (rest : Bytes) :
    (lines.foldl (feedLine parseJson) scanner).finishWith parseJson rest =
      readEvents parseJson scanner.endpoint scanner.outcome
        (begunEvents read scanner.eventBytes (sseEvents lines rest)) := by
  induction lines generalizing scanner read with
  | nil =>
    show scanner.finishWith parseJson rest = _
    rw [finishWith, hgoes, if_neg Bool.false_ne_true]
    show _ = readEvents parseJson scanner.endpoint scanner.outcome
      [{ lines := read ++ [rest], size := scanner.eventBytes + rest.length }]
    rw [readEvents]
    split
    · exact truncate_finish scanner
    · rw [readEvents, joinedData_append, ← hread]
      exact finish_goes hgoes
  | cons line lines ih =>
    by_cases hfull : maxEventBytes < scanner.eventBytes + (line.length + 1)
    · rw [feedLine_overfull hgoes hfull, truncate_finish, sseEvents]
      symm
      split
      · rename_i hblank
        rw [hblank] at hfull
        exact if_pos hfull
      · obtain ⟨first, others, hevents⟩ := sseEvents_ne_nil lines rest
        rw [hevents]
        refine if_pos (show maxEventBytes <
          scanner.eventBytes + (line.length + 1 + first.size) from ?_)
        omega
    rw [List.foldl_cons]
    obtain ⟨hnext, hfits, -, -⟩ := @feedLine_goes parseJson scanner hgoes line hfull
    have hroom := @feedLine_room parseJson scanner hgoes line hfull
    by_cases hblank : line = []
    · -- the event ends, and the next counts from zero
      rw [hblank, absorbLine_blank] at hroom
      rw [hblank] at hnext hfits hfull ⊢
      rw [ih hnext hfits (by rw [hroom]; exact joinedData_nil.symm), hroom, sseEvents, if_pos rfl]
      show readEvents parseJson scanner.endpoint _ (begunEvents [] 0 (sseEvents lines rest)) = _
      rw [begunEvents_nil]
      have hwhole : readEvents parseJson scanner.endpoint scanner.outcome
          ({ lines := read ++ [], size := scanner.eventBytes + 1 } :: sseEvents lines rest) =
          readEvents parseJson scanner.endpoint
            (scanner.outcome.observe parseJson scanner.endpoint (joinedData (read ++ [])))
            (sseEvents lines rest) := if_neg hfull
      have hdata : joinedData (read ++ []) = scanner.pendingData := by
        rw [List.append_nil, hread]
      rw [hdata] at hwhole
      exact hwhole.symm
    · rw [absorbLine_data _ hblank] at hroom
      rw [@ih _ hnext hfits (read ++ [line]) (by rw [hroom, joinedData_append, ← hread]), hroom,
        sseEvents, if_neg hblank]
      obtain ⟨first, others, hevents⟩ := sseEvents_ne_nil lines rest
      rw [hevents]
      show readEvents parseJson scanner.endpoint scanner.outcome
        ({ lines := read ++ [line] ++ first.lines
           size := scanner.eventBytes + (line.length + 1) + first.size } :: others) =
        readEvents parseJson scanner.endpoint scanner.outcome
          ({ lines := read ++ line :: first.lines
             size := scanner.eventBytes + (line.length + 1 + first.size) } :: others)
      rw [List.append_assoc, List.singleton_append, Nat.add_assoc]

end Events

/-! ## The reference -/

/-- The events before the first that is too large. -/
def wholeEvents (events : List SseEvent) : List SseEvent :=
  events.takeWhile fun event => event.size ≤ maxEventBytes

/-- The data that is counted: neither nothing nor the sentinel. -/
def payloads (events : List SseEvent) : List String :=
  (events.map fun event => joinedData event.lines).filter fun data =>
    data ≠ "" && Text.trim data ≠ "[DONE]"

/-- What there is to observe in a stream, read as a whole: the last usage that an event reports,
and how many events are JSON and how many are not, in front of the first event that is too large.
Such an event leaves the usage unknown. -/
def scanReference (parseJson : String → Option JsonValue) (endpoint : Endpoint) (bytes : Bytes) :
    ScanOutcome :=
  let events := sseEvents (Lines.split bytes).lines (Lines.split bytes).rest
  let truncated := events.any fun event => maxEventBytes < event.size
  let values := (payloads (wholeEvents events)).filterMap parseJson
  { usage := if truncated then none else (values.filterMap (streamUsage endpoint)).getLast?
    jsonEvents := values.length
    truncated := truncated
    unparsableEvents := (payloads (wholeEvents events)).countP fun data => (parseJson data).isNone }

theorem payloads_cons (event : SseEvent) (events : List SseEvent) :
    payloads (event :: events) =
      if ¬ (joinedData event.lines = "" ∨ Text.trim (joinedData event.lines) = "[DONE]") then
        joinedData event.lines :: payloads events
      else payloads events := by
  rw [payloads, List.map_cons, List.filter_cons]
  simp [payloads]

/-- A later usage supersedes an earlier one. -/
theorem lastUsage_cons (endpoint : Endpoint) (value : JsonValue) (before : Option Usage)
    (values : List JsonValue) :
    (values.filterMap (streamUsage endpoint)).getLast?.or
        ((streamUsage endpoint value).or before) =
      ((value :: values).filterMap (streamUsage endpoint)).getLast?.or before := by
  rw [List.filterMap_cons]
  cases streamUsage endpoint value with
  | none => rfl
  | some usage =>
    dsimp only
    rw [List.getLast?_cons]
    cases (values.filterMap (streamUsage endpoint)).getLast? <;> rfl

/-- Events read one after another. -/
theorem readEvents_eq (parseJson : String → Option JsonValue) (endpoint : Endpoint)
    {outcome : ScanOutcome} (hgoes : outcome.truncated = false) (events : List SseEvent) :
    readEvents parseJson endpoint outcome events =
      { usage :=
          if events.any fun event => maxEventBytes < event.size then none
          else (((payloads (wholeEvents events)).filterMap parseJson).filterMap
            (streamUsage endpoint)).getLast?.or outcome.usage
        jsonEvents := outcome.jsonEvents +
          ((payloads (wholeEvents events)).filterMap parseJson).length
        truncated := events.any fun event => maxEventBytes < event.size
        unparsableEvents := outcome.unparsableEvents +
          (payloads (wholeEvents events)).countP fun data => (parseJson data).isNone } := by
  induction events generalizing outcome with
  | nil =>
    obtain ⟨usage, jsonEvents, truncated, unparsableEvents⟩ := outcome
    cases hgoes
    simp [readEvents, wholeEvents, payloads]
  | cons event events ih =>
    by_cases hfull : maxEventBytes < event.size
    · have hnone : wholeEvents (event :: events) = [] :=
        List.takeWhile_cons_of_neg (by simpa using hfull)
      rw [readEvents, if_pos hfull, hnone, List.any_cons, decide_eq_true hfull, Bool.true_or,
        if_pos rfl]
      rfl
    · have hwhole : wholeEvents (event :: events) = event :: wholeEvents events :=
        List.takeWhile_cons_of_pos (by simpa using hfull)
      rw [readEvents, if_neg hfull, ih (ScanOutcome.observe_truncated.trans hgoes), hwhole,
        payloads_cons, List.any_cons, decide_eq_false hfull, Bool.false_or, ScanOutcome.observe]
      by_cases hignored :
        joinedData event.lines = "" ∨ Text.trim (joinedData event.lines) = "[DONE]"
      · rw [if_pos hignored, if_neg (not_not_intro hignored)]
      rw [if_neg hignored, if_pos hignored]
      cases hparsed : parseJson (joinedData event.lines) with
      | none =>
        simp only [List.filterMap_cons, hparsed, List.countP_cons, Option.isNone_none, if_true,
          Nat.add_assoc, Nat.add_comm 1]
      | some value =>
        have husage := lastUsage_cons endpoint value outcome.usage
          ((payloads (wholeEvents events)).filterMap parseJson)
        simp only [List.filterMap_cons, hparsed, List.countP_cons, Option.isNone_some,
          List.length_cons, Bool.false_eq_true, if_false, Nat.add_zero, husage, Nat.add_assoc,
          Nat.add_comm 1]

/-- Whatever chunks a stream comes in, its events are read one after another. -/
theorem scanChunks_readEvents (parseJson : String → Option JsonValue) (endpoint : Endpoint)
    (chunks : List Bytes) :
    scanChunks parseJson endpoint chunks = readEvents parseJson endpoint {}
      (sseEvents (Lines.split chunks.flatten).lines (Lines.split chunks.flatten).rest) := by
  have hwithin : SseUsageScanner.Within { endpoint := endpoint } := Nat.zero_le _
  have hbytes := @SseUsageScanner.foldl_bytes parseJson { endpoint := endpoint } rfl rfl rfl []
    (Nat.zero_le _) chunks.flatten
  have hlines := @foldl_lines parseJson { endpoint := endpoint } rfl hwithin [] joinedData_nil.symm
    (Lines.split chunks.flatten).lines (Lines.split chunks.flatten).rest
  rw [Lines.Split.behind_nil] at hbytes
  rw [scanChunks, SseUsageScanner.feed_bytes hwithin]
  refine (hbytes.trans hlines).trans ?_
  rw [begunEvents_nil]

/-- Whatever chunks a stream comes in, the scanner observes what the reference does in its bytes. -/
theorem scan_eq_reference (parseJson : String → Option JsonValue) (endpoint : Endpoint)
    (chunks : List Bytes) :
    scanChunks parseJson endpoint chunks = scanReference parseJson endpoint chunks.flatten := by
  rw [scanChunks_readEvents, readEvents_eq parseJson endpoint rfl, scanReference]
  simp

end PartnerPortal

import PartnerPortal.Proxy.SseReference

/-!
# What the scanner holds

The cap is charged for the bytes of an event as they arrive, and what is held of its data lines is
their text.  A byte that begins no character takes three bytes once it is replaced, so an event can
outgrow what was charged for it.

Results:
- `last_chunkStates` — the states between the statements end in what the scanner returns;
- `held_scanStates_le` — none of them holds more than the cap, if a charge for the text would not
  have exceeded it either;
- `chargesFit_of_few` — that is so where no line of data has more than two replacements;
- `held_invalid` — data of invalid bytes is held at three times its size.
-/

namespace PartnerPortal

namespace SseUsageScanner

/-- The bytes held for the event in progress. -/
def held (scanner : SseUsageScanner) : Nat :=
  scanner.lineBuf.length + scanner.pendingData.utf8ByteSize

/-! ## Between the statements -/

section States

variable (parseJson : String → Option JsonValue)

/-- The states of `flush_event`. -/
def flushStates (scanner : SseUsageScanner) : List SseUsageScanner :=
  scanner ::
    if scanner.pendingData = "" then []
    else [{ scanner with pendingData := "" }, scanner.flushEvent parseJson]

/-- The states of `absorb_line`. -/
def absorbStates (scanner : SseUsageScanner) (line : Bytes) : List SseUsageScanner :=
  (if line = [] then scanner.flushStates parseJson
    else
      match dataValue line with
      | some _ =>
        [scanner, { scanner with
          pendingData :=
            if scanner.pendingData = "" then scanner.pendingData
            else scanner.pendingData.push '\n' }]
      | none => [scanner]) ++ [scanner.absorbLine parseJson line]

/-- The states of a `reserve` that gives up. -/
def overfullStates (scanner : SseUsageScanner) (n : Nat) : List SseUsageScanner :=
  let charged := { scanner with eventBytes := min (scanner.eventBytes + n) usizeMax }
  let gone :=
    { charged with outcome := { scanner.outcome with usage := none, truncated := true } }
  [charged, gone, { gone with lineBuf := [] }, { gone with lineBuf := [], pendingData := "" },
    scanner.truncate]

/-- The states of `feed`, on what is left of a chunk. -/
def restStates (scanner : SseUsageScanner) : Bytes → List SseUsageScanner
  | [] => [scanner]
  | b :: tail =>
    if scanner.afterCr = true ∧ b = Lines.lf then
      scanner :: restStates { scanner with afterCr := false } tail
    else
      let cleared := { scanner with afterCr := false }
      scanner :: cleared ::
        match _h : memchr2 (b :: tail) with
        | none =>
          match cleared.reserve (b :: tail).length with
          | none => cleared.overfullStates (b :: tail).length
          | some charged => [charged, { charged with lineBuf := charged.lineBuf ++ b :: tail }]
        | some (line, terminator, after) =>
          match cleared.reserve (line.length + 1) with
          | none => cleared.overfullStates (line.length + 1)
          | some charged =>
            let read := { charged with afterCr := decide (terminator = Lines.cr) }
            charged :: read ::
              ((if read.lineBuf = [] then read.absorbStates parseJson line
                  else { read with lineBuf := [] }.absorbStates parseJson (read.lineBuf ++ line)) ++
                restStates
                  (if read.lineBuf = [] then read.absorbLine parseJson line
                    else { read with lineBuf := [] }.absorbLine parseJson (read.lineBuf ++ line))
                  after)
termination_by rest => rest.length
decreasing_by
  · exact Nat.lt_succ_self _
  · exact memchr2_length _h

/-- The states of `feed`. -/
def feedStates (scanner : SseUsageScanner) (chunk : Bytes) : List SseUsageScanner :=
  if scanner.outcome.truncated then [scanner] else scanner.restStates parseJson chunk

/-- The states of `finish`. -/
def finishStates (scanner : SseUsageScanner) : List SseUsageScanner :=
  (if scanner.outcome.truncated then [scanner]
    else if scanner.lineBuf = [] then scanner.flushStates parseJson
    else
      let taken := { scanner with lineBuf := [] }
      scanner :: (taken.absorbStates parseJson scanner.lineBuf ++
        (taken.absorbLine parseJson scanner.lineBuf).flushStates parseJson)) ++
    [scanner.finished parseJson]

/-- The states of a scanner that is fed some chunks and then finished. -/
def chunkStates (scanner : SseUsageScanner) : List Bytes → List SseUsageScanner
  | [] => scanner.finishStates parseJson
  | chunk :: chunks =>
    scanner.feedStates parseJson chunk ++ chunkStates (scanner.feed parseJson chunk) chunks

end States

variable {parseJson : String → Option JsonValue}

/-- A line of which nothing was held before is absorbed like one that was. -/
theorem absorbStates_joined (scanner : SseUsageScanner) (line : Bytes) :
    (if scanner.lineBuf = [] then scanner.absorbStates parseJson line
      else { scanner with lineBuf := [] }.absorbStates parseJson (scanner.lineBuf ++ line)) =
      { scanner with lineBuf := [] }.absorbStates parseJson (scanner.lineBuf ++ line) := by
  split
  · rename_i hempty
    rw [clear_empty hempty, hempty, List.nil_append]
  · rfl

section Rest

variable {scanner : SseUsageScanner} {b : UInt8} {tail : Bytes}

theorem restStates_skip (hlf : scanner.afterCr = true ∧ b = Lines.lf) :
    scanner.restStates parseJson (b :: tail) =
      scanner :: restStates parseJson { scanner with afterCr := false } tail := by
  rw [restStates, if_pos hlf]

theorem restStates_none (hlf : ¬(scanner.afterCr = true ∧ b = Lines.lf))
    (hnone : memchr2 (b :: tail) = none) :
    scanner.restStates parseJson (b :: tail) =
      scanner :: { scanner with afterCr := false } ::
        match { scanner with afterCr := false }.reserve (b :: tail).length with
        | none => { scanner with afterCr := false }.overfullStates (b :: tail).length
        | some charged =>
          [charged, { charged with lineBuf := charged.lineBuf ++ b :: tail }] := by
  rw [restStates, if_neg hlf]
  dsimp only
  split
  · rfl
  · rename_i hsome
    rw [hnone] at hsome
    cases hsome

theorem restStates_some (hlf : ¬(scanner.afterCr = true ∧ b = Lines.lf)) {line after : Bytes}
    {terminator : UInt8} (hsome : memchr2 (b :: tail) = some (line, terminator, after)) :
    scanner.restStates parseJson (b :: tail) =
      scanner :: { scanner with afterCr := false } ::
        match { scanner with afterCr := false }.reserve (line.length + 1) with
        | none => { scanner with afterCr := false }.overfullStates (line.length + 1)
        | some charged =>
          let read := { charged with afterCr := decide (terminator = Lines.cr) }
          charged :: read ::
            ({ read with lineBuf := [] }.absorbStates parseJson (read.lineBuf ++ line) ++
              restStates parseJson
                ({ read with lineBuf := [] }.absorbLine parseJson (read.lineBuf ++ line))
                after) := by
  rw [restStates, if_neg hlf]
  dsimp only
  split
  · rename_i hnone
    rw [hnone] at hsome
    cases hsome
  · rename_i hfound
    rw [hfound] at hsome
    cases hsome
    cases reserve { scanner with afterCr := false } (line.length + 1) with
    | none => rfl
    | some charged =>
      have hline := @absorbLine_joined parseJson
        { charged with afterCr := decide (terminator = Lines.cr) } line
      have hstates := @absorbStates_joined parseJson
        { charged with afterCr := decide (terminator = Lines.cr) } line
      dsimp only at hline hstates ⊢
      rw [hline, hstates]

end Rest

/-- The last state is the one that feeding ends in. -/
theorem last_restStates (scanner : SseUsageScanner) (rest : Bytes) :
    (scanner.restStates parseJson rest).getLast? = some (scanner.feedRest parseJson rest) := by
  fun_induction feedRest parseJson scanner rest with
  | case1 =>
    rw [restStates]
    rfl
  | case2 scanner b tail hlf ih =>
    rw [restStates_skip hlf, List.getLast?_cons, ih]
    rfl
  | case3 scanner b tail hlf cleared hnone hfull =>
    rw [restStates_none hlf hnone, hfull]
    rfl
  | case4 scanner b tail hlf cleared hnone charged hroom =>
    rw [restStates_none hlf hnone, hroom]
    rfl
  | case5 scanner b tail hlf cleared line terminator after hsome hfull =>
    rw [restStates_some hlf hsome, hfull]
    rfl
  | case6 scanner b tail hlf cleared line terminator after hsome charged hroom read ih =>
    have hline := @absorbLine_joined parseJson read line
    rw [restStates_some hlf hsome, hroom, hline]
    simp only [dite_eq_ite, hline, read] at ih
    simp only [List.getLast?_cons, List.getLast?_append, ih]
    rfl

theorem last_feedStates (scanner : SseUsageScanner) (chunk : Bytes) :
    (scanner.feedStates parseJson chunk).getLast? = some (scanner.feed parseJson chunk) := by
  unfold feedStates feed
  split
  · rfl
  · exact last_restStates scanner chunk

theorem last_finishStates (scanner : SseUsageScanner) :
    (scanner.finishStates parseJson).getLast? = some (scanner.finished parseJson) := by
  rw [finishStates, List.getLast?_append_of_ne_nil _ (List.cons_ne_nil _ _)]
  rfl

/-- The states between the statements end in the finished scanner. -/
theorem last_chunkStates (scanner : SseUsageScanner) (chunks : List Bytes) :
    (scanner.chunkStates parseJson chunks).getLast? =
      some ((chunks.foldl (feed parseJson) scanner).finished parseJson) := by
  induction chunks generalizing scanner with
  | nil => exact last_finishStates scanner
  | cons chunk chunks ih =>
    rw [chunkStates, List.foldl_cons, List.getLast?_append, ih]
    rfl

/-- They pass through what every chunk leaves. -/
theorem feed_mem_chunkStates (scanner : SseUsageScanner) (front : List Bytes) (chunk : Bytes)
    (back : List Bytes) :
    (front.foldl (feed parseJson) scanner).feed parseJson chunk ∈
      scanner.chunkStates parseJson (front ++ chunk :: back) := by
  induction front generalizing scanner with
  | nil => exact List.mem_append_left _ (List.mem_of_getLast? (last_feedStates scanner chunk))
  | cons first front ih => exact List.mem_append_right _ (ih (scanner.feed parseJson first))

end SseUsageScanner

/-! ## A charge for the text -/

/-- What a line takes at most while it is held, as it came or as the text of its data. -/
def lineCharge (line : Bytes) : Nat :=
  max line.length ((dataValue line).elim 0 String.utf8ByteSize)

/-- The event in progress, with what is charged for its bytes and a charge for its text. -/
structure EventCharge where
  /-- bytes of a line without a terminator yet -/
  begun : Bytes := []
  /-- the previous byte was a CR that ended a line -/
  afterCr : Bool := false
  /-- bytes of the event, terminators included -/
  size : Nat := 0
  /-- charges of the lines that ended, terminators included -/
  lines : Nat := 0
  /-- the bytes exceeded the cap -/
  abandoned : Bool := false

namespace EventCharge

/-- Read one byte. -/
def next (event : EventCharge) (b : UInt8) : EventCharge :=
  if event.abandoned then event
  else if event.afterCr = true ∧ b = Lines.lf then { event with afterCr := false }
  else if maxEventBytes < event.size + 1 then { abandoned := true }
  else if b = Lines.lf ∨ b = Lines.cr then
    if event.begun = [] then { afterCr := decide (b = Lines.cr) }
    else { event with
      begun := []
      afterCr := decide (b = Lines.cr)
      size := event.size + 1
      lines := event.lines + (lineCharge event.begun + 1) }
  else { event with begun := event.begun ++ [b], afterCr := false, size := event.size + 1 }

/-- The charge for the event so far, with the bytes of the line that was begun. -/
def charge (event : EventCharge) : Nat := event.lines + event.begun.length

/-- The charge once that line is read. -/
def total (event : EventCharge) : Nat := event.lines + lineCharge event.begun

end EventCharge

/-- The event in progress behind some bytes. -/
def eventCharge (bytes : Bytes) : EventCharge := bytes.foldl EventCharge.next {}

/-- The charge for an event that is not abandoned does not exceed the cap, wherever the bytes are
cut and at their end. -/
structure ChargesFit (bytes : Bytes) : Prop where
  cut : ∀ begun, begun <+: bytes → (eventCharge begun).charge ≤ maxEventBytes
  finish : (eventCharge bytes).total ≤ maxEventBytes

instance (bytes : Bytes) : Decidable (ChargesFit bytes) :=
  decidable_of_iff ((∀ begun ∈ bytes.inits, (eventCharge begun).charge ≤ maxEventBytes) ∧
    (eventCharge bytes).total ≤ maxEventBytes) (by
      simp only [List.mem_inits]
      exact ⟨fun h => ⟨h.1, h.2⟩, fun h => ⟨h.cut, h.finish⟩⟩)

/-- What pending data takes, with the line feed behind it. -/
def textCharge (pending : String) : Nat :=
  if pending = "" then 0 else pending.utf8ByteSize + 1

theorem utf8ByteSize_le_textCharge (pending : String) :
    pending.utf8ByteSize ≤ textCharge pending := by
  unfold textCharge
  split
  · rename_i hempty
    rw [hempty]
    exact Nat.le_refl 0
  · exact Nat.le_succ _

theorem utf8ByteSize_pushData (pending value : String) :
    (pushData pending value).utf8ByteSize = textCharge pending + value.utf8ByteSize := by
  unfold pushData textCharge
  rw [String.utf8ByteSize_append]
  split
  · rename_i hempty
    rw [hempty]
    rfl
  · rw [String.utf8ByteSize_push]
    rfl

/-- A line adds to the text no more than its charge. -/
theorem textCharge_addLine_le (pending : String) (line : Bytes) :
    textCharge (SseUsageScanner.addLine pending line) ≤
      textCharge pending + (lineCharge line + 1) := by
  unfold SseUsageScanner.addLine lineCharge
  cases dataValue line with
  | none => exact Nat.le_add_right _ _
  | some value =>
    have hpushed := utf8ByteSize_pushData pending value
    have hvalue := Nat.le_max_right line.length value.utf8ByteSize
    simp only [Option.elim_some]
    rw [textCharge]
    split
    · exact Nat.zero_le _
    · omega

theorem utf8ByteSize_addLine_le (pending : String) (line : Bytes) :
    (SseUsageScanner.addLine pending line).utf8ByteSize ≤ textCharge pending + lineCharge line := by
  unfold SseUsageScanner.addLine lineCharge
  cases dataValue line with
  | none => exact (utf8ByteSize_le_textCharge pending).trans (Nat.le_add_right _ _)
  | some value =>
    have hvalue := Nat.le_max_right line.length value.utf8ByteSize
    dsimp only
    rw [utf8ByteSize_pushData, Option.elim_some]
    omega

namespace SseUsageScanner

variable {parseJson : String → Option JsonValue} {scanner : SseUsageScanner} {event : EventCharge}

/-- The scanner is in an event as its charge has it. -/
structure ChargedBy (scanner : SseUsageScanner) (event : EventCharge) : Prop where
  truncated : scanner.outcome.truncated = event.abandoned
  afterCr : scanner.afterCr = event.afterCr
  begun : scanner.lineBuf = event.begun
  size : scanner.eventBytes = event.size
  text : textCharge scanner.pendingData ≤ event.lines

theorem ChargedBy.held_le (h : scanner.ChargedBy event) : scanner.held ≤ event.charge := by
  unfold held EventCharge.charge
  rw [h.begun]
  have htext := (utf8ByteSize_le_textCharge scanner.pendingData).trans h.text
  omega

/-- A byte leaves the scanner in the event that the charge goes on with. -/
theorem ChargedBy.feedByte (h : scanner.ChargedBy event) (b : UInt8) :
    (scanner.feedByte parseJson b).ChargedBy (event.next b) := by
  unfold SseUsageScanner.feedByte EventCharge.next
  rw [h.truncated, h.afterCr, h.size]
  split
  case isTrue => exact h
  case isFalse hgoes =>
    split
    · exact ⟨h.truncated, rfl, h.begun, rfl, h.text⟩
    split
    · exact ⟨rfl, rfl, rfl, rfl, Nat.le_refl 0⟩
    split
    · by_cases hblank : event.begun = []
      · -- a blank line ends the event, and the next one starts without a charge
        rw [if_pos hblank, h.begun, hblank, absorbLine_blank]
        refine ⟨?_, rfl, rfl, rfl, Nat.le_refl 0⟩
        rw [ScanOutcome.observe_truncated, h.truncated]
        exact Bool.eq_false_iff.2 hgoes
      · rw [if_neg hblank, h.begun, absorbLine_data _ hblank]
        refine ⟨h.truncated, rfl, rfl, rfl, ?_⟩
        exact (textCharge_addLine_le _ _).trans (Nat.add_le_add_right h.text _)
    · refine ⟨h.truncated, rfl, ?_, rfl, h.text⟩
      dsimp only
      rw [h.begun]

theorem ChargedBy.foldl (h : scanner.ChargedBy event) (bytes : Bytes) :
    (bytes.foldl (SseUsageScanner.feedByte parseJson) scanner).ChargedBy
      (bytes.foldl EventCharge.next event) := by
  induction bytes generalizing scanner event with
  | nil => exact h
  | cons b bytes ih => exact ih (h.feedByte b)

/-! ## Every state -/

theorem held_flushStates {state : SseUsageScanner}
    (hstate : state ∈ scanner.flushStates parseJson) : state.held ≤ scanner.held := by
  have hflushed : (scanner.flushEvent parseJson).held ≤ scanner.held := by
    rw [flushEvent_eq]
    exact Nat.le_add_right _ _
  unfold flushStates at hstate
  split at hstate
  · rw [List.mem_singleton.1 hstate]
  · simp only [List.mem_cons, List.not_mem_nil, or_false] at hstate
    obtain rfl | rfl | rfl := hstate
    · exact Nat.le_refl _
    · exact Nat.le_add_right _ _
    · exact hflushed

/-- While a line is absorbed no more is held than before or behind it. -/
theorem held_absorbStates {line : Bytes} {state : SseUsageScanner}
    (hstate : state ∈ scanner.absorbStates parseJson line) :
    state.held ≤ max scanner.held (scanner.absorbLine parseJson line).held := by
  unfold absorbStates at hstate
  rw [List.mem_append, List.mem_singleton] at hstate
  rcases hstate with hstate | rfl
  · split at hstate
    · exact (held_flushStates hstate).trans (Nat.le_max_left _ _)
    · rename_i hline
      split at hstate
      · rename_i value hvalue
        simp only [List.mem_cons, List.not_mem_nil, or_false] at hstate
        obtain rfl | rfl := hstate
        · exact Nat.le_max_left _ _
        · refine le_trans ?_ (Nat.le_max_right _ _)
          rw [absorbLine_data _ hline, addLine, hvalue]
          unfold held pushData
          rw [String.utf8ByteSize_append]
          exact Nat.add_le_add_left (Nat.le_add_right _ _) _
      · rw [List.mem_singleton.1 hstate]
        exact Nat.le_max_left _ _
  · exact Nat.le_max_right _ _

theorem held_overfullStates {n : Nat} {state : SseUsageScanner}
    (hstate : state ∈ scanner.overfullStates n) : state.held ≤ scanner.held := by
  simp only [overfullStates, List.mem_cons, List.not_mem_nil, or_false] at hstate
  obtain rfl | rfl | rfl | rfl | rfl := hstate
  · exact Nat.le_refl _
  · exact Nat.le_refl _
  · exact Nat.add_le_add_right (Nat.zero_le _) _
  · exact Nat.zero_le _
  · exact Nat.zero_le _

/-- No more is held between a chunk's last line and its end than before or behind them. -/
theorem held_restStates_none (hgoes : scanner.outcome.truncated = false)
    (hwithin : scanner.Within) {b : UInt8} {tail : Bytes}
    (hlf : ¬(scanner.afterCr = true ∧ b = Lines.lf)) (hnone : memchr2 (b :: tail) = none)
    {state : SseUsageScanner} (hstate : state ∈ scanner.restStates parseJson (b :: tail)) :
    state.held ≤ max scanner.held ((b :: tail).foldl (feedByte parseJson) scanner).held := by
  rw [restStates_none hlf hnone, reserve_eq] at hstate
  rcases List.mem_cons.1 hstate with rfl | hstate
  · exact Nat.le_max_left _ _
  rcases List.mem_cons.1 hstate with rfl | hstate
  · exact Nat.le_max_left _ _
  by_cases hfull : maxEventBytes < scanner.eventBytes + (b :: tail).length
  · rw [if_pos hfull] at hstate
    exact (held_overfullStates hstate).trans (Nat.le_max_left _ _)
  · rw [if_neg hfull] at hstate
    rw [foldl_begun hgoes hwithin hlf hnone, if_neg hfull]
    simp only [List.mem_cons, List.not_mem_nil, or_false] at hstate
    obtain rfl | rfl := hstate
    · exact Nat.le_max_left _ _
    · exact Nat.le_max_right _ _

/-- No more is held while a line is read than before or behind it, and then the next one follows. -/
theorem held_restStates_some (hgoes : scanner.outcome.truncated = false)
    (hwithin : scanner.Within) {b : UInt8} {tail line after : Bytes} {terminator : UInt8}
    (hlf : ¬(scanner.afterCr = true ∧ b = Lines.lf))
    (hsome : memchr2 (b :: tail) = some (line, terminator, after))
    {state : SseUsageScanner} (hstate : state ∈ scanner.restStates parseJson (b :: tail)) :
    state.held ≤
        max scanner.held ((line ++ [terminator]).foldl (feedByte parseJson) scanner).held ∨
      ((line ++ [terminator]).foldl (feedByte parseJson) scanner).outcome.truncated = false ∧
        state ∈ restStates parseJson
          ((line ++ [terminator]).foldl (feedByte parseJson) scanner) after := by
  rw [restStates_some hlf hsome, reserve_eq] at hstate
  rcases List.mem_cons.1 hstate with rfl | hstate
  · exact .inl (Nat.le_max_left _ _)
  rcases List.mem_cons.1 hstate with rfl | hstate
  · exact .inl (Nat.le_max_left _ _)
  by_cases hfull : maxEventBytes < scanner.eventBytes + (line.length + 1)
  · rw [if_pos hfull] at hstate
    exact .inl ((held_overfullStates hstate).trans (Nat.le_max_left _ _))
  · rw [if_neg hfull] at hstate
    rw [foldl_ended hgoes hwithin hlf hsome, if_neg hfull]
    rcases List.mem_cons.1 hstate with rfl | hstate
    · exact .inl (Nat.le_max_left _ _)
    rcases List.mem_cons.1 hstate with rfl | hstate
    · exact .inl (Nat.le_max_left _ _)
    rcases List.mem_append.1 hstate with hstate | hstate
    · -- what was held of the line has left the buffer
      refine .inl ((held_absorbStates hstate).trans (max_le_max ?_ (Nat.le_refl _)))
      exact Nat.add_le_add_right (Nat.zero_le _) _
    · refine .inr ⟨?_, hstate⟩
      rw [absorbLine_truncated]
      exact hgoes

/-- What is left of a chunk is read within the cap, if it is charged within the cap at every cut. -/
theorem held_restStates (hgoes : scanner.outcome.truncated = false) (hwithin : scanner.Within)
    (hcharged : scanner.ChargedBy event) {rest : Bytes}
    (hfits : ∀ begun, begun <+: rest → (begun.foldl EventCharge.next event).charge ≤ maxEventBytes)
    {state : SseUsageScanner} (hstate : state ∈ scanner.restStates parseJson rest) :
    state.held ≤ maxEventBytes := by
  induction hlength : rest.length using Nat.strongRecOn generalizing rest scanner event with
  | ind n ih =>
    subst hlength
    -- a cut is a state of the scanner, if it is fed byte by byte
    have hcut : ∀ begun, begun <+: rest →
        (begun.foldl (feedByte parseJson) scanner).held ≤ maxEventBytes :=
      fun begun hbegun => (hcharged.foldl begun).held_le.trans (hfits begun hbegun)
    have hheld := hcut [] List.nil_prefix
    cases rest with
    | nil =>
      rw [restStates] at hstate
      rw [List.mem_singleton.1 hstate]
      exact hheld
    | cons b tail =>
      by_cases hlf : scanner.afterCr = true ∧ b = Lines.lf
      · have hskipped : scanner.feedByte parseJson b = { scanner with afterCr := false } := by
          rw [feedByte, hgoes, if_neg Bool.false_ne_true, if_pos hlf]
        have hnext := @ChargedBy.feedByte parseJson _ _ hcharged b
        rw [hskipped] at hnext
        rw [restStates_skip hlf] at hstate
        rcases List.mem_cons.1 hstate with rfl | hstate
        · exact hheld
        refine @ih tail.length (Nat.lt_succ_self _) { scanner with afterCr := false } _ hgoes
          hwithin hnext tail (fun begun hbegun => ?_) hstate rfl
        exact hfits (b :: begun) (List.cons_prefix_cons.2 ⟨rfl, hbegun⟩)
      cases hfound : memchr2 (b :: tail) with
      | none =>
        exact (held_restStates_none hgoes hwithin hlf hfound hstate).trans
          (max_le hheld (hcut _ List.prefix_rfl))
      | some found =>
        obtain ⟨line, terminator, after⟩ := found
        have hbytes : b :: tail = line ++ [terminator] ++ after := by
          rw [(memchr2_some hfound).1, List.append_assoc, List.singleton_append]
        rcases held_restStates_some hgoes hwithin hlf hfound hstate with hline | ⟨hgoes', hstate⟩
        · exact hline.trans (max_le hheld (hcut _ ⟨after, hbytes.symm⟩))
        · refine ih after.length (memchr2_length hfound) hgoes' (foldl_within hwithin _)
            (hcharged.foldl _) (fun begun hbegun => ?_) hstate rfl
          rw [← List.foldl_append]
          refine hfits _ ?_
          rw [hbytes]
          exact (List.prefix_append_right_inj _).2 hbegun

theorem held_finishStates (hcharged : scanner.ChargedBy event)
    (hfits : event.charge ≤ maxEventBytes) (hfinish : event.total ≤ maxEventBytes)
    {state : SseUsageScanner} (hstate : state ∈ scanner.finishStates parseJson) :
    state.held ≤ maxEventBytes := by
  have hheld := hcharged.held_le.trans hfits
  unfold finishStates at hstate
  rw [List.mem_append, List.mem_singleton] at hstate
  rcases hstate with hstate | rfl
  · split at hstate
    · rw [List.mem_singleton.1 hstate]
      exact hheld
    split at hstate
    · exact (held_flushStates hstate).trans hheld
    rename_i hline
    have habsorbed : (absorbLine parseJson { scanner with lineBuf := [] } scanner.lineBuf).held ≤
        maxEventBytes := by
      rw [absorbLine_data _ hline]
      have hadded := utf8ByteSize_addLine_le scanner.pendingData scanner.lineBuf
      have htext := hcharged.text
      unfold EventCharge.total at hfinish
      rw [← hcharged.begun] at hfinish
      unfold held
      simp only [List.length_nil]
      omega
    rcases List.mem_cons.1 hstate with rfl | hstate
    · exact hheld
    rcases List.mem_append.1 hstate with hstate | hstate
    · refine (held_absorbStates hstate).trans (max_le (le_trans ?_ hheld) habsorbed)
      exact Nat.add_le_add_right (Nat.zero_le _) _
    · exact (held_flushStates hstate).trans habsorbed
  · exact Nat.zero_le _

theorem held_chunkStates (hwithin : scanner.Within) (hcharged : scanner.ChargedBy event)
    {chunks : List Bytes}
    (hfits : ∀ begun, begun <+: chunks.flatten →
      (begun.foldl EventCharge.next event).charge ≤ maxEventBytes)
    (hfinish : (chunks.flatten.foldl EventCharge.next event).total ≤ maxEventBytes)
    {state : SseUsageScanner} (hstate : state ∈ scanner.chunkStates parseJson chunks) :
    state.held ≤ maxEventBytes := by
  induction chunks generalizing scanner event with
  | nil => exact held_finishStates hcharged (hfits [] List.nil_prefix) hfinish hstate
  | cons chunk chunks ih =>
    rw [List.flatten_cons] at hfits hfinish
    rw [chunkStates, List.mem_append] at hstate
    rcases hstate with hstate | hstate
    · unfold feedStates at hstate
      split at hstate
      · rw [List.mem_singleton.1 hstate]
        exact hcharged.held_le.trans (hfits [] List.nil_prefix)
      · rename_i hgoes
        refine held_restStates (Bool.eq_false_iff.2 hgoes) hwithin hcharged
          (fun begun hbegun => ?_) hstate
        exact hfits begun (hbegun.trans (List.prefix_append chunk _))
    · rw [feed_eq hwithin] at hstate
      refine ih (foldl_within hwithin chunk) (hcharged.foldl chunk) (fun begun hbegun => ?_) ?_
        hstate
      · rw [← List.foldl_append]
        exact hfits _ ((List.prefix_append_right_inj chunk).2 hbegun)
      · rw [← List.foldl_append]
        exact hfinish

end SseUsageScanner

/-- The states of a scanner over a stream that was fed chunk by chunk. -/
def scanStates (parseJson : String → Option JsonValue) (endpoint : Endpoint)
    (chunks : List Bytes) : List SseUsageScanner :=
  SseUsageScanner.chunkStates parseJson { endpoint := endpoint } chunks

/-- Where the charge for the text fits, no state of the scanner holds more than the cap. -/
theorem held_scanStates_le (parseJson : String → Option JsonValue) (endpoint : Endpoint)
    {chunks : List Bytes} (h : ChargesFit chunks.flatten) :
    ∀ state ∈ scanStates parseJson endpoint chunks, state.held ≤ maxEventBytes := by
  intro state hstate
  have hstart : SseUsageScanner.ChargedBy { endpoint := endpoint } {} :=
    ⟨rfl, rfl, rfl, rfl, Nat.le_refl 0⟩
  exact SseUsageScanner.held_chunkStates (Nat.zero_le _) hstart h.cut h.finish hstate

/-- A comment, and data with a byte that is replaced. -/
def Sample.replacedByte : List Bytes :=
  [[0x3A, 0x0A, 0x64, 0x61, 0x74], [0x61, 0x3A, 0x20, 0x41, 0xFF], [0x0A, 0x0A]]

theorem held_replacedByte_le : ((scanStates (fun _ => none) .chatCompletions
    Sample.replacedByte).all fun state => state.held ≤ maxEventBytes) = true := by
  refine List.all_eq_true.2 fun state hstate => decide_eq_true ?_
  exact held_scanStates_le (fun _ => none) .chatCompletions (by decide +kernel) state hstate

/-! ## Lines that do not outgrow their bytes -/

theorem dataValue_eq_some {line : Bytes} {value : String} (h : dataValue line = some value) :
    ∃ bytes, value = Utf8.fromUtf8Lossy bytes ∧ bytes.length + 5 ≤ line.length := by
  unfold dataValue at h
  split at h
  · rename_i rest
    cases h
    refine ⟨_, rfl, ?_⟩
    split <;> simp only [List.length_cons] <;> omega
  · cases h

/-- Two bytes may be replaced in a line of data before its text outgrows it. -/
theorem lineCharge_eq_length {line : Bytes}
    (hfew : ∀ value ∈ dataValue line, value.toList.count Utf8.replacement ≤ 2) :
    lineCharge line = line.length := by
  unfold lineCharge
  refine Nat.max_eq_left ?_
  cases hvalue : dataValue line with
  | none => exact Nat.zero_le _
  | some value =>
    have hcount := hfew value hvalue
    obtain ⟨bytes, rfl, hlength⟩ := dataValue_eq_some hvalue
    have hsize := Utf8.size_characters_le_count bytes
    rw [Utf8.fromUtf8Lossy, String.toList_ofList] at hcount
    rw [Option.elim_some, Utf8.fromUtf8Lossy, Text.utf8ByteSize_ofList]
    omega

/-- The lines of the event are charged for their bytes only. -/
structure EventCharge.Plain (event : EventCharge) : Prop where
  lines : event.lines + event.begun.length = event.size
  size : event.size ≤ maxEventBytes

theorem EventCharge.Plain.next {event : EventCharge} (h : event.Plain)
    (hline : lineCharge event.begun = event.begun.length) (b : UInt8) : (event.next b).Plain := by
  have hlines := h.lines
  unfold EventCharge.next
  split
  · exact h
  split
  · exact ⟨hlines, h.size⟩
  split
  · exact ⟨rfl, Nat.zero_le _⟩
  rename_i hroom
  split
  · split
    · exact ⟨rfl, Nat.zero_le _⟩
    · refine ⟨?_, Nat.le_of_not_lt hroom⟩
      simp only [hline, List.length_nil]
      omega
  · refine ⟨?_, Nat.le_of_not_lt hroom⟩
    simp only [List.length_append, List.length_singleton]
    omega

theorem plain_eventCharge {bytes : Bytes}
    (hplain : ∀ begun, begun <+: bytes →
      lineCharge (eventCharge begun).begun = (eventCharge begun).begun.length) :
    (eventCharge bytes).Plain := by
  induction bytes using List.reverseRecOn with
  | nil => exact ⟨rfl, Nat.zero_le _⟩
  | append_singleton bytes b ih =>
    have hbefore : bytes <+: bytes ++ [b] := List.prefix_append bytes [b]
    have hbytes := ih fun begun hbegun => hplain begun (hbegun.trans hbefore)
    rw [eventCharge, List.foldl_append]
    exact hbytes.next (hplain bytes hbefore) b

/-- The charge fits where no line of data, wherever it is cut, has more than two replacements. -/
theorem chargesFit_of_few {bytes : Bytes}
    (hfew : ∀ begun, begun <+: bytes → ∀ value ∈ dataValue (eventCharge begun).begun,
      value.toList.count Utf8.replacement ≤ 2) : ChargesFit bytes := by
  have hplain : ∀ begun, begun <+: bytes →
      lineCharge (eventCharge begun).begun = (eventCharge begun).begun.length :=
    fun begun hbegun => lineCharge_eq_length (hfew begun hbegun)
  have hevent : ∀ begun, begun <+: bytes → (eventCharge begun).charge ≤ maxEventBytes := by
    intro begun hbegun
    have hcut := plain_eventCharge fun cut hcut => hplain cut (hcut.trans hbegun)
    exact hcut.lines.le.trans hcut.size
  refine ⟨hevent, ?_⟩
  rw [EventCharge.total, hplain bytes List.prefix_rfl]
  exact hevent bytes List.prefix_rfl

/-! ## Data that begins no character -/

/-- A line of data whose bytes begin no character. -/
def Sample.invalidLine (n : Nat) : Bytes :=
  0x64 :: 0x61 :: 0x74 :: 0x61 :: 0x3A :: List.replicate n 0xFF

theorem length_invalidLine (n : Nat) : (Sample.invalidLine n).length = n + 5 := by
  simp [Sample.invalidLine]

theorem invalidLine_plain (n : Nat) :
    ∀ b ∈ Sample.invalidLine n, ¬(b = Lines.lf ∨ b = Lines.cr) := by
  intro b hb
  simp only [Sample.invalidLine, List.mem_cons, List.mem_replicate] at hb
  obtain rfl | rfl | rfl | rfl | rfl | ⟨-, rfl⟩ := hb <;> decide

theorem dataValue_invalidLine (n : Nat) :
    dataValue (Sample.invalidLine n) = some (Utf8.fromUtf8Lossy (List.replicate n 0xFF)) := by
  cases n <;> rfl

theorem utf8ByteSize_invalid (n : Nat) :
    (Utf8.fromUtf8Lossy (List.replicate n 0xFF)).utf8ByteSize = 3 * n := by
  rw [Utf8.fromUtf8Lossy, Utf8.characters_replicate_invalid, Text.utf8ByteSize_ofList,
    List.map_replicate, List.sum_replicate_nat, Utf8.replacement_utf8Size, Nat.mul_comm]

/-- Such a line is charged for its bytes and held at three times its data. -/
theorem held_invalid (parseJson : String → Option JsonValue) (endpoint : Endpoint) {n : Nat}
    (hroom : n + 6 ≤ maxEventBytes) :
    ∃ state ∈ scanStates parseJson endpoint [Sample.invalidLine n ++ [Lines.lf]],
      state.held = 3 * n ∧ state.eventBytes = n + 6 ∧ state.outcome.truncated = false := by
  have hsome := SseUsageScanner.memchr2_line (invalidLine_plain n) (Or.inl rfl) []
  have hlength := length_invalidLine n
  have hline : Sample.invalidLine n ≠ [] := List.cons_ne_nil _ _
  let read : SseUsageScanner := { endpoint := endpoint, eventBytes := n + 6 }
  have hread : read.absorbLine parseJson (Sample.invalidLine n) =
      { read with pendingData := Utf8.fromUtf8Lossy (List.replicate n 0xFF) } := by
    rw [SseUsageScanner.absorbLine_data _ hline, SseUsageScanner.addLine,
      dataValue_invalidLine]
    simp [read, pushData]
  refine ⟨read.absorbLine parseJson (Sample.invalidLine n), ?_, ?_, ?_, ?_⟩
  · have hmem : read.absorbLine parseJson (Sample.invalidLine n) ∈
        read.absorbStates parseJson (Sample.invalidLine n) :=
      List.mem_append_right _ (List.mem_singleton_self _)
    rw [scanStates, SseUsageScanner.chunkStates, SseUsageScanner.feedStates]
    refine List.mem_append_left _ ?_
    rw [if_neg Bool.false_ne_true]
    have hstates := @SseUsageScanner.restStates_some parseJson { endpoint := endpoint } _ _
      (fun h => Bool.false_ne_true h.1) _ _ _ hsome
    have hfits : ¬maxEventBytes < 0 + (n + 5 + 1) := by omega
    rw [SseUsageScanner.reserve_eq, hlength, if_neg hfits] at hstates
    simp only [Nat.zero_add] at hstates
    show _ ∈ SseUsageScanner.restStates parseJson { endpoint := endpoint } (0x64 :: _)
    rw [hstates]
    iterate 4 refine List.mem_cons_of_mem _ ?_
    exact List.mem_append_left _ hmem
  · rw [hread]
    simp [SseUsageScanner.held, read, utf8ByteSize_invalid]
  · rw [hread]
  · rw [hread]

/-- A hundred thousand invalid bytes of data are held as three hundred thousand. -/
theorem held_not_bounded : ¬∀ (endpoint : Endpoint) (chunks : List Bytes),
    ∀ state ∈ scanStates (fun _ => none) endpoint chunks, state.held ≤ maxEventBytes := by
  intro hall
  obtain ⟨state, hstate, hheld, -, -⟩ :=
    @held_invalid (fun _ => none) .chatCompletions 100000 (by decide)
  have hbound := hall _ _ state hstate
  rw [hheld] at hbound
  exact absurd hbound (by decide)

end PartnerPortal

import PartnerPortal.Proxy.SseReference

/-!
# The counts of a stream

A stream may report its counts in several events, and an event in several places.  What the scanner
keeps is the object it read last, as a whole.

Results:
- `streamUsage_eq` — an event yields the first of its places that holds a count;
- `scan_keeps_counts_iff` — no count is lost exactly when the object that is read last holds every
  count that some event reported.
-/

namespace PartnerPortal

inductive TokenCount where
  | input
  | output
  | cached
deriving DecidableEq

def Usage.count : TokenCount → Usage → Option UInt64
  | .input, usage => usage.inputTokens
  | .output, usage => usage.outputTokens
  | .cached, usage => usage.cachedTokens

/-- A count as a usage object holds it, where it is a number. -/
def countIn (endpoint : Endpoint) (count : TokenCount) (usage : JsonValue) : Option UInt64 :=
  match endpoint, count with
  | .chatCompletions, .input => (usage.get "prompt_tokens").bind JsonValue.asU64
  | .chatCompletions, .output => (usage.get "completion_tokens").bind JsonValue.asU64
  | .chatCompletions, .cached =>
    ((usage.get "prompt_tokens_details").bind (JsonValue.get "cached_tokens")).bind JsonValue.asU64
  | .responses, .input =>
    ((usage.get "input_tokens").or (usage.get "prompt_tokens")).bind JsonValue.asU64
  | .responses, .output =>
    ((usage.get "output_tokens").or (usage.get "completion_tokens")).bind JsonValue.asU64
  | .responses, .cached =>
    ((usage.get "input_tokens_details").bind (JsonValue.get "cached_tokens")).bind JsonValue.asU64
  | .models, _ => none

/-- An object that holds at least one count. -/
def holdsCount (endpoint : Endpoint) (usage : JsonValue) : Bool :=
  (countIn endpoint .input usage).isSome || (countIn endpoint .output usage).isSome ||
    (countIn endpoint .cached usage).isSome

/-- The object an event's counts are read from. -/
def readObject (endpoint : Endpoint) (event : JsonValue) : Option JsonValue :=
  (streamUsageObjects event).find? (holdsCount endpoint)

/-- A count as an event reports it: in the first of its places that holds it. -/
def reportedCount (endpoint : Endpoint) (count : TokenCount) (event : JsonValue) : Option UInt64 :=
  (streamUsageObjects event).findSome? (countIn endpoint count)

/-- A count as the last event that reports it does. -/
def lastReported (endpoint : Endpoint) (count : TokenCount) (events : List JsonValue) :
    Option UInt64 :=
  (events.filterMap (reportedCount endpoint count)).getLast?

/-- The object that the counts of a stream are read from last. -/
def lastRead (endpoint : Endpoint) (events : List JsonValue) : Option JsonValue :=
  (events.filterMap (readObject endpoint)).getLast?

/-- The object that is read last holds every count that some event reports. -/
def HoldsAll (endpoint : Endpoint) (events : List JsonValue) : Prop :=
  ∀ usage, lastRead endpoint events = some usage → ∀ count,
    (∃ event ∈ events, (reportedCount endpoint count event).isSome) →
      (countIn endpoint count usage).isSome

/-- The events of a stream whose data is JSON. -/
def streamValues (parseJson : String → Option JsonValue) (bytes : Bytes) : List JsonValue :=
  (payloads (wholeEvents (sseEvents (Lines.split bytes).lines (Lines.split bytes).rest))).filterMap
    parseJson

/-! ## One event -/

/-- The usage made of an object's counts. -/
def usageOf (endpoint : Endpoint) (usage : JsonValue) : Usage where
  inputTokens := countIn endpoint .input usage
  outputTokens := countIn endpoint .output usage
  cachedTokens := countIn endpoint .cached usage

theorem count_usageOf (endpoint : Endpoint) (count : TokenCount) (usage : JsonValue) :
    (usageOf endpoint usage).count count = countIn endpoint count usage := by
  cases count <;> rfl

theorem holdsCount_iff {endpoint : Endpoint} {usage : JsonValue} :
    holdsCount endpoint usage = true ↔ ∃ count, (countIn endpoint count usage).isSome := by
  unfold holdsCount
  rw [Bool.or_eq_true, Bool.or_eq_true]
  constructor
  · rintro ((h | h) | h)
    exacts [⟨_, h⟩, ⟨_, h⟩, ⟨_, h⟩]
  · rintro ⟨count, h⟩
    cases count with
    | input => exact .inl (.inl h)
    | output => exact .inl (.inr h)
    | cached => exact .inr h

theorem findSome_observed (endpoint : Endpoint) (places : List JsonValue) :
    (places.findSome? fun usage => observedUsage (countIn endpoint .input usage)
        (countIn endpoint .output usage) (countIn endpoint .cached usage)) =
      (places.find? (holdsCount endpoint)).map (usageOf endpoint) := by
  induction places with
  | nil => rfl
  | cons usage places ih =>
    rw [List.findSome?_cons, List.find?_cons, ih, observedUsage, ← holdsCount]
    cases holdsCount endpoint usage <;> rfl

/-- An event yields the counts of the first of its places that holds one. -/
theorem streamUsage_eq (endpoint : Endpoint) (event : JsonValue) :
    streamUsage endpoint event = (readObject endpoint event).map (usageOf endpoint) := by
  rw [readObject, ← findSome_observed]
  cases endpoint with
  | chatCompletions => rfl
  | responses => rfl
  | models => exact (List.findSome?_eq_none_iff.2 fun _ _ => rfl).symm

/-- The object that is read stands in front of any other that holds its counts. -/
theorem reportedCount_of_read {endpoint : Endpoint} {event usage : JsonValue} {count : TokenCount}
    (hread : readObject endpoint event = some usage)
    (hholds : (countIn endpoint count usage).isSome) :
    reportedCount endpoint count event = countIn endpoint count usage := by
  obtain ⟨-, before, after, hplaces, hbefore⟩ := List.find?_eq_some_iff_append.1 hread
  have hnone : before.findSome? (countIn endpoint count) = none := by
    refine List.findSome?_eq_none_iff.2 fun other hother => ?_
    have hempty : holdsCount endpoint other = false := by simpa using hbefore other hother
    refine Option.not_isSome_iff_eq_none.1 fun hsome => ?_
    rw [holdsCount_iff.2 ⟨count, hsome⟩] at hempty
    cases hempty
  rw [reportedCount, hplaces, List.findSome?_append, hnone, Option.none_or, List.findSome?_cons]
  obtain ⟨value, hvalue⟩ := Option.isSome_iff_exists.1 hholds
  rw [hvalue]

/-- An event that is not read reports no count. -/
theorem reportedCount_of_unread {endpoint : Endpoint} {event : JsonValue}
    (hread : readObject endpoint event = none) (count : TokenCount) :
    reportedCount endpoint count event = none := by
  refine List.findSome?_eq_none_iff.2 fun usage hmem => ?_
  have hempty := List.find?_eq_none.1 hread usage hmem
  exact Option.not_isSome_iff_eq_none.1 fun hsome => hempty (holdsCount_iff.2 ⟨count, hsome⟩)

/-! ## One event after another -/

theorem getLast?_filterMap_snoc {α β : Type} (f : α → Option β) (before : List α) (last : α) :
    ((before ++ [last]).filterMap f).getLast? = (f last).or (before.filterMap f).getLast? := by
  rw [List.filterMap_append, List.getLast?_append, List.filterMap_cons]
  cases f last <;> rfl

/-- The usage that is kept is made of the object that is read last. -/
theorem lastUsage_eq (endpoint : Endpoint) (events : List JsonValue) :
    (events.filterMap (streamUsage endpoint)).getLast? =
      (lastRead endpoint events).map (usageOf endpoint) := by
  unfold lastRead
  induction events using List.reverseRecOn with
  | nil => rfl
  | append_singleton before event ih =>
    rw [getLast?_filterMap_snoc, getLast?_filterMap_snoc, ih, streamUsage_eq]
    cases readObject endpoint event <;> rfl

/-- What the object that is read last holds was not reported again after it. -/
theorem lastReported_of_read {endpoint : Endpoint} {events : List JsonValue} {usage : JsonValue}
    {count : TokenCount} (hread : lastRead endpoint events = some usage)
    (hholds : (countIn endpoint count usage).isSome) :
    lastReported endpoint count events = countIn endpoint count usage := by
  unfold lastRead at hread
  unfold lastReported
  induction events using List.reverseRecOn with
  | nil => cases hread
  | append_singleton before event ih =>
    rw [getLast?_filterMap_snoc] at hread ⊢
    cases hevent : readObject endpoint event with
    | none =>
      rw [hevent, Option.none_or] at hread
      rw [reportedCount_of_unread hevent, Option.none_or]
      exact ih hread
    | some latest =>
      rw [hevent, Option.some_or] at hread
      cases hread
      rw [reportedCount_of_read hevent hholds]
      obtain ⟨value, hvalue⟩ := Option.isSome_iff_exists.1 hholds
      rw [hvalue, Option.some_or]

theorem lastReported_isSome_iff {endpoint : Endpoint} {count : TokenCount}
    {events : List JsonValue} :
    (lastReported endpoint count events).isSome ↔
      ∃ event ∈ events, (reportedCount endpoint count event).isSome := by
  rw [lastReported, List.getLast?_isSome, ← List.length_pos_iff_ne_nil,
    List.length_filterMap_eq_countP, List.countP_pos_iff]

/-- Where nothing is read, nothing is reported. -/
theorem lastReported_of_unread {endpoint : Endpoint} {events : List JsonValue}
    (hread : lastRead endpoint events = none) (count : TokenCount) :
    lastReported endpoint count events = none := by
  have hnone : ∀ event ∈ events, readObject endpoint event = none :=
    List.filterMap_eq_nil_iff.1 (List.getLast?_eq_none_iff.1 hread)
  refine Option.not_isSome_iff_eq_none.1 fun hsome => ?_
  obtain ⟨event, hmem, hreported⟩ := lastReported_isSome_iff.1 hsome
  rw [reportedCount_of_unread (hnone event hmem)] at hreported
  cases hreported

/-- The counts of the usage that is kept, as the last event that reports each does. -/
def CountsKept (endpoint : Endpoint) (kept : Option Usage) (events : List JsonValue) : Prop :=
  ∀ count, kept.bind (Usage.count count) = lastReported endpoint count events

theorem countsKept_iff (endpoint : Endpoint) (events : List JsonValue) :
    CountsKept endpoint (events.filterMap (streamUsage endpoint)).getLast? events ↔
      HoldsAll endpoint events := by
  rw [CountsKept, lastUsage_eq]
  constructor
  · intro hkept usage hread count hreported
    have hcount := hkept count
    rw [hread] at hcount
    have hsome := lastReported_isSome_iff.2 hreported
    rwa [← hcount, Option.map_some, Option.bind_some, count_usageOf] at hsome
  · intro hholds count
    cases hread : lastRead endpoint events with
    | none => exact (lastReported_of_unread hread count).symm
    | some usage =>
      rw [Option.map_some, Option.bind_some, count_usageOf]
      cases hcount : countIn endpoint count usage with
      | some value =>
        rw [lastReported_of_read hread (by rw [hcount]; rfl), hcount]
      | none =>
        -- the whole object replaced one that held the count
        refine (Option.not_isSome_iff_eq_none.1 fun hsome => ?_).symm
        have hheld := hholds usage hread count (lastReported_isSome_iff.1 hsome)
        rw [hcount] at hheld
        cases hheld

/-! ## A stream -/

theorem scanChunks_usage {parseJson : String → Option JsonValue} {endpoint : Endpoint}
    {chunks : List Bytes} (h : (scanChunks parseJson endpoint chunks).truncated = false) :
    (scanChunks parseJson endpoint chunks).usage =
      ((streamValues parseJson chunks.flatten).filterMap (streamUsage endpoint)).getLast? := by
  rw [scanChunks_readEvents, readEvents_eq parseJson endpoint rfl] at h ⊢
  dsimp only at h ⊢
  rw [h, if_neg Bool.false_ne_true, Option.or_none, streamValues]

/-- In a stream that is read to its end, each count is kept as the last event that reports it does
exactly when the object that is read last holds every count that some event reports. -/
theorem scan_keeps_counts_iff (parseJson : String → Option JsonValue) (endpoint : Endpoint)
    (chunks : List Bytes) (h : (scanChunks parseJson endpoint chunks).truncated = false) :
    CountsKept endpoint (scanChunks parseJson endpoint chunks).usage
        (streamValues parseJson chunks.flatten) ↔
      HoldsAll endpoint (streamValues parseJson chunks.flatten) := by
  rw [scanChunks_usage h]
  exact countsKept_iff endpoint (streamValues parseJson chunks.flatten)

section Sample

/-- A JSON parser on the data of the streams below. -/
def splitParse (data : String) : Option JsonValue :=
  if data = "\x7b\"usage\":\x7b\"prompt_tokens\":12\x7d\x7d" then
    some (.object [("usage", .object [("prompt_tokens", .number (.posInt 12))])])
  else if data = "\x7b\"usage\":\x7b\"completion_tokens\":7\x7d\x7d" then
    some (.object [("usage", .object [("completion_tokens", .number (.posInt 7))])])
  else if data = "\x7b\"usage\":\x7b\"prompt_tokens\":12,\"completion_tokens\":7\x7d\x7d" then
    some (.object [("usage", .object [("prompt_tokens", .number (.posInt 12)),
      ("completion_tokens", .number (.posInt 7))])])
  else none

/-- A stream that reports the input in one event and the output in the next. -/
def splitStream : List Bytes :=
  ["data: \x7b\"usage\":\x7b\"prompt_tokens\":12\x7d\x7d\n\n",
    "data: \x7b\"usage\":\x7b\"completion_tokens\":7\x7d\x7d\n\n"].map fun text =>
      text.toList.map fun c => UInt8.ofNat c.toNat

/-- The later event turns the input, which was recovered, back into none. -/
theorem split_stream_loses_input :
    (scanChunks splitParse .chatCompletions splitStream).truncated = false ∧
      ¬ CountsKept .chatCompletions (scanChunks splitParse .chatCompletions splitStream).usage
        (streamValues splitParse splitStream.flatten) := by
  have hread : (scanChunks splitParse .chatCompletions splitStream).truncated = false ∧
      (scanChunks splitParse .chatCompletions splitStream).usage =
        some { outputTokens := some 7 } ∧
      lastReported .chatCompletions .input (streamValues splitParse splitStream.flatten) =
        some 12 := by
    decide +kernel
  obtain ⟨hwhole, hscan, hreported⟩ := hread
  refine ⟨hwhole, fun hkept => ?_⟩
  have hinput := hkept .input
  rw [hscan, hreported] at hinput
  cases hinput

/-- A stream that reports the input, and then both counts in its last event. -/
def summedStream : List Bytes :=
  ["data: \x7b\"usage\":\x7b\"prompt_tokens\":12\x7d\x7d\n\n",
    "data: \x7b\"usage\":\x7b\"prompt_tokens\":12,\"completion_tokens\":7\x7d\x7d\n\n"].map fun text =>
      text.toList.map fun c => UInt8.ofNat c.toNat

theorem summedStream_holdsAll :
    HoldsAll .chatCompletions (streamValues splitParse summedStream.flatten) := by
  have hstream : ((lastRead .chatCompletions (streamValues splitParse summedStream.flatten)).all
        fun usage => (countIn .chatCompletions .input usage).isSome &&
          (countIn .chatCompletions .output usage).isSome) = true ∧
      ((streamValues splitParse summedStream.flatten).all fun event =>
        (reportedCount .chatCompletions .cached event).isNone) = true := by
    decide +kernel
  obtain ⟨hread, hcached⟩ := hstream
  intro usage husage count hreported
  rw [husage, Option.all_some, Bool.and_eq_true] at hread
  cases count with
  | input => exact hread.1
  | output => exact hread.2
  | cached =>
    obtain ⟨event, hevent, hsome⟩ := hreported
    have hnone := List.all_eq_true.1 hcached event hevent
    rw [Option.isNone_iff_eq_none.1 hnone] at hsome
    cases hsome

theorem scan_keeps_counts_whole :
    (scanChunks splitParse .chatCompletions summedStream).truncated = false ∧
      (scanChunks splitParse .chatCompletions summedStream).usage =
        some { inputTokens := some 12, outputTokens := some 7 } ∧
      CountsKept .chatCompletions (scanChunks splitParse .chatCompletions summedStream).usage
        (streamValues splitParse summedStream.flatten) := by
  have hread : (scanChunks splitParse .chatCompletions summedStream).truncated = false ∧
      (scanChunks splitParse .chatCompletions summedStream).usage =
        some { inputTokens := some 12, outputTokens := some 7 } := by
    decide +kernel
  exact ⟨hread.1, hread.2,
    (scan_keeps_counts_iff splitParse .chatCompletions summedStream hread.1).2 summedStream_holdsAll⟩

end Sample

end PartnerPortal

import PartnerPortal.Dashboard.Requests

/-!
# Following `next_cursor`

The request list is read a page at a time, each request with the cursor of the page before it.  Between
the requests the clock, the configuration and the ledger may change.

Results:
- `answerAt_of_window` — a request with a signed cursor is answered with a keyset page;
- `Paging.listed` — what the pages of a paging list;
- `exists_paging` — following `next_cursor` ends;
- `getRequests_unsigned` — a cursor that was not signed is refused.
-/

namespace PartnerPortal.Dashboard

open MachineInt Prepared Keyset

/-- The rows of the ledger: distinct ids that an `INTEGER PRIMARY KEY` can hold, and the timestamps the
ledger writes. -/
structure RequestTable where
  rows : List UsageRow
  ids : (rows.map UsageRow.id).Nodup
  fits : ∀ row ∈ rows, (row.id : Int) ≤ i64Max
  stamped : ∀ row ∈ rows, row.Stamped

/-- What a page request meets. -/
structure Visit where
  now : Instant
  retentionDays : UInt32
  table : RequestTable

/-- How following `next_cursor` ends. -/
inductive Ending where
  | complete
  | refused (failure : Failure)

section Following

variable (sha256 : Bytes → Bytes) (key : Bytes) (texts : Texts) (consumer : ConsumerContext)
  (query : DashboardQuery) (visits : Nat → Visit)

/-- The answer to one page request. -/
def answerAt (j : Nat) (cursor : Option String) : Answer RequestsResponse :=
  getRequests sha256 key texts (visits j).now (visits j).retentionDays consumer
    { query with cursor } (visits j).table.rows

/-- The pages from one request on, each with the `next_cursor` of the page before it. -/
inductive Paging : Nat → Option String → List RequestsResponse → Ending → Prop
  | last {j : Nat} {cursor : Option String} {page : RequestsResponse} :
      answerAt sha256 key texts consumer query visits j cursor = .ok page →
      page.nextCursor = none → Paging j cursor [page] .complete
  | next {j : Nat} {cursor : Option String} {page : RequestsResponse} {following : String}
      {pages : List RequestsResponse} {ending : Ending} :
      answerAt sha256 key texts consumer query visits j cursor = .ok page →
      page.nextCursor = some following → Paging (j + 1) (some following) pages ending →
      Paging j cursor (page :: pages) ending
  | refused {j : Nat} {cursor : Option String} {failure : Failure} :
      answerAt sha256 key texts consumer query visits j cursor = .error failure →
      Paging j cursor [] (.refused failure)

/-- The window of a request. -/
def windowAt (j : Nat) : Answer TimeWindow :=
  TimeWindow.resolve texts (visits j).now (visits j).retentionDays query

/-- A row of the ledger matches the query at a request. -/
def MatchesAt (j : Nat) (row : UsageRow) : Prop :=
  row ∈ (visits j).table.rows ∧ ∃ window, windowAt texts query visits j = .ok window ∧
    (requestFilter consumer query window).wants row = true

/-- What the pages of a paging list, each page as the rows it was made from. -/
structure Listed (pages : List RequestsResponse) (ending : Ending) (listed : List (List UsageRow)) :
    Prop where
  data : pages.map RequestsResponse.data = listed.map (List.map requestItem)
  lengths : ∀ rows ∈ listed, rows.length ≤ pageLimit query
  /-- no row is listed twice, and the newest rows come first -/
  descends : listed.flatten.Pairwise fun a b => requestKey b < requestKey a
  matching : ∀ j rows, listed[j]? = some rows → ∀ row ∈ rows, MatchesAt texts consumer query visits j row
  /-- a page has a cursor exactly where a further row matched -/
  more : ∀ j page, pages[j]? = some page → (page.nextCursor ≠ none ↔
    ∃ row, MatchesAt texts consumer query visits j row ∧
      ∀ above ∈ (listed.take (j + 1)).flatten, requestKey row < requestKey above)
  /-- a row that matches at every request is listed -/
  all : ending = .complete → ∀ k, (∀ j < pages.length, ∃ row,
    MatchesAt texts consumer query visits j row ∧ requestKey row = k) →
      ∃ row ∈ listed.flatten, requestKey row = k
  /-- only the window refuses a request -/
  refusal : ∀ failure, ending = .refused failure →
    windowAt texts query visits pages.length = .error failure

end Following

/-! ## The keys of the ledger's rows -/

theorem formatInstant_ne_empty (t : Instant) : formatInstant t ≠ "" := by
  intro h
  have hlist := String.toList_eq_nil_iff.2 h
  rw [formatInstant, String.toList_ofList, tsText] at hlist
  exact absurd (List.append_eq_nil_iff.1 hlist).2 (List.cons_ne_nil _ _)

namespace RequestTable

variable (table : RequestTable)

theorem keys : (table.rows.map requestKey).Nodup := by
  apply List.Nodup.of_map fun k => (ofLex k).2
  rw [List.map_map]
  exact table.ids

/-- The cursor of a row is accepted. -/
theorem verifyCursor_row {row : UsageRow} (hrow : row ∈ table.rows) (sha256 : Bytes → Bytes)
    (key : Bytes) :
    verifyCursor sha256 key (signCursor sha256 key row.createdAt row.id) =
      .ok (row.createdAt, (row.id : Int)) := by
  obtain ⟨t, ht⟩ := table.stamped row hrow
  have hmin : MachineInt.i64Min ≤ (row.id : Int) :=
    Int.le_trans (by decide) (Int.natCast_nonneg row.id)
  exact verifyCursor_signCursor (ht ▸ formatInstant_ne_empty t) ⟨hmin, table.fits row hrow⟩

end RequestTable

/-- The place of a key in time, where its timestamp is one the ledger writes. -/
def requestRank (iso : Iso8601) (k : String ×ₗ Nat) : Nat :=
  match parseTs iso (ofLex k).1 with
  | .ok (some ts) => ts.nanos.toNat * 9223372036854775808 + (ofLex k).2
  | _ => 0

theorem requestRank_lt (iso : Iso8601) {table table' : RequestTable} {a b : UsageRow}
    (ha : a ∈ table.rows) (hb : b ∈ table'.rows) (h : requestKey a < requestKey b) :
    requestRank iso (requestKey a) < requestRank iso (requestKey b) := by
  obtain ⟨t, ht⟩ := table.stamped a ha
  obtain ⟨u, hu⟩ := table'.stamped b hb
  have hfits := table.fits a ha
  have hpos := t.inRange.1
  have hrank : ∀ {row : UsageRow} {s : Instant}, row.createdAt = formatInstant s →
      requestRank iso (requestKey row) = s.nanos.toNat * 9223372036854775808 + row.id := by
    intro row s hs
    simp only [requestRank, requestKey, ofLex_toLex, hs, parseTs_formatInstant, Instant.nanos_utc]
  rw [hrank ht, hrank hu]
  unfold i64Max at hfits
  rw [requestKey, requestKey, Prod.Lex.toLex_lt_toLex, ht, hu, formatInstant_lt_iff] at h
  rcases h with hlt | ⟨heq, hlt⟩
  · omega
  · rw [formatInstant_injective heq]
    exact Nat.add_lt_add_left hlt _

/-! ## A request is a keyset page -/

section Answer

variable (sha256 : Bytes → Bytes) (key : Bytes) (texts : Texts) (consumer : ConsumerContext)
  (query : DashboardQuery) (visits : Nat → Visit)

/-- The rows of a request and which of them it asks for: none where its window is refused. -/
def requestAt (j : Nat) : Keyset.Request UsageRow :=
  match windowAt texts query visits j with
  | .ok window => requestOf (requestFilter consumer query window) (visits j).table.rows
  | .error _ => ⟨[], fun _ => false⟩

/-- The cursor of a key. -/
def cursorOf (k : String ×ₗ Nat) : String := signCursor sha256 key (ofLex k).1 (ofLex k).2

/-- A keyset page, as it is answered. -/
def answered (page : Keyset.Page UsageRow (String ×ₗ Nat)) : RequestsResponse where
  data := page.items.map requestItem
  nextCursor := page.next.map (cursorOf sha256 key)

/-- A cursor that the database signed. -/
def Issued (after : Option (String ×ₗ Nat)) : Prop :=
  ∀ c ∈ after, ∃ table : RequestTable, ∃ row ∈ table.rows, requestKey row = c

variable {sha256 key texts consumer query visits}

theorem pageLimit_pos : 0 < pageLimit query := Nat.lt_of_lt_of_le Nat.one_pos (Nat.le_max_left _ _)

theorem requestAt_keys (j : Nat) :
    ((requestAt texts consumer query visits j).rows.map requestKey).Nodup := by
  unfold requestAt
  split
  · exact (visits j).table.keys
  · exact List.nodup_nil

theorem matchesAt_iff {j : Nat} {row : UsageRow} : MatchesAt texts consumer query visits j row ↔
    row ∈ (requestAt texts consumer query visits j).rows ∧
      (requestAt texts consumer query visits j).wants row = true := by
  unfold MatchesAt requestAt
  split
  · rename_i window hwindow
    rw [hwindow]
    simp [requestOf]
  · rename_i failure hfailure
    rw [hfailure]
    simp

/-- A request with a signed cursor is answered with a keyset page. -/
theorem answerAt_of_window {j : Nat} {window : TimeWindow}
    (hwindow : windowAt texts query visits j = .ok window) {after : Option (String ×ₗ Nat)}
    (hafter : Issued after) :
    answerAt sha256 key texts consumer query visits j (after.map (cursorOf sha256 key)) =
      .ok (answered sha256 key
        ((requestAt texts consumer query visits j).ask requestKey (pageLimit query) after)) := by
  have hcursor : queryCursor sha256 key { query with cursor := after.map (cursorOf sha256 key) } =
      .ok ((after.map ofLex).map fun c => (c.1, (c.2 : Int))) := by
    cases after with
    | none => rfl
    | some c =>
      obtain ⟨table, row, hrow, rfl⟩ := hafter c rfl
      rw [queryCursor]
      exact congrArg (Except.map some) (table.verifyCursor_row hrow sha256 key)
  have hrequest : requestAt texts consumer query visits j =
      requestOf (requestFilter consumer query window) (visits j).table.rows := by
    rw [requestAt, hwindow]
  have hpage := requestsPage_eq (requestFilter consumer query window) sha256 key (after.map ofLex)
    (pageLimit query) (visits j).table.rows
  have htoLex : (after.map ofLex).map toLex = after := by cases after <;> rfl
  rw [htoLex, ← hrequest] at hpage
  have hresolve : TimeWindow.resolve texts (visits j).now (visits j).retentionDays
      { query with cursor := after.map (cursorOf sha256 key) } = .ok window := hwindow
  rw [answerAt, getRequests, hresolve, Result.ok_bind, hcursor, Result.ok_bind]
  exact hpage

/-- A request whose window is refused is refused. -/
theorem answerAt_of_refused {j : Nat} {failure : Failure}
    (hwindow : windowAt texts query visits j = .error failure) (cursor : Option String) :
    answerAt sha256 key texts consumer query visits j cursor = .error failure := by
  have hresolve : TimeWindow.resolve texts (visits j).now (visits j).retentionDays
      { query with cursor } = .error failure := hwindow
  rw [answerAt, getRequests, hresolve, Result.error_bind]

theorem ask_of_refused {j : Nat} {failure : Failure}
    (hwindow : windowAt texts query visits j = .error failure) (limit : Nat)
    (after : Option (String ×ₗ Nat)) :
    (requestAt texts consumer query visits j).ask requestKey limit after = ⟨[], none⟩ := by
  rw [requestAt, hwindow]
  exact page_of_le (Nat.zero_le limit)

/-- A page's cursor is one that the database signed. -/
theorem issued_next {j : Nat} {after : Option (String ×ₗ Nat)} {c : String ×ₗ Nat}
    (hnext : ((requestAt texts consumer query visits j).ask requestKey (pageLimit query) after).next =
      some c) : Issued (some c) := by
  obtain ⟨⟨row, hrow, rfl⟩, -⟩ := (ask_spec pageLimit_pos (requestAt_keys j)).more c hnext
  intro c' hc'
  obtain ⟨hmem, hwants, -⟩ := mem_wanted.1 ((ask_spec pageLimit_pos (requestAt_keys j)).mem row hrow)
  exact ⟨(visits j).table, row, (matchesAt_iff.2 ⟨hmem, hwants⟩).1, Option.some.inj hc'⟩

end Answer

/-! ## A paging is a keyset walk -/

/-- What stands for a request that is refused. -/
def Ending.unread : Ending → List (List UsageRow)
  | .complete => []
  | .refused _ => [[]]

section Walk

variable {sha256 : Bytes → Bytes} {key : Bytes} {texts : Texts} {consumer : ConsumerContext}
  {query : DashboardQuery} {visits : Nat → Visit} {j : Nat} {cursor : Option String}
  {pages : List RequestsResponse} {ending : Ending}

/-- What a paging says of the walk it is. -/
structure Follows (sha256 : Bytes → Bytes) (key : Bytes) (texts : Texts) (consumer : ConsumerContext)
    (query : DashboardQuery) (visits : Nat → Visit) (j : Nat) (after : Option (String ×ₗ Nat))
    (pages : List RequestsResponse) (ending : Ending) (listed : List (List UsageRow)) : Prop where
  data : pages.map RequestsResponse.data = listed.map (List.map requestItem)
  walk : Walk requestKey (pageLimit query) (requestAt texts consumer query visits) j after
    (listed ++ ending.unread)
  cursors : ∀ i page, pages[i]? = some page →
    (page.nextCursor ≠ none ↔ i + 1 < (listed ++ ending.unread).length)
  refusal : ∀ failure, ending = .refused failure →
    windowAt texts query visits (j + pages.length) = .error failure

theorem Paging.follows (h : Paging sha256 key texts consumer query visits j cursor pages ending)
    {after : Option (String ×ₗ Nat)} (hcursor : cursor = after.map (cursorOf sha256 key))
    (hissued : Issued after) :
    ∃ listed, Follows sha256 key texts consumer query visits j after pages ending listed := by
  induction h generalizing after with
  | @last j cursor page hpage hnone =>
    subst hcursor
    cases hwindow : windowAt texts query visits j with
    | error failure =>
      rw [answerAt_of_refused hwindow] at hpage
      cases hpage
    | ok window =>
      rw [answerAt_of_window hwindow hissued] at hpage
      obtain rfl := Except.ok.inj hpage
      refine ⟨[_], rfl, .last (Option.map_eq_none_iff.1 hnone), ?_, nofun⟩
      intro i page' hpage'
      cases i with
      | zero =>
        obtain rfl := Option.some.inj hpage'
        exact iff_of_false (not_not.2 hnone) (lt_irrefl 1)
      | succ i => cases hpage'
  | @next j cursor page following pages ending hpage hsome _ ih =>
    subst hcursor
    cases hwindow : windowAt texts query visits j with
    | error failure =>
      rw [answerAt_of_refused hwindow] at hpage
      cases hpage
    | ok window =>
      rw [answerAt_of_window hwindow hissued] at hpage
      obtain rfl := Except.ok.inj hpage
      obtain ⟨c, hnext, rfl⟩ := Option.map_eq_some_iff.1 hsome
      obtain ⟨listed, hlisted⟩ := @ih (some c) rfl (issued_next hnext)
      refine ⟨_ :: listed, ?_, .next hnext hlisted.walk, ?_, ?_⟩
      · rw [List.map_cons, List.map_cons, hlisted.data]
        rfl
      · intro i page' hpage'
        cases i with
        | zero =>
          obtain rfl := Option.some.inj hpage'
          refine iff_of_true ?_ (Nat.succ_lt_succ hlisted.walk.length_pos)
          rw [hsome]
          exact Option.some_ne_none _
        | succ i =>
          rw [hlisted.cursors i page' hpage', List.cons_append, List.length_cons,
            Nat.add_lt_add_iff_right]
      · intro failure hfailure
        rw [List.length_cons, ← Nat.add_assoc, Nat.add_right_comm]
        exact hlisted.refusal failure hfailure
  | @refused j cursor failure hfailure =>
    subst hcursor
    cases hwindow : windowAt texts query visits j with
    | ok window =>
      rw [answerAt_of_window hwindow hissued] at hfailure
      cases hfailure
    | error failure' =>
      rw [answerAt_of_refused hwindow] at hfailure
      obtain rfl := Except.error.inj hfailure
      have hask := @ask_of_refused texts consumer query visits j failure' hwindow (pageLimit query) after
      have hwalk := @Walk.last _ _ _ requestKey (pageLimit query)
        (requestAt texts consumer query visits) j after (by rw [hask])
      rw [hask] at hwalk
      refine ⟨[], rfl, hwalk, nofun, ?_⟩
      rintro _ ⟨⟩
      exact hwindow

/-- The pages of a keyset walk are those of a paging, up to a request that is refused. -/
theorem paging_of_walk {after : Option (String ×ₗ Nat)} {walked : List (List UsageRow)}
    (h : Walk requestKey (pageLimit query) (requestAt texts consumer query visits) j after walked)
    (hissued : Issued after) :
    ∃ pages ending, Paging sha256 key texts consumer query visits j
      (after.map (cursorOf sha256 key)) pages ending := by
  induction h with
  | @last j after hlast =>
    cases hwindow : windowAt texts query visits j with
    | error failure => exact ⟨[], _, .refused (answerAt_of_refused hwindow _)⟩
    | ok window =>
      refine ⟨[_], _, .last (answerAt_of_window hwindow hissued) ?_⟩
      rw [answered, hlast]
      rfl
  | @next j after c walked hnext _ ih =>
    cases hwindow : windowAt texts query visits j with
    | error failure => exact ⟨[], _, .refused (answerAt_of_refused hwindow _)⟩
    | ok window =>
      obtain ⟨pages, ending, hpaging⟩ := ih (issued_next hnext)
      refine ⟨_ :: pages, ending, .next (answerAt_of_window hwindow hissued) ?_ hpaging⟩
      rw [answered, hnext]
      rfl

theorem issued_none : Issued none := fun _ hc => nomatch hc

/-- What the pages of a paging list. -/
theorem Paging.listed (h : Paging sha256 key texts consumer query visits 0 none pages ending) :
    ∃ listed, Listed texts consumer query visits pages ending listed := by
  obtain ⟨listed, hfollows⟩ := @Paging.follows _ _ _ _ _ _ _ _ _ _ h none rfl issued_none
  have hwalk := hfollows.walk
  have hlength : pages.length = listed.length := by
    simpa using congrArg List.length hfollows.data
  have hmem : ∀ {rows}, rows ∈ listed → rows ∈ listed ++ ending.unread :=
    fun hrows => List.mem_append_left _ hrows
  have hunread : (listed ++ ending.unread).flatten = listed.flatten := by
    cases ending <;> simp [Ending.unread]
  obtain ⟨hdescends, -⟩ := hwalk.descends pageLimit_pos requestAt_keys
  rw [hunread] at hdescends
  refine ⟨listed, hfollows.data, ?_, hdescends, ?_, ?_, ?_, ?_⟩
  · exact fun rows hrows => hwalk.pages_length pageLimit_pos requestAt_keys rows (hmem hrows)
  · intro j rows hrows row hrow
    have hget : (listed ++ ending.unread)[j]? = some rows := by
      rw [List.getElem?_append_left (List.getElem?_eq_some_iff.1 hrows).1]
      exact hrows
    have hasked := hwalk.asked pageLimit_pos requestAt_keys hget row hrow
    rw [Nat.zero_add] at hasked
    exact matchesAt_iff.2 hasked
  · intro j page hpage
    have hj : j < listed.length := hlength ▸ (List.getElem?_eq_some_iff.1 hpage).1
    have hmore := @Walk.more _ _ _ _ _ _ _ _ _ pageLimit_pos requestAt_keys hwalk j
      (Nat.lt_of_lt_of_le hj (by simp))
    rw [hfollows.cursors j page hpage, ← hmore, Nat.zero_add,
      List.take_append_of_le_length (Nat.succ_le_of_lt hj)]
    simp only [matchesAt_iff, and_assoc, Option.mem_def, reduceCtorEq, false_imp_iff, implies_true,
      true_and]
  · rintro rfl k hthroughout
    rw [← hunread]
    refine hwalk.lists pageLimit_pos requestAt_keys (fun c hc => nomatch hc) fun j hj => ?_
    have hj' : j < pages.length := by
      simpa [Ending.unread, hlength] using hj
    obtain ⟨row, hmatches, hkey⟩ := hthroughout j hj'
    obtain ⟨hrow, hwants⟩ := matchesAt_iff.1 hmatches
    exact ⟨row, by simpa using hrow, hkey, by simpa using hwants⟩
  · intro failure hfailure
    have hrefusal := hfollows.refusal failure hfailure
    rwa [Nat.zero_add] at hrefusal

/-- Following `next_cursor` ends. -/
theorem exists_paging : ∃ pages ending,
    Paging sha256 key texts consumer query visits 0 none pages ending := by
  have hrow : ∀ j, ∀ row ∈ (requestAt texts consumer query visits j).rows,
      row ∈ (visits j).table.rows := by
    intro j row
    unfold requestAt
    split
    · exact id
    · exact fun h => nomatch h
  obtain ⟨walked, hwalk⟩ := @exists_walk _ _ _ requestKey (pageLimit query)
    (requestAt texts consumer query visits) 0 pageLimit_pos requestAt_keys (requestRank texts.iso)
    fun j j' a ha b hb hlt => requestRank_lt texts.iso (hrow j a ha) (hrow j' b hb) hlt
  exact paging_of_walk hwalk issued_none

end Walk

/-! ## Refusals -/

/-- An answer that fails only with a bad request. -/
def Judged {α : Type} (answer : Answer α) : Prop :=
  ∀ failure, answer = .error failure → ∃ message, failure = .error (.badRequest message)

theorem Judged.bind {α β : Type} {answer : Answer α} {f : α → Answer β} (h : Judged answer)
    (hf : ∀ a, Judged (f a)) : Judged (answer >>= f) := by
  intro failure hfailure
  rcases Result.bind_error_iff.1 hfailure with hfailure | ⟨a, -, hfailure⟩
  · exact h failure hfailure
  · exact hf a failure hfailure

theorem judged_refuse {α : Type} (message : String) : Judged (refuse message : Answer α) := by
  intro failure hfailure
  exact ⟨message, (Except.error.inj hfailure).symm⟩

theorem judged_ok {α : Type} (a : α) : Judged (.ok a : Answer α) := fun _ hfailure => nomatch hfailure

theorem judged_orMalformed {α : Type} (o : Option α) : Judged (orMalformed o) := by
  cases o with
  | none => exact judged_refuse _
  | some a => exact judged_ok a

theorem judged_verifyCursor (sha256 : Bytes → Bytes) (key : Bytes) (raw : String) :
    Judged (verifyCursor sha256 key raw) := by
  have hread : ∀ payload, Judged (readPayload payload) := by
    intro payload
    refine (judged_orMalformed _).bind fun text => (judged_orMalformed _).bind fun parts => ?_
    refine (judged_orMalformed _).bind fun id => ?_
    split
    · exact judged_refuse _
    · exact judged_ok _
  refine (judged_orMalformed _).bind fun parts => (judged_orMalformed _).bind fun signature => ?_
  refine (judged_orMalformed _).bind fun payload => ?_
  split
  · exact hread payload
  · exact judged_refuse _

section Refusals

variable {sha256 : Bytes → Bytes} {key : Bytes} {texts : Texts} {now : Instant}
  {retentionDays : UInt32} {consumer : ConsumerContext} {query : DashboardQuery}
  {visits : Nat → Visit}

/-- A cursor that was not signed is refused: as a bad request, unless the window is refused first. -/
theorem getRequests_unsigned {signed : Set (String × Nat)} {raw : String}
    (hunforged : Unforged sha256 key signed raw)
    (hunsigned : ∀ row ∈ signed, raw ≠ signCursor sha256 key row.1 row.2) (records : List UsageRow) :
    ∃ failure, getRequests sha256 key texts now retentionDays consumer
        { query with cursor := some raw } records = .error failure ∧
      ∀ window, TimeWindow.resolve texts now retentionDays query = .ok window →
        ∃ message, failure = .error (.badRequest message) := by
  cases hverify : verifyCursor sha256 key raw with
  | ok row =>
    obtain ⟨row, hrow, hsigned⟩ := verifyCursor_ok_signed hunforged hverify
    exact absurd hsigned (hunsigned row hrow)
  | error failure =>
    have hcursor : queryCursor sha256 key { query with cursor := some raw } = .error failure := by
      exact congrArg (Except.map some) hverify
    have hresolve : TimeWindow.resolve texts now retentionDays { query with cursor := some raw } =
        TimeWindow.resolve texts now retentionDays query := rfl
    rw [getRequests, hresolve]
    cases TimeWindow.resolve texts now retentionDays query with
    | error failure' => exact ⟨failure', rfl, fun _ h => nomatch h⟩
    | ok window =>
      refine ⟨failure, ?_, fun _ _ => judged_verifyCursor sha256 key raw failure hverify⟩
      rw [Result.ok_bind, hcursor, Result.error_bind]

/-- Why a custom window that was granted is refused later: its start has left the retention window, or
the arithmetic of the calendar panics. -/
def Outlived (texts : Texts) (query : DashboardQuery) (visit : Visit) (failure : Failure) : Prop :=
  (∃ panic, failure = .panicked panic) ∨
    ∃ start finish earliest text, customRange texts query = .ok (start, finish) ∧
      daysAgo visit.now (Retention.keptDays visit.retentionDays) = .ok earliest ∧ start < earliest ∧
      failure = .error (.badRequest (predates visit.retentionDays text))

theorem orPanic_error {α : Type} {result : Except Panic α} {failure : Failure}
    (h : orPanic result = .error failure) : ∃ panic, failure = .panicked panic := by
  cases result with
  | ok a => cases h
  | error panic => exact ⟨panic, (Except.error.inj h).symm⟩

theorem windowOf_error {start finish : OffsetDateTime} {failure : Failure}
    (h : windowOf start finish = .error failure) : ∃ panic, failure = .panicked panic := by
  rcases Result.bind_error_iff.1 h with h | ⟨_, -, h⟩
  · exact orPanic_error h
  rcases Result.bind_error_iff.1 h with h | ⟨_, -, h⟩
  · exact orPanic_error h
  rcases Result.bind_error_iff.1 h with h | ⟨_, -, h⟩
  · exact orPanic_error h
  rcases Result.bind_error_iff.1 h with h | ⟨_, -, h⟩
  · exact orPanic_error h
  · cases h

theorem daysAgo_error {days : Int} {failure : Failure} (h : daysAgo now days = .error failure) :
    ∃ panic, failure = .panicked panic := by
  rcases Result.bind_error_iff.1 h with h | ⟨_, -, h⟩
  · exact orPanic_error h
  · exact orPanic_error h

/-- A custom window that one request was granted is refused to another only as outlived. -/
theorem outlived_of_refused (hcustom : query.range = "custom") {i j : Nat} {window : TimeWindow}
    {failure : Failure} (hgranted : windowAt texts query visits i = .ok window)
    (hrefused : windowAt texts query visits j = .error failure) :
    Outlived texts query (visits j) failure := by
  have hbounds : ∀ now, rangeBounds texts now query = customRange texts query := by
    intro now
    rw [rangeBounds, if_pos hcustom]
  unfold windowAt TimeWindow.resolve at hgranted hrefused
  rw [hbounds] at hgranted hrefused
  obtain ⟨⟨start, finish⟩, hrange, -⟩ := Result.bind_ok_iff.1 hgranted
  rw [hrange, Result.ok_bind] at hrefused
  rcases Result.bind_error_iff.1 hrefused with hearliest | ⟨earliest, hearliest, hrefused⟩
  · exact .inl (daysAgo_error hearliest)
  split at hrefused
  · rename_i hlt
    rcases Result.bind_error_iff.1 hrefused with htext | ⟨text, -, hpredates⟩
    · exact .inl (orPanic_error htext)
    · exact .inr ⟨start, finish, earliest, text, hrange, hearliest, hlt,
        (Except.error.inj hpredates).symm⟩
  · exact .inl (windowOf_error hrefused)

/-- A paging with a page was granted its window at the first request. -/
theorem Paging.granted {pages : List RequestsResponse} {ending : Ending}
    (h : Paging sha256 key texts consumer query visits 0 none pages ending) (hpages : pages ≠ []) :
    ∃ window, windowAt texts query visits 0 = .ok window := by
  cases hwindow : windowAt texts query visits 0 with
  | ok window => exact ⟨window, rfl⟩
  | error failure =>
    have hanswer := fun cursor => @answerAt_of_refused sha256 key texts consumer query visits 0 failure
      hwindow cursor
    cases h with
    | last hpage _ => rw [hanswer] at hpage; cases hpage
    | next hpage _ _ => rw [hanswer] at hpage; cases hpage
    | refused _ => exact absurd rfl hpages

end Refusals

/-- Following `next_cursor` ends, and the pages up to its end list no row twice, the newest first; each
row that matches at every request is listed unless a request is refused, and a custom window that was
granted is refused only once it is outlived.  A cursor that was not signed is never read. -/
theorem paging_lists_each_match_once (sha256 : Bytes → Bytes) (key : Bytes) (texts : Texts)
    (consumer : ConsumerContext) (query : DashboardQuery) (visits : Nat → Visit) :
    (∃ pages ending, Paging sha256 key texts consumer query visits 0 none pages ending) ∧
      (∀ pages ending, Paging sha256 key texts consumer query visits 0 none pages ending →
        ∃ listed, Listed texts consumer query visits pages ending listed) ∧
      (query.range = "custom" → ∀ pages failure,
        Paging sha256 key texts consumer query visits 0 none pages (.refused failure) → pages ≠ [] →
          Outlived texts query (visits pages.length) failure) ∧
      ∀ j (signed : Set (String × Nat)) (raw : String), Unforged sha256 key signed raw →
        (∀ row ∈ signed, raw ≠ signCursor sha256 key row.1 row.2) →
        ∃ failure, answerAt sha256 key texts consumer query visits j (some raw) = .error failure ∧
          ∀ window, windowAt texts query visits j = .ok window →
            ∃ message, failure = .error (.badRequest message) := by
  refine ⟨exists_paging, fun pages ending h => h.listed, ?_, ?_⟩
  · intro hcustom pages failure h hpages
    obtain ⟨window, hgranted⟩ := h.granted hpages
    obtain ⟨listed, hlisted⟩ := h.listed
    exact outlived_of_refused hcustom hgranted (hlisted.refusal failure rfl)
  · intro j signed raw hunforged hunsigned
    exact getRequests_unsigned hunforged hunsigned _

/-! ## A window that is outlived -/

namespace Sample

/-- Noon of 2026-09-27, and so many seconds later. -/
def secondsPastNoon (seconds : Fin 60) : Instant :=
  ⟨1790510400000000000 + seconds.val * 1000000000, by unfold maxDay nanosPerDay; omega⟩

def listedRow (id : Nat) : UsageRow where
  id := id
  requestId := "r" ++ toString id
  createdAt := formatInstant (secondsPastNoon 0)
  consumerId := "acme"
  model := "m1"
  endpoint := .chatCompletions
  streaming := false
  httpStatus := some 200
  requestStatus := .completed
  instanceId := none
  inputTokens := none
  outputTokens := none
  cachedTokens := none
  ttftMs := none
  durationMs := 7
  usageStatus := .unavailable
  errorMessage := none
  errorBody := none
  inputPriceSnapshot := none
  cachedInputPriceSnapshot := none
  outputPriceSnapshot := none

def twoRows : RequestTable where
  rows := [listedRow 1, listedRow 2]
  ids := by decide
  fits := by decide
  stamped := by
    intro row hrow
    rcases List.mem_pair.1 hrow with rfl | rfl
    · exact ⟨_, rfl⟩
    · exact ⟨_, rfl⟩

/-- Two requests a second apart, with a retention of a day. -/
def aSecondApart (j : Nat) : Visit where
  now := if j = 0 then secondsPastNoon 1 else secondsPastNoon 2
  retentionDays := 1
  table := twoRows

def texts : Texts where
  quoted := fun text => text
  iso := PartnerPortal.Sample.iso

/-- A day up to now, one row a page. -/
def aDay : DashboardQuery where
  range := "custom"
  start := some "2026-09-26T12:00:01.000000000Z"
  finish := some "2026-09-27T12:00:01.000000000Z"
  limit := 1

end Sample

/-- The second page of a window that starts where the retention does is refused, whatever the hash. -/
theorem second_page_outlived : ¬ ∃ sha256 key pages,
    Paging sha256 key Sample.texts .manager Sample.aDay Sample.aSecondApart 0 none pages .complete := by
  rintro ⟨sha256, key, pages, h⟩
  have hgranted : (windowAt Sample.texts Sample.aDay Sample.aSecondApart 0).toOption.isSome = true := by
    decide +kernel
  have hmore : ((requestAt Sample.texts .manager Sample.aDay Sample.aSecondApart 0).ask requestKey
      (pageLimit Sample.aDay) none).next.isSome = true := by decide +kernel
  have hrefused : (windowAt Sample.texts Sample.aDay Sample.aSecondApart 1).toOption.isSome = false := by
    decide +kernel
  cases hsecond : windowAt Sample.texts Sample.aDay Sample.aSecondApart 1 with
  | ok window =>
    rw [hsecond] at hrefused
    cases hrefused
  | error failure =>
    have hanswer := fun cursor => @answerAt_of_refused sha256 key Sample.texts .manager Sample.aDay
      Sample.aSecondApart 1 failure hsecond cursor
    cases hfirst : windowAt Sample.texts Sample.aDay Sample.aSecondApart 0 with
    | error failure' =>
      rw [hfirst] at hgranted
      cases hgranted
    | ok window =>
      have hpage := @answerAt_of_window sha256 key Sample.texts .manager Sample.aDay Sample.aSecondApart 0
        window hfirst none issued_none
      cases h with
      | last hlast hnone =>
        -- the first page has a cursor
        obtain rfl := Except.ok.inj (hpage.symm.trans hlast)
        simp only [answered, Option.map_eq_none_iff] at hnone
        rw [hnone] at hmore
        cases hmore
      | next _ _ hrest =>
        cases hrest with
        | last hlast _ => cases (hanswer _).symm.trans hlast
        | next hnext _ _ => cases (hanswer _).symm.trans hnext

end PartnerPortal.Dashboard

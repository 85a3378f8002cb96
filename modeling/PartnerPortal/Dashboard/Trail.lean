import PartnerPortal.Dashboard.Paging
import PartnerPortal.Dashboard.RequestList

/-!
# The cursors of the request table

The store keeps the cursors of the pages behind the first one on a stack, and asks for the page on top
of it.  It makes no cursor of its own: each was handed out by the server with the page below it, for
the same selection.

Results:
- `Trail.dropLast` — the way back from a page is the way to the page before it;
- `Trailed.step` — what one step keeps of the pages shown, sent and asked for;
- `getRequests_of_signed` — a request with the cursor of a stored row is answered;
- `requests_follow_answers` — every request follows the pages the server has answered with, and is not
  refused for its cursor.
-/

namespace PartnerPortal.Dashboard

/-! ## The way to a page -/

/-- An answer with that cursor came to a request for the page the stack ends at. -/
def LeadsTo (settled : List (Flight × Option RequestsResponse)) (signature : String)
    (stack : List String) (cursor : String) : Prop :=
  ∃ flight answer, (flight, some answer) ∈ settled ∧ flight.filters.requestSignature = signature ∧
    flight.page.cursor = stack.getLast? ∧ answer.nextCursor = some cursor

/-- The way from the first page to the one a stack ends at, over answers for one selection. -/
inductive Trail (settled : List (Flight × Option RequestsResponse)) (signature : String) :
    List String → Prop
  | first : Trail settled signature []
  | next {stack : List String} {cursor : String} :
      Trail settled signature stack → LeadsTo settled signature stack cursor →
      Trail settled signature (stack ++ [cursor])

/-- A request for the page its stack ends at. -/
structure RequestPage.Led (page : RequestPage) (settled : List (Flight × Option RequestsResponse))
    (signature : String) : Prop where
  cursor : page.cursor = page.stack.getLast?
  trail : Trail settled signature page.stack

section Trails

variable {settled settled' : List (Flight × Option RequestsResponse)} {signature cursor : String}
  {stack : List String}

theorem LeadsTo.mono (h : LeadsTo settled signature stack cursor) (hsub : settled ⊆ settled') :
    LeadsTo settled' signature stack cursor := by
  obtain ⟨flight, answer, hmem, hrest⟩ := h
  exact ⟨flight, answer, hsub hmem, hrest⟩

theorem Trail.mono (h : Trail settled signature stack) (hsub : settled ⊆ settled') :
    Trail settled' signature stack := by
  induction h with
  | first => exact .first
  | next _ hleads ih => exact .next ih (hleads.mono hsub)

theorem Trail.dropLast (h : Trail settled signature stack) : Trail settled signature stack.dropLast := by
  cases h with
  | first => exact .first
  | next htrail _ =>
    rw [List.dropLast_concat]
    exact htrail

/-- The page a way ends at came with an answer. -/
theorem Trail.leadsTo (h : Trail settled signature stack) (hlast : stack.getLast? = some cursor) :
    ∃ below, LeadsTo settled signature below cursor := by
  cases h with
  | first => cases hlast
  | next _ hleads =>
    obtain rfl := Option.some.inj (List.getLast?_concat.symm.trans hlast)
    exact ⟨_, hleads⟩

theorem RequestPage.Led.mono {page : RequestPage} (h : page.Led settled signature)
    (hsub : settled ⊆ settled') : page.Led settled' signature :=
  ⟨h.cursor, h.trail.mono hsub⟩

end Trails

/-! ## What the store keeps -/

namespace RequestList

variable {t next : RequestList} {page : RequestPage} {key : String}

/-- The selection the table is for. -/
def signature (t : RequestList) : String := t.filters.requestSignature

/-- What is shown, sent or waits is on a way the server has led. -/
structure Trailed (key : String) (t : RequestList) : Prop where
  credential : t.credential = some key
  shown : Trail t.settled t.signature t.cursorStack
  following : ∀ cursor, t.nextCursor = some cursor →
    LeadsTo t.settled t.signature t.cursorStack cursor
  waiting : ∀ page, t.pendingPage = some page → page.Led t.settled t.signature
  /-- nothing waits for nothing -/
  idle : t.flight = none → t.pendingPage = none
  flying : ∀ flight, t.flight = some flight → flight ∈ t.sent
  sent : ∀ flight ∈ t.sent,
    flight.page.Led t.settled flight.filters.requestSignature ∧ flight.credential = some key

theorem Trailed.send (h : t.Trailed key) (hpending : t.pendingPage = none)
    (hpage : page.Led t.settled t.signature) : (t.send page).Trailed key where
  credential := h.credential
  shown := h.shown
  following := h.following
  waiting := h.waiting
  idle := fun _ => hpending
  flying := by
    rintro _ ⟨⟩
    exact List.mem_append_right _ (List.mem_singleton_self _)
  sent := by
    intro flight hflight
    rcases List.mem_append.1 hflight with hflight | hflight
    · exact h.sent flight hflight
    · rw [List.mem_singleton.1 hflight]
      exact ⟨hpage, h.credential⟩

theorem fetchRequests_of_flight {flight : Flight} (h : t.flight = some flight) (page : RequestPage) :
    t.fetchRequests page = { t with pendingPage := some page, asked := t.asked ++ [page] } := by
  unfold fetchRequests
  rw [h]

theorem fetchRequests_of_none (h : t.flight = none) (page : RequestPage) :
    t.fetchRequests page = send { t with asked := t.asked ++ [page] } page := by
  unfold fetchRequests
  rw [h]

theorem Trailed.fetchRequests (h : t.Trailed key) (hpage : page.Led t.settled t.signature) :
    (t.fetchRequests page).Trailed key := by
  cases hflight : t.flight with
  | some flight =>
    rw [fetchRequests_of_flight hflight]
    refine ⟨h.credential, h.shown, h.following, ?_, fun hnone => ?_, h.flying, h.sent⟩
    · rintro _ ⟨⟩
      exact hpage
    · cases hflight.symm.trans hnone
  | none =>
    rw [fetchRequests_of_none hflight]
    refine Trailed.send ?_ (h.idle hflight) hpage
    exact ⟨h.credential, h.shown, h.following, h.waiting, h.idle, h.flying, h.sent⟩

/-- A page that waits is one of the former selection; the first page takes its place. -/
theorem Trailed.reset (h : t.Trailed key) (filters : Filters) :
    ({ t with filters := filters }.resetAndFetchRequests).Trailed key := by
  have hfirst : ∀ signature, (RequestPage.mk none [] false).Led t.settled signature :=
    fun _ => ⟨rfl, .first⟩
  unfold resetAndFetchRequests
  rcases Option.eq_none_or_eq_some t.flight with hnone | ⟨flight, hflight⟩
  · have hpending := h.idle hnone
    rw [fetchRequests_of_none]
    · refine Trailed.send ?_ hpending (hfirst _)
      refine ⟨h.credential, .first, nofun, fun page hpage => ?_, h.idle, h.flying, h.sent⟩
      cases hpending.symm.trans hpage
    · exact hnone
  · rw [fetchRequests_of_flight]
    · refine ⟨h.credential, .first, nofun, ?_, fun hnone => ?_, h.flying, h.sent⟩
      · rintro _ ⟨⟩
        exact hfirst _
      · cases hflight.symm.trans hnone
    · exact hflight

/-- What waited is sent, or nothing did. -/
theorem Trailed.finish (h : t.Trailed key) : t.finish.Trailed key := by
  unfold RequestList.finish
  cases hpending : t.pendingPage with
  | some queued =>
    refine Trailed.send ?_ rfl (h.waiting queued hpending)
    exact ⟨h.credential, h.shown, h.following, nofun, fun _ => rfl, nofun, h.sent⟩
  | none => exact ⟨h.credential, h.shown, h.following, nofun, fun _ => rfl, nofun, h.sent⟩

/-- A request that is over makes no way shorter. -/
theorem Trailed.grow (h : t.Trailed key) {settled : List (Flight × Option RequestsResponse)}
    (hsub : t.settled ⊆ settled) : Trailed key { t with settled := settled } where
  credential := h.credential
  shown := h.shown.mono hsub
  following := fun cursor hcursor => (h.following cursor hcursor).mono hsub
  waiting := fun page hpage => (h.waiting page hpage).mono hsub
  idle := h.idle
  flying := h.flying
  sent := fun flight hflight => ⟨(h.sent flight hflight).1.mono hsub, (h.sent flight hflight).2⟩

/-- An answer that is applied brings the way of its request, and one page more. -/
theorem Trailed.apply (h : t.Trailed key) {flight : Flight} {answer : RequestsResponse}
    (hsent : flight ∈ t.sent) (hanswer : (flight, some answer) ∈ t.settled)
    (hsignature : flight.filters.requestSignature = t.signature) :
    (t.apply flight.page answer).Trailed key := by
  obtain ⟨hcursor, htrail⟩ := (h.sent flight hsent).1
  rw [hsignature] at htrail
  exact ⟨h.credential, htrail,
    fun cursor hnext => ⟨flight, answer, hanswer, hsignature, hcursor, hnext⟩,
    h.waiting, h.idle, h.flying, h.sent⟩

theorem Trailed.settle (h : t.Trailed key) {result : Option RequestsResponse}
    (hstep : t.settle result = some next) : next.Trailed key := by
  unfold RequestList.settle at hstep
  split at hstep
  · cases hstep
  rename_i flight hflight
  have hgrown := h.grow (List.subset_append_left t.settled [(flight, result)])
  dsimp only at hstep
  split at hstep
  · cases hstep
    exact hgrown.finish
  · rename_i answer
    split at hstep
    · cases hstep
      exact hgrown.finish
    · rename_i hfresh
      cases hstep
      have hsignature := not_not.1 (not_or.1 hfresh).2
      exact (hgrown.apply (h.flying flight hflight)
        (List.mem_append_right _ (List.mem_singleton_self _)) hsignature).finish

/-- One step of a signed-in visitor stays on the ways the server has led. -/
theorem Trailed.step (h : t.Trailed key) {event : RequestListEvent} (hsigned : event ≠ .signedOut)
    (hstep : t.step event = some next) : next.Trailed key := by
  have hfirst : ∀ {mergeFresh : Bool} {signature : String},
      (RequestPage.mk none [] mergeFresh).Led t.settled signature := ⟨rfl, .first⟩
  have hcurrent : (RequestPage.mk t.currentCursor t.cursorStack false).Led t.settled t.signature :=
    ⟨rfl, h.shown⟩
  cases event with
  | firstPage =>
    obtain ⟨-, rfl⟩ := visiting_eq_some.1 hstep
    exact h.fetchRequests hfirst
  | refreshed =>
    obtain ⟨-, rfl⟩ := visiting_eq_some.1 hstep
    exact h.fetchRequests hcurrent
  | previousPage =>
    obtain ⟨-, rfl⟩ := visiting_eq_some.1 hstep
    unfold RequestList.previousPage
    split
    · exact h.fetchRequests ⟨rfl, h.shown.dropLast⟩
    · exact h
  | nextPage =>
    obtain ⟨-, rfl⟩ := visiting_eq_some.1 hstep
    unfold RequestList.nextPage
    split
    · exact h
    · rename_i cursor hcursor
      split
      · exact h
      · exact h.fetchRequests ⟨List.getLast?_concat.symm, .next h.shown (h.following cursor hcursor)⟩
  | dataChanged =>
    obtain ⟨-, rfl⟩ := visiting_eq_some.1 hstep
    unfold RequestList.refreshFromDataChange
    split
    · exact h.fetchRequests hcurrent
    · exact h.fetchRequests hfirst
  | narrowed filters =>
    obtain ⟨-, rfl⟩ := visiting_eq_some.1 hstep
    unfold RequestList.narrow
    dsimp only
    split
    · exact h
    · exact h.reset _
  | settled result => exact h.settle hstep
  | signedOut => exact absurd rfl hsigned
  | signedIn key isManager =>
    simp [RequestList.step, RequestList.signIn, h.credential] at hstep

theorem start_trailed (filters : Filters) (key : String) : (start filters key).Trailed key where
  credential := rfl
  shown := .first
  following := nofun
  waiting := nofun
  idle := fun _ => rfl
  flying := nofun
  sent := nofun

theorem Trailed.run {events : List RequestListEvent} (h : t.Trailed key)
    (hsigned : ∀ event ∈ events, event ≠ .signedOut)
    (hrun : Duty.run RequestList.step t events = some next) : next.Trailed key :=
  Duty.run_keeps_of_forall (fun _ _ _ hsigned hstep h => h.step hsigned hstep) hsigned hrun h

end RequestList

/-! ## What the server makes of it -/

section Served

variable {sha256 : Bytes → Bytes} {key : Bytes} {texts : Texts}

/-- Each answer is the server's, to the request it came for, in whatever state the server then was. -/
def Served (sha256 : Bytes → Bytes) (key : Bytes) (texts : Texts)
    (settled : List (Flight × Option RequestsResponse)) : Prop :=
  ∀ flight answer, (flight, some answer) ∈ settled → ∃ (visit : Visit) (consumer : ConsumerContext),
    getRequests sha256 key texts visit.now visit.retentionDays consumer
      (flight.filters.query flight.page.cursor) visit.table.rows = .ok answer

/-- The cursor of an answer is that of a stored row. -/
theorem nextCursor_signed {now : Instant} {retentionDays : UInt32} {consumer : ConsumerContext}
    {query : DashboardQuery} {records : List UsageRow} {answer : RequestsResponse} {cursor : String}
    (h : getRequests sha256 key texts now retentionDays consumer query records = .ok answer)
    (hnext : answer.nextCursor = some cursor) :
    ∃ row ∈ records, cursor = signCursor sha256 key row.createdAt row.id := by
  obtain ⟨window, -, h⟩ := Result.bind_ok_iff.1 h
  obtain ⟨after, -, h⟩ := Result.bind_ok_iff.1 h
  unfold requestsPage at h
  split at h
  case h_2 => cases h
  rename_i rows bound hquery
  have hrows : ∀ row ∈ rows, row ∈ records := by
    intro row hrow
    unfold Prepared.query at hquery
    split at hquery
    · obtain ⟨rfl, -⟩ := Prod.mk.inj (Option.some.inj hquery)
      exact (List.mem_filter.1 hrow).1
    · cases hquery
  have hlimited : ∀ row ∈ Prepared.limited bound (Keyset.newestFirst requestKey rows), row ∈ rows := by
    intro row hrow
    unfold Prepared.limited at hrow
    split at hrow
    · exact Keyset.mem_newestFirst.1 hrow
    · exact Keyset.mem_newestFirst.1 (List.mem_of_mem_take hrow)
  dsimp only at h
  split at h
  · cases h
    obtain ⟨row, hlast, rfl⟩ := Option.map_eq_some_iff.1 hnext
    have htaken := List.mem_of_mem_take (List.mem_of_getLast? hlast)
    exact ⟨row, hrows row (hlimited row htaken), rfl⟩
  · cases h
    cases hnext

/-- Where the window is accepted, a request without a cursor or with that of a stored row is answered. -/
theorem getRequests_of_signed {visit : Visit} {consumer : ConsumerContext} {query : DashboardQuery}
    {window : TimeWindow}
    (hwindow : TimeWindow.resolve texts visit.now visit.retentionDays query = .ok window)
    (hcursor : ∀ cursor, query.cursor = some cursor → ∃ table : RequestTable, ∃ row ∈ table.rows,
      cursor = signCursor sha256 key row.createdAt row.id) :
    ∃ answer, getRequests sha256 key texts visit.now visit.retentionDays consumer query
      visit.table.rows = .ok answer := by
  have hanswer : ∀ after : Option (String ×ₗ Nat), Issued after →
      query.cursor = after.map (cursorOf sha256 key) →
      ∃ answer, getRequests sha256 key texts visit.now visit.retentionDays consumer query
        visit.table.rows = .ok answer := by
    intro after hissued heq
    have hpage := @answerAt_of_window sha256 key texts consumer query (fun _ => visit) 0 window hwindow
      after hissued
    rw [answerAt, ← heq] at hpage
    exact ⟨_, hpage⟩
  cases hquery : query.cursor with
  | none => exact hanswer none issued_none hquery
  | some cursor =>
    obtain ⟨table, row, hrow, rfl⟩ := hcursor cursor hquery
    refine hanswer (some (requestKey row)) ?_ hquery
    rintro _ ⟨⟩
    exact ⟨table, row, hrow, rfl⟩

/-- A page on a way the server has led to is one it answers, in whatever state it is. -/
theorem RequestPage.Led.answered {settled : List (Flight × Option RequestsResponse)}
    {signature : String} {page : RequestPage} (h : page.Led settled signature)
    (hserved : Served sha256 key texts settled) {filters : Filters} {visit : Visit}
    {consumer : ConsumerContext} {window : TimeWindow}
    (hwindow : TimeWindow.resolve texts visit.now visit.retentionDays (filters.query page.cursor) =
      .ok window) :
    ∃ answer, getRequests sha256 key texts visit.now visit.retentionDays consumer
      (filters.query page.cursor) visit.table.rows = .ok answer := by
  refine getRequests_of_signed hwindow fun cursor hquery => ?_
  have hpage : page.cursor = some cursor := (Option.filter_eq_some_iff.1 hquery).1
  obtain ⟨below, flight, answer, hsettled, -, -, hnext⟩ := h.trail.leadsTo (h.cursor.symm.trans hpage)
  obtain ⟨earlier, caller, hanswer⟩ := hserved flight answer hsettled
  obtain ⟨row, hrow, hsigned⟩ := nextCursor_signed hanswer hnext
  exact ⟨earlier.table, row, hrow, hsigned⟩

end Served

namespace RequestList

/-- In every order of clicks, invalidations, changes of the filters, answers and failures of a visitor
who stays signed in, each request goes out under the visitor's key for the page on top of its stack, and
each cursor on the stack came with an answer for the same selection to a request for the page below it.
If the answers are the server's, then the server answers the request too wherever it accepts the window. -/
theorem requests_follow_answers {t : RequestList} {filters : Filters} {key : String}
    {events : List RequestListEvent} (hsigned : ∀ event ∈ events, event ≠ .signedOut)
    (hrun : Duty.run step (start filters key) events = some t) {flight : Flight}
    (hflight : flight ∈ t.sent) :
    flight.credential = some key ∧ flight.page.cursor = flight.page.stack.getLast? ∧
      Trail t.settled flight.filters.requestSignature flight.page.stack ∧
      ∀ sha256 cursorKey texts, Served sha256 cursorKey texts t.settled →
        ∀ (visit : Visit) (consumer : ConsumerContext) (window : TimeWindow),
          TimeWindow.resolve texts visit.now visit.retentionDays
            (flight.filters.query flight.page.cursor) = .ok window →
          ∃ answer, getRequests sha256 cursorKey texts visit.now visit.retentionDays consumer
            (flight.filters.query flight.page.cursor) visit.table.rows = .ok answer := by
  obtain ⟨hled, hcredential⟩ := ((start_trailed filters key).run hsigned hrun).sent flight hflight
  exact ⟨hcredential, hled.cursor, hled.trail,
    fun _ _ _ hserved _ _ _ hwindow => hled.answered hserved hwindow⟩

end RequestList

namespace Sample

/-- What the server answers to the first page of two rows, one row a page. -/
def firstOfTwo : RequestsResponse :=
  answered (fun _ => []) [] ((requestAt texts .manager (Filters.query { pageSize := 1 } none)
    aSecondApart 0).ask requestKey 1 none)

def paged : List RequestListEvent := [.refreshed, .settled (some firstOfTwo), .nextPage]

def pagedList : RequestList :=
  (Duty.run RequestList.step (.start { pageSize := 1 } "pp_acme") paged).getD (.start {} "")

theorem pagedList_run :
    Duty.run RequestList.step (.start { pageSize := 1 } "pp_acme") paged = some pagedList := by
  have hsome : (Duty.run RequestList.step (.start { pageSize := 1 } "pp_acme") paged).isSome = true := by
    decide +kernel
  obtain ⟨t, ht⟩ := Option.isSome_iff_exists.1 hsome
  rw [pagedList, ht, Option.getD_some]

/-- Its one answer is the server's. -/
theorem pagedList_served : Served (fun _ => []) [] texts pagedList.settled := by
  have hsettled : pagedList.settled =
      [({ page := { cursor := none, stack := [] }, ticket := 1, filters := { pageSize := 1 },
          credential := some "pp_acme" }, some firstOfTwo)] := by
    decide +kernel
  have hgranted : (windowAt texts (Filters.query { pageSize := 1 } none) aSecondApart 0).toOption.isSome =
      true := by decide +kernel
  rw [hsettled]
  intro flight answer hmem
  obtain ⟨rfl, hanswer⟩ := Prod.mk.inj (List.mem_singleton.1 hmem)
  obtain rfl := Option.some.inj hanswer
  refine ⟨aSecondApart 0, .manager, ?_⟩
  cases hwindow : windowAt texts (Filters.query { pageSize := 1 } none) aSecondApart 0 with
  | error failure =>
    rw [hwindow] at hgranted
    cases hgranted
  | ok window =>
    exact @answerAt_of_window (fun _ => []) [] texts .manager (Filters.query { pageSize := 1 } none)
      aSecondApart 0 window hwindow none issued_none

end Sample

namespace RequestList

theorem requests_follow_answers_paged :
    (Sample.pagedList.sent.map fun flight => flight.page.stack.length) = [0, 1] ∧
      ∀ flight ∈ Sample.pagedList.sent,
        Trail Sample.pagedList.settled flight.filters.requestSignature flight.page.stack ∧
        ∃ answer, getRequests (fun _ => []) [] Sample.texts (Sample.aSecondApart 1).now
          (Sample.aSecondApart 1).retentionDays .manager (flight.filters.query flight.page.cursor)
          (Sample.aSecondApart 1).table.rows = .ok answer := by
  refine ⟨by decide +kernel, fun flight hflight => ?_⟩
  obtain ⟨-, -, htrail, hanswered⟩ :=
    requests_follow_answers (by simp [Sample.paged]) Sample.pagedList_run hflight
  have hgranted : ∀ flight ∈ Sample.pagedList.sent,
      (TimeWindow.resolve Sample.texts (Sample.aSecondApart 1).now
        (Sample.aSecondApart 1).retentionDays (flight.filters.query flight.page.cursor)).toOption.isSome =
        true := by decide +kernel
  refine ⟨htrail, ?_⟩
  have hwindow := hgranted flight hflight
  cases hresolve : TimeWindow.resolve Sample.texts (Sample.aSecondApart 1).now
      (Sample.aSecondApart 1).retentionDays (flight.filters.query flight.page.cursor) with
  | error failure =>
    rw [hresolve] at hwindow
    cases hwindow
  | ok window =>
    exact hanswered _ _ _ Sample.pagedList_served (Sample.aSecondApart 1) .manager window hresolve

end RequestList

end PartnerPortal.Dashboard

import PartnerPortal.Dashboard.Requests
import PartnerPortal.Lib.Coalesce
import PartnerPortal.Lib.Duty

/-!
# The dashboard's request table

The store of the dashboard fetches one page of the request list at a time.  Whatever asks for a page
while another is awaited takes the place of the page that waited before, and an answer that belongs to
an earlier selection is dropped.

What the filters are changed to and the reset that follows are one event: the watchers run before
anything else does.

Results:
- `RequestList.Inv.slot` — the store holds at most one page in flight and the newest that waits;
- `mergeFresh_eq` — what an invalidation leaves of the rows that were shown;
- `newest_page_shown` — at rest the table shows the answer to the newest page that was asked for.
-/

namespace PartnerPortal.Dashboard

open Coalesce

/-! ## The store -/

/-- What the table is narrowed to. -/
structure Filters where
  range : String := "24h"
  model : String := "all"
  status : String := "all"
  pageSize : Nat := 10
  selectedConsumers : List String := []
  isManager : Bool := false
deriving DecidableEq

def Filters.requestSignature (f : Filters) : String :=
  f.range ++ "+" ++ f.model ++ "+" ++ f.status ++ "+" ++ toString f.pageSize ++ "+" ++
    ",".intercalate f.selectedConsumers

/-- The parameters of a request.  A parameter that is left out is one the server fills in so. -/
def Filters.query (f : Filters) (cursor : Option String) : DashboardQuery where
  range := f.range
  limit := f.pageSize
  model := f.model
  status := f.status
  consumers :=
    if f.isManager ∧ f.selectedConsumers ≠ [] then ",".intercalate f.selectedConsumers else ""
  cursor := cursor.filter (· ≠ "")

structure RequestPage where
  cursor : Option String
  stack : List String
  mergeFresh : Bool := false
deriving DecidableEq

/-- A request that was sent. -/
structure Flight where
  page : RequestPage
  ticket : Nat
  filters : Filters
  credential : Option String
deriving DecidableEq

structure RequestList where
  filters : Filters
  credential : Option String
  requests : List RequestItem
  nextCursor : Option String
  cursorStack : List String
  latestRequest : Option RequestItem
  /-- `loading`, and what is awaited -/
  flight : Option Flight
  pendingPage : Option RequestPage
  seq : Nat
  /-- the pages that were asked for, the requests sent, and what became of them -/
  asked : List RequestPage
  sent : List Flight
  settled : List (Flight × Option RequestsResponse)

/-- The rows with each id once, where it comes first. -/
def distinctRows : List RequestItem → List RequestItem :=
  List.eraseDupsBy fun a b => a.requestId == b.requestId

/-- What is shown of fresh rows and the rows that were visible. -/
def mergeFresh (pageSize : Nat) (fresh visible : List RequestItem) : List RequestItem :=
  (distinctRows (fresh ++ visible)).take pageSize

namespace RequestList

/-- The store of a signed-in user before the first fetch. -/
def start (filters : Filters) (key : String) : RequestList where
  filters := filters
  credential := some key
  requests := []
  nextCursor := none
  cursorStack := []
  latestRequest := none
  flight := none
  pendingPage := none
  seq := 0
  asked := []
  sent := []
  settled := []

def hasPrevious (t : RequestList) : Bool := !t.cursorStack.isEmpty

def currentCursor (t : RequestList) : Option String := t.cursorStack.getLast?

/-! ### One fetch -/

def send (t : RequestList) (page : RequestPage) : RequestList :=
  let flight : Flight :=
    { page := page, ticket := t.seq + 1, filters := t.filters, credential := t.credential }
  { t with seq := t.seq + 1, flight := some flight, sent := t.sent ++ [flight] }

def fetchRequests (t : RequestList) (page : RequestPage) : RequestList :=
  match t.flight with
  | some _ => { t with pendingPage := some page, asked := t.asked ++ [page] }
  | none => send { t with asked := t.asked ++ [page] } page

def apply (t : RequestList) (page : RequestPage) (answer : RequestsResponse) : RequestList :=
  { t with
    requests :=
      if page.mergeFresh then Dashboard.mergeFresh t.filters.pageSize answer.data t.requests
      else answer.data
    cursorStack := page.stack
    nextCursor := answer.nextCursor
    latestRequest := answer.data.head? <|> t.latestRequest }

/-- The `finally` of a fetch. -/
def finish (t : RequestList) : RequestList :=
  match t.pendingPage with
  | some queued => send { t with flight := none, pendingPage := none } queued
  | none => { t with flight := none }

/-- The answer to the request in flight comes back, or the request fails. -/
def settle (t : RequestList) (result : Option RequestsResponse) : Option RequestList :=
  match t.flight with
  | none => none
  | some flight =>
    let t := { t with settled := t.settled ++ [(flight, result)] }
    match result with
    | none => some t.finish
    | some answer =>
      if flight.ticket ≠ t.seq ∨ flight.filters.requestSignature ≠ t.filters.requestSignature then
        some t.finish
      else some (t.apply flight.page answer).finish

/-! ### What asks for a page -/

def firstPage (t : RequestList) : RequestList := t.fetchRequests { cursor := none, stack := [] }

def previousPage (t : RequestList) : RequestList :=
  if t.hasPrevious then
    t.fetchRequests { cursor := t.cursorStack.dropLast.getLast?, stack := t.cursorStack.dropLast }
  else t

def nextPage (t : RequestList) : RequestList :=
  match t.nextCursor with
  | none => t
  | some cursor =>
    if cursor = "" then t
    else t.fetchRequests { cursor := some cursor, stack := t.cursorStack ++ [cursor] }

def refresh (t : RequestList) : RequestList :=
  t.fetchRequests { cursor := t.currentCursor, stack := t.cursorStack }

def refreshFromDataChange (t : RequestList) : RequestList :=
  if t.hasPrevious then t.refresh
  else t.fetchRequests { cursor := none, stack := [], mergeFresh := true }

def resetAndFetchRequests (t : RequestList) : RequestList :=
  { t with cursorStack := [], nextCursor := none }.fetchRequests { cursor := none, stack := [] }

/-- The range, the model, the status, the page size or the consumers are changed. -/
def narrow (t : RequestList) (filters : Filters) : RequestList :=
  let filters := { filters with isManager := t.filters.isManager }
  if filters = t.filters then t else { t with filters := filters }.resetAndFetchRequests

def signOut (t : RequestList) : RequestList :=
  { t with
    credential := none
    filters := { t.filters with selectedConsumers := [], isManager := false }
    requests := [], cursorStack := [], nextCursor := none, latestRequest := none }

/-- Only a visitor that is signed out gets to sign in. -/
def signIn (t : RequestList) (key : String) (isManager : Bool) : Option RequestList :=
  if t.credential = none then
    some { t with credential := some key, filters := { t.filters with isManager := isManager } }
  else none

end RequestList

inductive RequestListEvent where
  | firstPage
  | previousPage
  | nextPage
  | refreshed
  | dataChanged
  | narrowed (filters : Filters)
  | settled (result : Option RequestsResponse)
  | signedOut
  | signedIn (key : String) (isManager : Bool)

namespace RequestList

/-- Only a signed-in visitor gets to the table. -/
def visiting (t : RequestList) (next : RequestList) : Option RequestList :=
  if t.credential = none then none else some next

def step (t : RequestList) : RequestListEvent → Option RequestList
  | .firstPage => t.visiting t.firstPage
  | .previousPage => t.visiting t.previousPage
  | .nextPage => t.visiting t.nextPage
  | .refreshed => t.visiting t.refresh
  | .dataChanged => t.visiting t.refreshFromDataChange
  | .narrowed filters => t.visiting (t.narrow filters)
  | .settled result => t.settle result
  | .signedOut => some t.signOut
  | .signedIn key isManager => t.signIn key isManager

theorem visiting_eq_some {t other next : RequestList} :
    t.visiting other = some next ↔ t.credential ≠ none ∧ other = next := by
  unfold visiting
  split <;> simp [*]

end RequestList

/-! ## The rows an invalidation leaves -/

theorem distinctRows_cons (row : RequestItem) (rows : List RequestItem) :
    distinctRows (row :: rows) =
      row :: distinctRows (rows.filter fun other => other.requestId ≠ row.requestId) := by
  unfold distinctRows
  rw [List.eraseDupsBy_cons]
  simp

/-- Rows with ids of their own stay, and of what follows the rows that are none of them. -/
theorem distinctRows_append {fresh : List RequestItem}
    (h : (fresh.map RequestItem.requestId).Nodup) (visible : List RequestItem) :
    distinctRows (fresh ++ visible) = fresh ++ distinctRows
      (visible.filter fun row => row.requestId ∉ fresh.map RequestItem.requestId) := by
  induction fresh generalizing visible with
  | nil => simp
  | cons row fresh ih =>
    obtain ⟨hrow, hfresh⟩ := List.nodup_cons.1 h
    have hkeeps : fresh.filter (fun other => other.requestId ≠ row.requestId) = fresh := by
      refine List.filter_eq_self.2 fun other hother => decide_eq_true fun heq => hrow ?_
      rw [← heq]
      exact List.mem_map_of_mem hother
    rw [List.cons_append, distinctRows_cons, List.filter_append, hkeeps, ih hfresh, List.filter_filter,
      List.cons_append]
    have hboth : ∀ other : RequestItem,
        (decide (other.requestId ∉ fresh.map RequestItem.requestId) &&
          decide (other.requestId ≠ row.requestId)) =
        decide (other.requestId ∉ (row :: fresh).map RequestItem.requestId) := fun other => by
      rw [Bool.eq_iff_iff]
      simp only [Bool.and_eq_true, decide_eq_true_eq, List.map_cons, List.mem_cons, not_or, and_comm]
    simp only [hboth]

/-- An invalidation shows the fresh page, and below it what was visible before and is not on it, as far
as the page has room. -/
theorem mergeFresh_eq {pageSize : Nat} {fresh : List RequestItem}
    (h : (fresh.map RequestItem.requestId).Nodup) (hsize : fresh.length ≤ pageSize)
    (visible : List RequestItem) :
    mergeFresh pageSize fresh visible = fresh ++ (distinctRows
      (visible.filter fun row => row.requestId ∉ fresh.map RequestItem.requestId)).take
        (pageSize - fresh.length) := by
  rw [mergeFresh, distinctRows_append h, List.take_append, List.take_of_length_le hsize]

/-! ## What the store keeps -/

namespace RequestList

variable {t next : RequestList} {came came' : Option RequestsResponse → RequestList → Prop}

def slot (t : RequestList) : Slot RequestPage where
  flying := t.flight.map Flight.page
  waiting := t.pendingPage
  asked := t.asked
  sent := t.sent.map Flight.page

/-- What a fetch leaves as it was. -/
structure Sending (t : RequestList) : Prop where
  slot : t.slot.Sound
  ticket : ∀ flight, t.flight = some flight → flight.ticket = t.seq
  newest : ∀ flight, t.flight = some flight → t.sent.getLast? = some flight
  signedIn : t.credential ≠ none

/-- The table shows an answer to a request for a page, which came when the visible rows were shown. -/
structure Shows (t : RequestList) (page : RequestPage) (answer : RequestsResponse)
    (visible : List RequestItem) : Prop where
  cursorStack : t.cursorStack = page.stack
  nextCursor : t.nextCursor = answer.nextCursor
  plain : page.mergeFresh = false → t.requests = answer.data
  fresh : page.mergeFresh = true → t.requests = mergeFresh t.filters.pageSize answer.data visible

/-- The newest result of a run, and the table before it came. -/
def Came (filters : Filters) (key : String) (events : List RequestListEvent)
    (result : Option RequestsResponse) (before : RequestList) : Prop :=
  ∃ earlier later, events = earlier ++ .settled result :: later ∧
    (∀ event ∈ later, ∀ other, event ≠ .settled other) ∧
    Duty.run step (start filters key) earlier = some before

structure Inv (came : Option RequestsResponse → RequestList → Prop) (t : RequestList) : Prop
    extends Sending t where
  /-- a request for another selection is only awaited while a newer page waits -/
  current : ∀ flight, t.flight = some flight → t.pendingPage = none → flight.filters = t.filters
  rest : t.flight = none → t.settled.getLast?.map Prod.fst = t.sent.getLast? ∧
    ∀ flight result, t.settled.getLast? = some (flight, result) → flight.filters = t.filters ∧
      ∃ before, came result before ∧
        ∀ answer, result = some answer → t.Shows flight.page answer before.requests

theorem Inv.mono (h : t.Inv came) (hcame : ∀ result before, came result before → came' result before) :
    t.Inv came' := by
  refine ⟨h.toSending, h.current, fun hflight => ⟨(h.rest hflight).1, fun flight result hlast => ?_⟩⟩
  obtain ⟨hfilters, before, hbefore, hshows⟩ := (h.rest hflight).2 flight result hlast
  exact ⟨hfilters, before, hcame result before hbefore, hshows⟩

theorem fetchRequests_slot (t : RequestList) (page : RequestPage) :
    (t.fetchRequests page).slot = t.slot.ask page := by
  unfold fetchRequests Slot.ask slot
  cases t.flight with
  | some flight => rfl
  | none => simp [send]

theorem finish_slot {flight : Flight} (h : t.flight = some flight) :
    t.slot.land = some t.finish.slot := by
  unfold finish Slot.land slot
  rw [h]
  cases t.pendingPage with
  | none => rfl
  | some page => simp [send]

theorem Sending.fetchRequests (h : t.Sending) (page : RequestPage) :
    (t.fetchRequests page).Inv came := by
  have hslot : (t.fetchRequests page).slot.Sound := by
    rw [fetchRequests_slot]
    exact h.slot.ask page
  unfold RequestList.fetchRequests at hslot ⊢
  cases hflight : t.flight with
  | some flight =>
    rw [hflight] at hslot
    have hflight' : ∀ other, some flight = some other → t.flight = some other :=
      fun other hother => hflight.trans hother
    exact ⟨⟨hslot, fun other hother => h.ticket other (hflight' other hother),
      fun other hother => h.newest other (hflight' other hother), h.signedIn⟩, nofun, nofun⟩
  | none =>
    rw [hflight] at hslot
    refine ⟨⟨hslot, ?_, ?_, h.signedIn⟩, ?_, nofun⟩
    · rintro _ ⟨⟩
      rfl
    · rintro _ ⟨⟩
      exact List.getLast?_concat
    · rintro _ ⟨⟩ _
      rfl

/-- What was asked for meanwhile is sent, or the table rests with what the request has brought. -/
theorem Sending.finish (h : t.Sending) {flight : Flight} (hflight : t.flight = some flight)
    (hrest : t.pendingPage = none → t.settled.getLast?.map Prod.fst = some flight ∧
      ∀ other result, t.settled.getLast? = some (other, result) → other.filters = t.filters ∧
        ∃ before, came result before ∧
          ∀ answer, result = some answer → t.Shows other.page answer before.requests) :
    t.finish.Inv came := by
  have hslot : t.finish.slot.Sound := h.slot.land (finish_slot hflight)
  unfold RequestList.finish at hslot ⊢
  cases hpending : t.pendingPage with
  | some queued =>
    rw [hpending] at hslot
    refine ⟨⟨hslot, ?_, ?_, h.signedIn⟩, ?_, nofun⟩
    · rintro _ ⟨⟩
      rfl
    · rintro _ ⟨⟩
      exact List.getLast?_concat
    · rintro _ ⟨⟩ _
      rfl
  | none =>
    rw [hpending] at hslot
    obtain ⟨hsettled, hshows⟩ := hrest hpending
    refine ⟨⟨hslot, nofun, nofun, h.signedIn⟩, nofun, fun _ => ⟨?_, fun other result hlast => ?_⟩⟩
    · exact hsettled.trans (h.newest flight hflight).symm
    · obtain ⟨hfilters, before, hbefore, hanswer⟩ := hshows other result hlast
      exact ⟨hfilters, before, hbefore, fun answer hresult =>
        let hshown := hanswer answer hresult
        ⟨hshown.cursorStack, hshown.nextCursor, hshown.plain, hshown.fresh⟩⟩

/-- A result that comes leaves the table with it, or with the page that waited. -/
theorem Inv.settle (h : t.Inv came) {result : Option RequestsResponse} (hcame : came' result t)
    (hstep : t.settle result = some next) : next.Inv came' := by
  unfold RequestList.settle at hstep
  split at hstep
  · cases hstep
  rename_i flight hflight
  have hsending : ∀ {r : RequestList}, r.slot = t.slot → r.flight = t.flight → r.seq = t.seq →
      r.sent = t.sent → r.credential = t.credential → r.Sending := by
    intro r hslot hsame hseq hsent hcredential
    refine ⟨hslot ▸ h.slot, fun other hother => ?_, fun other hother => ?_, hcredential ▸ h.signedIn⟩
    · rw [hseq]
      exact h.ticket other (hsame ▸ hother)
    · rw [hsent]
      exact h.newest other (hsame ▸ hother)
  have hlast : ∀ {other : Flight} {found : Option RequestsResponse},
      (t.settled ++ [(flight, result)]).getLast? = some (other, found) →
        other = flight ∧ found = result := by
    intro other found hfound
    rw [List.getLast?_concat, Option.some.injEq, Prod.mk.injEq] at hfound
    exact ⟨hfound.1.symm, hfound.2.symm⟩
  have hfirst : (t.settled ++ [(flight, result)]).getLast?.map Prod.fst = some flight := by
    rw [List.getLast?_concat, Option.map_some]
  dsimp only at hstep
  split at hstep
  · cases hstep
    refine Sending.finish ?_ hflight fun hpending => ⟨hfirst, ?_⟩
    · exact hsending rfl rfl rfl rfl rfl
    · intro other found hfound
      obtain ⟨rfl, rfl⟩ := hlast hfound
      exact ⟨h.current other hflight hpending, t, hcame, nofun⟩
  · rename_i answer
    split at hstep
    · rename_i hstale
      cases hstep
      refine Sending.finish ?_ hflight fun hpending => ?_
      · exact hsending rfl rfl rfl rfl rfl
      · -- an answer is dropped only when a newer page waits
        rcases hstale with hticket | hsignature
        · exact absurd (h.ticket flight hflight) hticket
        · exact absurd (by rw [h.current flight hflight hpending]) hsignature
    · cases hstep
      refine Sending.finish ?_ hflight fun hpending => ⟨hfirst, ?_⟩
      · exact hsending rfl rfl rfl rfl rfl
      · intro other found hfound
        obtain ⟨rfl, rfl⟩ := hlast hfound
        refine ⟨h.current other hflight hpending, t, hcame, ?_⟩
        rintro _ ⟨⟩
        refine ⟨rfl, rfl, fun hpage => ?_, fun hfresh => ?_⟩
        · exact if_neg (by simp [hpage])
        · exact if_pos hfresh

/-- One step of a signed-in visitor.  What is not a result leaves the newest result as it was. -/
theorem Inv.step (h : t.Inv came) {event : RequestListEvent} (hsigned : event ≠ .signedOut)
    (hkeeps : (∀ other, event ≠ .settled other) → ∀ result before, came result before → came' result before)
    (hcomes : ∀ result, event = .settled result → came' result t)
    (hstep : t.step event = some next) : next.Inv came' := by
  cases event with
  | firstPage | refreshed =>
    obtain ⟨-, rfl⟩ := visiting_eq_some.1 hstep
    exact h.toSending.fetchRequests _
  | previousPage =>
    obtain ⟨-, rfl⟩ := visiting_eq_some.1 hstep
    unfold RequestList.previousPage
    split
    · exact h.toSending.fetchRequests _
    · exact h.mono (hkeeps nofun)
  | nextPage =>
    obtain ⟨-, rfl⟩ := visiting_eq_some.1 hstep
    unfold RequestList.nextPage
    split
    · exact h.mono (hkeeps nofun)
    · split
      · exact h.mono (hkeeps nofun)
      · exact h.toSending.fetchRequests _
  | dataChanged =>
    obtain ⟨-, rfl⟩ := visiting_eq_some.1 hstep
    unfold RequestList.refreshFromDataChange
    split
    · exact h.toSending.fetchRequests _
    · exact h.toSending.fetchRequests _
  | narrowed filters =>
    obtain ⟨-, rfl⟩ := visiting_eq_some.1 hstep
    unfold RequestList.narrow
    dsimp only
    split
    · exact h.mono (hkeeps nofun)
    · refine Sending.fetchRequests ?_ _
      exact ⟨h.slot, h.ticket, h.newest, h.signedIn⟩
  | settled result => exact h.settle (hcomes result rfl) hstep
  | signedOut => exact absurd rfl hsigned
  | signedIn key isManager =>
    simp only [RequestList.step, RequestList.signIn, if_neg h.signedIn] at hstep
    cases hstep

theorem start_inv (filters : Filters) (key : String) : (start filters key).Inv came where
  slot := Slot.empty_sound
  ticket := nofun
  newest := nofun
  signedIn := nofun
  current := nofun
  rest := fun _ => ⟨rfl, nofun⟩

section Newest

variable {filters : Filters} {key : String} {events : List RequestListEvent} {event : RequestListEvent}

theorem Came.concat {result : Option RequestsResponse} {before : RequestList}
    (h : Came filters key events result before) (hevent : ∀ other, event ≠ .settled other) :
    Came filters key (events ++ [event]) result before := by
  obtain ⟨earlier, later, rfl, hlater, hrun⟩ := h
  refine ⟨earlier, later ++ [event], by simp, fun other hother => ?_, hrun⟩
  rcases List.mem_append.1 hother with hother | hother
  · exact hlater other hother
  · rw [List.mem_singleton.1 hother]
    exact hevent

theorem came_concat {result : Option RequestsResponse}
    (hrun : Duty.run step (start filters key) events = some t) :
    Came filters key (events ++ [.settled result]) result t :=
  ⟨events, [], rfl, nofun, hrun⟩

theorem reached (hsigned : ∀ event ∈ events, event ≠ .signedOut)
    (hrun : Duty.run step (start filters key) events = some t) : t.Inv (Came filters key events) := by
  induction events using List.reverseRecOn generalizing t with
  | nil =>
    cases hrun
    exact start_inv filters key
  | append_singleton events event ih =>
    obtain ⟨middle, hmiddle, hlast⟩ := Duty.run_append_iff.1 hrun
    obtain ⟨_, hstep, hend⟩ := Duty.run_cons_iff.1 hlast
    obtain rfl := Option.some.inj hend
    have hinv := ih (fun other hother => hsigned other (List.mem_append_left _ hother)) hmiddle
    refine hinv.step (hsigned event List.mem_concat_self) ?_ ?_ hstep
    · exact fun hevent _ _ hcame => hcame.concat hevent
    · rintro result rfl
      exact came_concat hmiddle

end Newest

/-- In every order of clicks, invalidations, changes of the filters and answers, the requests sent are
some of the pages asked for, in that order.  When nothing is awaited the newest page asked for was sent
with the filters as they are, and the table shows its answer unless it failed, over the rows that were
shown when it came. -/
theorem newest_page_shown {filters : Filters} {key : String} {events : List RequestListEvent}
    (hsigned : ∀ event ∈ events, event ≠ .signedOut)
    (hrun : Duty.run step (start filters key) events = some t) :
    (t.sent.map Flight.page).Sublist t.asked ∧
      (t.flight = none → ∀ page, t.asked.getLast? = some page →
        ∃ flight result before, t.settled.getLast? = some (flight, result) ∧ flight.page = page ∧
          flight.filters = t.filters ∧ Came filters key events result before ∧
          ∀ answer, result = some answer → t.Shows page answer before.requests) := by
  have hinv := reached hsigned hrun
  refine ⟨hinv.slot.sent_sublist, fun hrest page hpage => ?_⟩
  obtain ⟨hsettled, hshows⟩ := hinv.rest hrest
  have hlast := hinv.slot.at_rest (congrArg (Option.map Flight.page) hrest)
  have hsent : t.sent.getLast?.map Flight.page = some page := by
    rw [← hpage, ← List.getLast?_map]
    exact hlast
  rw [← hsettled] at hsent
  obtain ⟨flight, hflight, rfl⟩ := Option.map_eq_some_iff.1 hsent
  obtain ⟨⟨_, result⟩, hfound, rfl⟩ := Option.map_eq_some_iff.1 hflight
  obtain ⟨hfilters, before, hcame, hanswer⟩ := hshows _ result hfound
  exact ⟨_, result, before, hfound, rfl, hfilters, hcame, hanswer⟩

end RequestList

namespace Sample

def item (id : String) : RequestItem where
  requestId := id
  createdAt := "2026-09-27T12:00:00.000000000Z"
  consumerId := "acme"
  model := "m1"
  endpoint := .chatCompletions
  streaming := false
  httpStatus := some 200
  requestStatus := .completed
  usageStatus := .available
  inputTokens := some 10
  outputTokens := some 20
  cachedTokens := none
  durationMs := 5
  ttftMs := none
  errorMessage := none
  errorBody := none

/-- An invalidation comes while the second page is awaited, and takes the table back to the first,
which is short by then. -/
def clicks : List RequestListEvent :=
  [.refreshed, .settled (some ⟨[item "r3", item "r2"], some "c2"⟩), .nextPage, .nextPage, .dataChanged,
    .settled (some ⟨[item "r1"], none⟩), .settled (some ⟨[item "r4"], none⟩)]

def clicked : RequestList :=
  (Duty.run RequestList.step (.start { pageSize := 2 } "pp_acme") clicks).getD (.start {} "")

end Sample

namespace RequestList

theorem newest_page_shown_clicked :
    (Sample.clicked.sent.map Flight.page).Sublist Sample.clicked.asked ∧
      ∃ before, Came { pageSize := 2 } "pp_acme" Sample.clicks (some ⟨[Sample.item "r4"], none⟩) before ∧
        Sample.clicked.Shows { cursor := none, stack := [], mergeFresh := true }
          ⟨[Sample.item "r4"], none⟩ before.requests ∧
        Sample.clicked.requests = [Sample.item "r4", Sample.item "r1"] := by
  have hrun : Duty.run step (start { pageSize := 2 } "pp_acme") Sample.clicks = some Sample.clicked :=
    rfl
  obtain ⟨hsent, hrest⟩ := newest_page_shown (by simp [Sample.clicks]) hrun
  obtain ⟨flight, result, before, hlast, -, -, hcame, hshows⟩ := hrest rfl _ rfl
  obtain rfl : result = some ⟨[Sample.item "r4"], none⟩ :=
    (congrArg Prod.snd (Option.some.inj hlast)).symm
  exact ⟨hsent, before, hcame, hshows _ rfl, rfl⟩

end RequestList

end PartnerPortal.Dashboard

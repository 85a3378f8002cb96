import PartnerPortal.Billing.Statable
import PartnerPortal.Lib.Loop

/-!
# The billing tick

The day-closing half of one worker tick: for every partner, from the day after its newest statement
to the newest closeable day, one statement a day.  The errors of one day are counted and the loop
goes on; a failed list of partners, a failed anchor read or a panic ends the tick.

The database may fail at every call, which the parameter `Faults` decides.

Results:
- `closeDay_effect` — a turn adds at most the statement of its own partner and day;
- `closeDays_keeps` — what every such addition keeps, a whole tick keeps;
- `closeDays_visits` — in a tick that was not ended every partner's walk ran, from the partner's
  statements as the tick found them;
- `closeDays_attempts` — such a tick attempted every day of every walk.
-/

namespace PartnerPortal

open MachineInt

/-- One tick's tally. -/
structure Tick where
  days : Nat := 0
  statementsCreated : Nat := 0
  statementsExisting : Nat := 0
  statementsIncomplete : Nat := 0
  failures : Nat := 0
deriving DecidableEq

/-- Where the database fails during one tick. -/
structure Faults where
  listPartners : Option SqliteError := none
  anchor : String → Option SqliteError := fun _ => none
  read : String → BillingDay → Option SqliteError := fun _ _ => none
  write : String → BillingDay → WriteFault := fun _ _ => {}

/-- Why a tick ended before its last partner. -/
inductive Stop where
  | panicked (panic : Panic)
  | failed (error : BillingError)
deriving DecidableEq

/-- A tick under way: the tables, the tally, and every (partner, day) it attempted so far. -/
structure Progress where
  store : Store
  tick : Tick
  attempts : List (String × BillingDay)

/-- What a tick runs with: the calendar, its own instant, the clock of the rows it writes, and the
database's failures. -/
structure TickContext where
  gen : Generator
  iso : Iso8601
  now : Instant
  clock : Instant
  faults : Faults

/-- `SELECT … FROM partners ORDER BY consumer_id` -/
def listPartners (store : Store) : List Partner :=
  store.partners.insertionSort fun a b => !(b.consumerId < a.consumerId)

/-- A panic or an error of the step that was computed, as the end of the tick. -/
def orPanic {α : Type} (result : Except Panic α) : Except Stop α :=
  result.mapError Stop.panicked

/-- The day the walk starts from for a partner. -/
def anchorFor (ctx : TickContext) (store : Store) (partner : Partner) (through : BillingDay) :
    Except Stop BillingDay :=
  match ctx.faults.anchor partner.consumerId with
  | some e => .error (.failed (.database e))
  | none =>
    match (lastStatementDateFor store partner.consumerId).bind (BillingDay.parse ctx.iso) with
    | some day => .ok day
    | none => do
      match ← orPanic (parseTs ctx.iso partner.createdAt) with
      | some created => do
        let day ← orPanic (BillingDay.of created ctx.gen.timezone)
        orPanic (BillingDay.previous day)
      | none => orPanic (Generator.oldestCloseable through)

/-- The walk of one partner: its anchor, and the days after it. -/
def walkFor (ctx : TickContext) (store : Store) (partner : Partner) (through : BillingDay) :
    Except Stop (List BillingDay) := do
  let anchor ← anchorFor ctx store partner through
  orPanic (Generator.daysToClose ctx.iso (some anchor.toText) through)

/-- A day that failed. -/
def Progress.fail (progress : Progress) : Progress :=
  { progress with tick := { progress.tick with failures := progress.tick.failures + 1 } }

/-- The tally of a statement that is there now. -/
def Tick.record (tick : Tick) (outcome : StatementOutcome) : Tick :=
  if outcome.wasCreated then
    { tick with
      statementsCreated := tick.statementsCreated + 1
      statementsIncomplete := tick.statementsIncomplete +
        if 0 < outcome.statement.incompleteUsageCount then 1 else 0 }
  else { tick with statementsExisting := tick.statementsExisting + 1 }

/-- Write one (partner, day) statement. -/
def closeDay (ctx : TickContext) (partner : Partner) (day : BillingDay) (progress : Progress) :
    Progress × Option Stop :=
  match ctx.gen.cutoffFor day with
  | .error panic => (progress, some (.panicked panic))
  | .ok cutoff =>
    match ctx.faults.read partner.consumerId day with
    | some _ => (progress.fail, none)
    | none =>
      match statementForDay ctx.gen progress.store.usage partner day cutoff with
      | .error panic => (progress, some (.panicked panic))
      | .ok (.error _) => (progress.fail, none)
      | .ok (.ok draft) =>
        match writeStatement (ctx.faults.write partner.consumerId day) ctx.clock draft
            progress.store with
        | .error panic => (progress, some (.panicked panic))
        | .ok (written, .error _) => ({ progress with store := written }.fail, none)
        | .ok (written, .ok outcome) =>
          ({ progress with store := written, tick := progress.tick.record outcome }, none)

/-- One turn of the inner loop. -/
def attemptDay (ctx : TickContext) (partner : Partner) (day : BillingDay) (progress : Progress) :
    Progress × Option Stop :=
  closeDay ctx partner day { progress with
    tick := { progress.tick with days := progress.tick.days + 1 }
    attempts := progress.attempts ++ [(partner.consumerId, day)] }

/-- One turn of the outer loop. -/
def closePartner (ctx : TickContext) (through : BillingDay) (partner : Partner)
    (progress : Progress) : Progress × Option Stop :=
  match walkFor ctx progress.store partner through with
  | .error stop => (progress, some stop)
  | .ok days => Loop.runUntilStop (attemptDay ctx partner) days progress

/-- Write every statement the walk reaches, for every partner. -/
def closeDays (ctx : TickContext) (store : Store) : Progress × Option Stop :=
  let start : Progress := { store := store, tick := {}, attempts := [] }
  match ctx.gen.closableThrough ctx.now.utc with
  | .error panic => (start, some (.panicked panic))
  | .ok none => (start, none)
  | .ok (some through) =>
    match ctx.faults.listPartners with
    | some e => (start, some (.failed (.database e)))
    | none => Loop.runUntilStop (closePartner ctx through) (listPartners store) start

/-! ## One turn -/

theorem mem_listPartners {store : Store} {partner : Partner} :
    partner ∈ listPartners store ↔ partner ∈ store.partners :=
  (List.perm_insertionSort _ _).mem_iff

theorem orPanic_ok_iff {α : Type} {result : Except Panic α} {a : α} :
    orPanic result = .ok a ↔ result = .ok a :=
  Result.mapError_ok_iff

/-- A statement of a partner's day under a tick's calendar. -/
structure RowFor (ctx : TickContext) (partner : Partner) (day : BillingDay) (row : Statement) :
    Prop where
  consumerId : row.consumerId = partner.consumerId
  billingDate : row.billingDate = day.toText
  periodStart : row.periodStart = BillingDay.startText day.day ctx.gen.timezone
  periodEnd : row.periodEnd = BillingDay.startText (day.day + 1) ctx.gen.timezone

/-- One statement was added: a partner's, for a day that had none. -/
structure Stated (ctx : TickContext) (store written : Store) (partner : Partner)
    (day : BillingDay) : Prop where
  added : ∃ row, Added store written row ∧ RowFor ctx partner day row
  numbered : store.Numbered → written.Numbered
  wasOpen : ¬ (getStatement store partner.consumerId day.toText).isSome

/-- A turn that changes the tables wrote the draft of its day. -/
structure ClosedDay (ctx : TickContext) (partner : Partner) (day : BillingDay)
    (store written : Store) (draft : StatementDraft) : Prop where
  read : ctx.faults.read partner.consumerId day = none
  drafted : ∃ cutoff, statementForDay ctx.gen store.usage partner day cutoff = .ok (.ok draft)
  wrote : Wrote (ctx.faults.write partner.consumerId day) ctx.clock draft store written

/-- Everything a turn can do to the tables. -/
theorem closeDay_cases (ctx : TickContext) (partner : Partner) (day : BillingDay)
    (progress : Progress) :
    (closeDay ctx partner day progress).1.attempts = progress.attempts ∧
      ((closeDay ctx partner day progress).1.store = progress.store ∨
        ∃ draft, ClosedDay ctx partner day progress.store
          (closeDay ctx partner day progress).1.store draft) := by
  unfold closeDay
  split
  · exact ⟨rfl, Or.inl rfl⟩
  split
  · exact ⟨rfl, Or.inl rfl⟩
  rename_i hread
  split
  · exact ⟨rfl, Or.inl rfl⟩
  · exact ⟨rfl, Or.inl rfl⟩
  rename_i draft hdraft
  split
  · exact ⟨rfl, Or.inl rfl⟩
  · rename_i hwrite
    exact ⟨rfl, (writeStatement_cases hwrite).imp_right fun hwrote =>
      ⟨draft, hread, ⟨_, hdraft⟩, hwrote⟩⟩
  · rename_i hwrite
    exact ⟨rfl, (writeStatement_cases hwrite).imp_right fun hwrote =>
      ⟨draft, hread, ⟨_, hdraft⟩, hwrote⟩⟩

theorem ClosedDay.stated {ctx : TickContext} {partner : Partner} {day : BillingDay}
    {store written : Store} {draft : StatementDraft}
    (h : ClosedDay ctx partner day store written draft) : Stated ctx store written partner day := by
  obtain ⟨cutoff, hdraft⟩ := h.drafted
  obtain ⟨period, hperiod, hbounds, -, -, hconsumer, hday, -⟩ := statementForDay_ok hdraft
  obtain ⟨hstart, hfinish⟩ := BillingPeriod.forDay_ok hperiod
  obtain ⟨hstartText, hfinishText⟩ := BillingPeriod.toBounds_ok hbounds
  obtain ⟨total, dueAt, -, -, hadded⟩ := h.wrote.added
  have hopen := h.wrote.wasOpen
  rw [hconsumer, hday] at hopen
  refine ⟨⟨_, hadded, hconsumer, ?_, ?_, ?_⟩, hadded.numbered, hopen⟩
  · rw [← hday]
    rfl
  · rw [BillingDay.startText, ← hstart]
    exact hstartText
  · rw [BillingDay.startText, ← hfinish]
    exact hfinishText

/-- A turn adds at most the statement of its own partner and day. -/
theorem closeDay_effect (ctx : TickContext) (partner : Partner) (day : BillingDay)
    (progress : Progress) :
    (closeDay ctx partner day progress).1.attempts = progress.attempts ∧
      ((closeDay ctx partner day progress).1.store = progress.store ∨
        Stated ctx progress.store (closeDay ctx partner day progress).1.store partner day) := by
  obtain ⟨hattempts, heffect⟩ := closeDay_cases ctx partner day progress
  exact ⟨hattempts, heffect.imp_right fun ⟨_, hclosed⟩ => hclosed.stated⟩

theorem attemptDay_effect (ctx : TickContext) (partner : Partner) (day : BillingDay)
    (progress : Progress) :
    (attemptDay ctx partner day progress).1.attempts =
        progress.attempts ++ [(partner.consumerId, day)] ∧
      ((attemptDay ctx partner day progress).1.store = progress.store ∨
        Stated ctx progress.store (attemptDay ctx partner day progress).1.store partner day) :=
  closeDay_effect ctx partner day _

/-! ## The loops -/

/-- The tables after some days of one partner's walk: statements of days of the walk that had none,
and nothing else. -/
structure Extends (ctx : TickContext) (partner : Partner) (days : List BillingDay)
    (store written : Store) : Prop where
  statements : ∃ new, written.statements = store.statements ++ new ∧
    (∀ row ∈ new, ∃ day ∈ days, RowFor ctx partner day row) ∧
    new.Pairwise fun row row' => row.billingDate ≠ row'.billingDate
  partners : written.partners = store.partners
  usage : written.usage = store.usage
  numbered : store.Numbered → written.Numbered

namespace Extends

variable {ctx : TickContext} {partner : Partner} {days : List BillingDay}
  {store current written : Store}

theorem refl (ctx : TickContext) (partner : Partner) (days : List BillingDay) (store : Store) :
    Extends ctx partner days store store :=
  ⟨⟨[], by simp, by simp, List.Pairwise.nil⟩, rfl, rfl, id⟩

theorem stated (h : Extends ctx partner days store current) {day : BillingDay} (hday : day ∈ days)
    (hstated : Stated ctx current written partner day) :
    Extends ctx partner days store written := by
  obtain ⟨new, hnew, hrows, hdistinct⟩ := h.statements
  obtain ⟨row, hadded, hrow⟩ := hstated.added
  refine ⟨⟨new ++ [row], ?_, ?_, ?_⟩, hadded.partners.trans h.partners,
    hadded.usage.trans h.usage, fun hn => hstated.numbered (h.numbered hn)⟩
  · rw [hadded.statements, hnew, List.append_assoc]
  · intro row' hrow'
    rcases List.mem_append.1 hrow' with hrow' | hrow'
    · exact hrows row' hrow'
    · rw [List.mem_singleton] at hrow'
      exact ⟨day, hday, hrow' ▸ hrow⟩
  · rw [List.pairwise_append]
    refine ⟨hdistinct, List.pairwise_singleton _ _, fun row' hrow' row'' hrow'' => ?_⟩
    rw [List.mem_singleton] at hrow''
    subst hrow''
    obtain ⟨day', -, hrowFor⟩ := hrows row' hrow'
    intro hsame
    apply hstated.wasOpen
    rw [getStatement_isSome_iff, hnew]
    exact ⟨row', List.mem_append_right _ hrow', hrowFor.consumerId, by rw [hsame, hrow.billingDate]⟩

end Extends

/-- A partner's walk adds statements of its days, and nothing else. -/
theorem runDays_extends (ctx : TickContext) (partner : Partner) (days : List BillingDay)
    (progress : Progress) :
    Extends ctx partner days progress.store
      (Loop.runUntilStop (attemptDay ctx partner) days progress).1.store := by
  refine Loop.runUntilStop_keeps
    (fun state : Progress => Extends ctx partner days progress.store state.store) ?_
    (Extends.refl ctx partner days progress.store)
  intro day hday state hstate
  rcases (attemptDay_effect ctx partner day state).2 with heq | hstated
  · exact heq ▸ hstate
  · exact hstate.stated hday hstated

/-- What every walk keeps, a tick keeps. -/
theorem closeDays_keeps {ctx : TickContext} {store : Store} (Inv : Store → Prop) (h : Inv store)
    (hwalk : ∀ through, ctx.gen.closableThrough ctx.now.utc = .ok (some through) →
      ∀ partner ∈ store.partners, ∀ start, Inv start → ∀ days,
        walkFor ctx start partner through = .ok days → ∀ written,
          Extends ctx partner days start written → Inv written) :
    Inv (closeDays ctx store).1.store := by
  unfold closeDays
  split
  · exact h
  · exact h
  · rename_i through hthrough
    split
    · exact h
    · refine Loop.runUntilStop_keeps (fun state : Progress => Inv state.store) ?_ h
      intro partner hpartner state hstate
      simp only [closePartner]
      split
      · exact hstate
      · rename_i days hdays
        exact hwalk through hthrough partner (mem_listPartners.1 hpartner) state.store hstate days
          hdays _ (runDays_extends ctx partner days state)

/-! ## The turn of one partner -/

/-- A partner's statements. -/
def Store.statementsOf (store : Store) (consumerId : String) : List Statement :=
  store.statements.filter fun s => s.consumerId = consumerId

theorem Store.mem_statementsOf {store : Store} {consumerId : String} {s : Statement} :
    s ∈ store.statementsOf consumerId ↔ s ∈ store.statements ∧ s.consumerId = consumerId := by
  simp [Store.statementsOf]

/-- Other partners' turns leave a partner's statements alone. -/
structure Untouched (consumerId : String) (store reached : Store) : Prop where
  statements : reached.statementsOf consumerId = store.statementsOf consumerId
  partners : reached.partners = store.partners
  usage : reached.usage = store.usage
  numbered : store.Numbered → reached.Numbered

theorem Untouched.refl (consumerId : String) (store : Store) : Untouched consumerId store store :=
  ⟨rfl, rfl, rfl, id⟩

theorem Untouched.extends {consumerId : String} {ctx : TickContext} {other : Partner}
    {days : List BillingDay} {store reached written : Store} (h : Untouched consumerId store reached)
    (hother : other.consumerId ≠ consumerId) (hwritten : Extends ctx other days reached written) :
    Untouched consumerId store written := by
  obtain ⟨new, hnew, hrows, -⟩ := hwritten.statements
  refine ⟨?_, hwritten.partners.trans h.partners, hwritten.usage.trans h.usage,
    fun hn => hwritten.numbered (h.numbered hn)⟩
  have hnone : new.filter (fun s => s.consumerId = consumerId) = [] := by
    rw [List.filter_eq_nil_iff]
    intro row hrow
    obtain ⟨day, -, hrowFor⟩ := hrows row hrow
    simpa [hrowFor.consumerId] using hother
  rw [← h.statements]
  simp only [Store.statementsOf, hnew, List.filter_append, hnone, List.append_nil]

/-- A walk depends on the partner's own statements only. -/
theorem Untouched.walkFor {ctx : TickContext} {partner : Partner} {store reached : Store}
    (h : Untouched partner.consumerId store reached) (through : BillingDay) :
    walkFor ctx reached partner through = PartnerPortal.walkFor ctx store partner through := by
  have hlast : lastStatementDateFor reached partner.consumerId =
      lastStatementDateFor store partner.consumerId :=
    congrArg (fun list : List Statement => (list.map Statement.billingDate).foldl maxStep none)
      h.statements
  simp only [PartnerPortal.walkFor, anchorFor, hlast]

/-- The attempts of a walk are its days in order, all of them unless it was ended. -/
theorem runDays_attempts (ctx : TickContext) (partner : Partner) (days : List BillingDay)
    (progress : Progress) :
    ∃ tried, (Loop.runUntilStop (attemptDay ctx partner) days progress).1.attempts =
        progress.attempts ++ tried.map (Prod.mk partner.consumerId) ∧
      ((Loop.runUntilStop (attemptDay ctx partner) days progress).2 = none → tried = days) := by
  induction days generalizing progress with
  | nil => exact ⟨[], by simp, fun _ => rfl⟩
  | cons day days ih =>
    have hturn := (attemptDay_effect ctx partner day progress).1
    rw [Loop.runUntilStop_cons]
    split
    · rename_i next heq
      rw [heq] at hturn
      obtain ⟨tried, htried, hall⟩ := ih next
      refine ⟨day :: tried, ?_, fun hdone => by rw [hall hdone]⟩
      rw [htried, hturn]
      simp
    · rename_i next stop heq
      rw [heq] at hturn
      exact ⟨[day], by rw [hturn]; rfl, fun h => by cases h⟩

theorem closePartner_other {ctx : TickContext} {through : BillingDay} {other : Partner}
    {consumerId : String} (hother : other.consumerId ≠ consumerId) {store : Store}
    {progress : Progress} (h : Untouched consumerId store progress.store) :
    Untouched consumerId store (closePartner ctx through other progress).1.store ∧
      ∀ attempt ∈ progress.attempts,
        attempt ∈ (closePartner ctx through other progress).1.attempts := by
  unfold closePartner
  split
  · exact ⟨h, fun _ => id⟩
  · rename_i days _
    refine ⟨h.extends hother (runDays_extends ctx other days progress), fun attempt hattempt => ?_⟩
    obtain ⟨tried, htried, -⟩ := runDays_attempts ctx other days progress
    rw [htried]
    exact List.mem_append_left _ hattempt

/-- In a tick that was not ended every partner's walk ran, from the partner's statements as the tick
found them, and the turns after it left them alone. -/
theorem closeDays_visits {ctx : TickContext} {store : Store} {through : BillingDay}
    (hthrough : ctx.gen.closableThrough ctx.now.utc = .ok (some through))
    (hkeys : (store.partners.map Partner.consumerId).Nodup)
    (hdone : (closeDays ctx store).2 = none) {partner : Partner}
    (hpartner : partner ∈ store.partners) :
    ∃ days reached walked, walkFor ctx store partner through = .ok days ∧
      Untouched partner.consumerId store reached.store ∧
      Loop.runUntilStop (attemptDay ctx partner) days reached = (walked, none) ∧
      Untouched partner.consumerId walked.store (closeDays ctx store).1.store ∧
      ∀ attempt ∈ walked.attempts, attempt ∈ (closeDays ctx store).1.attempts := by
  have hperm : (listPartners store).Perm store.partners := List.perm_insertionSort _ _
  obtain ⟨front, back, hsplit⟩ := List.append_of_mem (mem_listPartners.2 hpartner)
  have hnodup : ((listPartners store).map Partner.consumerId).Nodup :=
    ((hperm.map Partner.consumerId).nodup_iff).2 hkeys
  rw [hsplit, List.map_append, List.map_cons, List.nodup_append] at hnodup
  obtain ⟨-, hback, hfront⟩ := hnodup
  rw [List.nodup_cons] at hback
  have hlist : ctx.faults.listPartners = none := by
    cases hfault : ctx.faults.listPartners with
    | none => rfl
    | some e =>
      simp only [closeDays, hthrough, hfault] at hdone
      cases hdone
  simp only [closeDays, hthrough, hlist, hsplit] at hdone ⊢
  refine Loop.runUntilStop_visits
    (fun state : Progress => Untouched partner.consumerId store state.store)
    (fun state : Progress => ∃ days reached walked, walkFor ctx store partner through = .ok days ∧
      Untouched partner.consumerId store reached.store ∧
      Loop.runUntilStop (attemptDay ctx partner) days reached = (walked, none) ∧
      Untouched partner.consumerId walked.store state.store ∧
      ∀ attempt ∈ walked.attempts, attempt ∈ state.attempts) ?_ ?_ ?_ (Untouched.refl _ _) hdone
  · intro other hother state hstate
    have hne : other.consumerId ≠ partner.consumerId :=
      hfront _ (List.mem_map_of_mem hother) _ List.mem_cons_self
    exact (closePartner_other hne hstate).1
  · intro state hstate hturn
    simp only [closePartner, hstate.walkFor through] at hturn ⊢
    split at hturn
    · cases hturn
    · rename_i days hdays
      exact ⟨days, state, _, hdays, hstate, Prod.ext rfl hturn, Untouched.refl _ _, fun _ => id⟩
  · intro other hother state hstate
    obtain ⟨days, reached, walked, hdays, hreached, hrun, hwalked, hattempts⟩ := hstate
    have hne : other.consumerId ≠ partner.consumerId := fun heq =>
      hback.1 (heq ▸ List.mem_map_of_mem hother)
    obtain ⟨huntouched, hgrow⟩ := closePartner_other hne hwalked
    exact ⟨days, reached, walked, hdays, hreached, hrun, huntouched,
      fun attempt hattempt => hgrow attempt (hattempts attempt hattempt)⟩

/-- A tick that was not ended attempted every day of every walk. -/
theorem closeDays_attempts {ctx : TickContext} {store : Store} {through : BillingDay}
    (hthrough : ctx.gen.closableThrough ctx.now.utc = .ok (some through))
    (hkeys : (store.partners.map Partner.consumerId).Nodup)
    (hdone : (closeDays ctx store).2 = none) {partner : Partner}
    (hpartner : partner ∈ store.partners) :
    ∃ days, walkFor ctx store partner through = .ok days ∧
      ∀ day ∈ days, (partner.consumerId, day) ∈ (closeDays ctx store).1.attempts := by
  obtain ⟨days, reached, walked, hdays, -, hrun, -, hattempts⟩ :=
    closeDays_visits hthrough hkeys hdone hpartner
  refine ⟨days, hdays, fun day hday => hattempts _ ?_⟩
  obtain ⟨tried, htried, hall⟩ := runDays_attempts ctx partner days reached
  rw [hrun] at htried hall
  rw [htried, hall rfl]
  exact List.mem_append_right _ (List.mem_map_of_mem hday)

namespace Sample

/-- A tick a quarter of an hour after the end of the day. -/
def tick (faults : Faults) : TickContext where
  gen := gen
  iso := iso
  now := now
  clock := now
  faults := faults

end Sample

end PartnerPortal

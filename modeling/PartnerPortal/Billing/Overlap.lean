import PartnerPortal.Billing.Walk

/-!
# Statements that cover the same instants

The table keeps one statement a billing date, and a date names different instants under different
offsets.  Days of one offset never overlap, so two statements of a partner can only overlap when the
offset moved east between the ticks that wrote them.

Results:
- `tick_keeps_disjoint` — a tick whose days start after every stored period keeps periods apart;
- `run_bills_once` — along runs of such ticks an instant lies in one statement of a partner at most.
-/

namespace PartnerPortal

open MachineInt

/-- A stored instant lies in a statement's period, as the aggregate compares texts. -/
def Statement.covers (s : Statement) (text : String) : Bool :=
  !(text < s.periodStart) && text < s.periodEnd

/-- No two statements of one partner cover the same instant. -/
def Store.PeriodsDisjoint (store : Store) : Prop :=
  store.statements.Pairwise fun s s' =>
    s.consumerId = s'.consumerId → ∀ text, ¬ (s.covers text ∧ s'.covers text)

theorem Statement.covers_iff {s : Statement} {text : String} :
    s.covers text ↔ ¬ text < s.periodStart ∧ text < s.periodEnd := by
  simp [Statement.covers]

/-- Periods of which one ends before the other starts cover nothing together. -/
theorem disjoint_of_ends {s s' : Statement} (h : ¬ s'.periodStart < s.periodEnd) (text : String) :
    ¬ (s.covers text ∧ s'.covers text) := by
  rintro ⟨hs, hs'⟩
  rw [Statement.covers_iff] at hs hs'
  exact h (FixedWidth.text_lt_of_not_lt_of_lt hs'.1 hs.2)

/-- The days a tick may state for a partner start, under the tick's offset, no earlier than every
stored period of the partner ends. -/
def StartsAfter (ctx : TickContext) (store : Store) (through : BillingDay) : Prop :=
  ∀ partner ∈ store.partners, ∀ s ∈ store.statements, s.consumerId = partner.consumerId →
    ∀ day : BillingDay, through.day - 30 ≤ day.day → day.day ≤ through.day →
      (∀ stated : BillingDay, FourDigitYear stated.day →
        store.HasDay partner.consumerId stated → stated.day < day.day) →
      ¬ BillingDay.startText day.day ctx.gen.timezone < s.periodEnd

/-! ## One tick -/

/-- The tables in the middle of a tick: what was there when it started, and statements of days of
its window under its own offset. -/
structure Midway (ctx : TickContext) (store : Store) (through : BillingDay) (reached : Store) :
    Prop where
  dated : reached.Dated
  disjoint : reached.PeriodsDisjoint
  kept : ∀ s ∈ store.statements, s ∈ reached.statements
  origin : ∀ s ∈ reached.statements, s ∈ store.statements ∨
    ∃ partner day, RowFor ctx partner day s ∧ through.day - 30 ≤ day.day ∧
      day.day ≤ through.day

section Tick

variable {ctx : TickContext} {store reached written : Store} {through : BillingDay}
  {partner : Partner} {days : List BillingDay}

/-- A day of a walk starts no earlier than every period of the partner ends. -/
theorem Midway.walk_starts_after (h : Midway ctx store through reached)
    (hthrough : ctx.gen.closableThrough ctx.now.utc = .ok (some through))
    (hafter : StartsAfter ctx store through) (hpartner : partner ∈ store.partners)
    (hdays : walkFor ctx reached partner through = .ok days) {day : BillingDay} (hday : day ∈ days)
    {s : Statement} (hs : s ∈ reached.statements) (hconsumer : s.consumerId = partner.consumerId) :
    ¬ BillingDay.startText day.day ctx.gen.timezone < s.periodEnd := by
  have hge := Generator.closableThrough_ge hthrough
  have hmax := Generator.closableThrough_lt_max hthrough
  obtain ⟨hlow, hhigh⟩ := walk_in_window hdays hday
  rcases h.origin s hs with hstored | ⟨other, stated, hrow, hstatedLow, hstatedHigh⟩
  · refine hafter partner hpartner s hstored hconsumer day hlow hhigh ?_
    rintro stated hyear ⟨s', hs', hconsumer', hdate'⟩
    exact walkFor_after h.dated hdays hday hyear ⟨s', h.kept s' hs', hconsumer', hdate'⟩
  · have hyear := (window_fourDigitYear hthrough hstatedLow hstatedHigh).1
    have hlt := walkFor_after h.dated hdays hday hyear ⟨s, hs, hconsumer, hrow.billingDate⟩
    rw [hrow.periodEnd, BillingDay.startText_lt_iff (by omega) (by omega) (by omega) (by omega)]
    omega

/-- Two days of one offset cover nothing together. -/
theorem rows_disjoint {day day' : BillingDay} {row row' : Statement}
    (hrow : RowFor ctx partner day row) (hrow' : RowFor ctx partner day' row')
    (hlow : -366 ≤ day.day) (hlow' : -366 ≤ day'.day) (hmax : day.day + 1 ≤ maxDay)
    (hmax' : day'.day + 1 ≤ maxDay) (hne : row.billingDate ≠ row'.billingDate) (text : String) :
    ¬ (row.covers text ∧ row'.covers text) := by
  have hdays : day.day ≠ day'.day := by
    intro heq
    apply hne
    rw [hrow.billingDate, hrow'.billingDate, Date.ext heq]
  rcases lt_or_gt_of_ne hdays with hlt | hlt
  · apply disjoint_of_ends
    rw [hrow.periodEnd, hrow'.periodStart,
      BillingDay.startText_lt_iff (by omega) (by omega) (by omega) (by omega)]
    omega
  · rw [and_comm]
    apply disjoint_of_ends
    rw [hrow'.periodEnd, hrow.periodStart,
      BillingDay.startText_lt_iff (by omega) (by omega) (by omega) (by omega)]
    omega

/-- A walk whose days start after every stored period keeps periods apart. -/
theorem Midway.extends (h : Midway ctx store through reached)
    (hthrough : ctx.gen.closableThrough ctx.now.utc = .ok (some through))
    (hafter : StartsAfter ctx store through) (hpartner : partner ∈ store.partners)
    (hdays : walkFor ctx reached partner through = .ok days)
    (hextends : Extends ctx partner days reached written) : Midway ctx store through written := by
  have hge := Generator.closableThrough_ge hthrough
  have hmax := Generator.closableThrough_lt_max hthrough
  have hwindow : ∀ day ∈ days, through.day - 30 ≤ day.day ∧ day.day ≤ through.day :=
    fun day => walk_in_window hdays
  obtain ⟨new, hnew, hrows, hdistinct⟩ := hextends.statements
  refine ⟨hextends.dated h.dated fun day hday =>
    window_fourDigitYear hthrough (hwindow day hday).1 (hwindow day hday).2, ?_, ?_, ?_⟩
  · rw [Store.PeriodsDisjoint, hnew, List.pairwise_append]
    refine ⟨h.disjoint, ?_, ?_⟩
    · refine hdistinct.imp_of_mem fun {row row'} hrow hrow' hne _ => ?_
      obtain ⟨day, hday, hfor⟩ := hrows row hrow
      obtain ⟨day', hday', hfor'⟩ := hrows row' hrow'
      have hd := hwindow day hday
      have hd' := hwindow day' hday'
      exact rows_disjoint hfor hfor' (by omega) (by omega) (by omega) (by omega) hne
    · intro s hs row hrow hconsumer
      obtain ⟨day, hday, hfor⟩ := hrows row hrow
      apply disjoint_of_ends
      rw [hfor.periodStart]
      exact h.walk_starts_after hthrough hafter hpartner hdays hday hs
        (hconsumer.trans hfor.consumerId)
  · intro s hs
    rw [hnew]
    exact List.mem_append_left _ (h.kept s hs)
  · intro s hs
    rw [hnew] at hs
    rcases List.mem_append.1 hs with hs | hs
    · exact h.origin s hs
    · obtain ⟨day, hday, hfor⟩ := hrows s hs
      exact Or.inr ⟨partner, day, hfor, hwindow day hday⟩

end Tick

/-- A tick whose days start after every stored period keeps the partners' periods apart. -/
theorem tick_keeps_disjoint {ctx : TickContext} {store : Store} (hdated : store.Dated)
    (hdisjoint : store.PeriodsDisjoint)
    (hafter : ∀ through, ctx.gen.closableThrough ctx.now.utc = .ok (some through) →
      StartsAfter ctx store through) : (closeDays ctx store).1.store.PeriodsDisjoint := by
  cases hthrough : ctx.gen.closableThrough ctx.now.utc with
  | error panic =>
    simp only [closeDays, hthrough]
    exact hdisjoint
  | ok closable =>
    cases closable with
    | none =>
      simp only [closeDays, hthrough]
      exact hdisjoint
    | some through =>
      refine (closeDays_keeps (Midway ctx store through)
        ⟨hdated, hdisjoint, fun _ => id, fun _ => Or.inl⟩ ?_).disjoint
      intro through' hthrough' partner hpartner reached hreached days hdays written hextends
      obtain rfl : through = through' := by
        rw [hthrough] at hthrough'
        simpa using hthrough'
      exact hreached.extends hthrough (hafter through hthrough) hpartner hdays hextends

/-! ## Runs -/

/-- The stores reached by ticks, each under an offset of its own, whose days start after every
stored period of their partner.  Usage and partners may change between ticks, and the database may
fail anywhere. -/
inductive OffsetRun : Store → Prop
  | start {store : Store} (h : store.statements = []) : OffsetRun store
  | tick {store : Store} (ctx : TickContext) (partners : List Partner) (usage : List UsageRow)
      (hrun : OffsetRun store)
      (hafter : ∀ through, ctx.gen.closableThrough ctx.now.utc = .ok (some through) →
        StartsAfter ctx { store with partners := partners, usage := usage } through) :
      OffsetRun (closeDays ctx { store with partners := partners, usage := usage }).1.store

/-- A tick over tables in which only the partners and the usage have changed. -/
theorem OffsetRun.tick_on {store : Store} (hrun : OffsetRun store) (ctx : TickContext) (next : Store)
    (hnext : { store with partners := next.partners, usage := next.usage } = next)
    (hafter : ∀ through, ctx.gen.closableThrough ctx.now.utc = .ok (some through) →
      StartsAfter ctx next through) : OffsetRun (closeDays ctx next).1.store := by
  have htick := hrun.tick ctx next.partners next.usage
  rw [hnext] at htick
  exact htick hafter

theorem OffsetRun.disjoint {store : Store} (h : OffsetRun store) :
    store.Dated ∧ store.PeriodsDisjoint := by
  induction h with
  | start h =>
    refine ⟨fun s hs => ?_, ?_⟩
    · rw [h] at hs
      cases hs
    · rw [Store.PeriodsDisjoint, h]
      exact List.Pairwise.nil
  | tick ctx partners usage _ hafter ih =>
    obtain ⟨hdated, hdisjoint⟩ := ih
    exact ⟨closeDays_dated ctx hdated, tick_keeps_disjoint hdated hdisjoint hafter⟩

/-- Along such runs the periods of one partner's statements are disjoint, and a usage row lies in
the period of one statement of its partner at most. -/
theorem run_bills_once {store : Store} (hrun : OffsetRun store) :
    store.PeriodsDisjoint ∧ ∀ row : UsageRow, (store.statements.filter fun s =>
      s.consumerId = row.consumerId && s.covers row.createdAt).length ≤ 1 := by
  have hdisjoint := hrun.disjoint.2
  refine ⟨hdisjoint, fun row => ?_⟩
  have hpairwise := hdisjoint.filter fun s : Statement =>
    s.consumerId = row.consumerId && s.covers row.createdAt
  generalize hlist : (store.statements.filter fun s : Statement =>
    s.consumerId = row.consumerId && s.covers row.createdAt) = list at hpairwise
  match list, hpairwise with
  | [], _ => exact Nat.zero_le 1
  | [_], _ => exact le_rfl
  | s :: s' :: rest, hpairwise =>
    have hmem : ∀ t ∈ s :: s' :: rest, t.consumerId = row.consumerId ∧ t.covers row.createdAt := by
      intro t ht
      rw [← hlist] at ht
      simpa using (List.mem_filter.1 ht).2
    have hs := hmem s List.mem_cons_self
    have hs' := hmem s' (List.mem_cons_of_mem s List.mem_cons_self)
    exact absurd ⟨hs.2, hs'.2⟩
      (List.rel_of_pairwise_cons hpairwise List.mem_cons_self (hs.1.trans hs'.1.symm) row.createdAt)

namespace Sample

/-- The first tick, under UTC. -/
def afterUtcTick : Store :=
  (closeDays (tick {}) (store (partner .reconciliation (count 720)) usage)).1.store

/-- A tick ten hours later, after a restart with the offset at UTC+14:00. -/
def eastTick : TickContext :=
  { tick {} with
    gen := { gen with timezone := ⟨840, by decide⟩ }
    now := ⟨1790590500000000000, by decide⟩ }

/-- A tick a day later, after a restart with the offset at UTC-01:00. -/
def westTick : TickContext :=
  { tick {} with
    gen := { gen with timezone := ⟨-60, by decide⟩ }
    now := ⟨1790644500000000000, by decide⟩ }

def beforeWestTick : Store :=
  { afterUtcTick with partners := [partner .reconciliation (count 720)], usage := usage }

def afterWestTick : Store := (closeDays westTick beforeWestTick).1.store

/-- The one day left starts an hour after the last period under UTC has ended. -/
theorem westTick_startsAfter {before : Store} {partners : List Partner} {usage : List UsageRow}
    (hpartners : ∀ p ∈ partners, p.consumerId = "acme")
    (hstated : (getStatement before "acme" day.toText).isSome)
    (hends : ∀ s ∈ before.statements, ¬ BillingDay.startText 20724 westTick.gen.timezone < s.periodEnd)
    {through : BillingDay}
    (hthrough : westTick.gen.closableThrough westTick.now.utc = .ok (some through)) :
    StartsAfter westTick { before with partners := partners, usage := usage } through := by
  have hlast : westTick.gen.closableThrough westTick.now.utc = .ok (some ⟨20724, by decide⟩) := by
    decide +kernel
  obtain rfl : through = ⟨20724, by decide⟩ := by
    rw [hlast] at hthrough
    exact (Option.some.inj (Except.ok.inj hthrough)).symm
  intro p hp s hs _ d _ htop hafter
  rw [hpartners p hp] at hafter
  have hnewest := hafter day (fourDigitYear_of_range (by decide) (by decide))
    (Store.hasDay_iff.2 hstated)
  have hday : d.day = 20724 := by
    have hstated : day.day = 20723 := rfl
    have hthrough : d.day ≤ 20724 := htop
    omega
  rw [hday]
  exact hends s hs

end Sample

/-- After a tick under UTC and one under an offset further west no row is in two periods. -/
theorem run_bills_once_sample :
    Sample.afterWestTick.statements.map Statement.periodStart =
        ["2026-09-26T00:00:00.000000000Z", "2026-09-27T00:00:00.000000000Z",
          "2026-09-28T01:00:00.000000000Z"] ∧
      Sample.afterWestTick.PeriodsDisjoint ∧ ∀ row : UsageRow,
        (Sample.afterWestTick.statements.filter fun s =>
          s.consumerId = row.consumerId && s.covers row.createdAt).length ≤ 1 := by
  have hstarted : OffsetRun (Sample.store (Sample.partner .reconciliation (Sample.count 720)) []) :=
    .start rfl
  have hfirst : OffsetRun Sample.afterUtcTick :=
    hstarted.tick_on (Sample.tick {})
      (Sample.store (Sample.partner .reconciliation (Sample.count 720)) Sample.usage) rfl
      fun _ _ _ _ _ hs => absurd hs List.not_mem_nil
  have hstored : (getStatement Sample.afterUtcTick "acme" Sample.day.toText).isSome ∧
      (∀ s ∈ Sample.afterUtcTick.statements,
        ¬ BillingDay.startText 20724 Sample.westTick.gen.timezone < s.periodEnd) ∧
      Sample.afterWestTick.statements.map Statement.periodStart =
        ["2026-09-26T00:00:00.000000000Z", "2026-09-27T00:00:00.000000000Z",
          "2026-09-28T01:00:00.000000000Z"] := by
    decide +kernel
  obtain ⟨hstated, hends, hperiods⟩ := hstored
  have hsecond : OffsetRun Sample.afterWestTick :=
    hfirst.tick_on Sample.westTick Sample.beforeWestTick rfl
      fun _ hthrough => Sample.westTick_startsAfter (by simp [Sample.partner]) hstated hends hthrough
  exact ⟨hperiods, run_bills_once hsecond⟩

/-- After the offset moved east, a row of 2026-09-27T12:00Z is in the periods of two statements of
its partner, and both bill it. -/
theorem row_billed_twice :
    (Sample.afterUtcTick.statements.filter fun s =>
        s.covers "2026-09-27T12:00:00.000000000Z").map Statement.billingDate = ["2026-09-27"] ∧
      ((closeDays Sample.eastTick Sample.afterUtcTick).1.store.statements.filter fun s =>
        s.covers "2026-09-27T12:00:00.000000000Z").map Statement.billingDate =
          ["2026-09-27", "2026-09-28"] ∧
      ((closeDays Sample.eastTick Sample.afterUtcTick).1.store.lines.map
        StatementLine.requestCount) = [1, 1] := by
  decide +kernel

end PartnerPortal

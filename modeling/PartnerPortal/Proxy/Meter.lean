import PartnerPortal.Ledger.Types
import PartnerPortal.Lib.Duty

/-!
# The stream meter

Owns the record of a request while its response is streamed.  The end of the stream, its breaking
off and the dropping of the meter each build a terminal record, and a latch lets only the first of
them hand its record over.

Results:
- `StreamMeter.claim_conserves` — a claim hands over a record or leaves the latch as it was;
- `meter_hands_over_once` — whatever order the meter is finished and dropped in, one record is
  handed over, and it is terminal.
-/

namespace PartnerPortal

abbrev Bytes := List UInt8

/-- How texts and counts are read off an upstream's bytes. -/
structure Reading where
  sanitizeReason : String → List String → String
  boundedErrorBody : Bytes → String
  upstreamErrorMessage : Bytes → Option String
  extractUsage : Bytes → Endpoint → Usage
  /-- what the scanner of a stream has found once it was fed the frames -/
  scannedUsage : Endpoint → List Bytes → Option Usage
  /-- a status code with its canonical reason -/
  displayStatus : UInt16 → String

/-- When something happens: the age of the request, and the configuration then in force. -/
structure Moment where
  elapsedMs : UInt64
  credentials : List String
  timeoutSecs : Nat

/-- The latch of a meter. -/
inductive MeterLatch where
  | armed
  | handedOff
deriving Repr, DecidableEq

structure StreamMeter where
  record : RequestRecord
  endpoint : Endpoint
  httpStatus : UInt16
  credentials : List String
  /-- what the scanner was fed -/
  frames : List Bytes := []
  ttftMs : Option UInt64 := none
  bytes : Nat := 0
  latch : MeterLatch := .armed
deriving DecidableEq

def clientDisconnect : String := "client disconnected during streaming"

namespace StreamMeter

/-- Claim the one terminal write, unless an earlier caller did. -/
def armOnce (meter : StreamMeter) : Option StreamMeter :=
  match meter.latch with
  | .armed => some { meter with latch := .handedOff }
  | .handedOff => none

/-- Build a record under the lock and hand it over after it.  No other caller comes in between. -/
def claim (meter : StreamMeter) (build : StreamMeter → RequestRecord) :
    StreamMeter × Option RequestRecord :=
  match meter.armOnce with
  | none => (meter, none)
  | some claimed => (claimed, some (build claimed))

/-- Time to the first frame is measured once. -/
def observe (meter : StreamMeter) (now : Moment) (data : Bytes) : StreamMeter :=
  { meter with
    ttftMs := some (meter.ttftMs.getD now.elapsedMs)
    bytes := meter.bytes + data.length
    frames := meter.frames ++ [data] }

def withTtft (meter : StreamMeter) (record : RequestRecord) : RequestRecord :=
  match meter.ttftMs with
  | some ttft => record.setTtft ttft
  | none => record

section Finishing

variable (reading : Reading)

def usage (meter : StreamMeter) : Option Usage :=
  reading.scannedUsage meter.endpoint meter.frames

/-- Keep the usage that was observed, and leave the rest unavailable. -/
def withUsage (meter : StreamMeter) (record : RequestRecord) : RequestRecord :=
  match meter.usage reading with
  | some usage => record.setUsage usage
  | none => record

def completedRecord (now : Moment) (meter : StreamMeter) : RequestRecord :=
  meter.withTtft (meter.record.complete meter.httpStatus ((meter.usage reading).getD {}) now.elapsedMs)

def brokenRecord (now : Moment) (reason : String) (meter : StreamMeter) : RequestRecord :=
  let reason := reading.sanitizeReason
    (reason ++ " (after " ++ toString meter.bytes ++ " bytes)") meter.credentials
  meter.withTtft <| meter.withUsage reading <|
    meter.record.fail (some meter.httpStatus) reason now.elapsedMs

def interruptedRecord (now : Moment) (meter : StreamMeter) : RequestRecord :=
  meter.withTtft <| meter.withUsage reading <|
    meter.record.interrupt clientDisconnect now.elapsedMs

/-- The upstream stream ended normally. -/
def finishCompleted (meter : StreamMeter) (now : Moment) : StreamMeter × Option RequestRecord :=
  meter.claim (completedRecord reading now)

/-- The upstream stream broke after the response was already sent. -/
def finishBroken (meter : StreamMeter) (now : Moment) (reason : String) :
    StreamMeter × Option RequestRecord :=
  meter.claim (brokenRecord reading now reason)

/-- The drop guard. -/
def drop (meter : StreamMeter) (now : Moment) : StreamMeter × Option RequestRecord :=
  meter.claim (interruptedRecord reading now)

end Finishing

/-! ## The latch -/

/-- A meter owes its record as long as the latch is armed. -/
def owed (meter : StreamMeter) : Nat :=
  match meter.latch with
  | .armed => 1
  | .handedOff => 0

/-- A claim finds the latch armed and hands a record over, or stands down. -/
theorem claim_cases (meter : StreamMeter) (build : StreamMeter → RequestRecord) :
    (meter.owed = 1 ∧ meter.claim build = ({ meter with latch := .handedOff },
        some (build { meter with latch := .handedOff }))) ∨
      (meter.owed = 0 ∧ meter.claim build = (meter, none)) := by
  cases hlatch : meter.latch with
  | armed => exact Or.inl ⟨by simp only [owed, hlatch], by simp only [claim, armOnce, hlatch]⟩
  | handedOff => exact Or.inr ⟨by simp only [owed, hlatch], by simp only [claim, armOnce, hlatch]⟩

/-- What a claim hands over is what the meter owed. -/
theorem claim_conserves (meter : StreamMeter) (build : StreamMeter → RequestRecord) :
    (meter.claim build).2.toList.length = meter.owed := by
  obtain ⟨howed, heq⟩ | ⟨howed, heq⟩ := meter.claim_cases build <;> rw [howed, heq] <;> rfl

/-- After a claim nothing is owed. -/
theorem claim_owed (meter : StreamMeter) (build : StreamMeter → RequestRecord) :
    (meter.claim build).1.owed = 0 := by
  obtain ⟨-, heq⟩ | ⟨howed, heq⟩ := meter.claim_cases build
  · rw [heq]
    rfl
  · rw [heq, howed]

theorem claim_record (meter : StreamMeter) (build : StreamMeter → RequestRecord) :
    (meter.claim build).1.record = meter.record := by
  obtain ⟨-, heq⟩ | ⟨-, heq⟩ := meter.claim_cases build <;> rw [heq]

/-- A record that is handed over was built from the meter's own. -/
theorem claim_some {meter : StreamMeter} {build : StreamMeter → RequestRecord}
    {record : RequestRecord} (h : (meter.claim build).2 = some record) :
    ∃ claimed : StreamMeter, claimed.record = meter.record ∧ record = build claimed := by
  obtain ⟨-, heq⟩ | ⟨-, heq⟩ := meter.claim_cases build
  · rw [heq] at h
    exact ⟨{ meter with latch := .handedOff }, rfl, (Option.some.inj h).symm⟩
  · rw [heq] at h
    cases h

end StreamMeter

/-! ## Terminal records -/

/-- The record ends the request of that id. -/
structure RequestRecord.Ends (record : RequestRecord) (requestId : String) : Prop where
  id : record.requestId = requestId
  terminal : record.isTerminal = true

theorem RequestRecord.complete_ends (record : RequestRecord) (httpStatus : UInt16) (usage : Usage)
    (durationMs : UInt64) : (record.complete httpStatus usage durationMs).Ends record.requestId :=
  ⟨rfl, rfl⟩

theorem RequestRecord.fail_ends (record : RequestRecord) (httpStatus : Option UInt16)
    (error : String) (durationMs : UInt64) :
    (record.fail httpStatus error durationMs).Ends record.requestId :=
  ⟨rfl, rfl⟩

theorem RequestRecord.interrupt_ends (record : RequestRecord) (reason : String)
    (durationMs : UInt64) : (record.interrupt reason durationMs).Ends record.requestId :=
  ⟨rfl, rfl⟩

namespace StreamMeter

theorem withTtft_ends {meter : StreamMeter} {record : RequestRecord} {requestId : String}
    (h : record.Ends requestId) : (meter.withTtft record).Ends requestId := by
  unfold withTtft
  split
  · exact ⟨h.id, h.terminal⟩
  · exact h

theorem withUsage_ends {reading : Reading} {meter : StreamMeter} {record : RequestRecord}
    {requestId : String} (h : record.Ends requestId) :
    (meter.withUsage reading record).Ends requestId := by
  unfold withUsage
  split
  · exact ⟨h.id, h.terminal⟩
  · exact h

variable (reading : Reading) (now : Moment)

theorem completedRecord_ends (meter : StreamMeter) :
    (meter.completedRecord reading now).Ends meter.record.requestId :=
  withTtft_ends (meter.record.complete_ends _ _ _)

theorem brokenRecord_ends (reason : String) (meter : StreamMeter) :
    (meter.brokenRecord reading now reason).Ends meter.record.requestId :=
  withTtft_ends (withUsage_ends (meter.record.fail_ends _ _ _))

theorem interruptedRecord_ends (meter : StreamMeter) :
    (meter.interruptedRecord reading now).Ends meter.record.requestId :=
  withTtft_ends (withUsage_ends (meter.record.interrupt_ends _ _))

end StreamMeter

/-! ## Finishing and dropping in any order -/

/-- A call on a meter.  Each runs under the meter's lock. -/
inductive MeterCall where
  | observe (data : Bytes)
  | finishCompleted
  | finishBroken (reason : String)
  | drop
deriving DecidableEq

/-- A meter and the records handed over so far. -/
structure Metering where
  meter : StreamMeter
  handed : List RequestRecord := []

namespace Metering

/-- Replace the meter, handing over what the call built. -/
def handOver (metering : Metering) (out : StreamMeter × Option RequestRecord) : Metering where
  meter := out.1
  handed := metering.handed ++ out.2.toList

def step (reading : Reading) (metering : Metering) (event : Moment × MeterCall) :
    Option Metering :=
  match event with
  | (now, .observe data) => some { metering with meter := metering.meter.observe now data }
  | (now, .finishCompleted) => some (metering.handOver (metering.meter.finishCompleted reading now))
  | (now, .finishBroken reason) =>
    some (metering.handOver (metering.meter.finishBroken reading now reason))
  | (now, .drop) => some (metering.handOver (metering.meter.drop reading now))

def owed (metering : Metering) : Nat := metering.meter.owed

/-- A call observes a frame or is a claim of a record that ends the request. -/
theorem step_cases {reading : Reading} {metering next : Metering} {event : Moment × MeterCall}
    (h : metering.step reading event = some next) :
    (∃ data, event.2 = .observe data ∧
        next = { metering with meter := metering.meter.observe event.1 data }) ∨
      ∃ build : StreamMeter → RequestRecord,
        (∀ m : StreamMeter, (build m).Ends m.record.requestId) ∧
          next = metering.handOver (metering.meter.claim build) := by
  obtain ⟨now, call⟩ := event
  cases call with
  | observe data => exact Or.inl ⟨data, rfl, (Option.some.inj h).symm⟩
  | finishCompleted =>
    exact Or.inr ⟨_, StreamMeter.completedRecord_ends reading now, (Option.some.inj h).symm⟩
  | finishBroken reason =>
    exact Or.inr ⟨_, StreamMeter.brokenRecord_ends reading now reason, (Option.some.inj h).symm⟩
  | drop =>
    exact Or.inr ⟨_, StreamMeter.interruptedRecord_ends reading now, (Option.some.inj h).symm⟩

/-- The meter's record keeps its id, and what was handed over ends its request. -/
structure Sound (requestId : String) (metering : Metering) : Prop where
  id : metering.meter.record.requestId = requestId
  ends : ∀ record ∈ metering.handed, record.Ends requestId

theorem Sound.handOver {requestId : String} {metering : Metering} (h : metering.Sound requestId)
    {build : StreamMeter → RequestRecord}
    (hbuild : ∀ m : StreamMeter, (build m).Ends m.record.requestId) :
    (metering.handOver (metering.meter.claim build)).Sound requestId where
  id := (congrArg RequestRecord.requestId (StreamMeter.claim_record _ _)).trans h.id
  ends := by
    intro record hrecord
    rcases List.mem_append.1 hrecord with hrecord | hrecord
    · exact h.ends record hrecord
    · obtain ⟨claimed, hclaimed, rfl⟩ := StreamMeter.claim_some (Option.mem_toList.1 hrecord)
      rw [← h.id, ← hclaimed]
      exact hbuild claimed

theorem Sound.step {reading : Reading} {requestId : String} {metering next : Metering}
    {event : Moment × MeterCall} (h : metering.Sound requestId)
    (hstep : metering.step reading event = some next) : next.Sound requestId := by
  obtain ⟨data, -, rfl⟩ | ⟨build, hbuild, rfl⟩ := step_cases hstep
  · exact ⟨h.id, h.ends⟩
  · exact h.handOver hbuild

/-- No call loses the record. -/
theorem conserves (reading : Reading) :
    Duty.Conserves (Metering.step reading) Metering.owed Metering.handed fun _ _ => False where
  keeps := by
    intro metering event next hstep _
    obtain ⟨data, -, rfl⟩ | ⟨build, -, rfl⟩ := step_cases hstep
    · rfl
    · have hclaim := metering.meter.claim_conserves build
      have howed := metering.meter.claim_owed build
      simp only [Duty.total, owed, handOver, List.length_append]
      omega
  loses := fun _ _ _ _ hfalse => hfalse.elim

theorem undisturbed {reading : Reading} (metering : Metering) (events : List (Moment × MeterCall)) :
    Duty.Undisturbed (Metering.step reading) (fun _ _ => False) metering events := by
  induction events generalizing metering with
  | nil => trivial
  | cons event events ih => exact ⟨not_false, fun next _ => ih next⟩

/-- Once nothing is owed, nothing will be. -/
theorem step_owed {reading : Reading} {metering next : Metering} {event : Moment × MeterCall}
    (hstep : metering.step reading event = some next) (h : metering.owed = 0) : next.owed = 0 := by
  obtain ⟨data, -, rfl⟩ | ⟨build, -, rfl⟩ := step_cases hstep
  · exact h
  · exact metering.meter.claim_owed build

end Metering

/-- Whatever order a meter is fed, finished and dropped in, as soon as it was finished or dropped
one record was handed over, and it ends the request. -/
theorem meter_hands_over_once {reading : Reading} {meter : StreamMeter}
    (harmed : meter.latch = .armed) {before after : List (Moment × MeterCall)} {now : Moment}
    {call : MeterCall} (hcall : ∀ data, call ≠ .observe data) {metering : Metering}
    (hrun : Duty.run (Metering.step reading) ⟨meter, []⟩ (before ++ (now, call) :: after) =
      some metering) :
    ∃ record, metering.handed = [record] ∧ record.Ends meter.record.requestId := by
  have hsound : metering.Sound meter.record.requestId :=
    Duty.run_keeps (fun _ _ _ hstep h => h.step hstep) hrun ⟨rfl, fun _ h => by cases h⟩
  have howed : metering.owed = 0 := by
    obtain ⟨middle, -, hrun⟩ := Duty.run_append_iff.1 hrun
    obtain ⟨claimed, hclaimed, hrun⟩ := Duty.run_cons_iff.1 hrun
    suffices hclaim : claimed.owed = 0 from
      @Duty.run_keeps _ _ _ _ _ (fun m : Metering => m.owed = 0)
        (fun _ _ _ hstep h => Metering.step_owed hstep h) _ hrun hclaim
    obtain ⟨data, heq, -⟩ | ⟨build, -, rfl⟩ := Metering.step_cases hclaimed
    · exact absurd heq (hcall data)
    · exact middle.meter.claim_owed build
  have hone : metering.handed.length = 1 := by
    rw [((Metering.conserves reading).run_paid_iff hrun).2 ⟨Metering.undisturbed _ _, howed⟩]
    simp [Duty.total, Metering.owed, StreamMeter.owed, harmed]
  obtain ⟨record, hrecord⟩ := List.length_eq_one_iff.1 hone
  exact ⟨record, hrecord, hsound.ends record (by rw [hrecord]; exact List.mem_cons_self)⟩

end PartnerPortal

import PartnerPortal.Proxy.Handler

/-!
# One terminal record for every accepted request

From the acknowledged accept a task owes the ledger writer one terminal record.  It is handed over
once, unless the task is dropped or the writer stopped at a wait that no drop guard covers, or a
body that is read into memory never ends.

Results:
- `ProxyTask.settles` — a task comes to rest by itself;
- `accepted_handed_over_once` — never two records are handed over, and exactly one by a task at rest
  if and only if nothing lost it and no body stalls;
- `disconnect_loses_record` — a client that leaves before the upstream answers takes the record
  along, and so does a body that stalls.
-/

namespace PartnerPortal

namespace ProxyTask

/-- A step loses a record exactly at the events that do, and keeps the sum at all others. -/
theorem conserves (reading : Reading) :
    Duty.Conserves (step reading) owed handed fun task event => task.loses event = true where
  keeps := by
    intro task event next hstep hkeeps
    obtain ⟨given, hmoves⟩ := step_moves hstep
    have howed := hmoves.owed
    rw [Bool.eq_false_iff.2 hkeeps, Bool.toNat_false] at howed
    rw [Duty.total, Duty.total, hmoves.handed, List.length_append]
    omega
  loses := by
    intro task event next hstep hloses
    obtain ⟨given, hmoves⟩ := step_moves hstep
    have howed := hmoves.owed
    rw [hloses, Bool.toNat_true] at howed
    rw [Duty.total, Duty.total, hmoves.handed, List.length_append]
    omega

/-- The task is about the request of that id, and so is everything it holds and handed over. -/
structure Sound (requestId : String) (task : ProxyTask) : Prop where
  record : task.record.requestId = requestId
  phase : task.phase.Sound requestId
  handed : ∀ r ∈ task.handed, r.Ends requestId

theorem accepted_sound (record : RequestRecord) (wantsStream : Bool) (now : Moment) :
    (accepted record wantsStream now).Sound record.requestId :=
  ⟨rfl, trivial, fun _ h => by cases h⟩

theorem Sound.step {reading : Reading} {requestId : String} {task next : ProxyTask}
    {event : Moment × ProxyEvent} (h : task.Sound requestId)
    (hstep : task.step reading event = some next) : next.Sound requestId := by
  obtain ⟨given, hmoves⟩ := step_moves hstep
  obtain ⟨hrecord, hphase, hhanded⟩ := h
  obtain ⟨hnext, hgiven⟩ := hmoves.sound (hrecord ▸ hphase)
  rw [hrecord] at hnext hgiven
  refine ⟨hmoves.record ▸ hrecord, hnext, fun r hr => ?_⟩
  rw [hmoves.handed, List.mem_append, Option.mem_toList] at hr
  exact hr.elim (hhanded r) (hgiven r)

/-! ## Coming to rest -/

/-- What happens to a task when the upstream stays silent and the client stays: a time limit passes,
the writer takes the record and commits it, the server lets go of a body that has ended.  A body that
is read into memory has no time limit. -/
def own (now : Moment) (task : ProxyTask) : Option (Moment × ProxyEvent) :=
  match task.phase with
  | .forwarding _ => some (now, .timedOut)
  | .streaming _ _ => some (now, .timedOut)
  | .finalizing _ _ => some (now, .queued)
  | .acknowledging _ => some (now, .acknowledged)
  | .streamed _ => some (now, .dropped)
  | .buffering _ _ | .over => none

/-- A body is read into memory. -/
def stalled (task : ProxyTask) : Bool :=
  match task.phase with
  | .buffering _ _ => true
  | _ => false

/-- Nothing will happen by itself. -/
def atRest (task : ProxyTask) : Bool :=
  task.stalled || task.phase = .over

/-- How many steps are left at most. -/
def stepsLeft (task : ProxyTask) : Nat :=
  match task.phase with
  | .forwarding _ => 3
  | .finalizing _ _ | .streaming _ _ => 2
  | .acknowledging _ | .streamed _ => 1
  | .buffering _ _ | .over => 0

theorem own_eq_none_iff {now : Moment} {task : ProxyTask} :
    task.own now = none ↔ task.atRest = true := by
  unfold own atRest stalled
  split <;> simp [*]

theorem own_steps (reading : Reading) (now : Moment) :
    Duty.Own (step reading) (fun task event => task.loses event = true) (own now) stepsLeft where
  steps := by
    intro task event hown
    unfold own at hown
    split at hown <;> rename_i hphase <;> cases hown <;>
      refine ⟨_, by rw [step, hphase]; rfl, ?_⟩ <;> rw [stepsLeft, stepsLeft, hphase] <;>
      exact Nat.lt_succ_self _
  guarded := by
    intro task event hown
    unfold own at hown
    split at hown <;> cases hown <;> simp [loses, *]

/-- A task comes to rest by itself, and loses nothing on the way. -/
theorem settles (reading : Reading) (now : Moment) (task : ProxyTask) :
    ∃ events rest, Duty.run (step reading) task events = some rest ∧ rest.atRest = true ∧
      Duty.Undisturbed (step reading) (fun task event => task.loses event = true) task events := by
  obtain ⟨events, rest, hrun, hrest, hundisturbed⟩ := (own_steps reading now).exists_rest task
  exact ⟨events, rest, hrun, own_eq_none_iff.1 hrest, hundisturbed⟩

/-- At rest a record is owed exactly when a body stalls. -/
theorem owed_of_atRest {task : ProxyTask} (h : task.atRest = true) :
    task.owed = 0 ↔ task.stalled = false := by
  unfold owed Phase.owed atRest stalled at *
  split <;> simp_all

end ProxyTask

/-- From an acknowledged accept on, whatever the upstream, the writer and the client do, at most one
record is ever handed over, and the task comes to rest by itself.  At rest exactly one terminal
record of the request was handed over if and only if no event lost it and no body stalls. -/
theorem accepted_handed_over_once {reading : Reading} {record : RequestRecord} {wantsStream : Bool}
    {now : Moment} {events : List (Moment × ProxyEvent)} {task : ProxyTask}
    (hrun : Duty.run (ProxyTask.step reading) (.accepted record wantsStream now) events =
      some task) :
    task.handed.length ≤ 1 ∧
      (∃ later rest, Duty.run (ProxyTask.step reading) task later = some rest ∧
        rest.atRest = true) ∧
      (task.atRest = true →
        ((∃ r, task.handed = [r] ∧ r.Ends record.requestId) ↔
          Duty.Undisturbed (ProxyTask.step reading) (fun t event => t.loses event = true)
            (.accepted record wantsStream now) events ∧ task.stalled = false)) := by
  have hconserves := ProxyTask.conserves reading
  have hsound : task.Sound record.requestId :=
    Duty.run_keeps (fun _ _ _ hstep h => h.step hstep) hrun
      (ProxyTask.accepted_sound record wantsStream now)
  have htotal : Duty.total ProxyTask.owed ProxyTask.handed (.accepted record wantsStream now) = 1 :=
    rfl
  refine ⟨?_, ?_, fun hrest => ?_⟩
  · have hle := hconserves.run_le hrun
    rw [htotal, Duty.total] at hle
    omega
  · obtain ⟨later, rest, hlater, hrest, -⟩ := ProxyTask.settles reading now task
    exact ⟨later, rest, hlater, hrest⟩
  · rw [← ProxyTask.owed_of_atRest hrest, ← hconserves.run_paid_iff hrun, htotal,
      List.length_eq_one_iff]
    refine exists_congr fun r => and_iff_left_of_imp fun hr => hsound.handed r ?_
    rw [hr]
    exact List.mem_cons_self

namespace Sample

def reading : Reading where
  sanitizeReason := fun reason _ => reason
  boundedErrorBody := fun _ => ""
  upstreamErrorMessage := fun _ => none
  extractUsage := fun _ _ => {}
  scannedUsage := fun _ _ => none
  displayStatus := fun status => toString status

def moment (elapsedMs : UInt64) : Moment where
  elapsedMs := elapsedMs
  credentials := ["sk-upstream-key"]
  timeoutSecs := 120

def proxyClock : Instant := noon

def acceptedRecord : RequestRecord :=
  RequestRecord.new "0198" proxyClock "acme" "gpt-4o" .chatCompletions true

def acceptedTask : ProxyTask := .accepted acceptedRecord true (moment 2)

def sseHead : UpstreamHead where
  status := 200
  contentType := some "text/event-stream; charset=utf-8"
  buildable := true

def errorHead : UpstreamHead where
  status := 503
  contentType := some "application/json"
  buildable := true

/-- The client leaves in the middle of a stream. -/
def midStream : List (Moment × ProxyEvent) :=
  [(moment 40, .responded sseHead), (moment 55, .frame [100, 97, 116, 97]), (moment 70, .dropped)]

def midStreamTask : ProxyTask :=
  (Duty.run (ProxyTask.step reading) acceptedTask midStream).getD acceptedTask

/-- The client leaves before the upstream answers. -/
def beforeHeaders : List (Moment × ProxyEvent) := [(moment 40, .dropped)]

/-- The upstream answers with an error and never ends its body. -/
def stalledBody : List (Moment × ProxyEvent) :=
  [(moment 40, .responded errorHead), (moment 41, .frame [123])]

end Sample

/-- A client that leaves in the middle of a stream loses nothing. -/
theorem accepted_handed_over_once_sample :
    Duty.Undisturbed (ProxyTask.step Sample.reading) (fun t event => t.loses event = true)
        Sample.acceptedTask Sample.midStream ∧ Sample.midStreamTask.stalled = false := by
  have hrun : Duty.run (ProxyTask.step Sample.reading)
      (.accepted Sample.acceptedRecord true (Sample.moment 2)) Sample.midStream =
        some Sample.midStreamTask := by decide +kernel
  exact ((accepted_handed_over_once hrun).2.2 (by decide +kernel)).1
    ⟨_, rfl, by decide +kernel, by decide +kernel⟩

/-- A client that leaves while the upstream is awaited takes the record along, and so does an error
body that never ends: the task is at rest and nothing was handed over. -/
theorem disconnect_loses_record :
    (Duty.run (ProxyTask.step Sample.reading) Sample.acceptedTask Sample.beforeHeaders).map
        (fun task => (task.atRest, task.handed)) = some (true, []) ∧
      (Duty.run (ProxyTask.step Sample.reading) Sample.acceptedTask Sample.stalledBody).map
        (fun task => (task.atRest, task.handed)) = some (true, []) := by
  decide +kernel

end PartnerPortal

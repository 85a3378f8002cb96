import PartnerPortal.Dashboard.Sse

/-!
# No invalidation is lost

What the dashboards of a process show, in every order of commits, readings of the version, sends,
deliveries, calls and answers.

Results:
- `summary_current` — a dashboard shows the ledger's current summary once the poller has seen the last
  commit, its stream is drained and its newest call has come back;
- `recv_le` — the change events of a stream never outnumber the commits and twice the failed readings;
- `ends_iff` — a stream can end by itself exactly when a shutdown came after it was opened.
-/

namespace PartnerPortal.Dashboard

open Broadcast Latest

variable {versions : DataVersions}

/-! ## What is still to come -/

namespace Poller

/-- The versions it holds. -/
def held : Poller → List Int
  | .starting => []
  | .sleeping lastVersion => [lastVersion]
  | .comparing lastVersion current => [lastVersion, current]

/-- How often it sends yet when nothing is committed any more and its readings succeed. -/
def due (version : Int) : Poller → Nat
  | .starting => 0
  | .sleeping lastVersion => if lastVersion = version then 0 else 1
  | .comparing lastVersion current =>
    (if current = lastVersion then 0 else 1) + if current = version then 0 else 1

theorem due_le_succ (poller : Poller) (version version' : Int) :
    poller.due version' ≤ poller.due version + 1 := by
  cases poller with
  | starting => exact Nat.zero_le _
  | sleeping lastVersion =>
    simp only [due]
    split <;> split <;> decide
  | comparing lastVersion current =>
    simp only [due]
    split <;> split <;> split <;> decide

/-- A version it does not hold is one it has yet to send for. -/
theorem due_pos {poller : Poller} {version : Int} (hstarted : poller ≠ .starting)
    (hnew : version ∉ poller.held) : 0 < poller.due version := by
  cases poller with
  | starting => exact absurd rfl hstarted
  | sleeping lastVersion =>
    have hne : lastVersion ≠ version := fun h => hnew (by simp [held, h])
    simp [due, hne]
  | comparing lastVersion current =>
    have hne : current ≠ version := fun h => hnew (by simp [held, h])
    simp [due, hne]

end Poller

/-- The frames and messages of its stream that the dashboard has not acted on. -/
def Client.Notice (length : Nat) (client : Client) : Prop :=
  ∃ stream handled, client.stream = some (stream, handled) ∧
    (stream.rx < length ∨ stream.body = .ended ∨ .dataChanged ∈ stream.frames.drop handled)

/-- Its newest call, once answered, was answered from this ledger. -/
def Client.Current (ledger : Ledger) (client : Client) : Prop :=
  ∀ read, client.summary.newest.bind Call.value = some read → read = ledger

/-- Its receiver is in the channel, and it handles frames that were yielded. -/
def Client.Placed (length : Nat) (client : Client) : Prop :=
  ∀ stream handled, client.stream = some (stream, handled) →
    stream.rx ≤ length ∧ handled ≤ stream.frames.length

/-- The messages its stream has yet to take. -/
def Client.unread (length : Nat) (client : Client) : Nat :=
  match client.stream with
  | none => 0
  | some (stream, _) => length - stream.rx

/-! ## One step of a stream -/

namespace SseStream

variable {bc : SseBroadcaster} {stream stream' : SseStream}

theorem connect_some (h : stream.connect = some stream') :
    stream.body = .opening ∧ stream' = { stream.yield .connected with body := .live } := by
  unfold connect at h
  split at h
  · rename_i hbody
    cases h
    exact ⟨hbody, rfl⟩
  · cases h

theorem close_some (h : stream.close bc = some stream') :
    stream.body = .live ∧ stream.seen ≠ bc.shutdown ∧
      stream' = { stream.yield .serverShutdown with body := .ended } := by
  unfold close at h
  split at h
  · rename_i hbody
    obtain ⟨hseen, h⟩ := Option.ite_none_right_eq_some.1 h
    cases h
    exact ⟨hbody, hseen, rfl⟩
  · cases h

theorem recv_some (h : stream.recv bc = some stream') :
    stream.body = .live ∧ ∃ next, stream.rx < next ∧ next ≤ bc.tx.sent.length ∧
      stream' = { stream.yield .dataChanged with rx := next } := by
  unfold recv at h
  split at h
  · rename_i hbody
    obtain ⟨⟨received, next⟩, hrecv, hstream⟩ := Option.map_eq_some_iff.1 h
    obtain ⟨hforward, hlength⟩ := Channel.recv_next hrecv
    refine ⟨hbody, next, hforward, hlength, ?_⟩
    cases received <;> exact hstream.symm
  · cases h

end SseStream

theorem Client.advance_some {client client' : Client} {next : SseStream → Option SseStream}
    (h : client.advance next = some client') :
    ∃ stream handled stream', client.stream = some (stream, handled) ∧ next stream = some stream' ∧
      client' = { client with stream := some (stream', handled) } := by
  obtain ⟨⟨stream, handled⟩, hstream, h⟩ := Option.bind_eq_some_iff.1 h
  obtain ⟨stream', hnext, h⟩ := Option.map_eq_some_iff.1 h
  exact ⟨stream, handled, stream', hstream, hnext, h.symm⟩

/-! ## One step of a dashboard -/

namespace Client

variable {bc : SseBroadcaster} {ledger : Ledger} {client client' : Client} {event : ClientEvent}
  {length : Nat}

theorem handleFrame_some (h : client.step bc ledger .handleFrame = some client') :
    ∃ stream handled frame, client.stream = some (stream, handled) ∧
      stream.frames[handled]? = some frame ∧ client'.stream = some (stream, handled + 1) ∧
      client'.summary = if frame = .dataChanged then client.summary.call else client.summary := by
  obtain ⟨⟨stream, handled⟩, hstream, h⟩ := Option.bind_eq_some_iff.1 h
  obtain ⟨frame, hframe, h⟩ := Option.map_eq_some_iff.1 h
  cases h
  exact ⟨stream, handled, frame, hstream, hframe, rfl, rfl⟩

theorem openStream_some (h : client.step bc ledger .openStream = some client') :
    client.stream = none ∧ client' = { client with stream := some (sseResponse bc, 0) } := by
  simp only [step] at h
  split at h
  · rename_i hstream
    cases h
    exact ⟨hstream, rfl⟩
  · cases h

/-- The calls of `fetchSummary` leave the stream alone. -/
theorem step_stream (h : client.step bc ledger event = some client')
    (hcall : event = .fetchSummary ∨ (∃ ticket failed, event = .answer ticket failed) ∨
      ∃ ticket, event = .settle ticket) : client'.stream = client.stream := by
  rcases hcall with rfl | ⟨ticket, failed, rfl⟩ | ⟨ticket, rfl⟩
  · cases h
    rfl
  · obtain ⟨summary, -, h⟩ := Option.map_eq_some_iff.1 h
    cases h
    rfl
  · obtain ⟨summary, -, h⟩ := Option.map_eq_some_iff.1 h
    cases h
    rfl

theorem Placed.mono (h : client.Placed length) {length' : Nat} (hle : length ≤ length') :
    client.Placed length' := fun stream handled hstream =>
  ⟨(h stream handled hstream).1.trans hle, (h stream handled hstream).2⟩

theorem Placed.of_stream (h : client.Placed length) (hstream : client'.stream = client.stream) :
    client'.Placed length := fun stream handled hsome => h stream handled (hstream ▸ hsome)

theorem step_placed (h : client.step bc ledger event = some client')
    (hplaced : client.Placed bc.tx.sent.length) : client'.Placed bc.tx.sent.length := by
  cases event with
  | openStream =>
    obtain ⟨-, rfl⟩ := openStream_some h
    rintro _ _ ⟨⟩
    exact ⟨Nat.le_refl _, Nat.zero_le _⟩
  | connect =>
    obtain ⟨stream, handled, stream', hstream, hnext, rfl⟩ := advance_some h
    obtain ⟨-, rfl⟩ := SseStream.connect_some hnext
    rintro _ _ ⟨⟩
    exact ⟨(hplaced _ _ hstream).1, (hplaced _ _ hstream).2.trans (by simp [SseStream.yield])⟩
  | close =>
    obtain ⟨stream, handled, stream', hstream, hnext, rfl⟩ := advance_some h
    obtain ⟨-, -, rfl⟩ := SseStream.close_some hnext
    rintro _ _ ⟨⟩
    exact ⟨(hplaced _ _ hstream).1, (hplaced _ _ hstream).2.trans (by simp [SseStream.yield])⟩
  | recv =>
    obtain ⟨stream, handled, stream', hstream, hnext, rfl⟩ := advance_some h
    obtain ⟨-, next, -, hlength, rfl⟩ := SseStream.recv_some hnext
    rintro _ _ ⟨⟩
    exact ⟨hlength, (hplaced _ _ hstream).2.trans (by simp [SseStream.yield])⟩
  | handleFrame =>
    obtain ⟨stream, handled, frame, hstream, hframe, hstream', -⟩ := handleFrame_some h
    intro _ _ hsome
    cases hstream'.symm.trans hsome
    exact ⟨(hplaced _ _ hstream).1, (List.getElem?_eq_some_iff.1 hframe).1⟩
  | fetchSummary => exact hplaced.of_stream (step_stream h (Or.inl rfl))
  | answer ticket failed => exact hplaced.of_stream (step_stream h (Or.inr (Or.inl ⟨_, _, rfl⟩)))
  | settle ticket => exact hplaced.of_stream (step_stream h (Or.inr (Or.inr ⟨_, rfl⟩)))
  | loseStream =>
    cases h
    rintro _ _ ⟨⟩

theorem step_sound (h : client.step bc ledger event = some client') (hsound : client.summary.Sound) :
    client'.summary.Sound := by
  cases event with
  | openStream =>
    obtain ⟨-, rfl⟩ := openStream_some h
    exact hsound
  | connect | close | recv =>
    obtain ⟨stream, handled, stream', -, -, rfl⟩ := advance_some h
    exact hsound
  | handleFrame =>
    obtain ⟨stream, handled, frame, -, -, -, hsummary⟩ := handleFrame_some h
    rw [hsummary]
    split
    · exact Calls.Sound.call _
    · exact hsound
  | fetchSummary =>
    cases h
    exact Calls.Sound.call _
  | answer ticket failed =>
    obtain ⟨summary, hanswer, h⟩ := Option.map_eq_some_iff.1 h
    cases h
    exact hsound.answer hanswer
  | settle ticket =>
    obtain ⟨summary, hsettle, h⟩ := Option.map_eq_some_iff.1 h
    cases h
    exact hsound.settle hsettle
  | loseStream =>
    cases h
    exact hsound

theorem Current.call (client : Client) (stream : Option (SseStream × Nat)) :
    Current ledger { stream := stream, summary := client.summary.call } := fun read hread => by
  rw [Calls.newest_call] at hread
  cases hread

/-- A frame that was yielded and not handled stays so when the body goes on. -/
theorem mem_drop_yield {stream : SseStream} {handled : Nat} {frame : SseEvent} (event : SseEvent)
    (h : frame ∈ stream.frames.drop handled) : frame ∈ (stream.yield event).frames.drop handled := by
  unfold SseStream.yield
  rw [List.drop_append]
  exact List.mem_append_left _ h

theorem step_keeps_stream (h : client.step bc ledger event = some client')
    (hkept : event ≠ .loseStream) (hstream : client.stream.isSome = true) :
    client'.stream.isSome = true := by
  cases event with
  | openStream =>
    obtain ⟨-, rfl⟩ := openStream_some h
    rfl
  | connect | close | recv =>
    obtain ⟨stream, handled, stream', -, -, rfl⟩ := advance_some h
    rfl
  | handleFrame =>
    obtain ⟨stream, handled, frame, -, -, hstream', -⟩ := handleFrame_some h
    rw [hstream']
    rfl
  | fetchSummary => rwa [step_stream h (Or.inl rfl)]
  | answer ticket failed => rwa [step_stream h (Or.inr (Or.inl ⟨_, _, rfl⟩))]
  | settle ticket => rwa [step_stream h (Or.inr (Or.inr ⟨_, rfl⟩))]
  | loseStream => exact absurd rfl hkept

/-- A dashboard that keeps its stream has yet to act on something, or has been answered since. -/
theorem step_follows (h : client.step bc ledger event = some client') (hkept : event ≠ .loseStream)
    (hstream : client.stream.isSome = true) (hplaced : client.Placed bc.tx.sent.length)
    (hfollows : client.Notice bc.tx.sent.length ∨ client.Current ledger) :
    client'.Notice bc.tx.sent.length ∨ client'.Current ledger := by
  cases event with
  | openStream =>
    obtain ⟨hnone, -⟩ := openStream_some h
    rw [hnone] at hstream
    cases hstream
  | connect =>
    obtain ⟨stream, handled, stream', hsome, hnext, rfl⟩ := advance_some h
    obtain ⟨hopening, rfl⟩ := SseStream.connect_some hnext
    refine hfollows.imp_left ?_
    rintro ⟨_, _, hsome', hnotice⟩
    cases hsome.symm.trans hsome'
    refine ⟨_, _, rfl, hnotice.imp_right ?_⟩
    rintro (hended | hframe)
    · cases hopening.symm.trans hended
    · exact Or.inr (mem_drop_yield _ hframe)
  | close =>
    obtain ⟨stream, handled, stream', -, hnext, rfl⟩ := advance_some h
    obtain ⟨-, -, rfl⟩ := SseStream.close_some hnext
    exact Or.inl ⟨_, _, rfl, Or.inr (Or.inl rfl)⟩
  | recv =>
    obtain ⟨stream, handled, stream', hsome, hnext, rfl⟩ := advance_some h
    obtain ⟨-, next, -, -, rfl⟩ := SseStream.recv_some hnext
    refine Or.inl ⟨_, _, rfl, Or.inr (Or.inr ?_)⟩
    -- the frame just yielded is behind every one that was handled
    simp only [SseStream.yield, List.drop_append_of_le_length (hplaced _ _ hsome).2]
    exact List.mem_append_right _ (List.mem_singleton_self _)
  | handleFrame =>
    obtain ⟨stream, handled, frame, hsome, hframe, hstream', hsummary⟩ := handleFrame_some h
    by_cases hchanged : frame = .dataChanged
    · rw [if_pos hchanged] at hsummary
      refine Or.inr fun read hread => ?_
      rw [hsummary, Calls.newest_call] at hread
      cases hread
    · rw [if_neg hchanged] at hsummary
      refine hfollows.imp ?_ fun hcurrent read hread => hcurrent read (hsummary ▸ hread)
      rintro ⟨_, _, hsome', hnotice⟩
      cases hsome.symm.trans hsome'
      refine ⟨_, _, hstream', hnotice.imp_right fun h => h.imp_right fun hmem => ?_⟩
      obtain ⟨hlt, hget⟩ := List.getElem?_eq_some_iff.1 hframe
      rw [List.drop_eq_getElem_cons hlt, hget] at hmem
      exact (List.mem_cons.1 hmem).resolve_left (Ne.symm hchanged)
  | fetchSummary =>
    cases h
    exact Or.inr (Current.call client client.stream)
  | answer ticket failed =>
    obtain ⟨summary, hanswer, h⟩ := Option.map_eq_some_iff.1 h
    cases h
    refine hfollows.imp id fun hcurrent read hread => ?_
    obtain ⟨-, hnewest | ⟨-, hnewest⟩⟩ := Calls.answer_cases hanswer
    · exact hcurrent read (hnewest ▸ hread)
    · rw [hnewest] at hread
      cases failed
      · exact (Option.some.inj hread).symm
      · cases hread
  | settle ticket =>
    obtain ⟨summary, hsettle, h⟩ := Option.map_eq_some_iff.1 h
    cases h
    refine hfollows.imp id fun hcurrent read hread => ?_
    rw [Calls.settle_value hsettle] at hread
    exact hcurrent read hread
  | loseStream => exact absurd rfl hkept

/-- A delivery takes a message. -/
theorem step_unread (h : client.step bc ledger event = some client') :
    client'.unread bc.tx.sent.length + (if event = .recv then 1 else 0) ≤
      client.unread bc.tx.sent.length := by
  cases event with
  | openStream =>
    obtain ⟨-, rfl⟩ := openStream_some h
    simp [unread, sseResponse]
  | connect =>
    obtain ⟨stream, handled, stream', hsome, hnext, rfl⟩ := advance_some h
    obtain ⟨-, rfl⟩ := SseStream.connect_some hnext
    simp [unread, hsome, SseStream.yield]
  | close =>
    obtain ⟨stream, handled, stream', hsome, hnext, rfl⟩ := advance_some h
    obtain ⟨-, -, rfl⟩ := SseStream.close_some hnext
    simp [unread, hsome, SseStream.yield]
  | recv =>
    obtain ⟨stream, handled, stream', hsome, hnext, rfl⟩ := advance_some h
    obtain ⟨-, next, hforward, hlength, rfl⟩ := SseStream.recv_some hnext
    simp only [unread, hsome, if_true]
    exact Nat.sub_lt_sub_left (hforward.trans_le hlength) hforward
  | handleFrame =>
    obtain ⟨stream, handled, frame, hsome, -, hstream', -⟩ := handleFrame_some h
    simp [unread, hsome, hstream']
  | fetchSummary => simp [unread, step_stream h (Or.inl rfl)]
  | answer ticket failed => simp [unread, step_stream h (Or.inr (Or.inl ⟨_, _, rfl⟩))]
  | settle ticket => simp [unread, step_stream h (Or.inr (Or.inr ⟨_, rfl⟩))]
  | loseStream =>
    cases h
    exact Nat.zero_le _

end Client

/-! ## One step of the process -/

namespace Dashboards

/-- What holds in every order of steps. -/
structure Inv (versions : DataVersions) (s : Dashboards) : Prop where
  /-- a version the poller holds was read of commits there are, or stands for a failed reading -/
  known : ∀ v ∈ s.broadcaster.poller.held, v = -1 ∨ ∃ n ≤ s.commits, v = versions.version n
  placed : ∀ k, (s.client k).Placed s.broadcaster.tx.sent.length
  sound : ∀ k, (s.client k).summary.Sound

/-- The poller has begun, the dashboard has a stream, and what it does not show is on its way to it. -/
structure Follows (versions : DataVersions) (k : Nat) (s : Dashboards) : Prop where
  started : s.broadcaster.poller ≠ .starting
  stream : (s.client k).stream.isSome = true
  told : 0 < s.broadcaster.poller.due (versions.version s.commits) ∨
    (s.client k).Notice s.broadcaster.tx.sent.length ∨ (s.client k).Current s.ledger

variable {s t : Dashboards} {k : Nat}

theorem read_some {failed : Bool} (h : step versions s (.read failed) = some t) :
    ∃ poller, t = { s with broadcaster := { s.broadcaster with poller := poller } } ∧
      (s.broadcaster.poller = .starting ∧
          poller = .sleeping (getDataVersion versions s.commits failed) ∨
        ∃ last, s.broadcaster.poller = .sleeping last ∧
          poller = .comparing last (getDataVersion versions s.commits failed)) := by
  obtain ⟨bc, hread, h⟩ := Option.map_eq_some_iff.1 h
  cases h
  unfold SseBroadcaster.read at hread
  split at hread
  · rename_i hstarting
    cases hread
    exact ⟨_, rfl, Or.inl ⟨hstarting, rfl⟩⟩
  · rename_i last hsleeping
    cases hread
    exact ⟨_, rfl, Or.inr ⟨last, hsleeping, rfl⟩⟩
  · cases hread

theorem notify_some (h : step versions s .notify = some t) :
    ∃ last current, s.broadcaster.poller = .comparing last current ∧
      (current ≠ last ∧
          t = { s with
            broadcaster :=
              { s.broadcaster with poller := .sleeping current, tx := s.broadcaster.tx.send () } } ∨
        current = last ∧
          t = { s with broadcaster := { s.broadcaster with poller := .sleeping current } }) := by
  obtain ⟨bc, hnotify, h⟩ := Option.map_eq_some_iff.1 h
  cases h
  unfold SseBroadcaster.notify at hnotify
  split at hnotify
  · rename_i last current hcomparing
    split at hnotify
    · rename_i hne
      cases hnotify
      exact ⟨last, current, hcomparing, Or.inl ⟨hne, rfl⟩⟩
    · rename_i heq
      cases hnotify
      rw [not_not] at heq
      exact ⟨last, current, hcomparing, Or.inr ⟨heq, by rw [heq]⟩⟩
  · cases hnotify

theorem client_some {k' : Nat} {event : ClientEvent}
    (h : step versions s (.client k' event) = some t) :
    ∃ client, (s.client k').step s.broadcaster s.ledger event = some client ∧
      t = { s with client := Function.update s.client k' client } := by
  obtain ⟨client, hclient, h⟩ := Option.map_eq_some_iff.1 h
  exact ⟨client, hclient, h.symm⟩

/-- What a step of one dashboard keeps of it holds of every dashboard after it. -/
theorem forall_client {P : Client → Prop} {k' : Nat} {client : Client}
    (h : ∀ k, P (s.client k)) (hclient : P client) (k : Nat) :
    P (Function.update s.client k' client k) := by
  by_cases hk : k = k'
  · rw [hk, Function.update_self]
    exact hclient
  · rw [Function.update_of_ne hk]
    exact h k

theorem getDataVersion_known (versions : DataVersions) (commits : Nat) (failed : Bool) :
    getDataVersion versions commits failed = -1 ∨
      ∃ n ≤ commits, getDataVersion versions commits failed = versions.version n := by
  cases failed with
  | true => exact Or.inl rfl
  | false => exact Or.inr ⟨commits, Nat.le_refl _, rfl⟩

theorem step_inv {event : DashboardEvent} (h : step versions s event = some t)
    (hinv : s.Inv versions) : t.Inv versions := by
  cases event with
  | commit ledger =>
    cases h
    refine ⟨fun v hv => (hinv.known v hv).imp_right ?_, hinv.placed, hinv.sound⟩
    rintro ⟨n, hn, hversion⟩
    exact ⟨n, hn.trans (Nat.le_succ _), hversion⟩
  | read failed =>
    have hread := getDataVersion_known versions s.commits failed
    obtain ⟨poller, rfl, ⟨-, rfl⟩ | ⟨last, hsleeping, rfl⟩⟩ := read_some h
    · refine ⟨fun v hv => ?_, hinv.placed, hinv.sound⟩
      cases List.mem_singleton.1 hv
      exact hread
    · refine ⟨fun v hv => ?_, hinv.placed, hinv.sound⟩
      rcases List.mem_cons.1 hv with rfl | hv
      · exact hinv.known v (by rw [hsleeping]; exact List.mem_singleton_self v)
      · cases List.mem_singleton.1 hv
        exact hread
  | notify =>
    obtain ⟨last, current, hcomparing, hsend⟩ := notify_some h
    have hcurrent := hinv.known current
      (by rw [hcomparing]; exact List.mem_cons_of_mem _ (List.mem_singleton_self _))
    rcases hsend with ⟨-, rfl⟩ | ⟨-, rfl⟩
    · refine ⟨fun v hv => ?_, fun k => (hinv.placed k).mono ?_, hinv.sound⟩
      · cases List.mem_singleton.1 hv
        exact hcurrent
      · rw [Channel.send_length]
        exact Nat.le_succ _
    · refine ⟨fun v hv => ?_, hinv.placed, hinv.sound⟩
      cases List.mem_singleton.1 hv
      exact hcurrent
  | shutdown =>
    cases h
    exact ⟨hinv.known, hinv.placed, hinv.sound⟩
  | client k' event =>
    obtain ⟨client, hclient, rfl⟩ := client_some h
    exact ⟨hinv.known, forall_client hinv.placed (Client.step_placed hclient (hinv.placed k')),
      forall_client (P := fun client => client.summary.Sound) hinv.sound
        (Client.step_sound hclient (hinv.sound k'))⟩

theorem step_follows {event : DashboardEvent} (h : step versions s event = some t)
    (hkept : event ≠ .client k .loseStream) (hinv : s.Inv versions) (hf : s.Follows versions k) :
    t.Follows versions k := by
  cases event with
  | commit ledger =>
    cases h
    -- no version the poller holds is the one after this commit
    refine ⟨hf.started, hf.stream, Or.inl (Poller.due_pos hf.started fun hheld => ?_)⟩
    rcases hinv.known _ hheld with hfailed | ⟨n, hn, hversion⟩
    · exact versions.ne_failed _ hfailed
    · exact Nat.not_succ_le_self _ (versions.injective hversion ▸ hn)
  | read failed =>
    obtain ⟨poller, rfl, ⟨hstarting, -⟩ | ⟨last, hsleeping, rfl⟩⟩ := read_some h
    · exact absurd hstarting hf.started
    · refine ⟨nofun, hf.stream, hf.told.imp_left fun hdue => ?_⟩
      have hlast : last ≠ versions.version s.commits := by
        rintro rfl
        simp [hsleeping, Poller.due] at hdue
      cases failed with
      | true => simp [Poller.due, getDataVersion, (versions.ne_failed _).symm]
      | false => simp [Poller.due, getDataVersion, hlast.symm]
  | notify =>
    obtain ⟨last, current, hcomparing, ⟨hne, rfl⟩ | ⟨heq, rfl⟩⟩ := notify_some h
    · -- the message that was sent is one the stream has yet to take
      obtain ⟨⟨stream, handled⟩, hstream⟩ := Option.isSome_iff_exists.1 hf.stream
      refine ⟨nofun, hf.stream, Or.inr (Or.inl ⟨stream, handled, hstream, Or.inl ?_⟩)⟩
      rw [Channel.send_length]
      exact Nat.lt_succ_of_le (hinv.placed k stream handled hstream).1
    · refine ⟨nofun, hf.stream, hf.told.imp_left fun hdue => ?_⟩
      rw [hcomparing, heq] at hdue
      simpa [Poller.due, heq] using hdue
  | shutdown =>
    cases h
    exact ⟨hf.started, hf.stream, hf.told⟩
  | client k' event =>
    obtain ⟨client, hclient, rfl⟩ := client_some h
    by_cases hk : k = k'
    · subst hk
      have hevent : event ≠ .loseStream := fun hlose => hkept (by rw [hlose])
      refine ⟨hf.started, ?_, ?_⟩
      · simp only [Function.update_self]
        exact Client.step_keeps_stream hclient hevent hf.stream
      · simp only [Function.update_self]
        exact hf.told.imp_right (Client.step_follows hclient hevent hf.stream (hinv.placed k))
    · refine ⟨hf.started, ?_, ?_⟩
      · simp only [Function.update_of_ne hk]
        exact hf.stream
      · simp only [Function.update_of_ne hk]
        exact hf.told

theorem Start.inv (h : s.Start) : s.Inv versions where
  known := fun v hv => by
    rw [h.broadcaster] at hv
    cases hv
  placed := fun k stream handled hstream => by
    rw [h.client k] at hstream
    cases hstream
  sound := fun k a ha => by
    rw [h.client k] at ha
    cases ha

theorem reached {start : Dashboards} {events : List DashboardEvent} (hstart : start.Start)
    (hrun : Duty.run (step versions) start events = some s) : s.Inv versions :=
  Duty.run_keeps (fun _ _ _ hstep hinv => step_inv hstep hinv) hrun hstart.inv

theorem run_follows {events : List DashboardEvent} (hinv : s.Inv versions) (hf : s.Follows versions k)
    (hrun : Duty.run (step versions) s events = some t)
    (hkept : .client k .loseStream ∉ events) : t.Follows versions k := by
  induction events generalizing s with
  | nil =>
    cases hrun
    exact hf
  | cons event events ih =>
    obtain ⟨hne, hkept⟩ := not_or.1 (mt List.mem_cons.2 hkept)
    obtain ⟨next, hstep, hrun⟩ := Duty.run_cons_iff.1 hrun
    exact ih (step_inv hstep hinv) (step_follows hstep (Ne.symm hne) hinv hf) hrun hkept

/-- The poller has compared its last reading, and the dashboard has handled what its live stream
yielded for every send. -/
structure Quiet (versions : DataVersions) (k : Nat) (s : Dashboards) : Prop where
  poller : s.broadcaster.poller = .sleeping (versions.version s.commits)
  stream : ∃ stream, (s.client k).stream = some (stream, stream.frames.length) ∧
    stream.body = .live ∧ stream.rx = s.broadcaster.tx.sent.length

theorem Quiet.nothing_due (h : s.Quiet versions k) :
    ¬0 < s.broadcaster.poller.due (versions.version s.commits) ∧
      ¬(s.client k).Notice s.broadcaster.tx.sent.length := by
  obtain ⟨stream, hstream, hlive, hrx⟩ := h.stream
  refine ⟨by simp [h.poller, Poller.due], ?_⟩
  rintro ⟨_, _, hsome, hunread | hended | hframe⟩
  · cases hstream.symm.trans hsome
    exact absurd hrx hunread.ne
  · cases hstream.symm.trans hsome
    cases hlive.symm.trans hended
  · cases hstream.symm.trans hsome
    rw [List.drop_length] at hframe
    cases hframe

/-- A dashboard that had a stream before its newest call was answered, or whose answer was of the ledger
then, and keeps the stream, shows what the ledger is once the process is quiet and its newest call has
come back.  Commits, readings that fail, lag and answers may come in any order. -/
theorem summary_current {start : Dashboards} {before events : List DashboardEvent} {read : Ledger}
    (hstart : start.Start) (hbefore : Duty.run (step versions) start before = some s)
    (hstarted : s.broadcaster.poller ≠ .starting) (hstream : (s.client k).stream.isSome = true)
    (hcurrent : (s.client k).Current s.ledger) (hrun : Duty.run (step versions) s events = some t)
    (hkept : .client k .loseStream ∉ events) (hquiet : t.Quiet versions k)
    (hnewest : (t.client k).summary.newest = some (.settled (.ok read))) :
    (t.client k).summary.shown = some t.ledger := by
  have hinv := reached hstart hbefore
  have htold := (run_follows hinv ⟨hstarted, hstream, Or.inr (Or.inr hcurrent)⟩ hrun hkept).told
  obtain ⟨hdue, hnotice⟩ := hquiet.nothing_due
  have hread : read = t.ledger :=
    (htold.resolve_left hdue).resolve_left hnotice read (by rw [hnewest]; rfl)
  have hsound := (Duty.run_keeps (fun _ _ _ hstep h => step_inv hstep h) hrun hinv).sound k
  rw [← hread]
  exact hsound read hnewest

end Dashboards

namespace Sample

def dataVersions : DataVersions where
  version := fun commits => commits + 1
  injective := fun n m h => by simpa using h
  ne_failed := fun commits => by omega

/-- A process that has just started. -/
def dashboards : Dashboards where
  ledger := PartnerPortal.Sample.emptyLedger
  commits := 0
  broadcaster := .new
  client := fun _ => { stream := none, summary := { calls := [], shown := none } }

def dashboardsAfter (events : List DashboardEvent) : Dashboards :=
  (Duty.run (Dashboards.step dataVersions) dashboards events).getD dashboards

theorem dashboardsAfter_run {events later : List DashboardEvent}
    (h : (Duty.run (Dashboards.step dataVersions) dashboards (events ++ later)).isSome = true) :
    Duty.run (Dashboards.step dataVersions) dashboards events = some (dashboardsAfter events) ∧
      Duty.run (Dashboards.step dataVersions) (dashboardsAfter events) later =
        some (dashboardsAfter (events ++ later)) := by
  obtain ⟨last, hlast⟩ := Option.isSome_iff_exists.1 h
  obtain ⟨middle, hmiddle, hlater⟩ := Duty.run_append_iff.1 hlast
  have hfirst : dashboardsAfter events = middle := by rw [dashboardsAfter, hmiddle, Option.getD_some]
  have hsecond : dashboardsAfter (events ++ later) = last := by
    rw [dashboardsAfter, hlast, Option.getD_some]
  rw [hfirst, hsecond]
  exact ⟨hmiddle, hlater⟩

/-- A dashboard opens its stream once the poller has begun. -/
def opening : List DashboardEvent := [.read false, .client 0 .openStream]

/-- A commit is made while the first call is answered, and the reading after it fails. -/
def following : List DashboardEvent :=
  [.client 0 .connect, .client 0 .fetchSummary, .client 0 (.answer 0 false),
    .commit { PartnerPortal.Sample.emptyLedger with instances := ["a"] }, .client 0 (.settle 0),
    .read true, .notify, .client 0 .recv, .client 0 .handleFrame, .client 0 .handleFrame,
    .read false, .notify, .client 0 .recv, .client 0 .handleFrame, .client 0 (.answer 2 false),
    .client 0 (.answer 1 false), .client 0 (.settle 2), .client 0 (.settle 1)]

/-- The process is told to stop after that. -/
def closing : List DashboardEvent := following ++ [.shutdown]

end Sample

namespace Dashboards

theorem summary_current_following :
    ((Sample.dashboardsAfter (Sample.opening ++ Sample.following)).client 0).summary.shown =
      some { PartnerPortal.Sample.emptyLedger with instances := ["a"] } := by
  obtain ⟨hbefore, hrun⟩ := @Sample.dashboardsAfter_run Sample.opening Sample.following (by decide +kernel)
  refine summary_current ⟨rfl, fun _ => rfl⟩ hbefore (by decide +kernel) (by decide +kernel) ?_ hrun
    (by simp [Sample.following]) ⟨by decide +kernel, ⟨_, rfl, by decide +kernel, by decide +kernel⟩⟩ rfl
  rintro _ ⟨⟩

/-! ## How many change events there are -/

/-- How many sends an event may bring about. -/
def causes : DashboardEvent → Nat
  | .commit _ => 1
  | .read true => 2
  | _ => 0

/-- The change events a stream yields in a step. -/
def deliveries (k : Nat) : DashboardEvent → Nat
  | .client k' .recv => if k' = k then 1 else 0
  | _ => 0

/-- The sends the poller owes and the messages the stream has not taken. -/
def outstanding (versions : DataVersions) (k : Nat) (s : Dashboards) : Nat :=
  s.broadcaster.poller.due (versions.version s.commits) +
    (s.client k).unread s.broadcaster.tx.sent.length

theorem unread_send {client : Client} {length : Nat} (h : client.Placed length) :
    client.unread (length + 1) ≤ client.unread length + 1 := by
  unfold Client.unread
  split
  · exact Nat.zero_le _
  · rename_i stream handled hstream
    rw [Nat.succ_sub (h stream handled hstream).1]

theorem due_reading (versions : DataVersions) (commits : Nat) (last : Int) (failed : Bool) :
    (Poller.comparing last (getDataVersion versions commits failed)).due (versions.version commits) ≤
      (Poller.sleeping last).due (versions.version commits) + causes (.read failed) := by
  cases failed with
  | true =>
    simp only [Poller.due, causes]
    split <;> split <;> split <;> decide
  | false => simp [Poller.due, causes, getDataVersion, eq_comm]

theorem step_outstanding {event : DashboardEvent} (h : step versions s event = some t)
    (hinv : s.Inv versions) (k : Nat) :
    outstanding versions k t + deliveries k event ≤ outstanding versions k s + causes event := by
  cases event with
  | commit ledger =>
    cases h
    have hdue := s.broadcaster.poller.due_le_succ (versions.version s.commits)
      (versions.version (s.commits + 1))
    simpa [outstanding, deliveries, causes, Nat.add_right_comm] using
      Nat.add_le_add_right hdue ((s.client k).unread s.broadcaster.tx.sent.length)
  | read failed =>
    obtain ⟨poller, rfl, ⟨hstarting, rfl⟩ | ⟨last, hsleeping, rfl⟩⟩ := read_some h
    · have hdue : (Poller.sleeping (getDataVersion versions s.commits failed)).due
          (versions.version s.commits) ≤ causes (.read failed) := by
        cases failed
        · simp [Poller.due, getDataVersion]
        · simp only [Poller.due, causes]
          split <;> decide
      simpa [outstanding, deliveries, hstarting, Poller.due, Nat.add_comm] using
        Nat.add_le_add_right hdue ((s.client k).unread s.broadcaster.tx.sent.length)
    · have hdue := due_reading versions s.commits last failed
      simpa [outstanding, deliveries, hsleeping, Nat.add_right_comm] using
        Nat.add_le_add_right hdue ((s.client k).unread s.broadcaster.tx.sent.length)
  | notify =>
    obtain ⟨last, current, hcomparing, ⟨hne, rfl⟩ | ⟨heq, rfl⟩⟩ := notify_some h
    · have hunread := unread_send (hinv.placed k)
      simp only [outstanding, deliveries, causes, hcomparing, Poller.due, if_neg hne,
        Channel.send_length, Nat.add_zero]
      calc _ ≤ (if current = versions.version s.commits then 0 else 1) +
            ((s.client k).unread s.broadcaster.tx.sent.length + 1) := Nat.add_le_add_left hunread _
        _ = _ := by rw [← Nat.add_assoc, Nat.add_comm, ← Nat.add_assoc]
    · simp [outstanding, deliveries, causes, hcomparing, Poller.due, heq]
  | shutdown =>
    cases h
    exact Nat.le_refl _
  | client k' event =>
    obtain ⟨client, hclient, rfl⟩ := client_some h
    have hunread := Client.step_unread hclient
    by_cases hk : k = k'
    · subst hk
      have hdeliveries : deliveries k (.client k event) = if event = .recv then 1 else 0 := by
        cases event <;> simp [deliveries]
      simp only [outstanding, hdeliveries, causes, Function.update_self, Nat.add_zero, Nat.add_assoc]
      exact Nat.add_le_add_left hunread _
    · have hdeliveries : deliveries k (.client k' event) = 0 := by
        cases event <;> simp [deliveries, Ne.symm hk]
      simp [outstanding, hdeliveries, causes, Function.update_of_ne hk]

/-- Over any run a stream yields no more change events than the sends that were outstanding, the commits
and twice the readings that failed. -/
theorem recv_le {start : Dashboards} {before events : List DashboardEvent} (hstart : start.Start)
    (hbefore : Duty.run (step versions) start before = some s)
    (hrun : Duty.run (step versions) s events = some t) (k : Nat) :
    outstanding versions k t + (events.map (deliveries k)).sum ≤
      outstanding versions k s + (events.map causes).sum := by
  have hinv := reached hstart hbefore
  clear hbefore
  induction events generalizing s with
  | nil =>
    cases hrun
    exact Nat.le_refl _
  | cons event events ih =>
    obtain ⟨next, hstep, hrun⟩ := Duty.run_cons_iff.1 hrun
    have hfirst := step_outstanding hstep hinv k
    have hrest := ih hrun (step_inv hstep hinv)
    simp only [List.map_cons, List.sum_cons]
    omega

theorem recv_le_following :
    outstanding Sample.dataVersions 0 (Sample.dashboardsAfter (Sample.opening ++ Sample.following)) +
        (Sample.following.map (deliveries 0)).sum ≤
      outstanding Sample.dataVersions 0 (Sample.dashboardsAfter Sample.opening) +
        (Sample.following.map causes).sum := by
  obtain ⟨hbefore, hrun⟩ := @Sample.dashboardsAfter_run Sample.opening Sample.following (by decide +kernel)
  exact recv_le ⟨rfl, fun _ => rfl⟩ hbefore hrun 0

end Dashboards

/-! ## How a stream ends -/

namespace SseStream

/-- What a body has yielded: the connection, changes, and last the shutdown. -/
def Framed (stream : SseStream) : Prop :=
  match stream.body with
  | .opening => stream.frames = []
  | .live => ∃ n, stream.frames = .connected :: List.replicate n .dataChanged
  | .ended => ∃ n, stream.frames = .connected :: List.replicate n .dataChanged ++ [.serverShutdown]

/-- The body has ended, or its arm of the shutdown is ready, at once or after the first frame. -/
def CanEnd (bc : SseBroadcaster) (stream : SseStream) : Prop :=
  stream.body = .ended ∨ (stream.close bc).isSome = true ∨
    ∃ live, stream.connect = some live ∧ (live.close bc).isSome = true

variable {bc : SseBroadcaster} {stream stream' : SseStream}

/-- It can end exactly when a shutdown was sent that it had not seen. -/
theorem canEnd_iff (hended : stream.body = .ended → stream.seen ≠ bc.shutdown) :
    stream.CanEnd bc ↔ stream.seen ≠ bc.shutdown := by
  cases hbody : stream.body with
  | opening => simp [CanEnd, connect, close, hbody, yield]
  | live => simp [CanEnd, connect, close, hbody]
  | ended => simpa [CanEnd, hbody] using hended hbody

theorem connect_framed (h : stream.connect = some stream') (hframed : stream.Framed) :
    stream'.Framed := by
  obtain ⟨hbody, rfl⟩ := connect_some h
  rw [Framed, hbody] at hframed
  exact ⟨0, by simp [yield, hframed]⟩

theorem close_framed (h : stream.close bc = some stream') (hframed : stream.Framed) :
    stream'.Framed := by
  obtain ⟨hbody, -, rfl⟩ := close_some h
  rw [Framed, hbody] at hframed
  obtain ⟨n, hframes⟩ := hframed
  exact ⟨n, by simp [yield, hframes]⟩

theorem recv_framed (h : stream.recv bc = some stream') (hframed : stream.Framed) :
    stream'.Framed := by
  obtain ⟨hbody, next, -, -, rfl⟩ := recv_some h
  rw [Framed, hbody] at hframed
  obtain ⟨n, hframes⟩ := hframed
  rw [Framed, yield, hbody]
  exact ⟨n + 1, by simp [hframes, List.replicate_succ']⟩

end SseStream

/-- A stream that was opened when the shutdown had been sent `n` times, out of `shutdown` by now. -/
structure SseStream.Opened (n shutdown : Nat) (stream : SseStream) : Prop where
  seen_eq : stream.seen = n
  le : n ≤ shutdown
  framed : stream.Framed
  ended : stream.body = .ended → n < shutdown

theorem SseStream.Opened.mono {n shutdown shutdown' : Nat} {stream : SseStream}
    (h : stream.Opened n shutdown) (hle : shutdown ≤ shutdown') : stream.Opened n shutdown' :=
  ⟨h.seen_eq, h.le.trans hle, h.framed, fun hended => (h.ended hended).trans_le hle⟩

namespace Client

variable {bc : SseBroadcaster} {ledger : Ledger} {client client' : Client} {event : ClientEvent}
  {n : Nat} {stream : SseStream} {handled : Nat}

theorem step_opened (h : client.step bc ledger event = some client') (hkept : event ≠ .loseStream)
    (hstream : client.stream = some (stream, handled)) (hopened : stream.Opened n bc.shutdown) :
    ∃ stream' handled', client'.stream = some (stream', handled') ∧
      stream'.Opened n bc.shutdown := by
  cases event with
  | openStream =>
    obtain ⟨hnone, -⟩ := openStream_some h
    cases hnone.symm.trans hstream
  | connect =>
    obtain ⟨_, _, stream', hsome, hnext, rfl⟩ := advance_some h
    cases hstream.symm.trans hsome
    have hframed := SseStream.connect_framed hnext hopened.framed
    obtain ⟨-, rfl⟩ := SseStream.connect_some hnext
    exact ⟨_, _, rfl, hopened.seen_eq, hopened.le, hframed, nofun⟩
  | close =>
    obtain ⟨_, _, stream', hsome, hnext, rfl⟩ := advance_some h
    cases hstream.symm.trans hsome
    have hframed := SseStream.close_framed hnext hopened.framed
    obtain ⟨-, hseen, rfl⟩ := SseStream.close_some hnext
    exact ⟨_, _, rfl, hopened.seen_eq, hopened.le, hframed,
      fun _ => lt_of_le_of_ne hopened.le (hopened.seen_eq ▸ hseen)⟩
  | recv =>
    obtain ⟨_, _, stream', hsome, hnext, rfl⟩ := advance_some h
    cases hstream.symm.trans hsome
    have hframed := SseStream.recv_framed hnext hopened.framed
    obtain ⟨hlive, next, -, -, rfl⟩ := SseStream.recv_some hnext
    exact ⟨_, _, rfl, hopened.seen_eq, hopened.le, hframed, hopened.ended⟩
  | handleFrame =>
    obtain ⟨_, _, frame, hsome, -, hstream', -⟩ := handleFrame_some h
    cases hstream.symm.trans hsome
    exact ⟨_, _, hstream', hopened⟩
  | fetchSummary => exact ⟨_, _, (step_stream h (Or.inl rfl)).trans hstream, hopened⟩
  | answer ticket failed =>
    exact ⟨_, _, (step_stream h (Or.inr (Or.inl ⟨_, _, rfl⟩))).trans hstream, hopened⟩
  | settle ticket => exact ⟨_, _, (step_stream h (Or.inr (Or.inr ⟨_, rfl⟩))).trans hstream, hopened⟩
  | loseStream => exact absurd rfl hkept

end Client

namespace Dashboards

variable {s t : Dashboards} {k : Nat}

theorem step_shutdown {event : DashboardEvent} (h : step versions s event = some t) :
    event = .shutdown ∧ t.broadcaster.shutdown = s.broadcaster.shutdown + 1 ∨
      event ≠ .shutdown ∧ t.broadcaster.shutdown = s.broadcaster.shutdown := by
  cases event with
  | commit ledger =>
    cases h
    exact Or.inr ⟨nofun, rfl⟩
  | read failed =>
    obtain ⟨poller, rfl, -⟩ := read_some h
    exact Or.inr ⟨nofun, rfl⟩
  | notify =>
    obtain ⟨last, current, -, ⟨-, rfl⟩ | ⟨-, rfl⟩⟩ := notify_some h <;> exact Or.inr ⟨nofun, rfl⟩
  | shutdown =>
    cases h
    exact Or.inl ⟨rfl, rfl⟩
  | client k' event =>
    obtain ⟨client, -, rfl⟩ := client_some h
    exact Or.inr ⟨nofun, rfl⟩

theorem run_shutdown {events : List DashboardEvent} (h : Duty.run (step versions) s events = some t) :
    s.broadcaster.shutdown ≤ t.broadcaster.shutdown ∧
      (s.broadcaster.shutdown ≠ t.broadcaster.shutdown ↔ .shutdown ∈ events) := by
  induction events generalizing s with
  | nil =>
    cases h
    exact ⟨Nat.le_refl _, by simp⟩
  | cons event events ih =>
    obtain ⟨next, hstep, hrun⟩ := Duty.run_cons_iff.1 h
    obtain ⟨hle, hiff⟩ := ih hrun
    rcases step_shutdown hstep with ⟨rfl, hnext⟩ | ⟨hne, hnext⟩
    · rw [hnext] at hle
      have hlt : s.broadcaster.shutdown < t.broadcaster.shutdown := hle
      exact ⟨hlt.le, iff_of_true hlt.ne List.mem_cons_self⟩
    · rw [hnext] at hle hiff
      exact ⟨hle, hiff.trans ⟨List.mem_cons_of_mem _, fun h => (List.mem_cons.1 h).resolve_left hne.symm⟩⟩

theorem step_opened {event : DashboardEvent} {n : Nat} {stream : SseStream} {handled : Nat}
    (h : step versions s event = some t) (hkept : event ≠ .client k .loseStream)
    (hstream : (s.client k).stream = some (stream, handled))
    (hopened : stream.Opened n s.broadcaster.shutdown) :
    ∃ stream handled, (t.client k).stream = some (stream, handled) ∧
      stream.Opened n t.broadcaster.shutdown := by
  cases event with
  | commit ledger =>
    cases h
    exact ⟨stream, handled, hstream, hopened⟩
  | read failed =>
    obtain ⟨poller, rfl, -⟩ := read_some h
    exact ⟨stream, handled, hstream, hopened⟩
  | notify =>
    obtain ⟨last, current, -, ⟨-, rfl⟩ | ⟨-, rfl⟩⟩ := notify_some h <;>
      exact ⟨stream, handled, hstream, hopened⟩
  | shutdown =>
    cases h
    exact ⟨stream, handled, hstream, hopened.mono (Nat.le_succ _)⟩
  | client k' event =>
    obtain ⟨client, hclient, rfl⟩ := client_some h
    by_cases hk : k = k'
    · subst hk
      simp only [Function.update_self]
      exact Client.step_opened hclient (fun hlose => hkept (by rw [hlose])) hstream hopened
    · simp only [Function.update_of_ne hk]
      exact ⟨stream, handled, hstream, hopened⟩

theorem run_opened {n : Nat} {stream : SseStream} {handled : Nat} {events : List DashboardEvent}
    (hrun : Duty.run (step versions) s events = some t) (hkept : .client k .loseStream ∉ events)
    (hstream : (s.client k).stream = some (stream, handled))
    (hopened : stream.Opened n s.broadcaster.shutdown) :
    ∃ stream handled, (t.client k).stream = some (stream, handled) ∧
      stream.Opened n t.broadcaster.shutdown := by
  induction events generalizing s stream handled with
  | nil =>
    cases hrun
    exact ⟨stream, handled, hstream, hopened⟩
  | cons event events ih =>
    obtain ⟨hne, hkept⟩ := not_or.1 (mt List.mem_cons.2 hkept)
    obtain ⟨next, hstep, hrun⟩ := Duty.run_cons_iff.1 hrun
    obtain ⟨stream', handled', hstream', hopened'⟩ := step_opened hstep (Ne.symm hne) hstream hopened
    exact ih hrun hkept hstream' hopened'

/-- A stream that is not lost can end by itself exactly when a shutdown came after it was opened; it
yields the connection first and the shutdown last. -/
theorem ends_iff {opened : Dashboards} {events : List DashboardEvent}
    (hopen : step versions s (.client k .openStream) = some opened)
    (hrun : Duty.run (step versions) opened events = some t)
    (hkept : .client k .loseStream ∉ events) :
    ∃ stream handled, (t.client k).stream = some (stream, handled) ∧ stream.Framed ∧
      (stream.CanEnd t.broadcaster ↔ .shutdown ∈ events) := by
  obtain ⟨client, hclient, rfl⟩ := client_some hopen
  obtain ⟨-, rfl⟩ := Client.openStream_some hclient
  have hfirst : (sseResponse s.broadcaster).Opened s.broadcaster.shutdown s.broadcaster.shutdown :=
    ⟨rfl, Nat.le_refl _, rfl, nofun⟩
  have hstream : (Function.update s.client k
      { s.client k with stream := some (sseResponse s.broadcaster, 0) } k).stream =
        some (sseResponse s.broadcaster, 0) := by
    rw [Function.update_self]
  obtain ⟨stream, handled, hstream, hopened⟩ := run_opened hrun hkept hstream hfirst
  refine ⟨stream, handled, hstream, hopened.framed, ?_⟩
  have hended : stream.body = .ended → stream.seen ≠ t.broadcaster.shutdown := fun hbody => by
    rw [hopened.seen_eq]
    exact (hopened.ended hbody).ne
  rw [SseStream.canEnd_iff hended, hopened.seen_eq]
  exact (run_shutdown hrun).2

theorem ends_iff_shutdown :
    ∃ stream handled,
      ((Sample.dashboardsAfter (Sample.opening ++ Sample.closing)).client 0).stream =
        some (stream, handled) ∧ stream.Framed ∧
        stream.CanEnd (Sample.dashboardsAfter (Sample.opening ++ Sample.closing)).broadcaster := by
  obtain ⟨-, hopen⟩ := @Sample.dashboardsAfter_run [.read false] [.client 0 .openStream]
    (by decide +kernel)
  obtain ⟨opened, hopen, hopened⟩ := Duty.run_cons_iff.1 hopen
  cases hopened
  obtain ⟨-, hrun⟩ := @Sample.dashboardsAfter_run Sample.opening Sample.closing (by decide +kernel)
  obtain ⟨stream, handled, hstream, hframed, hends⟩ :=
    ends_iff hopen hrun (by simp [Sample.closing, Sample.following])
  exact ⟨stream, handled, hstream, hframed, hends.2 (by simp [Sample.closing])⟩

end Dashboards

end PartnerPortal.Dashboard

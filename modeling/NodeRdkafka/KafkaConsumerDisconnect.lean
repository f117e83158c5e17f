import NodeRdkafka.ClientCallbacks
import NodeRdkafka.KafkaConsumerAssignments
import NodeRdkafka.KafkaConsumerConnection

namespace NodeRdkafka
open Transition

namespace Client
variable {ε : Type}

/-- What a client does without a connect call and without a success: its
failed attempts can only grow in number while it is connected. -/
structure Wanes (c d : Client ε) : Prop where
  connecting : d.connecting = c.connecting
  fetching : d.fetching = c.fetching
  grows : c.failed.length ≤ d.failed.length
  failed : d.failed.length = c.failed.length ∨ c.isConnected = true
  isConnected : d.isConnected = true → c.isConnected = true
  log : ∃ events, d.log = c.log ++ events ∧ ClientEvent.ready ∉ events

/-- The same with the disconnects left alone. -/
structure Answers (c d : Client ε) : Prop extends c.Wanes d where
  disconnecting : d.disconnecting = c.disconnecting
  isDisconnecting : d.isDisconnecting = c.isDisconnecting

theorem next_answers (c : Client ε) (cb : Option Nat) (err : Option ε) : c.Answers (c.next cb err) :=
  ⟨⟨rfl, rfl, Nat.le_refl _, Or.inl rfl, id, _, rfl, by simp⟩, rfl, rfl⟩

theorem fail_answers (c : Client ε) (cb : Option Nat) (err : ε) : c.Answers (c.fail cb err) := by
  unfold fail
  split
  · rename_i connected
    refine ⟨⟨rfl, rfl, ?_, Or.inr connected, nofun, [.connectionFailure err], rfl, by simp⟩, rfl, rfl⟩
    simp
  · exact c.next_answers cb (some err)

theorem settle_answers (c : Client ε) (index : Nat) (attempt : FailedAttempt ε) :
    c.Answers (c.settle index attempt) := by
  unfold settle
  split
  · exact ⟨⟨rfl, rfl, by simp, by simp, id, [], by simp, by simp⟩, rfl, rfl⟩
  · exact ⟨⟨rfl, rfl, by simp [next], by simp [next], id, _, rfl, by simp⟩, rfl, rfl⟩

theorem settle_failed (c : Client ε) (index : Nat) (attempt : FailedAttempt ε) :
    (c.settle index attempt).failed.length = c.failed.length := by
  unfold settle
  split <;> simp [next]

theorem resume_answers (c : Client ε) (frame : ClientFrame) : c.Answers (c.resume frame) := by
  cases frame with
  | ready joined cb =>
    cases joined with
    | nil => exact ⟨⟨rfl, rfl, Nat.le_refl _, Or.inl rfl, id, _, rfl, by simp⟩, rfl, rfl⟩
    | cons first rest => exact ⟨⟨rfl, rfl, Nat.le_refl _, Or.inl rfl, id, _, rfl, by simp⟩, rfl, rfl⟩
  | disconnected cb => exact ⟨⟨rfl, rfl, Nat.le_refl _, Or.inl rfl, id, _, rfl, by simp⟩, rfl, rfl⟩

theorem disconnect_wanes (c : Client ε) (cb : Option Nat) : c.Wanes (c.disconnect cb) := by
  simp only [disconnect]
  split <;> exact ⟨rfl, rfl, Nat.le_refl _, Or.inl rfl, id, _, rfl, by simp⟩

theorem disconnected_wanes (c : Client ε) (cb : Option Nat) : c.Wanes (c.disconnected cb) :=
  ⟨rfl, rfl, Nat.le_refl _, Or.inl rfl, nofun, [.disconnected], rfl, by simp⟩

/-- Only the end of a disconnect takes one of the closures of disconnect. -/
theorem deliver_disconnecting {c d : Client ε} {event : ClientLoopEvent ε} (run : c.deliver event = some d)
    (other : ∀ index, event ≠ .disconnected index) : d.disconnecting = c.disconnecting := by
  cases event with
  | connected index err =>
    obtain ⟨cb, _, rfl⟩ := Option.map_eq_some_iff.mp run
    cases err with
    | none => rfl
    | some err => exact (fail_answers _ cb err).disconnecting
  | metadata index err =>
    obtain ⟨cb, _, rfl⟩ := Option.map_eq_some_iff.mp run
    cases err with
    | none => rfl
    | some err => exact (fail_answers _ cb err).disconnecting
  | failureDisconnected index =>
    obtain ⟨attempt, _, rfl⟩ := Option.map_eq_some_iff.mp run
    exact (c.settle_answers index _).disconnecting
  | failureTimeout index =>
    obtain ⟨attempt, _, rfl⟩ := Option.map_eq_some_iff.mp run
    exact (c.settle_answers index _).disconnecting
  | immediate index =>
    obtain ⟨cb, _, rfl⟩ := Option.map_eq_some_iff.mp run
    rfl
  | disconnected index => exact absurd rfl (other index)

/-- A connect call adds at most a closure that waits for the native connect. -/
theorem connect_grows (c : Client ε) (cb : Option Nat) :
    c.connecting.length ≤ (c.connect cb).connecting.length ∧ (c.connect cb).fetching = c.fetching ∧
      (c.connect cb).disconnecting = c.disconnecting ∧ (c.connect cb).failed = c.failed ∧
      (c.connect cb).isDisconnecting = c.isDisconnecting := by
  have attempt (d : Client ε) : d.connecting.length ≤ (d.startAttempt cb).connecting.length ∧
      (d.startAttempt cb).fetching = d.fetching ∧ (d.startAttempt cb).disconnecting = d.disconnecting ∧
      (d.startAttempt cb).failed = d.failed ∧ (d.startAttempt cb).isDisconnecting = d.isDisconnecting := by
    simp only [startAttempt]
    split <;> simp [record]
  simp only [connect]
  split
  · simp [record]
  · split
    · simp [record]
    · exact attempt (c.record (.connectCall cb))

theorem record_answers (c : Client ε) {event : ClientEvent ε} (silent : event ≠ .ready) :
    c.Answers (c.record event) :=
  ⟨⟨rfl, rfl, Nat.le_refl _, Or.inl rfl, id, [event], rfl, by simpa using silent.symm⟩, rfl, rfl⟩

end Client

namespace ConsumerClient
variable {ε σ : Type}

/-- Every closure has its worker, and only one disconnect is under way. -/
structure Paired (s : ConsumerClient ε σ) : Prop where
  connects : s.connects.length = s.client.connecting.length
  fetches : s.fetches.length = s.client.fetching.length
  disconnects : s.disconnects.length = s.client.disconnecting.length
  teardowns : s.teardowns.length = s.client.failed.length
  single : s.client.disconnecting.length ≤ s.client.isDisconnecting.toNat

/-- A disconnect that found the consumer settled meets no other Disconnect, and
has not closed the handle yet, or it is gone. -/
def Alone (s : ConsumerClient ε σ) : Prop :=
  s.Gone ∨ s.Idle ∧ ∀ worker ∈ s.disconnects,
    worker.pastClose = false ∧ (worker = .queued → s.consumer.mIsClosing = false)

/-- What every run keeps. -/
structure Kept (s : ConsumerClient ε σ) : Prop where
  paired : s.Paired
  calling : s.calling = some true → s.Alone
  returning : s.returning = some true → s.Gone ∧ s.client.isConnected = false
  closed : ∀ logged, (logged, true) ∈ s.closed → s.Gone ∧ s.Closed logged

/-- A step without a connect call, while no attempt can succeed. -/
structure Fades (s t : ConsumerClient ε σ) : Prop where
  consumer : t.consumer = s.consumer
  connects : t.connects.Sublist s.connects
  fetches : t.fetches.Sublist s.fetches
  teardowns : t.teardowns = s.teardowns ∨
    s.client.isConnected = true ∧ s.connects ++ s.fetches ≠ []
  isConnected : t.client.isConnected = true → s.client.isConnected = true
  log : ∃ events, t.client.log = s.client.log ++ events ∧ ClientEvent.ready ∉ events

section
variable {s t : ConsumerClient ε σ}

theorem Gone.fades (gone : s.Gone) (fades : s.Fades t) : t.Gone := by
  obtain ⟨handle, connects, fetches⟩ := gone
  refine ⟨fades.consumer ▸ handle, fun worker member => ?_, fun worker member => ?_⟩
  · exact connects worker (fades.connects.subset member)
  · exact fetches worker (fades.fetches.subset member)

theorem Idle.fades (idle : s.Idle) (fades : s.Fades t) : t.Idle := by
  obtain ⟨failed, connected, teardowns⟩ := idle
  have fewer := fades.connects.append fades.fetches
  refine ⟨fun worker member => failed worker (fewer.subset member), fun isConnected => ?_, ?_⟩
  · rw [connected (fades.isConnected isConnected)] at fewer
    exact List.sublist_nil.mp fewer
  · rcases fades.teardowns with same | ⟨isConnected, outstanding⟩
    · rwa [same]
    · exact absurd (connected isConnected) outstanding

theorem Closed.fades {logged : Nat} (closed : s.Closed logged) (fades : s.Fades t) :
    t.Closed logged := by
  obtain ⟨events, log, silent⟩ := fades.log
  refine ⟨?_, fades.consumer ▸ closed.handle, ?_⟩
  · cases connected : t.client.isConnected with
    | false => rfl
    | true => rw [← closed.isConnected, fades.isConnected connected]
  · rw [log, List.drop_append, List.mem_append]
    rintro (earlier | later)
    · exact closed.ready earlier
    · exact silent (List.mem_of_mem_drop later)

/-- No attempt can succeed. -/
def Failing (s : ConsumerClient ε σ) : Prop :=
  (∀ worker ∈ s.connects, worker.failed = true) ∧ ∀ worker ∈ s.fetches, worker.succeeded = false

theorem Gone.failing (gone : s.Gone) : s.Failing := gone.2

theorem Alone.failing (alone : s.Alone) : s.Failing := by
  rcases alone with gone | ⟨⟨failed, _⟩, _⟩
  · exact gone.failing
  · refine ⟨fun worker member => failed worker (List.mem_append_left _ member), fun worker member => ?_⟩
    have has := failed worker (List.mem_append_right _ member)
    cases worker with
    | finished err =>
      cases err with
      | none => cases has
      | some err => rfl
    | queued | creating => rfl

/-- Nothing is spawned for closures that have their workers. -/
theorem spawn_eq {ω : Type} {queued : ω} {closures : Nat} {workers : List ω}
    (enough : closures ≤ workers.length) : spawn queued closures workers = workers := by
  simp [spawn, Nat.sub_eq_zero_of_le enough]

theorem spawn_length {ω : Type} {queued : ω} {closures : Nat} {workers : List ω}
    (few : workers.length ≤ closures) : (spawn queued closures workers).length = closures := by
  simp [spawn]
  omega

/-- The workers that a client's closures go with, with room for new ones. -/
structure Covers (s : ConsumerClient ε σ) (c : Client ε) : Prop where
  connects : s.connects.length ≤ c.connecting.length
  fetches : s.fetches.length ≤ c.fetching.length
  disconnects : s.disconnects.length ≤ c.disconnecting.length
  teardowns : s.teardowns.length ≤ c.failed.length
  single : c.disconnecting.length ≤ c.isDisconnecting.toNat

theorem Covers.follow {c : Client ε} (covers : s.Covers c) : (s.follow c).Paired :=
  ⟨spawn_length covers.connects, spawn_length covers.fetches, spawn_length covers.disconnects,
    spawn_length covers.teardowns, covers.single⟩

theorem Paired.covers (paired : s.Paired) {c : Client ε} (answers : s.client.Answers c) :
    s.Covers c := by
  obtain ⟨connects, fetches, disconnects, teardowns, single⟩ := paired
  refine ⟨?_, ?_, ?_, ?_, ?_⟩
  · rw [connects, answers.connecting]
  · rw [fetches, answers.fetching]
  · rw [disconnects, answers.disconnecting]
  · exact teardowns.trans_le answers.grows
  · rw [answers.disconnecting, answers.isDisconnecting]
    exact single

/-- What is spawned for a client that wanes is at most a teardown. The worker
whose event it got is gone by then. -/
theorem Paired.fades {u : ConsumerClient ε σ} (paired : u.Paired) {c : Client ε}
    (wanes : u.client.Wanes c) (consumer : u.consumer = s.consumer)
    (connects : u.connects.Sublist s.connects) (fetches : u.fetches.Sublist s.fetches)
    (teardowns : u.teardowns = s.teardowns) (isConnected : u.client.isConnected = s.client.isConnected)
    (log : u.client.log = s.client.log)
    (outstanding : c.failed.length = u.client.failed.length ∨ s.connects ++ s.fetches ≠ []) :
    s.Fades (u.follow c) := by
  have noConnect : (u.follow c).connects = u.connects := spawn_eq (by rw [paired.connects, wanes.connecting])
  have noFetch : (u.follow c).fetches = u.fetches := spawn_eq (by rw [paired.fetches, wanes.fetching])
  refine ⟨consumer, by rwa [noConnect], by rwa [noFetch], ?_, ?_, ?_⟩
  · have noTeardown (same : c.failed.length = u.client.failed.length) :
        (u.follow c).teardowns = s.teardowns :=
      (spawn_eq (by rw [paired.teardowns, same])).trans teardowns
    rcases wanes.failed with same | connected
    · exact Or.inl (noTeardown same)
    · rcases outstanding with same | some_
      · exact Or.inl (noTeardown same)
      · exact Or.inr ⟨isConnected ▸ connected, some_⟩
  · exact fun connected => isConnected ▸ wanes.isConnected connected
  · exact log ▸ wanes.log

theorem Paired.answers (paired : s.Paired) {c : Client ε} (answers : s.client.Answers c)
    (outstanding : c.failed.length = s.client.failed.length ∨ s.connects ++ s.fetches ≠ []) :
    (s.follow c).Paired ∧ s.Fades (s.follow c) :=
  ⟨(paired.covers answers).follow, paired.fades answers.toWanes rfl (.refl _) (.refl _) rfl rfl rfl outstanding⟩

theorem length_eraseIdx_congr {α β : Type} {left : List α} {right : List β}
    (same : left.length = right.length) (index : Nat) :
    (left.eraseIdx index).length = (right.eraseIdx index).length := by
  rw [List.length_eraseIdx, List.length_eraseIdx, same]

/-- A worker of an attempt goes with its closure. -/
theorem Paired.takeConnect (paired : s.Paired) (index : Nat) :
    Paired { s with
      connects := s.connects.eraseIdx index
      client := { s.client with connecting := s.client.connecting.eraseIdx index } } :=
  ⟨length_eraseIdx_congr paired.connects index, paired.fetches, paired.disconnects, paired.teardowns,
    paired.single⟩

theorem Paired.takeFetch (paired : s.Paired) (index : Nat) :
    Paired { s with
      fetches := s.fetches.eraseIdx index
      client := { s.client with fetching := s.client.fetching.eraseIdx index } } :=
  ⟨paired.connects, length_eraseIdx_congr paired.fetches index, paired.disconnects, paired.teardowns,
    paired.single⟩

theorem Paired.settle (paired : s.Paired) (index : Nat) (attempt : FailedAttempt ε) :
    (s.follow (s.client.settle index attempt)).Paired ∧ s.Fades (s.follow (s.client.settle index attempt)) :=
  paired.answers (s.client.settle_answers index attempt) (Or.inl (s.client.settle_failed index attempt))

/-- The end of the disconnect under way. -/
theorem Paired.disconnected (paired : s.Paired) {index : Nat} {cb : Option Nat}
    (found : s.client.disconnecting[index]? = some cb) :
    ((s.deliver (.disconnected index)).follow (Client.disconnected
        { s.client with disconnecting := s.client.disconnecting.eraseIdx index } cb)).Paired ∧
      s.Fades ((s.deliver (.disconnected index)).follow (Client.disconnected
        { s.client with disconnecting := s.client.disconnecting.eraseIdx index } cb)) := by
  obtain ⟨bound, _⟩ := List.getElem?_eq_some_iff.mp found
  have single := paired.single.trans (Bool.toNat_le _)
  have taken : Paired { s with
      disconnects := s.disconnects.eraseIdx index
      calling := none
      returning := s.calling
      client := { s.client with disconnecting := s.client.disconnecting.eraseIdx index } } := by
    refine ⟨paired.connects, paired.fetches, length_eraseIdx_congr paired.disconnects index,
      paired.teardowns, ?_⟩
    exact (List.length_eraseIdx_le _ _).trans paired.single
  have ends := Client.disconnected_wanes
    { s.client with disconnecting := s.client.disconnecting.eraseIdx index } cb
  refine ⟨Covers.follow ⟨taken.connects.le, taken.fetches.le, taken.disconnects.le, taken.teardowns.le, ?_⟩,
    taken.fades ends rfl (.refl _) (.refl _) rfl rfl rfl (Or.inl rfl)⟩
  show (s.client.disconnecting.eraseIdx index).length ≤ 0
  rw [List.length_eraseIdx_of_lt bound]
  omega

/-- Only a success does more than fade. -/
theorem Paired.deliver (paired : s.Paired) {event : ClientLoopEvent ε} {client : Client ε}
    (finished : s.Finished event) (run : s.client.deliver event = some client) :
    ((s.deliver event).follow client).Paired ∧
      (s.Failing → s.Fades ((s.deliver event).follow client)) := by
  cases event with
  | connected index err =>
    obtain ⟨cb, found, rfl⟩ := Option.map_eq_some_iff.mp run
    have taken := paired.takeConnect index
    have member := List.mem_of_getElem? finished
    cases err with
    | none =>
      refine ⟨Covers.follow ⟨taken.connects.le, ?_, taken.disconnects.le, taken.teardowns.le, taken.single⟩,
        fun failing => ?_⟩
      · simp [ConsumerClient.deliver, Client.connected, paired.fetches]
      · cases failing.1 _ member
    | some err =>
      have fails := Client.fail_answers { s.client with connecting := s.client.connecting.eraseIdx index } cb err
      refine ⟨(taken.covers fails).follow, fun _ => ?_⟩
      refine taken.fades fails.toWanes rfl (List.eraseIdx_sublist _ _) (.refl _) rfl rfl rfl (Or.inr ?_)
      exact List.append_ne_nil_of_left_ne_nil (List.ne_nil_of_mem member) _
  | metadata index err =>
    obtain ⟨cb, found, rfl⟩ := Option.map_eq_some_iff.mp run
    have taken := paired.takeFetch index
    have member := List.mem_of_getElem? finished
    cases err with
    | none =>
      refine ⟨Covers.follow ⟨taken.connects.le, taken.fetches.le, taken.disconnects.le, taken.teardowns.le,
        taken.single⟩, fun failing => ?_⟩
      cases failing.2 _ member
    | some err =>
      have fails := Client.fail_answers { s.client with fetching := s.client.fetching.eraseIdx index } cb err
      refine ⟨(taken.covers fails).follow, fun _ => ?_⟩
      refine taken.fades fails.toWanes rfl (.refl _) (List.eraseIdx_sublist _ _) rfl rfl rfl (Or.inr ?_)
      exact List.append_ne_nil_of_right_ne_nil _ (List.ne_nil_of_mem member)
  | failureDisconnected index =>
    obtain ⟨attempt, _, rfl⟩ := Option.map_eq_some_iff.mp run
    obtain ⟨after, fades⟩ := paired.settle index
      { attempt with workerPending := false,
                     timerPending := attempt.timerPending && attempt.callbackCalled }
    exact ⟨after, fun _ => fades⟩
  | failureTimeout index =>
    obtain ⟨attempt, _, rfl⟩ := Option.map_eq_some_iff.mp run
    obtain ⟨after, fades⟩ := paired.settle index { attempt with timerPending := false }
    exact ⟨after, fun _ => fades⟩
  | immediate index =>
    obtain ⟨cb, _, rfl⟩ := Option.map_eq_some_iff.mp run
    have taken : Paired { s with
        client := { s.client with immediates := s.client.immediates.eraseIdx index } } :=
      ⟨paired.connects, paired.fetches, paired.disconnects, paired.teardowns, paired.single⟩
    have calls := Client.next_answers { s.client with immediates := s.client.immediates.eraseIdx index } cb none
    refine ⟨(taken.covers calls).follow, fun _ => ?_⟩
    exact taken.fades calls.toWanes rfl (.refl _) (.refl _) rfl rfl rfl (Or.inl rfl)
  | disconnected index =>
    obtain ⟨cb, found, rfl⟩ := Option.map_eq_some_iff.mp run
    obtain ⟨after, fades⟩ := paired.disconnected found
    exact ⟨after, fun _ => fades⟩

theorem Alone.fades (alone : s.Alone) (fades : s.Fades t) (disconnects : t.disconnects = s.disconnects) :
    t.Alone := by
  rcases alone with gone | ⟨idle, workers⟩
  · exact Or.inl (gone.fades fades)
  · refine Or.inr ⟨idle.fades fades, ?_⟩
    rw [disconnects, fades.consumer]
    exact workers

/-- What is recorded of disconnect calls bears on neither. -/
theorem Paired.recording (paired : t.Paired) (calling returning : Option Bool) (closed : List (Nat × Bool)) :
    Paired { t with calling, returning, closed } :=
  ⟨paired.connects, paired.fetches, paired.disconnects, paired.teardowns, paired.single⟩

theorem Fades.recording (fades : s.Fades t) (calling returning : Option Bool) (closed : List (Nat × Bool)) :
    s.Fades { t with calling, returning, closed } :=
  ⟨fades.consumer, fades.connects, fades.fetches, fades.teardowns, fades.isConnected, fades.log⟩

theorem Kept.fades_returning (kept : s.Kept) (fades : s.Failing → s.Fades t)
    (settled : s.returning = some true) : t.Gone ∧ t.client.isConnected = false := by
  obtain ⟨gone, isConnected⟩ := kept.returning settled
  have after := fades gone.failing
  refine ⟨gone.fades after, ?_⟩
  cases connected : t.client.isConnected with
  | false => rfl
  | true => rw [← isConnected, after.isConnected connected]

theorem Kept.fades_closed (kept : s.Kept) (fades : s.Failing → s.Fades t) {logged : Nat}
    (member : (logged, true) ∈ s.closed) : t.Gone ∧ t.Closed logged := by
  obtain ⟨gone, closed⟩ := kept.closed logged member
  exact ⟨gone.fades (fades gone.failing), closed.fades (fades gone.failing)⟩

/-- A step that fades leaves what is recorded of disconnect calls true. -/
theorem Kept.fades (kept : s.Kept) (paired : t.Paired) (fades : s.Failing → s.Fades t)
    (disconnects : t.disconnects = s.disconnects) (calling : t.calling = s.calling)
    (returning : t.returning = s.returning) (closed : t.closed = s.closed) : t.Kept := by
  refine ⟨paired, fun alone => ?_, fun settled => ?_, fun logged member => ?_⟩
  · have before := kept.calling (calling ▸ alone)
    exact before.fades (fades before.failing) disconnects
  · exact kept.fades_returning fades (returning ▸ settled)
  · exact kept.fades_closed fades (closed ▸ member)

theorem Kept.connect (kept : s.Kept) (cb : Option Nat) : (s.track (s.client.connect cb) (.connect cb)).Kept := by
  obtain ⟨connects, fetches, disconnects, teardowns, single⟩ := kept.paired
  obtain ⟨connecting, fetching, disconnecting, failed, isDisconnecting⟩ := s.client.connect_grows cb
  have covers : s.Covers (s.client.connect cb) := by
    refine ⟨connects.trans_le connecting, ?_, ?_, ?_, ?_⟩
    · rw [fetches, fetching]
    · rw [disconnects, disconnecting]
    · rw [teardowns, failed]
    · rw [disconnecting, isDisconnecting]
      exact single
  exact ⟨covers.follow.recording none none [], nofun, nofun, nofun⟩

theorem Kept.disconnect (kept : s.Kept) (cb : Option Nat) :
    (s.track (s.client.disconnect cb) (.disconnect cb)).Kept := by
  cases leaving : s.client.isDisconnecting with
  | true =>
    have ignored : s.client.disconnect cb = s.client.record (.disconnectCall cb) := by
      simp [Client.disconnect, Client.record, leaving]
    have silent : ClientEvent.disconnectCall cb ≠ (.ready : ClientEvent ε) := by simp
    obtain ⟨paired, fades⟩ := kept.paired.answers (s.client.record_answers silent) (Or.inl rfl)
    have tracked : s.track (s.client.disconnect cb) (.disconnect cb) =
        s.follow (s.client.record (.disconnectCall cb)) := by
      simp [track, ignored, leaving]
    rw [tracked]
    exact kept.fades paired (fun _ => fades) (spawn_eq kept.paired.disconnects.ge) rfl rfl rfl
  | false =>
    have nobody : s.client.disconnecting = [] := by
      have single := kept.paired.single
      rw [leaving] at single
      exact List.length_eq_zero_iff.mp (Nat.le_zero.mp single)
    have idle : s.disconnects = [] := by
      have same := kept.paired.disconnects
      rw [nobody] at same
      exact List.length_eq_zero_iff.mp same
    have started : s.client.disconnect cb = { s.client.record (.disconnectCall cb) with
        isDisconnecting := true, disconnecting := [cb] } := by
      simp [Client.disconnect, Client.record, leaving, nobody]
    have wanes := s.client.disconnect_wanes cb
    have fades : s.Fades (s.follow (s.client.disconnect cb)) :=
      kept.paired.fades wanes rfl (.refl _) (.refl _) rfl rfl rfl (Or.inl (by rw [started]; rfl))
    have workers : (s.follow (s.client.disconnect cb)).disconnects = [.queued] := by
      simp [follow, started, idle, spawn]
    have paired : (s.follow (s.client.disconnect cb)).Paired := by
      have same := kept.paired
      rw [started]
      exact Covers.follow ⟨same.connects.le, same.fetches.le, by simp [idle], same.teardowns.le, Nat.le_refl 1⟩
    have tracked : s.track (s.client.disconnect cb) (.disconnect cb) =
        { s.follow (s.client.disconnect cb) with calling := some (decide s.Settled) } := by
      simp [track, leaving]
    have after := fades.recording (some (decide s.Settled)) s.returning s.closed
    rw [tracked]
    refine ⟨paired.recording _ _ _, fun settled => ?_, kept.fades_returning fun _ => after,
      fun logged => kept.fades_closed fun _ => after⟩
    · have found : s.Settled := of_decide_eq_true (Option.some.inj settled)
      rcases found with gone | ⟨idle, open_⟩
      · exact Or.inl (gone.fades after)
      · refine Or.inr ⟨idle.fades after, fun worker member => ?_⟩
        cases List.mem_singleton.mp (workers ▸ member)
        exact ⟨rfl, fun _ => open_⟩

theorem Kept.resume (kept : s.Kept) {frame : ClientFrame} (returning : s.client.frame = some frame) :
    (s.track (s.client.resume frame) .resume).Kept := by
  have answers := s.client.resume_answers frame
  have same : (s.client.resume frame).failed.length = s.client.failed.length := by
    cases frame with
    | ready joined cb => cases joined <;> rfl
    | disconnected cb => rfl
  obtain ⟨paired, fades⟩ := kept.paired.answers answers (Or.inl same)
  have workers : (s.follow (s.client.resume frame)).disconnects = s.disconnects :=
    spawn_eq (by rw [kept.paired.disconnects, answers.disconnecting])
  cases frame with
  | ready joined cb =>
    have tracked : s.track (s.client.resume (.ready joined cb)) .resume =
        s.follow (s.client.resume (.ready joined cb)) := by
      simp [track, returned, returning]
    rw [tracked]
    exact kept.fades paired (fun _ => fades) workers rfl rfl rfl
  | disconnected cb =>
    have tracked : s.track (s.client.resume (.disconnected cb)) .resume =
        { s.follow (s.client.resume (.disconnected cb)) with
          returning := none
          closed := s.closed ++
            s.returning.toList.map ((s.client.resume (.disconnected cb)).log.length, ·) } := by
      simp [track, returned, returning, follow]
    have after := fades.recording s.calling none (s.closed ++
      s.returning.toList.map ((s.client.resume (.disconnected cb)).log.length, ·))
    rw [tracked]
    refine ⟨paired.recording _ _ _, fun alone => (kept.calling alone).fades after workers, nofun,
      fun logged member => ?_⟩
    rcases List.mem_append.mp member with earlier | now
    · exact kept.fades_closed (fun _ => after) earlier
    · obtain ⟨settled, fired, logs⟩ := List.mem_map.mp now
      cases logs
      obtain ⟨gone, isConnected⟩ := kept.fades_returning (fun _ => after) (Option.mem_toList.mp fired)
      refine ⟨gone, isConnected, Option.isSome_eq_false_iff.mp gone.1 |> Option.isNone_iff_eq_none.mp, ?_⟩
      show ClientEvent.ready ∉ List.drop _ (s.client.resume (.disconnected cb)).log
      rw [List.drop_length]
      exact List.not_mem_nil

theorem Kept.deliver (kept : s.Kept) {event : ClientLoopEvent ε} {client : Client ε}
    (finished : s.Finished event) (run : s.client.deliver event = some client) :
    (s.track client (.deliver event)).Kept := by
  obtain ⟨paired, fades⟩ := kept.paired.deliver finished run
  have others (other : ∀ index, event ≠ .disconnected index) :
      spawn .queued client.disconnecting.length s.disconnects = s.disconnects :=
    spawn_eq (by rw [kept.paired.disconnects, Client.deliver_disconnecting run other])
  cases event with
  | connected index err => exact kept.fades paired fades (others nofun) rfl rfl rfl
  | metadata index err => exact kept.fades paired fades (others nofun) rfl rfl rfl
  | failureDisconnected index => exact kept.fades paired fades (others nofun) rfl rfl rfl
  | failureTimeout index => exact kept.fades paired fades (others nofun) rfl rfl rfl
  | immediate index => exact kept.fades paired fades (others nofun) rfl rfl rfl
  | disconnected index =>
    obtain ⟨cb, _, rfl⟩ := Option.map_eq_some_iff.mp run
    refine ⟨paired, nofun, fun settled => ⟨?_, rfl⟩, fun logged => kept.fades_closed fades⟩
    -- A Disconnect that has finished has closed the handle.
    rcases kept.calling settled with gone | ⟨_, workers⟩
    · exact gone.fades (fades gone.failing)
    · have ended := (workers .finished (List.mem_of_getElem? finished)).1
      cases ended

theorem Kept.js [DecidableEq ε] {action : ClientAction ε} (kept : s.Kept) (run : s.js action = some t) :
    t.Kept := by
  cases action with
  | connect cb =>
    cases Option.some.inj run
    exact kept.connect cb
  | disconnect cb =>
    cases Option.some.inj run
    exact kept.disconnect cb
  | resume =>
    obtain ⟨client, stepped, rfl⟩ := Option.map_eq_some_iff.mp run
    obtain ⟨frame, returning, rfl⟩ := Option.map_eq_some_iff.mp stepped
    exact kept.resume returning
  | deliver event =>
    simp only [ConsumerClient.js, Option.ite_none_right_eq_some] at run
    obtain ⟨finished, stepped⟩ := run
    obtain ⟨client, delivered, rfl⟩ := Option.map_eq_some_iff.mp stepped
    simp only [Client.step, Option.ite_none_left_eq_some] at delivered
    exact kept.deliver finished delivered.2

end

section
variable {lib : Librdkafka σ} {wrap : Baton Unit → ε} {s t : ConsumerClient ε σ}

/-- A step of a worker does nothing to the client. -/
theorem Kept.native (kept : s.Kept) (paired : t.Paired) (client : t.client = s.client)
    (calling : t.calling = s.calling) (returning : t.returning = s.returning) (closed : t.closed = s.closed)
    (gone : s.Gone → t.Gone) (alone : s.Alone → t.Alone) : t.Kept := by
  refine ⟨paired, fun settled => alone (kept.calling (calling ▸ settled)), fun settled => ?_,
    fun logged member => ?_⟩
  · obtain ⟨before, isConnected⟩ := kept.returning (returning ▸ settled)
    exact ⟨gone before, client ▸ isConnected⟩
  · obtain ⟨before, left⟩ := kept.closed logged (closed ▸ member)
    have after := gone before
    refine ⟨after, client ▸ left.isConnected, ?_, client ▸ left.ready⟩
    exact Option.isNone_iff_eq_none.mp (Option.isSome_eq_false_iff.mp after.1)

/-- A native connect that has not finished may still make a handle. -/
theorem Kept.connectWorker (kept : s.Kept) {index : Nat}
    (run : s.connectWorker lib wrap index = some t) : t.Kept := by
  obtain ⟨connects, fetches, disconnects, teardowns, single⟩ := kept.paired
  have unsettled {worker : AttemptWorker ε} (found : s.connects[index]? = some worker)
      (unfinished : worker.failed = false) : ¬s.Failing := by
    intro failing
    rw [failing.1 worker (List.mem_of_getElem? found)] at unfinished
    cases unfinished
  have length (worker : AttemptWorker ε) :
      (s.connects.set index worker).length = s.client.connecting.length := by
    rw [List.length_set, connects]
  have step (paired : t.Paired) (client : t.client = s.client) (calling : t.calling = s.calling)
      (returning : t.returning = s.returning) (closed : t.closed = s.closed) (failing : ¬s.Failing) : t.Kept :=
    kept.native paired client calling returning closed (fun gone => absurd gone.failing failing)
      (fun alone => absurd alone.failing failing)
  unfold ConsumerClient.connectWorker at run
  split at run
  · rename_i found
    cases Option.some.inj run
    exact step ⟨length _, fetches, disconnects, teardowns, single⟩ rfl rfl rfl rfl (unsettled found rfl)
  · rename_i found
    cases Option.some.inj run
    exact step ⟨length _, fetches, disconnects, teardowns, single⟩ rfl rfl rfl rfl (unsettled found rfl)
  · cases run

/-- Without a handle a metadata request fails. -/
theorem Kept.metadataWorker (kept : s.Kept) {index : Nat} {answer : Option ε}
    (run : s.metadataWorker wrap index answer = some t) : t.Kept := by
  obtain ⟨connects, fetches, disconnects, teardowns, single⟩ := kept.paired
  unfold ConsumerClient.metadataWorker at run
  split at run
  · rename_i found
    cases Option.some.inj run
    have fails (gone : s.Gone) : Gone { s with
        fetches := s.fetches.set index (.finished (if s.consumer.isConnected then answer
          else some (wrap (.ofCode ErrorCode.errState)))) } := by
      have closed : s.consumer.isConnected = false := by simp [KafkaConsumer.isConnected, gone.1]
      refine ⟨gone.1, gone.2.1, fun worker member => ?_⟩
      rcases List.mem_or_eq_of_mem_set member with member | rfl
      · exact gone.2.2 worker member
      · simp [closed, AttemptWorker.succeeded]
    refine kept.native ⟨connects, ?_, disconnects, teardowns, single⟩ rfl rfl rfl rfl fails fun alone => ?_
    · rw [List.length_set, fetches]
    · rcases alone with gone | ⟨idle, _⟩
      · exact Or.inl (fails gone)
      · have failed := idle.1 _ (List.mem_append_right _ (List.mem_of_getElem? found))
        cases failed
  · cases run

/-- No step of a Disconnect makes a handle. -/
theorem advance_mClient {c d : KafkaConsumer σ} {worker next : DisconnectWorker}
    (run : worker.advance c = some (d, next)) (none_ : c.mClient.isSome = false) :
    d.mClient.isSome = false := by
  cases worker with
  | queued => cases Option.some.inj run; exact none_
  | checked => cases Option.some.inj run; exact none_
  | closing => simp [DisconnectWorker.advance, none_] at run
  | ending => cases Option.some.inj run; exact none_
  | finished => cases run

/-- The Disconnect of a settled call runs alone, so its check and its close
leave no handle. -/
theorem Kept.disconnectWorker (kept : s.Kept) {index : Nat} (run : s.disconnectWorker index = some t) :
    t.Kept := by
  obtain ⟨⟨consumer, next⟩, advanced, rfl⟩ := Option.map_eq_some_iff.mp run
  obtain ⟨worker, found, stepped⟩ := Option.bind_eq_some_iff.mp advanced
  obtain ⟨connects, fetches, disconnects, teardowns, single⟩ := kept.paired
  have stays (gone : s.Gone) : Gone { s with consumer, disconnects := s.disconnects.set index next } :=
    ⟨advance_mClient stepped gone.1, gone.2⟩
  have only (other : DisconnectWorker) (member : other ∈ s.disconnects.set index next) : other = next := by
    obtain ⟨bound, _⟩ := List.getElem?_eq_some_iff.mp found
    have few : (s.disconnects.set index next).length ≤ 1 := by
      rw [List.length_set, disconnects]
      exact single.trans (Bool.toNat_le _)
    obtain ⟨place, inside, rfl⟩ := List.getElem_of_mem member
    have same : place = index := by
      rw [List.length_set] at inside few
      omega
    subst same
    exact List.getElem_set_self _
  refine kept.native ⟨connects, fetches, ?_, teardowns, single⟩ rfl rfl rfl rfl stays fun alone => ?_
  · rw [List.length_set, disconnects]
  · have failing := alone.failing
    rcases alone with gone | ⟨idle, workers⟩
    · exact Or.inl (stays gone)
    · obtain ⟨early, open_⟩ := workers worker (List.mem_of_getElem? found)
      cases worker with
      | queued =>
        cases connected : s.consumer.isConnected with
        | true =>
          simp only [DisconnectWorker.advance, connected, if_true] at stepped
          cases Option.some.inj stepped
          refine Or.inr ⟨idle, fun other member => ?_⟩
          simp [only other member, DisconnectWorker.pastClose]
        | false =>
          cases Option.some.inj stepped
          have none_ : s.consumer.mClient.isSome = false := by
            simpa [KafkaConsumer.isConnected, open_ rfl] using connected
          exact Or.inl ⟨none_, failing⟩
      | checked =>
        cases Option.some.inj stepped
        refine Or.inr ⟨idle, fun other member => ?_⟩
        simp [only other member, DisconnectWorker.pastClose]
      | closing =>
        simp only [DisconnectWorker.advance, Option.ite_none_right_eq_some] at stepped
        cases Option.some.inj stepped.2
        exact Or.inl ⟨rfl, failing⟩
      | ending | finished => cases early

theorem Kept.teardownWorker (kept : s.Kept) {index : Nat} (run : s.teardownWorker index = some t) :
    t.Kept := by
  obtain ⟨⟨consumer, next⟩, advanced, rfl⟩ := Option.map_eq_some_iff.mp run
  obtain ⟨worker, found, stepped⟩ := Option.bind_eq_some_iff.mp advanced
  obtain ⟨connects, fetches, disconnects, teardowns, single⟩ := kept.paired
  have stays (gone : s.Gone) : Gone { s with consumer, teardowns := s.teardowns.set index next } :=
    ⟨advance_mClient stepped gone.1, gone.2⟩
  refine kept.native ⟨connects, fetches, disconnects, ?_, single⟩ rfl rfl rfl rfl stays fun alone => ?_
  · rw [List.length_set, teardowns]
  · rcases alone with gone | ⟨⟨failed, connected, past⟩, workers⟩
    · exact Or.inl (stays gone)
    · have close := past worker (List.mem_of_getElem? found)
      cases worker with
      | ending =>
        cases Option.some.inj stepped
        refine Or.inr ⟨⟨failed, connected, fun other member => ?_⟩, fun other member => ?_⟩
        · rcases List.mem_or_eq_of_mem_set member with member | rfl
          · exact past other member
          · rfl
        · exact ⟨(workers other member).1, fun _ => rfl⟩
      | finished => cases stepped
      | queued | checked | closing => cases close

theorem Kept.step [DecidableEq ε] {action : ConsumerClientAction ε} (kept : s.Kept)
    (run : s.step lib wrap action = some t) : t.Kept := by
  cases action with
  | js action => exact kept.js run
  | connectWorker index => exact kept.connectWorker run
  | metadataWorker index answer => exact kept.metadataWorker run
  | disconnectWorker index => exact kept.disconnectWorker run
  | teardownWorker index => exact kept.teardownWorker run

end
end ConsumerClient

/-- From the callback of a disconnect call on that found the consumer settled,
and until the next connect call, the client stays disconnected and closed. -/
theorem disconnect_stays_closed {ε σ : Type} [DecidableEq ε] {lib : Librdkafka σ} {wrap : Baton Unit → ε}
    {configs : CbConfigs} {globalError topicError : String → Option String} {start : Client ε}
    (created : Client.create configs globalError topicError false = .ok start)
    {token : Option OauthBearerToken} {trace : List (ConsumerClientAction ε)} {s : ConsumerClient ε σ}
    (reach : Reach (ConsumerClient.step lib wrap)
      { client := start, consumer := { mInitOauthToken := token } } trace s)
    {logged : Nat} (settled : (logged, true) ∈ s.closed) : s.Closed logged := by
  have base : ConsumerClient.Kept
      { client := start, consumer := { mInitOauthToken := token } : ConsumerClient ε σ } := by
    simp only [Client.create] at created
    split at created
    · cases Except.ok.inj created
      exact ⟨⟨rfl, rfl, rfl, rfl, Nat.le_refl 0⟩, by simp, by simp, by simp⟩
    · cases created
    · cases created
  have kept := reach.invariant ConsumerClient.Kept base ConsumerClient.Kept.step
  exact (kept.closed logged settled).2

/-- A connection, and a disconnect that closes its handle. -/
def orderlyDisconnect : List (ConsumerClientAction String) :=
  [.js (.connect none), .connectWorker 0, .connectWorker 0, .js (.deliver (.connected 0 none)),
   .metadataWorker 0 none, .js (.deliver (.metadata 0 none)), .js .resume, .js (.disconnect (some 1)),
   .disconnectWorker 0, .disconnectWorker 0, .disconnectWorker 0, .disconnectWorker 0,
   .js (.deliver (.disconnected 0)), .js .resume]

theorem disconnect_stays_closed_orderly :
    ∃ s : ConsumerClient String (List TopicPartition),
      Reach (ConsumerClient.step (tableLibrdkafka "EAGER") Baton.mErrstr)
        { client := sampleClient, consumer := { mInitOauthToken := none } } orderlyDisconnect s ∧
      s.closed = [(6, true)] ∧ s.creates = 1 ∧ s.Closed 6 := by
  obtain ⟨s, run, facts⟩ : ∃ s : ConsumerClient String (List TopicPartition),
      replay (ConsumerClient.step (tableLibrdkafka "EAGER") Baton.mErrstr)
          { client := sampleClient, consumer := { mInitOauthToken := none } } orderlyDisconnect = some s ∧
        (s.closed, s.creates) = ([(6, true)], 1) :=
    Option.map_eq_some_iff.mp (by decide +kernel)
  obtain ⟨closed, creates⟩ := Prod.mk.inj facts
  have reach := reach_iff_replay.mpr run
  exact ⟨s, reach, closed, creates, disconnect_stays_closed sampleClient_created reach (by simp [closed])⟩

/-- The worker of a disconnect overtakes that of the connect before it. -/
def overtakingDisconnect : List (ConsumerClientAction String) :=
  [.js (.connect none), .connectWorker 0, .js (.disconnect (some 1)), .disconnectWorker 0,
   .disconnectWorker 0, .js (.deliver (.disconnected 0)), .js .resume, .connectWorker 0,
   .js (.deliver (.connected 0 none)), .metadataWorker 0 none, .js (.deliver (.metadata 0 none))]

/-- The consumer connects after the callback of the disconnect, and keeps the
handle. -/
theorem disconnect_overtakes_connect :
    ∃ s : ConsumerClient String (List TopicPartition),
      Reach (ConsumerClient.step (tableLibrdkafka "EAGER") Baton.mErrstr)
        { client := sampleClient, consumer := { mInitOauthToken := none } } overtakingDisconnect s ∧
      s.closed = [(5, false)] ∧ s.client.isConnected = true ∧ s.consumer.mClient = some [] ∧
      s.client.log.drop 5 = [.ready] ∧ ¬s.Closed 5 :=
  ⟨_, reach_iff_replay.mpr rfl, rfl, rfl, rfl, rfl, fun closed => absurd closed.isConnected (by decide)⟩

end NodeRdkafka

import NodeRdkafka.ClientConnect
import NodeRdkafka.ClientDisconnect
import NodeRdkafka.KafkaConsumerStream

namespace NodeRdkafka
open Transition

/-- A once listener of 'ready': that of a connect call which joined an
attempt, or one that calls close of the stream. -/
inductive ClosingListener
  | joined
  | close
  deriving DecidableEq

/-- A KafkaConsumerStream and its consumer, as far as they have to do with
'close'. `running` holds the 'ready' listeners that the current emit has yet to
call, and `failing` says that the callback of connect is in its emit of
'error'. The last three fields are history: whether close has been called, by
whom ever, the callbacks passed to it, and those that 'close' has called. -/
structure ClosingStream (ε : Type) where
  client : Client ε
  autoClose : Bool
  destroyed : Bool := false
  endListener : Bool := true
  ready : List ClosingListener := []
  running : List ClosingListener := []
  failing : Bool := false
  closeListeners : List Nat := []
  closes : Nat := 0
  asked : Bool := false
  passed : List Nat := []
  called : List Nat := []

inductive ClosingAction (ε : Type)
  | close (cb : Option Nat)
  | destroy
  | ended
  | connect (cb : Option Nat)
  | disconnect (cb : Option Nat)
  | listener
  | resume
  | deliver (event : ClientLoopEvent ε)
  | failed (threw : Bool)

namespace Client
variable {ε : Type}

/-- The callback of the connect call whose attempt an event ends in failure. -/
def endsAttempt (c : Client ε) : ClientLoopEvent ε → Option (Option Nat)
  | .connected index (some _) => if c.isConnected then none else c.connecting[index]?
  | .metadata index (some _) => if c.isConnected then none else c.fetching[index]?
  | .failureDisconnected index =>
    (c.failed[index]?.filter fun attempt => attempt.workerPending && !attempt.callbackCalled).map (·.cb)
  | .failureTimeout index =>
    (c.failed[index]?.filter fun attempt => attempt.timerPending && !attempt.callbackCalled).map (·.cb)
  | .connected _ none | .metadata _ none | .immediate _ | .disconnected _ => none

/-- The attempts under way: those that a worker or a timer has still to end. -/
def attempts (c : Client ε) : Nat :=
  c.connecting.length + c.fetching.length +
    c.failed.countP fun attempt => !attempt.callbackCalled && (attempt.workerPending || attempt.timerPending)

variable {c d : Client ε}

theorem next_attempts (c : Client ε) (cb : Option Nat) (err : Option ε) :
    (c.next cb err).attempts = c.attempts := rfl

theorem connect_attempts (c : Client ε) (cb : Option Nat) : c.attempts ≤ (c.connect cb).attempts := by
  unfold connect
  dsimp only
  split
  · exact le_rfl
  · split
    · exact le_rfl
    · unfold startAttempt
      dsimp only
      split
      · exact le_rfl
      · simp only [attempts, record, List.length_append, List.length_singleton]
        omega

theorem disconnect_attempts (c : Client ε) (cb : Option Nat) : (c.disconnect cb).attempts = c.attempts := by
  unfold disconnect
  dsimp only
  split <;> rfl

theorem resume_attempts (c : Client ε) (frame : ClientFrame) : (c.resume frame).attempts = c.attempts := by
  unfold resume
  split <;> rfl

/-- An attempt that fails goes on when the client is connected: the native
disconnect and the timer that end it are pending. -/
theorem fail_attempts (c : Client ε) (cb : Option Nat) (err : ε) :
    (c.fail cb err).attempts = c.attempts + if c.isConnected then 1 else 0 := by
  unfold fail
  split
  · simp [attempts, record]
    omega
  · rfl

/-- An attempt that has called its callback counts no more. -/
theorem settle_attempts {index : Nat} {old new : FailedAttempt ε} (found : c.failed[index]? = some old)
    (same : new.callbackCalled = old.callbackCalled) :
    c.attempts ≤ (c.settle index new).attempts +
      (if old.callbackCalled then none else some old.cb).toList.length := by
  obtain ⟨bound, rfl⟩ := List.getElem?_eq_some_iff.mp found
  unfold settle
  cases called : c.failed[index].callbackCalled with
  | true =>
    rw [if_pos (same.trans called)]
    simp only [attempts, List.countP_set bound, called]
    simp
  | false =>
    rw [if_neg (by simp [same, called]), next_attempts]
    simp only [attempts, List.countP_set bound]
    split
    · simp
      omega
    · simp

theorem next_told (c : Client ε) (cb : Nat) (other : Option Nat) (err : Option ε) :
    (∃ e, .connectCallback cb (some e) ∈ (c.next other err).log.drop c.log.length) ↔
      other = some cb ∧ err.isSome = true := by
  simp only [next, List.drop_left, List.mem_map, Option.mem_toList, ClientEvent.connectCallback.injEq]
  constructor
  · rintro ⟨e, called, same, rfl, rfl⟩
    exact ⟨same, rfl⟩
  · rintro ⟨same, failed⟩
    obtain ⟨e, rfl⟩ := Option.isSome_iff_exists.mp failed
    exact ⟨e, cb, same, rfl, rfl⟩

theorem fail_told (c : Client ε) (cb : Nat) (other : Option Nat) (err : ε) :
    (∃ e, .connectCallback cb (some e) ∈ (c.fail other err).log.drop c.log.length) ↔
      c.isConnected = false ∧ other = some cb := by
  unfold fail
  split
  · rename_i connected
    simp [record, connected]
  · rename_i offline
    rw [next_told]
    simp [offline]

theorem settle_told (c : Client ε) (cb index : Nat) (attempt : FailedAttempt ε) :
    (∃ e, .connectCallback cb (some e) ∈ (c.settle index attempt).log.drop c.log.length) ↔
      attempt.callbackCalled = false ∧ attempt.cb = some cb := by
  unfold settle
  split
  · rename_i called
    simp [called]
  · rename_i waits
    refine (next_told { c with failed := c.failed.set index { attempt with callbackCalled := true } } cb attempt.cb
      (some attempt.err)).trans ?_
    simp [waits]

/-- What the worker and the timer of a failed attempt end alike: the attempt,
unless the other of the two has ended it before. -/
theorem endsFailed_eq {index : Nat} {attempt : FailedAttempt ε} {pending : FailedAttempt ε → Bool}
    (found : c.failed[index]?.filter pending = some attempt) :
    ((c.failed[index]?.filter fun attempt => pending attempt && !attempt.callbackCalled).map (·.cb)) =
      if attempt.callbackCalled then none else some attempt.cb := by
  obtain ⟨found, waits⟩ := Option.filter_eq_some_iff.mp found
  rw [found, Option.filter_some, waits, Bool.true_and]
  cases attempt.callbackCalled <;> rfl

/-- It is the callback that the client's log shows to be called with an error. -/
theorem endsAttempt_eq_some_iff {event : ClientLoopEvent ε} (run : c.deliver event = some d) (cb : Nat) :
    c.endsAttempt event = some (some cb) ↔ ∃ err, .connectCallback cb (some err) ∈ d.log.drop c.log.length := by
  cases event with
  | connected index err =>
    obtain ⟨other, found, rfl⟩ := Option.map_eq_some_iff.mp run
    cases err with
    | none => simp [connected, endsAttempt]
    | some err =>
      refine Iff.trans ?_ (fail_told { c with connecting := c.connecting.eraseIdx index } cb other err).symm
      cases connected : c.isConnected <;> simp [endsAttempt, connected, found]
  | metadata index err =>
    obtain ⟨other, found, rfl⟩ := Option.map_eq_some_iff.mp run
    cases err with
    | none => simp [metadata, endsAttempt, record]
    | some err =>
      refine Iff.trans ?_ (fail_told { c with fetching := c.fetching.eraseIdx index } cb other err).symm
      cases connected : c.isConnected <;> simp [endsAttempt, connected, found]
  | failureDisconnected index =>
    obtain ⟨attempt, found, rfl⟩ := Option.map_eq_some_iff.mp run
    rw [settle_told, endsAttempt, endsFailed_eq found]
    cases attempt.callbackCalled <;> simp
  | failureTimeout index =>
    obtain ⟨attempt, found, rfl⟩ := Option.map_eq_some_iff.mp run
    rw [settle_told, endsAttempt, endsFailed_eq found]
    cases attempt.callbackCalled <;> simp
  | immediate index =>
    obtain ⟨other, found, rfl⟩ := Option.map_eq_some_iff.mp run
    refine Iff.trans ?_ (next_told { c with immediates := c.immediates.eraseIdx index } cb other none).symm
    simp [endsAttempt]
  | disconnected index =>
    obtain ⟨other, found, rfl⟩ := Option.map_eq_some_iff.mp run
    simp [disconnected, endsAttempt, record]

/-- An event takes no attempt away but one that it ends. -/
theorem deliver_attempts {event : ClientLoopEvent ε} (run : c.deliver event = some d)
    (quiet : ∀ joined cb, d.frame ≠ some (.ready joined cb)) :
    c.attempts ≤ d.attempts + (c.endsAttempt event).toList.length := by
  cases event with
  | connected index err =>
    obtain ⟨cb, found, rfl⟩ := Option.map_eq_some_iff.mp run
    have fewer := Lists.length_eraseIdx_of_some found
    cases err with
    | none =>
      simp only [connected, attempts, List.length_append, List.length_singleton]
      omega
    | some err =>
      simp only [connected, fail_attempts, endsAttempt, found]
      simp only [attempts]
      split <;> simp <;> omega
  | metadata index err =>
    obtain ⟨cb, found, rfl⟩ := Option.map_eq_some_iff.mp run
    have fewer := Lists.length_eraseIdx_of_some found
    cases err with
    | none => exact absurd rfl (quiet c.joined cb)
    | some err =>
      simp only [metadata, fail_attempts, endsAttempt, found]
      simp only [attempts]
      split <;> simp <;> omega
  | failureDisconnected index =>
    obtain ⟨attempt, found, rfl⟩ := Option.map_eq_some_iff.mp run
    rw [endsAttempt, endsFailed_eq found]
    exact settle_attempts (Option.filter_eq_some_iff.mp found).1 rfl
  | failureTimeout index =>
    obtain ⟨attempt, found, rfl⟩ := Option.map_eq_some_iff.mp run
    rw [endsAttempt, endsFailed_eq found]
    exact settle_attempts (Option.filter_eq_some_iff.mp found).1 rfl
  | immediate index =>
    obtain ⟨cb, _, rfl⟩ := Option.map_eq_some_iff.mp run
    exact Nat.le_add_right _ _
  | disconnected index =>
    obtain ⟨cb, _, rfl⟩ := Option.map_eq_some_iff.mp run
    exact Nat.le_add_right _ _

end Client

namespace ClosingStream
variable {ε : Type}

/-- The callbacks that the stream gives to connect and disconnect of its consumer. -/
def ownCallback : Option Nat := some 0

/-- Those of the user. -/
def userCallback (cb : Option Nat) : Option Nat := cb.map (· + 1)

/-- A connect call that finds an attempt under way adds a listener of 'ready'. -/
def connect (s : ClosingStream ε) (cb : Option Nat) : ClosingStream ε :=
  { s with
    client := s.client.connect cb
    ready := if !s.client.isConnected && s.client.isConnecting then s.ready ++ [.joined] else s.ready }

/-- The stream of the constructor before it connects. The 'ready' listeners
that it finds are those of connect calls. -/
def attach (client : Client ε) (autoClose : Bool) : ClosingStream ε where
  client := client
  autoClose := autoClose
  ready := client.joined.map fun _ => .joined
  running :=
    match client.frame with
    | some (.ready joined _) => joined.map fun _ => .joined
    | _ => []

/-- The constructor, which connects the consumer and ends in an exception when
configureCallbacks throws. -/
def create (client : Client ε) (autoClose : Bool) : Option (ClosingStream ε) :=
  if client.isConnected then some (attach client autoClose)
  else if !client.isConnecting && (client.connection.configureCallbacks true client.configs).2.isSome then none
  else some ((attach client autoClose).connect ownCallback)

def emitClose (s : ClosingStream ε) : ClosingStream ε :=
  { s with closes := s.closes + 1, closeListeners := [], called := s.called ++ s.closeListeners }

/-- close. The call of unsubscribe does not fail. -/
def close (s : ClosingStream ε) (cb : Option Nat) : ClosingStream ε :=
  let s := { s with asked := true, passed := s.passed ++ cb.toList, closeListeners := s.closeListeners ++ cb.toList }
  if !s.client.isConnecting && !s.client.isConnected then s.emitClose
  else if s.client.isConnecting then { s with ready := s.ready ++ [.close] }
  else { s with client := s.client.disconnect ownCallback }

def destroy (s : ClosingStream ε) : ClosingStream ε :=
  if s.destroyed then s else close { s with destroyed := true } none

/-- The emit that an event ends in takes the once listeners. -/
def emit (s : ClosingStream ε) (client : Client ε) : ClosingStream ε :=
  match client.frame with
  | some (.ready _ _) => { s with client, running := s.ready, ready := [] }
  | _ => { s with client }

/-- The user may call at any time, listeners and callbacks included. The event
loop goes on only when nothing is left to run. A subscribe that throws is a call
of destroy by the user here. -/
def step (s : ClosingStream ε) : ClosingAction ε → Option (ClosingStream ε)
  | .close cb => some (s.close cb)
  | .destroy => some s.destroy
  | .ended =>
    if s.endListener then
      let s := { s with endListener := false }
      some (if s.autoClose then s.destroy else s)
    else none
  | .connect cb => some (s.connect (userCallback cb))
  | .disconnect cb => some { s with client := s.client.disconnect (userCallback cb) }
  | .listener =>
    match s.running with
    | .close :: running => some (close { s with running } none)
    | _ => none
  | .resume =>
    match s.running, s.client.frame with
    | .joined :: running, some (.ready (cb :: joined) first) =>
      some { s with running, client := s.client.resume (.ready (cb :: joined) first) }
    | [], some (.disconnected cb) =>
      let s := { s with client := s.client.resume (.disconnected cb) }
      some (if cb = ownCallback then s.emitClose else s)
    | [], some (.ready joined cb) => some { s with client := s.client.resume (.ready joined cb) }
    | _, _ => none
  | .deliver event =>
    if s.client.frame.isSome || s.failing then none
    else
      (s.client.deliver event).map fun client =>
        { s.emit client with failing := decide (s.client.endsAttempt event = some ownCallback) }
  | .failed threw =>
    if s.failing then
      let s := { s with failing := false }
      some (if threw then s else s.destroy)
    else none

/-- What a call of close has to find: 'close' not emitted so far, an attempt
under way while the consumer is connecting, and no disconnect in progress but
that of the stream, while the consumer is connected. -/
structure Closable (s : ClosingStream ε) : Prop where
  first : s.closes = 0
  attempt : s.client.isConnecting = true → 1 ≤ s.client.attempts
  disconnect : 0 ∈ s.client.owed ↔
    s.client.isConnected = true ∧ s.client.isConnecting = false ∧ s.client.isDisconnecting = true

/-- A call of close waits for a 'ready', and no attempt is under way. -/
def Stranded (s : ClosingStream ε) : Prop := s.closes = 0 ∧ .close ∈ s.ready ∧ s.client.attempts = 0

/-- The condition on a step: the calls of close that it makes find what they
have to find, and no attempt is ended by failure that leaves a call of close
waiting and the stream not to be destroyed by its callback of connect. -/
def Sound (s : ClosingStream ε) : ClosingAction ε → Prop
  | .close _ | .listener => s.Closable
  | .destroy => s.destroyed = false → s.Closable
  | .ended => s.autoClose = true → s.destroyed = false → s.Closable
  | .deliver event =>
    ∀ cb ∈ s.client.endsAttempt event, cb ≠ ownCallback → s.closes = 0 → .close ∈ s.ready →
      2 ≤ s.client.attempts
  | .failed threw => if threw || s.destroyed then ¬ s.Stranded else s.Closable
  | .connect _ | .disconnect _ | .resume => True

instance (s : ClosingStream ε) : Decidable s.Closable :=
  decidable_of_iff (s.closes = 0 ∧ (s.client.isConnecting = true → 1 ≤ s.client.attempts) ∧
      (0 ∈ s.client.owed ↔
        s.client.isConnected = true ∧ s.client.isConnecting = false ∧ s.client.isDisconnecting = true))
    ⟨fun ⟨first, attempt, disconnect⟩ => ⟨first, attempt, disconnect⟩,
      fun ⟨first, attempt, disconnect⟩ => ⟨first, attempt, disconnect⟩⟩

instance (s : ClosingStream ε) : Decidable s.Stranded := inferInstanceAs (Decidable (_ ∧ _ ∧ _))

instance (s : ClosingStream ε) : DecidablePred s.Sound
  | .close _ | .listener => inferInstanceAs (Decidable s.Closable)
  | .destroy => inferInstanceAs (Decidable (_ → _))
  | .ended => inferInstanceAs (Decidable (_ → _ → _))
  | .deliver event => inferInstanceAs (Decidable (∀ cb ∈ s.client.endsAttempt event, _))
  | .failed threw => inferInstanceAs (Decidable (if threw || s.destroyed then ¬ s.Stranded else s.Closable))
  | .connect _ | .disconnect _ | .resume => .isTrue trivial

/-- No worker, no timer and no immediate is pending, and no listener is running. -/
structure Quiescent (s : ClosingStream ε) : Prop where
  client : s.client.Quiescent
  running : s.running = []
  failing : s.failing = false

variable {s t : ClosingStream ε}

theorem Closable.of_same (closable : s.Closable) (client : t.client = s.client) (closes : t.closes = s.closes) :
    t.Closable := by
  obtain ⟨first, attempt, disconnect⟩ := closable
  exact ⟨closes.trans first, client ▸ attempt, client ▸ disconnect⟩

/-- A client that has as many disconnects of the stream in progress has one if
the other has one. -/
theorem mem_owed_of_count {c d : Client ε} (owed : d.owed.count 0 = c.owed.count 0) (waits : 0 ∈ c.owed) :
    0 ∈ d.owed := by
  rw [← List.count_pos_iff, owed]
  exact List.count_pos_iff.mpr waits

/-- The stream and its consumer are in the state of a stream that sees its
consumer by the flags. -/
structure Agrees (s : ClosingStream ε) (stream : KafkaConsumerStream ε) : Prop where
  isConnecting : stream.consumer.isConnecting = s.client.isConnecting
  isConnected : stream.consumer.isConnected = s.client.isConnected
  unsubscribeError : stream.consumer.unsubscribeError = none
  destroyed : stream.destroyed = s.destroyed
  closeListeners : stream.closeListeners = s.closeListeners
  closes : stream.closes = s.closes
  closeCalls : stream.closeCalls = s.called
  readyListeners : stream.readyListeners.count .close = s.ready.count .close

/-- close takes the same branch, and a disconnect leaves the flags as they are. -/
theorem Agrees.close {stream : KafkaConsumerStream ε} (agrees : s.Agrees stream) (cb : Option Nat) :
    (s.close cb).Agrees (stream.closeWith cb).1 := by
  obtain ⟨isConnecting, isConnected, unsubscribeError, destroyed, listeners, closes, calls, ready⟩ := agrees
  have flags : (s.client.disconnect ownCallback).isConnecting = s.client.isConnecting ∧
      (s.client.disconnect ownCallback).isConnected = s.client.isConnected := by
    unfold Client.disconnect
    dsimp only
    split <;> exact ⟨rfl, rfl⟩
  unfold ClosingStream.close KafkaConsumerStream.closeWith KafkaConsumerStream.close
  dsimp only
  rw [isConnecting, isConnected, unsubscribeError]
  split
  · refine ⟨isConnecting, isConnected, unsubscribeError, destroyed, rfl, ?_, ?_, ready⟩
    · simp [emitClose, KafkaConsumerStream.emitClose, closes]
    · simp [emitClose, KafkaConsumerStream.emitClose, calls, listeners]
  · have heard := congrArg (· ++ cb.toList) listeners
    split
    · refine ⟨isConnecting, isConnected, unsubscribeError, destroyed, heard, closes, calls, ?_⟩
      simp [List.count_append, ready]
    · exact ⟨isConnecting.trans flags.1.symm, isConnected.trans flags.2.symm, unsubscribeError, destroyed,
        heard, closes, calls, ready⟩

theorem Agrees.destroy {stream : KafkaConsumerStream ε} (agrees : s.Agrees stream) :
    s.destroy.Agrees stream.destroy.1 := by
  unfold ClosingStream.destroy KafkaConsumerStream.destroy
  rw [agrees.destroyed]
  split
  · exact agrees
  · obtain ⟨isConnecting, isConnected, unsubscribeError, destroyed, listeners, closes, calls, ready⟩ := agrees
    have marked : Agrees { s with destroyed := true } { stream with destroyed := true } :=
      ⟨isConnecting, isConnected, unsubscribeError, rfl, listeners, closes, calls, ready⟩
    have closed := marked.close none
    simpa [KafkaConsumerStream.closeWith] using closed

/-- What every run whose steps meet the condition keeps. 'close' is emitted
once at most, with what is owed of it; and when close has been called and
'close' was not emitted, the disconnect of the stream is in progress or a call
of close waits for a 'ready' that an attempt under way may bring. -/
structure Owes (s : ClosingStream ε) : Prop where
  idle : s.client.frame = none → s.running = []
  once : s.closes + s.client.owed.count 0 ≤ 1
  live : s.asked = true → s.closes = 0 → 0 ∈ s.client.owed ∨ .close ∈ s.running ∨
    .close ∈ s.ready ∧ (1 ≤ s.client.attempts ∨ s.failing = true)
  listening : s.closeListeners ≠ [] → s.asked = true ∧ s.closes = 0
  passed : s.called ++ s.closeListeners = s.passed

/-- A call of close that finds what it has to find settles what is owed. -/
theorem close_owes (s : ClosingStream ε) (closable : s.Closable)
    (idle : s.client.frame = none → s.running = []) (once : s.closes + s.client.owed.count 0 ≤ 1)
    (passed : s.called ++ s.closeListeners = s.passed) (cb : Option Nat) : (s.close cb).Owes := by
  obtain ⟨first, attempt, disconnect⟩ := closable
  have passed : s.called ++ (s.closeListeners ++ cb.toList) = s.passed ++ cb.toList := by
    rw [← List.append_assoc, passed]
  unfold close
  dsimp only
  split
  · rename_i offline
    have alone : s.client.owed.count 0 = 0 := by
      rw [List.count_eq_zero, disconnect]
      simp_all
    refine ⟨idle, ?_, by simp [emitClose], by simp [emitClose], ?_⟩
    · simp only [emitClose]
      omega
    · rw [← passed]
      exact List.append_nil _
  · split
    · rename_i connecting
      refine ⟨idle, once, fun _ _ => .inr (.inr ⟨?_, .inl (attempt connecting)⟩), fun _ => ⟨rfl, first⟩, passed⟩
      exact List.mem_append_right _ (List.mem_singleton_self _)
    · rename_i online settled
      have asked : 0 ∈ (s.client.disconnect ownCallback).owed ∧
          (s.client.disconnect ownCallback).owed.count 0 ≤ 1 := by
        have owed := s.client.disconnect_owed ownCallback 0
        have single : (ownCallback.toList).count 0 = 1 := rfl
        by_cases busy : s.client.isDisconnecting = true
        · rw [if_pos busy] at owed
          have waits : 0 ∈ s.client.owed := disconnect.mpr ⟨by simp_all, by simpa using settled, busy⟩
          have positive := List.count_pos_iff.mpr waits
          exact ⟨List.count_pos_iff.mp (by omega), by omega⟩
        · rw [if_neg busy, single] at owed
          have alone : s.client.owed.count 0 = 0 :=
            List.count_eq_zero.mpr fun waits => busy (disconnect.mp waits).2.2
          exact ⟨List.count_pos_iff.mp (by omega), by omega⟩
      refine ⟨?_, ?_, fun _ _ => .inl asked.1, fun _ => ⟨rfl, first⟩, passed⟩
      · exact fun returned => idle ((s.client.disconnect_frame ownCallback).1 ▸ returned)
      · change s.closes + (s.client.disconnect ownCallback).owed.count 0 ≤ 1
        rw [first, Nat.zero_add]
        exact asked.2

theorem Owes.destroy (owes : s.Owes) (closable : s.destroyed = false → s.Closable) : s.destroy.Owes := by
  unfold ClosingStream.destroy
  split
  · exact owes
  · rename_i alive
    have closable := closable (by simpa using alive)
    exact close_owes { s with destroyed := true } (closable.of_same rfl rfl) owes.idle owes.once owes.passed none

/-- Steps of the client that leave its disconnects and its frame alone and take
no attempt away. -/
theorem Owes.client {c : Client ε} (owes : s.Owes) (frame : c.frame = s.client.frame)
    (owed : c.owed.count 0 = s.client.owed.count 0) (attempts : s.client.attempts ≤ c.attempts)
    {ready : List ClosingListener} (more : .close ∈ s.ready → .close ∈ ready) :
    Owes { s with client := c, ready } := by
  refine ⟨fun returned => owes.idle (frame ▸ returned), ?_, ?_, owes.listening, owes.passed⟩
  · rw [owed]
    exact owes.once
  · intro asked first
    rcases owes.live asked first with waits | running | ⟨waits, pending⟩
    · exact .inl (mem_owed_of_count owed waits)
    · exact .inr (.inl running)
    · exact .inr (.inr ⟨more waits, pending.imp_left fun some => some.trans attempts⟩)

theorem Owes.connect (owes : s.Owes) (cb : Option Nat) : (s.connect cb).Owes := by
  refine owes.client (s.client.connect_frame cb).1 ?_ (s.client.connect_attempts cb) ?_
  · rw [(s.client.connect_apart cb).same_owed]
  · intro waits
    split
    · exact List.mem_append_left _ waits
    · exact waits

/-- The callbacks of the user are not that of the stream. -/
theorem userCallback_count (cb : Option Nat) : (userCallback cb).toList.count 0 = 0 := by
  cases cb <;> simp [userCallback]

theorem Owes.disconnect (owes : s.Owes) (cb : Option Nat) :
    Owes { s with client := s.client.disconnect (userCallback cb) } := by
  refine owes.client (s.client.disconnect_frame _).1 ?_ (s.client.disconnect_attempts _).ge id
  rw [Client.disconnect_owed, userCallback_count]
  split <;> rfl

/-- 'close' is emitted when the disconnect of the stream has ended. -/
theorem Owes.resumeDisconnected {cb : Option Nat} (owes : s.Owes)
    (returning : s.client.frame = some (.disconnected cb)) (done : s.running = []) :
    Owes (if cb = ownCallback then emitClose { s with client := s.client.resume (.disconnected cb) }
      else { s with client := s.client.resume (.disconnected cb) }) := by
  have owed := Client.resume_owed returning 0
  have once := owes.once
  split
  · rename_i own
    have single : (ClientFrame.owed (some (.disconnected cb))).count 0 = 1 := by rw [own]; rfl
    refine ⟨fun _ => done, ?_, by simp [emitClose], by simp [emitClose], ?_⟩
    · simp only [emitClose]
      omega
    · rw [← owes.passed]
      exact List.append_nil _
  · rename_i other
    have none : (ClientFrame.owed (some (.disconnected cb))).count 0 = 0 := by
      cases cb with
      | none => rfl
      | some id => exact List.count_eq_zero.mpr (by simpa [ClientFrame.owed, ownCallback, eq_comm] using other)
    rw [none, Nat.add_zero] at owed
    refine ⟨fun _ => done, ?_, ?_, owes.listening, owes.passed⟩
    · rw [← owed]
      exact once
    · intro asked first
      rw [Client.resume_attempts, ← List.count_pos_iff, ← owed, List.count_pos_iff]
      exact owes.live asked first

theorem Owes.resumeReady {joined : List (Option Nat)} {cb : Option Nat} (owes : s.Owes)
    (returning : s.client.frame = some (.ready joined cb)) {running : List ClosingListener}
    (left : .close ∈ s.running → .close ∈ running)
    (returns : (s.client.resume (.ready joined cb)).frame = none → running = []) :
    Owes { s with running, client := s.client.resume (.ready joined cb) } := by
  have owed : s.client.owed.count 0 = (s.client.resume (.ready joined cb)).owed.count 0 :=
    Client.resume_owed returning 0
  refine ⟨returns, ?_, ?_, owes.listening, owes.passed⟩
  · rw [← owed]
    exact owes.once
  · intro asked first
    rw [Client.resume_attempts, ← List.count_pos_iff, ← owed, List.count_pos_iff]
    rcases owes.live asked first with waits | running | waits
    · exact .inl waits
    · exact .inr (.inl (left running))
    · exact .inr (.inr waits)

/-- An emit of 'ready' takes the calls of close that wait for it. -/
theorem Owes.emitReady {c : Client ε} {joined : List (Option Nat)} {cb : Option Nat} {failing : Bool} (owes : s.Owes)
    (done : s.running = []) (owed : c.owed.count 0 = s.client.owed.count 0) (frame : c.frame = some (.ready joined cb)) :
    Owes { s.emit c with failing } := by
  simp only [emit, frame]
  refine ⟨by simp [frame], ?_, ?_, owes.listening, owes.passed⟩
  · rw [owed]
    exact owes.once
  · intro asked first
    rcases owes.live asked first with waits | running | ⟨waits, -⟩
    · exact .inl (mem_owed_of_count owed waits)
    · simp [done] at running
    · exact .inr (.inl waits)

/-- An event that ends an attempt of another leaves one under way where a call
of close waits for it, and what it ends of the stream goes on in its callback. -/
theorem Owes.ends {c : Client ε} {ended : Option (Option Nat)} (owes : s.Owes) (done : s.running = [])
    (quiet : s.failing = false) (owed : c.owed.count 0 = s.client.owed.count 0)
    (attempts : s.client.attempts ≤ c.attempts + ended.toList.length)
    (several : ∀ cb ∈ ended, cb ≠ ownCallback → s.closes = 0 → .close ∈ s.ready → 2 ≤ s.client.attempts) :
    Owes { s with client := c, failing := decide (ended = some ownCallback) } := by
  refine ⟨fun _ => done, ?_, ?_, owes.listening, owes.passed⟩
  · rw [owed]
    exact owes.once
  · intro asked first
    rcases owes.live asked first with waits | running | ⟨waits, pending⟩
    · exact .inl (mem_owed_of_count owed waits)
    · simp [done] at running
    · refine .inr (.inr ⟨waits, ?_⟩)
      have under : 1 ≤ s.client.attempts := pending.resolve_right (by simp [quiet])
      cases ended with
      | none => exact .inl (under.trans attempts)
      | some cb =>
        by_cases own : cb = ownCallback
        · exact .inr (by simp [own])
        · have left := (several cb rfl own first waits).trans attempts
          exact .inl (by simpa using left)

theorem Owes.deliver {event : ClientLoopEvent ε} {c : Client ε} (owes : s.Owes)
    (sound : s.Sound (.deliver event)) (idle : s.client.frame = none) (quiet : s.failing = false)
    (run : s.client.deliver event = some c) :
    Owes { s.emit c with failing := decide (s.client.endsAttempt event = some ownCallback) } := by
  have done := owes.idle idle
  have owed := Client.deliver_owed idle run 0
  by_cases ready : ∃ joined cb, c.frame = some (.ready joined cb)
  · obtain ⟨joined, cb, frame⟩ := ready
    exact owes.emitReady done owed frame
  · have same : s.emit c = { s with client := c } := by
      unfold emit
      split
      · rename_i joined cb frame
        exact absurd ⟨joined, cb, frame⟩ ready
      · rfl
    have attempts := Client.deliver_attempts run fun joined cb frame => ready ⟨joined, cb, frame⟩
    rw [same]
    exact owes.ends done quiet owed attempts sound

theorem Owes.failed (owes : s.Owes) {threw : Bool} (sound : s.Sound (.failed threw)) :
    Owes (if threw then { s with failing := false } else ClosingStream.destroy { s with failing := false }) := by
  have settled : ¬ s.Stranded → Owes { s with failing := false } := by
    intro attempted
    refine ⟨owes.idle, owes.once, fun asked first => ?_, owes.listening, owes.passed⟩
    rcases owes.live asked first with waits | running | ⟨waits, -⟩
    · exact .inl waits
    · exact .inr (.inl running)
    · refine .inr (.inr ⟨waits, .inl ?_⟩)
      by_contra none
      exact attempted ⟨first, waits, Nat.lt_one_iff.mp (Nat.not_le.mp none)⟩
  change if threw || s.destroyed then ¬ s.Stranded else s.Closable at sound
  split at sound
  · rename_i early
    rcases (Bool.or_eq_true_iff ..).mp early with threw | destroyed
    · rw [if_pos threw]
      exact settled sound
    · have kept : ClosingStream.destroy { s with failing := false } = { s with failing := false } := if_pos destroyed
      rw [kept, ite_self]
      exact settled sound
  · rename_i late
    obtain ⟨obeyed, alive⟩ := Bool.or_eq_false_iff.mp (Bool.eq_false_iff.mpr late)
    rw [if_neg (by simp [obeyed]), ClosingStream.destroy, if_neg (by simp [alive])]
    exact close_owes { s with failing := false, destroyed := true } (sound.of_same rfl rfl) owes.idle owes.once
      owes.passed none

theorem Owes.step {action : ClosingAction ε} (owes : s.Owes) (sound : s.Sound action)
    (run : s.step action = some t) : t.Owes := by
  cases action with
  | close cb =>
    cases Option.some.inj run
    exact close_owes s sound owes.idle owes.once owes.passed cb
  | destroy =>
    cases Option.some.inj run
    exact owes.destroy sound
  | ended =>
    simp only [ClosingStream.step, Option.ite_none_right_eq_some, Option.some.injEq] at run
    obtain ⟨-, rfl⟩ := run
    have heard : Owes { s with endListener := false } :=
      ⟨owes.idle, owes.once, owes.live, owes.listening, owes.passed⟩
    split
    · rename_i autoClose
      exact heard.destroy fun alive => (sound autoClose alive).of_same rfl rfl
    · exact heard
  | connect cb =>
    cases Option.some.inj run
    exact owes.connect _
  | disconnect cb =>
    cases Option.some.inj run
    exact owes.disconnect cb
  | listener =>
    simp only [ClosingStream.step] at run
    split at run
    · rename_i running next
      cases Option.some.inj run
      refine close_owes { s with running } (Closable.of_same sound rfl rfl) ?_ owes.once owes.passed none
      intro returned
      simp [owes.idle returned] at next
    · cases run
  | resume =>
    simp only [ClosingStream.step] at run
    split at run
    · rename_i running cb joined first next emitting
      cases Option.some.inj run
      refine owes.resumeReady emitting ?_ (by simp [Client.resume, Client.next])
      rw [next]
      simp
    · rename_i cb next emitting
      cases Option.some.inj run
      exact owes.resumeDisconnected emitting next
    · rename_i joined cb next emitting
      cases Option.some.inj run
      have resumed := owes.resumeReady emitting id fun _ => next
      exact resumed
    · cases run
  | deliver event =>
    simp only [ClosingStream.step, Option.ite_none_left_eq_some, Bool.or_eq_true, not_or] at run
    obtain ⟨⟨idle, quiet⟩, run⟩ := run
    obtain ⟨c, delivered, rfl⟩ := Option.map_eq_some_iff.mp run
    exact owes.deliver sound (by simpa using idle) (by simpa using quiet) delivered
  | failed threw =>
    simp only [ClosingStream.step, Option.ite_none_right_eq_some, Option.some.injEq] at run
    obtain ⟨-, rfl⟩ := run
    exact owes.failed sound

theorem create_owes {client : Client ε} {autoClose : Bool} (free : 0 ∉ client.owed)
    (created : create client autoClose = some s) : s.Owes := by
  have alone := List.count_eq_zero.mpr free
  have fresh : (attach client autoClose).Owes := by
    refine ⟨fun returned => ?_, ?_, by simp [attach], by simp [attach], rfl⟩
    · simp only [attach] at returned ⊢
      rw [returned]
    · change 0 + client.owed.count 0 ≤ 1
      rw [alone]
      exact Nat.zero_le 1
  unfold create at created
  split at created
  · cases Option.some.inj created
    exact fresh
  · split at created
    · cases created
    · cases Option.some.inj created
      exact fresh.connect _

/-- When nothing is pending, nothing is owed any more. -/
theorem Quiescent.owed (quiescent : s.Quiescent) : s.client.owed = [] ∧ s.client.attempts = 0 := by
  obtain ⟨connecting, fetching, disconnecting, immediates, frame, failed⟩ := quiescent.client
  refine ⟨Client.NoWorker.owed ⟨disconnecting, by simp [frame]⟩, ?_⟩
  simp only [Client.attempts, connecting, fetching, List.length_nil, Nat.zero_add]
  rw [List.countP_eq_zero]
  intro attempt member
  simp [failed attempt member]

end ClosingStream

/-- In every run whose steps meet the condition 'close' is emitted at most
once, and in every state where nothing is pending after close was called it has
been emitted and has called each callback passed to close. -/
theorem stream_closes {ε : Type} {client : Client ε} {autoClose : Bool} {start s : ClosingStream ε}
    {trace : List (ClosingAction ε)} (free : 0 ∉ client.owed)
    (created : ClosingStream.create client autoClose = some start)
    (reach : ReachWhile ClosingStream.Sound ClosingStream.step start trace s) :
    s.closes ≤ 1 ∧ (s.asked = true → s.Quiescent → s.closes = 1 ∧ s.called = s.passed) := by
  have owes := reach.invariant ClosingStream.Owes (ClosingStream.create_owes free created)
    fun sound owes run => owes.step sound run
  have once := owes.once
  refine ⟨by omega, fun asked quiescent => ?_⟩
  obtain ⟨owed, attempts⟩ := quiescent.owed
  have closed : s.closes ≠ 0 := by
    intro first
    rcases owes.live asked first with waits | running | ⟨-, pending | failing⟩
    · simp [owed] at waits
    · simp [quiescent.running] at running
    · omega
    · simp [quiescent.failing] at failing
  have heard : s.closeListeners = [] := by
    by_contra waits
    exact closed (owes.listening waits).2
  have passed := owes.passed
  rw [heard, List.append_nil] at passed
  exact ⟨by omega, passed⟩

/-- The run of a stream on a new consumer up to the end of its connect. -/
def streamConnects : List (ClosingAction String) :=
  [.deliver (.connected 0 none), .deliver (.metadata 0 none), .resume]

/-- Two calls of close while the consumer is connected. -/
theorem stream_closes_twice_asked :
    ∃ start s, 0 ∉ sampleClient.owed ∧ ClosingStream.create sampleClient true = some start ∧
      ReachWhile ClosingStream.Sound ClosingStream.step start
        (streamConnects ++ [.close (some 7), .close (some 8), .deliver (.disconnected 0), .resume]) s ∧
      s.asked = true ∧ s.Quiescent ∧ s.closes = 1 ∧ s.called = s.passed := by
  obtain ⟨start, s, created, run, asked, quiescent⟩ : ∃ start s,
      ClosingStream.create sampleClient true = some start ∧
      replayWhile ClosingStream.Sound ClosingStream.step start
        (streamConnects ++ [.close (some 7), .close (some 8), .deliver (.disconnected 0), .resume]) = some s ∧
      s.asked = true ∧ s.Quiescent :=
    ⟨_, _, rfl, rfl, rfl, ⟨rfl, rfl, rfl, rfl, rfl, by decide⟩, rfl, rfl⟩
  have free : 0 ∉ sampleClient.owed := by decide
  have reach := ReachWhile.of_replayWhile run
  have closed := (stream_closes free created reach).2 asked quiescent
  exact ⟨start, s, free, created, reach, asked, quiescent, closed⟩

/-- An 'end' that comes after 'close' has been emitted closes again, and a
close during a disconnect of the user is forgotten. -/
theorem stream_closes_again :
    ∃ start, ClosingStream.create sampleClient true = some start ∧
      (∃ s, Reach ClosingStream.step start
          (streamConnects ++ [.close (some 7), .deliver (.disconnected 0), .resume, .ended]) s ∧ s.closes = 2) ∧
      ∃ s, Reach ClosingStream.step start
          (streamConnects ++ [.disconnect none, .close (some 7), .deliver (.disconnected 0), .resume]) s ∧
        s.asked = true ∧ s.Quiescent ∧ s.closes = 0 ∧ s.passed = [7] ∧ s.called = [] :=
  ⟨_, rfl, ⟨_, reach_iff_replay.mpr rfl, rfl⟩, _, reach_iff_replay.mpr rfl, rfl,
    ⟨⟨rfl, rfl, rfl, rfl, rfl, by decide⟩, rfl, rfl⟩, rfl, rfl, rfl⟩

end NodeRdkafka

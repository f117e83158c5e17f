import NodeRdkafka.Connection
import NodeRdkafka.Lib.Reach

namespace NodeRdkafka

/-- What a client does that others can see, in the order in which it happens:
the calls it takes, the attempts it starts, the events it emits and the
callbacks it calls. -/
inductive ClientEvent (ε : Type)
  | connectCall (cb : Option Nat)
  | attempt
  | connectCallback (cb : Nat) (err : Option ε)
  | connectionFailure (err : ε)
  | ready
  | disconnectCall (cb : Option Nat)
  | disconnected
  | disconnectCallback (cb : Nat)

/-- The closure of fail once it has asked for a native disconnect. -/
structure FailedAttempt (ε : Type) where
  cb : Option Nat
  err : ε
  callbackCalled : Bool := false
  workerPending : Bool := true
  timerPending : Bool := true

/-- What is left to do of an emit when its listeners run: to call the
once('ready') listeners of joined calls and then next, or to call the callback
of disconnect. -/
inductive ClientFrame
  | ready (joined : List (Option Nat)) (cb : Option Nat)
  | disconnected (cb : Option Nat)
  deriving DecidableEq

/-- A Client, with the callbacks of connect and disconnect by identity. The
lists hold the closures that native workers and immediates will call. -/
structure Client (ε : Type) where
  configs : CbConfigs
  connection : Connection
  isConnected : Bool := false
  isConnecting : Bool := false
  isDisconnecting : Bool := false
  connecting : List (Option Nat) := []
  fetching : List (Option Nat) := []
  failed : List (FailedAttempt ε) := []
  immediates : List (Option Nat) := []
  joined : List (Option Nat) := []
  disconnecting : List (Option Nat) := []
  frame : Option ClientFrame := none
  log : List (ClientEvent ε) := []

/-- The events that the event loop delivers, each to the closure at an index. -/
inductive ClientLoopEvent (ε : Type)
  | connected (index : Nat) (err : Option ε)
  | metadata (index : Nat) (err : Option ε)
  | failureDisconnected (index : Nat)
  | failureTimeout (index : Nat)
  | immediate (index : Nat)
  | disconnected (index : Nat)

inductive ClientAction (ε : Type)
  | connect (cb : Option Nat)
  | disconnect (cb : Option Nat)
  | resume
  | deliver (event : ClientLoopEvent ε)

namespace Client
variable {ε : Type}

/-- The constructor, which configures the functions of both configurations once. -/
def create (configs : CbConfigs) (globalError topicError : String → Option String)
    (producer : Bool) : Except String (Client ε) :=
  match Conf.create globalError configs.global, Conf.create topicError configs.topic with
  | .ok gconfig, .ok tconfig =>
    .ok { configs, connection := { gconfig, tconfig, drCb := if producer then some {} else none } }
  | .error errstr, _ | _, .error errstr => .error errstr

def record (s : Client ε) (event : ClientEvent ε) : Client ε := { s with log := s.log ++ [event] }

/-- The closure next of connect. -/
def next (s : Client ε) (cb : Option Nat) (err : Option ε) : Client ε :=
  { s with isConnecting := false, log := s.log ++ cb.toList.map (.connectCallback · err) }

/-- The rest of connect, for a client neither connected nor connecting. An
exception of configureCallbacks ends it. -/
def startAttempt (s : Client ε) (cb : Option Nat) : Client ε :=
  let s := { s.record .attempt with isConnecting := true }
  match s.connection.configureCallbacks true s.configs with
  | (connection, some _) => { s with connection }
  | (connection, none) => { s with connection, connecting := s.connecting ++ [cb] }

def connect (s : Client ε) (cb : Option Nat) : Client ε :=
  let s := s.record (.connectCall cb)
  if s.isConnected then { s with immediates := s.immediates ++ [cb] }
  else if s.isConnecting then { s with joined := s.joined ++ [cb] }
  else s.startAttempt cb

/-- The closure fail of connect. -/
def fail (s : Client ε) (cb : Option Nat) (err : ε) : Client ε :=
  if s.isConnected then
    { s.record (.connectionFailure err) with
      isConnected := false, failed := s.failed ++ [{ cb, err }] }
  else s.next cb (some err)

/-- The callback of the native connect. -/
def connected (s : Client ε) (cb : Option Nat) : Option ε → Client ε
  | some err => s.fail cb err
  | none => { s with isConnected := true, fetching := s.fetching ++ [cb] }

/-- The callback of getMetadata, up to its emit of 'ready'. -/
def metadata (s : Client ε) (cb : Option Nat) : Option ε → Client ε
  | some err => s.fail cb err
  | none =>
    { s.record .ready with
      isConnecting := false, isConnected := true, joined := [], frame := some (.ready s.joined cb) }

/-- What the callback of the native disconnect in fail and its timer both do. -/
def settle (s : Client ε) (index : Nat) (attempt : FailedAttempt ε) : Client ε :=
  if attempt.callbackCalled then { s with failed := s.failed.set index attempt }
  else
    next { s with failed := s.failed.set index { attempt with callbackCalled := true } }
      attempt.cb (some attempt.err)

def disconnect (s : Client ε) (cb : Option Nat) : Client ε :=
  let s := s.record (.disconnectCall cb)
  if s.isDisconnecting then s
  else { s with isDisconnecting := true, disconnecting := s.disconnecting ++ [cb] }

/-- The callback of the native disconnect, up to its emit of 'disconnected',
whose first listener is the one of the constructor. -/
def disconnected (s : Client ε) (cb : Option Nat) : Client ε :=
  { s.record .disconnected with
    connection := (s.connection.configureCallbacks false s.configs).1, isDisconnecting := false,
    isConnected := false, frame := some (.disconnected cb) }

/-- The listeners have returned, or one of the joined calls is next. -/
def resume (s : Client ε) : ClientFrame → Client ε
  | .ready (joined :: rest) cb => next { s with frame := some (.ready rest cb) } joined none
  | .ready [] cb => next { s with frame := none } cb none
  | .disconnected cb =>
    { s with frame := none, log := s.log ++ cb.toList.map (.disconnectCallback ·) }

/-- One event of the event loop. A worker or a timer is delivered once, and
the timer is cleared when the worker comes first. -/
def deliver (s : Client ε) : ClientLoopEvent ε → Option (Client ε)
  | .connected index err =>
    s.connecting[index]?.map fun cb =>
      connected { s with connecting := s.connecting.eraseIdx index } cb err
  | .metadata index err =>
    s.fetching[index]?.map fun cb => metadata { s with fetching := s.fetching.eraseIdx index } cb err
  | .failureDisconnected index =>
    (s.failed[index]?.filter (·.workerPending)).map fun attempt =>
      s.settle index
        { attempt with workerPending := false,
                       timerPending := attempt.timerPending && attempt.callbackCalled }
  | .failureTimeout index =>
    (s.failed[index]?.filter (·.timerPending)).map fun attempt =>
      s.settle index { attempt with timerPending := false }
  | .immediate index =>
    s.immediates[index]?.map fun cb =>
      next { s with immediates := s.immediates.eraseIdx index } cb none
  | .disconnected index =>
    s.disconnecting[index]?.map fun cb =>
      disconnected { s with disconnecting := s.disconnecting.eraseIdx index } cb

/-- The user may call connect and disconnect at any time, listeners and
callbacks included. The event loop goes on only when nothing is left to resume. -/
def step (s : Client ε) : ClientAction ε → Option (Client ε)
  | .connect cb => some (s.connect cb)
  | .disconnect cb => some (s.disconnect cb)
  | .resume => s.frame.map s.resume
  | .deliver event => if s.frame.isSome then none else s.deliver event

theorem startAttempt_frame (c : Client ε) (cb : Option Nat) :
    (c.startAttempt cb).frame = c.frame ∧ (c.startAttempt cb).isConnected = c.isConnected := by
  unfold startAttempt
  dsimp only
  split <;> exact ⟨rfl, rfl⟩

theorem connect_frame (c : Client ε) (cb : Option Nat) :
    (c.connect cb).frame = c.frame ∧ (c.connect cb).isConnected = c.isConnected := by
  unfold connect
  dsimp only
  split
  · exact ⟨rfl, rfl⟩
  · split
    · exact ⟨rfl, rfl⟩
    · exact startAttempt_frame (c.record (.connectCall cb)) cb

theorem disconnect_frame (c : Client ε) (cb : Option Nat) :
    (c.disconnect cb).frame = c.frame ∧ (c.disconnect cb).isConnected = c.isConnected := by
  unfold disconnect
  dsimp only
  split <;> exact ⟨rfl, rfl⟩

theorem fail_frame (c : Client ε) (cb : Option Nat) (err : ε) : (c.fail cb err).frame = c.frame := by
  unfold fail
  split <;> rfl

theorem settle_frame (c : Client ε) (index : Nat) (attempt : FailedAttempt ε) :
    (c.settle index attempt).frame = c.frame := by
  unfold settle
  split <;> rfl

/-- An event of the event loop ends in the emit of 'ready', in that of
'disconnected' or in none. -/
theorem deliver_frame {c d : Client ε} {event : ClientLoopEvent ε} (idle : c.frame = none)
    (run : c.deliver event = some d) :
    d.frame = none ∨
      (∃ index joined cb, event = .metadata index none ∧ d.frame = some (.ready joined cb) ∧
        d.isConnected = true) ∨
      ∃ cb, d.frame = some (.disconnected cb) ∧ d.isConnected = false := by
  cases event with
  | connected index err =>
    obtain ⟨cb, _, rfl⟩ := Option.map_eq_some_iff.mp run
    cases err with
    | some err => exact Or.inl ((fail_frame _ cb err).trans idle)
    | none => exact Or.inl idle
  | metadata index err =>
    obtain ⟨cb, _, rfl⟩ := Option.map_eq_some_iff.mp run
    cases err with
    | some err => exact Or.inl ((fail_frame _ cb err).trans idle)
    | none => exact Or.inr (Or.inl ⟨index, c.joined, cb, rfl, rfl, rfl⟩)
  | failureDisconnected index | failureTimeout index =>
    obtain ⟨attempt, _, rfl⟩ := Option.map_eq_some_iff.mp run
    exact Or.inl ((settle_frame c index _).trans idle)
  | immediate index =>
    obtain ⟨cb, _, rfl⟩ := Option.map_eq_some_iff.mp run
    exact Or.inl idle
  | disconnected index =>
    obtain ⟨cb, _, rfl⟩ := Option.map_eq_some_iff.mp run
    exact Or.inr (Or.inr ⟨cb, rfl, rfl⟩)

end Client
end NodeRdkafka

import NodeRdkafka.Client
import NodeRdkafka.KafkaConsumer

namespace NodeRdkafka

/-- A worker of a connection attempt: a native connect, or a metadata request,
which is never `creating`. -/
inductive AttemptWorker (ε : Type)
  | queued
  | creating
  | finished (err : Option ε)
  deriving DecidableEq

def AttemptWorker.failed {ε : Type} : AttemptWorker ε → Bool
  | finished (some _) => true
  | _ => false

def AttemptWorker.succeeded {ε : Type} : AttemptWorker ε → Bool
  | finished none => true
  | _ => false

/-- How far a native Disconnect has come: `checked` has found the consumer
connected, and `ending` has only m_is_closing left to reset. -/
inductive DisconnectWorker
  | queued
  | checked
  | closing
  | ending
  | finished
  deriving DecidableEq

def DisconnectWorker.pastClose : DisconnectWorker → Bool
  | ending | finished => true
  | queued | checked | closing => false

/-- The next step of a Disconnect. A handle that is gone cannot be closed. -/
def DisconnectWorker.advance {σ : Type} (c : KafkaConsumer σ) :
    DisconnectWorker → Option (KafkaConsumer σ × DisconnectWorker)
  | queued => some (c, if c.isConnected then checked else ending)
  | checked => some (c.startClosing, closing)
  | closing => if c.mClient.isSome then some (c.closeClient, ending) else none
  | ending => some (c.endDisconnect, finished)
  | finished => none

/-- A consumer as JavaScript sees it, with its native side. The workers of a
list stand in the order of the closures that wait for them: `connects` for
connecting, `fetches` for fetching, `disconnects` for disconnecting and
`teardowns` for failed. The last three fields are about disconnect calls with
no connect call after them, each with whether it found the consumer settled:
the one under way, the one whose callback is next, and those whose callbacks
have been called, with the length of the log then. -/
structure ConsumerClient (ε σ : Type) where
  client : Client ε
  consumer : KafkaConsumer σ := {}
  creates : Nat := 0
  connects : List (AttemptWorker ε) := []
  fetches : List (AttemptWorker ε) := []
  disconnects : List DisconnectWorker := []
  teardowns : List DisconnectWorker := []
  calling : Option Bool := none
  returning : Option Bool := none
  closed : List (Nat × Bool) := []

/-- What happens on the thread of JavaScript, and the steps of the workers, each
at an index. A metadata request is given its answer. -/
inductive ConsumerClientAction (ε : Type)
  | js (action : ClientAction ε)
  | connectWorker (index : Nat)
  | metadataWorker (index : Nat) (answer : Option ε)
  | disconnectWorker (index : Nat)
  | teardownWorker (index : Nat)

namespace ConsumerClient
variable {ε σ : Type}

/-- There is no handle, and nothing outstanding can make one or report one. -/
def Gone (s : ConsumerClient ε σ) : Prop :=
  s.consumer.mClient.isSome = false ∧ (∀ worker ∈ s.connects, worker.failed = true) ∧
    ∀ worker ∈ s.fetches, worker.succeeded = false

/-- Nothing is outstanding of an attempt but failures that a client which is
not connected ignores, and the teardowns have nothing left to close. -/
def Idle (s : ConsumerClient ε σ) : Prop :=
  (∀ worker ∈ s.connects ++ s.fetches, worker.failed = true) ∧
    (s.client.isConnected = true → s.connects ++ s.fetches = []) ∧
    ∀ worker ∈ s.teardowns, worker.pastClose = true

/-- The condition on a disconnect call. -/
def Settled (s : ConsumerClient ε σ) : Prop := s.Gone ∨ s.Idle ∧ s.consumer.mIsClosing = false

instance (s : ConsumerClient ε σ) : Decidable s.Settled :=
  inferInstanceAs (Decidable ((_ ∧ (∀ _ ∈ _, _) ∧ ∀ _ ∈ _, _) ∨
    ((∀ _ ∈ _, _) ∧ (_ → s.connects ++ s.fetches = []) ∧ ∀ _ ∈ _, _) ∧ _))

/-- The workers for the closures that a step added. -/
def spawn {ω : Type} (queued : ω) (closures : Nat) (workers : List ω) : List ω :=
  workers ++ List.replicate (closures - workers.length) queued

def follow (s : ConsumerClient ε σ) (client : Client ε) : ConsumerClient ε σ :=
  { s with
    client
    connects := spawn .queued client.connecting.length s.connects
    fetches := spawn .queued client.fetching.length s.fetches
    disconnects := spawn .queued client.disconnecting.length s.disconnects
    teardowns := spawn .queued client.failed.length s.teardowns }

/-- Whether the native worker of an event, if it has one, has finished so. -/
def Finished (s : ConsumerClient ε σ) : ClientLoopEvent ε → Prop
  | .connected index err => s.connects[index]? = some (.finished err)
  | .metadata index err => s.fetches[index]? = some (.finished err)
  | .failureDisconnected index => s.teardowns[index]? = some .finished
  | .disconnected index => s.disconnects[index]? = some .finished
  | .failureTimeout _ | .immediate _ => True

instance [DecidableEq ε] (s : ConsumerClient ε σ) :
    (event : ClientLoopEvent ε) → Decidable (s.Finished event)
  | .connected _ _ | .metadata _ _ | .failureDisconnected _ | .disconnected _ =>
    inferInstanceAs (Decidable (_ = _))
  | .failureTimeout _ | .immediate _ => inferInstanceAs (Decidable True)

/-- A worker goes when its event has been delivered. -/
def deliver (s : ConsumerClient ε σ) : ClientLoopEvent ε → ConsumerClient ε σ
  | .connected index _ => { s with connects := s.connects.eraseIdx index }
  | .metadata index _ => { s with fetches := s.fetches.eraseIdx index }
  | .disconnected index =>
    { s with disconnects := s.disconnects.eraseIdx index, calling := none, returning := s.calling }
  | .failureDisconnected _ | .failureTimeout _ | .immediate _ => s

/-- A callback of disconnect that is called now is the last event of the log. -/
def returned (s : ConsumerClient ε σ) (logged : Nat) : ConsumerClient ε σ :=
  match s.client.frame with
  | some (.disconnected _) =>
    { s with returning := none, closed := s.closed ++ s.returning.toList.map (logged, ·) }
  | _ => s

def track (s : ConsumerClient ε σ) (client : Client ε) : ClientAction ε → ConsumerClient ε σ
  | .connect _ => { s.follow client with calling := none, returning := none, closed := [] }
  | .disconnect _ =>
    if s.client.isDisconnecting then s.follow client
    else { s.follow client with calling := some (decide s.Settled) }
  | .resume => (s.returned client.log.length).follow client
  | .deliver event => (s.deliver event).follow client

def js [DecidableEq ε] (s : ConsumerClient ε σ) (action : ClientAction ε) : Option (ConsumerClient ε σ) :=
  match action with
  | .deliver event =>
    if s.Finished event then (s.client.step action).map fun client => s.track client action else none
  | .connect _ | .disconnect _ | .resume =>
    (s.client.step action).map fun client => s.track client action

section
variable (lib : Librdkafka σ) (wrap : Baton Unit → ε)

def reported (baton : Baton Unit) : Option ε :=
  if baton.err = ErrorCode.errNoError then none else some (wrap baton)

/-- Connect checks whether the consumer is connected before it takes the lock. -/
def connectWorker (s : ConsumerClient ε σ) (index : Nat) : Option (ConsumerClient ε σ) :=
  match s.connects[index]? with
  | some .queued =>
    let worker := if s.consumer.isConnected then .finished none else .creating
    some { s with connects := s.connects.set index worker }
  | some .creating =>
    let (consumer, baton) := s.consumer.connectClient lib (lib.create s.creates)
    some { s with
      consumer
      creates := s.creates + 1
      connects := s.connects.set index (.finished (reported wrap baton)) }
  | _ => none

/-- GetMetadata asks a connected consumer only. -/
def metadataWorker (s : ConsumerClient ε σ) (index : Nat) (answer : Option ε) :
    Option (ConsumerClient ε σ) :=
  match s.fetches[index]? with
  | some .queued =>
    let err := if s.consumer.isConnected then answer else some (wrap (.ofCode ErrorCode.errState))
    some { s with fetches := s.fetches.set index (.finished err) }
  | _ => none

def disconnectWorker (s : ConsumerClient ε σ) (index : Nat) : Option (ConsumerClient ε σ) :=
  (s.disconnects[index]?.bind (·.advance s.consumer)).map fun (consumer, worker) =>
    { s with consumer, disconnects := s.disconnects.set index worker }

def teardownWorker (s : ConsumerClient ε σ) (index : Nat) : Option (ConsumerClient ε σ) :=
  (s.teardowns[index]?.bind (·.advance s.consumer)).map fun (consumer, worker) =>
    { s with consumer, teardowns := s.teardowns.set index worker }

def step [DecidableEq ε] (s : ConsumerClient ε σ) :
    ConsumerClientAction ε → Option (ConsumerClient ε σ)
  | .js action => s.js action
  | .connectWorker index => s.connectWorker lib wrap index
  | .metadataWorker index answer => s.metadataWorker wrap index answer
  | .disconnectWorker index => s.disconnectWorker index
  | .teardownWorker index => s.teardownWorker index

end

/-- What a disconnect leaves: the client is not connected, there is no handle,
and 'ready' has not been emitted since. -/
structure Closed (s : ConsumerClient ε σ) (logged : Nat) : Prop where
  isConnected : s.client.isConnected = false
  handle : s.consumer.mClient = none
  ready : ClientEvent.ready ∉ s.client.log.drop logged

end ConsumerClient
end NodeRdkafka

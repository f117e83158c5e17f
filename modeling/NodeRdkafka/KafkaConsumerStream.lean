import NodeRdkafka.JsValue
import NodeRdkafka.Lib.Reach

namespace NodeRdkafka

/-- The options as they are given, none where one is absent. -/
structure GivenStreamOptions where
  objectMode : Option Bool := none
  streamAsBatch : Option Bool := none
  fetchSize : Option Nat := none
  waitInterval : Option Nat := none
  autoClose : Option Bool := none

/-- The options as the constructor keeps them. -/
structure StreamOptions where
  objectMode : Bool
  streamAsBatch : Bool
  fetchSize : Nat
  waitInterval : Nat
  autoClose : Bool

def StreamOptions.ofGiven (given : GivenStreamOptions) : StreamOptions where
  objectMode := given.objectMode.getD true
  streamAsBatch := given.streamAsBatch.getD false
  fetchSize := if given.fetchSize.getD 0 = 0 then 1 else given.fetchSize.getD 0
  waitInterval := given.waitInterval.getD 1000
  autoClose := given.autoClose.getD true

/-- What the stream meets when it turns to its consumer: the two flags, and
the error that unsubscribe would throw. -/
structure StreamConsumer (ε : Type) where
  isConnecting : Bool := false
  isConnected : Bool := false
  unsubscribeError : Option ε := none

/-- The listeners that the stream registers with once('ready'). -/
inductive StreamListener
  | read (size : Nat)
  | close
  deriving DecidableEq

/-- A call of consume: the size asked for, and what the stream held and had
under way at that moment. -/
structure Fetch where
  fetchSize : Nat
  held : Nat
  inFlight : Nat
  deriving DecidableEq

/-- What the callback of consumer.connect comes to. -/
inductive StreamConnect (ε : Type)
  | failed (err : ε)
  | subscribeThrew (err : ε)
  | subscribed

/-- A KafkaConsumerStream with the part of Readable that it relies on. The
lists of sizes are the closures that will call onread or _read again; `pushed`,
`results` and `fetches` record the calls of push, onread and consume. -/
structure KafkaConsumerStream (ε : Type) where
  options : StreamOptions
  consumer : StreamConsumer ε
  messages : List JsValue := []
  destroyed : Bool := false
  reading : Bool := false
  ended : Bool := false
  unsubscribed : Bool := false
  errorListener : Bool := false
  endListener : Bool := true
  closeListeners : List Nat := []
  readyListeners : List StreamListener := []
  consuming : List Nat := []
  timers : List Nat := []
  immediates : List Nat := []
  connects : Nat := 0
  disconnects : Nat := 0
  pushed : List JsValue := []
  results : List (Except ε (List JsValue)) := []
  fetches : List Fetch := []
  errors : List ε := []
  closes : Nat := 0
  closeCalls : List Nat := []

namespace KafkaConsumerStream
variable {ε : Type}

/-- Readable.prototype.push: null ends the stream. -/
def push (s : KafkaConsumerStream ε) (item : JsValue) : KafkaConsumerStream ε :=
  { s with pushed := s.pushed ++ [item], reading := false, ended := s.ended || item.isNull }

/-- this.push(this.messages.shift()) -/
def pushShift (s : KafkaConsumerStream ε) : KafkaConsumerStream ε :=
  match s.messages with
  | [] => s.push .undefined
  | message :: rest => { s with messages := rest }.push message

/-- emit('error'), with what follows it. Without a listener it throws. -/
def emitError (s : KafkaConsumerStream ε) (err : ε)
    (next : KafkaConsumerStream ε → KafkaConsumerStream ε) : KafkaConsumerStream ε :=
  let emitted := { s with errors := s.errors ++ [err] }
  if s.errorListener then next emitted else emitted

def retry (s : KafkaConsumerStream ε) (size : Nat) : KafkaConsumerStream ε :=
  if s.options.waitInterval = 0 then { s with immediates := s.immediates ++ [size] }
  else { s with timers := s.timers ++ [size] }

def record (s : KafkaConsumerStream ε) (result : Except ε (List JsValue)) : KafkaConsumerStream ε :=
  { s with results := s.results ++ [result] }

/-- onread of both readers, which buffer a batch item by item. -/
def onread (item : JsValue → JsValue) (s : KafkaConsumerStream ε) (size : Nat)
    (result : Except ε (List JsValue)) : KafkaConsumerStream ε :=
  let s := s.record result
  match result with
  | .error err => s.emitError err (·.retry size)
  | .ok messages =>
    if messages.length < 1 then s.retry size
    else if s.options.streamAsBatch then s.push (.array messages)
    else { s with messages := s.messages ++ messages.map item }.pushShift

def onreadMessage (s : KafkaConsumerStream ε) (size : Nat)
    (result : Except ε (List JsValue)) : KafkaConsumerStream ε := s.onread id size result

def onreadBuffer (s : KafkaConsumerStream ε) (size : Nat)
    (result : Except ε (List JsValue)) : KafkaConsumerStream ε := s.onread (·.get "value") size result

/-- The call of consume, whose callback comes later with a batch, an empty
batch or an error. With a size of 0, which _read is given only by a stream
whose highWaterMark is 0, the library starts the consume loop instead; what
that one delivers is no answer here. -/
def consume (s : KafkaConsumerStream ε) (fetchSize size : Nat) : KafkaConsumerStream ε :=
  { s with consuming := s.consuming ++ [size],
           fetches := s.fetches ++ [⟨fetchSize, s.messages.length, s.consuming.length⟩] }

/-- _read_message and _read_buffer up to onread, where alone they differ. A
push is their last step, so that a call of _read from within it is the next
step of the run. -/
def read (s : KafkaConsumerStream ε) (size : Nat) : KafkaConsumerStream ε :=
  if s.messages.length > 0 then s.pushShift
  -- the test for a stream without a consumer is left out: nothing clears it
  else if !s.consumer.isConnected then { s with readyListeners := s.readyListeners ++ [.read size] }
  else if s.destroyed then s
  else s.consume (if size ≥ s.options.fetchSize then s.options.fetchSize else size) size

/-- The 'unsubscribed' listener of the constructor. -/
def onUnsubscribed (s : KafkaConsumerStream ε) : KafkaConsumerStream ε :=
  { s.push .null with unsubscribed := true }

def emitClose (s : KafkaConsumerStream ε) : KafkaConsumerStream ε :=
  { s with closes := s.closes + 1, closeListeners := [],
           closeCalls := s.closeCalls ++ s.closeListeners }

/-- close without a callback, and the exception it ends with. -/
def close (s : KafkaConsumerStream ε) : KafkaConsumerStream ε × Option ε :=
  if !s.consumer.isConnecting && !s.consumer.isConnected then (s.emitClose, none)
  else if s.consumer.isConnecting then
    ({ s with readyListeners := s.readyListeners ++ [.close] }, none)
  else match s.consumer.unsubscribeError with
    | some err => (s, some err)
    | none => ({ s.onUnsubscribed with disconnects := s.disconnects + 1 }, none)

def closeWith (s : KafkaConsumerStream ε) (cb : Option Nat) : KafkaConsumerStream ε × Option ε :=
  close { s with closeListeners := s.closeListeners ++ cb.toList }

def destroy (s : KafkaConsumerStream ε) : KafkaConsumerStream ε × Option ε :=
  if s.destroyed then (s, none) else close { s with destroyed := true }

/-- connect: the callback comes later, also when the consumer is connected. -/
def connect (s : KafkaConsumerStream ε) : KafkaConsumerStream ε :=
  { s with connects := s.connects + 1 }

/-- The callback of connect. The read() that it ends with on success calls
_read, if at all, as Node always does. -/
def connectCallback (s : KafkaConsumerStream ε) : StreamConnect ε → KafkaConsumerStream ε
  | .failed err => s.emitError err (·.destroy.1)
  | .subscribeThrew err => s.emitError err (·.destroy.1)
  | .subscribed => s

/-- emit('ready') over the listeners it found. Each is removed as it is
called, so an exception leaves the later ones registered. -/
def emitReady (s : KafkaConsumerStream ε) : List StreamListener → KafkaConsumerStream ε
  | [] => s
  | .read size :: later => (s.read size).emitReady later
  | .close :: later =>
    match s.close with
    | (t, none) => t.emitReady later
    | (t, some _) => { t with readyListeners := later ++ t.readyListeners }

def create (given : GivenStreamOptions) (consumer : StreamConsumer ε) : KafkaConsumerStream ε :=
  connect { options := .ofGiven given, consumer }

end KafkaConsumerStream

/-- What happens to a stream: Node asks for data, one of its own callbacks
comes, the consumer changes or the user turns to the stream. -/
inductive StreamAction (ε : Type)
  | read (size : Nat)
  | consumed (index : Nat) (result : Except ε (List JsValue))
  | timeout (index : Nat)
  | immediate (index : Nat)
  | consumer (consumer : StreamConsumer ε)
  | ready
  | connect
  | connectCallback (outcome : StreamConnect ε)
  | onError (listens : Bool)
  | unsubscribed
  | ended
  | destroy
  | close (cb : Option Nat)
  | disconnected

namespace KafkaConsumerStream
variable {ε : Type}

/-- Node calls _read only when the last _read has pushed and null has not
been pushed. -/
def step (s : KafkaConsumerStream ε) : StreamAction ε → Option (KafkaConsumerStream ε)
  | .read size => if s.reading || s.ended then none else some ({ s with reading := true }.read size)
  | .consumed index result =>
    s.consuming[index]?.map fun size =>
      let t := { s with consuming := s.consuming.eraseIdx index }
      if s.options.objectMode then t.onreadMessage size result else t.onreadBuffer size result
  | .timeout index =>
    s.timers[index]?.map fun size => { s with timers := s.timers.eraseIdx index }.read size
  | .immediate index =>
    s.immediates[index]?.map fun size =>
      { s with immediates := s.immediates.eraseIdx index }.read size
  | .consumer consumer => some { s with consumer }
  | .ready => some ({ s with readyListeners := [] }.emitReady s.readyListeners)
  | .connect => some s.connect
  | .connectCallback outcome =>
    if s.connects = 0 then none
    else some ({ s with connects := s.connects - 1 }.connectCallback outcome)
  | .onError listens => some { s with errorListener := listens }
  | .unsubscribed => some s.onUnsubscribed
  | .ended =>
    if s.ended && s.endListener then
      let t := { s with endListener := false }
      some (if s.options.autoClose then t.destroy.1 else t)
    else none
  | .destroy => some s.destroy.1
  | .close cb => some (s.closeWith cb).1
  | .disconnected =>
    if s.disconnects = 0 then none else some { s with disconnects := s.disconnects - 1 }.emitClose

end KafkaConsumerStream
end NodeRdkafka

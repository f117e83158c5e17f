import Mathlib.Logic.Function.Basic
import NodeRdkafka.Errors
import NodeRdkafka.JsValue
import NodeRdkafka.Lib.Turn
import NodeRdkafka.RefCounter

namespace NodeRdkafka

/-- How one application of a serializer answers: a value that is no promise, a
promise, or a callback that is called during the application or later. -/
inductive SerializerStyle
  | value (v : JsValue)
  | promise
  | callback (now : Option (Except JsError JsValue))

/-- The test of _modifiedProduce for a promise: methods then and catch. -/
def JsValue.isPromise (v : JsValue) : Bool := (v.get "then").isFunction && (v.get "catch").isFunction

/-- How _modifiedProduce treats what a serializer without a callback returns. -/
def SerializerStyle.returned (v : JsValue) : SerializerStyle := if v.isPromise then .promise else .value v

theorem SerializerStyle.returned_of_plain {v : JsValue} (plain : v.isPromise = false) :
    returned v = .value v := by
  rw [returned, if_neg (by simp [plain])]

theorem SerializerStyle.returned_plain {v w : JsValue} (style : returned v = .value w) :
    w.isPromise = false := by
  cases promise : v.isPromise with
  | true => simp [returned, promise] at style
  | false =>
    rw [returned_of_plain promise] at style
    cases style
    exact promise

@[simp] theorem SerializerStyle.returned_ne_callback (v : JsValue) (now : Option (Except JsError JsValue)) :
    (returned v = .callback now) = False := by
  cases promise : v.isPromise <;> simp [returned, promise]

/-- One application of a user's serializer. It may throw at its end, and may
swallow what the callback that it calls throws. -/
structure Serialization where
  style : SerializerStyle
  thrown : Option JsError := none
  catches : Bool := false
  plain : ∀ v, style = .value v → v.isPromise = false := by rintro _ ⟨⟩ <;> rfl

/-- The serializer that a producer starts with: it returns what it is given. -/
def noopSerializer (v : JsValue) : Serialization :=
  { style := .returned v, plain := fun _ => SerializerStyle.returned_plain }

inductive SerializerPart
  | value
  | key
  deriving DecidableEq

inductive CompletionKind
  | promise
  | callback
  deriving DecidableEq

structure ProduceArguments where
  topic : JsValue
  partition : JsValue
  message : JsValue
  key : JsValue
  timestamp : JsValue
  headers : JsValue := .undefined

/-- The variables of one produce call that its closures share. -/
structure ProduceClosure where
  arguments : ProduceArguments
  resolvedSerializedValue : JsValue := .undefined
  resolvedSerializedKey : JsValue := .undefined
  calledBack : Bool := false

/-- Both results are there as far as produceIfComplete can tell. -/
def ProduceClosure.ready (closure : ProduceClosure) : Bool :=
  !closure.resolvedSerializedKey.isUndefined && !closure.resolvedSerializedValue.isUndefined

/-- One call of the underlying Producer.produce; the opaque is an object with
the message id. -/
structure ProduceAttempt where
  messageId : Nat
  topic : JsValue
  partition : JsValue
  value : JsValue
  key : JsValue
  timestamp : JsValue
  headers : JsValue

def ProduceArguments.attempt (arguments : ProduceArguments) (messageId : Nat) (v k : JsValue) :
    ProduceAttempt :=
  { messageId, topic := arguments.topic, partition := arguments.partition, value := v, key := k,
    timestamp := arguments.timestamp, headers := arguments.headers }

/-- What a produce callback is called with: one error, or an error member and
an offset that is null when it is none. -/
inductive CallbackArguments
  | failed (e : JsError)
  | delivered (err : Option JsError) (offset : Option Int)
  deriving DecidableEq

structure HighLevelReport where
  messageId : Nat
  err : Option JsError
  offset : Int
  deriving DecidableEq

/-- The closures that the producer hands to setImmediate. -/
inductive HighLevelImmediate
  | deliver (messageId : Nat) (err : Option JsError) (offset : Int)
  | fail (messageId : Nat) (e : JsError)

/-- A HighLevelProducer and what it shares with librdkafka and the event loop.
`outstanding` are the accepted messages whose report is still to come. -/
structure HighLevelProducer where
  isConnected : Bool := false
  messageId : Nat := 0
  deliveryEmitter : List Nat := []
  pollingRef : RefCounter := {}
  pollingRefTimeout : Option Nat := none
  intervals : List Nat := []
  nextInterval : Nat := 0
  polls : Nat := 0
  closures : Nat → Option ProduceClosure := fun _ => none
  pending : List ((Nat × SerializerPart) × CompletionKind) := []
  rejections : List (Nat × SerializerPart × JsError) := []
  immediates : List HighLevelImmediate := []
  attempts : List ProduceAttempt := []
  outstanding : List Nat := []
  reports : List HighLevelReport := []
  callbacks : List (Nat × CallbackArguments) := []

namespace HighLevelProducer

/-- onActive of the polling counter. -/
def onActive (s : HighLevelProducer) : HighLevelProducer :=
  { s with pollingRefTimeout := some s.nextInterval,
           intervals := s.intervals ++ [s.nextInterval],
           nextInterval := s.nextInterval + 1 }

/-- clearInterval of the stored timer. -/
def clearPolling (s : HighLevelProducer) : HighLevelProducer :=
  { s with intervals := s.intervals.filter fun interval => s.pollingRefTimeout ≠ some interval }

def increment (s : HighLevelProducer) : HighLevelProducer :=
  let s' := { s with pollingRef := s.pollingRef.increment.1 }
  if s.pollingRef.increment.2 then s'.onActive else s'

def decrement (s : HighLevelProducer) : HighLevelProducer :=
  let s' := { s with pollingRef := s.pollingRef.decrement.1 }
  if s.pollingRef.decrement.2 then s'.clearPolling else s'

def setImmediate (task : HighLevelImmediate) (s : HighLevelProducer) : HighLevelProducer :=
  { s with immediates := s.immediates ++ [task] }

def updateClosure (id : Nat) (f : ProduceClosure → ProduceClosure) (s : HighLevelProducer) :
    HighLevelProducer :=
  { s with closures := Function.update s.closures id ((s.closures id).map f) }

def pend (entry : (Nat × SerializerPart) × CompletionKind) (s : HighLevelProducer) :
    HighLevelProducer :=
  { s with pending := s.pending ++ [entry] }

def attempted (attempt : ProduceAttempt) (s : HighLevelProducer) : HighLevelProducer :=
  { s with attempts := s.attempts ++ [attempt] }

end HighLevelProducer

/-- Code of the producer that runs in one turn of the event loop. -/
abbrev Js := EStateM JsError HighLevelProducer

namespace HighLevelProducer
section Code
variable (outcome callbackThrows : Nat → Option JsError)

/-- The user's produce callback; it may throw. -/
def callback (id : Nat) (arguments : CallbackArguments) : Js Unit := do
  let s ← get
  set { s with callbacks := s.callbacks ++ [(id, arguments)] }
  match callbackThrows s.callbacks.length with
  | some e => throw e
  | none => pure ()

/-- What the next call of the underlying produce throws, if it throws. -/
def refusal (s : HighLevelProducer) : Option JsError :=
  if s.isConnected then outcome s.attempts.length else some { message := "Producer not connected" }

/-- The produce of the Producer that a HighLevelProducer builds on. -/
def oldProduce (id : Nat) (arguments : ProduceArguments) (v k : JsValue) : Js Unit := do
  let s ← get
  set (s.attempted (arguments.attempt id v k))
  match s.refusal outcome with
  | some e => throw e
  | none => modify fun s => { s with outstanding := s.outstanding ++ [id] }

def doProduce (id : Nat) (arguments : ProduceArguments) (v k : JsValue) : Js Unit :=
  tryCatch
    (do
      oldProduce outcome id arguments v k
      modify fun s => { s with deliveryEmitter := s.deliveryEmitter ++ [id] })
    fun e => callback callbackThrows id (.failed e)

def produceIfComplete (id : Nat) : Js Unit := do
  let s ← get
  match s.closures id with
  | some closure =>
    if closure.ready then
      doProduce outcome callbackThrows id closure.arguments closure.resolvedSerializedValue
        closure.resolvedSerializedKey
    else pure ()
  | none => pure ()

def calledBack (id : Nat) (s : HighLevelProducer) : Bool :=
  (s.closures id).any (·.calledBack)

def setValue (id : Nat) (v : JsValue) : HighLevelProducer → HighLevelProducer :=
  updateClosure id fun closure => { closure with resolvedSerializedValue := v }

def setKey (id : Nat) (k : JsValue) : HighLevelProducer → HighLevelProducer :=
  updateClosure id fun closure => { closure with resolvedSerializedKey := k }

def setCalledBack (id : Nat) : HighLevelProducer → HighLevelProducer :=
  updateClosure id fun closure => { closure with calledBack := true }

def finishSerializedValue (id : Nat) (v : JsValue) : Js Unit := do
  let s ← get
  if !s.calledBack id then
    modify (setValue id v)
    produceIfComplete outcome callbackThrows id
  else pure ()

/-- Unlike the value, the key is stored before calledBack is looked at. -/
def finishSerializedKey (id : Nat) (k : JsValue) : Js Unit := do
  modify (setKey id k)
  let s ← get
  if !s.calledBack id then produceIfComplete outcome callbackThrows id else pure ()

/-- The body of failSerializedValue and of failSerializedKey. -/
def failSerialized (id : Nat) (err : JsError) : Js Unit := do
  let s ← get
  if !s.calledBack id then
    modify (setCalledBack id)
    callback callbackThrows id (.failed err)
  else pure ()

def finishSerialized : SerializerPart → Nat → JsValue → Js Unit
  | .value => finishSerializedValue outcome callbackThrows
  | .key => finishSerializedKey outcome callbackThrows

/-- The body of valueSerializerCallback and of keySerializerCallback. -/
def serializerCallback (part : SerializerPart) (id : Nat) : Except JsError JsValue → Js Unit
  | .error err => failSerialized callbackThrows id err
  | .ok v => finishSerialized outcome callbackThrows part id v

/-- What a serializer does with its callback while it is applied. -/
def callNow (serialization : Serialization) (part : SerializerPart) (id : Nat) : Js Unit :=
  match serialization.style with
  | .callback (some result) =>
    if serialization.catches then
      tryCatch (serializerCallback outcome callbackThrows part id result) fun _ => pure ()
    else serializerCallback outcome callbackThrows part id result
  | .callback none => modify (pend ((id, part), .callback))
  | _ => pure ()

/-- A user's serializer inside the wrapper that createSerializer makes. -/
def serializationWrapper (serialization : Serialization) (part : SerializerPart) (id : Nat) :
    Js Unit :=
  tryCatch
    (do
      callNow outcome callbackThrows serialization part id
      match serialization.thrown with
      | some e => throw e
      | none => pure ())
    fun e => throw { message := "Could not serialize value: " ++ e.message }

/-- One of the two halves of the try block in _modifiedProduce. -/
def serialize (serialization : Serialization) (part : SerializerPart) (id : Nat) : Js Unit := do
  serializationWrapper outcome callbackThrows serialization part id
  match serialization.style, part with
  | .promise, _ => modify (pend ((id, part), .promise))
  | .value v, .value => modify (setValue id v)
  | .value k, .key => modify (setKey id k)
  | .callback _, _ => pure ()

def serializeBoth (value key : Serialization) (id : Nat) : Js Unit := do
  serialize outcome callbackThrows value .value id
  serialize outcome callbackThrows key .key id
  produceIfComplete outcome callbackThrows id

/-- The synchronous part of _modifiedProduce, before its try block. -/
def openCall (arguments : ProduceArguments) (s : HighLevelProducer) : HighLevelProducer :=
  { s with messageId := s.messageId + 1,
           closures := Function.update s.closures s.messageId (some { arguments }) }.increment

/-- _modifiedProduce with a callback. `value` and `key` are what the two
serializers do when they are applied to the message and the key. -/
def modifiedProduce (arguments : ProduceArguments) (value key : Serialization) : Js Unit := do
  let id := (← get).messageId
  modify (openCall arguments)
  tryCatch (serializeBoth outcome callbackThrows value key id)
    fun e => modify (setImmediate (.fail id e))

/-- A serializer's promise settles, or its callback is called at last. A
rejection of `then(finish)` reaches `catch` in a later microtask. -/
def settle (id : Nat) (part : SerializerPart) (result : Except JsError JsValue) : CompletionKind → Js Unit
  | .promise =>
    match result with
    | .ok v =>
      tryCatch (finishSerialized outcome callbackThrows part id v)
        fun e => modify fun s => { s with rejections := s.rejections ++ [(id, part, e)] }
    | .error e => failSerialized callbackThrows id e
  | .callback => serializerCallback outcome callbackThrows part id result

def runImmediate : HighLevelImmediate → Js Unit
  | .deliver id err offset =>
    callback callbackThrows id (.delivered err (if 0 ≤ offset then some offset else none))
  | .fail id e => do
    modify (setCalledBack id)
    callback callbackThrows id (.failed e)

end Code

/-- The listener of one message, run and removed by its report. -/
def deliver (report : HighLevelReport) (s : HighLevelProducer) : HighLevelProducer :=
  s.decrement.setImmediate (.deliver report.messageId report.err report.offset)

/-- The 'delivery-report' listener: the emitter calls and drops the listeners
that wait for the id. -/
def deliveryReport (report : HighLevelReport) (s : HighLevelProducer) : HighLevelProducer :=
  (s.deliveryEmitter.filter (· = report.messageId)).foldl (fun s _ => s.deliver report)
    { s with deliveryEmitter := s.deliveryEmitter.filter (· ≠ report.messageId) }

/-- One run of the 1 ms interval. -/
def tick (s : HighLevelProducer) : HighLevelProducer :=
  if s.isConnected then { s with polls := s.polls + 1 } else s.clearPolling

end HighLevelProducer

inductive HighLevelAction
  | produce (arguments : ProduceArguments) (value key : Serialization)
  | settle (id : Nat) (part : SerializerPart) (result : Except JsError JsValue)
  | rejection
  | immediate
  | report (report : HighLevelReport)
  | tick (interval : Nat)
  | disconnected
  | connected

/-- The turns of the event loop. Pending serializers complete in any order, and
librdkafka reports each accepted message at most once, in any order. -/
def HighLevelProducer.step (outcome callbackThrows : Nat → Option JsError) (s : HighLevelProducer) :
    HighLevelAction → Option HighLevelProducer
  | .produce arguments value key =>
    some (Turn.final ((modifiedProduce outcome callbackThrows arguments value key).run s))
  | .settle id part result =>
    match s.pending.lookup (id, part) with
    | some kind =>
      some (Turn.final ((settle outcome callbackThrows id part result kind).run
        { s with pending := s.pending.filter fun entry => entry.1 ≠ (id, part) }))
    | none => none
  | .rejection =>
    match s.rejections with
    | (id, _, e) :: rest =>
      some (Turn.final ((failSerialized callbackThrows id e).run { s with rejections := rest }))
    | [] => none
  | .immediate =>
    match s.immediates with
    | task :: rest =>
      some (Turn.final ((runImmediate callbackThrows task).run { s with immediates := rest }))
    | [] => none
  | .report report =>
    if report.messageId ∈ s.outstanding then
      some (deliveryReport report
        { s with outstanding := s.outstanding.erase report.messageId,
                 reports := s.reports ++ [report] })
    else none
  | .tick interval => if interval ∈ s.intervals then some s.tick else none
  | .disconnected => some { s with isConnected := false }
  | .connected => some { s with isConnected := true }

end NodeRdkafka

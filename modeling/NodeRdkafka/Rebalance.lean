import NodeRdkafka.Dispatcher
import NodeRdkafka.KafkaConsumerAssignments
import NodeRdkafka.LibrdKafkaError

namespace NodeRdkafka
open Transition

structure EventTopicPartition where
  topic : String
  partition : Int32
  offset : Int64
  deriving DecidableEq

structure RebalanceEvent where
  err : ErrorCode
  partitions : List EventTopicPartition
  deriving DecidableEq

/-- The constructor copies what it needs of the partitions. -/
def RebalanceEvent.ofPartitions (err : ErrorCode) (partitions : List TopicPartition) : RebalanceEvent :=
  { err, partitions := partitions.map fun tp =>
      { topic := tp.topic, partition := tp.partition, offset := tp.offset } }

/-- The body of the loop of TopicPartitionListToV8Array. A negative offset is
left out. -/
def EventTopicPartition.toV8Value (tp : EventTopicPartition) : JsValue :=
  let offset := if 0 ≤ tp.offset then [("offset", nanNumber tp.offset.toInt)] else []
  .object ([("topic", .string (cString tp.topic)), ("partition", nanNumber tp.partition.toInt)] ++ offset)

def topicPartitionListToV8Array (parts : List EventTopicPartition) : List JsValue :=
  parts.map EventTopicPartition.toV8Value

/-- What a call may throw: a TypeError of the library, an Error of native
code, or the object of a baton. -/
inductive Thrown
  | typeError (message : String)
  | error (e : JsError)
  | object (e : ErrorObject)
  deriving DecidableEq

def JsValue.truthy : JsValue → Bool
  | undefined | null => false
  | boolean value => value
  | number value => value ≠ .nan ∧ value ≠ .finite 0
  | string value => !value.isEmpty
  | _ => true

namespace TopicPartitionClass
section
variable (toLowerCase : String → String)

/-- The offset of an instance. -/
def offsetOf : JsValue → Except Thrown JsValue
  | .undefined | .null => .ok (nanNumber Topic.offsetStored.toInt)
  | .string offset =>
    let special := toLowerCase offset
    if special = "earliest" ∨ special = "beginning" then .ok (nanNumber Topic.offsetBeginning.toInt)
    else if special = "latest" ∨ special = "end" then .ok (nanNumber Topic.offsetEnd.toInt)
    else if special = "stored" then .ok (nanNumber Topic.offsetStored.toInt)
    else .error (.typeError "\"offset\", if provided as a string, must be beginning, end, or stored.")
  | .number offset => .ok (.number offset)
  | _ => .error (.typeError "\"offset\" must be a special string or number if it is set")

/-- An instance of the class of lib/topic-partition.js. -/
def create (element : JsValue) : Except Thrown JsValue :=
  let element := if element.truthy then element else .object []
  let topic := element.get "topic"
  if !topic.truthy then .error (.typeError "\"topic\" must be a string and must be set")
  else
    match element.get "partition" with
    | .null | .undefined => .error (.typeError "\"partition\" must be a number and must set")
    | partition => do
      let offset ← offsetOf toLowerCase (element.get "offset")
      .ok (.object [("topic", topic), ("partition", partition), ("offset", offset)])

def map (array : List JsValue) : Except Thrown (List JsValue) := array.mapM (create toLowerCase)

end
end TopicPartitionClass

namespace Conversion.TopicPartition
section
variable (toText : JsValue → String)

def partitionUa : Int32 := -1

/-- One element of the array given to NodeAssign, NodeIncrementalAssign and
NodeIncrementalUnassign, which is skipped without a topic. -/
def fromAssignment (partitionObj : JsValue) : Option NodeRdkafka.TopicPartition :=
  let partition := getInt64 partitionObj "partition" (-1)
  let topic := getString toText partitionObj "topic" ""
  if topic.isEmpty then none
  else
    -- OFFSET_INVALID is what a new partition has, and what it keeps by default.
    some { topic, partition := if partition < 0 then partitionUa else partition.toInt32,
           offset := getInt64 partitionObj "offset" Topic.offsetInvalid }

/-- Their loop. An element that is no object throws. -/
def fromAssignments (partitions : List JsValue) : Except Thrown (List NodeRdkafka.TopicPartition) :=
  if partitions.all JsValue.isObject then .ok (partitions.filterMap (fromAssignment toText))
  else .error (.error (nanError "Must pass topic-partition objects"))

end
end Conversion.TopicPartition

inductive RebalanceEmit
  | rebalance (err : LibrdKafkaError) (assignment : List JsValue)
  | rebalanceError (e : Thrown)

/-- A KafkaConsumer of the library with its native consumer. `calls` records
the calls that reach librdkafka, with whether it accepts them. -/
structure RebalanceConsumer (σ : Type) where
  native : KafkaConsumer σ
  isConnected : Bool := true
  calls : List (AssignmentCall × Bool) := []
  emitted : List RebalanceEmit := []

namespace RebalanceConsumer
section
variable {σ : Type} (lib : Librdkafka σ) (err2str : ErrorCode → String)
variable (toLowerCase : String → String) (toText : JsValue → String)

/-- The call of the native consumer, and what its node method throws for the
baton. -/
def nodeCall (c : RebalanceConsumer σ) (action : AssignmentCall) :
    RebalanceConsumer σ × Except Thrown Unit :=
  let (native, baton) := c.native.call lib action
  let after :=
    { c with
      native
      calls := if c.native.reaches action then c.calls ++ [(action, c.native.accepts lib action)]
        else c.calls }
  if baton.err = ErrorCode.errNoError then (after, .ok ())
  else
    match action with
    | .assign _ | .unassign | .refreshAssignments =>
      (after, .error (.error (nanError (err2str baton.err))))
    | .incrementalAssign _ | .incrementalUnassign _ =>
      (after, .error (.object (baton.toObject err2str)))

/-- A method that takes an array of partitions. -/
def nodeCallWith (c : RebalanceConsumer σ) (action : List TopicPartition → AssignmentCall)
    (assignments : List JsValue) : RebalanceConsumer σ × Except Thrown Unit :=
  match TopicPartitionClass.map toLowerCase assignments with
  | .error e => (c, .error e)
  | .ok elements =>
    match Conversion.TopicPartition.fromAssignments toText elements with
    | .error e => (c, .error e)
    | .ok partitions => c.nodeCall lib err2str (action partitions)

def assign (c : RebalanceConsumer σ) : List JsValue → RebalanceConsumer σ × Except Thrown Unit :=
  c.nodeCallWith lib err2str toLowerCase toText .assign

def unassign (c : RebalanceConsumer σ) : RebalanceConsumer σ × Except Thrown Unit :=
  if !c.native.isClosing && !c.native.isConnected then
    (c, .error (.error (nanError "KafkaConsumer is disconnected")))
  else c.nodeCall lib err2str .unassign

def incrementalAssign (c : RebalanceConsumer σ) :
    List JsValue → RebalanceConsumer σ × Except Thrown Unit :=
  c.nodeCallWith lib err2str toLowerCase toText .incrementalAssign

def incrementalUnassign (c : RebalanceConsumer σ) :
    List JsValue → RebalanceConsumer σ × Except Thrown Unit :=
  c.nodeCallWith lib err2str toLowerCase toText .incrementalUnassign

/-- What rebalance_cb tries: the call that answers the event. -/
def respond (c : RebalanceConsumer σ) (code : ErrorCode) (assignment : List JsValue) :
    RebalanceConsumer σ × Except Thrown Unit :=
  if code = ErrorCode.errAssignPartitions then
    if c.native.rebalanceProtocol lib = "COOPERATIVE" then
      c.incrementalAssign lib err2str toLowerCase toText assignment
    else c.assign lib err2str toLowerCase toText assignment
  else if code = ErrorCode.errRevokePartitions then
    if c.native.rebalanceProtocol lib = "COOPERATIVE" then
      c.incrementalUnassign lib err2str toLowerCase toText assignment
    else c.unassign lib err2str
  else (c, .ok ())

/-- The rebalance_cb that the constructor puts in the place of `true`. -/
def rebalanceCb (c : RebalanceConsumer σ) (code : ErrorCode) (assignment : List JsValue) :
    RebalanceConsumer σ :=
  let err := LibrdKafkaError.create err2str toLowerCase (.number code)
  let c := { c with emitted := c.emitted ++ [RebalanceEmit.rebalance err assignment] }
  match c.respond lib err2str toLowerCase toText err.code assignment with
  | (c, .ok ()) => c
  | (c, .error e) =>
    if c.isConnected then { c with emitted := c.emitted ++ [RebalanceEmit.rebalanceError e] } else c

end
end RebalanceConsumer

/-- Where the main thread stands in RebalanceDispatcher::Flush. -/
inductive RebalanceFlush
  | idle
  | entered
  | swapping
  | dispatching (remaining : List RebalanceEvent)
  deriving DecidableEq

/-- The dispatcher and the consumer behind it. `owedExecutes` counts the
rebalance_cb calls between Add and Execute; `added` and `dispatched` record
what happened. -/
structure RebalanceState (σ : Type) where
  dispatcher : Dispatcher
  consumer : RebalanceConsumer σ
  events : List RebalanceEvent := []
  owedExecutes : Nat := 0
  wakeup : Bool := false
  flush : RebalanceFlush := .idle
  added : List RebalanceEvent := []
  dispatched : List RebalanceEvent := []

inductive RebalanceAction
  | rebalanceCb (err : ErrorCode) (partitions : List TopicPartition)
  | execute
  | asyncMessage
  | check
  | swap
  | dispatch
  | finish

namespace RebalanceState
section
variable {σ : Type} (lib : Librdkafka σ) (err2str : ErrorCode → String)
variable (toLowerCase : String → String) (toText : JsValue → String)

/-- A connected consumer whose rebalance_cb is registered. -/
def connected (cb : JsFunction) (native : KafkaConsumer σ) : RebalanceState σ :=
  { dispatcher := { callbacks := [cb], async := true }, consumer := { native } }

def add (s : RebalanceState σ) (e : RebalanceEvent) : RebalanceState σ :=
  { s with events := s.events ++ [e], added := s.added ++ [e] }

/-- Dispatch of one event: its callbacks are all the rebalance_cb above,
which throws before it does anything on an event without an error. -/
def dispatchEvent (s : RebalanceState σ) (e : RebalanceEvent) : RebalanceConsumer σ :=
  if e.err = ErrorCode.errNoError then s.consumer
  else
    (s.dispatcher.dispatch (topicPartitionListToV8Array e.partitions)).foldl
      (fun c call => c.rebalanceCb lib err2str toLowerCase toText e.err call.2) s.consumer

/-- The interleavings of the librdkafka threads that raise events with Flush
on the main thread. -/
def step (s : RebalanceState σ) : RebalanceAction → Option (RebalanceState σ)
  | .rebalanceCb err partitions =>
    some { s.add (.ofPartitions err partitions) with owedExecutes := s.owedExecutes + 1 }
  | .execute =>
    if 0 < s.owedExecutes then
      some { s with wakeup := s.wakeup || s.dispatcher.async, owedExecutes := s.owedExecutes - 1 }
    else none
  | .asyncMessage =>
    if s.wakeup ∧ s.flush = .idle then some { s with wakeup := false, flush := .entered } else none
  | .check =>
    if s.flush = .entered then
      some { s with flush := if s.events.length < 1 then .idle else .swapping }
    else none
  | .swap =>
    if s.flush = .swapping then some { s with events := [], flush := .dispatching s.events } else none
  | .dispatch =>
    match s.flush with
    | .dispatching (event :: remaining) =>
      some { s with flush := .dispatching remaining, dispatched := s.dispatched ++ [event],
                    consumer := s.dispatchEvent lib err2str toLowerCase toText event }
    | _ => none
  | .finish => if s.flush = .dispatching [] then some { s with flush := .idle } else none

end
end RebalanceState
end NodeRdkafka

import NodeRdkafka.AdminClient
import NodeRdkafka.ErrorChannels
import NodeRdkafka.ProducerTransactions

namespace NodeRdkafka

structure BrokerMetadata where
  id : Int32
  host : String
  port : Int32

structure PartitionMetadata where
  id : Int32
  leader : Int32
  replicas : List Int32
  isrs : List Int32

structure TopicMetadata where
  topic : String
  partitions : List PartitionMetadata

/-- An RdKafka::Metadata. -/
structure Metadata where
  origBrokerId : Int32
  origBrokerName : String
  topics : List TopicMetadata
  brokers : List BrokerMetadata

namespace Conversion

/-- GetParameter of a bool. Only booleans are read. -/
def getBool (object : JsValue) (field : String) (default : Bool) : Bool :=
  match object.get? field with
  | some (.boolean value) => value
  | _ => default

namespace Metadata

def brokerToV8Object (x : BrokerMetadata) : JsValue :=
  .object [("id", nanNumber x.id.toInt), ("host", .string (cString x.host)), ("port", nanNumber x.port.toInt)]

def partitionToV8Object (xx : PartitionMetadata) : JsValue :=
  .object [("id", nanNumber xx.id.toInt), ("leader", nanNumber xx.leader.toInt),
    ("replicas", .array (xx.replicas.map fun replica => nanNumber replica.toInt)),
    ("isrs", .array (xx.isrs.map fun isr => nanNumber isr.toInt))]

def topicToV8Object (x : TopicMetadata) : JsValue :=
  .object [("name", .string (cString x.topic)), ("partitions", .array (x.partitions.map partitionToV8Object))]

def toV8Object (metadata : NodeRdkafka.Metadata) : JsValue :=
  .object [("orig_broker_id", nanNumber metadata.origBrokerId.toInt),
    ("orig_broker_name", .string metadata.origBrokerName),
    ("topics", .array (metadata.topics.map topicToV8Object)),
    ("brokers", .array (metadata.brokers.map brokerToV8Object))]

end Metadata
end Conversion

/-- What a worker is made with. -/
inductive NativeRequest
  | metadata (topic : String) (allTopics : Bool) (timeoutMs : Int32)
  | queryWatermarkOffsets (topic : String) (partition timeoutMs : Int32)
  | offsetsForTimes (toppars : List (Option TopicPartition)) (timeoutMs : Int32)
  | committed (toppars : List (Option TopicPartition)) (timeoutMs : Int32)
  | seek (toppar : TopicPartition) (timeoutMs : Int32)
  | flush (timeoutMs : Int32)
  | transaction (call : TransactionCall) (timeoutMs : Option Int32)

/-- What librdkafka answers. Each request reads the part that is for it. -/
structure LibrdkafkaAnswer where
  err : ErrorCode := ErrorCode.errNoError
  metadata : Metadata := { origBrokerId := 0, origBrokerName := "", topics := [], brokers := [] }
  lowOffset : Int64 := 0
  highOffset : Int64 := 0
  toppars : List TopicPartition := []
  error : Option RdError := none

/-- The calls of JavaScript with the arguments as they are given. -/
inductive RequestCall
  | getMetadata (metadataOptions cb : JsValue)
  | queryWatermarkOffsets (topic partition timeout cb : JsValue)
  | offsetsForTimes (toppars timeout cb : JsValue)
  | committed (toppars timeout cb : JsValue)
  | seek (toppar timeout cb : JsValue)
  | flush (timeout callback : JsValue)
  | initTransactions (timeout cb : JsValue)
  | beginTransaction (cb : JsValue)
  | commitTransaction (timeout cb : JsValue)
  | abortTransaction (timeout cb : JsValue)

/-- What a call comes to at once: its callback is told that the client is disconnected,
it returns and that is all, it throws, or a worker is queued with the callback. -/
inductive RequestOutcome
  | disconnected (cb : Nat)
  | silent
  | throws (e : Thrown)
  | queued (request : NativeRequest) (cb : JsValue)

/-- The conversions of JavaScript and the texts of error codes. -/
structure RequestLibrary where
  toText : JsValue → String
  toNumber : JsValue → Number
  toLowerCase : String → String
  err2str : ErrorCode → String

def notAFunction (name : String) : Thrown := .typeError (name ++ " is not a function")

namespace RequestCall
variable (lib : RequestLibrary)

def callDisconnected : JsValue → RequestOutcome
  | .function cb => .disconnected cb
  | _ => .throws (notAFunction "cb")

def getMetadataOutcome (isConnected : Bool) (metadataOptions cb : JsValue) : RequestOutcome :=
  if !isConnected then callDisconnected cb
  else
    let config := if metadataOptions.truthy then metadataOptions else .object []
    .queued (.metadata (Conversion.getString lib.toText config "topic" "") (Conversion.getBool config "allTopics" true)
      (Conversion.getInt64 config "timeout" 30000).toInt32) cb

def queryWatermarkOffsetsOutcome (isConnected : Bool) (topic partition timeout cb : JsValue) : RequestOutcome :=
  if !isConnected then if cb.truthy then callDisconnected cb else .silent
  else
    let (timeout, cb) := timeoutArguments (nanNumber 1000) timeout cb
    match topic, partition, timeout with
    | .string topic, .number partition, .number timeout =>
      .queued (.queryWatermarkOffsets (cString topic) partition.toInt32 timeout.toInt32) cb
    | .string _, .number _, _ => .throws (.error (nanError "3rd parameter must be a number of milliseconds"))
    | .string _, _, _ => .throws (.error (nanError "2nd parameter must be a partition number"))
    | _, _, _ => .throws (.error (nanError "1st parameter must be a topic string"))

def offsetsForTimesOutcome (isConnected : Bool) (toppars timeout cb : JsValue) : RequestOutcome :=
  if !isConnected then if cb.truthy then callDisconnected cb else .silent
  else
    let (timeout, cb) := timeoutArguments (nanNumber 1000) timeout cb
    match toppars with
    | .array toppars =>
      .queued (.offsetsForTimes (Conversion.TopicPartition.fromV8Array lib.toText toppars)
        (lib.toNumber timeout).toInt32) cb
    | _ => .throws (.error (nanError "Need to specify an array of topic partitions"))

/-- With what `this.assignments()` returns or throws. -/
def committedOutcome (assignments : Except Thrown JsValue) (toppars timeout cb : JsValue) : RequestOutcome :=
  let (toppars, timeout, cb) :=
    if !cb.truthy then (assignments, toppars, timeout)
    else (if toppars.truthy then .ok toppars else assignments, timeout, cb)
  match toppars with
  | .error e => .throws e
  | .ok (.array toppars) =>
    .queued (.committed (Conversion.TopicPartition.fromV8Array lib.toText toppars) (lib.toNumber timeout).toInt32) cb
  | .ok _ => .throws (.error (nanError "Need to specify an array of topic partitions"))

/-- A timeout below 10 ms is 10 ms, which null is too. -/
def seekOutcome (toppar timeout cb : JsValue) : RequestOutcome :=
  match TopicPartitionClass.create lib.toLowerCase toppar with
  | .error e => .throws e
  | .ok toppar =>
    let given : Option Int32 :=
      match timeout with
      | .number timeout => some timeout.toInt32
      | .null => some 0
      | _ => none
    match given with
    | none => .throws (.error (nanError "Timeout must be a number."))
    | some timeoutMs =>
      match Conversion.TopicPartition.fromV8Object lib.toText toppar with
      | none => .throws (.error (nanError "Invalid topic partition provided"))
      | some toppar => .queued (.seek toppar (if timeoutMs < 10 then 10 else timeoutMs)) cb

def flushOutcome (isConnected : Bool) (timeout callback : JsValue) : RequestOutcome :=
  if !isConnected then .throws (.error (nanError "Producer not connected"))
  else
    let timeout :=
      match timeout with
      | .undefined | .null => nanNumber 500
      | _ => timeout
    match timeout with
    | .number timeout => .queued (.flush timeout.toInt32) callback
    | _ => .throws (.error (nanError "Need to specify a timeout and a callback"))

/-- initTransactions, commitTransaction and abortTransaction. -/
def transactionOutcome (call : TransactionCall) (timeout cb : JsValue) : RequestOutcome :=
  let (timeout, cb) :=
    match timeout with
    | .function _ => (nanNumber 5000, timeout)
    | _ => (timeout, cb)
  match timeout with
  | .number timeout => .queued (.transaction call (some timeout.toInt32)) cb
  | _ => .throws (.error (nanError "Need to specify a timeout and a callback"))

def outcome (isConnected : Bool) (assignments : Except Thrown JsValue) : RequestCall → RequestOutcome
  | getMetadata metadataOptions cb => getMetadataOutcome lib isConnected metadataOptions cb
  | queryWatermarkOffsets topic partition timeout cb =>
    queryWatermarkOffsetsOutcome isConnected topic partition timeout cb
  | offsetsForTimes toppars timeout cb => offsetsForTimesOutcome lib isConnected toppars timeout cb
  | committed toppars timeout cb => committedOutcome lib assignments toppars timeout cb
  | seek toppar timeout cb => seekOutcome lib toppar timeout cb
  | flush timeout callback => flushOutcome isConnected timeout callback
  | initTransactions timeout cb => transactionOutcome .initTransactions timeout cb
  | beginTransaction cb => .queued (.transaction .beginTransaction none) cb
  | commitTransaction timeout cb => transactionOutcome .commitTransaction timeout cb
  | abortTransaction timeout cb => transactionOutcome .abortTransaction timeout cb

/-- The callback that the user gives. -/
def given : RequestCall → Option Nat
  | queryWatermarkOffsets _ _ timeout cb | offsetsForTimes _ timeout cb | initTransactions timeout cb
  | commitTransaction timeout cb | abortTransaction timeout cb => timeout.callback <|> cb.callback
  | committed _ timeout cb => if cb.truthy then cb.callback else timeout.callback
  | getMetadata _ cb | seek _ _ cb | flush _ cb | beginTransaction cb => cb.callback

end RequestCall

namespace NativeRequest
variable (lib : RequestLibrary)

/-- The result of the native call on a client that is connected or not. -/
def baton (connected : Bool) (answer : LibrdkafkaAnswer) : NativeRequest → Baton Unit
  | metadata .. | queryWatermarkOffsets .. | offsetsForTimes .. | flush _ =>
    .ofCode (if connected then answer.err else ErrorCode.errState)
  | committed .. | seek .. =>
    if connected then .ofCode answer.err else .ofErrstr ErrorCode.errState "KafkaConsumer is not connected"
  | transaction call _ => call.execute connected answer.error

/-- What HandleErrorCallback passes on. ProducerFlush looks at the connection first. -/
def errorSource (connected : Bool) (b : Baton Unit) : NativeRequest → ErrorSource
  | flush _ =>
    if connected then .error (ErrorAwareWorker.handleErrorCallback lib.err2str b)
    else .error (nanError "Producer is disconnected")
  | transaction call _ => .object (call.handleErrorCallback lib.err2str b)
  | _ => .object (b.toObject lib.err2str)

/-- What the callback of the library hands to the user's when all went well. -/
def arguments (answer : LibrdkafkaAnswer) : NativeRequest → List JsValue
  | metadata .. => [.null, Conversion.Metadata.toV8Object answer.metadata]
  | queryWatermarkOffsets .. =>
    [.null, .object [("lowOffset", nanNumber answer.lowOffset.toInt),
      ("highOffset", nanNumber answer.highOffset.toInt)]]
  | offsetsForTimes .. | committed .. =>
    [.null, .array (Conversion.TopicPartition.toV8Array lib.err2str answer.toppars)]
  | seek .. => []
  | flush _ | transaction .. => [.null]

/-- Whether the library asks if there is a callback before it calls it. -/
def asks : NativeRequest → Bool
  | metadata .. | queryWatermarkOffsets .. | offsetsForTimes .. | flush _ => true
  | committed .. | seek .. | transaction .. => false

end NativeRequest

structure RequestWorker where
  id : Nat
  request : NativeRequest
  cb : JsValue

/-- A worker that has run, with whether there was a handle and what librdkafka answered. -/
structure RequestRun where
  worker : RequestWorker
  connected : Bool
  answer : LibrdkafkaAnswer

/-- What a callback is called with. -/
inductive RequestAnswer
  | disconnected
  | failed (e : LibrdKafkaError)
  | succeeded (arguments : List JsValue)

def RequestRun.result (lib : RequestLibrary) (run : RequestRun) : RequestAnswer :=
  let b := run.worker.request.baton run.connected run.answer
  if b.err ≠ ErrorCode.errNoError then
    .failed (.create lib.err2str lib.toLowerCase (run.worker.request.errorSource lib run.connected b))
  else .succeeded (run.worker.request.arguments lib run.answer)

/-- The requests of a client. A call is named by its place among the calls. The last
fields record which calls have called a callback, have thrown, at once or when their
worker had run, and have ended without either. -/
structure RequestState extends WorkerPool RequestWorker RequestRun where
  isConnected : Bool := false
  connected : Bool := false
  calls : List RequestCall := []
  answers : List (Nat × Nat × RequestAnswer) := []
  thrown : List (Nat × Thrown) := []
  silent : List Nat := []

inductive RequestAction
  | connection (isConnected connected : Bool)
  | call (call : RequestCall) (assignments : Except Thrown JsValue)
  | execute (index : Nat) (answer : LibrdkafkaAnswer)
  | complete (index : Nat)

namespace RequestState
variable (lib : RequestLibrary)

def call (s : RequestState) (call : RequestCall) (assignments : Except Thrown JsValue) : RequestState :=
  let id := s.calls.length
  let s := { s with calls := s.calls ++ [call] }
  match call.outcome lib s.isConnected assignments with
  | .disconnected cb => { s with answers := s.answers ++ [(id, cb, .disconnected)] }
  | .silent => { s with silent := s.silent ++ [id] }
  | .throws e => { s with thrown := s.thrown ++ [(id, e)] }
  | .queued request cb => { s with toWorkerPool := s.toWorkerPool.queue { id, request, cb } }

/-- The callback of the library is called, and calls the one of the user. -/
def settle (s : RequestState) (run : RequestRun) : RequestState :=
  match run.worker.cb with
  | .function cb => { s with answers := s.answers ++ [(run.worker.id, cb, run.result lib)] }
  | cb =>
    if run.worker.request.asks ∧ cb.truthy = false then { s with silent := s.silent ++ [run.worker.id] }
    else { s with thrown := s.thrown ++ [(run.worker.id, notAFunction "cb")] }

/-- The client connects and disconnects at any time. -/
def step (s : RequestState) : RequestAction → Option RequestState
  | .connection isConnected connected => some { s with isConnected, connected }
  | .call call assignments => some (s.call lib call assignments)
  | .execute index answer =>
    (s.toWorkerPool.take index).map fun (worker, pool) =>
      { s with toWorkerPool := pool.finish { worker, connected := s.connected, answer } }
  | .complete index =>
    (s.toWorkerPool.complete index).map fun (run, pool) =>
      ({ s with toWorkerPool := pool } : RequestState).settle lib run

end RequestState
end NodeRdkafka

import NodeRdkafka.Lib.Ledger
import NodeRdkafka.Lib.WorkerPool
import NodeRdkafka.NativeConnect
import NodeRdkafka.PollForEvent
import NodeRdkafka.Rebalance

namespace NodeRdkafka
open Ledger

inductive AdminOperation
  | createTopic
  | deleteTopic
  | createPartitions
  deriving DecidableEq

/-- A rd_kafka_NewTopic_t, rd_kafka_DeleteTopic_t or rd_kafka_NewPartitions_t. -/
inductive AdminRequest
  | newTopic (topic : String) (numPartitions replicationFactor : Int32) (config : List (String × String))
  | deleteTopic (topic : String)
  | newPartitions (topic : String) (totalCount : Int32)
  deriving DecidableEq

def AdminRequest.operation : AdminRequest → AdminOperation
  | newTopic .. => .createTopic
  | deleteTopic _ => .deleteTopic
  | newPartitions .. => .createPartitions

/-- The part of librdkafka that an AdminClient uses beside the one that makes handles:
what makes requests or refuses to, the event types, and the texts of error codes. -/
structure AdminLibrary where
  newTopic : String → Int32 → Int32 → Except String Unit
  setConfig : String → String → ErrorCode
  newPartitions : String → Int32 → Except String Unit
  eventType : AdminOperation → Int
  logAttempts : Nat → Int
  err2str : ErrorCode → String
  toLowerCase : String → String
  toText : JsValue → String

/-- What librdkafka answers to an operation: the types of the events that its queue
returns, one for each poll, the error of the event that was waited for, and the errors of
the topics in it with their texts, if any. -/
structure AdminResponse where
  answers : Nat → Option Int
  error : ErrorCode
  topics : List (ErrorCode × Option String)

/-- The objects of librdkafka that an AdminClient makes. An operation has the name of
its request, and its objects are made on a handle. -/
inductive AdminObject
  | handle (client : Nat)
  | rkqu (client : Nat)
  | request (id : Nat)
  | options (client id : Nat)
  | queue (client id : Nat)
  | event (client id poll : Nat)
  deriving DecidableEq

/-- What must outlive an object. -/
def AdminObject.owner : AdminObject → Option AdminObject
  | handle _ | request _ => none
  | rkqu client | options client _ | queue client _ | event client _ _ => some (.handle client)

namespace Conversion.Admin
variable (lib : AdminLibrary) (id : Nat)

/-- The loop over the keys of the configuration. A value that is no string, or that is
refused, destroys the topic. -/
def setConfigs : List (String × JsValue) → Except String (List (String × String)) × List (Effect AdminObject)
  | [] => (.ok [], [])
  | (key, .string value) :: rest =>
    let err := lib.setConfig (cString key) (cString value)
    if err ≠ ErrorCode.errNoError then
      (.error (lib.err2str err), [.use (.request id), .destroy (.request id)])
    else
      let (config, effects) := setConfigs rest
      (config.map ((cString key, cString value) :: ·), .use (.request id) :: effects)
  | _ :: _ => (.error "Config values must all be provided as strings.", [.destroy (.request id)])

/-- The topic, or why there is none, and what became of librdkafka's objects. -/
def fromV8TopicObject (object : JsValue) : Except String AdminRequest × List (Effect AdminObject) :=
  let topic := getString lib.toText object "topic" ""
  let numPartitions := getInt object "num_partitions" 0
  let replicationFactor := getInt object "replication_factor" 0
  match lib.newTopic topic numPartitions replicationFactor with
  | .error errbuf => (.error errbuf, [])
  | .ok () =>
    let fields :=
      match object.get? "config" with
      | some (.object fields) => fields
      | _ => []
    let (config, effects) := setConfigs lib id fields
    (config.map (.newTopic topic numPartitions replicationFactor), .create (.request id) :: effects)

end Conversion.Admin

namespace PollForEvent
variable (client id : Nat) (eventType : Int) (answers : Nat → Option Int)

/-- One turn of the loop: the event in hand is destroyed and the queue is polled. -/
def attemptEffects (s : PollForEvent) : List (Effect AdminObject) :=
  s.eventResponse.toList.map (fun event => .destroy (.event client id event.poll)) ++
    .use (.queue client id) ::
      (s.attempt answers).eventResponse.toList.map fun event => .create (.event client id event.poll)

def loopEffects : Nat → PollForEvent → List (Effect AdminObject)
  | 0, s => s.attemptEffects client id answers
  | more + 1, s =>
    s.attemptEffects client id answers ++
      if (s.attempt answers).continues eventType then loopEffects more (s.attempt answers) else []

/-- An event of another type is destroyed after the loop. -/
def finishEffects (s : PollForEvent) : List (Effect AdminObject) :=
  if (s.finish eventType).1 = none then
    s.eventResponse.toList.map fun event => .destroy (.event client id event.poll)
  else []

def effects (logAttempts : Nat → Int) (timeoutMs : Int32) : List (Effect AdminObject) :=
  let s := start logAttempts timeoutMs
  s.loopEffects client id eventType answers (s.attempts - 1).toNat ++
    (polls logAttempts eventType answers timeoutMs).finishEffects client id eventType

end PollForEvent

/-- The first topic with an error decides. DeleteTopic does not read the texts. -/
def AdminOperation.topicsResult (operation : AdminOperation) : List (ErrorCode × Option String) → Baton Unit
  | [] => .ofCode ErrorCode.errNoError
  | (errcode, errmsg) :: rest =>
    if errcode ≠ ErrorCode.errNoError then
      match errmsg with
      | some errormsg => if operation = .deleteTopic then .ofCode errcode else .ofErrstr errcode (cString errormsg)
      | none => .ofCode errcode
    else operation.topicsResult rest

/-- An operation that waits for its worker. Its callback is none if the user gave none. -/
structure AdminWorker where
  id : Nat
  request : AdminRequest
  timeoutMs : Int32
  cb : Option Nat
  deriving DecidableEq

/-- What AdminClient::CreateTopic, DeleteTopic and CreatePartitions do past their
checks, all three alike. -/
def AdminWorker.perform (lib : AdminLibrary) (w : AdminWorker) (client : Nat) (response : AdminResponse) :
    Baton Unit × List (Effect AdminObject) :=
  let eventType := lib.eventType w.request.operation
  let eventResponse := (pollForEvent lib.logAttempts eventType response.answers w.timeoutMs).1
  let polling :=
    [.create (.options client w.id), .create (.queue client w.id), .use (.handle client), .use (.request w.id),
      .use (.options client w.id), .use (.queue client w.id)] ++
    PollForEvent.effects client w.id eventType response.answers lib.logAttempts w.timeoutMs ++
    [.destroy (.queue client w.id), .destroy (.options client w.id)]
  match eventResponse with
  | none => (.ofCode ErrorCode.errTimedOut, polling)
  | some event =>
    let effects := polling ++ [.use (.event client w.id event.poll), .destroy (.event client w.id event.poll)]
    if response.error ≠ ErrorCode.errNoError then (.ofCode response.error, effects)
    else (w.request.operation.topicsResult response.topics, effects)

/-- A worker that has run, with what librdkafka answered, if there was a handle. -/
structure AdminRun where
  worker : AdminWorker
  response : Option AdminResponse
  baton : Baton Unit

/-- An AdminClient with its workers. `native` has its handles by their names, `handles`
counts them and `requests` the requests. The last fields record the requests that reached
librdkafka, the calls of the callbacks, and what became of librdkafka's objects; `lost`
has the handles that another one has replaced. -/
structure AdminState extends WorkerPool AdminWorker AdminRun where
  isConnected : Bool := false
  native : AdminClient Nat := {}
  handles : Nat := 0
  requests : Nat := 0
  submitted : List AdminWorker := []
  callbacks : List (Nat × Option LibrdKafkaError) := []
  effects : List (Effect AdminObject) := []
  lost : List Nat := []

/-- The calls of JavaScript with the arguments as they are given. -/
inductive AdminCall
  | createTopic (topic timeout cb : JsValue)
  | deleteTopic (topic timeout cb : JsValue)
  | createPartitions (topic totalPartitions timeout cb : JsValue)

/-- A connect is taken with what RdKafka::Producer::create returns, whether it makes a
handle and its error text. -/
inductive AdminAction
  | connect (creates : Bool) (errstr : String)
  | disconnect
  | setToken (token : OauthBearerToken)
  | call (call : AdminCall)
  | execute (index : Nat) (response : AdminResponse)
  | complete (index : Nat)

/-- The function that a callback argument is, if it is one. -/
def JsValue.callback : JsValue → Option Nat
  | function identity => some identity
  | _ => none

/-- `timeout` and `cb` as the library passes them on, where the timeout may be left out. -/
def timeoutArguments (fallback : JsValue) (timeout cb : JsValue) : JsValue × JsValue :=
  let (timeout, cb) :=
    match timeout with
    | .function _ => (fallback, timeout)
    | _ => (timeout, cb)
  (if timeout.truthy then timeout else fallback, cb)

def adminArguments : JsValue → JsValue → JsValue × JsValue := timeoutArguments (nanNumber 5000)

/-- NodeCreateTopic, NodeDeleteTopic and NodeCreatePartitions up to their worker, by the
name of the request: what they throw, or the request with its timeout and callback. -/
def AdminCall.node (lib : AdminLibrary) (id : Nat) :
    AdminCall → Except String AdminWorker × List (Effect AdminObject)
  | createTopic topic timeout cb =>
    match adminArguments timeout cb with
    | (.number timeout, cb) =>
      let (request, effects) := Conversion.Admin.fromV8TopicObject lib id topic
      (request.map fun request => { id, request, timeoutMs := timeout.toInt32, cb := cb.callback }, effects)
    | _ => (.error "Must provide 'timeout'", [])
  | deleteTopic topic timeout cb =>
    match topic, adminArguments timeout cb with
    | .string topic, (.number timeout, cb) =>
      (.ok { id, request := .deleteTopic (cString topic), timeoutMs := timeout.toInt32, cb := cb.callback },
        [.create (.request id)])
    | _, _ => (.error "Must provide 'timeout', and 'topicName'", [])
  | createPartitions topic totalPartitions timeout cb =>
    match topic, totalPartitions, adminArguments timeout cb with
    | .string topic, .number totalPartitions, (.number timeout, cb) =>
      match lib.newPartitions (cString topic) totalPartitions.toInt32 with
      | .error errbuf => (.error errbuf, [])
      | .ok () =>
        (.ok { id, request := .newPartitions (cString topic) totalPartitions.toInt32,
               timeoutMs := timeout.toInt32, cb := cb.callback }, [.create (.request id)])
    | _, _, _ => (.error "Must provide 'totalPartitions', 'timeout', and 'topicName'", [])

namespace AdminState
variable (connecting : Librdkafka Nat) (lib : AdminLibrary)

/-- AdminClient.prototype.connect on AdminClient::Connect. Nothing checks whether there
is a handle. -/
def connect (s : AdminState) (creates : Bool) (errstr : String) : AdminState :=
  let created := if creates then some s.handles else none
  let (native, baton) := s.native.connect connecting (created, errstr)
  let token := if s.native.connection.mInitOauthToken.isSome ∧ native.connection.mInitOauthToken = none then
    [.use (.handle s.handles)] else []
  let queue := if s.native.rkqu = none then native.rkqu.toList.map fun client => .create (.rkqu client) else []
  { s with
    isConnected := if baton.err = ErrorCode.errNoError then true else s.isConnected
    native
    handles := s.handles + 1
    lost := s.lost ++ s.native.connection.mClient.toList
    effects := s.effects ++ (if creates then [.create (.handle s.handles)] else []) ++ token ++ queue }

/-- AdminClient.prototype.disconnect on AdminClient::Disconnect. -/
def disconnect (s : AdminState) : AdminState :=
  if s.native.connection.isConnected then
    { s with
      isConnected := false
      native := { s.native with connection := { s.native.connection with mClient := none }, rkqu := none }
      effects := s.effects ++ s.native.rkqu.toList.map (fun client => .destroy (.rkqu client)) ++
        s.native.connection.mClient.toList.map fun client => .destroy (.handle client) }
  else { s with isConnected := false }

/-- NodeSetToken. Without a handle the token is kept for the next one. -/
def setToken (s : AdminState) (token : OauthBearerToken) : AdminState :=
  match s.native.connection.mClient with
  | none =>
    { s with native := { s.native with connection := { s.native.connection with mInitOauthToken := some token } } }
  | some client => { s with effects := s.effects ++ [.use (.handle client)] }

/-- A call throws or queues a worker. -/
def call (s : AdminState) (call : AdminCall) : AdminState :=
  if s.isConnected then
    let (worker, effects) := call.node lib s.requests
    { s with
      toWorkerPool :=
        match worker with
        | .ok worker => s.toWorkerPool.queue worker
        | .error _ => s.toWorkerPool
      requests := s.requests + 1
      effects := s.effects ++ effects }
  else s

/-- A worker runs on a thread of the pool. It holds the lock all the while. -/
def execute (s : AdminState) (index : Nat) (response : AdminResponse) : Option AdminState :=
  match s.toWorkerPool.take index with
  | none => none
  | some (w, pool) =>
    match s.native.connection.isConnected, s.native.connection.mClient with
    | true, some client =>
      let (baton, effects) := w.perform lib client response
      some { s with toWorkerPool := pool.finish { worker := w, response := some response, baton },
                    submitted := s.submitted ++ [w], effects := s.effects ++ effects }
    | _, _ =>
      some { s with
        toWorkerPool := pool.finish { worker := w, response := none, baton := .ofCode ErrorCode.errState } }

/-- What the callback that the library passes to native code makes of a result. -/
def answer (b : Baton Unit) : Option LibrdKafkaError :=
  if b.err ≠ ErrorCode.errNoError then
    some (.create lib.err2str lib.toLowerCase (.object (b.toObject lib.err2str)))
  else none

/-- WorkComplete, and the destructor of the worker. -/
def complete (s : AdminState) (index : Nat) : Option AdminState :=
  match s.toWorkerPool.complete index with
  | none => none
  | some (run, pool) =>
    some { s with
      toWorkerPool := pool
      callbacks := s.callbacks ++ run.worker.cb.toList.map fun cb => (cb, answer lib run.baton)
      effects := s.effects ++ [.destroy (.request run.worker.id)] }

def step (s : AdminState) : AdminAction → Option AdminState
  | .connect creates errstr => some (s.connect connecting creates errstr)
  | .disconnect => some s.disconnect
  | .setToken token => some (s.setToken token)
  | .call call => some (s.call lib call)
  | .execute index response => s.execute lib index response
  | .complete index => s.complete lib index

end AdminState
end NodeRdkafka

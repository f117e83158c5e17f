import NodeRdkafka.Lib.Utf8
import NodeRdkafka.Message

namespace NodeRdkafka

namespace Topic

def partitionUa : Int32 := -1

end Topic

/-- What is done to a persistent handle, handles by id. -/
inductive HandleEvent
  | allocate (handle : Nat)
  | read (handle : Nat)
  | release (handle : Nat)
  deriving DecidableEq

/-- What node::Buffer says of data pointers, none for NULL: of a Buffer with
the given bytes, and of a new Buffer around an allocated char[0]. -/
structure BufferApi where
  data : List UInt8 → Option (List UInt8)
  newData : Option (List UInt8)

/-- Only an empty Buffer may have no data, and a Buffer around memory of its
own has that memory. -/
structure BufferApi.Documented (api : BufferApi) : Prop where
  data : ∀ bytes, api.data bytes = some bytes ∨ bytes = [] ∧ api.data bytes = none
  newData : api.newData = some []

/-- What NodeProduce reads from its arguments after the topic. -/
structure NodeProduceArguments where
  partition : Int32
  payload : Option (List UInt8)
  key : Option (List UInt8)
  timestamp : Int64
  msgOpaque : Option Nat
  headers : List Header
  deriving DecidableEq

/-- The arguments of RdKafka::Producer::produce. -/
structure ProduceRequest extends NodeProduceArguments where
  topicName : String
  deriving DecidableEq

/-- What a call of produce finds: the conversions of JavaScript for values that
are neither of the wanted type nor Buffers, the topic name of a wrapped Topic,
and the answers of librdkafka. -/
structure ProduceContext where
  toText : JsValue → String
  toNumber : JsValue → Number
  buffers : BufferApi
  unwrapTopic : JsValue → String
  isConnected : Bool
  createTopic : String → String
  librdkafka : ProduceRequest → ErrorCode

/-- The outcome of a call that returns: its code, what it handed to librdkafka
and what it did to its handle. -/
structure NodeProduced where
  errorCode : ErrorCode
  handed : Option ProduceRequest := none
  handleEvents : List HandleEvent := []

/-- The handle that the call has made, if any. -/
def NodeProduced.allocated (produced : NodeProduced) : List Nat :=
  produced.handleEvents.filterMap fun
    | .allocate handle => some handle
    | _ => none

namespace ProduceContext
variable (c : ProduceContext)

/-- Nan::To<v8::String>. Buffers are converted as UTF-8. -/
def toV8String : JsValue → String
  | .string text => text
  | .buffer bytes => Utf8.decode bytes
  | value => c.toText value

/-- The bytes of a std::string made from the characters of a Nan::Utf8String. -/
def stdString (text : String) : List UInt8 := (Utf8.encode text).takeWhile (· ≠ 0)

def int32 : JsValue → Int32
  | .number value => value.toInt32
  | value => (c.toNumber value).toInt32

def partitionOf (value : JsValue) : Int32 :=
  let partition := if value.isNull || value.isUndefined then Topic.partitionUa else c.int32 value
  if partition < 0 then Topic.partitionUa else partition

/-- Data and Length of a Buffer, or of a new empty one where Data is NULL. -/
def bufferData (bytes : List UInt8) : Option (List UInt8) :=
  match c.buffers.data bytes with
  | some data => some data
  | none => c.buffers.newData

def messageData : JsValue → Except String (Option (List UInt8))
  | .null => .ok none
  | .buffer bytes => .ok (c.bufferData bytes)
  | _ => .error "Message must be a buffer or null"

def keyData : JsValue → Option (List UInt8)
  | .null | .undefined => none
  | .buffer bytes => c.bufferData bytes
  | value => some (stdString (c.toV8String value))

def timestampOf : JsValue → Except String Int64
  | .undefined | .null => .ok 0
  | .number value => .ok value.toInt64
  | _ => .error "Timestamp must be a number"

/-- The body of the loop over the headers. Only the first own property counts. -/
def headerOf (header : JsValue) : Header :=
  let v8Key := header.ownNames.headD "undefined"
  { key := cString v8Key, value := stdString (c.toV8String (header.get v8Key)) }

/-- The cast to an array is unchecked; what is none has no elements here. -/
def headersOf : JsValue → List Header
  | .array elements => elements.map c.headerOf
  | _ => []

/-- Producer::Produce, both overloads: the code, and the request if it reached librdkafka. -/
def produce (request : ProduceRequest) : ErrorCode × Option ProduceRequest :=
  if c.isConnected then (c.librdkafka request, some request) else (ErrorCode.errState, none)

/-- Topic::toRDKafkaTopic. -/
def toRDKafkaTopic (topicName : String) : Except ErrorCode String :=
  if c.isConnected then
    if (c.createTopic topicName).isEmpty then .ok topicName else .error ErrorCode.errTopicException
  else .error ErrorCode.errState

def argument (info : List JsValue) (index : Nat) : JsValue := info.getD index .undefined

/-- The first part of Producer::NodeProduce, with the id that a new handle
would get. Each exception is thrown before the handle is allocated. -/
def argumentsOf (info : List JsValue) (handle : Nat) : Except String NodeProduceArguments :=
  if info.length < 3 then .error "Need to specify a topic, partition, and message"
  else do
    let partition := c.partitionOf (argument info 1)
    let payload ← c.messageData (argument info 2)
    let key := c.keyData (argument info 3)
    let timestamp ← timestampOf (argument info 4)
    let msgOpaque := if (argument info 5).isUndefined then none else some handle
    return { partition, payload, key, timestamp, msgOpaque, headers := c.headersOf (argument info 6) }

/-- What an answer of librdkafka leaves to do: a message that was refused never
gets a report, so its handle is released here. -/
def answered (arguments : NodeProduceArguments) (answer : ErrorCode × Option ProduceRequest) : NodeProduced :=
  let allocated := arguments.msgOpaque.toList.map HandleEvent.allocate
  let released := if answer.1 = ErrorCode.errNoError then [] else arguments.msgOpaque.toList.map .release
  { errorCode := answer.1, handed := answer.2, handleEvents := allocated ++ released }

/-- The second part. The overload for topic objects takes no timestamp and no
headers, and when the topic cannot be made the handle is left behind. -/
def send (arguments : NodeProduceArguments) : JsValue → NodeProduced
  | .string topic => answered arguments (c.produce { arguments with topicName := cString topic })
  | topic =>
    match c.toRDKafkaTopic (c.unwrapTopic topic) with
    | .error errorCode => { errorCode, handleEvents := arguments.msgOpaque.toList.map .allocate }
    | .ok topicName =>
      answered arguments (c.produce { arguments with topicName, timestamp := 0, headers := [] })

def nodeProduce (info : List JsValue) (handle : Nat) : Except String NodeProduced :=
  (c.argumentsOf info handle).map fun arguments => c.send arguments (argument info 0)

end ProduceContext
end NodeRdkafka

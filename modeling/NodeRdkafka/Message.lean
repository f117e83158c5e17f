import NodeRdkafka.ErrorCode
import NodeRdkafka.JsValue

namespace NodeRdkafka

structure Header where
  key : String
  value : List UInt8
  deriving DecidableEq

/-- An RdKafka::Message. A null payload or key pointer is none; the opaque
is the id of the persistent handle given to produce. -/
structure Message where
  err : ErrorCode
  errstr : String := ""
  topicName : String
  partition : Int32
  offset : Int64
  payload : Option (List UInt8) := none
  keyPointer : Option (List UInt8) := none
  headers : Option (List Header) := none
  timestampAvailable : Bool := true
  timestamp : Int64 := 0
  msgOpaque : Option Nat := none
  deriving DecidableEq

namespace Message

def len (message : Message) : Nat := (message.payload.getD []).length

def keyLen (message : Message) : Nat := (message.keyPointer.getD []).length

end Message

/-- Nan::New<v8::Number> of a machine integer. -/
def nanNumber (x : Int) : JsValue := .number (Number.ofInt x)

def bufferOrNull : Option (List UInt8) → JsValue
  | some bytes => .buffer bytes
  | none => .null

namespace Conversion.Message

variable (err2str : ErrorCode → String)

/-- Nan::Set of the only property of a new object. The name of the prototype
accessor sets the prototype and no property. -/
def setOnly (key : String) (value : JsValue) : JsValue :=
  .object (if key = "__proto__" then [] else [(key, value)])

def headerToV8Object (header : Header) : JsValue := setOnly header.key (.buffer header.value)

def toV8ObjectWith (message : NodeRdkafka.Message) (includePayload includeHeaders : Bool) : JsValue :=
  if message.err = ErrorCode.errNoError then
    let value := if includePayload then bufferOrNull message.payload else .undefined
    let headers :=
      match message.headers, includeHeaders with
      | some all, true => [("headers", JsValue.array (all.map headerToV8Object))]
      | _, _ => []
    .object ([("value", value)] ++ headers ++
      [("size", nanNumber message.len), ("key", bufferOrNull message.keyPointer),
       ("topic", .string message.topicName), ("offset", nanNumber message.offset.toInt),
       ("partition", nanNumber message.partition.toInt),
       ("timestamp", nanNumber message.timestamp.toInt)])
  else
    .object [("message", .string (err2str message.err)), ("code", nanNumber message.err)]

/-- The overload for all uses except delivery reports. -/
def toV8Object (message : NodeRdkafka.Message) : JsValue := toV8ObjectWith err2str message true true

end Conversion.Message
end NodeRdkafka

import NodeRdkafka.Errors
import NodeRdkafka.Message

namespace NodeRdkafka

/-- The copy of a delivered message that waits for the main thread. The
error members are set only for an error; the opaque is a handle id. -/
structure DeliveryReport where
  includePayload : Bool
  isError : Bool
  errorString : String
  errorCode : Option ErrorCode
  topicName : String
  partition : Int32
  offset : Int64
  timestamp : Int64
  opaqueHandle : Option Nat
  key : Option (List UInt8)
  len : Nat
  payload : Option (List UInt8)
  deriving DecidableEq

namespace DeliveryReport

/-- The constructor from an RdKafka::Message. -/
def ofMessage (message : Message) (includePayload : Bool) : DeliveryReport :=
  { includePayload := includePayload
    isError := message.err ≠ ErrorCode.errNoError
    errorString := if message.err = ErrorCode.errNoError then "" else message.errstr
    errorCode := if message.err = ErrorCode.errNoError then none else some message.err
    topicName := message.topicName
    partition := message.partition
    offset := message.offset
    timestamp := if message.timestampAvailable then message.timestamp else -1
    opaqueHandle := message.msgOpaque
    key := message.keyPointer
    len := message.len
    payload := if includePayload then message.payload else none }

/-- The first argument of the delivery callback: null or an Error instance. -/
def errorArgument (report : DeliveryReport) : Option JsError :=
  if report.isError then some (nanError report.errorString) else none

/-- The second argument of the delivery callback. -/
def toV8Object (handles : Nat → JsValue) (report : DeliveryReport) : JsValue :=
  let opaqueField :=
    match report.opaqueHandle with
    | some handle => [("opaque", handles handle)]
    | none => []
  let timestampField :=
    if -1 < report.timestamp then [("timestamp", nanNumber report.timestamp.toInt)] else []
  let valueField := if report.includePayload then [("value", bufferOrNull report.payload)] else []
  .object ([("topic", .string report.topicName), ("partition", nanNumber report.partition.toInt),
      ("offset", nanNumber report.offset.toInt), ("key", bufferOrNull report.key)] ++
    opaqueField ++ timestampField ++ valueField ++ [("size", nanNumber report.len)])

end DeliveryReport
end NodeRdkafka

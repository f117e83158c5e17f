import NodeRdkafka.Lib.Reach
import NodeRdkafka.LibrdKafkaError
import NodeRdkafka.Message

namespace NodeRdkafka
open Transition

/-- What one call of Consume meets: no connected client under either of the
two checks, or whatever RdKafka::KafkaConsumer::consume returned. -/
inductive ConsumeAnswer
  | disconnected
  | message (message : Message)
  deriving DecidableEq

def KafkaConsumer.consume : ConsumeAnswer → Baton Message
  | .disconnected => .ofErrstr ErrorCode.errState "KafkaConsumer is not connected"
  | .message message =>
    let responseCode := message.err
    if responseCode ≠ ErrorCode.errNoError ∧ responseCode ≠ ErrorCode.errPartitionEof ∧
        responseCode ≠ ErrorCode.errTimedOut ∧ responseCode ≠ ErrorCode.errTimedOutQueue then
      .ofCode responseCode
    else .ofData message

/-- The members of a KafkaConsumerConsumeNum worker with the locals of its
Execute. `errorBaton` is set exactly when the worker holds an error text. -/
structure ConsumeNum where
  numMessages : UInt32
  mMessages : List Message := []
  eofEventCount : Nat := 0
  looping : Bool := true
  timeoutMs : Int
  errorBaton : Option (Baton Message) := none

namespace ConsumeNum

def create (numMessages : UInt32) (timeoutMs : Int) : ConsumeNum := { numMessages, timeoutMs }

/-- The loop condition of Execute. -/
def running (w : ConsumeNum) : Bool :=
  w.mMessages.length - w.eofEventCount < w.numMessages.toNat && w.looping

/-- SetErrorBaton, guarded as at both of its call sites. -/
def fail (w : ConsumeNum) (b : Baton Message) : ConsumeNum :=
  { w with errorBaton := if w.mMessages.length = w.eofEventCount then some b else w.errorBaton,
           looping := false }

def receive (w : ConsumeNum) (message : Message) : ConsumeNum :=
  if message.err = ErrorCode.errPartitionEof then
    -- messages that are ready are still collected, new ones are not waited for
    { w with timeoutMs := if w.eofEventCount < w.mMessages.length then 1 else w.timeoutMs,
             mMessages := w.mMessages ++ [message], eofEventCount := w.eofEventCount + 1 }
  else if message.err = ErrorCode.errTimedOut ∨ message.err = ErrorCode.errTimedOutQueue then
    { w with looping := false }
  else if message.err = ErrorCode.errNoError then
    { w with mMessages := w.mMessages ++ [message] }
  else w.fail (.ofCode message.err)

/-- The body of the loop of Execute, on the baton that Consume returned. -/
def loopBody (w : ConsumeNum) (b : Baton Message) : ConsumeNum :=
  if b.err = ErrorCode.errNoError then
    match b.mData with
    | some message => w.receive message
    | none => w
  else w.fail b

/-- One turn of the loop of Execute. No turn is taken once it has ended. -/
def execute (w : ConsumeNum) (answer : ConsumeAnswer) : Option ConsumeNum :=
  if w.running then some (w.loopBody (KafkaConsumer.consume answer)) else none

end ConsumeNum

structure EofEvent where
  topic : String
  offset : Number
  partition : Number
  deriving DecidableEq

def eofEvent (message : Message) : EofEvent :=
  { topic := message.topicName, offset := Number.ofInt message.offset.toInt,
    partition := Number.ofInt message.partition.toInt }

/-- An EOF event as it crosses to JavaScript, with the index of the last
message collected before it. -/
structure IndexedEofEvent where
  event : EofEvent
  messageIndex : Int
  deriving DecidableEq

/-- What the worker passes to the native callback. -/
inductive ConsumeCall
  | error (err : ErrorObject)
  | ok (messages : List JsValue) (eofEvents : List IndexedEofEvent)

inductive ConsumerEvent
  | data (message : JsValue)
  | partitionEof (event : EofEvent)

/-- The call of the user callback and the events emitted before it. -/
structure ConsumeOutcome where
  events : List ConsumerEvent
  callback : Except LibrdKafkaError (List JsValue)

section
variable (err2str : ErrorCode → String)

/-- The loop of HandleOKCallback over the messages still to be placed. The
index is an int and an unbounded one here: the objects that it counts are alive
in one array, and 2^31 of them do not fit into the heap of v8. -/
def splitMessages (returnArrayIndex : Int) : List Message → List JsValue × List IndexedEofEvent
  | [] => ([], [])
  | message :: rest =>
    if message.err = ErrorCode.errNoError then
      let (messages, eofEvents) := splitMessages (returnArrayIndex + 1) rest
      (Conversion.Message.toV8Object err2str message :: messages, eofEvents)
    else if message.err = ErrorCode.errPartitionEof then
      let (messages, eofEvents) := splitMessages returnArrayIndex rest
      (messages, ⟨eofEvent message, returnArrayIndex⟩ :: eofEvents)
    else splitMessages returnArrayIndex rest

namespace ConsumeNum

def handleOKCallback (w : ConsumeNum) : ConsumeCall :=
  let (returnArray, eofEventsArray) := splitMessages err2str (-1) w.mMessages
  .ok returnArray eofEventsArray

def handleErrorCallback (b : Baton Message) : ConsumeCall := .error (b.toObject err2str)

/-- Nan::AsyncWorker::WorkComplete: an error text selects the callback. -/
def workComplete (w : ConsumeNum) : ConsumeCall :=
  match w.errorBaton with
  | some b => handleErrorCallback err2str b
  | none => w.handleOKCallback err2str

end ConsumeNum
end

/-- The while loop of emitEofEventsFor: the events emitted and the EOF events
from the cursor on. -/
def emitEofEventsFor (messageIndex : Int) :
    List IndexedEofEvent → List ConsumerEvent × List IndexedEofEvent
  | [] => ([], [])
  | eof :: rest =>
    if eof.messageIndex = messageIndex then
      let (emitted, remaining) := emitEofEventsFor messageIndex rest
      (.partitionEof eof.event :: emitted, remaining)
    else ([], eof :: rest)

/-- The for loop of the native callback, from message `i` on. -/
def emitMessages (i : Int) : List JsValue → List IndexedEofEvent →
    List ConsumerEvent × List IndexedEofEvent
  | [], eofEvents => ([], eofEvents)
  | message :: rest, eofEvents =>
    let (eofs, remaining) := emitEofEventsFor i eofEvents
    let (later, last) := emitMessages (i + 1) rest remaining
    (.data message :: eofs ++ later, last)

/-- KafkaConsumer.prototype._consumeNum, from the call of its native callback. -/
def consumeNum (err2str : ErrorCode → String) (toLowerCase : String → String) :
    ConsumeCall → ConsumeOutcome
  | .error err => { events := [], callback := .error (.create err2str toLowerCase (.object err)) }
  | .ok messages eofEvents =>
    let (first, afterFirst) := emitEofEventsFor (-1) eofEvents
    let (middle, afterMiddle) := emitMessages 0 messages afterFirst
    let (last, _) := emitEofEventsFor messages.length afterMiddle
    { events := first ++ middle ++ last, callback := .ok messages }

end NodeRdkafka

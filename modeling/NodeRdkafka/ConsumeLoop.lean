import NodeRdkafka.ConsumeNum
import NodeRdkafka.ErrorChannels

namespace NodeRdkafka
open Transition

/-- Where the loop thread stands: at the loop condition, in Consume, or past
the end of ConsumeLoop. -/
inductive LoopThread
  | checking
  | consuming
  | exited
  deriving DecidableEq

/-- Where the main thread stands in WorkMessage. -/
inductive WorkMessage
  | idle
  | entered
  | delivering (messages : List Message) (warnings : List ErrorCode)
  deriving DecidableEq

/-- How far NodeDisconnect has taken the worker: `joining` is the main thread
blocked in Close, `closed` is past uv_close and `destroyed` past AsyncClose_. -/
inductive LoopClose
  | opened
  | joining
  | completed
  | closed
  | destroyed
  deriving DecidableEq

/-- What the native code passes to the read callback. -/
inductive ReadCall
  | error (err : JsError)
  | message (message : JsValue)
  | eof (event : EofEvent)
  | warning (code : ErrorCode)

/-- A KafkaConsumerConsumeLoop worker. `callback` tells whether its callback
still exists, `crashed` whether a null callback has been called. The last
fields record what was sent and delivered, and the calls of the callback. -/
structure ConsumeLoop where
  thread : LoopThread := .checking
  looping : Bool := true
  errorBaton : Option (Baton Message) := none
  asyncData : List Message := []
  asyncWarning : List ErrorCode := []
  wakeup : Bool := false
  work : WorkMessage := .idle
  callback : Bool := true
  close : LoopClose := .opened
  crashed : Bool := false
  sent : List Message := []
  warned : List ErrorCode := []
  delivered : List Message := []
  deliveredWarnings : List ErrorCode := []
  calls : List ReadCall := []

inductive LoopAction
  | check (connected : Bool)
  | consume (answer : ConsumeAnswer)
  | asyncMessage
  | swap
  | deliver
  | finish
  | close
  | workComplete
  | destroy
  | asyncClose

namespace ConsumeLoop

/-- The worker as its constructor leaves it, with the thread started. -/
def created : ConsumeLoop := {}

/-- ExecutionMessageBus::Send. The lock covers the push and the signal. -/
def send (s : ConsumeLoop) (m : Message) : ConsumeLoop :=
  { s with asyncData := s.asyncData ++ [m], sent := s.sent ++ [m], wakeup := true }

def sendWarning (s : ConsumeLoop) (c : ErrorCode) : ConsumeLoop :=
  { s with asyncWarning := s.asyncWarning ++ [c], warned := s.warned ++ [c], wakeup := true }

def fail (s : ConsumeLoop) (b : Baton Message) : ConsumeLoop :=
  { s with errorBaton := some b, looping := false }

/-- The switch of ConsumeLoop. A timeout is slept over. -/
def receive (s : ConsumeLoop) (b : Baton Message) (message : Message) : ConsumeLoop :=
  if message.err = ErrorCode.errPartitionEof then s.send message
  else if message.err = ErrorCode.errTimedOut ∨ message.err = ErrorCode.errTimedOutQueue then s
  else if message.err = ErrorCode.errNoError then s.send message
  else s.fail b

/-- The body of the loop of ConsumeLoop, on the baton that Consume returned. -/
def loopBody (s : ConsumeLoop) (b : Baton Message) : ConsumeLoop :=
  if b.err = ErrorCode.errNoError then
    match b.mData with
    | some message => s.receive b message
    | none => s
  else if b.err = ErrorCode.errUnknownTopicOrPart ∨ b.err = ErrorCode.errTopicAuthorizationFailed then
    s.sendWarning b.err
  else s.fail b

section
variable (err2str : ErrorCode → String)

def handleMessageCallback : Option Message → ErrorCode → ReadCall
  | none, ec => .warning ec
  | some msg, _ =>
    if msg.err = ErrorCode.errPartitionEof then .eof (eofEvent msg)
    else .message (Conversion.Message.toV8Object err2str msg)

/-- One turn of the two loops of WorkMessage. The callback may be gone. -/
def deliver (s : ConsumeLoop) : Option ConsumeLoop :=
  match s.work with
  | .delivering (message :: messages) warnings =>
    if s.callback then
      some { s with work := .delivering messages warnings, delivered := s.delivered ++ [message],
                    calls := s.calls ++ [handleMessageCallback err2str (some message) ErrorCode.errNoError] }
    else some { s with crashed := true }
  | .delivering [] (warning :: warnings) =>
    if s.callback then
      some { s with work := .delivering [] warnings,
                    deliveredWarnings := s.deliveredWarnings ++ [warning],
                    calls := s.calls ++ [handleMessageCallback err2str none warning] }
    else some { s with crashed := true }
  | _ => none

/-- Nan::AsyncWorker::WorkComplete: it deletes the callback after its use.
HandleOKCallback does nothing. -/
def workComplete (s : ConsumeLoop) : ConsumeLoop :=
  let calls :=
    match s.errorBaton with
    | some b => s.calls ++ [.error (KafkaConsumerConsumeLoop.handleErrorCallback err2str b)]
    | none => s.calls
  { s with calls, callback := false, close := .completed }

/-- The main thread is not inside NodeDisconnect. -/
def free (s : ConsumeLoop) : Bool := s.close ≠ .joining ∧ s.close ≠ .completed

/-- The interleavings of the loop thread with the main thread. `check` tells
whether the consumer is connected. NodeDisconnect is called where JavaScript
runs, in the read callback too, and blocks until the thread has exited. -/
def act (s : ConsumeLoop) : LoopAction → Option ConsumeLoop
  | .check connected =>
    if s.thread = .checking then
      some { s with thread := if s.looping && connected then .consuming else .exited }
    else none
  | .consume answer =>
    if s.thread = .consuming then
      some { s.loopBody (KafkaConsumer.consume answer) with thread := .checking }
    else none
  | .asyncMessage =>
    if s.wakeup ∧ s.work = .idle ∧ s.close = .opened then
      some { s with wakeup := false, work := .entered }
    else none
  | .swap =>
    if s.work = .entered then
      if s.callback then
        some { s with work := .delivering s.asyncData s.asyncWarning, asyncData := [], asyncWarning := [] }
      else some { s with work := .idle }
    else none
  | .deliver => if s.free then s.deliver err2str else none
  | .finish =>
    if s.work = .delivering [] [] ∧ s.free then some { s with work := .idle } else none
  | .close =>
    if s.close = .opened ∧ s.work ≠ .entered then some { s with looping := false, close := .joining }
    else none
  | .workComplete =>
    if s.close = .joining ∧ s.thread = .exited then some (s.workComplete err2str) else none
  | .destroy =>
    if s.close = .completed then some { s with close := .closed, wakeup := false } else none
  | .asyncClose =>
    if s.close = .closed ∧ s.work = .idle then some { s with close := .destroyed } else none

def step (s : ConsumeLoop) (action : LoopAction) : Option ConsumeLoop :=
  if s.crashed then none else s.act err2str action

end

/-- The messages taken by the running WorkMessage and not yet delivered. -/
def held (s : ConsumeLoop) : List Message :=
  match s.work with
  | .delivering messages _ => messages
  | _ => []

def heldWarnings (s : ConsumeLoop) : List ErrorCode :=
  match s.work with
  | .delivering _ warnings => warnings
  | _ => []

end ConsumeLoop

/-- What the user of a consume loop sees. -/
inductive LoopEvent
  | data (message : JsValue)
  | partitionEof (event : EofEvent)
  | warning (err : LibrdKafkaError)
  | callback (result : Except LibrdKafkaError JsValue)

/-- The native callback of KafkaConsumer.prototype._consumeLoop. -/
def readCallback (err2str : ErrorCode → String) (toLowerCase : String → String) :
    ReadCall → List LoopEvent
  | .error err => [.callback (.error (.create err2str toLowerCase (.error err)))]
  | .eof event => [.partitionEof event]
  | .warning code =>
    if code ≠ 0 then [.warning (.create err2str toLowerCase (.number code))]
    else [.data .null, .callback (.ok .null)]
  | .message message => [.data message, .callback (.ok message)]

end NodeRdkafka

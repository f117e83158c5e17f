import NodeRdkafka.Errors
import NodeRdkafka.JsValue

namespace NodeRdkafka

/-- The closures that the stream hands to setTimeout. Each carries the id of
the callback it was given. -/
inductive StreamTask
  | write (cb : Nat) (data : JsValue)
  | writev (cb : Nat) (restChunks : List JsValue)

inductive StreamImmediate
  | callback (cb : Nat) (err : Option JsError)
  | emitClose

inductive ReadyListener
  | write (cb : Nat) (data : JsValue)
  | close

/-- A ProducerStream with the part of its producer that it looks at, the
closures that wait, and a record of the calls it has made. -/
structure ProducerStream where
  objectMode : Bool
  autoClose : Bool
  topicName : JsValue
  isConnected : Bool
  isConnecting : Bool
  produceCalls : List (List JsValue) := []
  pollCalls : Nat := 0
  disconnectCalls : Nat := 0
  timers : List StreamTask := []
  immediates : List StreamImmediate := []
  producerReady : List ReadyListener := []
  streamReady : List (Nat × List JsValue) := []
  writevCalls : List (Nat × Option JsError) := []
  callbacks : List (Nat × Option JsError) := []
  errors : List String := []
  closeEvents : Nat := 0

/-- What a buffer chunk passes to Producer.produce. -/
def bufferArguments (topic chunk : JsValue) : List JsValue := [topic, .null, chunk, .null]

/-- What a message chunk passes to Producer.produce. -/
def messageArguments (message : JsValue) : List JsValue :=
  ["topic", "partition", "value", "key", "timestamp", "opaque", "headers"].map message.get

namespace ProducerStream

/-- A stream over a connected producer, with nothing written yet. -/
def connected (objectMode autoClose : Bool) (topicName : JsValue) : ProducerStream :=
  { objectMode, autoClose, topicName, isConnected := true, isConnecting := false }

def close (s : ProducerStream) : ProducerStream :=
  if s.isConnected then { s with disconnectCalls := s.disconnectCalls + 1 }
  else if s.isConnecting then { s with producerReady := s.producerReady ++ [.close] }
  else { s with immediates := s.immediates ++ [.emitClose] }

section Produce
variable (outcome callbackThrows : Nat → Option JsError)

/-- Producer.produce, with the outcome of each successive attempt of a connected
producer: none for success, otherwise the error thrown. -/
def produce (s : ProducerStream) (arguments : List JsValue) : ProducerStream × Option JsError :=
  ({ s with produceCalls := s.produceCalls ++ [arguments] },
    if s.isConnected then outcome s.produceCalls.length
    else some { message := "Producer not connected" })

/-- The body that _write_buffer and _write_message share: only what they pass
to produce differs. -/
def writeChunk (s : ProducerStream) (arguments : List JsValue) (data : JsValue) (cb : Nat) :
    ProducerStream :=
  if s.isConnected then
    match s.produce outcome arguments with
    | (s, none) => { s with immediates := s.immediates ++ [.callback cb none] }
    | (s, some e) =>
      if e.code = some ErrorCode.errQueueFull then
        { s with pollCalls := s.pollCalls + 1, timers := s.timers ++ [.write cb data] }
      else
        let s := if s.autoClose then s.close else s
        { s with immediates := s.immediates ++ [.callback cb (some e)] }
  else { s with producerReady := s.producerReady ++ [.write cb data] }

def writeBuffer (s : ProducerStream) (data : JsValue) (cb : Nat) : ProducerStream :=
  if data.isBuffer then s.writeChunk outcome (bufferArguments s.topicName data) data cb
  else { s with errors := s.errors ++ ["Invalid data. Can only produce buffers"] }

def writeMessage (s : ProducerStream) (message : JsValue) (cb : Nat) : ProducerStream :=
  s.writeChunk outcome (messageArguments message) message cb

/-- The _write that the constructor picks. -/
def write (s : ProducerStream) (data : JsValue) (cb : Nat) : ProducerStream :=
  if s.objectMode then s.writeMessage outcome data cb else s.writeBuffer outcome data cb

/-- The callback that _writev passes to writev, around its own, and what that
one throws. While Node calls _writev it defers what its callback runs; in a
retry the callbacks of the writes and the listeners of 'drain' run inside it,
and any of them may throw. -/
def writevCallback (s : ProducerStream) (cb : Nat) (err : Option JsError) : ProducerStream × Option JsError :=
  let s := { s with writevCalls := s.writevCalls ++ [(cb, err)] }
  let s := if err.isSome then s.close else s
  ({ s with callbacks := s.callbacks ++ [(cb, err)] }, callbackThrows s.callbacks.length)

def retry (s : ProducerStream) (restChunks : List JsValue) (cb : Nat) : ProducerStream :=
  { s with pollCalls := s.pollCalls + 1, timers := s.timers ++ [.writev cb restChunks] }

def maybeDone (s : ProducerStream) (doneCount total cb : Nat) : ProducerStream × Option JsError :=
  if doneCount = total then s.writevCallback callbackThrows cb none else (s, none)

/-- The try block of writev: one chunk is produced and counted. -/
def writevTry (s : ProducerStream) (chunk : JsValue) (doneCount total cb : Nat) :
    ProducerStream × Option JsError :=
  let arguments := if chunk.isBuffer then bufferArguments s.topicName chunk else messageArguments chunk
  match s.produce outcome arguments with
  | (s, none) => s.maybeDone callbackThrows (doneCount + 1) total cb
  | (s, some e) => (s, some e)

/-- Its catch block, with the chunks from the present one on. What the callback
throws here leaves writev. -/
def writevCatch (s : ProducerStream) (restChunks : List JsValue) (cb : Nat) (e : JsError) : ProducerStream :=
  if e.code = some ErrorCode.errQueueFull then s.retry restChunks cb
  else (s.writevCallback callbackThrows cb (some e)).1

/-- The loop of writev over the chunks not yet reached. -/
def writevLoop (total cb : Nat) : List JsValue → Nat → ProducerStream → ProducerStream
  | [], _, s => s
  | chunk :: rest, doneCount, s =>
    match s.writevTry outcome callbackThrows chunk doneCount total cb with
    | (s, none) => writevLoop total cb rest (doneCount + 1) s
    | (s, some e) => s.writevCatch callbackThrows (chunk :: rest) cb e

/-- The function writev, called with the chunks and with every retry. -/
def writevFrom (s : ProducerStream) (chunks : List JsValue) (cb : Nat) : ProducerStream :=
  writevLoop outcome callbackThrows chunks.length cb chunks 0 s

/-- ProducerStream.prototype._writev. -/
def writev (s : ProducerStream) (chunks : List JsValue) (cb : Nat) : ProducerStream :=
  if s.isConnected then s.writevFrom outcome callbackThrows chunks cb
  else { s with streamReady := s.streamReady ++ [(cb, chunks)] }

def runTask (s : ProducerStream) : StreamTask → ProducerStream
  | .write cb data => s.write outcome data cb
  | .writev cb restChunks => s.writevFrom outcome callbackThrows restChunks cb

def runReady (s : ProducerStream) : ReadyListener → ProducerStream
  | .write cb data => s.write outcome data cb
  | .close => s.close

end Produce

def runImmediate (s : ProducerStream) : StreamImmediate → ProducerStream
  | .callback cb err => { s with callbacks := s.callbacks ++ [(cb, err)] }
  | .emitClose => { s with closeEvents := s.closeEvents + 1 }

end ProducerStream

inductive StreamEvent
  | write (data : JsValue) (cb : Nat)
  | writev (chunks : List JsValue) (cb : Nat)
  | timer
  | immediate
  | producerReady
  | producerDisconnected

/-- The steps a stream takes by itself while its producer stays connected. -/
def StreamEvent.Tick (event : StreamEvent) : Prop := event = .timer ∨ event = .immediate

/-- Calls from Node, timers of equal delay in the order they were set, and
what the producer tells the stream. -/
def ProducerStream.step (outcome callbackThrows : Nat → Option JsError) (s : ProducerStream) :
    StreamEvent → Option ProducerStream
  | .write data cb => some (s.write outcome data cb)
  | .writev chunks cb => some (s.writev outcome callbackThrows chunks cb)
  | .timer =>
    match s.timers with
    | task :: rest => some ({ s with timers := rest }.runTask outcome callbackThrows task)
    | [] => none
  | .immediate =>
    match s.immediates with
    | task :: rest => some ({ s with immediates := rest }.runImmediate task)
    | [] => none
  | .producerReady =>
    some (s.producerReady.foldl (ProducerStream.runReady outcome)
      { s with isConnected := true, isConnecting := false, producerReady := [] })
  | .producerDisconnected => some { s with isConnected := false }

end NodeRdkafka

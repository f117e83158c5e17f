import NodeRdkafka.ProducerStreamWritev

namespace NodeRdkafka
open Transition

/-- What Node hands to a stream: one chunk to _write, or a batch to _writev. -/
inductive HandedChunks
  | write (chunk : JsValue)
  | writev (chunks : List JsValue)

def HandedChunks.chunks : HandedChunks → List JsValue
  | write chunk => [chunk]
  | writev chunks => chunks

/-- The steps that are possible before the producer emits 'ready'. -/
def StreamEvent.Waits (event : StreamEvent) : Prop := event.Tick ∨ event = .producerDisconnected

namespace ProducerStream

def hand (outcome callbackThrows : Nat → Option JsError) (s : ProducerStream) (cb : Nat) :
    HandedChunks → ProducerStream
  | .write chunk => s.write outcome chunk cb
  | .writev chunks => s.writev outcome callbackThrows chunks cb

/-- A stream whose producer is not connected and which has called back for all
that it was handed before. -/
structure Offline (s : ProducerStream) : Prop where
  offline : s.isConnected = false
  timers : s.timers = []
  immediates : s.immediates = []
  unread : s.producerReady = []

/-- Since `before` the stream has produced the chunks, each once and in order,
and called the callback once with no error. -/
def Served (s before : ProducerStream) (chunks : List JsValue) (cb : Nat) : Prop :=
  (s.produceCalls = before.produceCalls ++ chunks.map fun chunk =>
    if before.objectMode then
      [chunk.get "topic", chunk.get "partition", chunk.get "value", chunk.get "key",
        chunk.get "timestamp", chunk.get "opaque", chunk.get "headers"]
    else [before.topicName, .null, chunk, .null]) ∧
    s.callbacks = before.callbacks ++ [(cb, none)]

/-- The stream ends, and when it has ended it has served the chunks. -/
def Serves (outcome callbackThrows : Nat → Option JsError) (s before : ProducerStream)
    (chunks : List JsValue) (cb : Nat) : Prop :=
  (∃ trace t, Reach (step outcome callbackThrows) s trace t ∧ (∀ event ∈ trace, event.Tick) ∧ t.Ended) ∧
    (s.Ended → s.Served before chunks cb)

variable {outcome callbackThrows : Nat → Option JsError} {s t waiting : ProducerStream} {chunk : JsValue} {cb : Nat}

/-- Nothing happens to a stream with no timer and no immediate while its
producer is away. -/
theorem waits_step {event : StreamEvent} (offline : s.isConnected = false) (ended : s.Ended)
    (waits : event.Waits) (run : s.step outcome callbackThrows event = some t) : t = s := by
  rcases waits with (rfl | rfl) | rfl
  · simp [step, ended.1] at run
  · simp [step, ended.2] at run
  · cases Option.some.inj run
    rw [← offline]

theorem waits_run {trace : List StreamEvent} (offline : s.isConnected = false) (ended : s.Ended)
    (reach : Reach (step outcome callbackThrows) s trace waiting) (waits : ∀ event ∈ trace, event.Waits) :
    waiting = s :=
  reach.invariant_of_labels (· = s) rfl
    (fun allowed same run => by subst same; exact waits_step offline ended allowed run) waits

/-- A stream that has ended takes no more ticks. -/
theorem Ended.stays {trace : List StreamEvent} (ended : s.Ended)
    (reach : Reach (step outcome callbackThrows) s trace t) (ticks : ∀ event ∈ trace, event.Tick) : t = s := by
  refine reach.invariant_of_labels (· = s) rfl ?_ ticks
  rintro u event v (rfl | rfl) rfl run
  · simp [step, ended.1] at run
  · simp [step, ended.2] at run

/-- A chunk of the expected kind handed to _write waits for the producer. -/
theorem write_waits (outcome : Nat → Option JsError) (cb : Nat) (offline : s.Offline)
    (kind : Expected s.objectMode chunk) :
    s.write outcome chunk cb = { s with producerReady := [.write cb chunk] } := by
  rw [write_eq kind, writeChunk, offline.offline, offline.unread]
  rfl

/-- When the producer is ready the chunk that waits is produced, and its
callback waits for setImmediate. -/
theorem write_ready (succeeds : ∀ k, outcome k = none) (offline : s.Offline)
    (kind : Expected s.objectMode chunk)
    (run : step outcome callbackThrows { s with producerReady := [.write cb chunk] } .producerReady = some t) :
    t = { s with
      isConnected := true, isConnecting := false
      produceCalls := s.produceCalls ++ [chunkArguments s.objectMode s.topicName chunk]
      immediates := [.callback cb none] } := by
  cases Option.some.inj run
  simp only [List.foldl_cons, List.foldl_nil, runReady]
  rw [write_eq (by exact kind)]
  simp [writeChunk, produce, succeeds, offline.immediates, offline.unread]

/-- After that the only tick left runs the callback. -/
theorem ready_serves {ready : ProducerStream} (offline : s.Offline) {trace : List StreamEvent}
    (produced : ready = { s with
      isConnected := true, isConnecting := false
      produceCalls := s.produceCalls ++ [chunkArguments s.objectMode s.topicName chunk]
      immediates := [.callback cb none] })
    (reach : Reach (step outcome callbackThrows) ready trace t) (ticks : ∀ event ∈ trace, event.Tick) :
    Serves outcome callbackThrows t s [chunk] cb := by
  obtain ⟨called, last, ended, served⟩ : ∃ called, ready.step outcome callbackThrows .immediate = some called ∧
      called.Ended ∧ called.Served s [chunk] cb := by
    subst produced
    exact ⟨_, rfl, ⟨offline.timers, rfl⟩, rfl, rfl⟩
  have place : t = ready ∨ t = called := by
    refine reach.invariant_of_labels (fun u => u = ready ∨ u = called) (Or.inl rfl) ?_ ticks
    rintro u event v tick (rfl | rfl) run
    · rcases tick with rfl | rfl
      · subst produced
        simp [step, offline.timers] at run
      · exact Or.inr (Option.some.inj (run.symm.trans last))
    · exact Or.inr (ended.stays (.prepend run .start) (by simpa using tick))
  rcases place with rfl | rfl
  · refine ⟨⟨[.immediate], called, .prepend last .start, by simp [StreamEvent.Tick], ended⟩, ?_⟩
    intro finished
    subst produced
    simp [Ended] at finished
  · exact ⟨⟨[], t, .start, by simp, ended⟩, fun _ => served⟩

theorem writev_waits (outcome callbackThrows : Nat → Option JsError) (chunks : List JsValue) (cb : Nat)
    (offline : s.Offline) :
    s.writev outcome callbackThrows chunks cb = { s with streamReady := s.streamReady ++ [(cb, chunks)] } := by
  simp [writev, offline.offline]

/-- A batch that waits for the stream to emit 'ready' is never produced. -/
theorem writev_stalls {ready : ProducerStream} {chunks : List JsValue} (offline : s.Offline)
    (nonempty : chunks ≠ [])
    (run : (s.writev outcome callbackThrows chunks cb).step outcome callbackThrows .producerReady = some ready)
    {trace : List StreamEvent} (reach : Reach (step outcome callbackThrows) ready trace t)
    (ticks : ∀ event ∈ trace, event.Tick) : t.Ended ∧ ¬ t.Served s chunks cb := by
  rw [writev_waits outcome callbackThrows chunks cb offline] at run
  have unread : ready = { s with
      isConnected := true, isConnecting := false, streamReady := s.streamReady ++ [(cb, chunks)] } := by
    cases Option.some.inj run
    simp [offline.unread]
  have ended : ready.Ended := by
    subst unread
    exact ⟨offline.timers, offline.immediates⟩
  have same := ended.stays reach ticks
  subst same
  refine ⟨ended, fun served => nonempty ?_⟩
  have calls := served.1
  subst unread
  simpa using calls

end ProducerStream

/-- What is handed to a stream while its producer is not connected is produced
in order, each chunk once, with one callback and no error, if and only if it
was handed to _write. A batch handed to _writev waits for an event of the
stream itself, which nothing emits. -/
theorem handed_served_iff {outcome callbackThrows : Nat → Option JsError} {s waiting ready t : ProducerStream}
    {handed : HandedChunks} {cb : Nat} {before after : List StreamEvent}
    (succeeds : ∀ k, outcome k = none) (offline : s.Offline) (nonempty : handed.chunks ≠ [])
    (kinds : ∀ chunk ∈ handed.chunks, Expected s.objectMode chunk)
    (waits : Reach (ProducerStream.step outcome callbackThrows)
      (ProducerStream.hand outcome callbackThrows s cb handed) before waiting)
    (away : ∀ event ∈ before, event.Waits)
    (emits : waiting.step outcome callbackThrows .producerReady = some ready)
    (reach : Reach (ProducerStream.step outcome callbackThrows) ready after t)
    (ticks : ∀ event ∈ after, event.Tick) :
    ProducerStream.Serves outcome callbackThrows t s handed.chunks cb ↔ ∃ chunk, handed = .write chunk := by
  cases handed with
  | write chunk =>
    have kind : Expected s.objectMode chunk := kinds chunk (by simp [HandedChunks.chunks])
    have deferred := ProducerStream.write_waits outcome cb offline kind
    have unchanged : waiting = { s with producerReady := [.write cb chunk] } := by
      rw [ProducerStream.hand, deferred] at waits
      exact ProducerStream.waits_run offline.offline ⟨offline.timers, offline.immediates⟩ waits away
    rw [unchanged] at emits
    have produced := ProducerStream.write_ready succeeds offline kind emits
    exact ⟨fun _ => ⟨chunk, rfl⟩, fun _ => ProducerStream.ready_serves offline produced reach ticks⟩
  | writev chunks =>
    have unchanged : waiting = s.writev outcome callbackThrows chunks cb := by
      rw [ProducerStream.hand, ProducerStream.writev_waits outcome callbackThrows chunks cb offline] at waits
      rw [ProducerStream.writev_waits outcome callbackThrows chunks cb offline]
      exact ProducerStream.waits_run offline.offline ⟨offline.timers, offline.immediates⟩ waits away
    rw [unchanged] at emits
    obtain ⟨ended, unserved⟩ := ProducerStream.writev_stalls offline nonempty emits reach ticks
    constructor
    · intro serves
      exact absurd (serves.2 ended) unserved
    · rintro ⟨chunk, same⟩
      cases same

/-- A stream that was opened before its producer is connected. -/
def offlineStream : ProducerStream :=
  { objectMode := false, autoClose := true, topicName := .string "t", isConnected := false, isConnecting := true }

theorem offlineStream_offline : offlineStream.Offline := ⟨rfl, rfl, rfl, rfl⟩

theorem handed_served_single :
    ∃ waiting ready t,
      Reach (ProducerStream.step (fun _ => none) fun _ => none)
        (ProducerStream.hand (fun _ => none) (fun _ => none) offlineStream 0 (.write (.buffer [1])))
        [.producerDisconnected] waiting ∧
      waiting.step (fun _ => none) (fun _ => none) .producerReady = some ready ∧
      Reach (ProducerStream.step (fun _ => none) fun _ => none) ready [.immediate] t ∧ t.Ended ∧
      t.Served offlineStream [.buffer [1]] 0 := by
  obtain ⟨waiting, ready, t, waits, emits, reach, ended⟩ : ∃ waiting ready t,
      Reach (ProducerStream.step (fun _ => none) fun _ => none)
        (ProducerStream.hand (fun _ => none) (fun _ => none) offlineStream 0 (.write (.buffer [1])))
        [.producerDisconnected] waiting ∧
      waiting.step (fun _ => none) (fun _ => none) .producerReady = some ready ∧
      Reach (ProducerStream.step (fun _ => none) fun _ => none) ready [.immediate] t ∧ t.Ended :=
    ⟨_, _, _, reach_iff_replay.mpr rfl, rfl, reach_iff_replay.mpr rfl, rfl, rfl⟩
  have serves := (handed_served_iff (fun _ => rfl) offlineStream_offline (by simp [HandedChunks.chunks])
    (by simp [HandedChunks.chunks, Expected, offlineStream]) waits (by simp [StreamEvent.Waits])
    emits reach (by simp [StreamEvent.Tick])).mpr ⟨_, rfl⟩
  exact ⟨waiting, ready, t, waits, emits, reach, ended, serves.2 ended⟩

/-- A batch of two chunks handed over before 'ready': nothing is produced,
nothing is left to run, and the callback is not called. -/
theorem batch_stalls :
    offlineStream.Offline ∧ (∀ chunk ∈ [JsValue.buffer [1], .buffer [2]], Expected false chunk) ∧
      ∃ ready, (ProducerStream.hand (fun _ => none) (fun _ => none) offlineStream 0
          (.writev [.buffer [1], .buffer [2]])).step (fun _ => none) (fun _ => none) .producerReady = some ready ∧
        ready.isConnected = true ∧ ready.Ended ∧ ready.produceCalls = [] ∧ ready.callbacks = [] ∧
        ¬ ProducerStream.Serves (fun _ => none) (fun _ => none) ready offlineStream [.buffer [1], .buffer [2]] 0 := by
  refine ⟨offlineStream_offline, by simp [Expected], _, rfl, rfl, ⟨rfl, rfl⟩, rfl, rfl, ?_⟩
  intro serves
  have calls := (serves.2 ⟨rfl, rfl⟩).2
  cases calls

end NodeRdkafka

import NodeRdkafka.Lib.Attempts
import NodeRdkafka.Lib.Reach
import NodeRdkafka.ProducerStream

namespace NodeRdkafka
open Transition

/-- How the stream treats the outcome of a produce call. -/
def attemptOutcome : Option JsError → Attempts.Outcome JsError
  | none => .through
  | some e => if e.code = some ErrorCode.errQueueFull then .again else .failure e

/-- The kind of chunk that the mode of a stream expects. -/
def Expected (objectMode : Bool) : JsValue → Prop
  | .buffer _ => objectMode = false
  | .object _ => objectMode = true
  | _ => False

/-- What produce is to be called with for a chunk of the kind that the mode
expects: the fields of a message object, or the topic of the stream and a
buffer as the value, with no partition and no key. -/
def chunkArguments (objectMode : Bool) (topic chunk : JsValue) : List JsValue :=
  if objectMode then
    [chunk.get "topic", chunk.get "partition", chunk.get "value", chunk.get "key",
      chunk.get "timestamp", chunk.get "opaque", chunk.get "headers"]
  else [topic, .null, chunk, .null]

/-- The produce calls that succeeded, in order. -/
def produced (outcome : Nat → Option JsError) (calls : List (List JsValue)) : List (List JsValue) :=
  (calls.zipIdx.filter fun call => (outcome call.2).isNone).map Prod.fst

/-- The last of `count` attempts throws `e`, and every error before it asks for
a retry. -/
def FirstError (outcome : Nat → Option JsError) (count : Nat) (e : JsError) : Prop :=
  ∃ k, count = k + 1 ∧ outcome k = some e ∧ e.code ≠ some ErrorCode.errQueueFull ∧
    ∀ j < k, ∀ earlier, outcome j = some earlier → earlier.code = some ErrorCode.errQueueFull

/-- Node writing chunks one after another: the callback of each _write starts
the next, and an error ends the writing. -/
structure ChunkWriter where
  stream : ProducerStream
  rest : List JsValue

namespace ChunkWriter
variable (outcome : Nat → Option JsError)

def next (stream : ProducerStream) (cb : Nat) : List JsValue → ChunkWriter
  | chunk :: rest => { stream := stream.write outcome chunk cb, rest }
  | [] => { stream, rest := [] }

def step (w : ChunkWriter) (event : StreamEvent) : Option ChunkWriter :=
  match event, w.stream.immediates with
  | .immediate, .callback cb none :: _ =>
    (w.stream.step outcome (fun _ => none) .immediate).map fun stream => next outcome stream (cb + 1) w.rest
  | _, _ => (w.stream.step outcome (fun _ => none) event).map fun stream => { w with stream }

end ChunkWriter

/-- Nothing is left to run. -/
def ProducerStream.Ended (s : ProducerStream) : Prop := s.timers = [] ∧ s.immediates = []

section Writev
variable {outcome : Nat → Option JsError} {chunks : List JsValue} {objectMode autoClose : Bool}
  {topicName : JsValue}

abbrev ChunkRun (outcome : Nat → Option JsError) (chunks : List JsValue) :=
  Attempts.Run (fun k => attemptOutcome (outcome k)) chunks

/-- What both ways of writing keep of the stream: its mode, its connected
producer, and calls that are the attempts of one in-order transfer. -/
structure ProducerStream.Records (objectMode : Bool) (topicName : JsValue) (log : List JsValue)
    (s : ProducerStream) : Prop where
  mode : s.objectMode = objectMode
  topic : s.topicName = topicName
  online : s.isConnected = true
  calls : s.produceCalls = log.map (chunkArguments objectMode topicName)

variable (topicName) in
theorem loop_arguments {chunk : JsValue} (kind : Expected objectMode chunk) :
    (if chunk.isBuffer then bufferArguments topicName chunk else messageArguments chunk) =
      chunkArguments objectMode topicName chunk := by
  cases chunk with
  | buffer bytes =>
    simp [chunkArguments, bufferArguments, JsValue.isBuffer, show objectMode = false from kind]
  | object fields =>
    simp [chunkArguments, messageArguments, JsValue.isBuffer, show objectMode = true from kind]
  | _ => exact kind.elim

theorem left_kinds {log sent rest : List JsValue} (kinds : ∀ chunk ∈ chunks, Expected objectMode chunk)
    (run : ChunkRun outcome chunks log sent (.left rest)) : ∀ chunk ∈ rest, Expected objectMode chunk :=
  fun chunk member => kinds chunk (run.conserved.1 rest rfl ▸ List.mem_append_right _ member)

/-- Where a batch stands between two of its events. -/
inductive ProducerStream.BatchStatus (s : ProducerStream) : Attempts.Status JsValue JsError → Prop
  | retrying {rest} : rest ≠ [] → s.timers = [.writev 0 rest] → s.immediates = [] →
      s.writevCalls = [] → s.callbacks = [] → s.BatchStatus (.left rest)
  | finished {status} : status.Ended → s.timers = [] → s.immediates = [] →
      s.writevCalls = [(0, status.result)] → s.callbacks = [(0, status.result)] →
      s.BatchStatus status

def ProducerStream.Batch (outcome : Nat → Option JsError) (chunks : List JsValue)
    (objectMode : Bool) (topicName : JsValue) (s : ProducerStream) : Prop :=
  ∃ log sent status, ChunkRun outcome chunks log sent status ∧
    s.Records objectMode topicName log ∧ s.BatchStatus status

namespace ProducerStream

theorem write_eq {s : ProducerStream} {chunk : JsValue} (kind : Expected s.objectMode chunk) (cb : Nat) :
    s.write outcome chunk cb =
      s.writeChunk outcome (chunkArguments s.objectMode s.topicName chunk) chunk cb := by
  cases chunk with
  | buffer bytes =>
    have mode : s.objectMode = false := kind
    simp [write, writeBuffer, chunkArguments, bufferArguments, mode, JsValue.isBuffer]
  | object fields =>
    have mode : s.objectMode = true := kind
    simp [write, writeMessage, chunkArguments, messageArguments, mode]
  | _ => exact kind.elim

variable (outcome) in
theorem Records.produce {s : ProducerStream} {log : List JsValue}
    (records : s.Records objectMode topicName log) (chunk : JsValue) :
    (s.produce outcome (chunkArguments objectMode topicName chunk)).2 = outcome log.length ∧
      (s.produce outcome (chunkArguments objectMode topicName chunk)).1.Records
        objectMode topicName (log ++ [chunk]) := by
  refine ⟨?_, records.mode, records.topic, records.online, ?_⟩
  · simp [ProducerStream.produce, records.online, records.calls]
  · simp [ProducerStream.produce, records.calls]

theorem Records.of_eq {s t : ProducerStream} {log : List JsValue}
    (records : s.Records objectMode topicName log) (mode : t.objectMode = s.objectMode)
    (topic : t.topicName = s.topicName) (online : t.isConnected = s.isConnected)
    (calls : t.produceCalls = s.produceCalls) : t.Records objectMode topicName log :=
  ⟨mode.trans records.mode, topic.trans records.topic, online.trans records.online,
    calls.trans records.calls⟩

theorem Records.close_eq {s : ProducerStream} {log : List JsValue}
    (records : s.Records objectMode topicName log) :
    s.close = { s with disconnectCalls := s.disconnectCalls + 1 } := by
  simp only [close, records.online, if_true]

/-- The callback of writev runs once the last chunk is through or the first
failure is met. -/
theorem writevCallback_batch {s : ProducerStream} {log sent : List JsValue}
    {status : Attempts.Status JsValue JsError} (run : ChunkRun outcome chunks log sent status)
    (ended : status.Ended) (records : s.Records objectMode topicName log)
    (timers : s.timers = []) (immediates : s.immediates = []) (fresh : s.writevCalls = [])
    (silent : s.callbacks = []) :
    (s.writevCallback (fun _ => none) 0 status.result).1.Batch outcome chunks objectMode topicName := by
  refine ⟨log, sent, status, run, ?_, ?_⟩
  · cases status with
    | left rest => exact records.of_eq rfl rfl rfl rfl
    | failed e =>
      have connected : ({ s with writevCalls := s.writevCalls ++ [(0, some e)] } :
          ProducerStream).Records objectMode topicName log := records.of_eq rfl rfl rfl rfl
      simp only [writevCallback, Attempts.Status.result, Option.isSome_some, if_true,
        connected.close_eq]
      exact records.of_eq rfl rfl rfl rfl
  · cases status with
    | left rest =>
      refine .finished ended ?_ ?_ ?_ ?_ <;>
        simp [writevCallback, Attempts.Status.result, timers, immediates, fresh, silent]
    | failed e =>
      refine .finished ended ?_ ?_ ?_ ?_ <;>
        simp [writevCallback, Attempts.Status.result, close, records.online, timers, immediates,
          fresh, silent]

/-- The loop of writev, entered behind a front part that is already through,
leaves the batch waiting for a retry or finished. -/
theorem writevLoop_batch {rest : List JsValue} {total doneCount : Nat} {s : ProducerStream}
    {log sent : List JsValue} (run : ChunkRun outcome chunks log sent (.left rest))
    (kinds : ∀ chunk ∈ rest, Expected objectMode chunk) (unfinished : rest ≠ [])
    (count : doneCount + rest.length = total) (records : s.Records objectMode topicName log)
    (timers : s.timers = []) (immediates : s.immediates = []) (fresh : s.writevCalls = [])
    (silent : s.callbacks = []) :
    (writevLoop outcome (fun _ => none) total 0 rest doneCount s).Batch outcome chunks objectMode topicName := by
  induction rest generalizing doneCount s log sent with
  | nil => exact absurd rfl unfinished
  | cons chunk rest ih =>
    have same := loop_arguments topicName (kinds chunk (by simp))
    obtain ⟨result, kept⟩ := records.produce outcome chunk
    simp only [writevLoop, writevTry, records.topic, same]
    rcases tried : s.produce outcome (chunkArguments objectMode topicName chunk) with ⟨t, thrown⟩
    rw [tried] at result kept
    have rest_fields : t.timers = [] ∧ t.immediates = [] ∧ t.writevCalls = [] ∧ t.callbacks = [] := by
      cases (Prod.mk.inj tried).1
      exact ⟨timers, immediates, fresh, silent⟩
    obtain ⟨timers, immediates, fresh, silent⟩ := rest_fields
    cases thrown with
    | none =>
      have through := run.through (by simp [attemptOutcome, ← result])
      simp only [maybeDone]
      by_cases last : rest = []
      · subst last
        rw [if_pos (by simpa using count)]
        exact writevCallback_batch through rfl kept timers immediates fresh silent
      · have more : doneCount + 1 ≠ total := by
          have size := List.length_pos_iff.mpr last
          simp only [List.length_cons] at count
          omega
        rw [if_neg more]
        exact ih through (fun c member => kinds c (by simp [member])) last
          (by simp only [List.length_cons] at count; omega) kept timers immediates fresh silent
    | some e =>
      by_cases full : e.code = some ErrorCode.errQueueFull
      · have again := run.again (by simp [attemptOutcome, ← result, full])
        simp only [writevCatch, full, if_true]
        refine ⟨_, _, _, again, kept.of_eq rfl rfl rfl rfl, .retrying (by simp) ?_ ?_ ?_ ?_⟩ <;>
          simp [retry, timers, immediates, fresh, silent]
      · have failed := run.failed (e := e) (by simp [attemptOutcome, ← result, full])
        simp only [writevCatch, full, if_false]
        exact writevCallback_batch failed trivial kept timers immediates fresh silent

theorem writev_batch (nonempty : chunks ≠ []) (kinds : ∀ chunk ∈ chunks, Expected objectMode chunk) :
    ((connected objectMode autoClose topicName).writev outcome (fun _ => none) chunks 0).Batch
      outcome chunks objectMode topicName := by
  simp only [writev, connected, if_true]
  exact writevLoop_batch .start kinds nonempty (by simp) ⟨rfl, rfl, rfl, rfl⟩ rfl rfl rfl rfl

theorem batch_step {s t : ProducerStream} {event : StreamEvent}
    (kinds : ∀ chunk ∈ chunks, Expected objectMode chunk) (tick : event.Tick)
    (batch : s.Batch outcome chunks objectMode topicName) (run : s.step outcome (fun _ => none) event = some t) :
    t.Batch outcome chunks objectMode topicName := by
  obtain ⟨log, sent, status, progress, records, place⟩ := batch
  cases place with
  | @retrying rest unfinished timers immediates fresh silent =>
    rcases tick with rfl | rfl
    · simp only [step, timers, Option.some.injEq] at run
      subst run
      exact writevLoop_batch progress (left_kinds kinds progress) unfinished (by simp)
        (records.of_eq rfl rfl rfl rfl) rfl immediates fresh silent
    · simp [step, immediates] at run
  | finished ended timers immediates _ _ =>
    rcases tick with rfl | rfl
    · simp [step, timers] at run
    · simp [step, immediates] at run

theorem reach_batch {s : ProducerStream} {trace : List StreamEvent} (nonempty : chunks ≠ [])
    (kinds : ∀ chunk ∈ chunks, Expected objectMode chunk)
    (reach : Reach (step outcome fun _ => none)
      ((connected objectMode autoClose topicName).writev outcome (fun _ => none) chunks 0) trace s)
    (ticks : ∀ event ∈ trace, event.Tick) : s.Batch outcome chunks objectMode topicName :=
  reach.invariant_of_labels (Batch outcome chunks objectMode topicName) (writev_batch nonempty kinds)
    (batch_step kinds) ticks

end ProducerStream

/-- Where the writing of chunks one after another stands between two events. -/
inductive ChunkWriter.Place (w : ChunkWriter) : Attempts.Status JsValue JsError → Prop
  | retrying (cb : Nat) {chunk} : w.stream.timers = [.write cb chunk] → w.stream.immediates = [] →
      w.Place (.left (chunk :: w.rest))
  | written (cb : Nat) : w.stream.timers = [] → w.stream.immediates = [.callback cb none] →
      w.Place (.left w.rest)
  | failing (cb : Nat) {e} : w.stream.timers = [] → w.stream.immediates = [.callback cb (some e)] →
      w.Place (.failed e)
  | finished {status} : status.Ended → w.stream.timers = [] → w.stream.immediates = [] →
      w.Place status

def ChunkWriter.Follows (outcome : Nat → Option JsError) (chunks : List JsValue)
    (objectMode : Bool) (topicName : JsValue) (w : ChunkWriter) (log : List JsValue)
    (status : Attempts.Status JsValue JsError) : Prop :=
  (∃ sent, ChunkRun outcome chunks log sent status) ∧
    w.stream.Records objectMode topicName log ∧ w.Place status

namespace ChunkWriter

/-- One _write makes one attempt, and leaves one closure that goes on. -/
theorem write_follows {s : ProducerStream} {log sent rest : List JsValue} {chunk : JsValue}
    (run : ChunkRun outcome chunks log sent (.left (chunk :: rest)))
    (kind : Expected objectMode chunk) (records : s.Records objectMode topicName log)
    (timers : s.timers = []) (immediates : s.immediates = []) (cb : Nat) :
    ∃ status, Follows outcome chunks objectMode topicName
      { stream := s.write outcome chunk cb, rest } (log ++ [chunk]) status := by
  rw [ProducerStream.write_eq (records.mode ▸ kind), records.mode, records.topic]
  obtain ⟨result, kept⟩ := records.produce outcome chunk
  simp only [ProducerStream.writeChunk, records.online, if_true]
  rcases tried : s.produce outcome (chunkArguments objectMode topicName chunk) with ⟨t, thrown⟩
  rw [tried] at result kept
  have rest_fields : t.timers = [] ∧ t.immediates = [] := by
    cases (Prod.mk.inj tried).1
    exact ⟨timers, immediates⟩
  obtain ⟨timers, immediates⟩ := rest_fields
  cases thrown with
  | none =>
    have through := run.through (by simp [attemptOutcome, ← result])
    exact ⟨_, ⟨_, through⟩, kept.of_eq rfl rfl rfl rfl, .written cb timers (by simp [immediates])⟩
  | some e =>
    by_cases full : e.code = some ErrorCode.errQueueFull
    · have again := run.again (by simp [attemptOutcome, ← result, full])
      simp only [full, if_true]
      exact ⟨_, ⟨_, again⟩, kept.of_eq rfl rfl rfl rfl, .retrying cb (by simp [timers]) immediates⟩
    · have failed := run.failed (e := e) (by simp [attemptOutcome, ← result, full])
      simp only [full, if_false]
      refine ⟨_, ⟨_, failed⟩, ?_, ?_⟩
      · split
        · rw [kept.close_eq]
          exact kept.of_eq rfl rfl rfl rfl
        · exact kept.of_eq rfl rfl rfl rfl
      · split
        · rw [kept.close_eq]
          exact .failing cb timers (by simp [immediates])
        · exact .failing cb timers (by simp [immediates])

/-- One event at most is enabled, and it makes an attempt or ends the writing. -/
theorem advance {w : ChunkWriter} {log : List JsValue} {status : Attempts.Status JsValue JsError}
    (kinds : ∀ chunk ∈ chunks, Expected objectMode chunk)
    (follows : w.Follows outcome chunks objectMode topicName log status) :
    (status.Ended ∧ w.stream.Ended ∧ ∀ event : StreamEvent, event.Tick → w.step outcome event = none) ∨
      ∃ event t log' status', event.Tick ∧ w.step outcome event = some t ∧
        t.Follows outcome chunks objectMode topicName log' status' ∧
        (log.length < log'.length ∨ t.stream.Ended) ∧
        ∀ other : StreamEvent, other.Tick → other ≠ event → w.step outcome other = none := by
  obtain ⟨⟨sent, run⟩, records, place⟩ := follows
  cases place with
  | @retrying cb chunk timers immediates =>
    obtain ⟨status', later⟩ := write_follows run (left_kinds kinds run chunk (by simp))
      (s := { w.stream with timers := [] }) (records.of_eq rfl rfl rfl rfl) rfl immediates cb
    refine .inr ⟨.timer, _, _, status', .inl rfl, ?_, later, .inl (by simp), ?_⟩
    · simp [step, ProducerStream.step, ProducerStream.runTask, timers]
    · rintro other (rfl | rfl) different
      · exact absurd rfl different
      · simp [step, ProducerStream.step, immediates]
  | written cb timers immediates =>
    have stopped : ∀ other : StreamEvent, other.Tick → other ≠ .immediate →
        w.step outcome other = none := by
      rintro other (rfl | rfl) different
      · simp [step, ProducerStream.step, timers]
      · exact absurd rfl different
    have called : w.step outcome .immediate = some (next outcome
        { w.stream with immediates := [], callbacks := w.stream.callbacks ++ [(cb, none)] }
        (cb + 1) w.rest) := by
      simp [step, ProducerStream.step, ProducerStream.runImmediate, immediates]
    cases rest : w.rest with
    | nil =>
      rw [rest] at run called
      refine .inr ⟨.immediate, _, log, _, .inr rfl, called, ⟨⟨sent, run⟩, ?_, ?_⟩, .inr ?_, stopped⟩
      · exact records.of_eq rfl rfl rfl rfl
      · exact .finished rfl timers rfl
      · exact ⟨timers, rfl⟩
    | cons chunk rest' =>
      rw [rest] at run called
      obtain ⟨status', later⟩ := write_follows run (left_kinds kinds run chunk (by simp))
        (s := { w.stream with immediates := [], callbacks := w.stream.callbacks ++ [(cb, none)] })
        (records.of_eq rfl rfl rfl rfl) timers rfl (cb + 1)
      exact .inr ⟨.immediate, _, _, status', .inr rfl, called, later, .inl (by simp), stopped⟩
  | @failing cb e timers immediates =>
    refine .inr ⟨.immediate, { w with stream := { w.stream with
      immediates := [], callbacks := w.stream.callbacks ++ [(cb, some e)] } }, log, .failed e,
      .inr rfl, ?_, ⟨⟨sent, run⟩, records.of_eq rfl rfl rfl rfl, .finished trivial timers rfl⟩,
      .inr ⟨timers, rfl⟩, ?_⟩
    · simp [step, ProducerStream.step, ProducerStream.runImmediate, immediates]
    · rintro other (rfl | rfl) different
      · simp [step, ProducerStream.step, timers]
      · exact absurd rfl different
  | finished ended timers immediates =>
    refine .inl ⟨ended, ⟨timers, immediates⟩, ?_⟩
    rintro event (rfl | rfl)
    · simp [step, ProducerStream.step, timers]
    · simp [step, ProducerStream.step, immediates]

theorem reach_follows {first : JsValue} {rest : List JsValue} {w : ChunkWriter} {trace : List StreamEvent}
    (kinds : ∀ chunk ∈ first :: rest, Expected objectMode chunk)
    (reach : Reach (step outcome)
      (next outcome (.connected objectMode autoClose topicName) 0 (first :: rest)) trace w)
    (ticks : ∀ event ∈ trace, event.Tick) :
    ∃ log status, w.Follows outcome (first :: rest) objectMode topicName log status := by
  refine reach.invariant_of_labels (fun w => ∃ log status,
    w.Follows outcome (first :: rest) objectMode topicName log status) ?_ ?_ ticks
  · obtain ⟨status, follows⟩ := write_follows .start (kinds first (by simp))
      (s := .connected objectMode autoClose topicName) ⟨rfl, rfl, rfl, rfl⟩ rfl rfl 0
    exact ⟨_, status, follows⟩
  · rintro w event t tick ⟨log, status, follows⟩ run
    rcases advance kinds follows with ⟨_, _, stopped⟩ | ⟨event', t', log', status', _, run', later, _, only⟩
    · simp [stopped event tick] at run
    · by_cases same : event = event'
      · cases same
        cases run.symm.trans run'
        exact ⟨log', status', later⟩
      · simp [only event tick same] at run

/-- When one transfer with these outcomes ends, so does the writing. -/
theorem follows_ends {log₀ sent₀ : List JsValue} {status₀ : Attempts.Status JsValue JsError}
    (kinds : ∀ chunk ∈ chunks, Expected objectMode chunk)
    (bound : ChunkRun outcome chunks log₀ sent₀ status₀) (ended : status₀.Ended) {w : ChunkWriter}
    {log : List JsValue} {status : Attempts.Status JsValue JsError}
    (follows : w.Follows outcome chunks objectMode topicName log status) :
    ∃ trace t, Reach (step outcome) w trace t ∧ (∀ event ∈ trace, event.Tick) ∧ t.stream.Ended := by
  induction distance : log₀.length - log.length using Nat.strong_induction_on
    generalizing w log status with
  | _ distance ih =>
    rcases advance kinds follows with ⟨_, stopped, _⟩ | ⟨event, t, log', status', tick, run, later, move, _⟩
    · exact ⟨[], w, .start, by simp, stopped⟩
    · rcases move with longer | stopped
      · obtain ⟨_, progress⟩ := later.1
        have within := bound.ended_longest ended progress
        obtain ⟨trace, u, reach, ticks, stopped⟩ := ih (log₀.length - log'.length) (by omega) later rfl
        exact ⟨event :: trace, u, reach.prepend run, by simpa using ⟨tick, ticks⟩, stopped⟩
      · exact ⟨[event], t, .prepend run .start, by simpa using tick, stopped⟩

theorem follows_finished {w : ChunkWriter} {log : List JsValue} {status : Attempts.Status JsValue JsError}
    (follows : w.Follows outcome chunks objectMode topicName log status) (stopped : w.stream.Ended) :
    status.Ended := by
  cases follows.2.2 with
  | retrying _ timers _ => simp [stopped.1] at timers
  | written _ _ immediates => simp [stopped.2] at immediates
  | failing _ _ immediates => simp [stopped.2] at immediates
  | finished ended _ _ => exact ended

end ChunkWriter

theorem attemptOutcome_failure {thrown : Option JsError} {e : JsError} :
    attemptOutcome thrown = .failure e ↔ thrown = some e ∧ e.code ≠ some ErrorCode.errQueueFull := by
  cases thrown with
  | none => simp [attemptOutcome]
  | some e' =>
    by_cases full : e'.code = some ErrorCode.errQueueFull
    · simp only [attemptOutcome, full, if_true, reduceCtorEq, Option.some.injEq, false_iff, not_and,
        not_not]
      rintro rfl
      exact full
    · simp only [attemptOutcome, full, if_false, Attempts.Outcome.failure.injEq, Option.some.injEq]
      exact ⟨fun same => ⟨same, same ▸ full⟩, And.left⟩

theorem attemptOutcome_through {thrown : Option JsError} :
    thrown.isNone = true ↔ attemptOutcome thrown = .through := by
  cases thrown with
  | none => simp [attemptOutcome]
  | some e => by_cases full : e.code = some ErrorCode.errQueueFull <;> simp [attemptOutcome, full]

theorem ChunkRun.produced {log sent : List JsValue} {status : Attempts.Status JsValue JsError}
    (run : ChunkRun outcome chunks log sent status) (arguments : JsValue → List JsValue) :
    produced outcome (log.map arguments) = sent.map arguments := by
  rw [run.sent_eq (fun k => (outcome k).isNone) fun _ => attemptOutcome_through]
  simp [NodeRdkafka.produced, List.zipIdx_map, List.filter_map, Function.comp_def]

theorem ChunkRun.firstError {log sent : List JsValue} {e : JsError}
    (run : ChunkRun outcome chunks log sent (.failed e)) : FirstError outcome log.length e := by
  obtain ⟨k, size, failure, earlier⟩ := run.first_failure.2 e rfl
  obtain ⟨thrown, other⟩ := attemptOutcome_failure.mp failure
  refine ⟨k, size, thrown, other, fun j before e' thrown' => ?_⟩
  by_contra different
  exact earlier j before e' (attemptOutcome_failure.mpr ⟨thrown', different⟩)

/-- A batch makes the produce calls that writing its chunks one after another
makes, whatever the attempts meet, and calls back once with the first error
that asks for no retry. -/
theorem writev_refines_writes {batch : ProducerStream} {trace : List StreamEvent}
    (nonempty : chunks ≠ []) (kinds : ∀ chunk ∈ chunks, Expected objectMode chunk)
    (reach : Reach (ProducerStream.step outcome fun _ => none)
      ((ProducerStream.connected objectMode autoClose topicName).writev outcome (fun _ => none) chunks 0)
      trace batch)
    (ticks : ∀ event ∈ trace, event.Tick) (ended : batch.Ended) :
    (∃ trace' w, Reach (ChunkWriter.step outcome)
        (ChunkWriter.next outcome (.connected objectMode autoClose topicName) 0 chunks) trace' w ∧
      (∀ event ∈ trace', event.Tick) ∧ w.stream.Ended) ∧
    (∀ trace' w, Reach (ChunkWriter.step outcome)
        (ChunkWriter.next outcome (.connected objectMode autoClose topicName) 0 chunks) trace' w →
      (∀ event ∈ trace', event.Tick) → w.stream.Ended →
      w.stream.produceCalls = batch.produceCalls) ∧
    (∀ call ∈ batch.produceCalls, ∃ chunk ∈ chunks, call =
      if objectMode then
        [chunk.get "topic", chunk.get "partition", chunk.get "value", chunk.get "key",
          chunk.get "timestamp", chunk.get "opaque", chunk.get "headers"]
      else [topicName, .null, chunk, .null]) ∧
    ∃ sent err, sent <+: chunks ∧
      (produced outcome batch.produceCalls = sent.map fun chunk =>
        if objectMode then
          [chunk.get "topic", chunk.get "partition", chunk.get "value", chunk.get "key",
            chunk.get "timestamp", chunk.get "opaque", chunk.get "headers"]
        else [topicName, .null, chunk, .null]) ∧
      batch.writevCalls = [(0, err)] ∧ batch.callbacks = [(0, err)] ∧ (err = none ↔ sent = chunks) ∧
      ∀ e, err = some e → FirstError outcome batch.produceCalls.length e := by
  obtain ⟨log, sent, status, run, records, place⟩ := ProducerStream.reach_batch nonempty kinds reach ticks
  cases place with
  | retrying _ timers _ _ _ => simp [ended.1] at timers
  | finished stopped _ _ calls callbacks =>
    obtain ⟨first, rest, rfl⟩ := List.exists_cons_of_ne_nil nonempty
    refine ⟨?_, ?_, ?_, sent, status.result, run.sent_prefix, ?_, calls, callbacks,
      run.complete_iff stopped, ?_⟩
    · have opening : Reach (ChunkWriter.step outcome) (ChunkWriter.next outcome
          (.connected objectMode autoClose topicName) 0 (first :: rest)) [] _ := .start
      obtain ⟨_, _, follows⟩ := ChunkWriter.reach_follows kinds opening (by simp)
      exact ChunkWriter.follows_ends kinds run stopped follows
    · intro trace' w reach' ticks' stopped'
      obtain ⟨log', status', follows⟩ := ChunkWriter.reach_follows kinds reach' ticks'
      obtain ⟨sent', run'⟩ := follows.1
      obtain ⟨same, _, _⟩ :=
        run'.ended_unique (ChunkWriter.follows_finished follows stopped') run stopped
      rw [follows.2.1.calls, records.calls, same]
    · intro call member
      obtain ⟨chunk, tried, rfl⟩ := List.mem_map.mp (records.calls ▸ member)
      exact ⟨chunk, run.log_subset tried, rfl⟩
    · rw [records.calls, ChunkRun.produced run]
      rfl
    · intro e failed
      cases status with
      | left _ => simp [Attempts.Status.result] at failed
      | failed e' =>
        cases Option.some.inj failed
        simpa [records.calls] using ChunkRun.firstError run

end Writev

/-- The second chunk meets a full queue once, the third another error. -/
def fullQueueOutcome : Nat → Option JsError
  | 1 => some { message := "Local: Queue full", code := some ErrorCode.errQueueFull }
  | 3 => some { message := "Broker: Unknown topic", code := some 3 }
  | _ => none

def threeBuffers : List JsValue := [.buffer [1], .buffer [2], .buffer [3]]

theorem writev_refines_writes_fullQueue :
    ∃ batch, Reach (ProducerStream.step fullQueueOutcome fun _ => none)
        ((ProducerStream.connected false true (.string "t")).writev fullQueueOutcome (fun _ => none)
          threeBuffers 0) [.timer] batch ∧
      batch.produceCalls.length = 4 ∧
      (∀ call ∈ batch.produceCalls, ∃ chunk ∈ threeBuffers, call = [.string "t", .null, chunk, .null]) ∧
      ∃ sent err, sent <+: threeBuffers ∧
        (produced fullQueueOutcome batch.produceCalls =
          sent.map fun chunk => [.string "t", .null, chunk, .null]) ∧
        batch.writevCalls = [(0, err)] ∧ (err = none ↔ sent = threeBuffers) := by
  obtain ⟨batch, reach, ended, attempts⟩ : ∃ batch,
      Reach (ProducerStream.step fullQueueOutcome fun _ => none)
        ((ProducerStream.connected false true (.string "t")).writev fullQueueOutcome (fun _ => none)
          threeBuffers 0) [.timer] batch ∧ batch.Ended ∧ batch.produceCalls.length = 4 :=
    ⟨_, reach_iff_replay.mpr rfl, ⟨rfl, rfl⟩, rfl⟩
  obtain ⟨_, _, passed, sent, err, front, accepted, calls, _, complete, _⟩ :=
    writev_refines_writes (by simp [threeBuffers]) (by simp [threeBuffers, Expected]) reach
      (by simp [StreamEvent.Tick]) ended
  exact ⟨batch, reach, attempts, passed, sent, err, front, accepted, calls, complete⟩

end NodeRdkafka

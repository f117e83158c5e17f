import NodeRdkafka.Lib.Reach
import NodeRdkafka.ProducerStream

namespace NodeRdkafka
open Transition

/-- What happens to a stream in use: an event of the stream, a call of close by
the application, 'finish', and a change of the flags of its producer. -/
inductive StreamUseEvent
  | stream (event : StreamEvent)
  | close
  | finish
  | producer (isConnected isConnecting : Bool)

namespace ProducerStream

/-- The constructor. It connects a producer that is not connected. -/
def create (objectMode autoClose : Bool) (topicName : JsValue) (isConnected : Bool) : ProducerStream :=
  { objectMode, autoClose, topicName, isConnected, isConnecting := !isConnected }

/-- The listener of 'finish'. -/
def finish (s : ProducerStream) : ProducerStream := if s.autoClose then s.close else s

end ProducerStream

/-- A stream, with the disconnect calls that the application's calls of close
have made, and how many of these calls wait for 'ready'. -/
structure StreamUse where
  stream : ProducerStream
  asked : Nat := 0
  asking : Nat := 0

def StreamUse.step (outcome callbackThrows : Nat → Option JsError) (u : StreamUse) :
    StreamUseEvent → Option StreamUse
  | .stream .producerReady => (u.stream.step outcome callbackThrows .producerReady).map fun stream =>
    { stream, asked := u.asked + u.asking, asking := 0 }
  | .stream event => (u.stream.step outcome callbackThrows event).map fun stream => { u with stream }
  | .close =>
    if u.stream.isConnected then some { u with stream := u.stream.close, asked := u.asked + 1 }
    else if u.stream.isConnecting then some { u with stream := u.stream.close, asking := u.asking + 1 }
    else some { u with stream := u.stream.close }
  | .finish => some { u with stream := u.stream.finish }
  | .producer isConnected isConnecting => some { u with stream := { u.stream with isConnected, isConnecting } }

/-- A stream over a producer that is connected or about to be. -/
def StreamUse.create (objectMode autoClose : Bool) (topicName : JsValue) (isConnected : Bool) : StreamUse :=
  { stream := .create objectMode autoClose topicName isConnected }

namespace ProducerStream

/-- What attempt number `k` to produce throws. -/
def thrown (outcome : Nat → Option JsError) (s : ProducerStream) (k : Nat) : Option JsError :=
  if s.isConnected then outcome k else some { message := "Producer not connected" }

/-- An error other than that of a full queue. -/
def IsFailure (thrown : Option JsError) : Prop := ∃ e ∈ thrown, e.code ≠ some ErrorCode.errQueueFull

/-- The first exception that writev catches in a batch of `count` chunks is a
failure: an attempt meets it, or all chunks are through and the callback
throws it. -/
def BatchFails (outcome callbackThrows : Nat → Option JsError) (s : ProducerStream) (count : Nat) : Prop :=
  (∃ i < count, IsFailure (s.thrown outcome (s.produceCalls.length + i)) ∧
    ∀ j < i, s.thrown outcome (s.produceCalls.length + j) = none) ∨
  (0 < count ∧ (∀ j < count, s.thrown outcome (s.produceCalls.length + j) = none) ∧
    IsFailure (callbackThrows s.callbacks.length))

/-- The chunks that an event makes the stream produce as one batch. -/
def batch (s : ProducerStream) : StreamEvent → Option (List JsValue)
  | .writev chunks _ => if s.isConnected then some chunks else none
  | .timer => match s.timers with
    | .writev _ restChunks :: _ => some restChunks
    | _ => none
  | _ => none

def isClose : ReadyListener → Bool
  | .close => true
  | .write .. => false

/-- The calls of close that wait for the producer. -/
def waitingCloses (s : ProducerStream) : Nat := s.producerReady.countP isClose

/-- What decides and what counts the calls of disconnect is the same in both. -/
structure SameCloses (s t : ProducerStream) : Prop where
  autoClose : t.autoClose = s.autoClose
  online : t.isConnected = s.isConnected
  connecting : t.isConnecting = s.isConnecting
  calls : t.disconnectCalls = s.disconnectCalls
  waiting : t.waitingCloses = s.waitingCloses

theorem SameCloses.refl (s : ProducerStream) : SameCloses s s := ⟨rfl, rfl, rfl, rfl, rfl⟩

theorem SameCloses.trans {s t u : ProducerStream} (first : SameCloses s t) (second : SameCloses t u) :
    SameCloses s u :=
  ⟨second.autoClose.trans first.autoClose, second.online.trans first.online,
    second.connecting.trans first.connecting, second.calls.trans first.calls, second.waiting.trans first.waiting⟩

/-- What one call of close adds to the count of disconnect calls. -/
structure ClosedOnce (s t : ProducerStream) : Prop where
  autoClose : t.autoClose = s.autoClose
  calls : t.disconnectCalls = s.disconnectCalls + if s.isConnected then 1 else 0
  waiting : t.waitingCloses = s.waitingCloses + if !s.isConnected && s.isConnecting then 1 else 0

theorem close_closedOnce (s : ProducerStream) : ClosedOnce s s.close := by
  unfold close
  cases online : s.isConnected <;> cases connecting : s.isConnecting <;>
    exact ⟨by simp, by simp [online], by simp [waitingCloses, isClose, online, connecting]⟩

theorem ClosedOnce.of_same {s t u v : ProducerStream} (before : SameCloses s t) (closed : ClosedOnce t u)
    (after : SameCloses u v) : ClosedOnce s v :=
  ⟨after.autoClose.trans (closed.autoClose.trans before.autoClose),
    by rw [after.calls, closed.calls, before.calls, before.online],
    by rw [after.waiting, closed.waiting, before.waiting, before.online, before.connecting]⟩

section Steps
variable {outcome callbackThrows : Nat → Option JsError} {s t : ProducerStream}

theorem produce_eq (arguments : List JsValue) :
    s.produce outcome arguments =
      ({ s with produceCalls := s.produceCalls ++ [arguments] }, s.thrown outcome s.produceCalls.length) := rfl

theorem produced_same (s : ProducerStream) (arguments : List JsValue) :
    SameCloses s { s with produceCalls := s.produceCalls ++ [arguments] } := ⟨rfl, rfl, rfl, rfl, rfl⟩

/-- A single write closes nothing without autoClose. -/
theorem writeChunk_same {arguments : List JsValue} {data : JsValue} {cb : Nat} (keep : s.autoClose = false) :
    SameCloses s (s.writeChunk outcome arguments data cb) := by
  unfold writeChunk
  split
  · rw [produce_eq]
    cases s.thrown outcome s.produceCalls.length with
    | none => exact ⟨rfl, rfl, rfl, rfl, rfl⟩
    | some e =>
      dsimp only
      split
      · exact ⟨rfl, rfl, rfl, rfl, rfl⟩
      · simp only [keep, Bool.false_eq_true, if_false]
        exact ⟨keep.symm, rfl, rfl, rfl, rfl⟩
  · exact ⟨rfl, rfl, rfl, rfl, by simp [waitingCloses, isClose]⟩

theorem write_same {data : JsValue} {cb : Nat} (keep : s.autoClose = false) :
    SameCloses s (s.write outcome data cb) := by
  unfold write writeMessage writeBuffer
  split
  · exact writeChunk_same keep
  · split
    · exact writeChunk_same keep
    · exact ⟨rfl, rfl, rfl, rfl, rfl⟩

/-- The stream is closed once if something fails, and not at all otherwise. -/
def ClosesIf (fails : Prop) (s t : ProducerStream) : Prop :=
  (fails → ClosedOnce s t) ∧ (¬ fails → SameCloses s t)

theorem ClosesIf.of_same {fails fails' : Prop} {u : ProducerStream} (before : SameCloses s t)
    (closes : ClosesIf fails t u) (alike : fails' ↔ fails) : ClosesIf fails' s u :=
  ⟨fun failed => .of_same before (closes.1 (alike.mp failed)) (.refl u),
    fun fine => before.trans (closes.2 fun failed => fine (alike.mpr failed))⟩

theorem SameCloses.closesIf {fails : Prop} (same : SameCloses s t) (fine : ¬ fails) : ClosesIf fails s t :=
  ⟨fun failed => absurd failed fine, fun _ => same⟩

variable (callbackThrows) in
/-- The catch block closes the stream on any error but that of a full queue,
whatever autoClose. -/
theorem writevCatch_closes (s : ProducerStream) (restChunks : List JsValue) (cb : Nat) (e : JsError) :
    ClosesIf (IsFailure (some e)) s (s.writevCatch callbackThrows restChunks cb e) := by
  have failure : IsFailure (some e) ↔ e.code ≠ some ErrorCode.errQueueFull := by simp [IsFailure]
  rw [failure, writevCatch]
  split
  · rename_i full
    exact SameCloses.closesIf ⟨rfl, rfl, rfl, rfl, rfl⟩ (not_not.mpr full)
  · rename_i other
    refine ⟨fun _ => ?_, fun full => absurd other full⟩
    exact .of_same (t := { s with writevCalls := s.writevCalls ++ [(cb, some e)] })
      ⟨rfl, rfl, rfl, rfl, rfl⟩ (close_closedOnce _) ⟨rfl, rfl, rfl, rfl, rfl⟩

theorem thrown_eq_of_same (same : SameCloses s t) (k : Nat) : t.thrown outcome k = s.thrown outcome k := by
  rw [thrown, thrown, same.online]

/-- Past a chunk that was produced the batch fails if the rest of it does. -/
theorem batchFails_succ {count : Nat} (more : 0 < count) (same : SameCloses s t)
    (calls : t.produceCalls.length = s.produceCalls.length + 1) (called : t.callbacks = s.callbacks)
    (through : s.thrown outcome s.produceCalls.length = none) :
    s.BatchFails outcome callbackThrows (count + 1) ↔ t.BatchFails outcome callbackThrows count := by
  have shift : ∀ j, t.thrown outcome (t.produceCalls.length + j) =
      s.thrown outcome (s.produceCalls.length + (j + 1)) := by
    intro j
    rw [thrown_eq_of_same same, calls, Nat.add_assoc, Nat.add_comm 1 j]
  have quiet : ∀ n, (∀ j < n + 1, s.thrown outcome (s.produceCalls.length + j) = none) ↔
      ∀ j < n, t.thrown outcome (t.produceCalls.length + j) = none := by
    intro n
    constructor
    · intro all j inside
      rw [shift]
      exact all (j + 1) (by omega)
    · intro all j inside
      cases j with
      | zero => exact through
      | succ j => exact (shift j).symm.trans (all j (by omega))
  rw [BatchFails, BatchFails, quiet, called]
  refine or_congr ?_ (by simp [more])
  constructor
  · rintro ⟨i, inside, failure, before⟩
    cases i with
    | zero => simp [IsFailure, through] at failure
    | succ i => exact ⟨i, by omega, by rwa [shift], (quiet i).mp before⟩
  · rintro ⟨i, inside, failure, before⟩
    exact ⟨i + 1, by omega, by rwa [← shift], (quiet i).mpr before⟩

/-- With its last chunk produced a batch fails if its callback throws a failure. -/
theorem batchFails_one (through : s.thrown outcome s.produceCalls.length = none) :
    s.BatchFails outcome callbackThrows 1 ↔ IsFailure (callbackThrows s.callbacks.length) := by
  have met : ∀ i < 1, s.thrown outcome (s.produceCalls.length + i) = none := by
    intro i inside
    rwa [Nat.lt_one_iff.mp inside]
  constructor
  · rintro (⟨i, inside, failure, _⟩ | ⟨_, _, failure⟩)
    · simp [IsFailure, met i inside] at failure
    · exact failure
  · exact fun failure => .inr ⟨Nat.one_pos, met, failure⟩

/-- A batch whose first attempt throws fails if that is a failure. -/
theorem batchFails_first {count : Nat} {e : JsError}
    (threw : s.thrown outcome s.produceCalls.length = some e) :
    s.BatchFails outcome callbackThrows (count + 1) ↔ IsFailure (some e) := by
  constructor
  · rintro (⟨i, _, failure, before⟩ | ⟨_, through, _⟩)
    · cases i with
      | zero => simpa [threw] using failure
      | succ i => simpa [threw] using before 0 (by omega)
    · simpa [threw] using through 0 (by omega)
  · intro failure
    exact .inl ⟨0, by omega, by simpa [threw] using failure, by simp⟩

/-- A batch closes the stream once when it fails and not otherwise. -/
theorem writevLoop_closes (outcome callbackThrows : Nat → Option JsError) (s : ProducerStream)
    (chunks : List JsValue) {total doneCount : Nat} (cb : Nat) (size : doneCount + chunks.length = total) :
    ClosesIf (s.BatchFails outcome callbackThrows chunks.length) s
      (writevLoop outcome callbackThrows total cb chunks doneCount s) := by
  induction chunks generalizing s doneCount with
  | nil =>
    refine (SameCloses.refl s).closesIf ?_
    rintro (⟨i, inside, _⟩ | ⟨positive, _⟩)
    · exact absurd inside (Nat.not_lt_zero i)
    · exact absurd positive (Nat.lt_irrefl 0)
  | cons chunk rest ih =>
    simp only [writevLoop, writevTry, produce_eq, List.length_cons]
    generalize (if chunk.isBuffer then bufferArguments s.topicName chunk else messageArguments chunk) = arguments
    have called := produced_same s arguments
    cases attempt : s.thrown outcome s.produceCalls.length with
    | none =>
      dsimp only
      by_cases last : rest = []
      · subst last
        have counted : doneCount + 1 = total := by simpa using size
        simp only [maybeDone, if_pos counted, writevCallback, Option.isSome_none, Bool.false_eq_true,
          if_false, List.length_nil, Nat.zero_add, writevLoop]
        have told : SameCloses s { s with
            produceCalls := s.produceCalls ++ [arguments]
            writevCalls := s.writevCalls ++ [(cb, none)]
            callbacks := s.callbacks ++ [(cb, none)] } := ⟨rfl, rfl, rfl, rfl, rfl⟩
        rw [batchFails_one attempt]
        -- what the callback throws is caught like what produce throws
        cases callbackThrows s.callbacks.length with
        | none => exact told.closesIf (by simp [IsFailure])
        | some e => exact .of_same told (writevCatch_closes callbackThrows _ [chunk] cb e) Iff.rfl
      · have more := List.length_pos_iff.mpr last
        have uncounted : doneCount + 1 ≠ total := by
          simp only [List.length_cons] at size
          omega
        simp only [maybeDone, if_neg uncounted]
        refine .of_same called (ih _ ?_) (batchFails_succ more called (by simp) rfl attempt)
        simp only [List.length_cons] at size
        omega
    | some e =>
      exact .of_same called (writevCatch_closes callbackThrows _ (chunk :: rest) cb e) (batchFails_first attempt)

/-- A step in which the stream adds `n` disconnect calls to those that it has
made or that wait for its producer. -/
structure Adds (n : Nat) (s t : ProducerStream) : Prop where
  autoClose : t.autoClose = s.autoClose
  total : t.disconnectCalls + t.waitingCloses = s.disconnectCalls + s.waitingCloses + n
  calls : s.disconnectCalls ≤ t.disconnectCalls
  waiting : s.waitingCloses ≤ t.waitingCloses

theorem SameCloses.adds (same : SameCloses s t) : Adds 0 s t :=
  ⟨same.autoClose, by rw [same.calls, same.waiting, Nat.add_zero], same.calls.ge, same.waiting.ge⟩

theorem ClosedOnce.adds (closed : ClosedOnce s t) (possible : s.isConnected ∨ s.isConnecting) : Adds 1 s t := by
  have calls := closed.calls
  have waiting := closed.waiting
  refine ⟨closed.autoClose, ?_, by omega, by omega⟩
  cases online : s.isConnected <;> simp [online] at possible calls waiting
  · simp only [possible, if_true] at waiting
    omega
  · omega

/-- A close with no producer to wait for only schedules 'close'. -/
theorem ClosedOnce.adds_none (closed : ClosedOnce s t) (impossible : ¬ (s.isConnected ∨ s.isConnecting)) :
    Adds 0 s t := by
  obtain ⟨offline, idle⟩ : s.isConnected = false ∧ s.isConnecting = false := by simpa using impossible
  have calls := closed.calls
  have waiting := closed.waiting
  simp only [offline, idle, Bool.not_false, Bool.and_false, Bool.false_eq_true, if_false] at calls waiting
  exact ⟨closed.autoClose, by omega, by omega, by omega⟩

/-- A batch that fails while there is a producer to disconnect, now or when it
is ready. -/
def FailedBatch (outcome callbackThrows : Nat → Option JsError) (s : ProducerStream)
    (event : StreamEvent) : Prop :=
  (s.isConnected ∨ s.isConnecting) ∧
    ∃ chunks ∈ s.batch event, s.BatchFails outcome callbackThrows chunks.length

theorem writevFrom_adds {event : StreamEvent} {base : ProducerStream} {chunks : List JsValue} {cb : Nat}
    (batch : s.batch event = some chunks) (same : SameCloses s base)
    (calls : base.produceCalls = s.produceCalls) (called : base.callbacks = s.callbacks) :
    (s.FailedBatch outcome callbackThrows event →
        Adds 1 s (base.writevFrom outcome callbackThrows chunks cb)) ∧
      (¬ s.FailedBatch outcome callbackThrows event →
        Adds 0 s (base.writevFrom outcome callbackThrows chunks cb)) := by
  have fails : s.BatchFails outcome callbackThrows chunks.length ↔
      base.BatchFails outcome callbackThrows chunks.length := by
    simp only [BatchFails, thrown_eq_of_same same, calls, called]
  obtain ⟨closes, keeps⟩ := ClosesIf.of_same same
    (writevLoop_closes outcome callbackThrows base chunks cb (Nat.zero_add _)) fails
  by_cases failed : s.BatchFails outcome callbackThrows chunks.length
  · have closed : ClosedOnce s (base.writevFrom outcome callbackThrows chunks cb) := closes failed
    refine ⟨fun ⟨possible, _⟩ => closed.adds possible, fun spared => closed.adds_none fun possible => ?_⟩
    exact spared ⟨possible, chunks, by simp [batch], failed⟩
  · refine ⟨?_, fun _ => (keeps failed).adds⟩
    rintro ⟨_, other, atBatch, otherFails⟩
    cases batch ▸ atBatch
    exact absurd otherFails failed

/-- An event that makes the stream produce no batch closes nothing. -/
theorem no_batch_adds {event : StreamEvent} (batch : s.batch event = none) (adds : Adds 0 s t) :
    (s.FailedBatch outcome callbackThrows event → Adds 1 s t) ∧
      (¬ s.FailedBatch outcome callbackThrows event → Adds 0 s t) := by
  refine ⟨?_, fun _ => adds⟩
  rintro ⟨_, chunks, atBatch, _⟩
  simp [batch] at atBatch

theorem step_adds {event : StreamEvent} (keep : s.autoClose = false) (waits : event ≠ .producerReady)
    (run : s.step outcome callbackThrows event = some t) :
    (s.FailedBatch outcome callbackThrows event → Adds 1 s t) ∧
      (¬ s.FailedBatch outcome callbackThrows event → Adds 0 s t) := by
  cases event with
  | write data cb =>
    cases Option.some.inj run
    exact no_batch_adds rfl (write_same keep).adds
  | writev chunks cb =>
    cases Option.some.inj run
    cases online : s.isConnected with
    | true =>
      simp only [writev, online, if_true]
      exact writevFrom_adds (by simp [batch, online]) (.refl s) rfl rfl
    | false =>
      simp only [writev, online, Bool.false_eq_true, if_false]
      exact no_batch_adds (by simp [batch, online]) ⟨rfl, rfl, le_rfl, le_rfl⟩
  | timer =>
    cases due : s.timers with
    | nil => simp [step, due] at run
    | cons task rest =>
      simp only [step, due, Option.some.injEq] at run
      subst run
      have popped : SameCloses s { s with timers := rest } := ⟨rfl, rfl, rfl, rfl, rfl⟩
      cases task with
      | write cb data => exact no_batch_adds (by simp [batch, due]) (popped.trans (write_same keep)).adds
      | writev cb restChunks => exact writevFrom_adds (by simp [batch, due]) popped rfl rfl
  | immediate =>
    cases due : s.immediates with
    | nil => simp [step, due] at run
    | cons task rest =>
      simp only [step, due, Option.some.injEq] at run
      subst run
      cases task <;> exact no_batch_adds rfl ⟨rfl, rfl, le_rfl, le_rfl⟩
  | producerReady => exact absurd rfl waits
  | producerDisconnected =>
    cases Option.some.inj run
    exact no_batch_adds rfl ⟨rfl, rfl, le_rfl, le_rfl⟩

/-- On 'ready' the calls of close that waited disconnect, and no other. -/
theorem runReady_closes {listeners : List ReadyListener} (keep : s.autoClose = false)
    (online : s.isConnected = true) :
    (listeners.foldl (runReady outcome) s).autoClose = false ∧
      (listeners.foldl (runReady outcome) s).disconnectCalls = s.disconnectCalls + listeners.countP isClose ∧
      (listeners.foldl (runReady outcome) s).waitingCloses = s.waitingCloses := by
  induction listeners generalizing s with
  | nil => exact ⟨keep, rfl, rfl⟩
  | cons listener rest ih =>
    cases listener with
    | write cb data =>
      have same : SameCloses s (s.write outcome data cb) := write_same keep
      obtain ⟨kept, calls, waiting⟩ := ih (same.autoClose.trans keep) (same.online.trans online)
      refine ⟨kept, ?_, waiting.trans same.waiting⟩
      simpa [runReady, isClose, same.calls] using calls
    | close =>
      have closed : s.close = { s with disconnectCalls := s.disconnectCalls + 1 } := by
        simp only [close, online, if_true]
      obtain ⟨kept, calls, waiting⟩ := ih (s := s.close) (by rw [closed]; exact keep) (by rw [closed]; exact online)
      refine ⟨kept, ?_, waiting.trans (by rw [closed]; rfl)⟩
      rw [List.foldl_cons, runReady, calls, closed, List.countP_cons, isClose, if_pos rfl]
      exact Nat.add_right_comm ..

theorem ready_closes (keep : s.autoClose = false) (run : s.step outcome callbackThrows .producerReady = some t) :
    t.autoClose = false ∧ t.disconnectCalls = s.disconnectCalls + s.waitingCloses ∧ t.waitingCloses = 0 := by
  cases Option.some.inj run
  exact runReady_closes
    (s := { s with isConnected := true, isConnecting := false, producerReady := [] }) keep rfl

end Steps
end ProducerStream

namespace StreamUse

/-- A step in which a batch fails while there is a producer to disconnect. -/
def FailedBatch (outcome callbackThrows : Nat → Option JsError) (u : StreamUse) : StreamUseEvent → Prop
  | .stream event => u.stream.FailedBatch outcome callbackThrows event
  | _ => False

/-- Every disconnect call, made or waiting for 'ready', is one that the
application has asked for by calling close. -/
structure OnRequest (u : StreamUse) : Prop where
  calls : u.stream.disconnectCalls = u.asked
  waiting : u.stream.waitingCloses = u.asking

/-- What the application has asked for is done or waits. -/
structure Accounted (u : StreamUse) : Prop where
  autoClose : u.stream.autoClose = false
  calls : u.asked ≤ u.stream.disconnectCalls
  waiting : u.asking ≤ u.stream.waitingCloses

variable {outcome callbackThrows : Nat → Option JsError} {u v : StreamUse} {event : StreamUseEvent}

theorem Accounted.onRequest_iff (accounted : u.Accounted) :
    u.OnRequest ↔ u.stream.disconnectCalls + u.stream.waitingCloses = u.asked + u.asking := by
  have calls := accounted.calls
  have waiting := accounted.waiting
  exact ⟨fun request => by rw [request.calls, request.waiting], fun total => ⟨by omega, by omega⟩⟩

/-- What the application has asked for is kept, and the stream adds `n` calls of its own. -/
theorem Accounted.adds {n : Nat} {t : ProducerStream} (accounted : u.Accounted)
    (adds : ProducerStream.Adds n u.stream t) :
    Accounted { u with stream := t } ∧ (OnRequest { u with stream := t } ↔ u.OnRequest ∧ n = 0) := by
  have calls := accounted.calls
  have waiting := accounted.waiting
  have total := adds.total
  have kept : Accounted { u with stream := t } :=
    ⟨adds.autoClose.trans accounted.autoClose, calls.trans adds.calls, waiting.trans adds.waiting⟩
  refine ⟨kept, ?_⟩
  rw [kept.onRequest_iff, accounted.onRequest_iff]
  dsimp only
  omega

theorem Accounted.ready {t : ProducerStream} (accounted : u.Accounted)
    (run : u.stream.step outcome callbackThrows .producerReady = some t) :
    Accounted { stream := t, asked := u.asked + u.asking, asking := 0 } ∧
      (OnRequest { stream := t, asked := u.asked + u.asking, asking := 0 } ↔ u.OnRequest) := by
  obtain ⟨kept, calls, waiting⟩ := ProducerStream.ready_closes accounted.autoClose run
  have some_asked := accounted.calls
  have some_asking := accounted.waiting
  have after : Accounted { stream := t, asked := u.asked + u.asking, asking := 0 } :=
    ⟨kept, by dsimp only; omega, by dsimp only; omega⟩
  refine ⟨after, ?_⟩
  rw [after.onRequest_iff, accounted.onRequest_iff]
  dsimp only
  omega

/-- A call of close by the application adds one call on both sides, or none. -/
theorem Accounted.close (accounted : u.Accounted) (run : u.step outcome callbackThrows .close = some v) :
    v.Accounted ∧ (v.OnRequest ↔ u.OnRequest) := by
  have closed := ProducerStream.close_closedOnce u.stream
  have keep := closed.autoClose.trans accounted.autoClose
  have calls := closed.calls
  have waiting := closed.waiting
  have some_asked := accounted.calls
  have some_asking := accounted.waiting
  rw [accounted.onRequest_iff]
  unfold step at run
  cases online : u.stream.isConnected <;> cases connecting : u.stream.isConnecting <;>
    simp only [online, connecting, Bool.not_true, Bool.not_false, Bool.and_true, Bool.and_false,
      Bool.false_eq_true, if_true, if_false, Option.some.injEq] at calls waiting run <;> subst run
  · have after : Accounted { u with stream := u.stream.close } := ⟨keep, by dsimp only; omega, by dsimp only; omega⟩
    exact ⟨after, by rw [after.onRequest_iff]; dsimp only; omega⟩
  · have after : Accounted { u with stream := u.stream.close, asking := u.asking + 1 } :=
      ⟨keep, by dsimp only; omega, by dsimp only; omega⟩
    exact ⟨after, by rw [after.onRequest_iff]; dsimp only; omega⟩
  all_goals
    have after : Accounted { u with stream := u.stream.close, asked := u.asked + 1 } :=
      ⟨keep, by dsimp only; omega, by dsimp only; omega⟩
    exact ⟨after, by rw [after.onRequest_iff]; dsimp only; omega⟩

theorem stream_step (accounted : u.Accounted) {event : StreamEvent} (waits : event ≠ .producerReady)
    (run : u.step outcome callbackThrows (.stream event) = some v) :
    v.Accounted ∧ (v.OnRequest ↔ u.OnRequest ∧ ¬ u.stream.FailedBatch outcome callbackThrows event) := by
  obtain ⟨t, moved, rfl⟩ : ∃ t, u.stream.step outcome callbackThrows event = some t ∧
      v = { u with stream := t } := by
    cases event with
    | producerReady => exact absurd rfl waits
    | _ =>
      simp only [step, Option.map_eq_some_iff] at run
      obtain ⟨t, moved, same⟩ := run
      exact ⟨t, moved, same.symm⟩
  obtain ⟨fails, spares⟩ := ProducerStream.step_adds accounted.autoClose waits moved
  by_cases failed : u.stream.FailedBatch outcome callbackThrows event
  · obtain ⟨kept, request⟩ := accounted.adds (fails failed)
    exact ⟨kept, request.trans (by simp [failed])⟩
  · obtain ⟨kept, request⟩ := accounted.adds (spares failed)
    exact ⟨kept, request.trans (by simp [failed])⟩

/-- One step keeps the account, and adds a call of the stream's own exactly when a batch fails. -/
theorem step_onRequest (accounted : u.Accounted) (run : u.step outcome callbackThrows event = some v) :
    v.Accounted ∧ (v.OnRequest ↔ u.OnRequest ∧ ¬ u.FailedBatch outcome callbackThrows event) := by
  cases event with
  | stream event =>
    by_cases ready : event = .producerReady
    · subst ready
      simp only [step, Option.map_eq_some_iff] at run
      obtain ⟨t, moved, rfl⟩ := run
      obtain ⟨kept, request⟩ := accounted.ready moved
      refine ⟨kept, request.trans ?_⟩
      simp [FailedBatch, ProducerStream.FailedBatch, ProducerStream.batch]
    · exact stream_step accounted ready run
  | close =>
    obtain ⟨kept, request⟩ := accounted.close run
    exact ⟨kept, request.trans (by simp [FailedBatch])⟩
  | finish =>
    cases Option.some.inj run
    have ignored : u.stream.finish = u.stream := by simp [ProducerStream.finish, accounted.autoClose]
    rw [ignored]
    exact ⟨accounted, by simp [FailedBatch]⟩
  | producer isConnected isConnecting =>
    cases Option.some.inj run
    obtain ⟨kept, request⟩ := accounted.adds (n := 0)
      (t := { u.stream with isConnected, isConnecting }) ⟨rfl, rfl, le_rfl, le_rfl⟩
    exact ⟨kept, request.trans (by simp [FailedBatch])⟩

end StreamUse

/-- A stream without autoClose disconnects on request only, in all its runs in
which no batch fails, and in no other. A single write that fails closes
nothing; a batch closes the stream without asking for autoClose, and it fails
as well when all of it is produced and its callback throws. -/
theorem disconnects_on_request_iff {outcome callbackThrows : Nat → Option JsError}
    {objectMode isConnected : Bool} {topicName : JsValue} {trace : List StreamUseEvent} {u : StreamUse}
    (reach : Reach (StreamUse.step outcome callbackThrows)
      (.create objectMode false topicName isConnected) trace u) :
    u.OnRequest ↔
      ReachWhile (fun before event => ¬ before.FailedBatch outcome callbackThrows event)
        (StreamUse.step outcome callbackThrows) (.create objectMode false topicName isConnected) trace u :=
  (reach.good_iff_while StreamUse.Accounted StreamUse.OnRequest ⟨rfl, le_rfl, le_rfl⟩ ⟨rfl, rfl⟩
    StreamUse.step_onRequest).2

/-- An error of produce that is not that of a full queue. -/
def tooLarge : JsError := { message := "Broker: Message size too large", code := some 10 }

/-- A single write whose produce fails: the run of a stream that the
application closes after it. -/
theorem closed_after_failed_write :
    ∃ u, Reach (StreamUse.step (fun _ => some tooLarge) fun _ => none) (.create false false (.string "t") true)
        [.stream (.write (.buffer [1]) 0), .close] u ∧ u.OnRequest ∧ u.stream.disconnectCalls = 1 := by
  have written : ReachWhile (fun before event => ¬ before.FailedBatch (fun _ => some tooLarge) (fun _ => none) event)
      (StreamUse.step (fun _ => some tooLarge) fun _ => none) (.create false false (.string "t") true)
      [.stream (.write (.buffer [1]) 0)] _ :=
    .next .start (by simp [StreamUse.FailedBatch, ProducerStream.FailedBatch, ProducerStream.batch]) rfl
  obtain ⟨u, closed, disconnected⟩ : ∃ u,
      ReachWhile (fun before event => ¬ before.FailedBatch (fun _ => some tooLarge) (fun _ => none) event)
        (StreamUse.step (fun _ => some tooLarge) fun _ => none) (.create false false (.string "t") true)
        [.stream (.write (.buffer [1]) 0), .close] u ∧ u.stream.disconnectCalls = 1 :=
    ⟨_, written.next (by simp [StreamUse.FailedBatch]) rfl, rfl⟩
  exact ⟨u, closed.reach, (disconnects_on_request_iff closed.reach).mpr closed, disconnected⟩

/-- A batch whose first produce fails, in a stream without autoClose that the
application does not close: the stream disconnects the producer. -/
theorem failed_batch_disconnects :
    ∃ u, Reach (StreamUse.step (fun _ => some tooLarge) fun _ => none) (.create false false (.string "t") true)
        [.stream (.writev [.buffer [1], .buffer [2]] 0)] u ∧ u.stream.autoClose = false ∧
      u.asked = 0 ∧ u.asking = 0 ∧ u.stream.disconnectCalls = 1 :=
  ⟨_, reach_iff_replay.mpr rfl, rfl, rfl, rfl, rfl⟩

/-- A batch that meets a full queue once, is produced by its retry, and whose
callback throws there: the stream disconnects the producer too. -/
example : ∃ u, Reach
    (StreamUse.step
      (fun k => if k = 1 then some { message := "Queue full", code := some ErrorCode.errQueueFull } else none)
      fun _ => some { message := "thrown by a listener" })
    (.create false false (.string "t") true)
    [.stream (.writev [.buffer [1], .buffer [2]] 0), .stream .timer] u ∧
    u.asked = 0 ∧ u.asking = 0 ∧ u.stream.produceCalls.length = 3 ∧ u.stream.disconnectCalls = 1 :=
  ⟨_, reach_iff_replay.mpr rfl, rfl, rfl, rfl, rfl⟩

end NodeRdkafka

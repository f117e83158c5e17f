import NodeRdkafka.ConsumeNumOrder
import NodeRdkafka.KafkaConsumerStreamOrder

namespace NodeRdkafka
open Transition

/-- A worker of a call of consume, with what its loop has taken from librdkafka. -/
structure ConsumeWorker where
  worker : ConsumeNum
  answers : List ConsumeAnswer := []

/-- A stream, the workers of its calls of consume in the order of the calls, and all
that librdkafka has answered to them. -/
structure ConsumePipeline where
  stream : KafkaConsumerStream LibrdKafkaError
  workers : List ConsumeWorker := []
  dequeued : List ConsumeAnswer := []

inductive ConsumeAction
  | stream (action : StreamAction LibrdKafkaError)
  | dequeue (index : Nat) (answer : ConsumeAnswer)
  | complete (index : Nat)

def Fetch.start (timeoutMs : Int) (fetch : Fetch) : ConsumeWorker :=
  { worker := .create (UInt32.ofNat fetch.fetchSize) timeoutMs }

namespace ConsumePipeline
section
variable (err2str : ErrorCode → String) (toLowerCase : String → String) (timeoutMs : Int)

/-- A call of consume queues a worker. The workers run on threads of their own; one that
has left its loop calls back. A size of zero, which is no call of _consumeNum, is not asked for. -/
def step (s : ConsumePipeline) : ConsumeAction → Option ConsumePipeline
  | .stream (.consumed _ _) => none
  | .stream action =>
    (s.stream.step action).bind fun stream =>
      let fetches := stream.fetches.drop s.stream.fetches.length
      if fetches.all (0 < ·.fetchSize) then
        some { s with stream, workers := s.workers ++ fetches.map (·.start timeoutMs) }
      else none
  | .dequeue index answer =>
    s.workers[index]?.bind fun w => (w.worker.execute answer).map fun worker =>
      { s with workers := s.workers.set index ⟨worker, w.answers ++ [answer]⟩,
               dequeued := s.dequeued ++ [answer] }
  | .complete index =>
    s.workers[index]?.bind fun w =>
      if w.worker.running then none
      else
        (s.stream.step (.consumed index (w.worker.outcome err2str toLowerCase).callback)).map fun stream =>
          { s with stream, workers := s.workers.eraseIdx index }

def create (given : GivenStreamOptions) (consumer : StreamConsumer LibrdKafkaError) : ConsumePipeline :=
  { stream := .create given consumer }

end
end ConsumePipeline

namespace KafkaConsumerStream
variable {ε : Type}

/-- No result comes in, and each new call of consume is a fetch. -/
def Calls (s t : KafkaConsumerStream ε) : Prop :=
  t.results = s.results ∧ t.options = s.options ∧
    ∃ fetches, t.fetches = s.fetches ++ fetches ∧ t.consuming.length = s.consuming.length + fetches.length

theorem Calls.refl (s : KafkaConsumerStream ε) : s.Calls s := ⟨rfl, rfl, [], by simp, rfl⟩

theorem Calls.trans {s t u : KafkaConsumerStream ε} (first : s.Calls t) (second : t.Calls u) : s.Calls u := by
  obtain ⟨results, options, fetches, grown, count⟩ := first
  obtain ⟨results', options', fetches', grown', count'⟩ := second
  refine ⟨results'.trans results, options'.trans options, fetches ++ fetches', ?_, ?_⟩
  · rw [grown', grown, List.append_assoc]
  · simp only [List.length_append]; omega

theorem pushShift_calls (s : KafkaConsumerStream ε) : s.Calls s.pushShift := by
  unfold pushShift
  split <;> exact ⟨rfl, rfl, [], by simp [push], rfl⟩

theorem read_calls (s : KafkaConsumerStream ε) (size : Nat) : s.Calls (s.read size) := by
  unfold read
  split
  · exact s.pushShift_calls
  · split
    · exact ⟨rfl, rfl, [], by simp, rfl⟩
    · split
      · exact .refl s
      · exact ⟨rfl, rfl, _, rfl, by simp [consume]⟩

theorem close_calls (s : KafkaConsumerStream ε) : s.Calls s.close.1 := by
  unfold close
  repeat' split
  all_goals exact ⟨rfl, rfl, [], by simp [emitClose, onUnsubscribed, push], rfl⟩

theorem destroy_calls (s : KafkaConsumerStream ε) : s.Calls s.destroy.1 := by
  unfold destroy
  split
  · exact .refl s
  · exact (show s.Calls { s with destroyed := true } from ⟨rfl, rfl, [], by simp, rfl⟩).trans (close_calls _)

theorem emitError_calls (s : KafkaConsumerStream ε) (err : ε) : s.Calls (s.emitError err (·.destroy.1)) := by
  have emitted : s.Calls { s with errors := s.errors ++ [err] } := ⟨rfl, rfl, [], by simp, rfl⟩
  unfold emitError
  split
  · exact emitted.trans (destroy_calls _)
  · exact emitted

theorem emitReady_calls (listeners : List StreamListener) (s : KafkaConsumerStream ε) :
    s.Calls (s.emitReady listeners) := by
  induction listeners generalizing s with
  | nil => exact .refl s
  | cons listener later ih =>
    cases listener with
    | read size => exact (s.read_calls size).trans (ih _)
    | close =>
      have closed := s.close_calls
      unfold emitReady
      split
      · rename_i t returned
        rw [returned] at closed
        exact closed.trans (ih t)
      · rename_i t err thrown
        rw [thrown] at closed
        obtain ⟨results, options, fetches, grown, count⟩ := closed
        exact ⟨results, options, fetches, grown, count⟩

theorem step_calls {s t : KafkaConsumerStream ε} {action : StreamAction ε}
    (other : ∀ index result, action ≠ .consumed index result) (run : s.step action = some t) : s.Calls t := by
  cases action with
  | read size =>
    simp only [step, Option.ite_none_left_eq_some, Option.some.injEq] at run
    obtain ⟨_, rfl⟩ := run
    exact (show s.Calls { s with reading := true } from ⟨rfl, rfl, [], by simp, rfl⟩).trans (read_calls _ size)
  | consumed index result => exact absurd rfl (other index result)
  | timeout index =>
    obtain ⟨size, _, rfl⟩ := Option.map_eq_some_iff.mp run
    have taken : s.Calls { s with timers := s.timers.eraseIdx index } := ⟨rfl, rfl, [], by simp, rfl⟩
    exact taken.trans (read_calls _ size)
  | immediate index =>
    obtain ⟨size, _, rfl⟩ := Option.map_eq_some_iff.mp run
    have taken : s.Calls { s with immediates := s.immediates.eraseIdx index } := ⟨rfl, rfl, [], by simp, rfl⟩
    exact taken.trans (read_calls _ size)
  | ready =>
    cases Option.some.inj run
    exact (show s.Calls { s with readyListeners := [] } from ⟨rfl, rfl, [], by simp, rfl⟩).trans
      (emitReady_calls _ _)
  | consumer | connect | onError | unsubscribed =>
    cases Option.some.inj run
    exact ⟨rfl, rfl, [], by simp [KafkaConsumerStream.connect, onUnsubscribed, push], rfl⟩
  | connectCallback outcome =>
    simp only [step, Option.ite_none_left_eq_some, Option.some.injEq] at run
    obtain ⟨_, rfl⟩ := run
    refine (show s.Calls { s with connects := s.connects - 1 } from ⟨rfl, rfl, [], by simp, rfl⟩).trans ?_
    cases outcome with
    | failed err | subscribeThrew err => exact emitError_calls _ err
    | subscribed => exact .refl _
  | ended =>
    simp only [step, Option.ite_none_right_eq_some, Option.some.injEq] at run
    obtain ⟨_, rfl⟩ := run
    have ended : s.Calls { s with endListener := false } := ⟨rfl, rfl, [], by simp, rfl⟩
    split
    · exact ended.trans (destroy_calls _)
    · exact ended
  | destroy =>
    cases Option.some.inj run
    exact s.destroy_calls
  | close cb =>
    cases Option.some.inj run
    exact (show s.Calls { s with closeListeners := s.closeListeners ++ cb.toList } from
      ⟨rfl, rfl, [], by simp, rfl⟩).trans (close_calls _)
  | disconnected =>
    simp only [step, Option.ite_none_left_eq_some, Option.some.injEq] at run
    obtain ⟨_, rfl⟩ := run
    exact ⟨rfl, rfl, [], by simp [emitClose], rfl⟩

theorem retry_fields (s : KafkaConsumerStream ε) (size : Nat) : (s.retry size).results = s.results ∧
    (s.retry size).options = s.options ∧ (s.retry size).consuming = s.consuming ∧
    (s.retry size).fetches = s.fetches := by
  unfold retry
  split <;> exact ⟨rfl, rfl, rfl, rfl⟩

theorem onread_fields (item : JsValue → JsValue) (s : KafkaConsumerStream ε) (size : Nat)
    (result : Except ε (List JsValue)) : (s.onread item size result).results = s.results ++ [result] ∧
      (s.onread item size result).options = s.options ∧ (s.onread item size result).consuming = s.consuming ∧
      (s.onread item size result).fetches = s.fetches := by
  have shifted : ∀ t : KafkaConsumerStream ε, t.pushShift.results = t.results ∧ t.pushShift.options = t.options ∧
      t.pushShift.consuming = t.consuming ∧ t.pushShift.fetches = t.fetches := by
    intro t
    unfold pushShift
    split <;> exact ⟨rfl, rfl, rfl, rfl⟩
  cases result with
  | error err =>
    unfold onread emitError
    dsimp only
    split
    · exact retry_fields _ size
    · exact ⟨rfl, rfl, rfl, rfl⟩
  | ok messages =>
    unfold onread
    dsimp only
    split
    · exact retry_fields _ size
    · split
      · exact ⟨rfl, rfl, rfl, rfl⟩
      · exact shifted _

/-- A result comes in for the call that it belongs to. -/
theorem step_consumed {s t : KafkaConsumerStream ε} {index : Nat} {result : Except ε (List JsValue)}
    (run : s.step (.consumed index result) = some t) : index < s.consuming.length ∧
      t.results = s.results ++ [result] ∧ t.options = s.options ∧ t.consuming = s.consuming.eraseIdx index ∧
      t.fetches = s.fetches := by
  obtain ⟨size, found, rfl⟩ := Option.map_eq_some_iff.mp run
  refine ⟨(List.getElem?_eq_some_iff.mp found).1, ?_⟩
  dsimp only
  split
  · exact onread_fields id _ size result
  · exact onread_fields (·.get "value") _ size result

end KafkaConsumerStream

/-- The messages of a result of consume. -/
def messagesOf {ε : Type} : Except ε (List JsValue) → List JsValue
  | .error _ => []
  | .ok messages => messages

namespace ConsumePipeline
section
variable {err2str : ErrorCode → String} {toLowerCase : String → String} {timeoutMs : Int}

/-- What the workers under way have collected, as the messages they will return. -/
def collected (err2str : ErrorCode → String) (s : ConsumePipeline) : List JsValue :=
  s.workers.flatMap fun w => (dataMessages w.answers).map (Conversion.Message.toV8Object err2str)

/-- The stream is in a run of its own, each call has its worker, and while one is
under way at most, what came back and what the worker holds is what was dequeued. -/
structure Piped (err2str : ErrorCode → String) (given : GivenStreamOptions)
    (consumer : StreamConsumer LibrdKafkaError) (s : ConsumePipeline) : Prop where
  stream : ∃ trace, Reach KafkaConsumerStream.step (.create given consumer) trace s.stream
  options : s.stream.options = .ofGiven given
  workers : s.workers.length = s.stream.consuming.length
  kept : ∀ w ∈ s.workers, w.worker.Kept w.answers
  ordered : s.stream.unsubscribed = false →
    s.stream.results.flatMap messagesOf ++ s.collected err2str =
      (dataMessages s.dequeued).map (Conversion.Message.toV8Object err2str)

variable {given : GivenStreamOptions} {consumer : StreamConsumer LibrdKafkaError}

variable (err2str toLowerCase) in
/-- What a worker that has left its loop calls back with. -/
theorem messagesOf_outcome {w : ConsumeNum} {answers : List ConsumeAnswer} (kept : w.Kept answers) :
    messagesOf (w.outcome err2str toLowerCase).callback =
      (dataMessages answers).map (Conversion.Message.toV8Object err2str) := by
  cases failed : w.errorBaton with
  | some b =>
    rw [(kept.error (by simp [failed])).2]
    simp [ConsumeNum.outcome, ConsumeNum.workComplete, failed, ConsumeNum.handleErrorCallback, consumeNum,
      messagesOf]
  | none =>
    rw [kept.outcome_ok err2str toLowerCase failed, messagesOf, splitMessages_messages, kept.messages,
      dataMessages_eq]

theorem only_item {α : Type} {items : List α} {item : α} {index : Nat} (single : items.length ≤ 1)
    (found : items[index]? = some item) : items = [item] ∧ index = 0 := by
  match items, index with
  | [other], 0 => exact ⟨by simpa using found, rfl⟩
  | [other], index + 1 => simp at found
  | [], _ => simp at found
  | _ :: _ :: _, _ => simp at single

theorem piped_create : (create given consumer).Piped err2str given consumer :=
  ⟨⟨[], .start⟩, rfl, rfl, by simp [create], fun _ => rfl⟩

/-- Until it is unsubscribed, a stream has one call of consume under way at most. -/
theorem Piped.single {s : ConsumePipeline} (piped : s.Piped err2str given consumer)
    (before : s.stream.unsubscribed = false) : s.workers.length ≤ 1 := by
  obtain ⟨trace, reach⟩ := piped.stream
  have single := (KafkaConsumerStream.reach_advances reach before).1.single
  have bound : s.stream.resumptions ≤ 1 := by
    by_cases reading : s.stream.reading = true <;> simp [reading] at single <;> omega
  rw [piped.workers]
  simp only [KafkaConsumerStream.resumptions] at bound
  omega

theorem Piped.extends {s : ConsumePipeline} {t : KafkaConsumerStream LibrdKafkaError}
    {action : StreamAction LibrdKafkaError} (piped : s.Piped err2str given consumer)
    (run : s.stream.step action = some t) :
    ∃ trace, Reach KafkaConsumerStream.step (.create given consumer) trace t := by
  obtain ⟨trace, reach⟩ := piped.stream
  exact ⟨trace ++ [action], reach.next run⟩

theorem Piped.streamStep {s : ConsumePipeline} {t : KafkaConsumerStream LibrdKafkaError}
    {action : StreamAction LibrdKafkaError} (piped : s.Piped err2str given consumer)
    (other : ∀ index result, action ≠ .consumed index result) (run : s.stream.step action = some t) :
    Piped err2str given consumer { s with
      stream := t
      workers := s.workers ++ (t.fetches.drop s.stream.fetches.length).map (·.start timeoutMs) } := by
  obtain ⟨results, options, fetches, grown, count⟩ := KafkaConsumerStream.step_calls other run
  have started : t.fetches.drop s.stream.fetches.length = fetches := by rw [grown, List.drop_left]
  rw [started]
  refine ⟨piped.extends run, options.trans piped.options, ?_, ?_, fun before => ?_⟩
  · simp [piped.workers, count]
  · intro w member
    rcases List.mem_append.mp member with old | new
    · exact piped.kept w old
    · obtain ⟨fetch, _, rfl⟩ := List.mem_map.mp new
      exact ConsumeNum.create_kept _ _
  · have nothing : (fetches.map (·.start timeoutMs)).flatMap (fun w : ConsumeWorker =>
        (dataMessages w.answers).map (Conversion.Message.toV8Object err2str)) = [] := by
      simp [List.flatMap_map, Fetch.start, dataMessages]
    have ordered := piped.ordered (KafkaConsumerStream.step_unsubscribed run before)
    simpa only [collected, results, List.flatMap_append, nothing, List.append_nil] using ordered

theorem Piped.dequeue {s t : ConsumePipeline} {index : Nat} {answer : ConsumeAnswer}
    (piped : s.Piped err2str given consumer)
    (run : s.step err2str toLowerCase timeoutMs (.dequeue index answer) = some t) :
    t.Piped err2str given consumer := by
  obtain ⟨w, found, turn⟩ := Option.bind_eq_some_iff.mp run
  obtain ⟨worker, executed, rfl⟩ := Option.map_eq_some_iff.mp turn
  have kept := ConsumeNum.kept_execute (piped.kept w (List.mem_of_getElem? found)) executed
  refine ⟨piped.stream, piped.options, by simpa using piped.workers, ?_, fun before => ?_⟩
  · intro v member
    rcases List.mem_or_eq_of_mem_set member with old | rfl
    · exact piped.kept v old
    · exact kept
  · have ordered := piped.ordered before
    obtain ⟨first, rfl⟩ := only_item (piped.single before) found
    simp only [collected, first, List.set_cons_zero, List.flatMap_cons, List.flatMap_nil, List.append_nil] at ordered ⊢
    simp only [dataMessages_append, List.map_append, ← ordered, List.append_assoc]

theorem Piped.complete {s t : ConsumePipeline} {index : Nat} (piped : s.Piped err2str given consumer)
    (run : s.step err2str toLowerCase timeoutMs (.complete index) = some t) : t.Piped err2str given consumer := by
  obtain ⟨w, found, returns⟩ := Option.bind_eq_some_iff.mp run
  simp only [Option.ite_none_left_eq_some] at returns
  obtain ⟨_, called⟩ := returns
  obtain ⟨stream, received, rfl⟩ := Option.map_eq_some_iff.mp called
  obtain ⟨bound, results, options, consuming, _⟩ := KafkaConsumerStream.step_consumed received
  refine ⟨piped.extends received, options.trans piped.options, ?_, ?_, fun before => ?_⟩
  · have shorter := Lists.length_eraseIdx_of_some found
    rw [consuming, List.length_eraseIdx_of_lt bound]
    have same := piped.workers
    dsimp only
    omega
  · exact fun v member => piped.kept v (List.mem_of_mem_eraseIdx member)
  · have earlier := KafkaConsumerStream.step_unsubscribed received before
    have ordered := piped.ordered earlier
    obtain ⟨first, rfl⟩ := only_item (piped.single earlier) found
    have returned := messagesOf_outcome err2str toLowerCase (piped.kept w (List.mem_of_getElem? found))
    simpa [collected, first, results, returned] using ordered

theorem step_piped {s t : ConsumePipeline} {action : ConsumeAction} (piped : s.Piped err2str given consumer)
    (run : s.step err2str toLowerCase timeoutMs action = some t) : t.Piped err2str given consumer := by
  cases action with
  | dequeue index answer => exact piped.dequeue run
  | complete index => exact piped.complete run
  | stream action =>
    by_cases consumed : ∃ index result, action = .consumed index result
    · obtain ⟨index, result, rfl⟩ := consumed
      cases run
    · have other : ∀ index result, action ≠ .consumed index result :=
        fun index result same => consumed ⟨index, result, same⟩
      simp only [step] at run
      obtain ⟨stream, moved, starts⟩ := Option.bind_eq_some_iff.mp run
      simp only [Option.ite_none_right_eq_some, Option.some.injEq] at starts
      obtain ⟨_, rfl⟩ := starts
      exact piped.streamStep other moved

end
end ConsumePipeline

/-- The messages that an item of the stream stands for. -/
def StreamOptions.unpack (options : StreamOptions) (item : JsValue) : List JsValue :=
  if options.streamAsBatch then
    match item with
    | .array messages => messages
    | _ => []
  else [item]

/-- What the reader of the stream is to see of a message. -/
def StreamOptions.seen (options : StreamOptions) (message : JsValue) : JsValue :=
  if options.streamAsBatch then message else options.item message

theorem StreamOptions.unpack_items {ε : Type} (options : StreamOptions) (result : Except ε (List JsValue)) :
    (options.items result).flatMap options.unpack = (messagesOf result).map options.seen := by
  cases result with
  | error err => rfl
  | ok messages =>
    by_cases batches : options.streamAsBatch = true
    · have seen : options.seen = id := by
        funext message
        simp [StreamOptions.seen, batches]
      by_cases free : messages = [] <;> simp [items, messagesOf, batches, free, unpack, seen]
    · have seen : options.seen = options.item := by
        funext message
        simp [StreamOptions.seen, batches]
      simpa [items, messagesOf, batches, unpack, seen, List.flatMap_map] using
        (List.map_eq_flatMap (f := options.item) (l := messages)).symm

/-- Until the stream is unsubscribed, what it has pushed, what it holds and what a worker
under way has collected are together the messages that librdkafka has given to the
workers, in the order in which it gave them, each once. -/
theorem consumePipeline_order {err2str : ErrorCode → String} {toLowerCase : String → String} {timeoutMs : Int}
    {given : GivenStreamOptions} {consumer : StreamConsumer LibrdKafkaError} {trace : List ConsumeAction}
    {s : ConsumePipeline}
    (reach : Reach (ConsumePipeline.step err2str toLowerCase timeoutMs) (.create given consumer) trace s)
    (before : s.stream.unsubscribed = false) :
    (s.stream.pushed ++ s.stream.messages).flatMap (StreamOptions.ofGiven given).unpack ++
        (s.collected err2str).map (StreamOptions.ofGiven given).seen =
      (dataMessages s.dequeued).map fun message =>
        (StreamOptions.ofGiven given).seen (Conversion.Message.toV8Object err2str message) := by
  have piped := reach.invariant (ConsumePipeline.Piped err2str given consumer) ConsumePipeline.piped_create
    ConsumePipeline.step_piped
  obtain ⟨labels, simulated⟩ := piped.stream
  obtain ⟨_, steps, buffered⟩ := KafkaConsumerStream.reach_advances simulated before
  have pushed : s.stream.pushed ++ s.stream.messages = s.stream.received :=
    (PullBuffer.reach_sound buffered).inOrder.trans s.stream.pullBuffer_received
  have unpacked : s.stream.received.flatMap (StreamOptions.ofGiven given).unpack =
      (s.stream.results.flatMap messagesOf).map (StreamOptions.ofGiven given).seen := by
    simp only [KafkaConsumerStream.received, piped.options, List.flatMap_assoc, StreamOptions.unpack_items,
      List.map_flatMap]
  rw [pushed, unpacked, ← List.map_append, piped.ordered before, List.map_map]
  rfl

/-- A worker that meets an EOF between two messages and then times out. -/
def consumedOnce : List ConsumeAction :=
  [.stream (.consumer { isConnected := true }), .stream (.read 16),
   .dequeue 0 (.message { err := 0, topicName := "t", partition := 0, offset := 7 }),
   .dequeue 0 (.message { err := -191, topicName := "t", partition := 0, offset := 8 }),
   .dequeue 0 (.message { err := 0, topicName := "t", partition := 1, offset := 3 }),
   .dequeue 0 (.message { err := -185, topicName := "", partition := 0, offset := 0 }), .complete 0]

theorem consumePipeline_order_once : ∃ s,
    Reach (ConsumePipeline.step (fun _ => "") id 1000) (.create { fetchSize := some 4 } {}) consumedOnce s ∧
      s.stream.pushed.length = 1 ∧
      (s.stream.pushed ++ s.stream.messages).flatMap (StreamOptions.ofGiven { fetchSize := some 4 }).unpack ++
          (s.collected fun _ => "").map (StreamOptions.ofGiven { fetchSize := some 4 }).seen =
        (dataMessages s.dequeued).map fun message =>
          (StreamOptions.ofGiven { fetchSize := some 4 }).seen
            (Conversion.Message.toV8Object (fun _ => "") message) := by
  obtain ⟨s, reach, before, pushed⟩ : ∃ s, Reach (ConsumePipeline.step (fun _ => "") id 1000)
      (.create { fetchSize := some 4 } {}) consumedOnce s ∧ s.stream.unsubscribed = false ∧
        s.stream.pushed.length = 1 := ⟨_, reach_iff_replay.mpr rfl, rfl, rfl⟩
  exact ⟨s, reach, pushed, consumePipeline_order reach before⟩

end NodeRdkafka

import Mathlib.Data.List.Nodup
import NodeRdkafka.ProduceOnce

namespace NodeRdkafka
open Transition Turn

/-- A message and a key for which the default serializers give a result at once. -/
structure ProduceArguments.Plain (arguments : ProduceArguments) : Prop where
  message : arguments.message ≠ .undefined
  key : arguments.key ≠ .undefined
  messageReturned : arguments.message.isPromise = false
  keyReturned : arguments.key.isPromise = false

/-- Steps of a connected producer with its default serializers, whose messages
and keys are neither undefined nor promises. -/
def HighLevelAction.Plain : HighLevelAction → Prop
  | .produce arguments value key =>
    value = noopSerializer arguments.message ∧ key = noopSerializer arguments.key ∧ arguments.Plain
  | .report _ | .immediate | .tick _ => True
  | _ => False

/-- What the produce callback of a reported message is called with. -/
def HighLevelReport.answer (report : HighLevelReport) : Nat × CallbackArguments :=
  (report.messageId, .delivered report.err (if 0 ≤ report.offset then some report.offset else none))

def HighLevelImmediate.answer : HighLevelImmediate → Nat × CallbackArguments
  | deliver id err offset => (id, .delivered err (if 0 ≤ offset then some offset else none))
  | fail id e => (id, .failed e)

namespace HighLevelProducer
variable {callbackThrows : Nat → Option JsError}

/-- Ids, listeners, counter, interval and callbacks are in step. -/
structure InStep (s : HighLevelProducer) : Prop where
  online : s.isConnected = true
  listeners : s.deliveryEmitter = s.outstanding
  accepted : (s.attempts.map (·.messageId)).Perm (s.reports.map (·.messageId) ++ s.outstanding)
  distinct : (s.attempts.map (·.messageId)).Nodup
  older : ∀ attempt ∈ s.attempts, attempt.messageId < s.messageId
  counter : s.pollingRef.currentValue = s.outstanding.length
  running : s.pollingRef.isRunning = true ↔ s.outstanding ≠ []
  interval : if s.outstanding = [] then s.intervals = []
    else ∃ timer, s.pollingRefTimeout = some timer ∧ s.intervals = [timer]
  answers : s.callbacks ++ s.immediates.map (·.answer) = s.reports.map (·.answer)

theorem InStep.increment {s : HighLevelProducer} (inStep : s.InStep) :
    s.increment.pollingRef.currentValue = s.outstanding.length + 1 ∧
      s.increment.pollingRef.isRunning = true ∧
      ∃ timer, s.increment.pollingRefTimeout = some timer ∧ s.increment.intervals = [timer] := by
  have interval := inStep.interval
  by_cases idle : s.outstanding = []
  · have stopped : s.pollingRef.isRunning = false := by
      simpa [idle] using inStep.running
    rw [if_pos idle] at interval
    simp [HighLevelProducer.increment, RefCounter.increment, stopped, onActive, interval,
      inStep.counter]
  · have runs := inStep.running.mpr idle
    rw [if_neg idle] at interval
    obtain ⟨timer, stored, live⟩ := interval
    simp [HighLevelProducer.increment, RefCounter.increment, runs, stored, live, inStep.counter]

/-- The closure once the default serializers have run. -/
def resolved (arguments : ProduceArguments) : ProduceClosure :=
  { arguments, resolvedSerializedValue := arguments.message, resolvedSerializedKey := arguments.key }

variable (callbackThrows) in
/-- With the default serializers the two halves of the try block store the
message and the key, and the produce follows. -/
theorem serializeBoth_noop {outcome : Nat → Option JsError} {id : Nat} {arguments : ProduceArguments}
    {s : HighLevelProducer} (found : s.closures id = some { arguments }) (plain : arguments.Plain) :
    (serializeBoth outcome callbackThrows (noopSerializer arguments.message)
        (noopSerializer arguments.key) id).run s =
      (doProduce outcome callbackThrows id arguments arguments.message arguments.key).run
        (s.stored id (resolved arguments)) := by
  have found' : (s.stored id (resolved arguments)).closures id = some (resolved arguments) := by
    simp [stored]
  have ready : (resolved arguments).ready = true := by
    simp [ProduceClosure.ready, resolved, ← Bool.not_eq_true, plain.message, plain.key]
  have produced : _ = (doProduce outcome callbackThrows id arguments arguments.message
      arguments.key).run _ := (produceIfComplete_run found').trans (if_pos ready)
  rw [← produced]
  simp [serializeBoth, serialize, serializationWrapper, callNow, noopSerializer,
    SerializerStyle.returned_of_plain plain.messageReturned,
    SerializerStyle.returned_of_plain plain.keyReturned, setValue, setKey, updateClosure, found, stored, resolved]

/-- The producer once a message has been taken. -/
def produced (arguments : ProduceArguments) (s : HighLevelProducer) : HighLevelProducer :=
  { (openCall arguments s).stored s.messageId (resolved arguments) with
    attempts := s.attempts ++ [arguments.attempt s.messageId arguments.message arguments.key]
    outstanding := s.outstanding ++ [s.messageId]
    deliveryEmitter := s.deliveryEmitter ++ [s.messageId] }

theorem increment_fields (s : HighLevelProducer) :
    s.increment = { s with
      pollingRef := s.increment.pollingRef
      pollingRefTimeout := s.increment.pollingRefTimeout
      intervals := s.increment.intervals
      nextInterval := s.increment.nextInterval } := by
  unfold increment
  by_cases active : s.pollingRef.increment.2 = true <;> simp [active, onActive]

/-- A produce with the default serializers is accepted at once. -/
theorem produce_noop {s t : HighLevelProducer} {arguments : ProduceArguments} (online : s.isConnected = true)
    (plain : arguments.Plain)
    (run : s.step (fun _ => none) callbackThrows (.produce arguments (noopSerializer arguments.message)
      (noopSerializer arguments.key)) = some t) : t = s.produced arguments := by
  have opening := increment_fields { s with
    messageId := s.messageId + 1
    closures := Function.update s.closures s.messageId (some { arguments }) }
  have found : (openCall arguments s).closures s.messageId = some { arguments } := by
    rw [openCall, opening]
    simp
  have accepted : ((openCall arguments s).stored s.messageId (resolved arguments)).refusal
      (fun _ => none) = none := by
    rw [openCall, opening]
    simp [refusal, stored, online]
  have both := (serializeBoth_noop callbackThrows found plain).trans
    (doProduce_run_accepted accepted)
  refine (Option.some.inj run).symm.trans ?_
  simp only [modifiedProduce, EStateM.run_bind, EStateM.run_get, EStateM.run_modify, run_tryCatch, both,
    final_ok]
  rw [produced, openCall, opening]
  rfl

theorem openCall_fields (arguments : ProduceArguments) (s : HighLevelProducer) :
    openCall arguments s = { s with
      messageId := s.messageId + 1
      closures := Function.update s.closures s.messageId (some { arguments })
      pollingRef := s.increment.pollingRef
      pollingRefTimeout := s.increment.pollingRefTimeout
      intervals := s.increment.intervals
      nextInterval := s.increment.nextInterval } := by
  unfold openCall increment
  by_cases active : s.pollingRef.increment.2 = true <;> simp [active, onActive]

theorem InStep.produced {s : HighLevelProducer} (inStep : s.InStep) (arguments : ProduceArguments) :
    (s.produced arguments).InStep := by
  obtain ⟨counter, running, timer, stored, live⟩ := inStep.increment
  have fresh : s.messageId ∉ s.attempts.map (·.messageId) := by
    intro member
    obtain ⟨attempt, taken, same⟩ := List.mem_map.mp member
    have older := inStep.older attempt taken
    omega
  simp only [HighLevelProducer.produced, HighLevelProducer.stored, openCall_fields]
  refine ⟨inStep.online, by simp [inStep.listeners], ?_, ?_, ?_, by simp [counter], by simp [running],
    by simp [stored, live], inStep.answers⟩
  · simpa [ProduceArguments.attempt, ← List.append_assoc] using inStep.accepted.append_right [s.messageId]
  · have distinct := List.Nodup.concat fresh inStep.distinct
    rw [List.concat_eq_append] at distinct
    rwa [List.map_append]
  · intro attempt member
    rcases List.mem_append.mp member with old | new
    · exact Nat.lt_succ_of_lt (inStep.older attempt old)
    · simp only [List.mem_singleton] at new
      simp [new, ProduceArguments.attempt]

theorem decrement_fields (s : HighLevelProducer) :
    s.decrement = { s with
      pollingRef := s.pollingRef.decrement.1
      intervals := if s.pollingRef.decrement.2 then s.clearPolling.intervals else s.intervals } := by
  unfold HighLevelProducer.decrement
  by_cases passive : s.pollingRef.decrement.2 = true <;> simp [passive, clearPolling]

theorem InStep.decrement {s : HighLevelProducer} (inStep : s.InStep) (waiting : s.outstanding ≠ []) :
    s.pollingRef.decrement.1.currentValue = s.outstanding.length - 1 ∧
      (s.pollingRef.decrement.1.isRunning = true ↔ 1 < s.outstanding.length) ∧
      (if s.outstanding.length = 1 then s.decrement.intervals = []
        else ∃ timer, s.pollingRefTimeout = some timer ∧ s.decrement.intervals = [timer]) := by
  have runs := inStep.running.mpr waiting
  have interval := inStep.interval
  rw [if_neg waiting] at interval
  obtain ⟨timer, stored, live⟩ := interval
  have size := List.length_pos_iff.mpr waiting
  rw [decrement_fields]
  by_cases last : s.outstanding.length = 1
  · simp [RefCounter.decrement, inStep.counter, runs, last, clearPolling, stored, live]
  · have more : ¬ ((s.outstanding.length : Int) - 1 ≤ 0) := by omega
    have several : 1 < s.outstanding.length := by omega
    simp only [RefCounter.decrement, inStep.counter, runs, more, if_false, false_and, several, last]
    exact ⟨trivial, by simp, timer, stored, live⟩

theorem InStep.outstanding_nodup {s : HighLevelProducer} (inStep : s.InStep) : s.outstanding.Nodup :=
  (List.nodup_append.mp (inStep.accepted.nodup_iff.mp inStep.distinct)).2.1

/-- The one listener of a reported message runs and is gone. -/
theorem deliveryReport_heard {s : HighLevelProducer} {report : HighLevelReport} {listeners : List Nat}
    (same : s.deliveryEmitter = listeners) (distinct : listeners.Nodup)
    (waiting : report.messageId ∈ listeners) :
    s.deliveryReport report = HighLevelProducer.deliver report
      { s with deliveryEmitter := listeners.erase report.messageId } := by
  have one : s.deliveryEmitter.filter (· = report.messageId) = [report.messageId] := by
    rw [same, List.filter_eq, List.count_eq_one_of_mem distinct waiting, List.replicate_one]
  have others : s.deliveryEmitter.filter (· ≠ report.messageId) = listeners.erase report.messageId := by
    rw [same, distinct.erase_eq_filter]
    exact List.filter_congr fun listener _ => by by_cases here : listener = report.messageId <;> simp [here]
  simp only [deliveryReport, one, others, List.foldl_cons, List.foldl_nil]

theorem InStep.report {s : HighLevelProducer} {report : HighLevelReport} (inStep : s.InStep)
    (waiting : report.messageId ∈ s.outstanding) :
    (deliveryReport report { s with
      outstanding := s.outstanding.erase report.messageId, reports := s.reports ++ [report] }).InStep := by
  have size := List.length_erase_of_mem waiting
  have positive := List.length_pos_of_mem waiting
  obtain ⟨counter, running, interval⟩ := inStep.decrement (List.ne_nil_of_mem waiting)
  rw [deliveryReport_heard (s := { s with
    outstanding := s.outstanding.erase report.messageId, reports := s.reports ++ [report] })
    inStep.listeners inStep.outstanding_nodup waiting, deliver, decrement_fields]
  rw [decrement_fields] at interval
  have drained : s.outstanding.erase report.messageId = [] ↔ s.outstanding.length = 1 := by
    rw [← List.length_eq_zero_iff]
    omega
  refine ⟨inStep.online, rfl, ?_, inStep.distinct, inStep.older, ?_, ?_, ?_, ?_⟩
  · refine inStep.accepted.trans ?_
    simp only [setImmediate, List.map_append, List.map_cons, List.map_nil, List.append_assoc]
    exact (List.perm_cons_erase waiting).append_left _
  · refine counter.trans ?_
    simp only [setImmediate, size]
    omega
  · refine running.trans ?_
    simp only [setImmediate, ne_eq, drained]
    omega
  · simp only [setImmediate, drained]
    exact interval
  · simp only [setImmediate, List.map_append, List.map_cons, List.map_nil, ← List.append_assoc,
      inStep.answers]
    rfl

theorem callback_final (id : Nat) (arguments : CallbackArguments) (s : HighLevelProducer) :
    final ((callback callbackThrows id arguments).run s) =
      { s with callbacks := s.callbacks ++ [(id, arguments)] } := by
  cases throws : callbackThrows s.callbacks.length <;> simp [callback, throws]

variable (callbackThrows) in
theorem runImmediate_final (task : HighLevelImmediate) (s : HighLevelProducer) :
    ∃ closures, final ((runImmediate callbackThrows task).run s) =
      { s with closures, callbacks := s.callbacks ++ [task.answer] } := by
  cases task with
  | deliver id err offset => exact ⟨s.closures, callback_final id _ s⟩
  | fail id e => exact ⟨(s.setCalledBack id).closures, callback_final id _ (s.setCalledBack id)⟩

/-- An immediate takes the first task and answers it. -/
theorem step_immediate {outcome : Nat → Option JsError} {s t : HighLevelProducer}
    (run : s.step outcome callbackThrows .immediate = some t) :
    ∃ task rest closures, s.immediates = task :: rest ∧
      t = { s with immediates := rest, closures, callbacks := s.callbacks ++ [task.answer] } := by
  simp only [step] at run
  split at run
  · rename_i task rest queue
    cases Option.some.inj run
    obtain ⟨closures, after⟩ := runImmediate_final callbackThrows task { s with immediates := rest }
    exact ⟨task, rest, closures, queue, after⟩
  · cases run

theorem InStep.immediate {s t : HighLevelProducer} (inStep : s.InStep)
    (run : s.step (fun _ => none) callbackThrows .immediate = some t) : t.InStep := by
  obtain ⟨task, rest, closures, queue, rfl⟩ := step_immediate run
  have answers := inStep.answers
  rw [queue] at answers
  exact ⟨inStep.online, inStep.listeners, inStep.accepted, inStep.distinct, inStep.older,
    inStep.counter, inStep.running, inStep.interval, by simpa using answers⟩

theorem inStep_start : ({ isConnected := true } : HighLevelProducer).InStep :=
  ⟨rfl, rfl, .nil, .nil, by simp, rfl, by simp, rfl, rfl⟩

theorem step_inStep {s t : HighLevelProducer} {action : HighLevelAction} (plain : action.Plain)
    (inStep : s.InStep) (run : s.step (fun _ => none) callbackThrows action = some t) : t.InStep := by
  cases action with
  | produce arguments value key =>
    obtain ⟨rfl, rfl, returned⟩ := plain
    rw [produce_noop inStep.online returned run]
    exact inStep.produced arguments
  | report report =>
    simp only [step, Option.ite_none_right_eq_some, Option.some.injEq] at run
    obtain ⟨waiting, rfl⟩ := run
    exact inStep.report waiting
  | immediate => exact inStep.immediate run
  | tick interval =>
    obtain rfl := step_tick run
    simp only [HighLevelProducer.tick, inStep.online, if_true]
    exact ⟨rfl, inStep.listeners, inStep.accepted, inStep.distinct, inStep.older,
      inStep.counter, inStep.running, inStep.interval, inStep.answers⟩
  | settle | rejection | disconnected | connected => exact plain.elim

theorem reach_inStep {s : HighLevelProducer} {trace : List HighLevelAction}
    (reach : Reach (step (fun _ => none) callbackThrows) { isConnected := true } trace s)
    (plain : ∀ action ∈ trace, action.Plain) : s.InStep :=
  reach.invariant_of_labels InStep inStep_start step_inStep plain

/-- A message that librdkafka has accepted and not yet reported. -/
def Unreported (s : HighLevelProducer) (id : Nat) : Prop :=
  id ∈ s.attempts.map (·.messageId) ∧ id ∉ s.reports.map (·.messageId)

theorem InStep.unreported_iff {s : HighLevelProducer} (inStep : s.InStep) (id : Nat) :
    s.Unreported id ↔ id ∈ s.outstanding := by
  have split := inStep.accepted.mem_iff (a := id)
  have apart := List.nodup_append.mp (inStep.accepted.nodup_iff.mp inStep.distinct)
  simp only [Unreported, split, List.mem_append]
  constructor
  · rintro ⟨reported | waiting, unreported⟩
    · exact absurd reported unreported
    · exact waiting
  · exact fun waiting => ⟨.inr waiting, fun reported => apart.2.2 id reported id waiting rfl⟩

end HighLevelProducer

/-- In every run of a connected producer with its default serializers, and with
messages and keys that these return as plain results, each callback belongs to
one report of its own message, one listener waits for each message still
unreported, and the counter and the interval follow. -/
theorem callbacks_follow_reports {callbackThrows : Nat → Option JsError} {s : HighLevelProducer}
    {trace : List HighLevelAction}
    (reach : Reach (HighLevelProducer.step (fun _ => none) callbackThrows) { isConnected := true } trace s)
    (plain : ∀ action ∈ trace, action.Plain) :
    (s.callbacks.map (·.1)).Nodup ∧
      (∀ call ∈ s.callbacks, ∃ report ∈ s.reports, call = report.answer) ∧
      (∀ id, (s.Unreported id → s.deliveryEmitter.count id = 1) ∧
        (¬ s.Unreported id → s.deliveryEmitter.count id = 0)) ∧
      s.pollingRef.currentValue = (s.attempts.length : Int) - s.reports.length ∧
      s.intervals.length = if s.reports.length < s.attempts.length then 1 else 0 := by
  have inStep := HighLevelProducer.reach_inStep reach plain
  have sizes := inStep.accepted.length_eq
  simp only [List.length_map, List.length_append] at sizes
  refine ⟨?_, ?_, ?_, ?_, ?_⟩
  · have ids : s.reports.map (·.messageId) = (s.callbacks ++ s.immediates.map (·.answer)).map (·.1) := by
      rw [inStep.answers, List.map_map]
      rfl
    have distinct := (List.nodup_append.mp (inStep.accepted.nodup_iff.mp inStep.distinct)).1
    rw [ids, List.map_append] at distinct
    exact (List.nodup_append.mp distinct).1
  · intro call member
    have answered : call ∈ s.reports.map (·.answer) := inStep.answers ▸ List.mem_append_left _ member
    obtain ⟨report, reported, same⟩ := List.mem_map.mp answered
    exact ⟨report, reported, same.symm⟩
  · intro id
    rw [inStep.unreported_iff, inStep.listeners]
    exact ⟨List.count_eq_one_of_mem inStep.outstanding_nodup, List.count_eq_zero_of_not_mem⟩
  · rw [inStep.counter]
    omega
  · have interval := inStep.interval
    by_cases idle : s.outstanding = []
    · have same : ¬ s.reports.length < s.attempts.length := by simp [idle] at sizes; omega
      rw [if_pos idle] at interval
      rw [interval, if_neg same, List.length_nil]
    · have more := List.length_pos_iff.mpr idle
      rw [if_neg idle] at interval
      obtain ⟨timer, _, live⟩ := interval
      rw [live, if_pos (by omega), List.length_singleton]

/-- Two overlapping produces whose reports arrive in the other order. -/
def overlappingProduces : List HighLevelAction :=
  [.produce (sampleArguments (.buffer [1]) .null) (noopSerializer (.buffer [1])) (noopSerializer .null),
   .produce (sampleArguments (.buffer [2]) .null) (noopSerializer (.buffer [2])) (noopSerializer .null),
   .tick 0,
   .report { messageId := 1, err := none, offset := 7 },
   .immediate,
   .report { messageId := 0, err := some { message := "Broker: Message size too large" }, offset := -1001 },
   .immediate]

theorem callbacks_follow_reports_overlapping :
    ∃ s, Reach (HighLevelProducer.step (fun _ => none) fun _ => none) { isConnected := true }
        overlappingProduces s ∧
      s.callbacks.length = 2 ∧ (s.callbacks.map (·.1)).Nodup ∧
      ∀ call ∈ s.callbacks, ∃ report ∈ s.reports, call = report.answer := by
  obtain ⟨s, reach, size⟩ : ∃ s, Reach (HighLevelProducer.step (fun _ => none) fun _ => none)
      { isConnected := true } overlappingProduces s ∧ s.callbacks.length = 2 :=
    ⟨_, reach_iff_replay.mpr rfl, rfl⟩
  have sample : ∀ bytes, (sampleArguments (.buffer bytes) .null).Plain := fun _ => ⟨nofun, nofun, rfl, rfl⟩
  have plain : ∀ action ∈ overlappingProduces, action.Plain := by
    simp only [overlappingProduces, List.forall_mem_cons]
    exact ⟨⟨rfl, rfl, sample [1]⟩, ⟨rfl, rfl, sample [2]⟩, trivial, trivial, trivial, trivial, trivial, by simp⟩
  obtain ⟨distinct, answered, _⟩ := callbacks_follow_reports reach plain
  exact ⟨s, reach, size, distinct, answered⟩

/-- An object that the producer takes for a promise. -/
def promiseLike : JsValue := .object [("then", .function 0), ("catch", .function 1)]

/-- A message that is a promise is waited for, though the serializer only
returns it: nothing is accepted and nothing reported, the counter is 1 and the
interval is live. -/
theorem callbacks_follow_reports_promise :
    promiseLike ≠ .undefined ∧ ∃ s, Reach (HighLevelProducer.step (fun _ => none) fun _ => none)
        { isConnected := true }
        [.produce (sampleArguments promiseLike .null) (noopSerializer promiseLike) (noopSerializer .null)] s ∧
      s.attempts.length = 0 ∧ s.reports.length = 0 ∧
      s.pollingRef.currentValue ≠ (s.attempts.length : Int) - s.reports.length ∧ s.intervals.length = 1 :=
  ⟨nofun, _, reach_iff_replay.mpr rfl, rfl, rfl, by decide, rfl⟩

end NodeRdkafka

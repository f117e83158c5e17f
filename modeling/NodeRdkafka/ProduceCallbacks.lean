import NodeRdkafka.PollingCounter

namespace NodeRdkafka
open Transition Turn

namespace HighLevelProducer
section Code
variable {outcome callbackThrows : Nat → Option JsError} {id : Nat} {closure : ProduceClosure}
  {s t : HighLevelProducer}

/-- What the callback is told when the underlying produce throws. -/
def said (outcome : Nat → Option JsError) (id : Nat) (s : HighLevelProducer) : List (Nat × CallbackArguments) :=
  (s.refusal outcome).toList.map (id, .failed ·)

/-- A call that produces with what its closure holds. -/
def producing (outcome : Nat → Option JsError) (id : Nat) (closure : ProduceClosure) (s : HighLevelProducer)
    (call : CallState) : CallState :=
  { call with
    attempts := call.attempts ++ [closure.attempt id]
    callbacks := call.callbacks ++ said outcome id s
    listeners := call.listeners ++ if s.refusal outcome = none then [id] else [] }

variable (outcome id s) in
theorem said_length : (said outcome id s).length + s.acceptances outcome 1 = 1 := by
  rw [acceptances_one]
  cases refused : s.refusal outcome <;> simp [said, refused]

theorem said_eq_nil : said outcome id s = [] ↔ s.refusal outcome = none := by
  cases refused : s.refusal outcome <;> simp [said, refused]

variable (callbackThrows) in
theorem doProduce_producing (closure : ProduceClosure) : (final ((doProduce outcome callbackThrows id
      closure.arguments closure.resolvedSerializedValue closure.resolvedSerializedKey).run s)).callOf id =
    producing outcome id closure s (s.callOf id) := by
  cases refused : s.refusal outcome with
  | none =>
    rw [doProduce_run_accepted refused]
    simp [callOf, producing, said, refused, List.filter_append, attempted, ProduceClosure.attempt,
      ProduceArguments.attempt]
  | some e =>
    rw [doProduce_run_refused refused, (callback_call callbackThrows id _ _).1, attempted_callOf]
    simp [producing, said, refused, ProduceClosure.attempt]

variable (outcome) in
theorem produceIfComplete_producing (silent : ∀ n, callbackThrows n = none) (found : s.closures id = some closure) :
    thrown ((produceIfComplete outcome callbackThrows id).run s) = none ∧
      (final ((produceIfComplete outcome callbackThrows id).run s)).callOf id =
        if closure.ready then producing outcome id closure s (s.callOf id) else s.callOf id := by
  refine ⟨?_, ?_⟩
  · by_contra broke
    have breaks := (produceIfComplete_call outcome callbackThrows found).2.mp (Option.isSome_iff_ne_none.mpr broke)
    simp [BreaksOff, silent] at breaks
  · rw [produceIfComplete_run found]
    split
    · exact doProduce_producing callbackThrows closure
    · rfl

/-- The success of one serializer: it completes its call, or is stored. -/
theorem finishSerialized_producing (silent : ∀ n, callbackThrows n = none) (found : s.closures id = some closure)
    (part : SerializerPart) (v : JsValue) :
    thrown ((finishSerialized outcome callbackThrows part id v).run s) = none ∧
      (final ((finishSerialized outcome callbackThrows part id v).run s)).callOf id =
        if closure.calledBack = false ∧ (closure.finish v part).ready = true then
          producing outcome id (closure.finish v part) s
            { s.callOf id with closure := some (closure.finish v part) }
        else { s.callOf id with closure := some (closure.finish v part) } := by
  rw [finishSerialized_run found]
  cases late : closure.calledBack with
  | true => simp [stored_callOf]
  | false =>
    have stays : (s.stored id (closure.finish v part)).closures id = some (closure.finish v part) := by simp [stored]
    obtain ⟨quiet, after⟩ := produceIfComplete_producing outcome silent stays
    have same : ∀ call, producing outcome id (closure.finish v part) (s.stored id (closure.finish v part)) call =
        producing outcome id (closure.finish v part) s call := fun _ => rfl
    rw [stored_callOf, same] at after
    exact ⟨by simpa using quiet, by simpa using after⟩

/-- What the end of one serializer does to its call. -/
def settled (outcome : Nat → Option JsError) (id : Nat) (part : SerializerPart) (closure : ProduceClosure)
    (s : HighLevelProducer) (call : CallState) : Except JsError JsValue → CallState
  | .error e =>
    if closure.calledBack then call
    else { call with closure := some { closure with calledBack := true }
                     callbacks := call.callbacks ++ [(id, .failed e)] }
  | .ok v =>
    if closure.calledBack = false ∧ (closure.finish v part).ready = true then
      producing outcome id (closure.finish v part) s { call with closure := some (closure.finish v part) }
    else { call with closure := some (closure.finish v part) }

theorem failSerialized_returns (silent : ∀ n, callbackThrows n = none) (err : JsError) :
    thrown ((failSerialized callbackThrows id err).run s) = none := by
  cases called : s.calledBack id with
  | true => simp [failSerialized, called]
  | false => simp [failSerialized, called, callback, silent]

variable (outcome) in
theorem serializerCallback_settled (silent : ∀ n, callbackThrows n = none) (found : s.closures id = some closure)
    (part : SerializerPart) (result : Except JsError JsValue) :
    thrown ((serializerCallback outcome callbackThrows part id result).run s) = none ∧
      (final ((serializerCallback outcome callbackThrows part id result).run s)).callOf id =
        settled outcome id part closure s (s.callOf id) result := by
  cases result with
  | error e => exact ⟨failSerialized_returns silent e, failSerialized_call found e⟩
  | ok v => exact finishSerialized_producing silent found part v

theorem settle_settled {part : SerializerPart} {result : Except JsError JsValue}
    (silent : ∀ n, callbackThrows n = none) (found : s.closures id = some closure)
    (run : s.step outcome callbackThrows (.settle id part result) = some t) :
    (s.callOf id).pending part ≠ none ∧
      t.callOf id = settled outcome id part closure s
        { s.callOf id with pending := Function.update (s.callOf id).pending part none } result := by
  simp only [step] at run
  split at run
  · rename_i kind waits
    cases Option.some.inj run
    have found' : (s.taken id part).closures id = some closure := found
    obtain ⟨quiet, after⟩ := serializerCallback_settled outcome silent found' part result
    rw [taken_callOf] at after
    have same : ∀ call, settled outcome id part closure (s.taken id part) call result =
        settled outcome id part closure s call result := fun _ => rfl
    refine ⟨by simp [callOf, waits], ?_⟩
    rw [← same, ← after]
    cases kind with
    | callback => rfl
    | promise =>
      cases result with
      | error e => rfl
      | ok v =>
        show (final ((settle outcome callbackThrows id part (.ok v) .promise).run (s.taken id part))).callOf id = _
        simp only [settle, run_tryCatch]
        cases broke : (finishSerialized outcome callbackThrows part id v).run (s.taken id part) with
        | ok _ u => simp [serializerCallback, broke]
        | error e u => simp [serializerCallback, broke] at quiet
  · cases run

/-- The condition on a step after the produce call: while the task of an
exception of the call waits, no serializer of the call fails, and none
completes the call with a produce that throws. -/
def Undisturbed (outcome : Nat → Option JsError) (id : Nat) (s : HighLevelProducer) : HighLevelAction → Prop
  | .settle own part result =>
    own = id → (∃ task ∈ s.immediates, task.messageId = id) →
      match result with
      | .error _ => False
      | .ok v => s.Completes id part v → s.refusal outcome = none
  | _ => True

/-- What a call has told its callback before any report. `good` says whether
it has been right so far: while the task of an exception waits, the callback
must not have been called. -/
structure Told (id : Nat) (call : CallState) (good : Prop) : Prop where
  closure : ∃ closure, Consistent call closure ∧
    (closure.calledBack = false → ∀ part, call.pending part ≠ none → call.callbacks = []) ∧
    (closure.calledBack = true → call.immediates ≠ [] → call.callbacks ≠ [])
  attempted : call.attempts ≠ [] → ∀ part, call.pending part = none
  rejections : call.rejections = []
  tasks : call.immediates = [] ∨ ∃ e, call.immediates = [.fail id e]
  waiting : call.immediates ≠ [] → call.callbacks.length ≤ 1 ∧ (call.callbacks = [] ↔ good)
  returned : call.immediates = [] → (call.callbacks.length ≤ 1 ↔ good)

theorem Told.congr {call : CallState} {good good' : Prop} (told : Told id call good) (same : good ↔ good') :
    Told id call good' := propext same ▸ told

/-- A call whose serializers have all ended, with no error among them. -/
theorem Told.of_done {call : CallState} {good : Prop} (consistent : Consistent call closure)
    (unsettled : closure.calledBack = false) (done : ∀ part, call.pending part = none)
    (rejections : call.rejections = []) (tasks : call.immediates = [] ∨ ∃ e, call.immediates = [.fail id e])
    (waiting : call.immediates ≠ [] → call.callbacks.length ≤ 1 ∧ (call.callbacks = [] ↔ good))
    (returned : call.immediates = [] → (call.callbacks.length ≤ 1 ↔ good)) : Told id call good := by
  refine ⟨⟨closure, consistent, fun _ part waits => absurd (done part) waits, fun late => ?_⟩, fun _ => done,
    rejections, tasks, waiting, returned⟩
  simp [unsettled] at late

theorem said_length_le : (said outcome id s).length ≤ 1 := by
  have length := said_length outcome id s
  omega

theorem mem_tasks : (s.callOf id).immediates ≠ [] ↔ ∃ task ∈ s.immediates, task.messageId = id := by
  simp [callOf, List.filter_eq_nil_iff]

theorem Consistent.taken {call : CallState} (consistent : Consistent call closure) (part : SerializerPart) :
    Consistent { call with pending := Function.update call.pending part none } closure := by
  refine ⟨consistent.found, fun waits => consistent.value ?_, fun waits => consistent.key ?_⟩ <;>
    cases part <;> simp_all

/-- A serializer of the call fails. -/
theorem Told.error {part : SerializerPart} {call : CallState} {good : Prop} (e : JsError)
    (told : Told id call good) (found : call.closure = some closure) (waits : call.pending part ≠ none) :
    Told id
      (settled outcome id part closure s { call with pending := Function.update call.pending part none } (.error e))
      (good ∧ call.immediates = []) := by
  obtain ⟨closure', consistent, quiet, loud⟩ := told.closure
  cases found.symm.trans consistent.found
  have taken := consistent.taken part
  have idle : call.attempts ≠ [] → ∀ part', Function.update call.pending part none part' = none := by
    intro tried
    exact absurd (told.attempted tried part) waits
  cases called : closure.calledBack with
  | true =>
    simp only [settled, called, if_true]
    refine ⟨⟨closure, taken, by simp [called], fun _ => loud called⟩, idle, told.rejections, told.tasks, ?_, ?_⟩
    · intro task
      refine ⟨(told.waiting task).1, iff_of_false (loud called task) ?_⟩
      rintro ⟨_, none⟩
      exact task none
    · intro none
      rw [told.returned none, and_iff_left none]
  | false =>
    have uncalled : call.callbacks = [] := quiet called part waits
    simp only [settled, called, Bool.false_eq_true, if_false, uncalled, List.nil_append]
    refine ⟨⟨{ closure with calledBack := true }, ⟨rfl, taken.value, taken.key⟩, by simp, by simp⟩, idle,
      told.rejections, told.tasks, ?_, ?_⟩
    · intro task
      refine ⟨le_rfl, iff_of_false (by simp) ?_⟩
      rintro ⟨_, none⟩
      exact task none
    · intro none
      have good := (told.returned none).mp (by simp [uncalled])
      exact iff_of_true le_rfl ⟨good, none⟩

/-- A serializer of the call succeeds. -/
theorem Told.ok {part : SerializerPart} {call : CallState} {good : Prop} (v : JsValue)
    (told : Told id call good) (found : call.closure = some closure) (waits : call.pending part ≠ none) :
    Told id (settled outcome id part closure s { call with pending := Function.update call.pending part none } (.ok v))
      (good ∧ (call.immediates ≠ [] → closure.calledBack = false → (closure.finish v part).ready = true →
        s.refusal outcome = none)) := by
  obtain ⟨closure', consistent, quiet, loud⟩ := told.closure
  cases found.symm.trans consistent.found
  have kept : Consistent { call with closure := some (closure.finish v part)
                                     pending := Function.update call.pending part none } (closure.finish v part) :=
    consistent.finish v
  have idle : call.attempts ≠ [] → ∀ part', Function.update call.pending part none part' = none := by
    intro tried
    exact absurd (told.attempted tried part) waits
  have same : (closure.finish v part).calledBack = closure.calledBack := by
    cases part
    · simp only [ProduceClosure.finish]
      split <;> rfl
    · rfl
  by_cases completes : closure.calledBack = false ∧ (closure.finish v part).ready = true
  · have uncalled : call.callbacks = [] := quiet completes.1 part waits
    have done := kept.idle_of_ready completes.2
    simp only [settled, completes, and_self, if_true, producing, uncalled, List.nil_append]
    refine .of_done ⟨kept.found, kept.value, kept.key⟩ (same.trans completes.1) done told.rejections told.tasks ?_ ?_
    · intro task
      refine ⟨said_length_le, said_eq_nil.trans ?_⟩
      have good := (told.waiting task).2.mp uncalled
      simp [good, task]
    · intro none
      have good := (told.returned none).mp (by simp [uncalled])
      exact iff_of_true said_length_le ⟨good, fun task => absurd none task⟩
  · simp only [settled, completes, if_false]
    have allowed : (good ∧ (call.immediates ≠ [] → closure.calledBack = false →
        (closure.finish v part).ready = true → s.refusal outcome = none)) ↔ good :=
      and_iff_left fun _ unsettled ready => absurd ⟨unsettled, ready⟩ completes
    refine Told.congr ⟨⟨closure.finish v part, kept, ?_, ?_⟩, idle, told.rejections, told.tasks, told.waiting,
      told.returned⟩ allowed.symm
    · intro unsettled _ _
      exact quiet (same.symm.trans unsettled) part waits
    · exact fun late => loud (same.symm.trans late)

/-- The task of the exception runs and calls back, whatever was called before. -/
theorem Told.task {good : Prop} {task : HighLevelImmediate} {rest : List HighLevelImmediate}
    (told : Told id (s.callOf id) good) (queue : s.immediates = task :: rest) (own : task.messageId = id) :
    Told id ((final ((runImmediate callbackThrows task).run { s with immediates := rest })).callOf id) good := by
  have queued : (s.callOf id).immediates = task :: rest.filter (·.messageId = id) := by simp [callOf, queue, own]
  obtain ⟨e, single⟩ := told.tasks.resolve_left (by simp [queued])
  rw [queued, List.cons.injEq] at single
  obtain ⟨rfl, drained⟩ := single
  obtain ⟨closure, consistent, _, _⟩ := told.closure
  have good := told.waiting (by simp [queued])
  have after : (final ((runImmediate callbackThrows (.fail id e)).run { s with immediates := rest })).callOf id =
      { s.callOf id with
        closure := some { closure with calledBack := true }
        immediates := []
        callbacks := (s.callOf id).callbacks ++ [(id, .failed e)] } := by
    simp only [runImmediate, EStateM.run_bind, EStateM.run_modify]
    rw [(callback_call callbackThrows id _ _).1, setCalledBack, updateClosure_callOf]
    have found : s.closures id = some closure := consistent.found
    simp [callOf, drained, found]
  rw [after]
  refine ⟨⟨{ closure with calledBack := true }, ⟨rfl, consistent.value, consistent.key⟩, by simp, by simp⟩,
    told.attempted, told.rejections, Or.inl rfl, by simp, fun _ => ?_⟩
  rw [List.length_append, List.length_singleton, ← good.2, ← List.length_eq_zero_iff]
  omega

theorem settle_elsewhere {own : Nat} {part : SerializerPart} {result : Except JsError JsValue}
    (run : s.step outcome callbackThrows (.settle own part result) = some t) : Elsewhere own s t := by
  simp only [step] at run
  split at run
  · rename_i kind waits
    cases Option.some.inj run
    exact trans_of (Elsewhere own) (taken_elsewhere own part s)
      ((elsewhere_moves outcome callbackThrows own).settle part result kind (s.taken own part))
  · cases run

theorem Told.settle {part : SerializerPart} {result : Except JsError JsValue} {good : Prop}
    (silent : ∀ n, callbackThrows n = none) (told : Told id (s.callOf id) good)
    (run : s.step outcome callbackThrows (.settle id part result) = some t) :
    Told id (t.callOf id) (good ∧ Undisturbed outcome id s (.settle id part result)) := by
  obtain ⟨closure, consistent, _⟩ := told.closure
  have found : s.closures id = some closure := consistent.found
  obtain ⟨waits, after⟩ := settle_settled silent found run
  rw [after]
  cases result with
  | error e =>
    refine (told.error e found waits).congr (and_congr_right fun _ => ?_)
    simp only [Undisturbed, true_imp_iff, ← mem_tasks]
    tauto
  | ok v =>
    refine (told.ok v found waits).congr (and_congr_right fun _ => ?_)
    simp only [Undisturbed, true_imp_iff, ← mem_tasks, Completes, found, Option.some.injEq]
    constructor
    · rintro allowed task ⟨_, rfl, unsettled, ready⟩
      exact allowed task unsettled ready
    · exact fun allowed task unsettled ready => allowed task ⟨closure, rfl, unsettled, ready⟩

theorem Told.step {action : HighLevelAction} {good : Prop} (silent : ∀ n, callbackThrows n = none)
    (opened : s.Opened) (told : Told id (s.callOf id) good)
    (unreported : ∀ report, action = .report report → report.messageId ≠ id)
    (run : s.step outcome callbackThrows action = some t) :
    Told id (t.callOf id) (good ∧ Undisturbed outcome id s action) := by
  have alone (same : t.callOf id = s.callOf id) (allowed : Undisturbed outcome id s action) :
      Told id (t.callOf id) (good ∧ Undisturbed outcome id s action) := by
    rw [same]
    exact told.congr (and_iff_left allowed).symm
  cases action with
  | produce arguments value key =>
    obtain ⟨closure, consistent, _⟩ := told.closure
    have older := opened.lt consistent.found
    exact alone ((produce_elsewhere run).2 id (by omega)) trivial
  | settle own part result =>
    by_cases here : own = id
    · subst here
      exact told.settle silent run
    · exact alone ((settle_elsewhere run).2 id (Ne.symm here)) fun same => absurd same here
  | rejection =>
    simp only [HighLevelProducer.step] at run
    split at run
    · rename_i failed part e rest queue
      cases Option.some.inj run
      have apart : failed ≠ id := by
        rintro rfl
        have none := told.rejections
        simp [callOf, queue] at none
      have moved := trans_of (Elsewhere failed) (elsewhere_rejection queue)
        ((elsewhere_moves outcome callbackThrows failed).failSerialized e { s with rejections := rest })
      exact alone (moved.2 id apart.symm) trivial
    · cases run
  | immediate =>
    simp only [HighLevelProducer.step] at run
    split at run
    · rename_i task rest queue
      cases Option.some.inj run
      by_cases own : task.messageId = id
      · exact (told.task queue own).congr (and_iff_left trivial).symm
      · have moved := trans_of (Elsewhere task.messageId) (elsewhere_immediate queue)
          (runImmediate_elsewhere callbackThrows task { s with immediates := rest })
        exact alone (moved.2 id (Ne.symm own)) trivial
    · cases run
  | report report =>
    simp only [HighLevelProducer.step, Option.ite_none_right_eq_some, Option.some.injEq] at run
    obtain ⟨_, rfl⟩ := run
    exact alone ((deliveryReport_moves report _).1.2 id (Ne.symm (unreported report rfl))) trivial
  | tick interval =>
    obtain rfl := step_tick run
    exact alone (s.tick_callOf id) trivial
  | disconnected | connected =>
    cases Option.some.inj run
    exact alone rfl trivial

theorem told_run {good : Prop} {trace : List HighLevelAction} {u : HighLevelProducer}
    (silent : ∀ n, callbackThrows n = none) (opened : t.Opened) (told : Told id (t.callOf id) good)
    (reach : Reach (step outcome callbackThrows) t trace u)
    (unreported : ∀ report, .report report ∈ trace → report.messageId ≠ id) :
    Told id (u.callOf id) (good ∧ ReachWhile (Undisturbed outcome id) (step outcome callbackThrows) t trace u) := by
  induction reach with
  | start => exact told.congr (and_iff_left .start).symm
  | @next before after action earlier reach run ih =>
    have told := ih fun report member => unreported report (List.mem_append_left _ member)
    have last := told.step silent (reach_opened opened reach)
      (fun report same => unreported report (by simp [same])) run
    refine last.congr ?_
    rw [reach.while_snoc_iff run, and_assoc]

/-- A serializer that passes an error to its callback while it is applied. -/
def FailsNow (serialization : Serialization) : Prop := ∃ e, serialization.style = .callback (some (.error e))

/-- The value is there when the key serializer calls back with the key. -/
def CompletesNow (value key : Serialization) : Prop :=
  ∃ v k, Delivers value v ∧ v ≠ .undefined ∧ key.style = .callback (some (.ok k)) ∧ k ≠ .undefined

/-- The condition on a produce call: a serializer that throws does so before
the callback has been called, and when the key serializer completes the call
early the underlying produce accepts the first message or the second. -/
def ToldOnce (outcome : Nat → Option JsError) (s : HighLevelProducer) (value key : Serialization) : Prop :=
  (value.thrown.isSome → ¬ FailsNow value) ∧
    (value.thrown = none → key.thrown.isSome →
      ¬ FailsNow value ∧ ¬ FailsNow key ∧ (CompletesNow value key → s.refusal outcome = none)) ∧
    (key.thrown = none → CompletesNow value key → s.acceptances outcome 2 ≠ 0)

/-- A call whose value serializer has been applied, with no task. -/
structure AfterValue (value : Serialization) (call : CallState) (closure : ProduceClosure) : Prop where
  consistent : Consistent call closure
  untried : call.attempts = []
  rejections : call.rejections = []
  immediates : call.immediates = []
  keyIdle : call.pending .key = none
  keyOpen : closure.resolvedSerializedKey = .undefined
  told : FailsNow value ∧ closure.calledBack = true ∧ closure.resolvedSerializedValue = .undefined ∧
      call.callbacks.length = 1 ∨
    ¬ FailsNow value ∧ closure.calledBack = false ∧ call.callbacks = []
  delivered : value.thrown = none → ∀ v, v ≠ .undefined → (closure.resolvedSerializedValue = v ↔ Delivers value v)

variable {arguments : ProduceArguments} {value key : Serialization}

variable (outcome) in
theorem serialize_now {serialization : Serialization} (part : SerializerPart) {result : Except JsError JsValue}
    (silent : ∀ n, callbackThrows n = none) (found : s.closures id = some closure)
    (style : serialization.style = .callback (some result)) :
    ((thrown ((serialize outcome callbackThrows serialization part id).run s)).isSome ↔ serialization.thrown.isSome) ∧
      (final ((serialize outcome callbackThrows serialization part id).run s)).callOf id =
        settled outcome id part closure s (s.callOf id) result := by
  obtain ⟨state, throws⟩ := serialize_of_called outcome callbackThrows part id s style
  obtain ⟨quiet, after⟩ := serializerCallback_settled outcome silent found part result
  exact ⟨by simpa [quiet] using throws, by rw [state, after]⟩

theorem not_delivers {serialization : Serialization} {v : JsValue}
    (apart : ∀ v, serialization.style ≠ .value v ∧ serialization.style ≠ .callback (some (.ok v))) :
    ¬ Delivers serialization v := by
  rintro ⟨_, style | style⟩
  · exact (apart v).1 style
  · exact (apart v).2 style

theorem delivers_iff {serialization : Serialization} {v v' : JsValue} (silent : serialization.thrown = none)
    (style : serialization.style = .value v ∨ serialization.style = .callback (some (.ok v))) :
    v = v' ↔ Delivers serialization v' := by
  constructor
  · rintro rfl
    exact ⟨silent, style⟩
  · rintro ⟨_, other⟩
    rcases style with style | style <;> rw [style] at other <;> simpa using other

theorem afterValue_called {v : JsValue} {call : CallState}
    (style : value.style = .value v ∨ value.style = .callback (some (.ok v)))
    (same : call = { closure := some (ProduceClosure.finish { arguments } v .value) }) :
    AfterValue value call (ProduceClosure.finish { arguments } v .value) := by
  subst same
  refine ⟨⟨rfl, by simp, by simp⟩, rfl, rfl, rfl, rfl, rfl, Or.inr ⟨?_, rfl, rfl⟩, fun silent v' _ => ?_⟩
  · rintro ⟨e, fails⟩
    rcases style with style | style <;> simp [style] at fails
  · exact delivers_iff silent style

variable (outcome) in
theorem afterValue (silent : ∀ n, callbackThrows n = none)
    (fresh : s.callOf id = { closure := some { arguments } }) (value : Serialization) :
    ((thrown ((serialize outcome callbackThrows value .value id).run s)).isSome ↔ value.thrown.isSome) ∧
      ∃ closure, AfterValue value
        ((final ((serialize outcome callbackThrows value .value id).run s)).callOf id) closure := by
  have found : s.closures id = some { arguments } := congrArg CallState.closure fresh
  rcases style_cases value with ⟨v, style⟩ | style | ⟨e, style⟩ | ⟨v, style⟩
  · rw [serialize_of_value outcome callbackThrows .value style found fun _ => rfl]
    cases throws : value.thrown with
    | none =>
      refine ⟨by simp, ProduceClosure.finish { arguments } v .value, afterValue_called (Or.inl style) ?_⟩
      rw [final_ok, stored_callOf, fresh]
    | some e =>
      refine ⟨by simp, { arguments }, ?_⟩
      rw [final_error, fresh]
      refine ⟨⟨rfl, by simp, by simp⟩, rfl, rfl, rfl, rfl, rfl, Or.inr ⟨?_, rfl, rfl⟩, by simp [throws]⟩
      rintro ⟨e, fails⟩
      simp [style] at fails
  · obtain ⟨throws, kind, ends⟩ := serialize_of_waiting outcome callbackThrows .value id s style
    refine ⟨throws, { arguments }, ?_⟩
    have apart : ∀ v, value.style ≠ .value v ∧ value.style ≠ .callback (some (.ok v)) := by
      intro v
      rcases style with style | style <;> simp [style]
    have standing : ∀ pending : SerializerPart → Option CompletionKind, pending .key = none →
        AfterValue value { closure := some { arguments }, pending } { arguments } := by
      intro pending keyIdle
      refine ⟨⟨rfl, fun _ => rfl, fun _ => rfl⟩, rfl, rfl, rfl, keyIdle, rfl, Or.inr ⟨?_, rfl, rfl⟩, ?_⟩
      · rintro ⟨e, fails⟩
        rcases style with style | style <;> simp [style] at fails
      · exact fun _ v defined => iff_of_false (Ne.symm defined) (not_delivers apart)
    rcases ends with same | ⟨_, same⟩
    · rw [same, pend_callOf id .value kind (by rw [fresh]), fresh]
      exact standing _ (by simp)
    · rw [same, fresh]
      exact standing _ rfl
  · obtain ⟨throws, after⟩ := serialize_now outcome .value silent found style
    refine ⟨throws, { arguments, calledBack := true }, ?_⟩
    rw [after, fresh]
    refine ⟨⟨rfl, by simp [settled], by simp [settled]⟩, rfl, rfl, rfl, rfl, rfl,
      Or.inl ⟨⟨e, style⟩, rfl, rfl, rfl⟩, fun _ v defined => ?_⟩
    exact iff_of_false (Ne.symm defined) (not_delivers fun v => by simp [style])
  · obtain ⟨throws, after⟩ := serialize_now outcome .value silent found style
    refine ⟨throws, ProduceClosure.finish { arguments } v .value, afterValue_called (Or.inr style) ?_⟩
    rw [after, fresh]
    simp [settled, ProduceClosure.ready, ProduceClosure.finish, JsValue.isUndefined]

/-- Where a call stands that has not produced: the callback has been called
once, by a serializer that failed, or not at all. -/
structure Standing (call : CallState) (closure : ProduceClosure) : Prop where
  consistent : Consistent call closure
  untried : call.attempts = []
  rejections : call.rejections = []
  immediates : call.immediates = []
  told : closure.calledBack = true ∧ closure.ready = false ∧ call.callbacks.length = 1 ∨
    closure.calledBack = false ∧ call.callbacks = []

theorem Standing.length_le {call : CallState} (standing : Standing call closure) : call.callbacks.length ≤ 1 := by
  rcases standing.told with ⟨_, _, once⟩ | ⟨_, none⟩
  · exact once.le
  · simp [none]

theorem Standing.callbacks_iff {call : CallState} (standing : Standing call closure) :
    call.callbacks = [] ↔ closure.calledBack = false := by
  rcases standing.told with ⟨called, _, once⟩ | ⟨called, none⟩
  · refine iff_of_false (fun none => ?_) (by simp [called])
    simp [none] at once
  · exact iff_of_true none called

/-- The try block ends with produceIfComplete. -/
theorem Standing.completes {call : CallState} (standing : Standing call closure) (s : HighLevelProducer) :
    Told id (if closure.ready then producing outcome id closure s call else call) True := by
  have quiet := standing.callbacks_iff
  by_cases ready : closure.ready = true
  · have done := standing.consistent.idle_of_ready ready
    have unsettled : closure.calledBack = false := by
      rcases standing.told with ⟨_, unready, _⟩ | ⟨unsettled, _⟩
      · simp [ready] at unready
      · exact unsettled
    rw [if_pos ready]
    refine .of_done ⟨standing.consistent.found, standing.consistent.value, standing.consistent.key⟩ unsettled done
      standing.rejections (Or.inl standing.immediates) (fun task => absurd standing.immediates task)
      fun _ => iff_of_true ?_ trivial
    simp only [producing, quiet.mpr unsettled, List.nil_append]
    exact said_length_le
  · rw [if_neg ready]
    exact ⟨⟨closure, standing.consistent, fun unsettled _ _ => quiet.mpr unsettled,
      fun _ task => absurd standing.immediates task⟩, fun tried => absurd standing.untried tried,
      standing.rejections, Or.inl standing.immediates, fun task => absurd standing.immediates task,
      fun _ => iff_of_true standing.length_le trivial⟩

/-- The try block ends with an exception. -/
theorem Standing.throws {call : CallState} (standing : Standing call closure) (e : JsError) :
    Told id { call with immediates := call.immediates ++ [.fail id e] } (closure.calledBack = false) := by
  have quiet := standing.callbacks_iff
  refine ⟨⟨closure, ⟨standing.consistent.found, standing.consistent.value, standing.consistent.key⟩,
    fun unsettled _ _ => quiet.mpr unsettled, fun late _ none => ?_⟩, fun tried => absurd standing.untried tried,
    standing.rejections, Or.inr ⟨e, by simp [standing.immediates]⟩, fun _ => ⟨standing.length_le, quiet⟩, by simp⟩
  simp [quiet.mp none] at late

theorem AfterValue.standing {call : CallState} (after : AfterValue value call closure) : Standing call closure := by
  refine ⟨after.consistent, after.untried, after.rejections, after.immediates, ?_⟩
  rcases after.told with ⟨_, called, _, once⟩ | ⟨_, unsettled, none⟩
  · exact Or.inl ⟨called, by simp [ProduceClosure.ready, after.keyOpen, JsValue.isUndefined], once⟩
  · exact Or.inr ⟨unsettled, none⟩

theorem AfterValue.calledBack_iff {call : CallState} (after : AfterValue value call closure) :
    closure.calledBack = false ↔ ¬ FailsNow value := by
  rcases after.told with ⟨fails, called, _⟩ | ⟨returns, unsettled, _⟩
  · exact iff_of_false (by simp [called]) (not_not_intro fails)
  · exact iff_of_true unsettled returns

/-- Storing the key leaves a call that has not produced where it stands. -/
theorem AfterValue.stores {call : CallState} (after : AfterValue value call closure) (k : JsValue) :
    Standing { call with closure := some (closure.finish k .key) } (closure.finish k .key) := by
  refine ⟨⟨rfl, after.consistent.value, fun waits => absurd after.keyIdle waits⟩, after.untried, after.rejections,
    after.immediates, ?_⟩
  rcases after.told with ⟨_, called, undefined, once⟩ | ⟨_, unsettled, none⟩
  · exact Or.inl ⟨called, by simp [ProduceClosure.ready, ProduceClosure.finish, undefined, JsValue.isUndefined], once⟩
  · exact Or.inr ⟨unsettled, none⟩

theorem AfterValue.pends {call : CallState} (after : AfterValue value call closure) (kind : CompletionKind) :
    Standing { call with pending := Function.update call.pending .key (some kind) } closure := by
  have standing := after.standing
  exact ⟨⟨standing.consistent.found, by simpa using standing.consistent.value, fun _ => after.keyOpen⟩,
    standing.untried, standing.rejections, standing.immediates, standing.told⟩

theorem AfterValue.fails {call : CallState} (after : AfterValue value call closure) (e : JsError) :
    Standing (settled outcome id .key closure s call (.error e)) { closure with calledBack := true } := by
  have standing := after.standing
  have unready : closure.ready = false := by simp [ProduceClosure.ready, after.keyOpen, JsValue.isUndefined]
  cases called : closure.calledBack with
  | true =>
    have same : { closure with calledBack := true } = closure := by rw [← called]
    simpa only [settled, called, if_true, same] using standing
  | false =>
    have none := standing.callbacks_iff.mpr called
    simp only [settled, called, Bool.false_eq_true, if_false]
    exact ⟨⟨rfl, standing.consistent.value, standing.consistent.key⟩, standing.untried, standing.rejections,
      standing.immediates, Or.inl ⟨rfl, unready, by simp [none]⟩⟩

variable (key) in
/-- A key serializer that calls back at once completes the call exactly when
the value is there. -/
theorem AfterValue.completes_iff {call : CallState} (after : AfterValue value call closure)
    (returns : value.thrown = none) {k : JsValue} (style : key.style = .callback (some (.ok k))) :
    CompletesNow value key ↔ closure.calledBack = false ∧ (closure.finish k .key).ready = true := by
  have ready : (closure.finish k .key).ready = true ↔
      k ≠ .undefined ∧ closure.resolvedSerializedValue ≠ .undefined := by
    simp [ProduceClosure.ready, ProduceClosure.finish, ← Bool.not_eq_true]
  rw [ready]
  constructor
  · rintro ⟨v, k', delivers, defined, style', keyDefined⟩
    rw [style] at style'
    cases style'
    have value := (after.delivered returns v defined).mpr delivers
    refine ⟨?_, keyDefined, value ▸ defined⟩
    rcases after.told with ⟨_, _, undefined, _⟩ | ⟨_, unsettled, _⟩
    · exact absurd (value.symm.trans undefined) defined
    · exact unsettled
  · rintro ⟨_, keyDefined, defined⟩
    exact ⟨_, k, (after.delivered returns _ defined).mp rfl, defined, style, keyDefined⟩

variable (value key) in
theorem not_completesNow (other : ∀ k, key.style ≠ .callback (some (.ok k))) : ¬ CompletesNow value key := by
  rintro ⟨_, k, _, _, style, _⟩
  exact other k style

variable (outcome) in
/-- What the key serializer does to a call: it completes the call at once, or
the call has still not produced. -/
theorem AfterValue.serializesKey (silent : ∀ n, callbackThrows n = none)
    (after : AfterValue value (s.callOf id) closure) (returns : value.thrown = none) (key : Serialization) :
    ((thrown ((serialize outcome callbackThrows key .key id).run s)).isSome ↔ key.thrown.isSome) ∧
      ((∃ k, CompletesNow value key ∧ ¬ FailsNow value ∧ ¬ FailsNow key ∧ (closure.finish k .key).ready = true ∧
          (final ((serialize outcome callbackThrows key .key id).run s)).callOf id =
            producing outcome id (closure.finish k .key) s
              { s.callOf id with closure := some (closure.finish k .key) }) ∨
        ¬ CompletesNow value key ∧ ∃ later,
          Standing ((final ((serialize outcome callbackThrows key .key id).run s)).callOf id) later ∧
          (later.calledBack = false ↔ ¬ FailsNow value ∧ ¬ FailsNow key)) := by
  have found : s.closures id = some closure := after.consistent.found
  have returnsNow (other : ∀ e, key.style ≠ .callback (some (.error e))) : ¬ FailsNow key := by
    rintro ⟨e, fails⟩
    exact other e fails
  rcases style_cases key with ⟨k, style⟩ | style | ⟨e, style⟩ | ⟨k, style⟩
  · have quiet := returnsNow (by simp [style])
    have waits := not_completesNow value key (by simp [style])
    rw [serialize_of_value outcome callbackThrows .key style found (by simp)]
    cases throws : key.thrown with
    | none =>
      refine ⟨by simp, Or.inr ⟨waits, closure.finish k .key, ?_, after.calledBack_iff.trans (and_iff_left quiet).symm⟩⟩
      rw [final_ok, stored_callOf]
      exact after.stores k
    | some e => exact ⟨by simp, Or.inr ⟨waits, _, after.standing, after.calledBack_iff.trans (and_iff_left quiet).symm⟩⟩
  · have quiet := returnsNow (by rcases style with style | style <;> simp [style])
    have waits := not_completesNow value key (by rcases style with style | style <;> simp [style])
    obtain ⟨throws, kind, ends⟩ := serialize_of_waiting outcome callbackThrows .key id s style
    refine ⟨throws, Or.inr ⟨waits, closure, ?_, after.calledBack_iff.trans (and_iff_left quiet).symm⟩⟩
    rcases ends with same | ⟨_, same⟩
    · rw [same, pend_callOf id .key kind after.keyIdle]
      exact after.pends kind
    · rw [same]
      exact after.standing
  · obtain ⟨throws, ends⟩ := serialize_now outcome .key silent found style
    refine ⟨throws, Or.inr ⟨not_completesNow value key (by simp [style]), { closure with calledBack := true }, ?_, ?_⟩⟩
    · rw [ends]
      exact after.fails e
    · exact iff_of_false (by simp) fun both => both.2 ⟨e, style⟩
  · obtain ⟨throws, ends⟩ := serialize_now outcome .key silent found style
    have quiet := returnsNow (by simp [style])
    have completes := after.completes_iff key returns style
    refine ⟨throws, ?_⟩
    rw [ends, settled]
    by_cases early : closure.calledBack = false ∧ (closure.finish k .key).ready = true
    · rw [if_pos early]
      exact Or.inl ⟨k, completes.mpr early, after.calledBack_iff.mp early.1, quiet, early.2, rfl⟩
    · rw [if_neg early]
      exact Or.inr ⟨fun now => early (completes.mp now), closure.finish k .key, after.stores k,
        after.calledBack_iff.trans (and_iff_left quiet).symm⟩

theorem acceptances_congr (hands : HandsOver outcome id s t) (untried : (t.callOf id).attempts = []) (count : Nat) :
    t.acceptances outcome count = s.acceptances outcome count := by
  obtain ⟨attempts, taken, own, _⟩ := hands.handed
  have none := HandsOver.attempts_own taken own
  rw [untried] at none
  obtain rfl : attempts = [] := (List.append_eq_nil_iff.mp none.symm).2
  simp only [acceptances, hands.isConnected, taken, List.append_nil]

/-- Two produces in one turn call back once unless neither is accepted. -/
theorem said_twice (hands : HandsOver outcome id s t) {attempt : ProduceAttempt}
    (untried : (s.callOf id).attempts = []) (tried : (t.callOf id).attempts = [attempt]) :
    (said outcome id s ++ said outcome id t).length ≤ 1 ↔ s.acceptances outcome 2 ≠ 0 := by
  obtain ⟨attempts, taken, own, _⟩ := hands.handed
  have one := HandsOver.attempts_own taken own
  rw [untried, tried, List.nil_append] at one
  have sum := acceptances_add outcome hands.isConnected taken 1
  have first := said_length outcome id s
  have second := said_length outcome id t
  rw [← one, List.length_singleton] at sum
  have both : s.acceptances outcome 2 = s.acceptances outcome 1 + t.acceptances outcome 1 := sum
  rw [List.length_append]
  omega

variable (outcome id s) in
/-- A call whose key serializer completed it, from the produce on. -/
theorem AfterValue.early {call : CallState} {k : JsValue}
    (after : AfterValue value call closure) (returns : ¬ FailsNow value)
    (ready : (closure.finish k .key).ready = true) :
    Consistent (producing outcome id (closure.finish k .key) s { call with closure := some (closure.finish k .key) })
        (closure.finish k .key) ∧
      (closure.finish k .key).calledBack = false ∧ (∀ part, call.pending part = none) ∧ call.callbacks = [] := by
  have stores := after.stores k
  have unsettled := after.calledBack_iff.mpr returns
  exact ⟨⟨rfl, stores.consistent.value, stores.consistent.key⟩, unsettled,
    stores.consistent.idle_of_ready ready, after.standing.callbacks_iff.mpr unsettled⟩

theorem toldOnce_throws (returns : value.thrown = none) (throws : key.thrown.isSome) : ToldOnce outcome s value key ↔
    ¬ FailsNow value ∧ ¬ FailsNow key ∧ (CompletesNow value key → s.refusal outcome = none) := by
  have loud : key.thrown ≠ none := Option.isSome_iff_ne_none.mp throws
  simp [ToldOnce, returns, throws, loud]

theorem toldOnce_returns (returns : value.thrown = none) (quiet : key.thrown = none) :
    ToldOnce outcome s value key ↔ (CompletesNow value key → s.acceptances outcome 2 ≠ 0) := by
  simp [ToldOnce, returns, quiet]

/-- An exception of the key serializer leaves its task. -/
theorem AfterValue.keyThrows {e : JsError} (silent : ∀ n, callbackThrows n = none)
    (after : AfterValue value (s.callOf id) closure) (returns : value.thrown = none) (throws : key.thrown.isSome) :
    Told id { (final ((serialize outcome callbackThrows key .key id).run s)).callOf id with
        immediates := ((final ((serialize outcome callbackThrows key .key id).run s)).callOf id).immediates ++
          [.fail id e] } (ToldOnce outcome s value key) := by
  rw [toldOnce_throws returns throws]
  rcases (after.serializesKey outcome silent returns key).2 with
    ⟨k, now, valueReturns, keyReturns, ready, ends⟩ | ⟨late, later, standing, told⟩
  · obtain ⟨consistent, unsettled, done, none⟩ :=
      @AfterValue.early outcome id closure s value _ k after valueReturns ready
    rw [ends]
    refine .of_done ⟨consistent.found, consistent.value, consistent.key⟩ unsettled done after.rejections
      (Or.inr ⟨e, by simp [producing, after.immediates]⟩) (fun _ => ?_) (by simp)
    simp only [producing, none, List.nil_append]
    refine ⟨said_length_le, said_eq_nil.trans ⟨fun accepts => ⟨valueReturns, keyReturns, fun _ => accepts⟩, ?_⟩⟩
    exact fun allowed => allowed.2.2 now
  · refine (standing.throws e).congr (told.trans ?_)
    exact ⟨fun both => ⟨both.1, both.2, fun now => absurd now late⟩, fun all => ⟨all.1, all.2.1⟩⟩

variable (outcome) in
/-- A key serializer that does not throw is followed by produceIfComplete. -/
theorem AfterValue.keyReturns (silent : ∀ n, callbackThrows n = none)
    (after : AfterValue value (s.callOf id) closure) (returns : value.thrown = none) (quiet : key.thrown = none) :
    (thrown ((keyHalf outcome callbackThrows key id).run s)) = none ∧
      Told id ((final ((keyHalf outcome callbackThrows key id).run s)).callOf id) (ToldOnce outcome s value key) := by
  obtain ⟨throws, ends⟩ := after.serializesKey outcome silent returns key
  have onward : thrown ((serialize outcome callbackThrows key .key id).run s) = none := by
    simpa [quiet, Option.isSome_iff_ne_none] using throws
  rw [toldOnce_returns returns quiet, keyHalf, (run_seq _ _ s).1 onward]
  rcases ends with ⟨k, now, valueReturns, _, ready, ends⟩ | ⟨late, later, standing, _⟩
  · obtain ⟨consistent, unsettled, done, none⟩ :=
      @AfterValue.early outcome id closure s value _ k after valueReturns ready
    have found : (final ((serialize outcome callbackThrows key .key id).run s)).closures id =
        some (closure.finish k .key) := congrArg CallState.closure ends
    obtain ⟨stays, again⟩ := produceIfComplete_producing outcome silent found
    refine ⟨stays, ?_⟩
    have hands := (handsOver_moves outcome callbackThrows id).serialize key .key s
    have tried := congrArg CallState.attempts ends
    have twice := said_twice hands after.untried (tried.trans (by simp [producing, after.untried]; rfl))
    rw [again, if_pos ready, ends]
    refine .of_done ⟨consistent.found, consistent.value, consistent.key⟩ unsettled done after.rejections
      (Or.inl after.immediates) (fun task => absurd after.immediates task) fun _ => ?_
    simp only [producing, none, List.nil_append]
    exact twice.trans ⟨fun accepts _ => accepts, fun allowed => allowed now⟩
  · have found := standing.consistent.found
    obtain ⟨stays, after⟩ := produceIfComplete_producing outcome silent found
    refine ⟨stays, ?_⟩
    rw [after]
    exact (standing.completes _).congr (iff_of_true trivial fun now => absurd now late)

theorem refusal_iff : s.refusal outcome = none ↔ s.acceptances outcome 1 = 1 := by
  rw [acceptances_one]
  split <;> simp_all

theorem toldOnce_congr (same : ∀ count, t.acceptances outcome count = s.acceptances outcome count) :
    ToldOnce outcome t value key ↔ ToldOnce outcome s value key := by
  simp only [ToldOnce, refusal_iff, same]

/-- A call as the catch of _modifiedProduce leaves it: with a task for an
exception of the try block. -/
def caught (id : Nat) (block : EStateM.Result JsError HighLevelProducer PUnit) : CallState :=
  { (final block).callOf id with
    immediates := ((final block).callOf id).immediates ++ (thrown block).toList.map (.fail id ·) }

theorem caught_of_returns {block : EStateM.Result JsError HighLevelProducer PUnit} (returns : thrown block = none) :
    caught id block = (final block).callOf id := by
  simp [caught, returns]

variable (id) in
theorem caught_of_throws {block : EStateM.Result JsError HighLevelProducer PUnit} (throws : (thrown block).isSome) :
    ∃ e, caught id block = { (final block).callOf id with
      immediates := ((final block).callOf id).immediates ++ [.fail id e] } := by
  obtain ⟨e, some⟩ := Option.isSome_iff_exists.mp throws
  exact ⟨e, by simp [caught, some]⟩

theorem produce_caught (run : s.step outcome callbackThrows (.produce arguments value key) = some t) :
    t.callOf s.messageId =
      caught s.messageId ((serializeBoth outcome callbackThrows value key s.messageId).run (openCall arguments s)) := by
  cases Option.some.inj run
  simp only [modifiedProduce, EStateM.run_bind, EStateM.run_get, EStateM.run_modify, run_tryCatch]
  cases (serializeBoth outcome callbackThrows value key s.messageId).run (openCall arguments s) with
  | ok _ u => simp [caught]
  | error e u => simp [caught, setImmediate, callOf, List.filter_append, HighLevelImmediate.messageId]

/-- The key serializer and produceIfComplete, with the catch. -/
theorem AfterValue.keyHalf_told (silent : ∀ n, callbackThrows n = none)
    (after : AfterValue value (s.callOf id) closure) (returns : value.thrown = none) :
    Told id (caught id ((keyHalf outcome callbackThrows key id).run s)) (ToldOnce outcome s value key) := by
  cases throws : key.thrown with
  | none =>
    obtain ⟨quiet, told⟩ := after.keyReturns outcome silent returns throws
    rwa [caught_of_returns quiet]
  | some e =>
    have loud : key.thrown.isSome := by simp [throws]
    obtain ⟨state, breaks⟩ := (run_seq _ (produceIfComplete outcome callbackThrows id) s).2
      ((after.serializesKey outcome silent returns key).1.mpr loud)
    obtain ⟨e', left⟩ := caught_of_throws id breaks
    rw [keyHalf, left, state]
    exact after.keyThrows silent returns loud

theorem toldOnce_breaks {e : JsError} (throws : value.thrown = some e) :
    ToldOnce outcome s value key ↔ ¬ FailsNow value := by
  have never : ¬ CompletesNow value key := by
    rintro ⟨_, _, ⟨returns, _⟩, _⟩
    simp [throws] at returns
  simp [ToldOnce, throws, never]

/-- What a produce call has told its callback when it returns. -/
theorem produce_told (silent : ∀ n, callbackThrows n = none) (opened : s.Opened)
    (run : s.step outcome callbackThrows (.produce arguments value key) = some t) :
    Told s.messageId (t.callOf s.messageId) (ToldOnce outcome s value key) := by
  obtain ⟨throws, closure, after⟩ := afterValue outcome silent (openCall_callOf opened arguments) value
  have hands := (handsOver_moves outcome callbackThrows s.messageId).serialize value .value (openCall arguments s)
  have opening : ∀ count, (openCall arguments s).acceptances outcome count = s.acceptances outcome count := by
    intro count
    rw [openCall_fields]
    rfl
  have same := fun count => (acceptances_congr hands after.untried count).trans (opening count)
  obtain ⟨onward, broken⟩ := serializeBoth_run outcome callbackThrows value key s.messageId (openCall arguments s)
  rw [produce_caught run, ← toldOnce_congr same]
  cases valueThrows : value.thrown with
  | none =>
    rw [onward (by simpa [valueThrows, Option.isSome_iff_ne_none] using throws)]
    exact after.keyHalf_told silent valueThrows
  | some e =>
    obtain ⟨state, breaks⟩ := broken (throws.mpr (by simp [valueThrows]))
    obtain ⟨e', left⟩ := caught_of_throws s.messageId breaks
    rw [left, state, toldOnce_breaks valueThrows]
    exact (after.standing.throws e').congr after.calledBack_iff

end Code

/-- What the callback of one produce call has been called with. -/
def callbacksOf (s : HighLevelProducer) (id : Nat) : List (Nat × CallbackArguments) :=
  s.callbacks.filter (·.1 = id)

end HighLevelProducer

/-- Before its report is considered a produce call calls back at most once when
the condition holds; once its setImmediate task has run, only then. -/
theorem called_back_once_iff {outcome callbackThrows : Nat → Option JsError} {s t u : HighLevelProducer}
    {earlier later : List HighLevelAction} {arguments : ProduceArguments} {value key : Serialization}
    (silent : ∀ n, callbackThrows n = none)
    (reach : Reach (HighLevelProducer.step outcome callbackThrows) {} earlier s)
    (run : s.step outcome callbackThrows (.produce arguments value key) = some t)
    (reach' : Reach (HighLevelProducer.step outcome callbackThrows) t later u)
    (unreported : ∀ report, .report report ∈ later → report.messageId ≠ s.messageId) :
    (HighLevelProducer.ToldOnce outcome s value key ∧
        ReachWhile (HighLevelProducer.Undisturbed outcome s.messageId)
          (HighLevelProducer.step outcome callbackThrows) t later u →
      (u.callbacksOf s.messageId).length ≤ 1) ∧
    ((∀ task ∈ u.immediates, task.messageId ≠ s.messageId) → (u.callbacksOf s.messageId).length ≤ 1 →
      HighLevelProducer.ToldOnce outcome s value key ∧
        ReachWhile (HighLevelProducer.Undisturbed outcome s.messageId)
          (HighLevelProducer.step outcome callbackThrows) t later u) := by
  have opened := HighLevelProducer.reach_opened HighLevelProducer.opened_empty reach
  have told := HighLevelProducer.told_run silent (HighLevelProducer.step_opened opened run)
    (HighLevelProducer.produce_told silent opened run) reach' unreported
  refine ⟨fun good => ?_, fun drained once => ?_⟩
  · by_cases waits : (u.callOf s.messageId).immediates = []
    · exact (told.returned waits).mpr good
    · exact (told.waiting waits).1
  · refine (told.returned ?_).mp once
    by_contra waits
    obtain ⟨task, member, own⟩ := HighLevelProducer.mem_tasks.mp waits
    exact drained task member own

/-- A key serializer that throws, and a promise for the value that is rejected
only after the task of the exception has run. -/
theorem called_back_once_after_task :
    ∃ s t u, Reach (HighLevelProducer.step (fun _ => none) fun _ => none) {} [.connected] s ∧
      s.step (fun _ => none) (fun _ => none) (.produce (sampleArguments .null (.string "k")) { style := .promise }
        { style := .value .null, thrown := some { message := "key" } }) = some t ∧
      Reach (HighLevelProducer.step (fun _ => none) fun _ => none) t
        [.immediate, .settle 0 .value (.error { message := "value" })] u ∧
      u.callbacksOf 0 = [(0, .failed { message := "Could not serialize value: key" })] ∧
      (u.callbacksOf 0).length ≤ 1 := by
  obtain ⟨s, t, v, u, reach, run, task, rejected, fresh, drained, told⟩ : ∃ s t v u,
      Reach (HighLevelProducer.step (fun _ => none) fun _ => none) {} [.connected] s ∧
      s.step (fun _ => none) (fun _ => none) (.produce (sampleArguments .null (.string "k")) { style := .promise }
        { style := .value .null, thrown := some { message := "key" } }) = some t ∧
      t.step (fun _ => none) (fun _ => none) .immediate = some v ∧
      v.step (fun _ => none) (fun _ => none) (.settle 0 .value (.error { message := "value" })) = some u ∧
      s.messageId = 0 ∧ v.immediates = [] ∧
      u.callbacksOf 0 = [(0, .failed { message := "Could not serialize value: key" })] :=
    ⟨_, _, _, _, reach_iff_replay.mpr rfl, rfl, rfl, rfl, rfl, rfl, rfl⟩
  have later : ReachWhile (HighLevelProducer.Undisturbed (fun _ => none) s.messageId)
      (HighLevelProducer.step (fun _ => none) fun _ => none) t
      [.immediate, .settle 0 .value (.error { message := "value" })] u := by
    refine .prepend trivial task <| .prepend ?_ rejected .start
    rintro _ ⟨task, member, _⟩
    simp [drained] at member
  refine ⟨s, t, u, reach, run, later.reach, told, ?_⟩
  rw [← fresh]
  refine (called_back_once_iff (fun _ => rfl) reach run later.reach (by simp)).1 ⟨?_, later⟩
  refine ⟨by simp, fun _ _ => ⟨?_, ?_, ?_⟩, by simp⟩
  · rintro ⟨_, style⟩
    cases style
  · rintro ⟨_, style⟩
    cases style
  · rintro ⟨_, _, _, _, style, _⟩
    cases style

/-- The promise is rejected before the task of the key serializer's exception
has run, and the task calls back again. -/
theorem called_back_twice :
    ∃ s, Reach (HighLevelProducer.step (fun _ => none) fun _ => none) {}
        [.connected,
         .produce (sampleArguments .null (.string "k")) { style := .promise }
          { style := .value .null, thrown := some { message := "key" } },
         .settle 0 .value (.error { message := "value" }), .immediate] s ∧
      s.callbacksOf 0 = [(0, .failed { message := "value" }),
        (0, .failed { message := "Could not serialize value: key" })] ∧ s.reports = [] :=
  ⟨_, reach_iff_replay.mpr rfl, rfl, rfl⟩

end NodeRdkafka

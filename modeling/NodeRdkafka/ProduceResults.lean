import NodeRdkafka.ProduceOnce

namespace NodeRdkafka
open Transition Turn

namespace HighLevelProducer

/-- A serializer that ends with `r`, or leaves a promise or callback open. -/
def Succeeds (serialization : Serialization) (r : JsValue) : Prop :=
  Delivers serialization r ∨ (serialization.thrown = none ∧
    (serialization.style = .promise ∨ serialization.style = .callback none))

section Holding
variable {id : Nat} {arguments : ProduceArguments} {v k : JsValue}

/-- A call whose serializers have stored only `v` and `k`, and that has moved
on only by producing with both. -/
structure Holding (id : Nat) (arguments : ProduceArguments) (v k : JsValue) (call : CallState)
    (closure : ProduceClosure) : Prop where
  found : call.closure = some closure
  given : closure.arguments = arguments
  value : closure.resolvedSerializedValue = if call.pending .value = none then v else .undefined
  key : closure.resolvedSerializedKey = if call.pending .key = none then k else .undefined
  unsettled : closure.calledBack = true → call.attempts ≠ []
  attempts : ∀ attempt ∈ call.attempts, attempt = arguments.attempt id v k
  tried : call.attempts ≠ [] → (∀ part, call.pending part = none) ∧ k ≠ .undefined
  idle : call.attempts = [] →
    call.rejections = [] ∧ call.immediates = [] ∧ call.listeners = [] ∧ call.callbacks = []

/-- A call that has produced if both results are there and can be told apart
from undefined. -/
def Completing (id : Nat) (arguments : ProduceArguments) (v k : JsValue) (call : CallState) : Prop :=
  (∃ closure, Holding id arguments v k call closure) ∧
    ((∀ part, call.pending part = none) → k ≠ .undefined → call.attempts ≠ [])

theorem Holding.ready_iff {call : CallState} {closure : ProduceClosure} (defined : v ≠ .undefined)
    (holding : Holding id arguments v k call closure) :
    closure.ready = true ↔ (∀ part, call.pending part = none) ∧ k ≠ .undefined := by
  simp only [ProduceClosure.ready, Bool.and_eq_true, Bool.not_eq_true', ← Bool.not_eq_true,
    JsValue.isUndefined_iff, holding.value, holding.key]
  constructor
  · rintro ⟨key, value⟩
    by_cases keyIdle : call.pending .key = none
    · by_cases valueIdle : call.pending .value = none
      · refine ⟨fun part => ?_, by simpa [keyIdle] using key⟩
        cases part <;> assumption
      · simp [valueIdle] at value
    · simp [keyIdle] at key
  · rintro ⟨idle, keyDefined⟩
    simp [idle, keyDefined, defined]

theorem Holding.attempt_eq {call : CallState} {closure : ProduceClosure}
    (holding : Holding id arguments v k call closure) (idle : ∀ part, call.pending part = none) :
    closure.attempt id = arguments.attempt id v k := by
  rw [ProduceClosure.attempt, holding.given, holding.value, holding.key, idle .value, idle .key]
  rfl

/-- One run of produceIfComplete on such a call. -/
theorem Holding.tried_completing {before after : CallState} {closure : ProduceClosure}
    (holding : Holding id arguments v k before closure) (defined : v ≠ .undefined)
    (tried : Tried id closure before after) :
    Holding id arguments v k after closure ∧ (closure.ready → after.attempts ≠ []) ∧
      Completing id arguments v k after := by
  obtain ⟨called, listening, silent, rfl⟩ := tried
  by_cases ready : closure.ready
  · obtain ⟨idle, keyDefined⟩ := (holding.ready_iff defined).mp ready
    have kept : Holding id arguments v k { before with
        attempts := before.attempts ++ (if closure.ready then [closure.attempt id] else [])
        callbacks := before.callbacks ++ called
        listeners := before.listeners ++ listening } closure := by
      refine ⟨holding.found, holding.given, holding.value, holding.key, fun _ => by simp [ready],
        fun attempt member => ?_, fun _ => ⟨idle, keyDefined⟩, fun untried => by simp [ready] at untried⟩
      simp only [ready, if_true, List.mem_append, List.mem_singleton] at member
      rcases member with old | new
      · exact holding.attempts attempt old
      · rw [new, holding.attempt_eq idle]
    exact ⟨kept, fun _ => by simp [ready], ⟨closure, kept⟩, fun _ _ => by simp [ready]⟩
  · obtain ⟨rfl, rfl⟩ := silent (by simpa using ready)
    have same : ({ before with
        attempts := before.attempts ++ (if closure.ready then [closure.attempt id] else [])
        callbacks := before.callbacks ++ []
        listeners := before.listeners ++ [] } : CallState) = before := by simp [ready]
    rw [same]
    refine ⟨holding, fun isReady => absurd isReady ready, ⟨closure, holding⟩, fun idle keyDefined => ?_⟩
    exact absurd ((holding.ready_iff defined).mpr ⟨idle, keyDefined⟩) ready

theorem Holding.quiet {before after : CallState} {closure : ProduceClosure}
    (holding : Holding id arguments v k before closure) (quiet : Quiet before after)
    (tried : before.attempts ≠ []) : Completing id arguments v k after := by
  obtain ⟨idle, keyDefined⟩ := holding.tried tried
  have idleAfter : ∀ part, after.pending part = none := fun part => by
    by_contra waits
    exact quiet.pending part waits (idle part)
  have triedAfter : after.attempts ≠ [] := by rwa [quiet.attempts]
  obtain ⟨later, found, given, value, key⟩ := quiet.closure closure holding.found
  refine ⟨⟨later, found, given.trans holding.given, ?_, ?_, fun _ => triedAfter, ?_,
    fun _ => ⟨idleAfter, keyDefined⟩, fun untried => absurd untried triedAfter⟩, fun _ _ => triedAfter⟩
  · rw [value, holding.value, idle, idleAfter]
  · rw [key, holding.key, idle, idleAfter]
  · rw [quiet.attempts]
    exact holding.attempts

/-- A success of a pending serializer whose result is the one expected. -/
theorem Holding.finished {part : SerializerPart} {before after : CallState} {r : JsValue}
    {closure : ProduceClosure} (holding : Holding id arguments v k before closure)
    (defined : v ≠ .undefined) (result : r = match part with | .value => v | .key => k)
    (finished : Finished id part r before after) : Completing id arguments v k after := by
  obtain ⟨closure', found, waits, moved⟩ := finished
  cases found.symm.trans holding.found
  have untried : before.attempts = [] := by
    by_contra tried
    exact waits ((holding.tried tried).1 part)
  have unsettled : closure.calledBack = false := by
    by_contra late
    exact holding.unsettled (by simpa using late) untried
  rcases moved with ⟨late, _⟩ | ⟨_, middle, tail, tried, silent, rfl⟩
  · simp [unsettled] at late
  · have stored : Holding id arguments v k { before with
        closure := some (closure.finish r part)
        pending := Function.update before.pending part none } (closure.finish r part) := by
      subst result
      cases part with
      | value =>
        refine ⟨rfl, ?_, ?_, ?_, ?_, holding.attempts, fun tried => absurd untried tried, holding.idle⟩
        · simp [ProduceClosure.finish, unsettled, holding.given]
        · simp [ProduceClosure.finish, unsettled]
        · simpa [ProduceClosure.finish, unsettled] using holding.key
        · simp [ProduceClosure.finish, unsettled]
      | key =>
        refine ⟨rfl, holding.given, by simpa [ProduceClosure.finish] using holding.value, ?_, ?_,
          holding.attempts, fun tried => absurd untried tried, holding.idle⟩
        · simp [ProduceClosure.finish]
        · simp [ProduceClosure.finish, unsettled]
    obtain ⟨kept, attempted, ⟨_, _⟩, complete⟩ := stored.tried_completing defined tried
    refine ⟨⟨_, kept.found, kept.given, kept.value, kept.key, kept.unsettled, kept.attempts, kept.tried,
      fun untried' => ?_⟩, complete⟩
    have unready : (closure.finish r part).ready = false := by
      by_contra ready
      exact attempted (by simpa using ready) untried'
    simpa [silent unready] using kept.idle untried'

end Holding
section Code
variable {outcome callbackThrows : Nat → Option JsError} {id : Nat} {arguments : ProduceArguments}
  {v k : JsValue}

/-- A call with its value serializer applied and its key serializer to come. -/
structure HalfOpen (arguments : ProduceArguments) (v : JsValue) (call : CallState)
    (closure : ProduceClosure) : Prop where
  found : call.closure = some closure
  given : closure.arguments = arguments
  value : closure.resolvedSerializedValue = if call.pending .value = none then v else .undefined
  key : closure.resolvedSerializedKey = .undefined
  keyIdle : call.pending .key = none
  unsettled : closure.calledBack = false
  untried : call.attempts = []
  idle : call.rejections = [] ∧ call.immediates = [] ∧ call.listeners = [] ∧ call.callbacks = []

variable (outcome callbackThrows) in
theorem halfOpen_serialize {s : HighLevelProducer} {value : Serialization}
    (fresh : s.callOf id = { closure := some { arguments } }) (succeeds : Succeeds value v) :
    thrown ((serialize outcome callbackThrows value .value id).run s) = none ∧
      ∃ closure, HalfOpen arguments v
        ((final ((serialize outcome callbackThrows value .value id).run s)).callOf id) closure := by
  rcases succeeds with delivers | ⟨silent, style⟩
  · rw [serialize_delivers outcome callbackThrows (congrArg CallState.closure fresh) delivers]
    refine ⟨rfl, ProduceClosure.finish { arguments } v .value, ?_⟩
    rw [final_ok, stored_callOf, fresh]
    exact ⟨rfl, rfl, rfl, rfl, rfl, rfl, rfl, rfl, rfl, rfl, rfl⟩
  · obtain ⟨throws, kind, same | ⟨loud, _⟩⟩ := serialize_of_waiting outcome callbackThrows .value id s style
    · refine ⟨by simpa [silent] using throws, { arguments }, ?_⟩
      rw [same, pend_callOf id .value kind (by rw [fresh]), fresh]
      exact ⟨rfl, rfl, by simp, rfl, by simp, rfl, rfl, rfl, rfl, rfl, rfl⟩
    · simp [silent] at loud

theorem HalfOpen.stored {call : CallState} {closure : ProduceClosure}
    (half : HalfOpen arguments v call closure) (k : JsValue) :
    Holding id arguments v k { call with closure := some (closure.finish k .key) }
      (closure.finish k .key) := by
  refine ⟨rfl, half.given, half.value, ?_, fun late => ?_, ?_, fun tried => ?_, fun _ => half.idle⟩
  · simp [ProduceClosure.finish, half.keyIdle]
  · simp [ProduceClosure.finish, half.unsettled] at late
  · simp [half.untried]
  · exact absurd half.untried tried

theorem HalfOpen.pend {call : CallState} {closure : ProduceClosure}
    (half : HalfOpen arguments v call closure) (k : JsValue) (kind : CompletionKind) :
    Holding id arguments v k { call with pending := Function.update call.pending .key (some kind) }
      closure := by
  refine ⟨half.found, half.given, by simpa using half.value, by simpa using half.key, fun late => ?_,
    ?_, fun tried => ?_, fun _ => half.idle⟩
  · simp [half.unsettled] at late
  · simp [half.untried]
  · exact absurd half.untried tried

variable (outcome callbackThrows) in
theorem holding_serialize {s : HighLevelProducer} {closure : ProduceClosure} {key : Serialization}
    (half : HalfOpen arguments v (s.callOf id) closure) (defined : v ≠ .undefined)
    (succeeds : Succeeds key k) :
    let run := (serialize outcome callbackThrows key .key id).run s
    (∃ later, Holding id arguments v k ((final run).callOf id) later) ∧
      ((thrown run).isSome → ((final run).callOf id).attempts ≠ []) := by
  have found : s.closures id = some closure := half.found
  rcases succeeds with ⟨silent, style | style⟩ | ⟨silent, style⟩
  · have run := serialize_of_value outcome callbackThrows .key style found
      (fun same => by simp at same)
    rw [silent] at run
    simp only [run, final_ok, thrown_ok, stored_callOf]
    exact ⟨⟨_, half.stored k⟩, fun broke => by simp at broke⟩
  · obtain ⟨state, throws⟩ := serialize_of_called outcome callbackThrows .key id s style
    obtain ⟨tried, breaks⟩ := finishSerialized_call outcome callbackThrows found half.unsettled .key k
    obtain ⟨kept, attempted, _⟩ := (half.stored k).tried_completing defined tried
    rw [← serializerCallback, ← state] at kept attempted
    refine ⟨⟨_, kept⟩, fun broke => ?_⟩
    rcases throws.mp broke with loud | ⟨_, broken⟩
    · simp [silent] at loud
    · exact attempted (breaks.mp broken).1
  · obtain ⟨throws, kind, same | ⟨loud, _⟩⟩ := serialize_of_waiting outcome callbackThrows .key id s style
    · simp only [same, pend_callOf id .key kind half.keyIdle]
      exact ⟨⟨closure, half.pend k kind⟩, fun broke => by simp [silent, throws] at broke⟩
    · simp [silent] at loud

variable (outcome callbackThrows) in
theorem serializeBoth_completing {s : HighLevelProducer} {value key : Serialization}
    (fresh : s.callOf id = { closure := some { arguments } }) (defined : v ≠ .undefined)
    (valueSucceeds : Succeeds value v) (keySucceeds : Succeeds key k) :
    let run := (serializeBoth outcome callbackThrows value key id).run s
    Completing id arguments v k ((final run).callOf id) ∧
      ((thrown run).isSome → ((final run).callOf id).attempts ≠ []) := by
  intro run
  obtain ⟨quiet, closure, half⟩ := halfOpen_serialize outcome callbackThrows fresh valueSucceeds
  have afterValue : run = (keyHalf outcome callbackThrows key id).run
      (final ((serialize outcome callbackThrows value .value id).run s)) :=
    (serializeBoth_run outcome callbackThrows value key id s).1 quiet
  obtain ⟨⟨later, holding⟩, broke⟩ := holding_serialize outcome callbackThrows half defined keySucceeds
  obtain ⟨onward, broken⟩ := run_seq (serialize outcome callbackThrows key .key id)
    (produceIfComplete outcome callbackThrows id)
    (final ((serialize outcome callbackThrows value .value id).run s))
  cases threw : thrown ((serialize outcome callbackThrows key .key id).run
      (final ((serialize outcome callbackThrows value .value id).run s))) with
  | some e =>
    have attempted := broke (by simp [threw])
    rw [afterValue, keyHalf, (broken (by simp [threw])).1]
    exact ⟨⟨⟨later, holding⟩, fun _ _ => attempted⟩, fun _ => attempted⟩
  | none =>
    obtain ⟨tried, breaks⟩ := produceIfComplete_call outcome callbackThrows holding.found
    obtain ⟨_, attempted, completing⟩ := holding.tried_completing defined tried
    rw [afterValue, keyHalf, onward threw]
    exact ⟨completing, fun broke => attempted (breaks.mp broke).1⟩

theorem produce_completing {s t : HighLevelProducer} {value key : Serialization} (opened : s.Opened)
    (defined : v ≠ .undefined) (valueSucceeds : Succeeds value v) (keySucceeds : Succeeds key k)
    (run : s.step outcome callbackThrows (.produce arguments value key) = some t) :
    Completing s.messageId arguments v k (t.callOf s.messageId) := by
  obtain ⟨completing, broke⟩ := serializeBoth_completing outcome callbackThrows
    (openCall_callOf opened arguments) defined valueSucceeds keySucceeds
  cases Option.some.inj run
  simp only [modifiedProduce, EStateM.run_bind, EStateM.run_get, EStateM.run_modify, run_tryCatch]
  cases both : (serializeBoth outcome callbackThrows value key s.messageId).run (openCall arguments s) with
  | ok _ u => rwa [both] at completing
  | error e u =>
    rw [both] at completing broke
    obtain ⟨⟨closure, holding⟩, _⟩ := completing
    exact holding.quiet ⟨rfl, fun _ waits => waits, fun closure found => ⟨closure, found, rfl, rfl, rfl⟩⟩
      (broke rfl)

/-- The result that a serializer is expected to end with. -/
def expected (v k : JsValue) : SerializerPart → JsValue
  | .value => v
  | .key => k

/-- A pending serializer of the call that completes gives the expected result. -/
def Settles (id : Nat) (v k : JsValue) (action : HighLevelAction) : Prop :=
  ∀ part result, action = .settle id part result → result = .ok (expected v k part)

theorem step_completing {s t : HighLevelProducer} {action : HighLevelAction} (opened : s.Opened)
    (defined : v ≠ .undefined) (completing : Completing id arguments v k (s.callOf id))
    (settles : Settles id v k action) (run : s.step outcome callbackThrows action = some t) :
    Completing id arguments v k (t.callOf id) := by
  have kept := completing
  obtain ⟨⟨closure, holding⟩, _⟩ := kept
  rcases action.produce_or with later | ⟨arguments', value, key, rfl⟩
  · rcases (step_call opened run later id).2 with same | ⟨part, r, rfl, finished⟩ | ⟨quiet, _, moved⟩
    · rwa [same]
    · refine holding.finished defined ?_ finished
      have same := settles part (.ok r) rfl
      cases part <;> simpa [expected] using same
    · refine holding.quiet quiet fun untried => ?_
      obtain ⟨rejections, immediates, listeners, _⟩ := holding.idle untried
      rcases moved with (busy | busy | busy) | ⟨part, e, rfl⟩
      · exact busy rejections
      · exact busy immediates
      · exact busy listeners
      · have same := settles part (.error e) rfl
        simp at same
  · have older := opened.lt holding.found
    rwa [(produce_elsewhere run).2 id (by omega)]

theorem reach_completing {s t : HighLevelProducer} {trace : List HighLevelAction} (opened : s.Opened)
    (defined : v ≠ .undefined) (completing : Completing id arguments v k (s.callOf id))
    (reach : Reach (step outcome callbackThrows) s trace t)
    (settles : ∀ action ∈ trace, Settles id v k action) :
    Completing id arguments v k (t.callOf id) := by
  refine (reach.invariant_of_labels (fun u => u.Opened ∧ Completing id arguments v k (u.callOf id))
    ⟨opened, completing⟩ ?_ settles).2
  intro u action w ok kept run
  exact ⟨step_opened kept.1 run, step_completing kept.1 defined kept.2 ok run⟩

end Code
end HighLevelProducer

/-- The messages that NodeProduce takes. -/
def AcceptedMessage (v : JsValue) : Prop := v = .null ∨ ∃ bytes, v = .buffer bytes

/-- Once both serializers have succeeded, the underlying produce has been called
with their two results unless the key is undefined; then nothing is ever called. -/
theorem produce_results_iff {outcome callbackThrows : Nat → Option JsError} {s t u : HighLevelProducer}
    {earlier later : List HighLevelAction} {arguments : ProduceArguments} {value key : Serialization}
    {v k : JsValue} (accepted : AcceptedMessage v)
    (valueSucceeds : HighLevelProducer.Succeeds value v) (keySucceeds : HighLevelProducer.Succeeds key k)
    (reach : Reach (HighLevelProducer.step outcome callbackThrows) {} earlier s)
    (run : s.step outcome callbackThrows (.produce arguments value key) = some t)
    (reach' : Reach (HighLevelProducer.step outcome callbackThrows) t later u)
    (settles : ∀ action ∈ later, HighLevelProducer.Settles s.messageId v k action)
    (completed : ∀ part, u.pending.lookup (s.messageId, part) = none) :
    ((u.attemptsOf s.messageId ≠ [] ∧
        ∀ attempt ∈ u.attemptsOf s.messageId, attempt = arguments.attempt s.messageId v k) ↔
      k ≠ .undefined) ∧
      (k = .undefined → u.attemptsOf s.messageId = [] ∧ ∀ call ∈ u.callbacks, call.1 ≠ s.messageId) := by
  have defined : v ≠ .undefined := by
    rcases accepted with rfl | ⟨bytes, rfl⟩ <;> simp
  have opened := HighLevelProducer.reach_opened HighLevelProducer.opened_empty reach
  obtain ⟨⟨closure, holding⟩, complete⟩ := HighLevelProducer.reach_completing
    (HighLevelProducer.step_opened opened run) defined
    (HighLevelProducer.produce_completing opened defined valueSucceeds keySucceeds run) reach' settles
  refine ⟨⟨fun made => (holding.tried made.1).2, fun keyDefined =>
    ⟨complete completed keyDefined, holding.attempts⟩⟩, fun undefined => ?_⟩
  have untried : u.attemptsOf s.messageId = [] := by
    by_contra tried
    exact (holding.tried tried).2 undefined
  refine ⟨untried, fun call member same => ?_⟩
  have silent : u.callbacks.filter (·.1 = s.messageId) = [] := (holding.idle untried).2.2.2
  exact absurd member (by simpa [same] using List.filter_eq_nil_iff.mp silent call)

/-- A promise for the value and a callback for the key, completed key first. -/
theorem produce_results_iff_later :
    ∃ u, Reach (HighLevelProducer.step (fun _ => none) fun _ => none) {}
        [.connected, .produce (sampleArguments .null .null) { style := .promise } { style := .callback none },
          .settle 0 .key (.ok .null), .settle 0 .value (.ok (.buffer [1]))] u ∧
      ((u.attemptsOf 0 ≠ [] ∧
          ∀ attempt ∈ u.attemptsOf 0, attempt = (sampleArguments .null .null).attempt 0 (.buffer [1]) .null) ↔
        JsValue.null ≠ .undefined) := by
  have earlier : Reach (HighLevelProducer.step (fun _ => none) fun _ => none) {} [.connected]
      { isConnected := true } := reach_iff_replay.mpr rfl
  obtain ⟨t, run, u, later, done⟩ : ∃ t, HighLevelProducer.step (fun _ => none) (fun _ => none)
      { isConnected := true } (.produce (sampleArguments .null .null) { style := .promise }
        { style := .callback none }) = some t ∧
      ∃ u, Reach (HighLevelProducer.step (fun _ => none) fun _ => none) t
        [.settle 0 .key (.ok .null), .settle 0 .value (.ok (.buffer [1]))] u ∧ u.pending = [] :=
    ⟨_, rfl, _, reach_iff_replay.mpr rfl, rfl⟩
  refine ⟨u, (earlier.next run).trans later, (produce_results_iff (.inr ⟨[1], rfl⟩)
    (.inr ⟨rfl, .inl rfl⟩) (.inr ⟨rfl, .inr rfl⟩) earlier run later ?_ (by simp [done])).1⟩
  simp only [List.mem_cons, List.not_mem_nil, or_false, forall_eq_or_imp, forall_eq]
  refine ⟨?_, ?_⟩ <;> rintro part result same <;> cases same <;> rfl

/-- The default serializers and an undefined key: nothing is produced and the
callback is never called. -/
theorem produce_drops_undefined_key :
    ∃ s, Reach (HighLevelProducer.step (fun _ => none) fun _ => none) {}
        [.connected, .produce (sampleArguments (.buffer [1]) .undefined) (noopSerializer (.buffer [1]))
          (noopSerializer .undefined)] s ∧
      s.pending = [] ∧ s.attemptsOf 0 = [] ∧ s.callbacks = [] ∧ s.immediates = [] :=
  ⟨_, reach_iff_replay.mpr rfl, rfl, rfl, rfl, rfl⟩

end NodeRdkafka

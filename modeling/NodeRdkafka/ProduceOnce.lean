import NodeRdkafka.Lib.Reach
import NodeRdkafka.ProduceCall

namespace NodeRdkafka
open Transition Turn

namespace HighLevelProducer
section Code
variable {outcome callbackThrows : Nat → Option JsError}

/-- The result that a serializer has delivered by the time it returns. -/
def Delivers (serialization : Serialization) (v : JsValue) : Prop :=
  serialization.thrown = none ∧
    (serialization.style = .value v ∨ serialization.style = .callback (some (.ok v)))

theorem style_cases (serialization : Serialization) :
    (∃ v, serialization.style = .value v) ∨
      (serialization.style = .promise ∨ serialization.style = .callback none) ∨
      (∃ e, serialization.style = .callback (some (.error e))) ∨
      ∃ v, serialization.style = .callback (some (.ok v)) := by
  rcases serialization.style with v | _ | _ | e | v
  · exact .inl ⟨v, rfl⟩
  · exact .inr (.inl (.inl rfl))
  · exact .inr (.inl (.inr rfl))
  · exact .inr (.inr (.inl ⟨e, rfl⟩))
  · exact .inr (.inr (.inr ⟨v, rfl⟩))

variable (outcome callbackThrows) in
theorem serialize_of_value {serialization : Serialization} (part : SerializerPart) {id : Nat}
    {v : JsValue} {closure : ProduceClosure} {s : HighLevelProducer}
    (style : serialization.style = .value v) (found : s.closures id = some closure)
    (unsettled : part = .value → closure.calledBack = false) :
    (serialize outcome callbackThrows serialization part id).run s =
      match serialization.thrown with
      | none => .ok () (s.stored id (closure.finish v part))
      | some e => .error { message := "Could not serialize value: " ++ e.message } s := by
  cases throws : serialization.thrown with
  | some e => simp [serialize, serializationWrapper, callNow, style, throws]
  | none =>
    cases part with
    | value =>
      simp [serialize, serializationWrapper, callNow, style, throws, setValue, updateClosure, found,
        stored, ProduceClosure.finish, unsettled rfl]
    | key =>
      simp [serialize, serializationWrapper, callNow, style, throws, setKey, updateClosure, found,
        stored, ProduceClosure.finish]

variable (outcome callbackThrows)

/-- A serializer that answers later leaves a pending entry, except when it
throws before there is a promise. -/
theorem serialize_of_waiting {serialization : Serialization} (part : SerializerPart) (id : Nat)
    (s : HighLevelProducer)
    (style : serialization.style = .promise ∨ serialization.style = .callback none) :
    ((thrown ((serialize outcome callbackThrows serialization part id).run s)).isSome ↔
        serialization.thrown.isSome) ∧
      ∃ kind, final ((serialize outcome callbackThrows serialization part id).run s) = s.pend ((id, part), kind) ∨
        serialization.thrown.isSome ∧
          final ((serialize outcome callbackThrows serialization part id).run s) = s := by
  rcases style with style | style
  · refine ⟨?_, .promise, ?_⟩ <;> cases throws : serialization.thrown <;>
      simp [serialize, serializationWrapper, callNow, style, throws]
  · refine ⟨?_, .callback, ?_⟩ <;> cases throws : serialization.thrown <;>
      simp [serialize, serializationWrapper, callNow, style, throws]

theorem serialize_of_called {serialization : Serialization} (part : SerializerPart) (id : Nat)
    {result : Except JsError JsValue} (s : HighLevelProducer)
    (style : serialization.style = .callback (some result)) :
    final ((serialize outcome callbackThrows serialization part id).run s) =
        final ((serializerCallback outcome callbackThrows part id result).run s) ∧
      ((thrown ((serialize outcome callbackThrows serialization part id).run s)).isSome ↔
        serialization.thrown.isSome ∨ (serialization.catches = false ∧
          (thrown ((serializerCallback outcome callbackThrows part id result).run s)).isSome)) := by
  cases called : (serializerCallback outcome callbackThrows part id result).run s <;>
    cases throws : serialization.thrown <;> cases catches : serialization.catches <;>
      simp [serialize, serializationWrapper, callNow, style, throws, catches, called]

variable {outcome callbackThrows}

/-- Where a call stands between its two serializers. -/
structure ValueStage (call : CallState) (closure : ProduceClosure) : Prop where
  found : call.closure = some closure
  untried : call.attempts = []
  keyIdle : call.pending .key = none
  keyOpen : closure.resolvedSerializedKey = .undefined
  waiting : call.pending .value ≠ none → closure.resolvedSerializedValue = .undefined
  failed : closure.calledBack = true → closure.resolvedSerializedValue = .undefined

theorem ValueStage.of_eq {call call' : CallState} {closure : ProduceClosure}
    (stage : ValueStage call closure) (same : call' = call) : ValueStage call' closure := same ▸ stage

theorem Tried.unready {id : Nat} {closure : ProduceClosure} {before after : CallState}
    (tried : Tried id closure before after) (unready : closure.ready = false) : after = before := by
  obtain ⟨called, listening, none_called, rfl⟩ := tried
  obtain ⟨rfl, rfl⟩ := none_called unready
  simp [unready]

theorem pend_callOf (id : Nat) (part : SerializerPart) (kind : CompletionKind) {s : HighLevelProducer}
    (idle : (s.callOf id).pending part = none) : (s.pend ((id, part), kind)).callOf id =
      { s.callOf id with pending := Function.update (s.callOf id).pending part (some kind) } := by
  ext1 <;> try rfl
  funext part'
  have unlisted : List.lookup (id, part) s.pending = none := idle
  by_cases same : part' = part
  · subst same
    simp [callOf, pend, List.lookup_append, unlisted]
  · have skip : ((id, part') == (id, part)) = false := by simp [same]
    simp [callOf, pend, List.lookup_append, List.lookup_cons, skip, same]

variable (outcome callbackThrows) in
theorem valueStage {id : Nat} {arguments : ProduceArguments} {s : HighLevelProducer}
    (fresh : s.callOf id = { closure := some { arguments } }) (value : Serialization) :
    ∃ closure, ValueStage ((final ((serialize outcome callbackThrows value .value id).run s)).callOf id)
        closure ∧
      (thrown ((serialize outcome callbackThrows value .value id).run s) = none →
        closure.resolvedSerializedValue ≠ .undefined → Delivers value closure.resolvedSerializedValue) := by
  have found : s.closures id = some { arguments } := congrArg CallState.closure fresh
  have opening : ValueStage (s.callOf id) { arguments } := by
    rw [fresh]
    exact ⟨rfl, rfl, rfl, rfl, fun waits => absurd rfl waits, fun late => by simp at late⟩
  rcases style_cases value with ⟨v, style⟩ | style | ⟨e, style⟩ | ⟨v, style⟩
  · rw [serialize_of_value outcome callbackThrows .value style found fun _ => rfl]
    cases throws : value.thrown with
    | some e => exact ⟨_, opening, fun quiet => by simp at quiet⟩
    | none =>
      refine ⟨ProduceClosure.finish { arguments } v .value, ?_, fun _ _ => ⟨throws, .inl style⟩⟩
      rw [final_ok, stored_callOf, fresh]
      exact ⟨rfl, rfl, rfl, rfl, fun waits => absurd rfl waits, fun late => by
        simp [ProduceClosure.finish] at late⟩
  · refine ⟨{ arguments }, ?_, fun _ defined => absurd rfl defined⟩
    have waiting : ∀ kind, ValueStage ((s.pend ((id, .value), kind)).callOf id) { arguments } := by
      intro kind
      rw [pend_callOf id .value kind (by rw [fresh]), fresh]
      exact ⟨rfl, rfl, by simp, rfl, fun _ => rfl, fun _ => rfl⟩
    obtain ⟨_, kind, same | ⟨_, same⟩⟩ := serialize_of_waiting outcome callbackThrows .value id s style
    · exact (waiting kind).of_eq (by rw [same])
    · exact opening.of_eq (by rw [same])
  · obtain ⟨state, _⟩ := serialize_of_called outcome callbackThrows .value id s style
    refine ⟨{ arguments, calledBack := true }, ?_, fun _ defined => absurd rfl defined⟩
    rw [state, serializerCallback, failSerialized_call found, fresh]
    exact ⟨rfl, rfl, rfl, rfl, fun _ => rfl, fun _ => rfl⟩
  · obtain ⟨state, throws⟩ := serialize_of_called outcome callbackThrows .value id s style
    refine ⟨ProduceClosure.finish { arguments } v .value, ?_, fun quiet _ => ⟨?_, .inr style⟩⟩
    · have tried := (finishSerialized_call outcome callbackThrows found rfl .value v).1
      rw [state, serializerCallback, tried.unready rfl, fresh]
      exact ⟨rfl, rfl, rfl, rfl, fun waits => absurd rfl waits, fun late => by
        simp [ProduceClosure.finish] at late⟩
    · cases thrown : value.thrown with
      | none => rfl
      | some e =>
        have broke := throws.mpr (.inl (by simp [thrown]))
        simp [quiet] at broke

/-- A pending serializer has stored nothing yet. -/
structure Consistent (call : CallState) (closure : ProduceClosure) : Prop where
  found : call.closure = some closure
  value : call.pending .value ≠ none → closure.resolvedSerializedValue = .undefined
  key : call.pending .key ≠ none → closure.resolvedSerializedKey = .undefined

theorem Consistent.idle_of_ready {call : CallState} {closure : ProduceClosure}
    (consistent : Consistent call closure) (ready : closure.ready) (part : SerializerPart) :
    call.pending part = none := by
  simp only [ProduceClosure.ready, Bool.and_eq_true, Bool.not_eq_true', ← Bool.not_eq_true,
    JsValue.isUndefined_iff] at ready
  by_contra waits
  cases part with
  | value => exact ready.2 (consistent.value waits)
  | key => exact ready.1 (consistent.key waits)

/-- A call that has tried to produce at most once, and then for the last time. -/
structure Once (call : CallState) : Prop where
  consistent : ∃ closure, Consistent call closure
  once : call.attempts.length ≤ 1
  done : call.attempts ≠ [] → ∀ part, call.pending part = none

/-- A call that has produced twice. -/
structure Twice (call : CallState) : Prop where
  found : ∃ closure, call.closure = some closure
  twice : call.attempts.length = 2

theorem Consistent.once {call : CallState} {closure : ProduceClosure}
    (consistent : Consistent call closure) (untried : call.attempts = []) : Once call :=
  ⟨⟨closure, consistent⟩, by simp [untried], fun tried => absurd untried tried⟩

theorem Consistent.quiet {before after : CallState} {closure : ProduceClosure}
    (consistent : Consistent before closure) (quiet : Quiet before after) :
    ∃ later, Consistent after later := by
  obtain ⟨later, found, _, value, key⟩ := quiet.closure closure consistent.found
  exact ⟨later, found, fun waits => value.trans (consistent.value (quiet.pending .value waits)),
    fun waits => key.trans (consistent.key (quiet.pending .key waits))⟩

theorem Once.quiet {before after : CallState} (once : Once before) (quiet : Quiet before after) :
    Once after := by
  obtain ⟨closure, consistent⟩ := once.consistent
  refine ⟨consistent.quiet quiet, by rw [quiet.attempts]; exact once.once, fun tried part => ?_⟩
  by_contra waits
  exact quiet.pending part waits (once.done (by rwa [quiet.attempts] at tried) part)

/-- One run of produceIfComplete on a call that has not tried yet. -/
theorem Tried.once {id : Nat} {closure : ProduceClosure} {before after : CallState}
    (tried : Tried id closure before after) (consistent : Consistent before closure)
    (untried : before.attempts = []) :
    Once after ∧ Consistent after closure ∧
      after.attempts = if closure.ready then [closure.attempt id] else [] := by
  obtain ⟨called, listening, _, rfl⟩ := tried
  have kept : Consistent { before with
      attempts := before.attempts ++ (if closure.ready then [closure.attempt id] else [])
      callbacks := before.callbacks ++ called
      listeners := before.listeners ++ listening } closure :=
    ⟨consistent.found, consistent.value, consistent.key⟩
  refine ⟨⟨⟨closure, kept⟩, ?_, fun more part => ?_⟩, kept, by simp [untried]⟩
  · simp only [untried, List.nil_append]
    split <;> simp
  · by_cases ready : closure.ready
    · exact consistent.idle_of_ready ready part
    · simp [untried, ready] at more

theorem ValueStage.consistent {call : CallState} {closure : ProduceClosure}
    (stage : ValueStage call closure) : Consistent call closure :=
  ⟨stage.found, stage.waiting, fun waits => absurd stage.keyIdle waits⟩

theorem ValueStage.unready {call : CallState} {closure : ProduceClosure}
    (stage : ValueStage call closure) : closure.ready = false := by
  simp [ProduceClosure.ready, stage.keyOpen, JsValue.isUndefined]

/-- The second half of the try block, from the key serializer on. -/
def keyHalf (outcome callbackThrows : Nat → Option JsError) (key : Serialization) (id : Nat) : Js Unit := do
  serialize outcome callbackThrows key .key id
  produceIfComplete outcome callbackThrows id

/-- The try block goes on to its second half unless the value serializer throws. -/
theorem serializeBoth_run (outcome callbackThrows : Nat → Option JsError) (value key : Serialization) (id : Nat)
    (s : HighLevelProducer) :
    (thrown ((serialize outcome callbackThrows value .value id).run s) = none →
      (serializeBoth outcome callbackThrows value key id).run s =
        (keyHalf outcome callbackThrows key id).run
          (final ((serialize outcome callbackThrows value .value id).run s))) ∧
    ((thrown ((serialize outcome callbackThrows value .value id).run s)).isSome →
      final ((serializeBoth outcome callbackThrows value key id).run s) =
          final ((serialize outcome callbackThrows value .value id).run s) ∧
        (thrown ((serializeBoth outcome callbackThrows value key id).run s)).isSome) :=
  run_seq (serialize outcome callbackThrows value .value id) (keyHalf outcome callbackThrows key id) s

/-- The key serializer calls back while it is applied, with a result that
completes the call, and lets the try block go on. -/
def CompletesEarly (outcome callbackThrows : Nat → Option JsError) (s : HighLevelProducer)
    (closure : ProduceClosure) (key : Serialization) : Prop :=
  ∃ k, key.style = .callback (some (.ok k)) ∧ (closure.finish k .key).ready ∧ key.thrown = none ∧
    ¬ (BreaksOff outcome callbackThrows s ∧ key.catches = false)

/-- The rest of the try block when the key serializer has completed nothing. -/
theorem keyHalf_idle {id : Nat} {key : Serialization} {closure : ProduceClosure}
    {s t : HighLevelProducer}
    (state : final ((serialize outcome callbackThrows key .key id).run s) = t)
    (consistent : Consistent (t.callOf id) closure) (untried : (t.callOf id).attempts = []) :
    Once ((final ((keyHalf outcome callbackThrows key id).run s)).callOf id) := by
  obtain ⟨onward, broken⟩ := run_seq (serialize outcome callbackThrows key .key id)
    (produceIfComplete outcome callbackThrows id) s
  cases throws : thrown ((serialize outcome callbackThrows key .key id).run s) with
  | some e =>
    rw [keyHalf, (broken (by simp [throws])).1, state]
    exact consistent.once untried
  | none =>
    rw [keyHalf, onward throws, state]
    have found : t.closures id = some closure := consistent.found
    exact ((produceIfComplete_call outcome callbackThrows found).1.once consistent untried).1

theorem CompletesEarly.style {s : HighLevelProducer} {closure : ProduceClosure} {key : Serialization}
    (early : CompletesEarly outcome callbackThrows s closure key) :
    ∃ k, key.style = .callback (some (.ok k)) ∧ (closure.finish k .key).ready := by
  obtain ⟨k, style, ready, _⟩ := early
  exact ⟨k, style, ready⟩

theorem CompletesEarly.ready {s : HighLevelProducer} {closure : ProduceClosure} {key : Serialization}
    (early : CompletesEarly outcome callbackThrows s closure key) {k : JsValue}
    (style : key.style = .callback (some (.ok k))) : (closure.finish k .key).ready := by
  obtain ⟨k', other, ready⟩ := early.style
  rw [style] at other
  cases other
  exact ready

theorem ValueStage.stored {id : Nat} {closure : ProduceClosure} {s : HighLevelProducer}
    (stage : ValueStage (s.callOf id) closure) (k : JsValue) :
    Consistent ((s.stored id (closure.finish k .key)).callOf id) (closure.finish k .key) ∧
      ((s.stored id (closure.finish k .key)).callOf id).attempts = [] := by
  rw [stored_callOf id (closure.finish k .key) s]
  exact ⟨⟨rfl, stage.waiting, fun waits => absurd stage.keyIdle waits⟩, stage.untried⟩

/-- A key serializer that returns its result. -/
theorem keyHalf_of_value {id : Nat} {closure : ProduceClosure} {s : HighLevelProducer}
    (stage : ValueStage (s.callOf id) closure) {key : Serialization} {k : JsValue}
    (style : key.style = .value k) :
    Once ((final ((keyHalf outcome callbackThrows key id).run s)).callOf id) := by
  have run := serialize_of_value outcome callbackThrows .key style stage.found
    (fun same => by simp at same)
  cases throws : key.thrown with
  | some e =>
    rw [throws] at run
    exact keyHalf_idle (by rw [run, final_error]) stage.consistent stage.untried
  | none =>
    rw [throws] at run
    obtain ⟨kept, untried⟩ := stage.stored k
    exact keyHalf_idle (by rw [run, final_ok]) kept untried

/-- A key serializer whose result is still to come. -/
theorem keyHalf_of_waiting {id : Nat} {closure : ProduceClosure} {s : HighLevelProducer}
    (stage : ValueStage (s.callOf id) closure) {key : Serialization}
    (style : key.style = .promise ∨ key.style = .callback none) :
    Once ((final ((keyHalf outcome callbackThrows key id).run s)).callOf id) := by
  have waiting : ∀ kind, Consistent ((s.pend ((id, .key), kind)).callOf id) closure ∧
      ((s.pend ((id, .key), kind)).callOf id).attempts = [] := by
    intro kind
    rw [pend_callOf id .key kind stage.keyIdle]
    exact ⟨⟨stage.found, by simpa using stage.waiting, fun _ => stage.keyOpen⟩, stage.untried⟩
  obtain ⟨_, kind, same | ⟨_, same⟩⟩ := serialize_of_waiting outcome callbackThrows .key id s style
  · exact keyHalf_idle same (waiting kind).1 (waiting kind).2
  · exact keyHalf_idle same stage.consistent stage.untried

/-- A key serializer that calls back with an error. -/
theorem keyHalf_of_failed {id : Nat} {closure : ProduceClosure} {s : HighLevelProducer}
    (stage : ValueStage (s.callOf id) closure) {key : Serialization} {e : JsError}
    (style : key.style = .callback (some (.error e))) :
    Once ((final ((keyHalf outcome callbackThrows key id).run s)).callOf id) := by
  obtain ⟨state, _⟩ := serialize_of_called outcome callbackThrows .key id s style
  have quiet := quiet_failSerialized callbackThrows stage.found e
  obtain ⟨_, consistent⟩ := stage.consistent.quiet quiet
  exact keyHalf_idle state consistent (quiet.attempts.trans stage.untried)

/-- A key serializer that calls back with a result that does not complete the call. -/
theorem keyHalf_of_unready {id : Nat} {closure : ProduceClosure} {s : HighLevelProducer}
    (stage : ValueStage (s.callOf id) closure) {key : Serialization} {k : JsValue}
    (style : key.style = .callback (some (.ok k))) (unready : ¬ (closure.finish k .key).ready) :
    Once ((final ((keyHalf outcome callbackThrows key id).run s)).callOf id) := by
  have found : s.closures id = some closure := stage.found
  obtain ⟨state, _⟩ := serialize_of_called outcome callbackThrows .key id s style
  have same : (final ((finishSerialized outcome callbackThrows .key id k).run s)).callOf id =
      (s.stored id (closure.finish k .key)).callOf id := by
    cases late : closure.calledBack with
    | true => rw [finishSerialized_late found late, final_ok]
    | false =>
      have tried := (finishSerialized_call outcome callbackThrows found late .key k).1
      rw [tried.unready (by simpa using unready), stored_callOf]
  obtain ⟨kept, untried⟩ := stage.stored k
  exact keyHalf_idle state (same ▸ kept) (same ▸ untried)

/-- A key serializer that calls back with a result that completes the call:
the call is tried again unless the try block is left by then. -/
theorem keyHalf_of_ready {id : Nat} {closure : ProduceClosure} {s : HighLevelProducer}
    (stage : ValueStage (s.callOf id) closure) {key : Serialization} {k : JsValue}
    (style : key.style = .callback (some (.ok k))) (ready : (closure.finish k .key).ready) :
    (¬ CompletesEarly outcome callbackThrows s closure key ∧
        Once ((final ((keyHalf outcome callbackThrows key id).run s)).callOf id)) ∨
      (CompletesEarly outcome callbackThrows s closure key ∧
        Twice ((final ((keyHalf outcome callbackThrows key id).run s)).callOf id)) := by
  have found : s.closures id = some closure := stage.found
  obtain ⟨state, throws⟩ := serialize_of_called outcome callbackThrows .key id s style
  have unsettled : closure.calledBack = false := by
    by_contra late
    have undefined := stage.failed (by simpa using late)
    simp [ProduceClosure.ready, ProduceClosure.finish, undefined, JsValue.isUndefined] at ready
  obtain ⟨tried, breaks⟩ := finishSerialized_call outcome callbackThrows found unsettled .key k
  obtain ⟨once, kept, attempts⟩ := tried.once
    ⟨rfl, stage.waiting, fun waits => absurd stage.keyIdle waits⟩ stage.untried
  rw [← serializerCallback, ← state] at once kept attempts
  obtain ⟨onward, broken⟩ := run_seq (serialize outcome callbackThrows key .key id)
    (produceIfComplete outcome callbackThrows id) s
  cases threw : thrown ((serialize outcome callbackThrows key .key id).run s) with
  | some e =>
    refine .inl ⟨?_, by rwa [keyHalf, (broken (by simp [threw])).1]⟩
    rintro ⟨k', other, _, silent, goes⟩
    rcases throws.mp (by simp [threw]) with loud | ⟨catches, broke⟩
    · simp [silent] at loud
    · exact goes ⟨(breaks.mp broke).2, catches⟩
  | none =>
    refine .inr ⟨⟨k, style, ready, ?_, ?_⟩, ?_⟩
    · by_contra loud
      have broke := throws.mpr (.inl (by simpa [Option.isSome_iff_ne_none] using loud))
      simp [threw] at broke
    · rintro ⟨broke, catches⟩
      have broken := throws.mpr (.inr ⟨catches, breaks.mpr ⟨ready, broke⟩⟩)
      simp [threw] at broken
    · obtain ⟨_, _, _, again⟩ := (produceIfComplete_call outcome callbackThrows kept.found).1
      rw [keyHalf, onward threw, again]
      exact ⟨⟨_, kept.found⟩, by simp [attempts, ready]⟩

/-- After the value, the key half tries the call a second time exactly when
the key serializer completes it early. -/
theorem keyHalf_call {id : Nat} {closure : ProduceClosure} {s : HighLevelProducer}
    (stage : ValueStage (s.callOf id) closure) (key : Serialization) :
    (¬ CompletesEarly outcome callbackThrows s closure key ∧
        Once ((final ((keyHalf outcome callbackThrows key id).run s)).callOf id)) ∨
      (CompletesEarly outcome callbackThrows s closure key ∧
        Twice ((final ((keyHalf outcome callbackThrows key id).run s)).callOf id)) := by
  have other_style (other : ∀ k, key.style ≠ .callback (some (.ok k))) :
      ¬ CompletesEarly outcome callbackThrows s closure key := by
    intro early
    obtain ⟨k, style, _⟩ := early.style
    exact other k style
  rcases style_cases key with ⟨k, style⟩ | style | ⟨e, style⟩ | ⟨k, style⟩
  · exact .inl ⟨other_style (by simp [style]), keyHalf_of_value stage style⟩
  · refine .inl ⟨other_style ?_, keyHalf_of_waiting stage style⟩
    rcases style with style | style <;> simp [style]
  · exact .inl ⟨other_style (by simp [style]), keyHalf_of_failed stage style⟩
  · by_cases ready : (closure.finish k .key).ready
    · exact keyHalf_of_ready stage style ready
    · exact .inl ⟨fun early => ready (early.ready style), keyHalf_of_unready stage style ready⟩

variable (outcome callbackThrows) in
theorem serialize_delivers {id : Nat} {arguments : ProduceArguments} {s : HighLevelProducer}
    {value : Serialization} {v : JsValue} (found : s.closures id = some { arguments })
    (delivers : Delivers value v) :
    (serialize outcome callbackThrows value .value id).run s =
      .ok () (s.stored id (ProduceClosure.finish { arguments } v .value)) := by
  obtain ⟨silent, style | style⟩ := delivers
  · rw [serialize_of_value outcome callbackThrows .value style found fun _ => rfl, silent]
  · have called : (finishSerialized outcome callbackThrows .value id v).run s =
        .ok () (s.stored id (ProduceClosure.finish { arguments } v .value)) := by
      have found' : (s.stored id (ProduceClosure.finish { arguments } v .value)).closures id =
          some (ProduceClosure.finish { arguments } v .value) := by simp [stored]
      rw [finishSerialized_run found, if_neg (by simp), produceIfComplete_run found']
      simp [ProduceClosure.ready, ProduceClosure.finish, JsValue.isUndefined]
    simp only [serialize, serializationWrapper, callNow, style, silent, EStateM.run_bind, run_tryCatch,
      serializerCallback]
    cases value.catches <;> simp [called]

/-- The combination of serializers for which one call produces twice. -/
def ProducesTwice (outcome callbackThrows : Nat → Option JsError) (s : HighLevelProducer)
    (value key : Serialization) : Prop :=
  ∃ v k, Delivers value v ∧ v ≠ .undefined ∧ key.style = .callback (some (.ok k)) ∧
    k ≠ .undefined ∧ key.thrown = none ∧ ¬ (BreaksOff outcome callbackThrows s ∧ key.catches = false)

variable (outcome callbackThrows) in
theorem serializeBoth_call {id : Nat} {arguments : ProduceArguments} {s : HighLevelProducer}
    (fresh : s.callOf id = { closure := some { arguments } }) (value key : Serialization) :
    (¬ ProducesTwice outcome callbackThrows s value key ∧
        Once ((final ((serializeBoth outcome callbackThrows value key id).run s)).callOf id)) ∨
      (ProducesTwice outcome callbackThrows s value key ∧
        Twice ((final ((serializeBoth outcome callbackThrows value key id).run s)).callOf id)) := by
  have found : s.closures id = some { arguments } := congrArg CallState.closure fresh
  obtain ⟨closure, stage, delivers⟩ := valueStage outcome callbackThrows fresh value
  obtain ⟨onward, broken⟩ := serializeBoth_run outcome callbackThrows value key id s
  cases threw : thrown ((serialize outcome callbackThrows value .value id).run s) with
  | some e =>
    refine .inl ⟨?_, ?_⟩
    · rintro ⟨v, k, delivered, _⟩
      simp [serialize_delivers outcome callbackThrows found delivered] at threw
    · rw [(broken (by simp [threw])).1]
      exact stage.consistent.once stage.untried
  | none =>
    have iff : ProducesTwice outcome callbackThrows s value key ↔ CompletesEarly outcome callbackThrows
        (final ((serialize outcome callbackThrows value .value id).run s)) closure key := by
      constructor
      · rintro ⟨v, k, delivered, defined, style, keyDefined, silent, goes⟩
        have run := serialize_delivers outcome callbackThrows found delivered
        have same := stage.found
        rw [run, final_ok, stored_callOf] at same
        cases Option.some.inj same
        refine ⟨k, style, ?_, silent, by rwa [run, final_ok]⟩
        simp [ProduceClosure.ready, ProduceClosure.finish, ← Bool.not_eq_true, defined, keyDefined]
      · rintro ⟨k, style, ready, silent, goes⟩
        simp only [ProduceClosure.ready, ProduceClosure.finish, Bool.and_eq_true, Bool.not_eq_true',
          ← Bool.not_eq_true, JsValue.isUndefined_iff] at ready
        have delivered := delivers threw ready.2
        rw [serialize_delivers outcome callbackThrows found delivered, final_ok] at goes
        exact ⟨_, k, delivered, ready.2, style, ready.1, silent, goes⟩
    rw [onward threw, iff]
    exact keyHalf_call stage key

theorem refusal_openCall (arguments : ProduceArguments) (s : HighLevelProducer) :
    BreaksOff outcome callbackThrows (openCall arguments s) ↔ BreaksOff outcome callbackThrows s := by
  unfold openCall increment
  split <;> rfl

/-- After its try block a produce leaves at most a task. -/
theorem produce_quiet {s t : HighLevelProducer} {arguments : ProduceArguments} {value key : Serialization}
    (run : s.step outcome callbackThrows (.produce arguments value key) = some t) :
    Quiet
      ((final ((serializeBoth outcome callbackThrows value key s.messageId).run (openCall arguments s))).callOf
        s.messageId) (t.callOf s.messageId) := by
  cases Option.some.inj run
  simp only [modifiedProduce, EStateM.run_bind, EStateM.run_get, EStateM.run_modify, run_tryCatch]
  cases (serializeBoth outcome callbackThrows value key s.messageId).run (openCall arguments s) with
  | ok _ u => exact refl_of Quiet _
  | error e u => exact ⟨rfl, fun _ waits => waits, fun closure found => ⟨closure, found, rfl, rfl, rfl⟩⟩

/-- What a new produce does to its own call. -/
theorem produce_call {s t : HighLevelProducer} {arguments : ProduceArguments} {value key : Serialization}
    (opened : s.Opened)
    (run : s.step outcome callbackThrows (.produce arguments value key) = some t) :
    (¬ ProducesTwice outcome callbackThrows s value key ∧ Once (t.callOf s.messageId)) ∨
      (ProducesTwice outcome callbackThrows s value key ∧ Twice (t.callOf s.messageId)) := by
  have fresh := openCall_callOf opened arguments
  have same : ProducesTwice outcome callbackThrows (openCall arguments s) value key ↔
      ProducesTwice outcome callbackThrows s value key := by
    simp only [ProducesTwice, refusal_openCall]
  have both := serializeBoth_call outcome callbackThrows fresh value key
  rw [same] at both
  have quiet := produce_quiet run
  refine both.imp (And.imp_right fun once => once.quiet quiet) (And.imp_right fun twice => ?_)
  obtain ⟨closure, found⟩ := twice.found
  obtain ⟨later, found', _⟩ := quiet.closure closure found
  exact ⟨⟨later, found'⟩, by rw [quiet.attempts]; exact twice.twice⟩

/-- A key serializer that gives its key while it is applied, though it may
throw after it has called back. -/
def GivesKey (key : Serialization) (k : JsValue) : Prop :=
  key.style = .value k ∧ key.thrown = none ∨ key.style = .callback (some (.ok k))

/-- Both results of a call are there while it is made. -/
def ProducesNow (value key : Serialization) : Prop :=
  (∃ v, v ≠ .undefined ∧ Delivers value v) ∧ ∃ k, k ≠ .undefined ∧ GivesKey key k

/-- A call after its key serializer: what it has tried, it had both results for. -/
structure KeyStage (call : CallState) (before after : ProduceClosure) (key : Serialization) : Prop where
  found : call.closure = some after
  ready : call.attempts ≠ [] → after.ready
  value : after.resolvedSerializedValue = before.resolvedSerializedValue
  given : after.resolvedSerializedKey ≠ .undefined → GivesKey key after.resolvedSerializedKey

variable (outcome callbackThrows) in
theorem keyStage {id : Nat} {closure : ProduceClosure} {s : HighLevelProducer}
    (stage : ValueStage (s.callOf id) closure) (key : Serialization) :
    ∃ after, KeyStage ((final ((serialize outcome callbackThrows key .key id).run s)).callOf id)
      closure after key := by
  have found : s.closures id = some closure := stage.found
  have idle {call : CallState} {after : ProduceClosure} (same : call.closure = some after)
      (untried : call.attempts = []) (value : after.resolvedSerializedValue = closure.resolvedSerializedValue)
      (given : after.resolvedSerializedKey ≠ .undefined → GivesKey key after.resolvedSerializedKey) :
      KeyStage call closure after key := ⟨same, fun tried => absurd untried tried, value, given⟩
  have unkeyed : closure.resolvedSerializedKey ≠ .undefined → GivesKey key closure.resolvedSerializedKey :=
    fun given => absurd stage.keyOpen given
  rcases style_cases key with ⟨k, style⟩ | style | ⟨e, style⟩ | ⟨k, style⟩
  · rw [serialize_of_value outcome callbackThrows .key style found fun same => by simp at same]
    cases throws : key.thrown with
    | some e => exact ⟨closure, idle stage.found stage.untried rfl unkeyed⟩
    | none =>
      rw [final_ok, stored_callOf]
      exact ⟨_, idle rfl stage.untried rfl fun _ => .inl ⟨style, throws⟩⟩
  · obtain ⟨_, kind, same | ⟨_, same⟩⟩ := serialize_of_waiting outcome callbackThrows .key id s style
    · rw [same, pend_callOf id .key kind stage.keyIdle]
      exact ⟨closure, idle stage.found stage.untried rfl unkeyed⟩
    · rw [same]
      exact ⟨closure, idle stage.found stage.untried rfl unkeyed⟩
  · obtain ⟨state, _⟩ := serialize_of_called outcome callbackThrows .key id s style
    have quiet := quiet_failSerialized callbackThrows found e
    obtain ⟨later, same, _, value, unchanged⟩ := quiet.closure closure stage.found
    rw [state]
    exact ⟨later, idle same (quiet.attempts.trans stage.untried) value (unchanged ▸ unkeyed)⟩
  · obtain ⟨state, _⟩ := serialize_of_called outcome callbackThrows .key id s style
    rw [state, serializerCallback]
    cases late : closure.calledBack with
    | true =>
      rw [finishSerialized_late found late, final_ok, stored_callOf]
      exact ⟨_, idle rfl stage.untried rfl fun _ => .inr style⟩
    | false =>
      obtain ⟨tried, _⟩ := finishSerialized_call outcome callbackThrows found late .key k
      obtain ⟨_, kept, attempts⟩ := tried.once
        ⟨rfl, stage.waiting, fun waits => absurd stage.keyIdle waits⟩ stage.untried
      refine ⟨_, kept.found, fun more => ?_, rfl, fun _ => .inr style⟩
      rw [attempts] at more
      by_contra unready
      simp [unready] at more

theorem keyHalf_ready {id : Nat} {before after : ProduceClosure} {key : Serialization} {s : HighLevelProducer}
    (keyed : KeyStage ((final ((serialize outcome callbackThrows key .key id).run s)).callOf id) before after key)
    (tried : ((final ((keyHalf outcome callbackThrows key id).run s)).callOf id).attempts ≠ []) :
    after.ready := by
  obtain ⟨onward, broken⟩ := run_seq (serialize outcome callbackThrows key .key id)
    (produceIfComplete outcome callbackThrows id) s
  cases throws : thrown ((serialize outcome callbackThrows key .key id).run s) with
  | some e =>
    rw [keyHalf, (broken (by simp [throws])).1] at tried
    exact keyed.ready tried
  | none =>
    rw [keyHalf, onward throws] at tried
    by_contra unready
    have same := (produceIfComplete_call outcome callbackThrows keyed.found).1.unready (by simpa using unready)
    rw [same] at tried
    exact unready (keyed.ready tried)

/-- A call that has tried to produce when it returns got both its results
while it was made. -/
theorem serializeBoth_tried {id : Nat} {arguments : ProduceArguments} {s : HighLevelProducer}
    (fresh : s.callOf id = { closure := some { arguments } }) {value key : Serialization}
    (tried : ((final ((serializeBoth outcome callbackThrows value key id).run s)).callOf id).attempts ≠ []) :
    ProducesNow value key := by
  obtain ⟨closure, stage, delivers⟩ := valueStage outcome callbackThrows fresh value
  obtain ⟨onward, broken⟩ := serializeBoth_run outcome callbackThrows value key id s
  cases threw : thrown ((serialize outcome callbackThrows value .value id).run s) with
  | some e =>
    rw [(broken (by simp [threw])).1] at tried
    exact absurd stage.untried tried
  | none =>
    rw [onward threw] at tried
    obtain ⟨after, keyed⟩ := keyStage outcome callbackThrows stage key
    have ready : after.ready := keyHalf_ready keyed tried
    simp only [ProduceClosure.ready, Bool.and_eq_true, Bool.not_eq_true', ← Bool.not_eq_true,
      JsValue.isUndefined_iff] at ready
    have defined : closure.resolvedSerializedValue ≠ .undefined := keyed.value ▸ ready.2
    exact ⟨⟨_, defined, delivers threw defined⟩, _, ready.1, keyed.given ready.1⟩

/-- A new call that hands a message over had both results at once. -/
theorem produce_tried {s t : HighLevelProducer} {arguments : ProduceArguments} {value key : Serialization}
    (opened : s.Opened) (run : s.step outcome callbackThrows (.produce arguments value key) = some t)
    (tried : (t.callOf s.messageId).attempts ≠ []) : ProducesNow value key := by
  rw [(produce_quiet run).attempts] at tried
  exact serializeBoth_tried (openCall_callOf opened arguments) tried

theorem step_opened {s t : HighLevelProducer} {action : HighLevelAction} (opened : s.Opened)
    (run : s.step outcome callbackThrows action = some t) : t.Opened := by
  intro id
  rcases action.produce_or with later | ⟨arguments, value, key, rfl⟩
  · obtain ⟨counted, moved⟩ := step_call opened run later id
    rw [counted]
    have closed : t.closures id = none ↔ s.closures id = none := by
      rcases moved with same | ⟨part, v, _, finished⟩ | ⟨quiet, ⟨closure, found⟩, _⟩
      · rw [show t.closures id = s.closures id from congrArg CallState.closure same]
      · obtain ⟨closure, before, after⟩ := finished.closure
        rw [show t.closures id = _ from after, show s.closures id = _ from before]
        simp
      · obtain ⟨closure', after, _⟩ := quiet.closure closure found
        rw [show t.closures id = _ from after, found]
        simp
    refine ⟨closed.trans (opened id).1, fun unused => ?_⟩
    rcases moved with same | ⟨part, v, _, finished⟩ | ⟨_, ⟨closure, found⟩, _⟩
    · exact same.trans ((opened id).2 (closed.mp unused))
    · obtain ⟨closure, before, after⟩ := finished.closure
      simp [show t.closures id = _ from after] at unused
    · simp [closed.mp unused] at found
  · obtain ⟨counted, elsewhere⟩ := produce_elsewhere run
    by_cases own : id = s.messageId
    · subst own
      have found : ∃ closure, t.closures s.messageId = some closure := by
        rcases produce_call opened run with ⟨_, once⟩ | ⟨_, twice⟩
        · obtain ⟨closure, consistent⟩ := once.consistent
          exact ⟨closure, consistent.found⟩
        · exact twice.found
      obtain ⟨closure, found⟩ := found
      rw [found, counted]
      simp
    · have same := elsewhere id own
      rw [show t.closures id = s.closures id from congrArg CallState.closure same, counted, same]
      refine ⟨?_, (opened id).2⟩
      rw [(opened id).1]
      omega

theorem Consistent.finish {call : CallState} {closure : ProduceClosure} {part : SerializerPart}
    (consistent : Consistent call closure) (v : JsValue) :
    Consistent { call with closure := some (closure.finish v part)
                           pending := Function.update call.pending part none } (closure.finish v part) := by
  cases part with
  | value =>
    refine ⟨rfl, fun waits => absurd rfl waits, fun waits => ?_⟩
    have undefined := consistent.key waits
    by_cases late : closure.calledBack <;> simpa [ProduceClosure.finish, late] using undefined
  | key => exact ⟨rfl, consistent.value, fun waits => absurd rfl waits⟩

theorem Finished.once {id : Nat} {part : SerializerPart} {v : JsValue} {before after : CallState}
    (finished : Finished id part v before after) (once : Once before) : Once after := by
  obtain ⟨closure, found, waits, moved⟩ := finished
  have untried : before.attempts = [] := by
    by_contra tried
    exact waits (once.done tried part)
  obtain ⟨closure', consistent⟩ := once.consistent
  cases found.symm.trans consistent.found
  rcases moved with ⟨_, rfl⟩ | ⟨_, middle, tail, tried, _, rfl⟩
  · exact (consistent.finish v).once untried
  · obtain ⟨once, _, _⟩ := tried.once (consistent.finish v) untried
    exact ⟨once.consistent.imp fun _ kept => ⟨kept.found, kept.value, kept.key⟩, once.once, once.done⟩

theorem step_once {s t : HighLevelProducer} {action : HighLevelAction} {id : Nat}
    (opened : s.Opened) (once : Once (s.callOf id))
    (run : s.step outcome callbackThrows action = some t) : Once (t.callOf id) := by
  rcases action.produce_or with later | ⟨arguments, value, key, rfl⟩
  · rcases (step_call opened run later id).2 with same | ⟨part, v, _, finished⟩ | ⟨quiet, _⟩
    · rwa [same]
    · exact finished.once once
    · exact once.quiet quiet
  · obtain ⟨closure, consistent⟩ := once.consistent
    have older := opened.lt consistent.found
    rwa [(produce_elsewhere run).2 id (by omega)]

theorem reach_opened {s t : HighLevelProducer} {trace : List HighLevelAction} (opened : s.Opened)
    (reach : Reach (step outcome callbackThrows) s trace t) : t.Opened :=
  reach.invariant Opened opened step_opened

theorem opened_empty : ({} : HighLevelProducer).Opened := fun id => ⟨by simp, fun _ => rfl⟩

theorem reach_once {s t : HighLevelProducer} {trace : List HighLevelAction} {id : Nat}
    (opened : s.Opened) (once : Once (s.callOf id))
    (reach : Reach (step outcome callbackThrows) s trace t) : Once (t.callOf id) :=
  (reach.invariant (fun u => u.Opened ∧ Once (u.callOf id)) ⟨opened, once⟩
    fun kept run => ⟨step_opened kept.1 run, step_once kept.1 kept.2 run⟩).2

end Code

/-- The calls of the underlying produce that one produce call has made. -/
def attemptsOf (s : HighLevelProducer) (id : Nat) : List ProduceAttempt :=
  s.attempts.filter (·.messageId = id)

end HighLevelProducer

/-- Whatever else runs, a produce call reaches the underlying produce at most
once unless its key serializer calls back early. -/
theorem produce_once_iff {outcome callbackThrows : Nat → Option JsError} {s t : HighLevelProducer}
    {trace : List HighLevelAction} {arguments : ProduceArguments} {value key : Serialization}
    (reach : Reach (HighLevelProducer.step outcome callbackThrows) {} trace s)
    (run : s.step outcome callbackThrows (.produce arguments value key) = some t) :
    (∀ later u, Reach (HighLevelProducer.step outcome callbackThrows) t later u →
        (u.attemptsOf s.messageId).length ≤ 1) ↔
      ¬ HighLevelProducer.ProducesTwice outcome callbackThrows s value key := by
  have opened := HighLevelProducer.reach_opened HighLevelProducer.opened_empty reach
  rcases HighLevelProducer.produce_call opened run with ⟨single, once⟩ | ⟨double, twice⟩
  · exact iff_of_true
      (fun later u reach' => (HighLevelProducer.reach_once (HighLevelProducer.step_opened opened run)
        once reach').once) single
  · refine iff_of_false (fun atMost => ?_) (not_not_intro double)
    have size := atMost [] t .start
    have more : (t.attemptsOf s.messageId).length = 2 := twice.twice
    omega

def sampleArguments (message key : JsValue) : ProduceArguments :=
  { topic := .string "t", partition := .null, message, key, timestamp := .undefined }

theorem produce_once_iff_noop :
    ∃ t, HighLevelProducer.step (fun _ => none) (fun _ => none) { isConnected := true }
        (.produce (sampleArguments (.buffer [1]) .null) (noopSerializer (.buffer [1]))
          (noopSerializer .null)) = some t ∧
      ∀ later u, Reach (HighLevelProducer.step (fun _ => none) fun _ => none) t later u →
        (u.attemptsOf 0).length ≤ 1 := by
  have connecting : Reach (HighLevelProducer.step (fun _ => none) fun _ => none) {} [.connected]
      { isConnected := true } := reach_iff_replay.mpr rfl
  refine ⟨_, rfl, (produce_once_iff connecting rfl).mpr ?_⟩
  rintro ⟨_, _, _, _, style, _⟩
  simp [noopSerializer] at style

/-- The default value serializer and a key serializer that calls back at once. -/
theorem produce_twice :
    ∃ trace s, Reach (HighLevelProducer.step (fun _ => none) fun _ => none) {} trace s ∧
      (s.attemptsOf 0).length = 2 :=
  ⟨[.connected, .produce (sampleArguments (.buffer [1]) (.string "k")) (noopSerializer (.buffer [1]))
    { style := .callback (some (.ok (.string "k"))) }], _, reach_iff_replay.mpr rfl, rfl⟩

end NodeRdkafka

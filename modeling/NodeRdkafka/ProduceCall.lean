import NodeRdkafka.HighLevelProducer

namespace NodeRdkafka
open Turn

def HighLevelImmediate.messageId : HighLevelImmediate → Nat
  | deliver id _ _ => id
  | fail id _ => id

theorem HighLevelAction.produce_or (action : HighLevelAction) :
    (∀ arguments value key, action ≠ .produce arguments value key) ∨
      ∃ arguments value key, action = .produce arguments value key := by
  cases action with
  | produce arguments value key => exact .inr ⟨arguments, value, key, rfl⟩
  | settle | rejection | immediate | report | tick | disconnected | connected =>
    exact .inl fun _ _ _ => by simp

/-- Everything in a HighLevelProducer that belongs to one produce call. -/
@[ext] structure CallState where
  closure : Option ProduceClosure := none
  pending : SerializerPart → Option CompletionKind := fun _ => none
  rejections : List (Nat × SerializerPart × JsError) := []
  immediates : List HighLevelImmediate := []
  attempts : List ProduceAttempt := []
  callbacks : List (Nat × CallbackArguments) := []
  listeners : List Nat := []

/-- A call that has something to run besides its serializers. -/
def CallState.Busy (call : CallState) : Prop :=
  call.rejections ≠ [] ∨ call.immediates ≠ [] ∨ call.listeners ≠ []

namespace ProduceClosure

def attempt (closure : ProduceClosure) (id : Nat) : ProduceAttempt :=
  closure.arguments.attempt id closure.resolvedSerializedValue closure.resolvedSerializedKey

/-- The closure after one serializer has finished with `v`. -/
def finish (closure : ProduceClosure) (v : JsValue) : SerializerPart → ProduceClosure
  | .value => if closure.calledBack then closure else { closure with resolvedSerializedValue := v }
  | .key => { closure with resolvedSerializedKey := v }

end ProduceClosure

namespace HighLevelProducer

def callOf (s : HighLevelProducer) (id : Nat) : CallState :=
  { closure := s.closures id
    pending := fun part => s.pending.lookup (id, part)
    rejections := s.rejections.filter (·.1 = id)
    immediates := s.immediates.filter (·.messageId = id)
    attempts := s.attempts.filter (·.messageId = id)
    callbacks := s.callbacks.filter (·.1 = id)
    listeners := s.deliveryEmitter.filter (· = id) }

/-- A move of one call leaves every other call as it was. -/
def Elsewhere (id : Nat) (s t : HighLevelProducer) : Prop :=
  t.messageId = s.messageId ∧ ∀ other, other ≠ id → t.callOf other = s.callOf other

instance (id : Nat) : IsPreorder HighLevelProducer (Elsewhere id) where
  refl _ := ⟨rfl, fun _ _ => rfl⟩
  trans _ _ _ left right :=
    ⟨right.1.trans left.1, fun other apart => (right.2 other apart).trans (left.2 other apart)⟩

@[simp] theorem increment_callOf (s : HighLevelProducer) (id : Nat) :
    s.increment.callOf id = s.callOf id := by
  unfold increment
  split <;> rfl

@[simp] theorem decrement_callOf (s : HighLevelProducer) (id : Nat) :
    s.decrement.callOf id = s.callOf id := by
  unfold decrement
  split <;> rfl

theorem tick_messageId (s : HighLevelProducer) : s.tick.messageId = s.messageId := by
  unfold tick
  split <;> rfl

theorem tick_callOf (s : HighLevelProducer) (id : Nat) : s.tick.callOf id = s.callOf id := by
  unfold tick
  split <;> rfl

theorem elsewhere_updateClosure (id : Nat) (f : ProduceClosure → ProduceClosure)
    (s : HighLevelProducer) : Elsewhere id s (s.updateClosure id f) :=
  ⟨rfl, fun other apart => by simp [callOf, updateClosure, Function.update_of_ne apart]⟩

theorem elsewhere_pend (id : Nat) (part : SerializerPart) (kind : CompletionKind)
    (s : HighLevelProducer) : Elsewhere id s (s.pend ((id, part), kind)) := by
  refine ⟨rfl, fun other apart => ?_⟩
  ext1 <;> try rfl
  funext part'
  have skipped : ((other, part') == (id, part)) = false := by simp [apart]
  simp [callOf, pend, List.lookup_append, List.lookup_cons, skipped]

section Code
variable {outcome callbackThrows : Nat → Option JsError}

theorem callback_elsewhere (id : Nat) (arguments : CallbackArguments) :
    Respects (Elsewhere id) (callback callbackThrows id arguments) := by
  refine Respects.get fun s => ?_
  have moved : Elsewhere id s { s with callbacks := s.callbacks ++ [(id, arguments)] } :=
    ⟨rfl, fun other apart => by simp [callOf, List.filter_append, apart.symm]⟩
  cases thrown : callbackThrows s.callbacks.length <;> simpa [thrown] using moved

theorem oldProduce_elsewhere (id : Nat) (arguments : ProduceArguments) (v k : JsValue) :
    Respects (Elsewhere id) (oldProduce outcome id arguments v k) := by
  refine Respects.get fun s => ?_
  have moved : Elsewhere id s (s.attempted (arguments.attempt id v k)) :=
    ⟨rfl, fun other apart => by
      simp [callOf, attempted, List.filter_append, ProduceArguments.attempt, apart.symm]⟩
  cases refused : s.refusal outcome with
  | none =>
    have accepted : Elsewhere id s { s.attempted (arguments.attempt id v k) with
        outstanding := s.outstanding ++ [id] } := moved
    simpa [refused]
  | some e => simpa [refused] using moved

theorem doProduce_elsewhere (id : Nat) (arguments : ProduceArguments) (v k : JsValue) :
    Respects (Elsewhere id) (doProduce outcome callbackThrows id arguments v k) :=
  .tryCatch
    (.bind (oldProduce_elsewhere id arguments v k) fun _ => .modify fun _ => ⟨rfl, fun other apart => by
      simp [callOf, List.filter_append, apart.symm]⟩)
    fun _ => callback_elsewhere id _

theorem produceIfComplete_run {id : Nat} {closure : ProduceClosure} {s : HighLevelProducer}
    (found : s.closures id = some closure) :
    (produceIfComplete outcome callbackThrows id).run s =
      if closure.ready then
        (doProduce outcome callbackThrows id closure.arguments closure.resolvedSerializedValue
          closure.resolvedSerializedKey).run s
      else .ok () s := by
  by_cases ready : closure.ready <;> simp [produceIfComplete, found, ready]

/-- A relation that every move made on behalf of one call respects. -/
structure CallMoves (outcome callbackThrows : Nat → Option JsError) (id : Nat)
    (R : HighLevelProducer → HighLevelProducer → Prop) : Prop where
  updateClosure : ∀ f s, R s (updateClosure id f s)
  pend : ∀ part kind s, R s (pend ((id, part), kind) s)
  reject : ∀ part e (s : HighLevelProducer), R s { s with rejections := s.rejections ++ [(id, part, e)] }
  callback : ∀ arguments, Respects R (callback callbackThrows id arguments)
  doProduce : ∀ arguments v k, Respects R (doProduce outcome callbackThrows id arguments v k)

section Moves
variable {id : Nat} {R : HighLevelProducer → HighLevelProducer → Prop} [IsPreorder HighLevelProducer R]

theorem CallMoves.produceIfComplete (moves : CallMoves outcome callbackThrows id R) :
    Respects R (produceIfComplete outcome callbackThrows id) := by
  intro s
  cases found : s.closures id with
  | none => simpa [HighLevelProducer.produceIfComplete, found] using refl_of R s
  | some closure =>
    rw [produceIfComplete_run found]
    split
    · exact moves.doProduce _ _ _ s
    · exact refl_of R s

theorem CallMoves.finishSerialized (moves : CallMoves outcome callbackThrows id R) (part : SerializerPart)
    (v : JsValue) : Respects R (finishSerialized outcome callbackThrows part id v) := by
  cases part with
  | value =>
    refine Respects.get fun s => ?_
    cases s.calledBack id with
    | true => exact refl_of R s
    | false => exact Respects.bind (.modify (moves.updateClosure _)) (fun _ => moves.produceIfComplete) s
  | key =>
    refine Respects.bind (.modify (moves.updateClosure _)) fun _ => Respects.get fun s => ?_
    cases s.calledBack id with
    | true => exact refl_of R s
    | false => exact moves.produceIfComplete s

theorem CallMoves.failSerialized (moves : CallMoves outcome callbackThrows id R) (err : JsError) :
    Respects R (failSerialized callbackThrows id err) := by
  refine Respects.get fun s => ?_
  cases s.calledBack id with
  | true => exact refl_of R s
  | false => exact Respects.bind (.modify (moves.updateClosure _)) (fun _ => moves.callback _) s

theorem CallMoves.serializerCallback (moves : CallMoves outcome callbackThrows id R) (part : SerializerPart)
    (result : Except JsError JsValue) : Respects R (serializerCallback outcome callbackThrows part id result) := by
  cases result with
  | error err => exact moves.failSerialized err
  | ok v => exact moves.finishSerialized part v

theorem CallMoves.callNow (moves : CallMoves outcome callbackThrows id R) (serialization : Serialization)
    (part : SerializerPart) : Respects R (callNow outcome callbackThrows serialization part id) := by
  unfold HighLevelProducer.callNow
  split
  · split
    · exact .tryCatch (moves.serializerCallback part _) fun _ => .pure ()
    · exact moves.serializerCallback part _
  · exact .modify (moves.pend part _)
  · exact .pure ()

theorem CallMoves.serialize (moves : CallMoves outcome callbackThrows id R) (serialization : Serialization)
    (part : SerializerPart) : Respects R (serialize outcome callbackThrows serialization part id) := by
  refine .bind (.tryCatch (.bind (moves.callNow serialization part) fun _ => ?_) fun _ => .throw _) fun _ => ?_
  · cases serialization.thrown with
    | none => exact .pure ()
    | some e => exact .throw e
  · split
    · exact .modify (moves.pend _ _)
    · exact .modify (moves.updateClosure _)
    · exact .modify (moves.updateClosure _)
    · exact .pure ()

theorem CallMoves.serializeBoth (moves : CallMoves outcome callbackThrows id R) (value key : Serialization) :
    Respects R (serializeBoth outcome callbackThrows value key id) :=
  .bind (moves.serialize value .value) fun _ => .bind (moves.serialize key .key) fun _ =>
    moves.produceIfComplete

theorem CallMoves.settle (moves : CallMoves outcome callbackThrows id R) (part : SerializerPart)
    (result : Except JsError JsValue) (kind : CompletionKind) :
    Respects R (settle outcome callbackThrows id part result kind) := by
  unfold HighLevelProducer.settle
  split
  · split
    · exact .tryCatch (moves.finishSerialized part _) fun e => .modify (moves.reject part e)
    · exact moves.failSerialized _
  · exact moves.serializerCallback part result

end Moves

variable (outcome callbackThrows) in
theorem elsewhere_moves (id : Nat) : CallMoves outcome callbackThrows id (Elsewhere id) where
  updateClosure := elsewhere_updateClosure id
  pend := elsewhere_pend id
  reject part e s := ⟨rfl, fun other apart => by simp [callOf, List.filter_append, apart.symm]⟩
  callback := callback_elsewhere id
  doProduce := doProduce_elsewhere id

variable (callbackThrows) in
theorem callback_call (id : Nat) (arguments : CallbackArguments) (s : HighLevelProducer) :
    (final ((callback callbackThrows id arguments).run s)).callOf id =
        { s.callOf id with callbacks := (s.callOf id).callbacks ++ [(id, arguments)] } ∧
      thrown ((callback callbackThrows id arguments).run s) = callbackThrows s.callbacks.length := by
  cases throws : callbackThrows s.callbacks.length <;>
    simp [callback, throws, callOf, List.filter_append]

theorem attempted_callOf (id : Nat) (arguments : ProduceArguments) (v k : JsValue)
    (s : HighLevelProducer) : (s.attempted (arguments.attempt id v k)).callOf id =
      { s.callOf id with attempts := (s.callOf id).attempts ++ [arguments.attempt id v k] } := by
  simp [callOf, attempted, List.filter_append, ProduceArguments.attempt]

theorem doProduce_run_accepted {id : Nat} {arguments : ProduceArguments} {v k : JsValue}
    {s : HighLevelProducer} (accepted : s.refusal outcome = none) :
    (doProduce outcome callbackThrows id arguments v k).run s =
      .ok () { s.attempted (arguments.attempt id v k) with
        outstanding := s.outstanding ++ [id], deliveryEmitter := s.deliveryEmitter ++ [id] } := by
  simp only [doProduce, oldProduce, run_tryCatch, EStateM.run_bind, EStateM.run_get, EStateM.run_set,
    accepted, EStateM.run_modify]
  rfl

theorem doProduce_run_refused {id : Nat} {arguments : ProduceArguments} {v k : JsValue}
    {s : HighLevelProducer} {e : JsError} (refused : s.refusal outcome = some e) :
    (doProduce outcome callbackThrows id arguments v k).run s =
      (callback callbackThrows id (.failed e)).run (s.attempted (arguments.attempt id v k)) := by
  simp only [doProduce, oldProduce, run_tryCatch, EStateM.run_bind, EStateM.run_get, EStateM.run_set,
    refused, EStateM.run_throw]

/-- The produce that a call is about to make throws, and so does its callback. -/
def BreaksOff (outcome callbackThrows : Nat → Option JsError) (s : HighLevelProducer) : Prop :=
  (s.refusal outcome).isSome ∧ (callbackThrows s.callbacks.length).isSome

variable (outcome callbackThrows) in
/-- The underlying produce is called once; then either a listener waits for
the report or the user's callback has been called. -/
theorem doProduce_call (id : Nat) (arguments : ProduceArguments) (v k : JsValue)
    (s : HighLevelProducer) :
    (∃ called listening, (final ((doProduce outcome callbackThrows id arguments v k).run s)).callOf id =
        { s.callOf id with attempts := (s.callOf id).attempts ++ [arguments.attempt id v k],
                           callbacks := (s.callOf id).callbacks ++ called,
                           listeners := (s.callOf id).listeners ++ listening }) ∧
      ((thrown ((doProduce outcome callbackThrows id arguments v k).run s)).isSome ↔
        BreaksOff outcome callbackThrows s) := by
  cases refused : s.refusal outcome with
  | none =>
    rw [doProduce_run_accepted refused]
    refine ⟨⟨[], [id], ?_⟩, by simp [BreaksOff, refused]⟩
    simp [callOf, List.filter_append, attempted, ProduceArguments.attempt]
  | some e =>
    rw [doProduce_run_refused refused]
    obtain ⟨called, throws⟩ := callback_call callbackThrows id (.failed e)
      (s.attempted (arguments.attempt id v k))
    refine ⟨⟨[(id, .failed e)], [], called.trans (by simp [attempted_callOf])⟩, ?_⟩
    rw [throws]
    simp [BreaksOff, refused, attempted]

/-- What produceIfComplete does to a call whose closure is `closure`. -/
def Tried (id : Nat) (closure : ProduceClosure) (before after : CallState) : Prop :=
  ∃ called listening, (closure.ready = false → called = [] ∧ listening = []) ∧
    after = { before with
      attempts := before.attempts ++ (if closure.ready then [closure.attempt id] else [])
      callbacks := before.callbacks ++ called
      listeners := before.listeners ++ listening }

variable (outcome callbackThrows) in
theorem produceIfComplete_call {id : Nat} {closure : ProduceClosure} {s : HighLevelProducer}
    (found : s.closures id = some closure) :
    Tried id closure (s.callOf id)
        ((final ((produceIfComplete outcome callbackThrows id).run s)).callOf id) ∧
      ((thrown ((produceIfComplete outcome callbackThrows id).run s)).isSome ↔
        closure.ready ∧ BreaksOff outcome callbackThrows s) := by
  rw [produceIfComplete_run found]
  by_cases ready : closure.ready
  · obtain ⟨⟨called, listening, moved⟩, throws⟩ := doProduce_call outcome callbackThrows id closure.arguments
      closure.resolvedSerializedValue closure.resolvedSerializedKey s
    simp only [ready, if_true, true_and]
    exact ⟨⟨called, listening, by simp [ready], by simpa [ready, ProduceClosure.attempt] using moved⟩, throws⟩
  · simp [ready, Tried]

theorem updateClosure_callOf (id : Nat) (f : ProduceClosure → ProduceClosure)
    (s : HighLevelProducer) : (s.updateClosure id f).callOf id =
      { s.callOf id with closure := (s.callOf id).closure.map f } := by
  simp [callOf, updateClosure]

/-- The state once a closure has stored the result of a serializer. -/
def stored (id : Nat) (closure : ProduceClosure) (s : HighLevelProducer) : HighLevelProducer :=
  { s with closures := Function.update s.closures id (some closure) }

theorem stored_callOf (id : Nat) (closure : ProduceClosure) (s : HighLevelProducer) :
    (s.stored id closure).callOf id = { s.callOf id with closure := some closure } := by
  simp [callOf, stored]

theorem stored_self {id : Nat} {closure : ProduceClosure} {s : HighLevelProducer}
    (found : s.closures id = some closure) : s.stored id closure = s := by
  rw [stored, ← found, Function.update_eq_self]

theorem finishSerialized_run {id : Nat} {closure : ProduceClosure} {s : HighLevelProducer}
    (found : s.closures id = some closure) (part : SerializerPart) (v : JsValue) :
    (finishSerialized outcome callbackThrows part id v).run s =
      if closure.calledBack then .ok () (s.stored id (closure.finish v part))
      else (produceIfComplete outcome callbackThrows id).run (s.stored id (closure.finish v part)) := by
  cases part with
  | value =>
    cases late : closure.calledBack with
    | true =>
      simp [finishSerialized, finishSerializedValue, calledBack, found, late, stored_self found,
        ProduceClosure.finish]
    | false =>
      simp [finishSerialized, finishSerializedValue, calledBack, found, late, stored,
        ProduceClosure.finish, setValue, updateClosure]
  | key =>
    cases late : closure.calledBack <;>
      simp [finishSerialized, finishSerializedKey, calledBack, found, late, stored,
        ProduceClosure.finish, setKey, updateClosure]

variable (outcome callbackThrows) in
/-- What a serializer's success does to its call. -/
theorem finishSerialized_call {id : Nat} {closure : ProduceClosure} {s : HighLevelProducer}
    (found : s.closures id = some closure) (unsettled : closure.calledBack = false)
    (part : SerializerPart) (v : JsValue) :
    Tried id (closure.finish v part) { s.callOf id with closure := some (closure.finish v part) }
        ((final ((finishSerialized outcome callbackThrows part id v).run s)).callOf id) ∧
      ((thrown ((finishSerialized outcome callbackThrows part id v).run s)).isSome ↔
        (closure.finish v part).ready ∧ BreaksOff outcome callbackThrows s) := by
  rw [finishSerialized_run found, unsettled, ← stored_callOf]
  exact produceIfComplete_call outcome callbackThrows (by simp [stored])

theorem finishSerialized_late {id : Nat} {closure : ProduceClosure} {s : HighLevelProducer}
    (found : s.closures id = some closure) (late : closure.calledBack = true)
    (part : SerializerPart) (v : JsValue) :
    (finishSerialized outcome callbackThrows part id v).run s =
      .ok () (s.stored id (closure.finish v part)) := by
  rw [finishSerialized_run found, late, if_pos rfl]

theorem failSerialized_call {id : Nat} {closure : ProduceClosure} {s : HighLevelProducer}
    (found : s.closures id = some closure) (err : JsError) :
    (final ((failSerialized callbackThrows id err).run s)).callOf id =
      if closure.calledBack then s.callOf id
      else { s.callOf id with closure := some { closure with calledBack := true },
                              callbacks := (s.callOf id).callbacks ++ [(id, .failed err)] } := by
  cases called : closure.calledBack with
  | true => simp [failSerialized, HighLevelProducer.calledBack, found, called]
  | false =>
    simp only [failSerialized, HighLevelProducer.calledBack, found, called, EStateM.run_bind,
      EStateM.run_get, EStateM.run_modify, Option.any_some, Bool.not_false, if_true]
    rw [(callback_call callbackThrows id (.failed err) _).1, setCalledBack, updateClosure_callOf]
    simp [callOf, found]

end Code

/-- A move that neither attempts a produce nor stores a result. -/
structure Quiet (before after : CallState) : Prop where
  attempts : after.attempts = before.attempts
  pending : ∀ part, after.pending part ≠ none → before.pending part ≠ none
  closure : ∀ closure, before.closure = some closure → ∃ later, after.closure = some later ∧
    later.arguments = closure.arguments ∧
    later.resolvedSerializedValue = closure.resolvedSerializedValue ∧
    later.resolvedSerializedKey = closure.resolvedSerializedKey

instance : IsPreorder CallState Quiet where
  refl _ := ⟨rfl, fun _ waits => waits, fun closure found => ⟨closure, found, rfl, rfl, rfl⟩⟩
  trans _ _ _ left right := by
    refine ⟨right.attempts.trans left.attempts, fun part waits => left.pending part (right.pending part waits),
      fun closure found => ?_⟩
    obtain ⟨middle, found', arguments, value, key⟩ := left.closure closure found
    obtain ⟨later, found'', arguments', value', key'⟩ := right.closure middle found'
    exact ⟨later, found'', arguments'.trans arguments, value'.trans value, key'.trans key⟩

/-- The success of one serializer, as the call sees it. -/
def Finished (id : Nat) (part : SerializerPart) (v : JsValue) (before after : CallState) : Prop :=
  ∃ closure, before.closure = some closure ∧ before.pending part ≠ none ∧
    ((closure.calledBack = true ∧
      after = { before with closure := some (closure.finish v part)
                            pending := Function.update before.pending part none }) ∨
    (closure.calledBack = false ∧ ∃ middle tail,
      Tried id (closure.finish v part)
        { before with closure := some (closure.finish v part)
                      pending := Function.update before.pending part none } middle ∧
      ((closure.finish v part).ready = false → tail = []) ∧
      after = { middle with rejections := middle.rejections ++ tail }))

theorem lookup_filter_ne {α β : Type} [BEq α] [LawfulBEq α] [DecidableEq α] (entries : List (α × β))
    (key other : α) : (entries.filter fun entry => entry.1 ≠ key).lookup other =
      if other = key then none else entries.lookup other := by
  induction entries with
  | nil => simp
  | cons entry entries ih =>
    by_cases dropped : entry.1 = key
    · rw [List.filter_cons_of_neg (by simpa using dropped), ih, List.lookup_cons, dropped]
      by_cases here : other = key
      · simp [here]
      · simp [here, beq_false_of_ne here]
    · rw [List.filter_cons_of_pos (by simpa using dropped), List.lookup_cons, List.lookup_cons, ih]
      by_cases here : other = entry.1
      · simp [here, dropped]
      · simp [beq_false_of_ne here]

/-- The state in which a pending serializer has been taken up. -/
def taken (id : Nat) (part : SerializerPart) (s : HighLevelProducer) : HighLevelProducer :=
  { s with pending := s.pending.filter fun entry => entry.1 ≠ (id, part) }

theorem taken_callOf (id : Nat) (part : SerializerPart) (s : HighLevelProducer) :
    (s.taken id part).callOf id =
      { s.callOf id with pending := Function.update (s.callOf id).pending part none } := by
  ext1 <;> try rfl
  funext part'
  refine (lookup_filter_ne s.pending (id, part) (id, part')).trans ?_
  simp [callOf, Function.update_apply]

theorem taken_elsewhere (id : Nat) (part : SerializerPart) (s : HighLevelProducer) :
    Elsewhere id s (s.taken id part) := by
  refine ⟨rfl, fun other apart => ?_⟩
  ext1 <;> try rfl
  funext part'
  refine (lookup_filter_ne s.pending (id, part) (other, part')).trans ?_
  simp [callOf, apart]

section Code
variable {outcome callbackThrows : Nat → Option JsError}

variable (callbackThrows) in
theorem quiet_failSerialized {id : Nat} {closure : ProduceClosure} {s : HighLevelProducer}
    (found : s.closures id = some closure) (err : JsError) :
    Quiet (s.callOf id) ((final ((failSerialized callbackThrows id err).run s)).callOf id) := by
  rw [failSerialized_call found]
  split
  · exact refl_of Quiet _
  · refine ⟨rfl, fun _ waits => waits, fun earlier same => ?_⟩
    cases found.symm.trans same
    exact ⟨_, rfl, rfl, rfl, rfl⟩

variable (outcome callbackThrows) in
theorem finished_of_callback {id : Nat} {closure : ProduceClosure} {s : HighLevelProducer}
    {part : SerializerPart} (found : s.closures id = some closure)
    (waits : (s.callOf id).pending part ≠ none) (v : JsValue) :
    Finished id part v (s.callOf id)
      ((final ((finishSerialized outcome callbackThrows part id v).run (s.taken id part))).callOf id) := by
  have found' : (s.taken id part).closures id = some closure := found
  refine ⟨closure, found, waits, ?_⟩
  cases late : closure.calledBack with
  | true =>
    refine .inl ⟨rfl, ?_⟩
    rw [finishSerialized_late found' late, final_ok, stored_callOf, taken_callOf]
  | false =>
    have tried := (finishSerialized_call outcome callbackThrows found' late part v).1
    rw [taken_callOf] at tried
    exact .inr ⟨rfl, _, [], tried, fun _ => rfl, by simp⟩

/-- A settled serializer moves only its own call, by a success or quietly. -/
theorem settle_call {id : Nat} {closure : ProduceClosure} {s : HighLevelProducer}
    {part : SerializerPart} (found : s.closures id = some closure)
    (waits : (s.callOf id).pending part ≠ none) (result : Except JsError JsValue)
    (kind : CompletionKind) :
    (∃ v, result = .ok v ∧ Finished id part v (s.callOf id) ((final ((settle outcome callbackThrows
        id part result kind).run (s.taken id part))).callOf id)) ∨
      ((∃ e, result = .error e) ∧ Quiet (s.callOf id) ((final ((settle outcome callbackThrows
        id part result kind).run (s.taken id part))).callOf id)) := by
  have found' : (s.taken id part).closures id = some closure := found
  have quietly : Quiet (s.callOf id) ((s.taken id part).callOf id) := by
    rw [taken_callOf]
    refine ⟨rfl, fun part' waits' => ?_, fun later same => ⟨later, same, rfl, rfl, rfl⟩⟩
    by_cases same : part' = part
    · simp [same] at waits'
    · simpa [same] using waits'
  cases result with
  | error e =>
    refine .inr ⟨⟨e, rfl⟩, trans_of Quiet quietly ?_⟩
    cases kind <;> exact quiet_failSerialized callbackThrows found' e
  | ok v =>
    refine .inl ⟨v, rfl, ?_⟩
    have finished := finished_of_callback outcome callbackThrows found waits v
    cases kind with
    | callback => exact finished
    | promise =>
      simp only [settle, run_tryCatch]
      cases run : (finishSerialized outcome callbackThrows part id v).run (s.taken id part) with
      | ok _ t => simpa [run] using finished
      | error e t =>
        cases late : closure.calledBack with
        | true => simp [finishSerialized_late found' late] at run
        | false =>
          obtain ⟨tried, throws⟩ := finishSerialized_call outcome callbackThrows found' late part v
          rw [run, taken_callOf] at tried
          have ready := (throws.mp (by simp [run])).1
          refine ⟨closure, found, waits, .inr ⟨late, t.callOf id, [(id, part, e)], tried, ?_, ?_⟩⟩
          · simp [ready]
          · simp [callOf, List.filter_append]

variable (callbackThrows) in
theorem runImmediate_elsewhere (task : HighLevelImmediate) :
    Respects (Elsewhere task.messageId) (runImmediate callbackThrows task) := by
  cases task with
  | deliver id err offset => exact callback_elsewhere id _
  | fail id e => exact .bind (.modify (elsewhere_updateClosure id _)) fun _ => callback_elsewhere id _

variable (callbackThrows) in
theorem runImmediate_quiet (task : HighLevelImmediate) (s : HighLevelProducer) :
    Quiet (s.callOf task.messageId)
      ((final ((runImmediate callbackThrows task).run s)).callOf task.messageId) := by
  cases task with
  | deliver id err offset =>
    simp only [runImmediate, HighLevelImmediate.messageId]
    rw [(callback_call callbackThrows id _ s).1]
    exact ⟨rfl, fun _ waits => waits, fun closure found => ⟨closure, found, rfl, rfl, rfl⟩⟩
  | fail id e =>
    simp only [runImmediate, HighLevelImmediate.messageId, EStateM.run_bind, EStateM.run_modify]
    rw [(callback_call callbackThrows id _ _).1, setCalledBack, updateClosure_callOf]
    exact ⟨rfl, fun _ waits => waits, fun closure found =>
      ⟨{ closure with calledBack := true }, congrArg (Option.map _) found, rfl, rfl, rfl⟩⟩

theorem deliver_moves (report : HighLevelReport) (s : HighLevelProducer) :
    Elsewhere report.messageId s (s.deliver report) ∧
      Quiet (s.callOf report.messageId) ((s.deliver report).callOf report.messageId) := by
  have counted := decrement_callOf s
  refine ⟨⟨?_, fun other apart => ?_⟩, ?_⟩
  · simp [deliver, setImmediate, decrement]
    split <;> rfl
  · rw [← counted other]
    simp [deliver, setImmediate, callOf, List.filter_append, HighLevelImmediate.messageId, apart.symm]
  · rw [← counted report.messageId]
    exact ⟨rfl, fun _ waits => waits, fun closure found => ⟨closure, found, rfl, rfl, rfl⟩⟩

theorem deliveryReport_moves (report : HighLevelReport) (s : HighLevelProducer) :
    Elsewhere report.messageId s (s.deliveryReport report) ∧
      Quiet (s.callOf report.messageId) ((s.deliveryReport report).callOf report.messageId) := by
  have dropped : Elsewhere report.messageId s
      { s with deliveryEmitter := s.deliveryEmitter.filter (· ≠ report.messageId) } := by
    refine ⟨rfl, fun other apart => ?_⟩
    simp only [callOf, List.filter_filter, CallState.mk.injEq, true_and]
    refine List.filter_congr fun listener _ => ?_
    by_cases here : listener = other <;> simp [here, apart]
  have folded : ∀ (listeners : List Nat) (t : HighLevelProducer),
      Elsewhere report.messageId t (listeners.foldl (fun s _ => s.deliver report) t) ∧
        Quiet (t.callOf report.messageId)
          ((listeners.foldl (fun s _ => s.deliver report) t).callOf report.messageId) := by
    intro listeners
    induction listeners with
    | nil => exact fun t => ⟨refl_of (Elsewhere _) t, refl_of Quiet _⟩
    | cons _ rest ih =>
      intro t
      obtain ⟨elsewhere, quiet⟩ := deliver_moves report t
      exact ⟨trans_of (Elsewhere _) elsewhere (ih _).1, trans_of Quiet quiet (ih _).2⟩
  obtain ⟨elsewhere, quiet⟩ := folded (s.deliveryEmitter.filter (· = report.messageId))
    { s with deliveryEmitter := s.deliveryEmitter.filter (· ≠ report.messageId) }
  refine ⟨trans_of (Elsewhere _) dropped elsewhere, trans_of Quiet ?_ quiet⟩
  exact ⟨rfl, fun _ waits => waits, fun closure found => ⟨closure, found, rfl, rfl, rfl⟩⟩

/-- A report that nobody listens for changes nothing. -/
theorem deliveryReport_unheard {report : HighLevelReport} {s : HighLevelProducer}
    (unheard : (s.callOf report.messageId).listeners = []) :
    (s.deliveryReport report).callOf report.messageId = s.callOf report.messageId := by
  have none_left : s.deliveryEmitter.filter (· = report.messageId) = [] := unheard
  simp only [deliveryReport, none_left, List.foldl_nil]
  simp only [callOf, List.filter_filter, CallState.mk.injEq, true_and, none_left]
  exact List.filter_eq_nil_iff.mpr fun listener _ => by simp

/-- Calls are opened in order, and before that nothing belongs to them. -/
def Opened (s : HighLevelProducer) : Prop :=
  ∀ id, (s.closures id = none ↔ s.messageId ≤ id) ∧ (s.closures id = none → s.callOf id = {})

theorem Opened.found {s : HighLevelProducer} (opened : s.Opened) (id : Nat)
    (used : s.callOf id ≠ {}) : ∃ closure, s.closures id = some closure := by
  rw [← Option.ne_none_iff_exists']
  exact fun closed => used ((opened id).2 closed)

theorem Opened.lt {s : HighLevelProducer} (opened : s.Opened) {id : Nat} {closure : ProduceClosure}
    (found : s.closures id = some closure) : id < s.messageId := by
  by_contra late
  simp [(opened id).1.mpr (Nat.le_of_not_lt late)] at found

/-- What a turn other than a new produce may do to one call: nothing, finish
one of its halves, or move it on without an attempt. -/
def CallTurned (action : HighLevelAction) (s t : HighLevelProducer) (id : Nat) : Prop :=
  t.callOf id = s.callOf id ∨
    (∃ part v, action = .settle id part (.ok v) ∧ Finished id part v (s.callOf id) (t.callOf id)) ∨
    (Quiet (s.callOf id) (t.callOf id) ∧ (∃ closure, s.closures id = some closure) ∧
      ((s.callOf id).Busy ∨ ∃ part e, action = .settle id part (.error e)))

/-- A turn of one call is a turn of every call. -/
theorem Elsewhere.turned {s t : HighLevelProducer} {action : HighLevelAction} {own : Nat}
    (moved : Elsewhere own s t) (effect : CallTurned action s t own) (id : Nat) :
    t.messageId = s.messageId ∧ CallTurned action s t id := by
  refine ⟨moved.1, ?_⟩
  by_cases same : id = own
  · exact same ▸ effect
  · exact .inl (moved.2 id same)

variable (outcome callbackThrows) in
theorem settle_turned {s : HighLevelProducer} (opened : s.Opened) {settled : Nat} {part : SerializerPart}
    {kind : CompletionKind} (waits : s.pending.lookup (settled, part) = some kind)
    (result : Except JsError JsValue) (id : Nat) :
    (final ((settle outcome callbackThrows settled part result kind).run (s.taken settled part))).messageId =
        s.messageId ∧
      CallTurned (.settle settled part result) s
        (final ((settle outcome callbackThrows settled part result kind).run (s.taken settled part))) id := by
  have moved : Elsewhere settled s _ := trans_of (Elsewhere settled) (taken_elsewhere settled part s)
    ((elsewhere_moves outcome callbackThrows settled).settle part result kind (s.taken settled part))
  have pending : (s.callOf settled).pending part ≠ none := by simp [callOf, waits]
  obtain ⟨closure, found⟩ := opened.found settled fun unused => by simp [unused] at pending
  refine moved.turned ?_ id
  rcases settle_call found pending result kind with ⟨v, rfl, finished⟩ | ⟨⟨e, rfl⟩, quiet⟩
  · exact .inr (.inl ⟨part, v, rfl, finished⟩)
  · exact .inr (.inr ⟨quiet, ⟨closure, found⟩, .inr ⟨part, e, rfl⟩⟩)

theorem elsewhere_rejection {s : HighLevelProducer} {failed : Nat} {part : SerializerPart} {e : JsError}
    {rest : List (Nat × SerializerPart × JsError)} (queue : s.rejections = (failed, part, e) :: rest) :
    Elsewhere failed s { s with rejections := rest } :=
  ⟨rfl, fun other apart => by simp [callOf, queue, apart.symm]⟩

theorem elsewhere_immediate {s : HighLevelProducer} {task : HighLevelImmediate} {rest : List HighLevelImmediate}
    (queue : s.immediates = task :: rest) : Elsewhere task.messageId s { s with immediates := rest } :=
  ⟨rfl, fun other apart => by simp [callOf, queue, apart.symm]⟩

variable (callbackThrows) in
theorem rejection_turned {s : HighLevelProducer} (opened : s.Opened) {failed : Nat}
    {part : SerializerPart} {e : JsError} {rest : List (Nat × SerializerPart × JsError)}
    (queue : s.rejections = (failed, part, e) :: rest) (id : Nat) :
    (final ((failSerialized callbackThrows failed e).run { s with rejections := rest })).messageId =
        s.messageId ∧
      CallTurned .rejection s
        (final ((failSerialized callbackThrows failed e).run { s with rejections := rest })) id := by
  have moved : Elsewhere failed s _ := trans_of (Elsewhere failed) (elsewhere_rejection queue)
    ((elsewhere_moves (fun _ => none) callbackThrows failed).failSerialized e { s with rejections := rest })
  have busy : (s.callOf failed).rejections ≠ [] := by simp [callOf, queue]
  obtain ⟨closure, found⟩ := opened.found failed fun unused => by simp [unused] at busy
  have quiet := quiet_failSerialized callbackThrows (s := { s with rejections := rest }) found e
  refine moved.turned ?_ id
  exact .inr (.inr ⟨⟨quiet.attempts, quiet.pending, quiet.closure⟩, ⟨closure, found⟩, .inl (.inl busy)⟩)

variable (callbackThrows) in
theorem immediate_turned {s : HighLevelProducer} (opened : s.Opened) {task : HighLevelImmediate}
    {rest : List HighLevelImmediate} (queue : s.immediates = task :: rest) (id : Nat) :
    (final ((runImmediate callbackThrows task).run { s with immediates := rest })).messageId =
        s.messageId ∧
      CallTurned .immediate s
        (final ((runImmediate callbackThrows task).run { s with immediates := rest })) id := by
  have moved : Elsewhere task.messageId s _ := trans_of (Elsewhere task.messageId) (elsewhere_immediate queue)
    (runImmediate_elsewhere callbackThrows task { s with immediates := rest })
  have busy : (s.callOf task.messageId).immediates ≠ [] := by simp [callOf, queue]
  have quiet := runImmediate_quiet callbackThrows task { s with immediates := rest }
  refine moved.turned ?_ id
  exact .inr (.inr ⟨⟨quiet.attempts, quiet.pending, quiet.closure⟩,
    opened.found _ fun unused => by simp [unused] at busy, .inl (.inr (.inl busy))⟩)

theorem report_turned {s : HighLevelProducer} (opened : s.Opened) (report : HighLevelReport)
    (outstanding : List Nat) (reports : List HighLevelReport) (id : Nat) :
    (deliveryReport report { s with outstanding, reports }).messageId = s.messageId ∧
      CallTurned (.report report) s (deliveryReport report { s with outstanding, reports }) id := by
  obtain ⟨elsewhere, quiet⟩ := deliveryReport_moves report { s with outstanding, reports }
  have moved : Elsewhere report.messageId s _ := elsewhere
  refine moved.turned ?_ id
  by_cases unheard : (s.callOf report.messageId).listeners = []
  · exact .inl (deliveryReport_unheard (s := { s with outstanding, reports }) unheard)
  · exact .inr (.inr ⟨⟨quiet.attempts, quiet.pending, quiet.closure⟩,
      opened.found _ fun unused => unheard (by rw [unused]), .inl (.inr (.inr unheard))⟩)

theorem step_tick {s t : HighLevelProducer} {interval : Nat}
    (run : s.step outcome callbackThrows (.tick interval) = some t) : t = s.tick := by
  simp only [step, Option.ite_none_right_eq_some, Option.some.injEq] at run
  exact run.2.symm

/-- What one turn other than a new produce does to one call. -/
theorem step_call {s t : HighLevelProducer} {action : HighLevelAction} (opened : s.Opened)
    (run : s.step outcome callbackThrows action = some t)
    (later : ∀ arguments value key, action ≠ .produce arguments value key) (id : Nat) :
    t.messageId = s.messageId ∧ CallTurned action s t id := by
  cases action with
  | produce arguments value key => exact absurd rfl (later arguments value key)
  | settle settled part result =>
    simp only [step] at run
    split at run
    · rename_i kind waits
      cases Option.some.inj run
      exact settle_turned outcome callbackThrows opened waits result id
    · simp at run
  | rejection =>
    simp only [step] at run
    split at run
    · rename_i failed part e rest queue
      cases Option.some.inj run
      exact rejection_turned callbackThrows opened queue id
    · simp at run
  | immediate =>
    simp only [step] at run
    split at run
    · rename_i task rest queue
      cases Option.some.inj run
      exact immediate_turned callbackThrows opened queue id
    · simp at run
  | report report =>
    simp only [step, Option.ite_none_right_eq_some, Option.some.injEq] at run
    obtain ⟨_, rfl⟩ := run
    exact report_turned opened report _ _ id
  | tick interval =>
    obtain rfl := step_tick run
    exact ⟨s.tick_messageId, .inl (s.tick_callOf id)⟩
  | disconnected =>
    cases Option.some.inj run
    exact ⟨rfl, .inl rfl⟩
  | connected =>
    cases Option.some.inj run
    exact ⟨rfl, .inl rfl⟩

theorem Finished.closure {id : Nat} {part : SerializerPart} {v : JsValue} {before after : CallState}
    (finished : Finished id part v before after) :
    ∃ closure, before.closure = some closure ∧ after.closure = some (closure.finish v part) := by
  obtain ⟨closure, found, _, ⟨_, rfl⟩ | ⟨_, middle, tail, tried, _, rfl⟩⟩ := finished
  · exact ⟨closure, found, rfl⟩
  · obtain ⟨_, _, _, rfl⟩ := tried
    exact ⟨closure, found, rfl⟩

theorem openCall_callOf {s : HighLevelProducer} (opened : s.Opened) (arguments : ProduceArguments) :
    (openCall arguments s).callOf s.messageId = { closure := some { arguments } } := by
  have fresh := (opened s.messageId).2 ((opened s.messageId).1.mpr (Nat.le_refl _))
  simp only [openCall, increment_callOf]
  have moved : ({ s with
      messageId := s.messageId + 1
      closures := Function.update s.closures s.messageId (some { arguments }) } :
        HighLevelProducer).callOf s.messageId =
      { s.callOf s.messageId with closure := some { arguments } } := by simp [callOf]
  rw [moved, fresh]

theorem openCall_other {s : HighLevelProducer} (arguments : ProduceArguments) {other : Nat}
    (apart : other ≠ s.messageId) : (openCall arguments s).callOf other = s.callOf other := by
  rw [openCall, increment_callOf]
  simp [callOf, Function.update_of_ne apart]

/-- A new produce opens one call and moves no other. -/
theorem produce_elsewhere {s t : HighLevelProducer} {arguments : ProduceArguments}
    {value key : Serialization}
    (run : s.step outcome callbackThrows (.produce arguments value key) = some t) :
    t.messageId = s.messageId + 1 ∧ ∀ other, other ≠ s.messageId → t.callOf other = s.callOf other := by
  have moved : Respects (Elsewhere s.messageId)
      (tryCatch (serializeBoth outcome callbackThrows value key s.messageId)
        fun e => modify (setImmediate (.fail s.messageId e)) : Js Unit) := by
    refine .tryCatch ((elsewhere_moves outcome callbackThrows s.messageId).serializeBoth value key)
      fun e => .modify fun u => ⟨rfl, fun other apart => ?_⟩
    simp [setImmediate, callOf, List.filter_append, HighLevelImmediate.messageId, apart.symm]
  cases Option.some.inj run
  obtain ⟨counted, elsewhere⟩ := moved (openCall arguments s)
  have opening : (openCall arguments s).messageId = s.messageId + 1 := by
    unfold openCall increment
    split <;> rfl
  exact ⟨counted.trans opening, fun other apart => (elsewhere other apart).trans (openCall_other arguments apart)⟩

end Code
end HighLevelProducer
end NodeRdkafka

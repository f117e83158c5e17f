import NodeRdkafka.PollingCounter

namespace NodeRdkafka
open Transition Turn

def SerializerPart.other : SerializerPart → SerializerPart
  | value => key
  | key => value

namespace HighLevelProducer

/-- A produce call that waits for a serializer, or whose accepted message
waits for its report. -/
def Awaits (s : HighLevelProducer) (id : Nat) : Prop :=
  (s.pending.lookup (id, .value)).isSome ∨ (s.pending.lookup (id, .key)).isSome ∨ id ∈ s.outstanding

instance (s : HighLevelProducer) : DecidablePred s.Awaits :=
  fun _ => inferInstanceAs (Decidable (_ ∨ _ ∨ _))

def awaiting (s : HighLevelProducer) : Finset Nat := (Finset.range s.messageId).filter s.Awaits

/-- A serializer that has not ended when it returns, or throws with its
callback still to call. -/
def Waits (serialization : Serialization) : Prop :=
  serialization.style = .promise ∧ serialization.thrown = none ∨ serialization.style = .callback none

section Code
variable (outcome callbackThrows : Nat → Option JsError)

/-- A value serializer after which the key serializer is applied: neither it
throws nor an error callback that it calls and does not catch. -/
def Returns (s : HighLevelProducer) (value : Serialization) : Prop :=
  value.thrown = none ∧ ((∃ e, value.style = .callback (some (.error e))) →
    value.catches = true ∨ callbackThrows s.callbacks.length = none)

/-- The condition on a step: a call calls the underlying produce once at most,
and when it does not wait for a serializer any more it has got its results and
the underlying produce accepts the message. -/
def Succeeding (s : HighLevelProducer) : HighLevelAction → Prop
  | .produce _ value key =>
    ¬ ProducesTwice outcome callbackThrows s value key ∧
      (Waits value ∨ Returns callbackThrows s value ∧ Waits key ∨
        ProducesNow value key ∧ s.refusal outcome = none)
  | .settle id part result =>
    s.pending.lookup (id, part.other) = none →
      ∃ v, result = .ok v ∧ s.Completes id part v ∧ s.refusal outcome = none
  | _ => True

variable {outcome callbackThrows} {s t : HighLevelProducer} {id : Nat} {arguments : ProduceArguments}
  {value key : Serialization} {v : JsValue}

theorem Succeeding.single {action : HighLevelAction} (succeeding : s.Succeeding outcome callbackThrows action) :
    s.Single outcome callbackThrows action := by
  cases action with
  | produce arguments value key => exact succeeding.1
  | _ => trivial

/-- A serializer that is pending stays so. -/
def KeepsPending (s t : HighLevelProducer) : Prop :=
  ∀ entry, (s.pending.lookup entry).isSome → (t.pending.lookup entry).isSome

theorem KeepsPending.of_eq (same : t.pending = s.pending) : KeepsPending s t := fun entry waits => by rwa [same]

instance : IsPreorder HighLevelProducer KeepsPending where
  refl _ := .of_eq rfl
  trans _ _ _ left right entry waits := right entry (left entry waits)

variable (outcome callbackThrows) in
theorem keepsPending_moves (id : Nat) : CallMoves outcome callbackThrows id KeepsPending where
  updateClosure _ _ := .of_eq rfl
  pend part kind s entry waits := by simp [pend, List.lookup_append, waits]
  reject _ _ _ := .of_eq rfl
  callback arguments s := by
    rw [callback_final]
    exact .of_eq rfl
  doProduce arguments v k s := by
    cases refused : s.refusal outcome with
    | none =>
      rw [doProduce_run_accepted refused]
      exact .of_eq rfl
    | some e =>
      rw [doProduce_run_refused refused, callback_final]
      exact .of_eq rfl

/-- Only its own end takes a serializer from those that are pending. -/
theorem step_pending {action : HighLevelAction} (counted : s.Counted)
    (run : s.step outcome callbackThrows action = some t) (part : SerializerPart)
    (waits : (s.pending.lookup (id, part)).isSome) :
    (t.pending.lookup (id, part)).isSome ∨ ∃ result, action = .settle id part result := by
  cases action with
  | produce arguments value key =>
    have moved : Respects KeepsPending (tryCatch (serializeBoth outcome callbackThrows value key s.messageId)
        fun e => modify (setImmediate (.fail s.messageId e)) : Js Unit) :=
      .tryCatch ((keepsPending_moves outcome callbackThrows s.messageId).serializeBoth value key)
        fun e => .modify fun u => .of_eq rfl
    cases Option.some.inj run
    exact .inl (moved (openCall arguments s) (id, part) (by rwa [openCall_fields]))
  | settle own settled result =>
    by_cases here : id = own ∧ part = settled
    · obtain ⟨rfl, rfl⟩ := here
      exact .inr ⟨result, rfl⟩
    · simp only [step] at run
      split at run
      · cases Option.some.inj run
        refine .inl ((keepsPending_moves outcome callbackThrows own).settle settled result _ _ (id, part) ?_)
        rw [lookup_filter_ne, if_neg (by simpa using here)]
        exact waits
      · cases run
  | rejection =>
    simp only [step] at run
    split at run
    · rename_i own part' e rest queue
      cases Option.some.inj run
      exact .inl ((keepsPending_moves outcome callbackThrows own).failSerialized e _ (id, part) waits)
    · cases run
  | immediate =>
    obtain ⟨task, rest, closures, queue, rfl⟩ := step_immediate run
    exact .inl waits
  | report report =>
    obtain ⟨_, rfl⟩ := counted.report_run run
    exact .inl waits
  | tick interval =>
    obtain rfl := step_tick run
    unfold HighLevelProducer.tick
    split <;> exact .inl waits
  | disconnected | connected =>
    cases Option.some.inj run
    exact .inl waits

/-- A message that was accepted is outstanding until it is reported. -/
theorem accepted_step {action : HighLevelAction} (counted : s.Counted)
    (run : s.step outcome callbackThrows action = some t)
    (accepted : id ∈ s.outstanding ∨ id ∈ s.reported) : id ∈ t.outstanding ∨ id ∈ t.reported := by
  have handed : ∀ {own : Nat} {u : HighLevelProducer}, u.outstanding = s.outstanding → u.reports = s.reports →
      HandsOver outcome own u t → id ∈ t.outstanding ∨ id ∈ t.reported := by
    intro own u outstanding reports hands
    obtain ⟨attempts, _, _, later, _⟩ := hands.handed
    rw [later, outstanding, reported, hands.reports, reports, List.mem_append]
    exact accepted.imp_left Or.inl
  cases action with
  | produce arguments value key =>
    exact handed (by rw [openCall_fields]) (by rw [openCall_fields]) (produce_handsOver run)
  | settle own part result => exact handed rfl rfl (settle_handsOver run).2
  | rejection =>
    obtain ⟨own, hands⟩ := rejection_handsOver run
    exact handed rfl rfl hands
  | immediate =>
    obtain ⟨own, hands⟩ := immediate_handsOver run
    exact handed rfl rfl hands
  | report report =>
    obtain ⟨_, rfl⟩ := counted.report_run run
    rw [heard_reported, List.mem_append, List.mem_singleton]
    by_cases own : id = report.messageId
    · exact Or.inr (Or.inr own)
    · exact accepted.imp (fun waiting => (List.mem_erase_of_ne own).mpr waiting) Or.inl
  | tick interval =>
    obtain rfl := step_tick run
    unfold HighLevelProducer.tick
    split <;> exact accepted
  | disconnected | connected =>
    cases Option.some.inj run
    exact accepted

/-- The first attempt of a call is accepted unless the underlying produce throws. -/
theorem HandsOver.accepted (hands : HandsOver outcome id s t) (once : Once (t.callOf id))
    (untried : (s.callOf id).attempts = []) (tried : (t.callOf id).attempts ≠ [])
    (accepts : s.refusal outcome = none) : id ∈ t.outstanding := by
  rcases hands.cases once.once with ⟨same, _, _⟩ | ⟨_, _, _, _, outstanding, _⟩
  · refine absurd ?_ tried
    rw [← untried]
    simp only [callOf, same]
  · simp [outstanding, accepts]

theorem Tried.attempts {closure : ProduceClosure} {before after : CallState} (tried : Tried id closure before after)
    (ready : closure.ready = true) : after.attempts ≠ [] := by
  obtain ⟨called, listening, _, rfl⟩ := tried
  simp [ready]

/-- A result that completes its call hands its message over. -/
theorem settle_tried {part : SerializerPart} (completes : s.Completes id part v)
    (run : s.step outcome callbackThrows (.settle id part (.ok v)) = some t) : (t.callOf id).attempts ≠ [] := by
  obtain ⟨closure, found, unsettled, ready⟩ := completes
  simp only [step] at run
  split at run
  · rename_i kind waits
    cases Option.some.inj run
    change ((final ((settle outcome callbackThrows id part (.ok v) kind).run
      (s.taken id part))).callOf id).attempts ≠ []
    have tried := (finishSerialized_call outcome callbackThrows (s := s.taken id part) found unsettled part
      v).1.attempts ready
    cases kind with
    | callback => exact tried
    | promise =>
      simp only [HighLevelProducer.settle, run_tryCatch]
      cases finished : (finishSerialized outcome callbackThrows part id v).run (s.taken id part) with
      | ok _ u | error e u =>
        rw [finished] at tried
        exact tried
  · cases run

/-- A serializer that waits is pending from then on. -/
theorem serialize_waits {part : SerializerPart} (waits : Waits value) (s : HighLevelProducer) :
    ((final ((serialize outcome callbackThrows value part id).run s)).pending.lookup (id, part)).isSome := by
  rcases waits with ⟨style, throws⟩ | style
  · simp [serialize, serializationWrapper, callNow, style, throws, pend, List.lookup_append]
  · cases throws : value.thrown <;>
      simp [serialize, serializationWrapper, callNow, style, throws, pend, List.lookup_append]

theorem serialize_returns (found : s.closures id = some { arguments })
    (returns : Returns callbackThrows s value) :
    thrown ((serialize outcome callbackThrows value .value id).run s) = none := by
  obtain ⟨silent, failing⟩ := returns
  rcases style_cases value with ⟨v, style⟩ | style | ⟨e, style⟩ | ⟨v, style⟩
  · rw [serialize_of_value outcome callbackThrows .value style found fun _ => rfl, silent]
    rfl
  · have throws := (serialize_of_waiting outcome callbackThrows .value id s style).1
    simpa [silent] using throws
  · obtain ⟨_, throws⟩ := serialize_of_called outcome callbackThrows .value id s style
    have quiet : callbackThrows s.callbacks.length = none →
        thrown ((failSerialized callbackThrows id e).run s) = none := by
      intro quiet
      simp [failSerialized, HighLevelProducer.calledBack, found, callback_call, setCalledBack, updateClosure, quiet]
    rcases failing ⟨e, style⟩ with catches | returns
    · simpa [silent, catches] using throws
    · simpa [silent, serializerCallback, quiet returns] using throws
  · rw [serialize_delivers outcome callbackThrows found ⟨silent, .inr style⟩]
    rfl

variable (outcome) in
/-- A call whose serializer waits is left waiting. -/
theorem serializeBoth_waits (found : s.closures id = some { arguments })
    (left : Waits value ∨ Returns callbackThrows s value ∧ Waits key) :
    ∃ part, ((final ((serializeBoth outcome callbackThrows value key id).run s)).pending.lookup
      (id, part)).isSome := by
  have moves := keepsPending_moves outcome callbackThrows id
  rcases left with waits | ⟨returns, waits⟩
  · exact ⟨.value, Respects.after (.bind (moves.serialize key .key) fun _ => moves.produceIfComplete) _ s
      (id, .value) (serialize_waits waits s)⟩
  · rw [(serializeBoth_run outcome callbackThrows value key id s).1 (serialize_returns found returns)]
    exact ⟨.key, moves.produceIfComplete.after _ _ (id, .key) (serialize_waits waits _)⟩

/-- A call that has both results while it is made hands its message over. -/
theorem serializeBoth_produces (found : s.closures id = some { arguments }) (now : ProducesNow value key) :
    ((final ((serializeBoth outcome callbackThrows value key id).run s)).callOf id).attempts ≠ [] := by
  obtain ⟨⟨v, defined, delivers⟩, k, keyDefined, gives⟩ := now
  let closure : ProduceClosure := .finish { arguments } v .value
  have ready : (closure.finish k .key).ready := by
    simp [closure, ProduceClosure.ready, ProduceClosure.finish, ← Bool.not_eq_true, defined, keyDefined]
  have both : (serializeBoth outcome callbackThrows value key id).run s =
      (keyHalf outcome callbackThrows key id).run (s.stored id closure) := by
    have given := serialize_delivers outcome callbackThrows found delivers
    rw [(serializeBoth_run outcome callbackThrows value key id s).1 (by rw [given]; rfl), given, final_ok]
  have stored : (s.stored id closure).closures id = some closure := by simp [HighLevelProducer.stored]
  rw [both]
  rcases gives with ⟨style, silent⟩ | style
  · have run := serialize_of_value outcome callbackThrows .key style stored fun same => by simp at same
    rw [silent] at run
    rw [keyHalf, EStateM.run_bind, run]
    exact (produceIfComplete_call outcome callbackThrows (by simp [HighLevelProducer.stored])).1.attempts ready
  · obtain ⟨state, _⟩ := serialize_of_called outcome callbackThrows .key id (s.stored id closure) style
    have hands := (handsOver_moves outcome callbackThrows id).produceIfComplete.after
      (serialize outcome callbackThrows key .key id) (s.stored id closure)
    refine hands.attempts_kept ?_
    rw [state]
    exact (finishSerialized_call outcome callbackThrows stored rfl .key k).1.attempts ready

theorem produce_pending (run : s.step outcome callbackThrows (.produce arguments value key) = some t) :
    t.pending =
      (final ((serializeBoth outcome callbackThrows value key s.messageId).run (openCall arguments s))).pending := by
  cases Option.some.inj run
  simp only [modifiedProduce, EStateM.run_bind, EStateM.run_get, EStateM.run_modify, run_tryCatch]
  cases (serializeBoth outcome callbackThrows value key s.messageId).run (openCall arguments s) <;> rfl

/-- What a produce call leaves of a call that does not fail: it waits. -/
theorem produce_awaits (counted : s.Counted)
    (succeeding : s.Succeeding outcome callbackThrows (.produce arguments value key))
    (run : s.step outcome callbackThrows (.produce arguments value key) = some t) : t.Awaits s.messageId := by
  have fresh := openCall_callOf counted.opened arguments
  have found : (openCall arguments s).closures s.messageId = some { arguments } := congrArg CallState.closure fresh
  obtain ⟨single, left⟩ := succeeding
  rw [← or_assoc] at left
  rcases left with waits | ⟨now, accepts⟩
  · have same : Returns callbackThrows (openCall arguments s) value ↔ Returns callbackThrows s value := by
      simp only [Returns, openCall_fields]
    obtain ⟨part, pending⟩ := serializeBoth_waits outcome found (waits.imp_right (And.imp_left same.mpr))
    rw [← produce_pending run] at pending
    cases part with
    | value => exact .inl pending
    | key => exact .inr (.inl pending)
  · have quiet := produce_quiet run
    have tried : (t.callOf s.messageId).attempts ≠ [] := by
      rw [quiet.attempts]
      exact serializeBoth_produces found now
    have once := (produce_call counted.opened run).resolve_right fun twice => single twice.1
    refine .inr (.inr ((produce_handsOver run).accepted once.2 (by rw [fresh]) tried ?_))
    rwa [refusal_open]

/-- A call that waits does so until its report, if its last serializer leads to
an accepted message. -/
theorem Awaits.step {action : HighLevelAction} (awaits : s.Awaits id) (older : id < s.messageId)
    (counted : s.Counted) (succeeding : s.Succeeding outcome callbackThrows action)
    (run : s.step outcome callbackThrows action = some t) : t.Awaits id ∨ id ∈ t.reported := by
  have settled : ∀ part, (s.pending.lookup (id, part)).isSome → t.Awaits id := by
    intro part waits
    have left {part' : SerializerPart} (pending : (t.pending.lookup (id, part')).isSome) : t.Awaits id := by
      cases part' with
      | value => exact .inl pending
      | key => exact .inr (.inl pending)
    rcases step_pending counted run part waits with pending | ⟨result, rfl⟩
    · exact left pending
    · cases other : s.pending.lookup (id, part.other) with
      | some kind =>
        refine left ((step_pending counted run part.other (by simp [other])).resolve_right ?_)
        rintro ⟨_, settles⟩
        cases part <;> simp [SerializerPart.other] at settles
      | none =>
        obtain ⟨v, rfl, completes, accepts⟩ := succeeding other
        have tried := settle_tried completes run
        have after := counted.step succeeding.single run
        refine .inr (.inr ((settle_handsOver run).2.accepted (after.once id (after.opened.lt_of_attempts tried)) ?_
          tried accepts))
        by_contra before
        have idle : s.pending.lookup (id, part) = none := (counted.once id older).done before part
        simp [idle] at waits
  rcases awaits with waits | waits | accepted
  · exact .inl (settled .value waits)
  · exact .inl (settled .key waits)
  · exact (accepted_step counted run (.inl accepted)).imp_left fun waiting => .inr (.inr waiting)

/-- In a run whose steps all succeed a call waits until its message is reported. -/
structure Going (s : HighLevelProducer) : Prop where
  counted : s.Counted
  awaits : ∀ id ∈ s.unreported, s.Awaits id

theorem Going.step {action : HighLevelAction} (going : s.Going)
    (succeeding : s.Succeeding outcome callbackThrows action)
    (run : s.step outcome callbackThrows action = some t) : t.Going := by
  refine ⟨going.counted.step succeeding.single run, fun id unreported => ?_⟩
  obtain ⟨older, unheard⟩ := mem_unreported.mp unreported
  by_cases known : id < s.messageId
  · by_cases heard : id ∈ s.reported
    · exact .inr (.inr ((accepted_step going.counted run (.inr heard)).resolve_right unheard))
    · have awaits := going.awaits id (mem_unreported.mpr ⟨known, heard⟩)
      exact (awaits.step known going.counted succeeding run).resolve_right unheard
  · rcases action.produce_or with later | ⟨arguments, value, key, rfl⟩
    · rw [(step_call going.counted.opened run later id).1] at older
      exact absurd older known
    · rw [(produce_elsewhere run).1] at older
      obtain rfl : id = s.messageId := by omega
      exact produce_awaits going.counted succeeding run

theorem going_start : ({} : HighLevelProducer).Going := ⟨counted_start, by simp [mem_unreported]⟩

/-- The calls that wait are those whose message has not been reported. -/
theorem Going.awaiting_eq (going : s.Going) : s.awaiting = s.unreported := by
  ext id
  refine ⟨fun waits => ?_, fun unreported => ?_⟩
  · obtain ⟨older, awaits⟩ := Finset.mem_filter.mp waits
    have once := going.counted.once id (Finset.mem_range.mp older)
    refine mem_unreported.mpr ⟨Finset.mem_range.mp older, fun known => ?_⟩
    have idle (part : SerializerPart) : s.pending.lookup (id, part) = none :=
      once.done (going.counted.attempted id (Or.inr known)) part
    rcases awaits with value | key | waiting
    · simp [idle] at value
    · simp [idle] at key
    · exact going.counted.apart id waiting known
  · exact Finset.mem_filter.mpr
      ⟨Finset.mem_range.mpr (mem_unreported.mp unreported).1, going.awaits id unreported⟩

end Code
end HighLevelProducer

/-- In every run whose calls all succeed the polling counter is the number of
calls that wait, and with the last of them the interval ends. -/
theorem pollingRef_awaiting {outcome callbackThrows : Nat → Option JsError} {s : HighLevelProducer}
    {trace : List HighLevelAction}
    (reach : ReachWhile (HighLevelProducer.Succeeding outcome callbackThrows)
      (HighLevelProducer.step outcome callbackThrows) {} trace s) :
    s.pollingRef.currentValue = s.awaiting.card ∧ (s.awaiting = ∅ → s.intervals = []) := by
  have going := reach.invariant HighLevelProducer.Going HighLevelProducer.going_start
    fun succeeding going run => going.step succeeding run
  rw [going.awaiting_eq]
  refine ⟨going.counted.counter, fun none => going.counted.stopped ?_⟩
  have counter := going.counted.counter
  rw [none, Finset.card_empty] at counter
  by_contra running
  have positive := going.counted.running.mp (by simpa using running)
  omega

/-- One call that produces at once and one with a promise for its value. -/
def twoProduces : List HighLevelAction :=
  [.connected,
   .produce (sampleArguments (.buffer [1]) .null) (noopSerializer (.buffer [1])) (noopSerializer .null),
   .produce (sampleArguments .null .null) { style := .promise } (noopSerializer .null),
   .settle 1 .value (.ok (.buffer [2])), .report { messageId := 0, err := none, offset := 7 }, .immediate]

theorem pollingRef_awaiting_one :
    ∃ s, ReachWhile (HighLevelProducer.Succeeding (fun _ => none) fun _ => none)
        (HighLevelProducer.step (fun _ => none) fun _ => none) {} twoProduces s ∧
      s.pollingRef.currentValue = s.awaiting.card ∧ s.awaiting = {1} ∧ s.intervals = [0] := by
  obtain ⟨s, reach, awaiting, intervals⟩ : ∃ s,
      ReachWhile (HighLevelProducer.Succeeding (fun _ => none) fun _ => none)
        (HighLevelProducer.step (fun _ => none) fun _ => none) {} twoProduces s ∧
      s.awaiting = {1} ∧ s.intervals = [0] := by
    refine ⟨_, .prepend trivial rfl <| .prepend ?_ rfl <| .prepend ?_ rfl <| .prepend ?_ rfl <|
      .prepend trivial rfl <| .prepend trivial rfl .start, by decide, rfl⟩
    · refine ⟨?_, .inr (.inr ⟨⟨⟨.buffer [1], by simp, rfl, .inl rfl⟩, .null, by simp, .inl ⟨rfl, rfl⟩⟩, rfl⟩)⟩
      rintro ⟨_, _, _, _, style, _⟩
      simp [noopSerializer] at style
    · refine ⟨?_, .inl (.inl ⟨rfl, rfl⟩)⟩
      rintro ⟨_, _, _, _, style, _⟩
      simp [noopSerializer] at style
    · exact fun _ => ⟨_, rfl, ⟨_, rfl, rfl, rfl⟩, rfl⟩
  exact ⟨s, reach, (pollingRef_awaiting reach).1, awaiting, intervals⟩

/-- A produce that the full queue refuses: the callback has the error, nothing
is left to wait for, and the interval goes on. -/
theorem refused_produce_leaks :
    ∃ s, Reach (HighLevelProducer.step (fun _ => some { message := "Local: Queue full" }) fun _ => none) {}
        [.connected,
         .produce (sampleArguments (.buffer [1]) .null) (noopSerializer (.buffer [1])) (noopSerializer .null)] s ∧
      s.callbacks = [(0, .failed { message := "Local: Queue full" })] ∧ s.awaiting = ∅ ∧
      s.pollingRef.currentValue ≠ s.awaiting.card ∧ s.intervals = [0] :=
  ⟨_, reach_iff_replay.mpr rfl, rfl, by decide, by decide, rfl⟩

end NodeRdkafka

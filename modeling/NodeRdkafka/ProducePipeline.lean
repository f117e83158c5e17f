import NodeRdkafka.DeliveryReportOrder
import NodeRdkafka.ProduceReports

namespace NodeRdkafka
open Transition

/-- What the listener of 'delivery-report' reads of a report: the id in the opaque,
which is the handle of the message here, the error and the offset. -/
def DeliveryReport.heard (report : DeliveryReport) : HighLevelReport :=
  { messageId := report.opaqueHandle.getD 0, err := report.errorArgument,
    offset := Double.roundInt report.offset.toInt }

/-- A HighLevelProducer, the dispatcher between it and librdkafka, and the messages
that librdkafka has taken and not yet reported. -/
structure ProducePipeline where
  delivery : DeliveryState
  producer : HighLevelProducer
  inFlight : List Nat := []

inductive PipelineAction
  | produce (arguments : ProduceArguments)
  | drCb (message : Message)
  | execute
  | asyncMessage
  | take
  | dispatch
  | finish
  | immediate
  | tick (interval : Nat)

namespace ProducePipeline
section
variable (callbackThrows : Nat → Option JsError)

/-- A connected producer, whose delivery_cb is the only callback of the dispatcher. -/
def connected (cb : JsFunction) (drMsgCb : Bool) : ProducePipeline :=
  { delivery := .activated [cb] drMsgCb, producer := { isConnected := true } }

/-- A step of the producer alone. -/
def producerStep (s : ProducePipeline) (action : HighLevelAction) : Option ProducePipeline :=
  (s.producer.step (fun _ => none) callbackThrows action).map fun producer => { s with producer }

def deliveryStep (s : ProducePipeline) (action : DeliveryAction) : Option ProducePipeline :=
  (s.delivery.step action).map fun delivery => { s with delivery }

/-- The default serializers hand a message over at once unless it or its key is
undefined or a promise; such calls are left out. librdkafka reports each message
that it has taken at most once, in any order; a dispatched report is what the producer
hears of. -/
def step (s : ProducePipeline) : PipelineAction → Option ProducePipeline
  | .produce arguments =>
    if arguments.message.isUndefined || arguments.key.isUndefined || arguments.message.isPromise ||
      arguments.key.isPromise then none
    else
      (s.producerStep callbackThrows (.produce arguments (noopSerializer arguments.message)
        (noopSerializer arguments.key))).map fun t =>
          { t with inFlight := s.inFlight ++ [s.producer.messageId] }
  | .drCb message =>
    match message.msgOpaque with
    | some id =>
      if id ∈ s.inFlight then
        (s.deliveryStep (.drCb message)).map fun t => { t with inFlight := s.inFlight.erase id }
      else none
    | none => none
  | .execute => s.deliveryStep .execute
  | .asyncMessage => s.deliveryStep .asyncMessage
  | .take => s.deliveryStep .take
  | .dispatch =>
    match s.delivery.flush with
    | .dispatching _ _ (event :: _) =>
      (s.deliveryStep .dispatch).bind fun t => t.producerStep callbackThrows (.report event.heard)
    | _ => none
  | .finish => s.deliveryStep .finish
  | .immediate => s.producerStep callbackThrows .immediate
  | .tick interval => s.producerStep callbackThrows (.tick interval)

end

/-- The reports that wait for the main thread. -/
def queued (s : ProducePipeline) : List DeliveryReport := s.delivery.held ++ s.delivery.events

/-- The dispatcher is in a run of its own, and the producer waits for what librdkafka
has not reported and for what is queued. -/
structure Piped (cb : JsFunction) (drMsgCb : Bool) (s : ProducePipeline) : Prop where
  delivery : ∃ trace, Reach DeliveryState.step (.activated [cb] drMsgCb) trace s.delivery ∧
    ∀ action ∈ trace, action.Within
  registered : s.delivery.dispatcher.callbacks = [cb]
  inStep : s.producer.InStep
  reported : s.producer.reports = s.delivery.dispatched.map DeliveryReport.heard
  waiting : s.producer.outstanding.Perm (s.inFlight ++ s.queued.map (·.heard.messageId))

variable {callbackThrows : Nat → Option JsError} {cb : JsFunction} {drMsgCb : Bool}

theorem piped_connected : (connected cb drMsgCb).Piped cb drMsgCb :=
  ⟨⟨[], .start, by simp⟩, rfl, HighLevelProducer.inStep_start, rfl, .nil⟩

theorem Piped.extends {s : ProducePipeline} {t : DeliveryState} (action : DeliveryAction)
    (piped : s.Piped cb drMsgCb) (within : action.Within) (run : s.delivery.step action = some t) :
    ∃ trace, Reach DeliveryState.step (.activated [cb] drMsgCb) trace t ∧ ∀ action ∈ trace, action.Within := by
  obtain ⟨trace, reach, earlier⟩ := piped.delivery
  refine ⟨trace ++ [action], reach.next run, fun a member => ?_⟩
  rcases List.mem_append.mp member with old | new
  · exact earlier a old
  · exact List.mem_singleton.mp new ▸ within

/-- The steps of the dispatcher that move no report to or from it. -/
def DeliveryAction.Inner : DeliveryAction → Prop
  | .execute | .asyncMessage | .take | .finish => True
  | _ => False

theorem inner_step {s t : DeliveryState} {action : DeliveryAction} (inner : DeliveryAction.Inner action)
    (run : s.step action = some t) : t.dispatched = s.dispatched ∧ t.held ++ t.events = s.held ++ s.events ∧
      t.dispatcher = s.dispatcher := by
  cases action with
  | execute =>
    simp only [DeliveryState.step, Option.ite_none_right_eq_some, Option.some.injEq] at run
    obtain ⟨_, rfl⟩ := run
    exact ⟨rfl, rfl, rfl⟩
  | asyncMessage =>
    simp only [DeliveryState.step, Option.ite_none_right_eq_some, Option.some.injEq] at run
    obtain ⟨⟨_, idle⟩, rfl⟩ := run
    exact ⟨rfl, by simp [DeliveryState.held, idle], rfl⟩
  | take =>
    simp only [DeliveryState.step, Option.ite_none_right_eq_some, Option.some.injEq] at run
    obtain ⟨entered, rfl⟩ := run
    exact ⟨rfl, by simp [DeliveryState.take, DeliveryState.held, entered], rfl⟩
  | finish =>
    simp only [DeliveryState.step] at run
    split at run
    · rename_i outstanding size dispatching
      cases Option.some.inj run
      refine ⟨?_, ?_, ?_⟩ <;> split <;> simp [DeliveryState.execute, DeliveryState.held, dispatching]
    · cases run
  | _ => exact inner.elim

theorem Piped.inner {s t : ProducePipeline} (action : DeliveryAction) (piped : s.Piped cb drMsgCb)
    (inner : DeliveryAction.Inner action) (run : s.deliveryStep action = some t) : t.Piped cb drMsgCb := by
  obtain ⟨delivery, moved, rfl⟩ := Option.map_eq_some_iff.mp run
  obtain ⟨dispatched, queue, dispatcher⟩ := inner_step inner moved
  have within : action.Within := by rintro rfl; exact inner.elim
  refine ⟨piped.extends action within moved, ?_, piped.inStep, ?_, ?_⟩
  · simpa [dispatcher] using piped.registered
  · simpa [dispatched] using piped.reported
  · simpa [queued, queue] using piped.waiting

theorem drCb_registered {s : DeliveryState} (registered : s.dispatcher.callbacks = [cb]) (message : Message) :
    (s.drCb message).dispatched = s.dispatched ∧
      (s.drCb message).held ++ (s.drCb message).events =
        s.held ++ s.events ++ [.ofMessage message s.drMsgCb] ∧
      (s.drCb message).dispatcher = s.dispatcher := by
  have callbacks : s.dispatcher.hasCallbacks = true := by simp [Dispatcher.hasCallbacks, registered]
  by_cases first : s.events = [] <;>
    simp [DeliveryState.drCb, callbacks, first, DeliveryState.add, DeliveryState.held]

theorem Piped.drCb {s t : ProducePipeline} {message : Message} (piped : s.Piped cb drMsgCb)
    (run : s.step callbackThrows (.drCb message) = some t) : t.Piped cb drMsgCb := by
  simp only [step] at run
  split at run
  · rename_i id handle
    simp only [Option.ite_none_right_eq_some] at run
    obtain ⟨held, run⟩ := run
    cases Option.some.inj run
    obtain ⟨dispatched, queue, dispatcher⟩ := drCb_registered piped.registered message
    have named : (DeliveryReport.ofMessage message s.delivery.drMsgCb).heard.messageId = id := by
      simp [DeliveryReport.heard, DeliveryReport.ofMessage, handle]
    refine ⟨piped.extends (.drCb message) nofun rfl, ?_, piped.inStep, ?_, ?_⟩
    · simpa [dispatcher] using piped.registered
    · simpa [dispatched] using piped.reported
    · have moved : s.inFlight.Perm (s.inFlight.erase id ++ [id]) :=
        (List.perm_cons_erase held).trans (List.perm_append_singleton ..).symm
      have whole := piped.waiting.trans (moved.append_right _)
      simp only [queued, queue, List.map_append, List.map_cons, List.map_nil, named] at whole ⊢
      refine whole.trans ?_
      rw [List.append_assoc]
      exact List.perm_append_comm.append_left _
  · cases run

/-- What a report changes of the producer, beside what InStep says. -/
theorem report_fields {s t : HighLevelProducer} {report : HighLevelReport} (inStep : s.InStep)
    (run : s.step (fun _ => none) callbackThrows (.report report) = some t) :
    t.reports = s.reports ++ [report] ∧ t.outstanding = s.outstanding.erase report.messageId ∧
      report.messageId ∈ s.outstanding := by
  simp only [HighLevelProducer.step, Option.ite_none_right_eq_some, Option.some.injEq] at run
  obtain ⟨waiting, rfl⟩ := run
  rw [HighLevelProducer.deliveryReport_heard (s := { s with
    outstanding := s.outstanding.erase report.messageId, reports := s.reports ++ [report] })
    inStep.listeners inStep.outstanding_nodup waiting, HighLevelProducer.deliver,
    HighLevelProducer.decrement_fields]
  exact ⟨rfl, rfl, waiting⟩

theorem Piped.dispatch {s t : ProducePipeline} (piped : s.Piped cb drMsgCb)
    (run : s.step callbackThrows .dispatch = some t) : t.Piped cb drMsgCb := by
  simp only [step] at run
  split at run
  · rename_i outstanding size event remaining dispatching
    obtain ⟨u, delivers, hears⟩ := Option.bind_eq_some_iff.mp run
    obtain ⟨delivery, moved, rfl⟩ := Option.map_eq_some_iff.mp delivers
    obtain ⟨producer, heard, rfl⟩ := Option.map_eq_some_iff.mp hears
    obtain ⟨reports, left, member⟩ := report_fields piped.inStep heard
    have within := piped.extends .dispatch nofun moved
    simp only [DeliveryState.step, dispatching, Option.some.injEq] at moved
    subst moved
    have plain : (HighLevelAction.report event.heard).Plain := trivial
    refine ⟨within, piped.registered, HighLevelProducer.step_inStep plain piped.inStep heard, ?_, ?_⟩
    · simp [reports, piped.reported]
    · have whole := piped.waiting
      simp only [queued, DeliveryState.held, dispatching, List.cons_append, List.map_cons] at whole
      have front := (List.perm_cons_erase member).symm.trans (whole.trans List.perm_middle)
      simpa [queued, DeliveryState.held, left] using (List.perm_cons _).mp front
  · cases run

/-- Every report that the dispatcher can dispatch is one that the producer waits for. -/
theorem Piped.hears {s : ProducePipeline} {t : DeliveryState} (piped : s.Piped cb drMsgCb)
    (run : s.delivery.step .dispatch = some t) : ∃ u, s.step callbackThrows .dispatch = some u := by
  have moved := run
  simp only [DeliveryState.step] at run
  split at run
  · rename_i outstanding size event remaining dispatching
    have member : event.heard.messageId ∈ s.producer.outstanding := by
      refine piped.waiting.mem_iff.mpr (List.mem_append_right _ ?_)
      simp [queued, DeliveryState.held, dispatching]
    simp only [step, dispatching, deliveryStep, moved, Option.map_some, Option.bind_some, producerStep,
      HighLevelProducer.step, if_pos member]
    exact ⟨_, rfl⟩
  · cases run

theorem Piped.produce {s t : ProducePipeline} {arguments : ProduceArguments} (piped : s.Piped cb drMsgCb)
    (run : s.step callbackThrows (.produce arguments) = some t) : t.Piped cb drMsgCb := by
  simp only [step, Option.ite_none_left_eq_some, Bool.or_eq_true, JsValue.isUndefined_iff, not_or,
    Bool.not_eq_true] at run
  obtain ⟨⟨⟨⟨message, key⟩, messageReturned⟩, keyReturned⟩, run⟩ := run
  obtain ⟨u, hands, rfl⟩ := Option.map_eq_some_iff.mp run
  obtain ⟨producer, taken, rfl⟩ := Option.map_eq_some_iff.mp hands
  obtain rfl := HighLevelProducer.produce_noop piped.inStep.online
    ⟨message, key, messageReturned, keyReturned⟩ taken
  refine ⟨piped.delivery, piped.registered, piped.inStep.produced arguments, ?_, ?_⟩
  · simpa [HighLevelProducer.produced, HighLevelProducer.stored, HighLevelProducer.openCall_fields]
      using piped.reported
  · have whole := piped.waiting.append_right [s.producer.messageId]
    simp only [HighLevelProducer.produced, queued] at whole ⊢
    refine whole.trans ?_
    rw [List.append_assoc, List.append_assoc]
    exact List.perm_append_comm.append_left _

theorem Piped.alone {s t : ProducePipeline} {action : HighLevelAction} (piped : s.Piped cb drMsgCb)
    (plain : action = .immediate ∨ ∃ interval, action = .tick interval)
    (run : s.producerStep callbackThrows action = some t) : t.Piped cb drMsgCb := by
  obtain ⟨producer, moved, rfl⟩ := Option.map_eq_some_iff.mp run
  rcases plain with rfl | ⟨interval, rfl⟩
  · have inStep := piped.inStep.immediate moved
    obtain ⟨task, rest, closures, _, rfl⟩ := HighLevelProducer.step_immediate moved
    exact ⟨piped.delivery, piped.registered, inStep, piped.reported, piped.waiting⟩
  · have timed : (HighLevelAction.tick interval).Plain := trivial
    have inStep := HighLevelProducer.step_inStep timed piped.inStep moved
    obtain rfl := HighLevelProducer.step_tick moved
    simp only [HighLevelProducer.tick, piped.inStep.online, if_true] at inStep ⊢
    exact ⟨piped.delivery, piped.registered, inStep, piped.reported, piped.waiting⟩

theorem step_piped {s t : ProducePipeline} {action : PipelineAction} (piped : s.Piped cb drMsgCb)
    (run : s.step callbackThrows action = some t) : t.Piped cb drMsgCb := by
  cases action with
  | produce arguments => exact piped.produce run
  | drCb message => exact piped.drCb run
  | dispatch => exact piped.dispatch run
  | execute => exact piped.inner .execute trivial run
  | asyncMessage => exact piped.inner .asyncMessage trivial run
  | take => exact piped.inner .take trivial run
  | finish => exact piped.inner .finish trivial run
  | immediate => exact piped.alone (Or.inl rfl) run
  | tick interval => exact piped.alone (Or.inr ⟨interval, rfl⟩) run

/-- Nothing is left to do for the main thread. -/
structure Quiet (s : ProducePipeline) : Prop where
  flush : s.delivery.flush = .idle
  wakeup : s.delivery.wakeup = false
  executes : s.delivery.owedExecutes = 0
  immediates : s.producer.immediates = []

end ProducePipeline

/-- What a produce callback is called with for a report of librdkafka. -/
def DeliveryReport.answer (report : DeliveryReport) : Nat × CallbackArguments := report.heard.answer

/-- Two messages, reported in the other order, one while the other report is flushed. -/
def crossedReports : List PipelineAction :=
  let arguments := sampleArguments (.buffer [1]) .null
  [.produce arguments, .produce arguments, .drCb { sampleMessage 5 with msgOpaque := some 1 }, .execute,
   .asyncMessage, .take, .drCb { sampleMessage 4 with msgOpaque := some 0 }, .execute, .dispatch, .finish,
   .asyncMessage, .take, .dispatch, .finish, .immediate, .immediate]

end NodeRdkafka

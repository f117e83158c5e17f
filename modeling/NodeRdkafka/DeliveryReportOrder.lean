import NodeRdkafka.DeliveryReportDispatcher

namespace NodeRdkafka
open Transition

/-- The steps of one activation: Deactivate ends it. -/
def DeliveryAction.Within (action : DeliveryAction) : Prop := action ≠ .deactivate

namespace DeliveryState

theorem drCb_dispatcher (s : DeliveryState) (message : Message) :
    (s.drCb message).dispatcher = s.dispatcher := by
  by_cases registered : s.dispatcher.hasCallbacks
  · by_cases first : s.events = [] <;> simp [drCb, registered, first, add]
  · simp [drCb, registered]

theorem drCb_refines (s : DeliveryState) (message : Message) :
    ∃ labels, Reach Mailbox.step s.mailbox labels (s.drCb message).mailbox := by
  by_cases registered : s.dispatcher.hasCallbacks
  · by_cases first : s.events = []
    · refine Reach.single (.post (.ofMessage message s.drMsgCb) true) ?_
      simp [Mailbox.step, drCb, registered, first, add, mailbox, held, receiver]
    · refine Reach.single (.post (.ofMessage message s.drMsgCb) false) ?_
      simp [Mailbox.step, drCb, registered, first, add, mailbox, held, receiver]
  · exact Reach.stutter (by simp [drCb, registered])

theorem execute_refines {s t : DeliveryState} (active : s.dispatcher.async = true)
    (run : s.step .execute = some t) :
    t.dispatcher.async = true ∧ ∃ labels, Reach Mailbox.step s.mailbox labels t.mailbox := by
  simp only [step, Option.ite_none_right_eq_some, Option.some.injEq] at run
  obtain ⟨_, rfl⟩ := run
  refine ⟨active, Reach.single (.signal) ?_⟩
  simp [Mailbox.step, mailbox, execute, held, receiver, active]

theorem take_refines {s t : DeliveryState} (active : s.dispatcher.async = true)
    (run : s.step .take = some t) :
    t.dispatcher.async = true ∧ ∃ labels, Reach Mailbox.step s.mailbox labels t.mailbox := by
  simp only [step, Option.ite_none_right_eq_some, Option.some.injEq] at run
  obtain ⟨entered, rfl⟩ := run
  refine ⟨active, Reach.single (.take (min s.events.length 100)) ?_⟩
  have woken : s.receiver = .woken := by simp [receiver, entered]
  have rearmed : (!(s.events.drop (min s.events.length 100)).isEmpty) =
      decide (min s.events.length 100 < s.events.length) := by
    rw [Bool.eq_iff_iff]
    simp only [Bool.not_eq_true', List.isEmpty_eq_false_iff, ne_eq, List.drop_eq_nil_iff, decide_eq_true_eq]
    omega
  simp only [Mailbox.step, mailbox, woken, if_true, rearmed]
  rfl

theorem dispatch_refines {s t : DeliveryState} (active : s.dispatcher.async = true)
    (run : s.step .dispatch = some t) :
    t.dispatcher.async = true ∧ ∃ labels, Reach Mailbox.step s.mailbox labels t.mailbox := by
  simp only [step] at run
  split at run
  · rename_i outstanding size event remaining dispatching
    cases Option.some.inj run
    refine ⟨active, Reach.single (.deliver) ?_⟩
    simp [Mailbox.step, mailbox, held, receiver, dispatching]
  · simp at run

theorem finish_refines {s t : DeliveryState} (active : s.dispatcher.async = true)
    (run : s.step .finish = some t) :
    t.dispatcher.async = true ∧ ∃ labels, Reach Mailbox.step s.mailbox labels t.mailbox := by
  simp only [step] at run
  split at run
  · rename_i outstanding size dispatching
    cases Option.some.inj run
    by_cases more : size < outstanding
    · refine ⟨by simpa [more, execute] using active, Reach.single (.finish) ?_⟩
      simp [Mailbox.step, mailbox, held, receiver, dispatching, more, execute, active]
    · refine ⟨by simpa [more] using active, Reach.single (.finish) ?_⟩
      simp [Mailbox.step, mailbox, held, receiver, dispatching, more]
  · simp at run

/-- Every step within an activation is a run of the mailbox. -/
theorem step_refines {s t : DeliveryState} {action : DeliveryAction} (within : action.Within)
    (active : s.dispatcher.async = true) (run : s.step action = some t) :
    t.dispatcher.async = true ∧ ∃ labels, Reach Mailbox.step s.mailbox labels t.mailbox := by
  cases action with
  | drCb message =>
    cases Option.some.inj run
    exact ⟨(s.drCb_dispatcher message).symm ▸ active, s.drCb_refines message⟩
  | execute => exact execute_refines active run
  | asyncMessage =>
    simp only [step, Option.ite_none_right_eq_some, Option.some.injEq] at run
    obtain ⟨⟨wakeup, idle⟩, rfl⟩ := run
    refine ⟨active, Reach.single (.wake) ?_⟩
    simp [Mailbox.step, mailbox, held, receiver, wakeup, idle]
  | take => exact take_refines active run
  | dispatch => exact dispatch_refines active run
  | finish => exact finish_refines active run
  | activate =>
    cases Option.some.inj run
    exact ⟨rfl, Reach.stutter rfl⟩
  | deactivate => exact absurd rfl within
  | addCallback cb =>
    cases Option.some.inj run
    exact ⟨active, Reach.stutter rfl⟩
  | removeCallback cb =>
    cases Option.some.inj run
    exact ⟨active, Reach.stutter rfl⟩

theorem reach_sound {s : DeliveryState} {callbacks : List JsFunction} {drMsgCb : Bool}
    {trace : List DeliveryAction} (reach : Reach step (activated callbacks drMsgCb) trace s)
    (within : ∀ action ∈ trace, action.Within) : s.mailbox.Sound := by
  obtain ⟨_, simulated⟩ :=
    reach.refines mailbox (·.dispatcher.async = true) rfl step_refines within
  exact Mailbox.reach_sound simulated

end DeliveryState

/-- Within one activation nothing is lost, reordered or repeated, and a
report is left in the deque only while someone will still come for it: a
running Flush, a pending wakeup, or a dr_cb that has yet to call Execute. -/
theorem deliveryReport_order {s : DeliveryState} {callbacks : List JsFunction} {drMsgCb : Bool}
    {trace : List DeliveryAction}
    (reach : Reach DeliveryState.step (.activated callbacks drMsgCb) trace s)
    (within : ∀ action ∈ trace, action.Within) :
    s.dispatched ++ s.held ++ s.events = s.added ∧
      (s.flush = .idle → s.wakeup = false → s.owedExecutes = 0 → s.events = []) := by
  have sound := DeliveryState.reach_sound reach within
  refine ⟨sound.inOrder, fun idle silent settled => ?_⟩
  have asleep : s.receiver = .idle := by simp [DeliveryState.receiver, idle]
  exact (sound.quiescent asleep silent settled).1

def sampleMessage (offset : Int64) : Message :=
  { err := ErrorCode.errNoError, topicName := "t", partition := 0, offset }

/-- A report added while a Flush is dispatching, flushed by its own wakeup. -/
def overlappingReports : List DeliveryAction :=
  [.drCb (sampleMessage 0), .execute, .asyncMessage, .take, .drCb (sampleMessage 1), .dispatch,
   .execute, .finish, .asyncMessage, .take, .dispatch, .finish]

theorem deliveryReport_order_overlapping :
    ∃ s, Reach DeliveryState.step (.activated [0] false) overlappingReports s ∧
      s.dispatched ++ s.held ++ s.events = s.added ∧ s.events = [] ∧ s.added.length = 2 := by
  obtain ⟨s, reach, idle, silent, settled, size⟩ :
      ∃ s, Reach DeliveryState.step (.activated [0] false) overlappingReports s ∧
        s.flush = .idle ∧ s.wakeup = false ∧ s.owedExecutes = 0 ∧ s.added.length = 2 :=
    ⟨_, reach_iff_replay.mpr rfl, rfl, rfl, rfl, rfl⟩
  have ordered := deliveryReport_order reach (by simp [overlappingReports, DeliveryAction.Within])
  exact ⟨s, reach, ordered.1, ordered.2 idle silent settled, size⟩

/-- Between the Add and the Execute of one dr_cb no wakeup is pending yet. -/
theorem deque_waits_for_execute :
    ∃ s trace, (∀ action ∈ trace, action.Within) ∧
      Reach DeliveryState.step (.activated [0] false) trace s ∧
      s.flush = .idle ∧ s.wakeup = false ∧ s.events ≠ [] :=
  ⟨_, [.drCb (sampleMessage 0)], by simp [DeliveryAction.Within], reach_iff_replay.mpr rfl,
    rfl, rfl, by simp [DeliveryState.drCb, DeliveryState.activated, Dispatcher.hasCallbacks,
      DeliveryState.add]⟩

end NodeRdkafka

import NodeRdkafka.DeliveryReportOrder

namespace NodeRdkafka
open Transition

/-- A Delivery over the activations of its dispatcher: how many handles have
been made, and how many reports had been added when the last one was. -/
structure DeliveryCycles where
  delivery : DeliveryState
  activations : Nat := 0
  addedBefore : Nat := 0

namespace DeliveryCycles

def created (drMsgCb : Bool) : DeliveryCycles := { delivery := { drMsgCb } }

/-- Activate makes a handle only where there is none. -/
def step (s : DeliveryCycles) (action : DeliveryAction) : Option DeliveryCycles :=
  (s.delivery.step action).map fun delivery =>
    match action with
    | .activate =>
      if s.delivery.dispatcher.async then { s with delivery }
      else { delivery, activations := s.activations + 1, addedBefore := s.delivery.added.length }
    | _ => { s with delivery }

/-- The dispatcher has been activated again and a report added since. -/
def AddedAgain (s : DeliveryCycles) : Prop :=
  2 ≤ s.activations ∧ s.delivery.dispatcher.async = true ∧ s.addedBefore < s.delivery.added.length

/-- A report in the deque of a dispatcher activated again will be dispatched
by a wakeup that has been sent. -/
def Unstranded (s : DeliveryCycles) : Prop :=
  s.AddedAgain → s.delivery.flush = .idle → s.delivery.owedExecutes = 0 →
    s.delivery.wakeup = true ∨ s.delivery.events = []

/-- The condition on a step: an Activate that makes a handle finds the deque
empty, or a dr_cb that has yet to call Execute. -/
def FindsDrained (s : DeliveryCycles) : DeliveryAction → Prop
  | .activate =>
    s.delivery.dispatcher.async = false → s.delivery.events = [] ∨ 0 < s.delivery.owedExecutes
  | _ => True

end DeliveryCycles

namespace DeliveryState

/-- A dispatcher without a handle: nothing can wake it. -/
structure Dormant (s : DeliveryState) : Prop where
  inactive : s.dispatcher.async = false
  silent : s.wakeup = false
  idle : s.flush = .idle

theorem drCb_wakeup (s : DeliveryState) (message : Message) :
    (s.drCb message).wakeup = s.wakeup ∧ (s.drCb message).flush = s.flush := by
  by_cases registered : s.dispatcher.hasCallbacks
  · by_cases first : s.events = [] <;> simp [drCb, registered, first, add]
  · simp [drCb, registered]

/-- The main thread dispatches nothing without a handle. -/
theorem Dormant.refuses {s : DeliveryState} (dormant : s.Dormant) : s.step .asyncMessage = none ∧
    s.step .take = none ∧ s.step .dispatch = none ∧ s.step .finish = none := by
  simp [DeliveryState.step, dormant.silent, dormant.idle]

/-- Only Activate ends the dormancy. -/
theorem Dormant.step {s t : DeliveryState} {action : DeliveryAction} (dormant : s.Dormant)
    (run : s.step action = some t) (other : action ≠ .activate) : t.Dormant := by
  cases action with
  | drCb message =>
    cases Option.some.inj run
    obtain ⟨wakeup, flush⟩ := s.drCb_wakeup message
    exact ⟨(s.drCb_dispatcher message).symm ▸ dormant.inactive, wakeup.trans dormant.silent,
      flush.trans dormant.idle⟩
  | execute =>
    simp only [DeliveryState.step, Option.ite_none_right_eq_some, Option.some.injEq] at run
    obtain ⟨_, rfl⟩ := run
    exact ⟨dormant.inactive, by simp [DeliveryState.execute, dormant.silent, dormant.inactive],
      dormant.idle⟩
  | asyncMessage | take | dispatch | finish => simp [dormant.refuses] at run
  | activate => exact absurd rfl other
  | deactivate =>
    simp only [DeliveryState.step, Option.ite_none_right_eq_some, Option.some.injEq] at run
    obtain ⟨idle, rfl⟩ := run
    exact ⟨rfl, rfl, idle⟩
  | addCallback cb =>
    cases Option.some.inj run
    exact ⟨dormant.inactive, dormant.silent, dormant.idle⟩
  | removeCallback cb =>
    cases Option.some.inj run
    exact ⟨dormant.inactive, dormant.silent, dormant.idle⟩

theorem step_active_or_dormant {s t : DeliveryState} {action : DeliveryAction}
    (run : s.step action = some t) (stands : s.dispatcher.async = true ∨ s.Dormant) :
    t.dispatcher.async = true ∨ t.Dormant := by
  rcases stands with active | dormant
  · by_cases ends : action = .deactivate
    · subst ends
      simp only [step, Option.ite_none_right_eq_some, Option.some.injEq] at run
      obtain ⟨idle, rfl⟩ := run
      exact Or.inr ⟨rfl, rfl, idle⟩
    · exact Or.inl (step_refines ends active run).1
  · by_cases begins : action = .activate
    · subst begins
      cases Option.some.inj run
      exact Or.inl rfl
    · exact Or.inr (dormant.step run begins)

end DeliveryState

namespace DeliveryCycles

theorem step_delivery {s t : DeliveryCycles} {action : DeliveryAction}
    (run : s.step action = some t) : s.delivery.step action = some t.delivery := by
  obtain ⟨delivery, stepped, rfl⟩ := Option.map_eq_some_iff.mp run
  rw [stepped]
  cases action <;> first | rfl | (dsimp only; split <;> rfl)

theorem reach_active_or_dormant {s : DeliveryCycles} {drMsgCb : Bool} {trace : List DeliveryAction}
    (reach : Reach step (created drMsgCb) trace s) :
    s.delivery.dispatcher.async = true ∨ s.delivery.Dormant :=
  reach.invariant (fun s => s.delivery.dispatcher.async = true ∨ s.delivery.Dormant)
    (Or.inr ⟨rfl, rfl, rfl⟩)
    fun stands run => DeliveryState.step_active_or_dormant (step_delivery run) stands

/-- What the runs under the condition keep. -/
structure Watched (s : DeliveryCycles) : Prop where
  stands : s.delivery.dispatcher.async = true ∨ s.delivery.Dormant
  watched : s.delivery.dispatcher.async = true → s.delivery.mailbox.Watched

theorem Watched.step {s t : DeliveryCycles} {action : DeliveryAction}
    (finds : s.FindsDrained action) (kept : s.Watched) (run : s.step action = some t) :
    t.Watched := by
  have stepped := step_delivery run
  refine ⟨DeliveryState.step_active_or_dormant stepped kept.stands, fun activeAfter => ?_⟩
  rcases kept.stands with active | dormant
  · have within : action.Within := by
      rintro rfl
      simp only [DeliveryState.step, Option.ite_none_right_eq_some, Option.some.injEq] at stepped
      obtain ⟨_, same⟩ := stepped
      simp [← same, Dispatcher.deactivate] at activeAfter
    obtain ⟨_, _, simulated⟩ := DeliveryState.step_refines within active stepped
    exact simulated.invariant Mailbox.State.Watched (kept.watched active) Mailbox.watched_step
  · by_cases begins : action = .activate
    · subst begins
      have same := Option.some.inj stepped
      have events : t.delivery.mailbox.queue = s.delivery.events := by
        rw [← same]
        rfl
      have owed : t.delivery.mailbox.owed = s.delivery.owedExecutes := by
        rw [← same]
        rfl
      intro left
      rcases finds dormant.inactive with drained | executes
      · exact absurd (events.trans drained) left
      · exact Or.inr (Or.inl (owed ▸ executes))
    · have still := dormant.step stepped begins
      simp [still.inactive] at activeAfter

theorem Watched.unstranded {s : DeliveryCycles} (kept : s.Watched) : s.Unstranded := by
  intro added idle settled
  by_cases drained : s.delivery.events = []
  · exact Or.inr drained
  · rcases kept.watched added.2.1 drained with pending | owed | woken | rearmed
    · exact Or.inl pending
    · have none : s.delivery.mailbox.owed = 0 := settled
      omega
    · simp [DeliveryState.mailbox, DeliveryState.receiver, idle] at woken
    · simp [DeliveryState.mailbox, DeliveryState.receiver, idle] at rearmed

end DeliveryCycles

/-- While every Activate that makes a handle finds the deque drained, no
report raised after a reconnect is stranded. -/
theorem deliveryCycles_unstranded {s : DeliveryCycles} {drMsgCb : Bool}
    {trace : List DeliveryAction}
    (reach : ReachWhile DeliveryCycles.FindsDrained DeliveryCycles.step (.created drMsgCb) trace s) :
    s.Unstranded := by
  have kept := reach.invariant DeliveryCycles.Watched ⟨Or.inr ⟨rfl, rfl, rfl⟩, by simp [DeliveryCycles.created]⟩
    DeliveryCycles.Watched.step
  exact kept.unstranded

/-- The condition is needed: after any Activate that does not meet it, made
on a dispatcher that was active before, the next report is stranded. -/
theorem deliveryCycles_strands {s t u : DeliveryCycles} {drMsgCb : Bool}
    {trace : List DeliveryAction} (reach : Reach DeliveryCycles.step (.created drMsgCb) trace s)
    (again : 1 ≤ s.activations) (left : ¬ s.FindsDrained .activate)
    (activates : s.step .activate = some t) (registered : t.delivery.dispatcher.hasCallbacks = true)
    {message : Message} (report : t.step (.drCb message) = some u) : ¬ u.Unstranded := by
  simp only [DeliveryCycles.FindsDrained, not_forall, not_or] at left
  obtain ⟨inactive, queued, settled⟩ := left
  have dormant : s.delivery.Dormant := by
    rcases DeliveryCycles.reach_active_or_dormant reach with active | dormant
    · simp [active] at inactive
    · exact dormant
  have made : t = { delivery := { s.delivery with dispatcher := s.delivery.dispatcher.activate },
                    activations := s.activations + 1, addedBefore := s.delivery.added.length } := by
    simpa [DeliveryCycles.step, DeliveryState.step, inactive] using activates.symm
  subst made
  have added : u.delivery = { s.delivery with
      dispatcher := s.delivery.dispatcher.activate
      events := s.delivery.events ++ [.ofMessage message s.delivery.drMsgCb]
      added := s.delivery.added ++ [.ofMessage message s.delivery.drMsgCb] } := by
    have stepped := Option.some.inj (DeliveryCycles.step_delivery report)
    rw [← stepped]
    have callbacks : s.delivery.dispatcher.activate.hasCallbacks = true := registered
    simp [DeliveryState.drCb, callbacks, DeliveryState.add, queued]
  obtain ⟨activations, addedBefore⟩ :
      u.activations = s.activations + 1 ∧ u.addedBefore = s.delivery.added.length := by
    cases Option.some.inj report
    exact ⟨rfl, rfl⟩
  intro unstranded
  have active : u.delivery.dispatcher.async = true := by rw [added]; rfl
  have since : u.addedBefore < u.delivery.added.length := by simp [added, addedBefore]
  have idle : u.delivery.flush = .idle := by rw [added]; exact dormant.idle
  have owes : u.delivery.owedExecutes = 0 := by rw [added]; exact Nat.eq_zero_of_not_pos settled
  rcases unstranded ⟨by omega, active, since⟩ idle owes with pending | drained
  · rw [added] at pending
    exact absurd (pending.symm.trans dormant.silent) (by decide)
  · simp [added] at drained

/-- A producer that connects, disconnects when its reports are dispatched,
connects again and gets another report. -/
def drainedReconnect : List DeliveryAction :=
  [.addCallback 0, .activate, .drCb (sampleMessage 0), .execute, .asyncMessage, .take, .dispatch,
   .finish, .deactivate, .removeCallback 0, .addCallback 0, .activate, .drCb (sampleMessage 1),
   .execute]

theorem deliveryCycles_unstranded_drained :
    ∃ s, ReachWhile DeliveryCycles.FindsDrained DeliveryCycles.step (.created false)
        drainedReconnect s ∧
      s.Unstranded ∧ s.AddedAgain ∧ s.delivery.events.length = 1 := by
  obtain ⟨s, reach, added, left⟩ :
      ∃ s, ReachWhile DeliveryCycles.FindsDrained DeliveryCycles.step (.created false)
        drainedReconnect s ∧ s.AddedAgain ∧ s.delivery.events.length = 1 :=
    ⟨_, .prepend trivial rfl <| .prepend (fun _ => Or.inl rfl) rfl <| .prepend trivial rfl <|
      .prepend trivial rfl <| .prepend trivial rfl <| .prepend trivial rfl <| .prepend trivial rfl <|
      .prepend trivial rfl <| .prepend trivial rfl <| .prepend trivial rfl <| .prepend trivial rfl <|
      .prepend (fun _ => Or.inl rfl) rfl <| .prepend trivial rfl <| .prepend trivial rfl .start,
      ⟨by decide, rfl, by decide⟩, rfl⟩
  exact ⟨s, reach, deliveryCycles_unstranded reach, added, left⟩

/-- A report that the disconnect left in the deque keeps the next one from
being dispatched. -/
theorem reports_stranded_after_reconnect :
    ∃ s, Reach DeliveryCycles.step (.created false)
        [.addCallback 0, .activate, .drCb (sampleMessage 0), .execute, .deactivate,
         .removeCallback 0, .addCallback 0, .activate, .drCb (sampleMessage 1)] s ∧
      s.AddedAgain ∧ s.delivery.flush = .idle ∧ s.delivery.owedExecutes = 0 ∧
      s.delivery.wakeup = false ∧ s.delivery.events.length = 2 :=
  ⟨_, reach_iff_replay.mpr rfl, ⟨by decide, rfl, by decide⟩, rfl, rfl, rfl, rfl⟩

end NodeRdkafka

import NodeRdkafka.DeliveryReportCycles

namespace NodeRdkafka
open Transition

/-- How far a ProducerDisconnect worker has come. -/
inductive DisconnectStage
  | queued
  | executed
  | deactivated
  deriving DecidableEq

/-- A connected producer and its disconnects, with their callbacks by identity.
`due` holds the reports added before the dispatchers were deactivated. -/
structure ProducerDisconnect where
  delivery : DeliveryState
  deliveryCb : JsFunction
  client : Bool := true
  isConnected : Bool := true
  isDisconnecting : Bool := false
  flushing : List (Option Nat) := []
  flushed : List (Option Nat) := []
  worker : Option (Option Nat × DisconnectStage) := none
  due : List DeliveryReport := []
  disconnected : List (Option Nat) := []

inductive ProducerDisconnectAction
  | delivery (action : DeliveryAction)
  | disconnect (cb : Option Nat)
  | flush (index : Nat)
  | flushCallback (index : Nat)
  | execute
  | handleOKCallback
  | callback

/-- The steps that run beside a disconnect. -/
def DeliveryAction.isConcurrent : DeliveryAction → Bool
  | activate | deactivate | addCallback _ | removeCallback _ => false
  | _ => true

namespace ProducerDisconnect

/-- The producer as connect leaves it. -/
def connected (deliveryCb : JsFunction) (drMsgCb : Bool) : ProducerDisconnect :=
  { delivery := .activated [deliveryCb] drMsgCb, deliveryCb }

/-- The base method, which the callback of flush calls whatever came of it. -/
def disconnect (s : ProducerDisconnect) (cb : Option Nat) : ProducerDisconnect :=
  if s.isDisconnecting then s else { s with isDisconnecting := true, worker := some (cb, .queued) }

/-- Flush and disconnect run on pool threads, their callbacks on the main
thread between two callbacks of the event loop. -/
def step (s : ProducerDisconnect) : ProducerDisconnectAction → Option ProducerDisconnect
  | .delivery action =>
    if action.isConcurrent then (s.delivery.step action).map fun delivery => { s with delivery }
    else none
  | .disconnect cb => if s.isConnected then some { s with flushing := s.flushing ++ [cb] } else none
  | .flush index =>
    s.flushing[index]?.map fun cb =>
      { s with flushing := s.flushing.eraseIdx index, flushed := s.flushed ++ [cb] }
  | .flushCallback index =>
    if s.delivery.flush = .idle then
      s.flushed[index]?.map fun cb => disconnect { s with flushed := s.flushed.eraseIdx index } cb
    else none
  | .execute =>
    match s.worker with
    | some (cb, .queued) => some { s with client := false, worker := some (cb, .executed) }
    | _ => none
  | .handleOKCallback =>
    match s.worker with
    | some (cb, .executed) =>
      (s.delivery.step .deactivate).map fun delivery =>
        { s with delivery, due := s.delivery.added, worker := some (cb, .deactivated) }
    | _ => none
  | .callback =>
    match s.worker with
    | some (cb, .deactivated) =>
      (s.delivery.step (.removeCallback s.deliveryCb)).map fun delivery =>
        { s with delivery, worker := none, isDisconnecting := false, isConnected := false,
                 disconnected := s.disconnected ++ [cb] }
    | _ => none

end ProducerDisconnect

namespace DeliveryState

/-- Over all activations the deque loses, repeats and reorders nothing. -/
def InOrder (s : DeliveryState) : Prop := s.dispatched ++ s.held ++ s.events = s.added

theorem drCb_inOrder {s : DeliveryState} (ordered : s.InOrder) (message : Message) :
    (s.drCb message).InOrder := by
  by_cases registered : s.dispatcher.hasCallbacks
  · have appended : s.dispatched ++ s.held ++ (s.events ++ [.ofMessage message s.drMsgCb]) =
        s.added ++ [.ofMessage message s.drMsgCb] := by
      rw [← List.append_assoc, ordered]
    by_cases first : s.events = [] <;>
      simpa [InOrder, drCb, registered, first, add, held] using appended
  · simpa [InOrder, drCb, registered, held] using ordered

theorem InOrder.step {s t : DeliveryState} {action : DeliveryAction} (ordered : s.InOrder)
    (run : s.step action = some t) : t.InOrder := by
  cases action with
  | drCb message =>
    cases Option.some.inj run
    exact drCb_inOrder ordered message
  | execute =>
    simp only [DeliveryState.step, Option.ite_none_right_eq_some, Option.some.injEq] at run
    obtain ⟨_, rfl⟩ := run
    exact ordered
  | asyncMessage =>
    simp only [DeliveryState.step, Option.ite_none_right_eq_some, Option.some.injEq] at run
    obtain ⟨⟨_, idle⟩, rfl⟩ := run
    simpa [InOrder, held, idle] using ordered
  | take =>
    simp only [DeliveryState.step, Option.ite_none_right_eq_some, Option.some.injEq] at run
    obtain ⟨entered, rfl⟩ := run
    simpa [InOrder, DeliveryState.take, held, entered] using ordered
  | dispatch =>
    simp only [DeliveryState.step] at run
    split at run
    · rename_i outstanding size event remaining dispatching
      cases Option.some.inj run
      simpa [InOrder, held, dispatching] using ordered
    · simp at run
  | finish =>
    simp only [DeliveryState.step] at run
    split at run
    · rename_i outstanding size dispatching
      cases Option.some.inj run
      by_cases more : size < outstanding <;>
        simpa [InOrder, held, dispatching, more, DeliveryState.execute] using ordered
    · simp at run
  | deactivate =>
    simp only [DeliveryState.step, Option.ite_none_right_eq_some, Option.some.injEq] at run
    obtain ⟨_, rfl⟩ := run
    exact ordered
  | activate | addCallback cb | removeCallback cb =>
    cases Option.some.inj run
    exact ordered

/-- The steps beside a disconnect leave the dispatcher as it is, and call
its callbacks with the reports that they dispatch. -/
theorem step_concurrent {s t : DeliveryState} {action : DeliveryAction} {cb : JsFunction}
    (concurrent : action.isConcurrent = true) (run : s.step action = some t) :
    t.dispatcher = s.dispatcher ∧
      (s.dispatcher.callbacks = [cb] → s.calls = s.dispatched.map (cb, ·) →
        t.calls = t.dispatched.map (cb, ·)) := by
  cases action with
  | drCb message =>
    cases Option.some.inj run
    refine ⟨s.drCb_dispatcher message, fun _ called => ?_⟩
    by_cases registered : s.dispatcher.hasCallbacks
    · by_cases first : s.events = [] <;> simpa [drCb, registered, first, add] using called
    · simpa [drCb, registered] using called
  | execute =>
    simp only [step, Option.ite_none_right_eq_some, Option.some.injEq] at run
    obtain ⟨_, rfl⟩ := run
    exact ⟨rfl, fun _ called => called⟩
  | asyncMessage =>
    simp only [step, Option.ite_none_right_eq_some, Option.some.injEq] at run
    obtain ⟨_, rfl⟩ := run
    exact ⟨rfl, fun _ called => called⟩
  | take =>
    simp only [step, Option.ite_none_right_eq_some, Option.some.injEq] at run
    obtain ⟨_, rfl⟩ := run
    exact ⟨rfl, fun _ called => called⟩
  | dispatch =>
    simp only [step] at run
    split at run
    · cases Option.some.inj run
      refine ⟨rfl, fun single called => ?_⟩
      simp [Dispatcher.dispatch, single, called]
    · simp at run
  | finish =>
    simp only [step] at run
    split at run
    · rename_i outstanding size dispatching
      cases Option.some.inj run
      by_cases more : size < outstanding <;> simp [more, execute]
    · simp at run
  | activate | deactivate | addCallback cb | removeCallback cb => cases concurrent

/-- Nothing is dispatched while there is no handle. -/
theorem Dormant.dispatched {s t : DeliveryState} {action : DeliveryAction} (dormant : s.Dormant)
    (concurrent : action.isConcurrent = true) (run : s.step action = some t) :
    t.dispatched = s.dispatched ∧ t.calls = s.calls := by
  cases action with
  | drCb message =>
    cases Option.some.inj run
    by_cases registered : s.dispatcher.hasCallbacks
    · by_cases first : s.events = [] <;> simp [drCb, registered, first, add]
    · simp [drCb, registered]
  | execute =>
    simp only [DeliveryState.step, Option.ite_none_right_eq_some, Option.some.injEq] at run
    obtain ⟨_, rfl⟩ := run
    exact ⟨rfl, rfl⟩
  | asyncMessage | take | dispatch | finish => simp [dormant.refuses] at run
  | activate | deactivate | addCallback cb | removeCallback cb => cases concurrent

end DeliveryState

namespace ProducerDisconnect

/-- What every run keeps. The callback is removed only from a dispatcher that
has no handle. -/
structure Kept (s : ProducerDisconnect) : Prop where
  ordered : s.delivery.InOrder
  called : s.delivery.calls = s.delivery.dispatched.map (s.deliveryCb, ·)
  stands : s.delivery.dispatcher.async = true ∨ s.delivery.Dormant
  registered : s.delivery.dispatcher.callbacks = [s.deliveryCb] ∨
    s.delivery.dispatcher.callbacks = [] ∧ s.delivery.Dormant
  disconnecting : s.worker.isSome = true → s.isDisconnecting = true
  deactivated : ∀ cb, s.worker = some (cb, .deactivated) → s.delivery.Dormant

theorem connected_kept (deliveryCb : JsFunction) (drMsgCb : Bool) :
    (connected deliveryCb drMsgCb).Kept where
  ordered := rfl
  called := rfl
  stands := Or.inl rfl
  registered := Or.inl rfl
  disconnecting := by simp [connected]
  deactivated := by simp [connected]

theorem Kept.delivery {s : ProducerDisconnect} {t : DeliveryState} {action : DeliveryAction}
    (kept : s.Kept) (concurrent : action.isConcurrent = true)
    (run : s.delivery.step action = some t) : ({ s with delivery := t } : ProducerDisconnect).Kept := by
  have passive : action ≠ .activate := by rintro rfl; cases concurrent
  obtain ⟨dispatcher, called⟩ :=
    @DeliveryState.step_concurrent _ _ _ s.deliveryCb concurrent run
  refine ⟨kept.ordered.step run, ?_, DeliveryState.step_active_or_dormant run kept.stands, ?_,
    kept.disconnecting, fun cb stage => (kept.deactivated cb stage).step run passive⟩
  · rcases kept.registered with single | ⟨_, dormant⟩
    · exact called single kept.called
    · obtain ⟨dispatched, calls⟩ := dormant.dispatched concurrent run
      simp only [dispatched, calls, kept.called]
  · simp only [dispatcher]
    exact kept.registered.imp_right fun removed => ⟨removed.1, removed.2.step run passive⟩

theorem Kept.disconnect {s : ProducerDisconnect} (kept : s.Kept) (cb : Option Nat) :
    (s.disconnect cb).Kept := by
  by_cases disconnecting : s.isDisconnecting
  · simpa [ProducerDisconnect.disconnect, disconnecting] using kept
  · have queued : s.disconnect cb =
        { s with isDisconnecting := true, worker := some (cb, .queued) } := by
      simp [ProducerDisconnect.disconnect, disconnecting]
    rw [queued]
    exact ⟨kept.ordered, kept.called, kept.stands, kept.registered, fun _ => rfl, by simp⟩

/-- The end of the worker finds the main thread outside of Flush. -/
theorem handleOKCallback_eq {s t : ProducerDisconnect} (run : s.step .handleOKCallback = some t) :
    s.delivery.flush = .idle ∧ ∃ cb,
      t = { s with
        delivery := { s.delivery with dispatcher := s.delivery.dispatcher.deactivate, wakeup := false }
        due := s.delivery.added
        worker := some (cb, .deactivated) } ∧ s.worker.isSome = true := by
  simp only [step] at run
  split at run
  · rename_i cb executed
    obtain ⟨delivery, deactivates, rfl⟩ := Option.map_eq_some_iff.mp run
    simp only [DeliveryState.step, Option.ite_none_right_eq_some, Option.some.injEq] at deactivates
    obtain ⟨idle, rfl⟩ := deactivates
    exact ⟨idle, cb, rfl, by simp [executed]⟩
  · simp at run

theorem Kept.handleOKCallback {s t : ProducerDisconnect} (kept : s.Kept)
    (run : s.step .handleOKCallback = some t) : t.Kept := by
  obtain ⟨idle, cb, rfl, waits⟩ := handleOKCallback_eq run
  have dormant : DeliveryState.Dormant { s.delivery with
      dispatcher := s.delivery.dispatcher.deactivate, wakeup := false } := ⟨rfl, rfl, idle⟩
  refine ⟨kept.ordered, kept.called, Or.inr dormant, ?_, fun _ => kept.disconnecting waits,
    fun _ _ => dormant⟩
  exact kept.registered.imp_right fun removed => ⟨removed.1, dormant⟩

theorem Kept.callback {s t : ProducerDisconnect} (kept : s.Kept)
    (run : s.step .callback = some t) : t.Kept := by
  simp only [step] at run
  split at run
  · rename_i cb stage
    obtain ⟨delivery, removes, rfl⟩ := Option.map_eq_some_iff.mp run
    have ordered := kept.ordered.step removes
    have dormant := (kept.deactivated cb stage).step removes (by simp)
    cases Option.some.inj removes
    refine ⟨ordered, kept.called, Or.inr dormant, Or.inr ⟨?_, dormant⟩, by simp, by simp⟩
    rcases kept.registered with single | ⟨removed, _⟩
    · simp [Dispatcher.removeCallback, single]
    · simp [Dispatcher.removeCallback, removed]
  · simp at run

theorem Kept.step {s t : ProducerDisconnect} {action : ProducerDisconnectAction} (kept : s.Kept)
    (run : s.step action = some t) : t.Kept := by
  cases action with
  | delivery action =>
    simp only [ProducerDisconnect.step, Option.ite_none_right_eq_some] at run
    obtain ⟨concurrent, run⟩ := run
    obtain ⟨delivery, stepped, rfl⟩ := Option.map_eq_some_iff.mp run
    exact kept.delivery concurrent stepped
  | disconnect cb =>
    simp only [ProducerDisconnect.step, Option.ite_none_right_eq_some, Option.some.injEq] at run
    obtain ⟨_, rfl⟩ := run
    exact ⟨kept.ordered, kept.called, kept.stands, kept.registered, kept.disconnecting, kept.deactivated⟩
  | flush index =>
    obtain ⟨cb, _, rfl⟩ := Option.map_eq_some_iff.mp run
    exact ⟨kept.ordered, kept.called, kept.stands, kept.registered, kept.disconnecting, kept.deactivated⟩
  | flushCallback index =>
    simp only [ProducerDisconnect.step, Option.ite_none_right_eq_some] at run
    obtain ⟨_, run⟩ := run
    obtain ⟨cb, _, rfl⟩ := Option.map_eq_some_iff.mp run
    have taken : ({ s with flushed := s.flushed.eraseIdx index } : ProducerDisconnect).Kept :=
      ⟨kept.ordered, kept.called, kept.stands, kept.registered, kept.disconnecting, kept.deactivated⟩
    exact taken.disconnect cb
  | execute =>
    simp only [ProducerDisconnect.step] at run
    split at run
    · rename_i cb queued
      cases Option.some.inj run
      exact ⟨kept.ordered, kept.called, kept.stands, kept.registered,
        fun _ => kept.disconnecting (by simp [queued]), by simp⟩
    · simp at run
  | handleOKCallback => exact kept.handleOKCallback run
  | callback => exact kept.callback run

/-- The stretch between the deactivation and the callback: all that can still
come are reports that nothing dispatches. -/
structure Settled (t s : ProducerDisconnect) : Prop where
  kept : s.Kept
  stage : ∃ cb, s.worker = some (cb, .deactivated)
  deliveryCb : s.deliveryCb = t.deliveryCb
  due : s.due = t.due
  calls : s.delivery.calls = t.delivery.calls

theorem Settled.step {t s u : ProducerDisconnect} {action : ProducerDisconnectAction}
    (settled : Settled t s) (before : action ≠ .callback) (run : s.step action = some u) :
    Settled t u := by
  have kept := settled.kept.step run
  obtain ⟨cb, stage⟩ := settled.stage
  have dormant := settled.kept.deactivated cb stage
  have disconnecting := settled.kept.disconnecting (by simp [stage])
  cases action with
  | delivery action =>
    simp only [ProducerDisconnect.step, Option.ite_none_right_eq_some] at run
    obtain ⟨concurrent, run⟩ := run
    obtain ⟨delivery, stepped, rfl⟩ := Option.map_eq_some_iff.mp run
    exact ⟨kept, ⟨cb, stage⟩, settled.deliveryCb, settled.due,
      (dormant.dispatched concurrent stepped).2.trans settled.calls⟩
  | disconnect cb' =>
    simp only [ProducerDisconnect.step, Option.ite_none_right_eq_some, Option.some.injEq] at run
    obtain ⟨_, rfl⟩ := run
    exact ⟨kept, ⟨cb, stage⟩, settled.deliveryCb, settled.due, settled.calls⟩
  | flush index =>
    obtain ⟨_, _, rfl⟩ := Option.map_eq_some_iff.mp run
    exact ⟨kept, ⟨cb, stage⟩, settled.deliveryCb, settled.due, settled.calls⟩
  | flushCallback index =>
    simp only [ProducerDisconnect.step, Option.ite_none_right_eq_some] at run
    obtain ⟨_, run⟩ := run
    obtain ⟨_, _, rfl⟩ := Option.map_eq_some_iff.mp run
    have ignored : ∀ cb', ProducerDisconnect.disconnect { s with flushed := s.flushed.eraseIdx index } cb' =
        { s with flushed := s.flushed.eraseIdx index } := by
      intro cb'
      simp [ProducerDisconnect.disconnect, disconnecting]
    rw [ignored] at kept ⊢
    exact ⟨kept, ⟨cb, stage⟩, settled.deliveryCb, settled.due, settled.calls⟩
  | execute => simp [ProducerDisconnect.step, stage] at run
  | handleOKCallback => simp [ProducerDisconnect.step, stage] at run
  | callback => exact absurd rfl before

end ProducerDisconnect

namespace ProducerDisconnect

/-- What a step makes of the number of reports that wait: each report adds
one, and a Flush takes a hundred at most. -/
def backlog (waiting : Nat) : ProducerDisconnectAction → Nat
  | .delivery (.drCb _) => waiting + 1
  | .delivery .take => waiting - 100
  | _ => waiting

theorem delivery_backlog {s t : DeliveryState} {action : DeliveryAction} (concurrent : action.isConcurrent = true)
    (registered : s.dispatcher.hasCallbacks = true) (run : s.step action = some t) :
    t.events.length = backlog s.events.length (.delivery action) := by
  cases action with
  | drCb message =>
    cases Option.some.inj run
    by_cases first : s.events = [] <;> simp [DeliveryState.drCb, registered, first, DeliveryState.add, backlog]
  | take =>
    simp only [DeliveryState.step, Option.ite_none_right_eq_some, Option.some.injEq] at run
    obtain ⟨_, rfl⟩ := run
    simp only [DeliveryState.take, List.length_drop, backlog]
    omega
  | execute | asyncMessage =>
    simp only [DeliveryState.step, Option.ite_none_right_eq_some, Option.some.injEq] at run
    obtain ⟨_, rfl⟩ := run
    rfl
  | dispatch =>
    simp only [DeliveryState.step] at run
    split at run
    · cases Option.some.inj run
      rfl
    · simp at run
  | finish =>
    simp only [DeliveryState.step] at run
    split at run
    · rename_i outstanding size dispatching
      cases Option.some.inj run
      by_cases more : size < outstanding <;> simp [more, DeliveryState.execute, backlog]
    · simp at run
  | activate | deactivate | addCallback cb | removeCallback cb => cases concurrent

/-- Until the delivery callback is removed, the deque holds what was added and
not taken. -/
theorem step_backlog {s t : ProducerDisconnect} {action : ProducerDisconnectAction} (before : action ≠ .callback)
    (registered : s.delivery.dispatcher.hasCallbacks = true) (run : s.step action = some t) :
    t.delivery.dispatcher.hasCallbacks = true ∧
      t.delivery.events.length = backlog s.delivery.events.length action := by
  cases action with
  | delivery action =>
    simp only [step, Option.ite_none_right_eq_some] at run
    obtain ⟨concurrent, run⟩ := run
    obtain ⟨delivery, stepped, rfl⟩ := Option.map_eq_some_iff.mp run
    have dispatcher := (@DeliveryState.step_concurrent _ _ _ s.deliveryCb concurrent stepped).1
    exact ⟨by rwa [dispatcher], delivery_backlog concurrent registered stepped⟩
  | disconnect cb =>
    simp only [step, Option.ite_none_right_eq_some, Option.some.injEq] at run
    obtain ⟨_, rfl⟩ := run
    exact ⟨registered, rfl⟩
  | flush index =>
    obtain ⟨cb, _, rfl⟩ := Option.map_eq_some_iff.mp run
    exact ⟨registered, rfl⟩
  | flushCallback index =>
    simp only [step, Option.ite_none_right_eq_some] at run
    obtain ⟨_, run⟩ := run
    obtain ⟨cb, _, rfl⟩ := Option.map_eq_some_iff.mp run
    unfold disconnect
    split <;> exact ⟨registered, rfl⟩
  | execute =>
    simp only [step] at run
    split at run
    · cases Option.some.inj run
      exact ⟨registered, rfl⟩
    · simp at run
  | handleOKCallback =>
    obtain ⟨_, cb, rfl, _⟩ := handleOKCallback_eq run
    exact ⟨registered, rfl⟩
  | callback => exact absurd rfl before

theorem events_backlog {s : ProducerDisconnect} {deliveryCb : JsFunction} {drMsgCb : Bool}
    {trace : List ProducerDisconnectAction} (reach : Reach step (.connected deliveryCb drMsgCb) trace s)
    (first : ∀ action ∈ trace, action ≠ .callback) :
    s.delivery.events.length = trace.foldl backlog 0 :=
  (reach.foldl_of_labels (· ≠ .callback) (·.delivery.dispatcher.hasCallbacks = true) (·.delivery.events.length)
    backlog rfl step_backlog first).2

end ProducerDisconnect

/-- By the time a disconnect callback runs, the reports added before the
dispatchers were deactivated have all been passed to the delivery callback,
in order, exactly when the deactivation found none of them in the deque. In
the first disconnect these are the ones that the wakeups up to then, each good
for a hundred, have not taken. -/
theorem disconnect_delivers_iff {s t u v : ProducerDisconnect} {deliveryCb : JsFunction}
    {drMsgCb : Bool} {trace rest : List ProducerDisconnectAction}
    (reach : Reach ProducerDisconnect.step (.connected deliveryCb drMsgCb) trace s)
    (deactivates : s.step .handleOKCallback = some t)
    (later : Reach ProducerDisconnect.step t rest u) (before : ∀ action ∈ rest, action ≠ .callback)
    (runs : u.step .callback = some v) :
    v.due = s.delivery.added ∧
      (v.delivery.calls = v.due.map (v.deliveryCb, ·) ↔ s.delivery.events = []) ∧
      ((∀ action ∈ trace, action ≠ .callback) →
        s.delivery.events.length = trace.foldl ProducerDisconnect.backlog 0) := by
  rw [← and_assoc]
  refine ⟨?_, ProducerDisconnect.events_backlog reach⟩
  have kept := reach.invariant ProducerDisconnect.Kept
    (ProducerDisconnect.connected_kept deliveryCb drMsgCb) ProducerDisconnect.Kept.step
  have keptAfter := kept.handleOKCallback deactivates
  obtain ⟨idle, cb, rfl, _⟩ := ProducerDisconnect.handleOKCallback_eq deactivates
  have settled := later.invariant_of_labels (ProducerDisconnect.Settled _)
    ⟨keptAfter, ⟨cb, rfl⟩, rfl, rfl, rfl⟩ (fun before settled run => settled.step before run) before
  simp only [ProducerDisconnect.step] at runs
  split at runs
  · obtain ⟨delivery, removes, rfl⟩ := Option.map_eq_some_iff.mp runs
    cases Option.some.inj removes
    have free : s.delivery.held = [] := by simp [DeliveryState.held, idle]
    have ordered : s.delivery.dispatched ++ s.delivery.events = s.delivery.added := by
      simpa [DeliveryState.InOrder, free] using kept.ordered
    refine ⟨settled.due, ?_⟩
    simp only [settled.due, settled.calls, settled.deliveryCb, kept.called]
    rw [← ordered, List.map_append, List.self_eq_append_right, List.map_eq_nil_iff]
  · simp at runs

/-- The steps of a disconnect whose flush gets `count` reports, of which one
wakeup dispatches the first hundred before the native disconnect ends. -/
def flushedReports (count : Nat) : List ProducerDisconnectAction :=
  [.disconnect (some 7), .delivery (.drCb (sampleMessage 0)), .delivery .execute] ++
    List.replicate (count - 1) (.delivery (.drCb (sampleMessage 1))) ++
    [.flush 0, .flushCallback 0, .delivery .asyncMessage, .delivery .take] ++
    List.replicate (min count 100) (.delivery .dispatch) ++ [.delivery .finish, .execute]

theorem disconnect_delivers_iff_hundred :
    ∃ s t v, Reach ProducerDisconnect.step (.connected 0 false) (flushedReports 100) s ∧
      s.step .handleOKCallback = some t ∧ t.step .callback = some v ∧ v.due.length = 100 ∧
      v.delivery.calls = v.due.map (v.deliveryCb, ·) := by
  obtain ⟨s, run, facts⟩ : ∃ s,
      replay ProducerDisconnect.step (.connected 0 false) (flushedReports 100) = some s ∧
        (s.delivery.events.length, s.delivery.added.length,
          ((s.step .handleOKCallback).bind (·.step .callback)).isSome) = (0, 100, true) :=
    Option.map_eq_some_iff.mp (by decide +kernel)
  simp only [Prod.mk.injEq, List.length_eq_zero_iff] at facts
  obtain ⟨drained, added, ends⟩ := facts
  obtain ⟨v, ends⟩ := Option.isSome_iff_exists.mp ends
  obtain ⟨t, deactivates, callback⟩ := Option.bind_eq_some_iff.mp ends
  have delivers := disconnect_delivers_iff (reach_iff_replay.mpr run) deactivates .start (by simp) callback
  exact ⟨s, t, v, reach_iff_replay.mpr run, deactivates, callback, by rw [delivers.1, added],
    delivers.2.1.mpr drained⟩

/-- The hundred and first report is left in the deque. -/
theorem disconnect_drops_report :
    ∃ v, Reach ProducerDisconnect.step (.connected 0 false)
        (flushedReports 101 ++ [.handleOKCallback, .callback]) v ∧
      v.disconnected = [some 7] ∧ v.due.length = 101 ∧ v.delivery.calls.length = 100 := by
  obtain ⟨v, run, facts⟩ : ∃ v,
      replay ProducerDisconnect.step (.connected 0 false)
          (flushedReports 101 ++ [.handleOKCallback, .callback]) = some v ∧
        (v.disconnected, v.due.length, v.delivery.calls.length) = ([some 7], 101, 100) :=
    Option.map_eq_some_iff.mp (by decide +kernel)
  simp only [Prod.mk.injEq] at facts
  exact ⟨v, reach_iff_replay.mpr run, facts⟩

end NodeRdkafka

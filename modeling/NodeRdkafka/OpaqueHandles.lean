import Mathlib.Data.List.Count
import NodeRdkafka.DeliveryReportCycles
import NodeRdkafka.MessageRoundTrip
import NodeRdkafka.Lib.Lists

namespace NodeRdkafka
open Transition

/-- A Producer with its Delivery: the opaques of the accepted messages that
librdkafka has not reported yet, and a record of what is done to handles. The
last two fields name the handles of failed calls and of raised reports. -/
structure OpaqueHandles where
  delivery : DeliveryState := {}
  nextHandle : Nat := 0
  inFlight : List (Option Nat) := []
  log : List HandleEvent := []
  failed : List Nat := []
  raised : List Nat := []

/-- A call of NodeProduce, a report of the accepted message at an index, or
another step of the dispatcher. -/
inductive OpaqueAction
  | produce (context : ProduceContext) (info : List JsValue)
  | report (index : Nat) (message : Message)
  | delivery (action : DeliveryAction)

namespace OpaqueHandles

/-- A call that throws has made no handle. -/
def produce (s : OpaqueHandles) : Except String NodeProduced → OpaqueHandles
  | .error _ => s
  | .ok produced =>
    let s := { s with nextHandle := s.nextHandle + 1, log := s.log ++ produced.handleEvents }
    if produced.errorCode = ErrorCode.errNoError then
      { s with inFlight := s.inFlight ++ (produced.handed.map (·.msgOpaque)).toList }
    else { s with failed := s.failed ++ produced.allocated }

/-- What Flush does to the handle of a report before it dispatches it. -/
def flushed (report : DeliveryReport) : List HandleEvent :=
  report.opaqueHandle.toList.flatMap fun handle => [.read handle, .release handle]

/-- Only the step of Flush that dispatches a report touches a handle. -/
def flushEvents (s : OpaqueHandles) : DeliveryAction → List HandleEvent
  | .dispatch => s.delivery.held.head?.toList.flatMap flushed
  | _ => []

def step (s : OpaqueHandles) : OpaqueAction → Option OpaqueHandles
  | .produce context info =>
    if (ProduceContext.argument info 0).isString then
      some (s.produce (context.nodeProduce info s.nextHandle))
    else none
  | .report index message =>
    if s.inFlight[index]? = some message.msgOpaque then
      some { s with
        delivery := s.delivery.drCb message
        inFlight := s.inFlight.eraseIdx index
        raised := s.raised ++ message.msgOpaque.toList }
    else none
  | .delivery (.drCb _) => none
  | .delivery action =>
    (s.delivery.step action).map fun delivery =>
      { s with delivery, log := s.log ++ s.flushEvents action }

/-- The queue of the dispatcher is drained: no report waits in it or in Flush. -/
def Drained (s : OpaqueHandles) : Prop := s.delivery.events = [] ∧ s.delivery.held = []

/-- The condition on a step: a report of a message with an opaque is raised
while a delivery callback is registered. -/
def FindsCallback (s : OpaqueHandles) : OpaqueAction → Prop
  | .report _ message => message.msgOpaque ≠ none → s.delivery.dispatcher.hasCallbacks = true
  | _ => True

instance (s : OpaqueHandles) : DecidablePred s.FindsCallback
  | .report _ _ => inferInstanceAs (Decidable (_ → _))
  | .produce _ _ | .delivery _ => .isTrue trivial

def Released (s : OpaqueHandles) (handle : Nat) : Prop := .release handle ∈ s.log

/-- The handles of the reports that wait in the queue or in Flush. -/
def queued (s : OpaqueHandles) : List Nat :=
  (s.delivery.held ++ s.delivery.events).filterMap (·.opaqueHandle)

/-- The handles that a step forgets. -/
def leaked (s : OpaqueHandles) : OpaqueAction → List Nat
  | .report _ message => if s.delivery.dispatcher.hasCallbacks then [] else message.msgOpaque.toList
  | _ => []

/-- No handle is read after its release. -/
def ReadsLive (log : List HandleEvent) : Prop :=
  log.Pairwise fun first later => ∀ handle, first = .release handle → later ≠ .read handle

/-- How often a handle is released, waits for a report or a dispatch, or has
been forgotten. -/
def places (s : OpaqueHandles) (leaks : List Nat) (handle : Nat) : Nat :=
  s.log.count (.release handle) + s.inFlight.reduceOption.count handle + s.queued.count handle +
    leaks.count handle

/-- What every run keeps, with the handles that it has forgotten. -/
structure Kept (s : OpaqueHandles) (leaks : List Nat) : Prop where
  once : ∀ handle, s.places leaks handle ≤ 1
  fresh : ∀ handle, s.nextHandle ≤ handle → s.places leaks handle = 0
  reads : ReadsLive s.log
  failed : ∀ handle ∈ s.failed, s.Released handle
  raised : ∀ handle ∈ s.raised, s.Released handle ∨ handle ∈ s.queued ∨ handle ∈ leaks
  forgotten : ∀ handle ∈ leaks, handle ∈ s.raised

end OpaqueHandles

namespace DeliveryState
variable {s t : DeliveryState}

theorem drCb_held (s : DeliveryState) (message : Message) : (s.drCb message).held = s.held := by
  unfold held
  rw [(s.drCb_wakeup message).2]

/-- The steps other than dr_cb and the dispatch of a report leave the reports
that wait as they are, in the order of their dispatch. -/
theorem step_waiting {action : DeliveryAction} (run : s.step action = some t)
    (silent : ∀ message, action ≠ .drCb message) (other : action ≠ .dispatch) :
    t.held ++ t.events = s.held ++ s.events := by
  cases action with
  | drCb message => exact absurd rfl (silent message)
  | dispatch => exact absurd rfl other
  | execute =>
    simp only [step, Option.ite_none_right_eq_some, Option.some.injEq] at run
    obtain ⟨_, rfl⟩ := run
    rfl
  | asyncMessage =>
    simp only [step, Option.ite_none_right_eq_some, Option.some.injEq] at run
    obtain ⟨⟨_, idle⟩, rfl⟩ := run
    simp [held, idle]
  | take =>
    simp only [step, Option.ite_none_right_eq_some, Option.some.injEq] at run
    obtain ⟨entered, rfl⟩ := run
    simp [held, take, entered]
  | finish =>
    simp only [step] at run
    split at run
    · rename_i outstanding size dispatching
      cases Option.some.inj run
      by_cases more : size < outstanding <;> simp [held, dispatching, more, execute]
    · cases run
  | activate | addCallback | removeCallback =>
    cases Option.some.inj run
    rfl
  | deactivate =>
    simp only [step, Option.ite_none_right_eq_some, Option.some.injEq] at run
    obtain ⟨_, rfl⟩ := run
    rfl

theorem dispatch_waiting (run : s.step .dispatch = some t) :
    ∃ report rest, s.held = report :: rest ∧ t.held = rest ∧ t.events = s.events := by
  simp only [step] at run
  split at run
  · rename_i outstanding size report rest dispatching
    cases Option.some.inj run
    exact ⟨report, rest, by simp [held, dispatching], rfl, rfl⟩
  · cases run

end DeliveryState

namespace ProduceContext
variable {c : ProduceContext} {info : List JsValue} {handle : Nat} {produced : NodeProduced}

theorem answered_allocated (arguments : NodeProduceArguments) (answer : ErrorCode × Option ProduceRequest) :
    (answered arguments answer).allocated = arguments.msgOpaque.toList := by
  unfold answered NodeProduced.allocated
  cases arguments.msgOpaque <;> dsimp only <;> split <;> simp

theorem produce_accepted {request : ProduceRequest} (accepted : (c.produce request).1 = ErrorCode.errNoError) :
    (c.produce request).2 = some request := by
  unfold produce at accepted ⊢
  split
  · rfl
  · rename_i disconnected
    rw [if_neg disconnected] at accepted
    cases accepted

/-- What a call with a topic name does with the one handle that it may make: an
accepted message takes it along, a refused one releases it. -/
theorem nodeProduce_handles (named : (argument info 0).isString = true)
    (ran : c.nodeProduce info handle = .ok produced) :
    ∃ msgOpaque : Option Nat, (∀ made ∈ msgOpaque, made = handle) ∧
      produced.allocated = msgOpaque.toList ∧
      (produced.errorCode = ErrorCode.errNoError →
        produced.handleEvents = msgOpaque.toList.map .allocate ∧
          produced.handed.map (·.msgOpaque) = some msgOpaque) ∧
      (produced.errorCode ≠ ErrorCode.errNoError →
        produced.handleEvents = msgOpaque.toList.map .allocate ++ msgOpaque.toList.map .release) := by
  obtain ⟨arguments, parsed, returned⟩ := nodeProduce_sent ran
  obtain ⟨_, _, made, _⟩ := argumentsOf_ok parsed
  subst returned
  refine ⟨arguments.msgOpaque, ?_, ?_⟩
  · rw [made]
    split <;> simp
  obtain ⟨topic, isTopic⟩ : ∃ topic, argument info 0 = .string topic := by
    cases topic : argument info 0 <;> simp_all [JsValue.isString]
  rw [isTopic, send]
  refine ⟨answered_allocated arguments _, ?_, ?_⟩
  · intro accepted
    have handed := produce_accepted (c := c) accepted
    exact ⟨by simp [answered, show (c.produce _).1 = _ from accepted], by simp [answered, handed]⟩
  · intro refused
    simp [answered, show (c.produce _).1 ≠ _ from refused]

end ProduceContext

namespace OpaqueHandles
variable {s t : OpaqueHandles} {leaks : List Nat}

theorem ReadsLive.append {log events : List HandleEvent} (reads : ReadsLive log)
    (later : ReadsLive events)
    (live : ∀ handle, .read handle ∈ events → HandleEvent.release handle ∉ log) :
    ReadsLive (log ++ events) := by
  refine List.pairwise_append.mpr ⟨reads, later, ?_⟩
  rintro first member event reading handle rfl rfl
  exact live handle reading member

theorem readsLive_silent {events : List HandleEvent} (silent : ∀ handle, .read handle ∉ events) :
    ReadsLive events := by
  refine List.pairwise_of_forall_mem_list ?_
  rintro first _ later member handle _ rfl
  exact silent handle member

theorem Released.mono {handle : Nat} (released : s.Released handle) {events : List HandleEvent}
    (log : t.log = s.log ++ events) : t.Released handle := by
  rw [Released, log]
  exact List.mem_append_left _ released

/-- A step that makes the next handle puts at most that one in a place. -/
theorem Kept.made (kept : s.Kept leaks) (next : t.nextHandle = s.nextHandle + 1)
    (places : ∀ handle, t.places leaks handle ≤
      s.places leaks handle + if handle = s.nextHandle then 1 else 0) :
    (∀ handle, t.places leaks handle ≤ 1) ∧
      ∀ handle, t.nextHandle ≤ handle → t.places leaks handle = 0 := by
  constructor
  · intro handle
    have bound := places handle
    have old := kept.once handle
    split at bound
    · rename_i new
      have none_before := kept.fresh handle (by omega)
      omega
    · omega
  · intro handle beyond
    have bound := places handle
    rw [if_neg (by omega), kept.fresh handle (by omega)] at bound
    omega

/-- A call that reads no handle, and releases or accepts the one it makes. -/
theorem Kept.called (kept : s.Kept leaks) {events : List HandleEvent} (log : t.log = s.log ++ events)
    (silent : ∀ handle, .read handle ∉ events) (next : t.nextHandle = s.nextHandle + 1)
    (queued : t.queued = s.queued) (raised : t.raised = s.raised)
    (places : ∀ handle, t.places leaks handle ≤
      s.places leaks handle + if handle = s.nextHandle then 1 else 0)
    (failed : ∀ handle ∈ t.failed, handle ∈ s.failed ∨ t.Released handle) : t.Kept leaks := by
  have within := kept.made next places
  refine ⟨within.1, within.2, ?_, ?_, ?_, raised ▸ kept.forgotten⟩
  · rw [log]
    exact kept.reads.append (readsLive_silent silent) fun handle reading => absurd reading (silent handle)
  · intro handle member
    rcases failed handle member with earlier | released
    · exact (kept.failed handle earlier).mono log
    · exact released
  · intro handle member
    rw [queued]
    rcases kept.raised handle (raised ▸ member) with released | waiting
    · exact Or.inl (released.mono log)
    · exact Or.inr waiting

theorem count_made {msgOpaque : Option Nat} {next : Nat} (made : ∀ handle ∈ msgOpaque, handle = next)
    (handle : Nat) : msgOpaque.toList.count handle ≤ if handle = next then 1 else 0 := by
  cases msgOpaque with
  | none => simp
  | some only =>
    cases made only rfl
    by_cases same : handle = next
    · simp [same]
    · simp [same, Ne.symm same]

theorem count_allocate (handles : List Nat) (handle : Nat) :
    (handles.map HandleEvent.allocate).count (.release handle) = 0 := by
  simp [List.count_eq_zero]

theorem count_release (handles : List Nat) (handle : Nat) :
    (handles.map HandleEvent.release).count (.release handle) = handles.count handle :=
  List.count_map_of_injective handles _ (fun _ _ same => HandleEvent.release.inj same) handle

theorem Kept.produce (kept : s.Kept leaks) {c : ProduceContext} {info : List JsValue}
    (named : (ProduceContext.argument info 0).isString = true) :
    (s.produce (c.nodeProduce info s.nextHandle)).Kept leaks := by
  cases ran : c.nodeProduce info s.nextHandle with
  | error message => exact kept
  | ok produced =>
    obtain ⟨msgOpaque, made, allocated, accepted, refused⟩ := ProduceContext.nodeProduce_handles named ran
    by_cases success : produced.errorCode = ErrorCode.errNoError
    · obtain ⟨events, handed⟩ := accepted success
      have after : s.produce (.ok produced) = { s with
          nextHandle := s.nextHandle + 1, log := s.log ++ msgOpaque.toList.map .allocate
          inFlight := s.inFlight ++ [msgOpaque] } := by
        simp [OpaqueHandles.produce, success, events, handed]
      rw [after]
      refine kept.called rfl (by simp) rfl rfl rfl (fun handle => ?_) fun handle member => Or.inl member
      have single := count_made made handle
      simp only [OpaqueHandles.places, OpaqueHandles.queued, List.reduceOption_append,
        List.reduceOption_singleton, List.count_append, count_allocate]
      omega
    · have after : s.produce (.ok produced) = { s with
          nextHandle := s.nextHandle + 1
          log := s.log ++ (msgOpaque.toList.map .allocate ++ msgOpaque.toList.map .release)
          failed := s.failed ++ msgOpaque.toList } := by
        simp [OpaqueHandles.produce, success, refused success, allocated]
      rw [after]
      refine kept.called rfl (by simp) rfl rfl rfl ?_ ?_
      · intro handle
        have single := count_made made handle
        simp only [OpaqueHandles.places, OpaqueHandles.queued, List.count_append, count_allocate, count_release]
        omega
      · intro handle member
        rcases List.mem_append.mp member with earlier | new
        · exact Or.inl earlier
        · simp only [Released, List.mem_append, List.mem_map]
          exact Or.inr (Or.inr (Or.inr ⟨handle, new, rfl⟩))

/-- A report of a message with an opaque joins the queue, or is lost when no
callback is registered. -/
theorem drCb_queued (s : OpaqueHandles) (index : Nat) (message : Message) :
    ((s.delivery.drCb message).held ++ (s.delivery.drCb message).events).filterMap (·.opaqueHandle) ++
      s.leaked (.report index message) = s.queued ++ message.msgOpaque.toList := by
  rw [DeliveryState.drCb_held]
  by_cases registered : s.delivery.dispatcher.hasCallbacks
  · have events : (s.delivery.drCb message).events =
        s.delivery.events ++ [.ofMessage message s.delivery.drMsgCb] := by
      by_cases first : s.delivery.events = [] <;> simp [DeliveryState.drCb, registered, first, DeliveryState.add]
    have own : [DeliveryReport.ofMessage message s.delivery.drMsgCb].filterMap (·.opaqueHandle) =
        message.msgOpaque.toList := by
      cases opaque_eq : message.msgOpaque <;> simp [DeliveryReport.ofMessage, opaque_eq]
    rw [events, ← List.append_assoc, List.filterMap_append, own, leaked, if_pos registered, List.append_nil]
    rfl
  · have unchanged : s.delivery.drCb message = s.delivery := by simp [DeliveryState.drCb, registered]
    rw [unchanged, leaked, if_neg registered]
    rfl

/-- A report moves its handle from librdkafka to the queue, or leaves it behind. -/
theorem Kept.report (kept : s.Kept leaks) {index : Nat} {message : Message}
    (found : s.inFlight[index]? = some message.msgOpaque) :
    Kept { s with
      delivery := s.delivery.drCb message
      inFlight := s.inFlight.eraseIdx index
      raised := s.raised ++ message.msgOpaque.toList } (leaks ++ s.leaked (.report index message)) := by
  have moved := s.drCb_queued index message
  have places : ∀ handle, OpaqueHandles.places { s with
      delivery := s.delivery.drCb message
      inFlight := s.inFlight.eraseIdx index
      raised := s.raised ++ message.msgOpaque.toList } (leaks ++ s.leaked (.report index message)) handle =
      s.places leaks handle := by
    intro handle
    have counts := congrArg (List.count handle) moved
    have taken := Lists.reduceOption_eraseIdx found handle
    rw [List.count_append, List.count_append] at counts
    simp only [OpaqueHandles.places, List.count_append, OpaqueHandles.queued] at counts ⊢
    omega
  refine ⟨?_, ?_, kept.reads, kept.failed, ?_, ?_⟩
  · intro handle
    rw [places]
    exact kept.once handle
  · intro handle beyond
    rw [places]
    exact kept.fresh handle beyond
  · intro handle member
    have waits : handle ∈ s.queued ++ message.msgOpaque.toList →
        handle ∈ ((s.delivery.drCb message).held ++ (s.delivery.drCb message).events).filterMap
          (·.opaqueHandle) ∨ handle ∈ leaks ++ s.leaked (.report index message) := by
      intro waiting
      rcases List.mem_append.mp (moved.symm ▸ waiting) with queued | left
      · exact Or.inl queued
      · exact Or.inr (List.mem_append_right _ left)
    rcases List.mem_append.mp member with earlier | own
    · rcases kept.raised handle earlier with released | queued | left
      · exact Or.inl released
      · exact Or.inr (waits (List.mem_append_left _ queued))
      · exact Or.inr (Or.inr (List.mem_append_left _ left))
    · exact Or.inr (waits (List.mem_append_right _ own))
  · intro handle member
    rcases List.mem_append.mp member with earlier | left
    · exact List.mem_append_left _ (kept.forgotten handle earlier)
    · refine List.mem_append_right _ ?_
      by_cases registered : s.delivery.dispatcher.hasCallbacks
      · simp [leaked, registered] at left
      · simpa [leaked, registered] using left

theorem flushed_release (report : DeliveryReport) (handle : Nat) :
    (flushed report).count (.release handle) = report.opaqueHandle.toList.count handle := by
  unfold flushed
  cases report.opaqueHandle <;> simp [List.count_cons]

theorem read_mem_flushed {report : DeliveryReport} {handle : Nat} :
    .read handle ∈ flushed report ↔ handle ∈ report.opaqueHandle.toList := by
  unfold flushed
  cases report.opaqueHandle <;> simp

theorem flushed_reads (report : DeliveryReport) : ReadsLive (flushed report) := by
  unfold flushed
  cases report.opaqueHandle <;> simp [ReadsLive]

/-- A handle in a place has not been released. -/
theorem Kept.unreleased (kept : s.Kept leaks) {handle : Nat}
    (waits : 0 < s.inFlight.reduceOption.count handle + s.queued.count handle + leaks.count handle) :
    ¬ s.Released handle := by
  intro released
  have counted := List.count_pos_iff.mpr released
  have once := kept.once handle
  unfold OpaqueHandles.places at once
  omega

/-- Flush reads the handle of the next report, releases it and dispatches the report. -/
theorem Kept.dispatch (kept : s.Kept leaks) {delivery : DeliveryState} {report : DeliveryReport}
    {rest : List DeliveryReport} (held : s.delivery.held = report :: rest) (left : delivery.held = rest)
    (events : delivery.events = s.delivery.events) :
    Kept { s with delivery, log := s.log ++ flushed report } leaks := by
  have queued : s.queued = report.opaqueHandle.toList ++
      (delivery.held ++ delivery.events).filterMap (·.opaqueHandle) := by
    rw [OpaqueHandles.queued, held, events, left]
    cases opaque_eq : report.opaqueHandle <;> simp [opaque_eq]
  have places : ∀ handle, OpaqueHandles.places { s with delivery, log := s.log ++ flushed report } leaks handle =
      s.places leaks handle := by
    intro handle
    have released := flushed_release report handle
    have counts := congrArg (List.count handle) queued
    rw [List.count_append] at counts
    simp only [OpaqueHandles.places, List.count_append, released] at counts ⊢
    simp only [OpaqueHandles.queued] at counts ⊢
    omega
  refine ⟨?_, ?_, ?_, ?_, ?_, kept.forgotten⟩
  · intro handle
    rw [places]
    exact kept.once handle
  · intro handle beyond
    rw [places]
    exact kept.fresh handle beyond
  · refine kept.reads.append (flushed_reads report) ?_
    intro handle reading
    have waiting : handle ∈ s.queued := queued ▸ List.mem_append_left _ (read_mem_flushed.mp reading)
    have counted := List.count_pos_iff.mpr waiting
    exact kept.unreleased (by omega)
  · exact fun handle member => (kept.failed handle member).mono rfl
  · intro handle member
    rcases kept.raised handle member with released | waiting | forgotten
    · exact Or.inl (released.mono rfl)
    · rw [queued] at waiting
      rcases List.mem_append.mp waiting with own | later
      · have counted := List.count_pos_iff.mpr own
        rw [← flushed_release report handle] at counted
        exact Or.inl (List.mem_append_right _ (List.count_pos_iff.mp counted))
      · exact Or.inr (Or.inl later)
    · exact Or.inr (Or.inr forgotten)

theorem findsCallback_iff (s : OpaqueHandles) (action : OpaqueAction) :
    s.FindsCallback action ↔ s.leaked action = [] := by
  cases action with
  | report index message =>
    by_cases registered : s.delivery.dispatcher.hasCallbacks <;> cases opaque_eq : message.msgOpaque <;>
      simp [FindsCallback, leaked, registered, opaque_eq]
  | _ => simp [FindsCallback, leaked]

theorem Kept.deliveryStep (kept : s.Kept leaks) {action : DeliveryAction}
    (run : s.step (.delivery action) = some t) : t.Kept leaks := by
  by_cases silent : ∃ message, action = .drCb message
  · obtain ⟨message, rfl⟩ := silent
    cases run
  by_cases dispatches : action = .dispatch
  · subst dispatches
    obtain ⟨delivery, stepped, rfl⟩ := Option.map_eq_some_iff.mp run
    obtain ⟨report, rest, held, left, events⟩ := DeliveryState.dispatch_waiting stepped
    have dispatched := kept.dispatch held left events
    simpa [flushEvents, held] using dispatched
  · have untouched : s.flushEvents action = [] := by
      cases action <;> first | rfl | exact absurd rfl dispatches
    have stepped : s.step (.delivery action) = (s.delivery.step action).map fun delivery =>
        { s with delivery, log := s.log ++ s.flushEvents action } := by
      cases action <;> first | rfl | exact absurd ⟨_, rfl⟩ silent
    rw [stepped, untouched, List.append_nil] at run
    obtain ⟨delivery, stepped, rfl⟩ := Option.map_eq_some_iff.mp run
    have waiting := DeliveryState.step_waiting stepped (fun message same => silent ⟨message, same⟩) dispatches
    have queued : OpaqueHandles.queued { s with delivery } = s.queued :=
      congrArg (List.filterMap DeliveryReport.opaqueHandle) waiting
    have places : ∀ handle, OpaqueHandles.places { s with delivery } leaks handle = s.places leaks handle := by
      intro handle
      rw [OpaqueHandles.places, queued]
      rfl
    refine ⟨fun handle => places handle ▸ kept.once handle,
      fun handle beyond => places handle ▸ kept.fresh handle beyond, kept.reads, kept.failed, ?_,
      kept.forgotten⟩
    intro handle member
    rw [queued]
    exact kept.raised handle member

theorem Kept.step (kept : s.Kept leaks) {action : OpaqueAction} (run : s.step action = some t) :
    t.Kept (leaks ++ s.leaked action) := by
  cases action with
  | produce context info =>
    simp only [OpaqueHandles.step, Option.ite_none_right_eq_some, Option.some.injEq] at run
    obtain ⟨named, rfl⟩ := run
    simpa [leaked] using kept.produce named
  | report index message =>
    simp only [OpaqueHandles.step, Option.ite_none_right_eq_some, Option.some.injEq] at run
    obtain ⟨found, rfl⟩ := run
    exact kept.report found
  | delivery action => simpa [leaked] using kept.deliveryStep run

def created (drMsgCb : Bool) : OpaqueHandles := { delivery := { drMsgCb } }

theorem created_kept (drMsgCb : Bool) : (created drMsgCb).Kept [] := by
  refine ⟨?_, ?_, .nil, ?_, ?_, ?_⟩ <;>
    simp [created, OpaqueHandles.places, OpaqueHandles.queued, DeliveryState.held]

/-- What a run has forgotten is nothing exactly when each report with an opaque
found a callback. -/
theorem kept_run {drMsgCb : Bool} {trace : List OpaqueAction}
    (reach : Reach step (created drMsgCb) trace s) :
    ∃ leaks, s.Kept leaks ∧ (leaks = [] ↔ ReachWhile FindsCallback step (created drMsgCb) trace s) :=
  reach.ghost_iff_while Kept leaked (created_kept drMsgCb) findsCallback_iff fun kept run => kept.step run

end OpaqueHandles

/-- Each handle is released at most once, not read after that, and released
when its call has failed. Once the queue is drained the handles of all raised
reports are released if and only if each report with an opaque was raised while
a delivery callback was registered. -/
theorem handles_released_iff {drMsgCb : Bool} {trace : List OpaqueAction} {s : OpaqueHandles}
    (reach : Reach OpaqueHandles.step (OpaqueHandles.created drMsgCb) trace s) :
    (∀ handle, s.log.count (.release handle) ≤ 1) ∧ OpaqueHandles.ReadsLive s.log ∧
      (∀ handle ∈ s.failed, s.Released handle) ∧
      (s.Drained → ((∀ handle ∈ s.raised, s.Released handle) ↔
        ReachWhile OpaqueHandles.FindsCallback OpaqueHandles.step (OpaqueHandles.created drMsgCb) trace s)) := by
  obtain ⟨leaks, kept, found⟩ := OpaqueHandles.kept_run reach
  refine ⟨?_, kept.reads, kept.failed, ?_⟩
  · intro handle
    have once := kept.once handle
    unfold OpaqueHandles.places at once
    omega
  · rintro ⟨events, held⟩
    have queued : s.queued = [] := by simp [OpaqueHandles.queued, events, held]
    rw [← found]
    constructor
    · intro released
      refine List.eq_nil_iff_forall_not_mem.mpr fun handle member => ?_
      have counted := List.count_pos_iff.mpr member
      exact kept.unreleased (by omega) (released handle (kept.forgotten handle member))
    · rintro rfl handle member
      rcases kept.raised handle member with released | waiting | forgotten
      · exact released
      · simp [queued] at waiting
      · cases forgotten

def opaqueArguments : List JsValue := [.string "t", .null, .buffer [1], .null, .null, .string "context"]

/-- The report of the accepted message that carries the handle. -/
def opaqueReport (handle : Nat) : Message where
  err := ErrorCode.errNoError
  topicName := "t"
  partition := 0
  offset := 0
  msgOpaque := some handle

/-- A message is refused, another one accepted, reported and dispatched. -/
def reportedRun : List OpaqueAction :=
  [.delivery .activate, .delivery (.addCallback 7),
   .produce { acceptingContext with librdkafka := fun _ => ErrorCode.errQueueFull } opaqueArguments,
   .produce acceptingContext opaqueArguments, .report 0 (opaqueReport 1), .delivery .execute,
   .delivery .asyncMessage, .delivery .take, .delivery .dispatch, .delivery .finish]

theorem handles_released_reported :
    ∃ s, ReachWhile OpaqueHandles.FindsCallback OpaqueHandles.step (OpaqueHandles.created false)
        reportedRun s ∧
      s.log = [.allocate 0, .release 0, .allocate 1, .read 1, .release 1] ∧ s.raised = [1] ∧
      ∀ handle ∈ s.raised, s.Released handle := by
  obtain ⟨s, run, log, raised, events, held⟩ : ∃ s,
      replayWhile OpaqueHandles.FindsCallback OpaqueHandles.step (OpaqueHandles.created false)
        reportedRun = some s ∧
      s.log = [.allocate 0, .release 0, .allocate 1, .read 1, .release 1] ∧ s.raised = [1] ∧
      s.delivery.events = [] ∧ s.delivery.held = [] := ⟨_, rfl, rfl, rfl, rfl, rfl⟩
  have reach := ReachWhile.of_replayWhile run
  exact ⟨s, reach, log, raised, ((handles_released_iff reach.reach).2.2.2 ⟨events, held⟩).mpr reach⟩

/-- A report that is raised while no delivery callback is registered leaves its
handle behind. -/
theorem handle_leaked :
    ∃ s, Reach OpaqueHandles.step (OpaqueHandles.created false)
        [.produce acceptingContext opaqueArguments, .report 0 (opaqueReport 0)] s ∧
      s.Drained ∧ s.inFlight = [] ∧ s.raised = [0] ∧ s.log = [.allocate 0] ∧
      ¬ ∀ handle ∈ s.raised, s.Released handle := by
  refine ⟨_, reach_iff_replay.mpr rfl, ⟨rfl, rfl⟩, rfl, rfl, rfl, ?_⟩
  intro released
  exact absurd (released 0 (by decide)) (by unfold OpaqueHandles.Released; decide)

end NodeRdkafka

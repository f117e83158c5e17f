import NodeRdkafka.Dispatcher
import NodeRdkafka.Lib.Reach
import NodeRdkafka.Message

namespace NodeRdkafka
open Transition

/-- The types of an RdKafka::Event. -/
inductive EventType
  | error
  | stats
  | log
  | throttle
  | other (code : Int)
  deriving DecidableEq

/-- An RdKafka::Event, by its accessors. -/
structure RdEvent where
  type : EventType
  err : ErrorCode
  fatal : Bool
  severity : Int
  fac : String
  str : String
  throttleTime : Int
  brokerName : String
  brokerId : Int

/-- The members that event_t sets for one type only. -/
inductive EventDetail
  | error (err : ErrorCode) (fatal : Bool)
  | stats
  | log (severity : Int) (fac : String)
  | throttle (throttleTime : Int) (brokerName : String) (brokerId : Int)
  | other (code : Int)
  deriving DecidableEq

/-- An event_t. -/
structure EventT where
  message : String
  detail : EventDetail
  deriving DecidableEq

namespace EventT

/-- The constructor. -/
def ofEvent (err2str : ErrorCode → String) (event : RdEvent) : EventT :=
  match event.type with
  | .error => { message := err2str event.err, detail := .error event.err event.fatal }
  | .stats => { message := event.str, detail := .stats }
  | .log => { message := event.str, detail := .log event.severity event.fac }
  | .throttle =>
    { message := err2str event.err, detail := .throttle event.throttleTime event.brokerName event.brokerId }
  | .other code => { message := event.str, detail := .other code }

/-- What Flush dispatches for an event, with the text that it has read. -/
def argv (e : EventT) (message : String) : String × JsValue :=
  match e.detail with
  | .error err fatal =>
    ("error", .error (cString message) [("code", nanNumber err), ("isFatal", .boolean fatal)])
  | .stats => ("stats", .object [("message", .string (cString message))])
  | .log severity fac =>
    ("log", .object [("severity", nanNumber severity), ("fac", .string (cString fac)),
      ("message", .string (cString message))])
  | .throttle throttleTime brokerName brokerId =>
    ("throttle", .object [("message", .string (cString message)), ("throttleTime", nanNumber throttleTime),
      ("brokerName", .string brokerName), ("brokerId", nanNumber brokerId)])
  | .other _ => ("event", .object [("message", .string (cString message))])

/-- The text that Flush reads for its event `i`. The default branch reads the
shared vector, where none is a read outside its bounds. -/
def read (e : EventT) (events : List EventT) (i : Nat) : Option String :=
  match e.detail with
  | .other _ => events[i]?.map (·.message)
  | _ => some e.message

end EventT

/-- Where the main thread stands in EventDispatcher::Flush. -/
inductive EventFlush
  | idle
  | entered
  | swapping
  | dispatching (remaining : List EventT) (i : Nat)
  deriving DecidableEq

/-- An Event with its dispatcher. `owedExecutes` counts the event_cb calls
between Add and Execute. The last three fields record what happened:
`argvs` holds what each dispatched event was dispatched with, none after a
read outside the bounds. -/
structure EventState where
  dispatcher : Dispatcher := {}
  events : List EventT := []
  owedExecutes : Nat := 0
  wakeup : Bool := false
  flush : EventFlush := .idle
  added : List EventT := []
  dispatched : List EventT := []
  argvs : List (Option (String × JsValue)) := []

inductive EventAction
  | eventCb (event : RdEvent)
  | execute
  | asyncMessage
  | check
  | swap
  | dispatch
  | finish
  | activate
  | deactivate
  | addCallback (cb : JsFunction)
  | removeCallback (cb : JsFunction)

namespace EventState
variable (err2str : ErrorCode → String)

def add (s : EventState) (e : EventT) : EventState :=
  { s with events := s.events ++ [e], added := s.added ++ [e] }

/-- Event::event_cb up to the Execute call, which is a step of its own. -/
def eventCb (s : EventState) (event : RdEvent) : EventState :=
  if s.dispatcher.hasCallbacks then
    { s.add (.ofEvent err2str event) with owedExecutes := s.owedExecutes + 1 }
  else s

/-- The interleavings of the librdkafka threads with Flush on the main thread.
A dispatched callback may poll, so event_cb occurs at any point of Flush. -/
def step (s : EventState) : EventAction → Option EventState
  | .eventCb event => some (s.eventCb err2str event)
  | .execute =>
    if 0 < s.owedExecutes then
      some { s with wakeup := s.wakeup || s.dispatcher.async, owedExecutes := s.owedExecutes - 1 }
    else none
  | .asyncMessage =>
    if s.wakeup ∧ s.flush = .idle then some { s with wakeup := false, flush := .entered } else none
  | .check =>
    if s.flush = .entered then
      some { s with flush := if s.events.length < 1 then .idle else .swapping }
    else none
  | .swap =>
    if s.flush = .swapping then some { s with events := [], flush := .dispatching s.events 0 } else none
  | .dispatch =>
    match s.flush with
    | .dispatching (e :: remaining) i =>
      some { s with flush := .dispatching remaining (i + 1), dispatched := s.dispatched ++ [e],
                    argvs := s.argvs ++ [(e.read s.events i).map e.argv] }
    | _ => none
  | .finish =>
    match s.flush with
    | .dispatching [] _ => some { s with flush := .idle }
    | _ => none
  | .activate => some { s with dispatcher := s.dispatcher.activate }
  | .deactivate =>
    if s.flush = .idle then some { s with dispatcher := s.dispatcher.deactivate, wakeup := false }
    else none
  | .addCallback cb => some { s with dispatcher := s.dispatcher.addCallback cb }
  | .removeCallback cb => some { s with dispatcher := s.dispatcher.removeCallback cb }

/-- The events taken by the running Flush and not yet dispatched. -/
def held (s : EventState) : List EventT :=
  match s.flush with
  | .dispatching remaining _ => remaining
  | _ => []

/-- The events are dispatched as they were added, in order and each once, and
each with its own text and members. -/
structure Delivered (s : EventState) : Prop where
  inOrder : s.dispatched ++ s.held ++ s.events = s.added
  own : s.argvs = s.dispatched.map fun e => some (e.argv e.message)

/-- The event that is dispatched next is of one of the four types with a
branch of its own, or finds its own text at its index in the shared vector. -/
def ReadsOwn (s : EventState) : EventAction → Prop
  | .dispatch => ∀ e remaining i, s.flush = .dispatching (e :: remaining) i →
      (∀ code, e.detail ≠ .other code) ∨ ∃ other, s.events[i]? = some other ∧ cString other.message = cString e.message
  | _ => True

variable {err2str : ErrorCode → String} {s t : EventState} {action : EventAction}

/-- Whatever the interleaving, the events keep their order, and none is lost or repeated. -/
theorem inOrder_step (ordered : s.dispatched ++ s.held ++ s.events = s.added)
    (run : s.step err2str action = some t) : t.dispatched ++ t.held ++ t.events = t.added := by
  cases action with
  | eventCb event =>
    cases Option.some.inj run
    unfold eventCb
    split
    · simp only [add, held, ← ordered, List.append_assoc]
    · exact ordered
  | execute =>
    simp only [step, Option.ite_none_right_eq_some, Option.some.injEq] at run
    obtain ⟨_, rfl⟩ := run
    exact ordered
  | asyncMessage =>
    simp only [step, Option.ite_none_right_eq_some, Option.some.injEq] at run
    obtain ⟨⟨_, idle⟩, rfl⟩ := run
    simpa [held, idle] using ordered
  | check =>
    simp only [step, Option.ite_none_right_eq_some, Option.some.injEq] at run
    obtain ⟨entered, rfl⟩ := run
    split <;> simpa [held, entered] using ordered
  | swap =>
    simp only [step, Option.ite_none_right_eq_some, Option.some.injEq] at run
    obtain ⟨swapping, rfl⟩ := run
    simpa [held, swapping] using ordered
  | dispatch =>
    simp only [step] at run
    split at run
    · rename_i e remaining i dispatching
      cases Option.some.inj run
      simpa [held, dispatching] using ordered
    · cases run
  | finish =>
    simp only [step] at run
    split at run
    · rename_i i dispatching
      cases Option.some.inj run
      simpa [held, dispatching] using ordered
    · cases run
  | deactivate =>
    simp only [step, Option.ite_none_right_eq_some, Option.some.injEq] at run
    obtain ⟨_, rfl⟩ := run
    exact ordered
  | activate | addCallback cb | removeCallback cb =>
    cases Option.some.inj run
    exact ordered

/-- Only a dispatch adds to what was dispatched. -/
theorem dispatched_step (other : action ≠ .dispatch) (run : s.step err2str action = some t) :
    t.dispatched = s.dispatched ∧ t.argvs = s.argvs := by
  cases action with
  | eventCb event =>
    cases Option.some.inj run
    unfold eventCb
    split <;> exact ⟨rfl, rfl⟩
  | execute | asyncMessage | check | swap | deactivate =>
    simp only [step, Option.ite_none_right_eq_some, Option.some.injEq] at run
    obtain ⟨_, rfl⟩ := run
    exact ⟨rfl, rfl⟩
  | dispatch => exact absurd rfl other
  | finish =>
    simp only [step] at run
    split at run
    · cases Option.some.inj run
      exact ⟨rfl, rfl⟩
    · cases run
  | activate | addCallback cb | removeCallback cb =>
    cases Option.some.inj run
    exact ⟨rfl, rfl⟩

/-- An event is dispatched as its own if and only if Flush reads its own text. -/
theorem read_own_iff (e : EventT) (events : List EventT) (i : Nat) :
    (e.read events i).map e.argv = some (e.argv e.message) ↔
      (∀ code, e.detail ≠ .other code) ∨
        ∃ other, events[i]? = some other ∧ cString other.message = cString e.message := by
  obtain ⟨message, detail⟩ := e
  cases detail with
  | other code =>
    have missing : ¬ ∀ code', EventDetail.other code ≠ .other code' := fun all => all code rfl
    rw [or_iff_right missing]
    cases read : events[i]? <;> simp [EventT.read, EventT.argv, read]
  | _ => simp [EventT.read]

theorem own_step (run : s.step err2str action = some t) :
    (t.argvs = t.dispatched.map fun e => some (e.argv e.message)) ↔
      (s.argvs = s.dispatched.map fun e => some (e.argv e.message)) ∧ s.ReadsOwn action := by
  by_cases dispatch : action = .dispatch
  · subst dispatch
    simp only [step] at run
    split at run
    · rename_i e remaining i dispatching
      cases Option.some.inj run
      have reads : s.ReadsOwn .dispatch ↔ (∀ code, e.detail ≠ .other code) ∨
          ∃ other, s.events[i]? = some other ∧ cString other.message = cString e.message := by
        simp only [ReadsOwn, dispatching]
        constructor
        · exact fun all => all e remaining i rfl
        · intro own _ _ _ same
          cases same
          exact own
      rw [reads, ← read_own_iff, List.map_append, List.map_singleton]
      constructor
      · intro same
        obtain ⟨earlier, last⟩ := List.append_inj' same rfl
        exact ⟨earlier, List.singleton_inj.mp last⟩
      · rintro ⟨earlier, last⟩
        rw [earlier, last]
    · cases run
  · obtain ⟨dispatched, argvs⟩ := dispatched_step dispatch run
    have unread : s.ReadsOwn action := by
      cases action with
      | dispatch => exact absurd rfl dispatch
      | _ => trivial
    rw [dispatched, argvs]
    exact (and_iff_left unread).symm

end EventState

/-- The events are dispatched in order, each once, as themselves and without a
read outside the bounds, in all runs in which no dispatch meets an event of
another type without its own text at its index in the shared vector, and in no
other. -/
theorem events_delivered_iff {err2str : ErrorCode → String} {trace : List EventAction} {s : EventState}
    (reach : Reach (EventState.step err2str) {} trace s) :
    s.Delivered ↔ ReachWhile EventState.ReadsOwn (EventState.step err2str) {} trace s := by
  have both := reach.good_iff_while (fun s => s.dispatched ++ s.held ++ s.events = s.added)
    (fun s => s.argvs = s.dispatched.map fun e => some (e.argv e.message)) rfl rfl
    (fun ordered run => ⟨EventState.inOrder_step ordered run, EventState.own_step run⟩)
  obtain ⟨ordered, own⟩ := both
  rw [← own]
  exact ⟨fun delivered => delivered.own, fun argvs => ⟨ordered, argvs⟩⟩

/-- An event with a text only. -/
def textEvent (type : EventType) (str : String) : RdEvent :=
  { type, err := ErrorCode.errNoError, fatal := false, severity := 0, fac := "", str, throttleTime := 0,
    brokerName := "", brokerId := 0 }

/-- One event that comes in while the callback of another one runs. -/
def statsActions (type : EventType) : List EventAction :=
  [.activate, .addCallback 0, .eventCb (textEvent type "first"), .execute, .asyncMessage, .check, .swap,
   .eventCb (textEvent .stats "second"), .dispatch, .finish]

theorem events_delivered_stats :
    ∃ s, ReachWhile EventState.ReadsOwn (EventState.step fun _ => "") {} (statsActions .stats) s ∧
      s.Delivered ∧ s.dispatched.map (·.message) = ["first"] := by
  obtain ⟨s, reach, delivered, dispatched⟩ : ∃ s, Reach (EventState.step fun _ => "") {} (statsActions .stats) s ∧
      s.Delivered ∧ s.dispatched.map (·.message) = ["first"] :=
    ⟨_, reach_iff_replay.mpr rfl, ⟨rfl, rfl⟩, rfl⟩
  exact ⟨s, (events_delivered_iff reach).mp delivered, delivered, dispatched⟩

/-- The same run with an event of another type: it is dispatched with the text
of the event that came in after it. With none in between, the vector is read
outside its bounds. -/
theorem other_event_misread :
    (∃ s, Reach (EventState.step fun _ => "") {} (statsActions (.other 9)) s ∧
      s.dispatched.map (·.message) = ["first"] ∧
      s.argvs = [some ("event", .object [("message", .string "second")])]) ∧
    ∃ s, Reach (EventState.step fun _ => "") {}
        [.activate, .addCallback 0, .eventCb (textEvent (.other 9) "first"), .execute, .asyncMessage, .check,
         .swap, .dispatch] s ∧ s.argvs = [none] ∧ ¬ s.Delivered := by
  refine ⟨⟨_, reach_iff_replay.mpr rfl, rfl, rfl⟩, ⟨_, reach_iff_replay.mpr rfl, rfl, fun delivered => ?_⟩⟩
  have own := delivered.own
  cases own

end NodeRdkafka

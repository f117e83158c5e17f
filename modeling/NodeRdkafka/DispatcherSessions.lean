import NodeRdkafka.Dispatcher
import NodeRdkafka.Lib.Reach

namespace NodeRdkafka
open Transition
variable {ε : Type}

/-- Where the main thread stands in Flush. -/
inductive QueueFlush (ε : Type)
  | idle
  | entered
  | swapping
  | dispatching (remaining : List (Nat × ε))

/-- A dispatched event, with the sessions that it was raised and dispatched in, and the
callbacks that it was dispatched to. -/
structure DispatchedEvent (ε : Type) where
  raised : Nat
  session : Nat
  callbacks : List JsFunction
  event : ε

/-- A dispatcher with a vector of events: Add and Flush are the same for rebalances and
for offset commits. `owedExecutes` counts the threads between Add and Execute, `sessions`
the handles that Activate has made; an event is stored with the session that it was raised
in. `added` and `dispatched` record what happened. -/
structure QueueDispatcher (ε : Type) where
  dispatcher : Dispatcher := {}
  events : List (Nat × ε) := []
  owedExecutes : Nat := 0
  wakeup : Bool := false
  flush : QueueFlush ε := .idle
  sessions : Nat := 0
  added : List (Nat × ε) := []
  dispatched : List (DispatchedEvent ε) := []

inductive QueueAction (ε : Type)
  | raise (event : ε)
  | execute
  | asyncMessage
  | check
  | swap
  | dispatch
  | finish
  | activate
  | deactivate
  | addCallback (cb : JsFunction)
  | removeCallback (cb : JsFunction)

namespace QueueDispatcher

def add (s : QueueDispatcher ε) (event : ε) : QueueDispatcher ε :=
  { s with
    events := s.events ++ [(s.sessions, event)]
    added := s.added ++ [(s.sessions, event)] }

/-- The interleavings of the threads that raise events with Flush on the main thread, over
any number of connections. uv_close takes a wakeup with it. -/
def step (s : QueueDispatcher ε) : QueueAction ε → Option (QueueDispatcher ε)
  | .raise event => some { s.add event with owedExecutes := s.owedExecutes + 1 }
  | .execute =>
    if 0 < s.owedExecutes then
      some { s with wakeup := s.wakeup || s.dispatcher.async, owedExecutes := s.owedExecutes - 1 }
    else none
  | .asyncMessage =>
    match s.flush with
    | .idle => if s.wakeup then some { s with wakeup := false, flush := .entered } else none
    | _ => none
  | .check =>
    match s.flush with
    | .entered => some { s with flush := if s.events.length < 1 then .idle else .swapping }
    | _ => none
  | .swap =>
    match s.flush with
    | .swapping => some { s with events := [], flush := .dispatching s.events }
    | _ => none
  | .dispatch =>
    match s.flush with
    | .dispatching ((raised, event) :: remaining) =>
      some { s with
        flush := .dispatching remaining
        dispatched := s.dispatched ++
          [{ raised, session := s.sessions, callbacks := s.dispatcher.callbacks, event }] }
    | _ => none
  | .finish =>
    match s.flush with
    | .dispatching [] => some { s with flush := .idle }
    | _ => none
  | .activate =>
    match s.flush with
    | .idle =>
      if s.dispatcher.async then some s
      else some { s with dispatcher := s.dispatcher.activate, sessions := s.sessions + 1 }
    | _ => none
  | .deactivate =>
    match s.flush with
    | .idle => some { s with dispatcher := s.dispatcher.deactivate, wakeup := false }
    | _ => none
  | .addCallback cb => some { s with dispatcher := s.dispatcher.addCallback cb }
  | .removeCallback cb => some { s with dispatcher := s.dispatcher.removeCallback cb }

/-- The events taken by the running Flush and not yet dispatched. -/
def held (s : QueueDispatcher ε) : List (Nat × ε) :=
  match s.flush with
  | .dispatching remaining => remaining
  | _ => []

/-- The events dispatched, as they were added. -/
def delivered (s : QueueDispatcher ε) : List (Nat × ε) := s.dispatched.map fun d => (d.raised, d.event)

/-- No thread is between Add and Execute, no wakeup is on its way and no Flush runs. -/
structure Quiet (s : QueueDispatcher ε) : Prop where
  executes : s.owedExecutes = 0
  wakeup : s.wakeup = false
  flush : s.flush = .idle

/-- Every event is dispatched in the session that it was raised in, or may yet be. -/
def OwnSessions (s : QueueDispatcher ε) : Prop :=
  (∀ d ∈ s.dispatched, d.raised = d.session) ∧ ∀ e ∈ s.held ++ s.events, e.1 = s.sessions

/-- An Activate that makes a handle finds no event. -/
def FindsNone (s : QueueDispatcher ε) : QueueAction ε → Prop
  | .activate => s.dispatcher.async = false → s.events = []
  | _ => True

/-- An event was raised in the session that lasts. -/
def HasRaised (s : QueueDispatcher ε) : Prop := ∃ e ∈ s.added, e.1 = s.sessions

/-- What every run keeps: the order, and in a session that has had an event a Flush is due
as long as events wait. -/
structure Kept (s : QueueDispatcher ε) : Prop where
  inOrder : s.delivered ++ (s.held ++ s.events) = s.added
  older : ∀ e ∈ s.added, e.1 ≤ s.sessions
  attended : s.dispatcher.async = true → s.HasRaised → s.events ≠ [] →
    0 < s.owedExecutes ∨ s.wakeup = true ∨ s.flush = .entered ∨ s.flush = .swapping

variable {s t : QueueDispatcher ε} {action : QueueAction ε}

theorem Kept.step (kept : s.Kept) (run : s.step action = some t) : t.Kept := by
  obtain ⟨inOrder, older, attended⟩ := kept
  cases action with
  | raise event =>
    cases Option.some.inj run
    refine ⟨?_, ?_, fun _ _ _ => Or.inl (Nat.succ_pos _)⟩
    · rw [QueueDispatcher.add, ← inOrder]
      simp [delivered, held]
    · intro e member
      rcases List.mem_append.mp member with before | last
      · exact older e before
      · rw [List.mem_singleton.mp last]
        exact Nat.le_refl s.sessions
  | execute =>
    simp only [QueueDispatcher.step, Option.ite_none_right_eq_some, Option.some.injEq] at run
    obtain ⟨owed, rfl⟩ := run
    refine ⟨inOrder, older, fun active _ _ => Or.inr (Or.inl ?_)⟩
    simp [show s.dispatcher.async = true from active]
  | asyncMessage =>
    simp only [QueueDispatcher.step] at run
    split at run
    · rename_i idle
      simp only [Option.ite_none_right_eq_some, Option.some.injEq] at run
      obtain ⟨_, rfl⟩ := run
      refine ⟨?_, older, fun _ _ _ => Or.inr (Or.inr (Or.inl rfl))⟩
      simpa [held, delivered, idle] using inOrder
    · cases run
  | check =>
    simp only [QueueDispatcher.step] at run
    split at run
    · rename_i entered
      cases Option.some.inj run
      refine ⟨?_, older, fun _ _ left => ?_⟩
      · by_cases empty : s.events.length < 1 <;> simpa [held, delivered, entered, empty] using inOrder
      · have waiting : 0 < s.events.length := List.length_pos_iff.mpr left
        exact Or.inr (Or.inr (Or.inr (if_neg (by omega))))
    · cases run
  | swap =>
    simp only [QueueDispatcher.step] at run
    split at run
    · rename_i swapping
      cases Option.some.inj run
      refine ⟨?_, older, fun _ _ left => absurd rfl left⟩
      simpa [held, delivered, swapping] using inOrder
    · cases run
  | dispatch =>
    simp only [QueueDispatcher.step] at run
    split at run
    · rename_i raised event remaining dispatching
      cases Option.some.inj run
      refine ⟨?_, older, fun active raised left => ?_⟩
      · simpa [held, delivered, dispatching] using inOrder
      · simpa [dispatching] using attended active raised left
    · cases run
  | finish =>
    simp only [QueueDispatcher.step] at run
    split at run
    · rename_i dispatching
      cases Option.some.inj run
      refine ⟨?_, older, fun active raised left => ?_⟩
      · simpa [held, delivered, dispatching] using inOrder
      · simpa [dispatching] using attended active raised left
    · cases run
  | activate =>
    simp only [QueueDispatcher.step] at run
    split at run
    · split at run
      · cases Option.some.inj run
        exact ⟨inOrder, older, attended⟩
      · cases Option.some.inj run
        refine ⟨inOrder, fun e member => Nat.le_succ_of_le (older e member), ?_⟩
        rintro _ ⟨e, member, (tag : e.1 = s.sessions + 1)⟩
        have before := older e member
        omega
    · cases run
  | deactivate =>
    simp only [QueueDispatcher.step] at run
    split at run
    · cases Option.some.inj run
      exact ⟨inOrder, older, fun active => by cases active⟩
    · cases run
  | addCallback cb | removeCallback cb =>
    cases Option.some.inj run
    exact ⟨inOrder, older, attended⟩

/-- Only an Activate makes an event one of an earlier session. -/
theorem step_ownSessions (kept : s.Kept) (run : s.step action = some t) :
    t.OwnSessions ↔ s.OwnSessions ∧ s.FindsNone action := by
  cases action with
  | raise event =>
    cases Option.some.inj run
    simp only [OwnSessions, FindsNone, and_true]
    refine and_congr_right fun _ => ?_
    simp only [held, QueueDispatcher.add, List.mem_append, List.mem_singleton]
    constructor
    · exact fun own e member => own e (member.imp_right Or.inl)
    · rintro own e (there | there | rfl)
      · exact own e (Or.inl there)
      · exact own e (Or.inr there)
      · rfl
  | execute =>
    simp only [QueueDispatcher.step, Option.ite_none_right_eq_some, Option.some.injEq] at run
    obtain ⟨owed, rfl⟩ := run
    simp [OwnSessions, FindsNone, held]
  | asyncMessage =>
    simp only [QueueDispatcher.step] at run
    split at run
    · rename_i idle
      simp only [Option.ite_none_right_eq_some, Option.some.injEq] at run
      obtain ⟨_, rfl⟩ := run
      simp [OwnSessions, FindsNone, held, idle]
    · cases run
  | check =>
    simp only [QueueDispatcher.step] at run
    split at run
    · rename_i entered
      cases Option.some.inj run
      by_cases empty : s.events.length < 1 <;> simp [OwnSessions, FindsNone, held, entered, empty]
    · cases run
  | swap =>
    simp only [QueueDispatcher.step] at run
    split at run
    · rename_i swapping
      cases Option.some.inj run
      simp [OwnSessions, FindsNone, held, swapping]
    · cases run
  | dispatch =>
    simp only [QueueDispatcher.step] at run
    split at run
    · rename_i raised event remaining dispatching
      cases Option.some.inj run
      simp only [OwnSessions, FindsNone, held, dispatching, and_true, List.mem_append, List.cons_append,
        List.mem_cons, List.not_mem_nil, or_imp, forall_and, forall_eq]
      tauto
    · cases run
  | finish =>
    simp only [QueueDispatcher.step] at run
    split at run
    · rename_i dispatching
      cases Option.some.inj run
      simp [OwnSessions, FindsNone, held, dispatching]
    · cases run
  | activate =>
    simp only [QueueDispatcher.step] at run
    split at run
    · rename_i idle
      split at run
      · rename_i active
        cases Option.some.inj run
        simp [FindsNone, active]
      · rename_i inactive
        cases Option.some.inj run
        have tags : ∀ e ∈ s.held ++ s.events, e.1 ≤ s.sessions := fun e member =>
          kept.older e (kept.inOrder ▸ List.mem_append_right s.delivered member)
        simp only [OwnSessions, FindsNone, held, idle, List.nil_append] at tags ⊢
        constructor
        · rintro ⟨own, made⟩
          have none : s.events = [] := by
            refine List.eq_nil_iff_forall_not_mem.mpr fun e member => ?_
            have before := tags e member
            have after : e.1 = s.sessions + 1 := made e member
            omega
          refine ⟨⟨own, ?_⟩, fun _ => none⟩
          simp [none]
        · rintro ⟨⟨own, _⟩, finds⟩
          refine ⟨own, ?_⟩
          simp [finds (Bool.eq_false_iff.mpr inactive)]
    · cases run
  | deactivate =>
    simp only [QueueDispatcher.step] at run
    split at run
    · rename_i idle
      cases Option.some.inj run
      simp [OwnSessions, FindsNone, held]
    · cases run
  | addCallback cb | removeCallback cb =>
    cases Option.some.inj run
    simp [OwnSessions, FindsNone, held]

/-- The events that a run raises. -/
def raisedEvents (trace : List (QueueAction ε)) : List ε :=
  trace.filterMap fun
    | .raise event => some event
    | _ => none

section Runs
variable {callbacks : List JsFunction} {trace : List (QueueAction ε)}

/-- Only a raise adds an event. -/
theorem step_added (run : s.step action = some t) :
    t.added.map (·.2) = s.added.map (·.2) ++ raisedEvents [action] := by
  revert run
  fun_cases QueueDispatcher.step s action <;> intro run
  case case1 event =>
    cases run
    simp [QueueDispatcher.add, raisedEvents]
  all_goals cases run
  all_goals exact (List.append_nil _).symm

theorem kept_start : Kept ({ dispatcher := { callbacks } } : QueueDispatcher ε) where
  inOrder := rfl
  older := by simp
  attended := by simp

/-- Over any run, the condition for the events to be dispatched in their sessions. -/
theorem runs_kept (reach : Reach step { dispatcher := { callbacks } } trace s) :
    s.Kept ∧ (s.OwnSessions ↔ ReachWhile FindsNone step { dispatcher := { callbacks } } trace s) := by
  refine reach.good_iff_while Kept OwnSessions kept_start ?_ fun kept run => ?_
  · simp [OwnSessions, held]
  · exact ⟨kept.step run, step_ownSessions kept run⟩

theorem added_eq (reach : Reach step { dispatcher := { callbacks } } trace s) :
    s.added.map (·.2) = raisedEvents trace := by
  induction reach with
  | start => rfl
  | next _ run ih => rw [step_added run, ih, raisedEvents, raisedEvents, raisedEvents, List.filterMap_append]

/-- In a quiet session nothing waits that was raised in it. -/
theorem Kept.delivered_eq (kept : s.Kept) (active : s.dispatcher.async = true) (quiet : s.Quiet)
    (known : s.HasRaised ∨ s.OwnSessions) : s.delivered = s.added := by
  have none : s.events = [] := by
    by_contra left
    have hasRaised : s.HasRaised := by
      rcases known with hasRaised | own
      · exact hasRaised
      · obtain ⟨e, member⟩ := List.exists_mem_of_ne_nil s.events left
        have inAdded : e ∈ s.added := by
          rw [← kept.inOrder]
          exact List.mem_append_right _ (List.mem_append_right _ member)
        exact ⟨e, inAdded, own.2 e (List.mem_append_right _ member)⟩
    have owed := kept.attended active hasRaised left
    simp [quiet.executes, quiet.wakeup, quiet.flush] at owed
  have all := kept.inOrder
  simpa [none, held, quiet.flush] using all

end Runs
end QueueDispatcher
end NodeRdkafka

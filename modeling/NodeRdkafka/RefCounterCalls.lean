import Mathlib.Data.List.Chain
import NodeRdkafka.Lib.Reach
import NodeRdkafka.RefCounter

namespace NodeRdkafka
open Transition

inductive RefCallback
  | onActive
  | onPassive
  deriving DecidableEq

/-- A counter and its callbacks: those that have not returned, the innermost
first, and all that have been called, in order. -/
structure RefCounterUse where
  counter : RefCounter := {}
  running : List RefCallback := []
  calls : List RefCallback := []

/-- The calls may come from outside or from inside of a callback, which
returns or throws. -/
inductive RefCounterAction
  | increment
  | decrement
  | returns
  deriving DecidableEq

namespace RefCounterUse

/-- A callback is the last thing that a call does. -/
def invoke (s : RefCounterUse) (counter : RefCounter) (called : Bool) (callback : RefCallback) : RefCounterUse :=
  if called then { counter, running := callback :: s.running, calls := s.calls ++ [callback] }
  else { s with counter }

def step (s : RefCounterUse) : RefCounterAction → Option RefCounterUse
  | .increment => some (s.invoke s.counter.increment.1 s.counter.increment.2 .onActive)
  | .decrement => some (s.invoke s.counter.decrement.1 s.counter.decrement.2 .onPassive)
  | .returns =>
    match s.running with
    | [] => none
    | _ :: running => some { s with running }

end RefCounterUse

namespace RefCounter

/-- The counter runs exactly while its value is positive. -/
def Consistent (r : RefCounter) : Prop := r.isRunning = true ↔ 0 < r.currentValue

theorem increment_consistent {r : RefCounter} (consistent : r.Consistent) : r.increment.1.Consistent := by
  unfold increment
  dsimp only
  split
  · rename_i starts
    simpa [Consistent] using starts.1
  · rename_i stays
    unfold Consistent at consistent ⊢
    cases running : r.isRunning with
    | true =>
      have positive := consistent.mp running
      simp only [true_iff]
      omega
    | false =>
      simp only [running, and_true] at stays
      simp [stays]

theorem decrement_consistent {r : RefCounter} (consistent : r.Consistent) : r.decrement.1.Consistent := by
  unfold decrement
  dsimp only
  split
  · rename_i stops
    have passive : r.currentValue - 1 ≤ 0 := stops.1
    simp only [Consistent, Bool.false_eq_true, false_iff]
    omega
  · rename_i stays
    unfold Consistent at consistent ⊢
    cases running : r.isRunning with
    | true =>
      simp only [running, and_true] at stays
      simp only [true_iff]
      omega
    | false =>
      have passive : ¬ 0 < r.currentValue := fun positive => by simp [consistent.mpr positive] at running
      simp only [Bool.false_eq_true, false_iff]
      omega

/-- A call changes isRunning exactly when it calls back. -/
theorem increment_running (r : RefCounter) :
    r.increment.2 = true ∧ r.isRunning = false ∧ r.increment.1.isRunning = true ∨
      r.increment.2 = false ∧ r.increment.1.isRunning = r.isRunning := by
  unfold increment
  dsimp only
  split
  · rename_i starts
    exact Or.inl ⟨rfl, starts.2, rfl⟩
  · exact Or.inr ⟨rfl, rfl⟩

theorem decrement_running (r : RefCounter) :
    r.decrement.2 = true ∧ r.isRunning = true ∧ r.decrement.1.isRunning = false ∨
      r.decrement.2 = false ∧ r.decrement.1.isRunning = r.isRunning := by
  unfold decrement
  dsimp only
  split
  · rename_i stops
    exact Or.inl ⟨rfl, stops.2, rfl⟩
  · exact Or.inr ⟨rfl, rfl⟩

end RefCounter

namespace RefCounterUse
variable {s t : RefCounterUse}

/-- What every run keeps, also in the middle of callbacks. -/
structure Alternating (s : RefCounterUse) : Prop where
  consistent : s.counter.Consistent
  alternate : s.calls.IsChain (· ≠ ·)
  first : ∀ callback ∈ s.calls.head?, callback = .onActive
  last : s.counter.isRunning = true ↔ s.calls.getLast? = some .onActive

theorem calls_last_of_passive (alternating : s.Alternating) (passive : s.counter.isRunning = false) :
    ∀ callback ∈ s.calls.getLast?, callback = .onPassive := by
  intro callback last
  cases callback with
  | onPassive => rfl
  | onActive => simp [alternating.last.mpr last] at passive

/-- A call that calls back adds to the calls the one that is not the last. -/
theorem Alternating.called {counter : RefCounter} {callback : RefCallback} (alternating : s.Alternating)
    (consistent : counter.Consistent) (other : ∀ last ∈ s.calls.getLast?, last ≠ callback)
    (begins : s.calls = [] → callback = .onActive)
    (running : counter.isRunning = true ↔ callback = .onActive) :
    (s.invoke counter true callback).Alternating := by
  refine ⟨consistent, ?_, ?_, ?_⟩
  · refine List.isChain_append.mpr ⟨alternating.alternate, List.isChain_singleton callback, ?_⟩
    intro last atEnd next same
    simp only [List.head?_cons, Option.mem_def, Option.some.injEq] at same
    exact same ▸ other last atEnd
  · intro first atHead
    simp only [invoke, if_true] at atHead
    cases calls : s.calls with
    | nil =>
      simp only [calls, List.nil_append, List.head?_cons, Option.mem_def, Option.some.injEq] at atHead
      exact atHead ▸ begins calls
    | cons earlier rest =>
      simp only [calls, List.cons_append, List.head?_cons, Option.mem_def, Option.some.injEq] at atHead
      exact alternating.first first (by simp [calls, atHead])
  · simpa [invoke] using running

theorem Alternating.step {action : RefCounterAction} (alternating : s.Alternating)
    (run : s.step action = some t) : t.Alternating := by
  cases action with
  | increment =>
    cases Option.some.inj run
    have consistent := RefCounter.increment_consistent alternating.consistent
    rcases s.counter.increment_running with ⟨called, passive, active⟩ | ⟨silent, same⟩
    · rw [called]
      refine alternating.called consistent ?_ (fun _ => rfl) (by simp [active])
      intro last atEnd
      rw [calls_last_of_passive alternating passive last atEnd]
      decide
    · rw [silent]
      exact ⟨consistent, alternating.alternate, alternating.first, same ▸ alternating.last⟩
  | decrement =>
    cases Option.some.inj run
    have consistent := RefCounter.decrement_consistent alternating.consistent
    rcases s.counter.decrement_running with ⟨called, active, passive⟩ | ⟨silent, same⟩
    · rw [called]
      have last := alternating.last.mp active
      refine alternating.called consistent ?_ (fun none_called => by simp [none_called] at last) (by simp [passive])
      intro callback atEnd
      rw [Option.mem_def, last] at atEnd
      cases Option.some.inj atEnd
      decide
    · rw [silent]
      exact ⟨consistent, alternating.alternate, alternating.first, same ▸ alternating.last⟩
  | returns =>
    simp only [RefCounterUse.step] at run
    split at run
    · cases run
    · cases Option.some.inj run
      exact ⟨alternating.consistent, alternating.alternate, alternating.first, alternating.last⟩

end RefCounterUse

/-- In every state of a run, also in the middle of callbacks, isRunning agrees
with the counter, and the callbacks alternate from onActive on, with isRunning
set exactly after onActive. -/
theorem refCounter_alternates {trace : List RefCounterAction} {s : RefCounterUse}
    (reach : Reach RefCounterUse.step {} trace s) :
    (s.counter.isRunning = true ↔ 0 < s.counter.currentValue) ∧ s.calls.IsChain (· ≠ ·) ∧
      (∀ callback ∈ s.calls.head?, callback = .onActive) ∧
      (s.counter.isRunning = true ↔ s.calls.getLast? = some .onActive) := by
  obtain ⟨consistent, alternate, first, last⟩ := reach.invariant RefCounterUse.Alternating
    ⟨by simp [RefCounter.Consistent], .nil, by simp, by simp⟩ RefCounterUse.Alternating.step
  exact ⟨consistent, alternate, first, last⟩

/-- An onActive whose decrement calls an onPassive that increments again, and
one decrement too many. -/
theorem refCounter_alternates_nested :
    ∃ s, Reach RefCounterUse.step {} [.increment, .decrement, .increment, .returns, .decrement, .decrement,
        .returns] s ∧ s.running = [.onPassive, .onActive] ∧ s.counter.currentValue = -1 ∧
      s.calls = [.onActive, .onPassive, .onActive, .onPassive] ∧ s.calls.IsChain (· ≠ ·) := by
  obtain ⟨s, reach, facts⟩ : ∃ s, Reach RefCounterUse.step {} [.increment, .decrement, .increment, .returns,
        .decrement, .decrement, .returns] s ∧ s.running = [.onPassive, .onActive] ∧
      s.counter.currentValue = -1 ∧ s.calls = [.onActive, .onPassive, .onActive, .onPassive] :=
    ⟨_, reach_iff_replay.mpr rfl, rfl, rfl, rfl⟩
  exact ⟨s, reach, facts.1, facts.2.1, facts.2.2, (refCounter_alternates reach).2.1⟩

end NodeRdkafka

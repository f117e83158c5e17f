import Mathlib.Data.List.Perm.Basic
import NodeRdkafka.ClientCallbacks

namespace NodeRdkafka
open Transition

/-- A client whose connection attempts are told apart by number. `connecting`
and `fetching` number the closures in the lists of the same names, `calls`
gives for each connect call its callback and the attempt that it started or
joined, and `failures` are the attempts that failed. -/
structure ClientAttempts (ε : Type) where
  client : Client ε
  started : Nat := 0
  connecting : List Nat := []
  fetching : List Nat := []
  calls : List (Option Nat × Option Nat) := []
  failures : List Nat := []

/-- The callbacks of connect that a frame has yet to call. -/
def ClientFrame.joined : Option ClientFrame → List (Option Nat)
  | some (.ready joined cb) => joined ++ [cb]
  | _ => []

/-- What a callback of connect has been told: whether there was an error. -/
def ClientEvent.answer? {ε : Type} : ClientEvent ε → Option (Nat × Bool)
  | .connectCallback cb err => some (cb, err.isSome)
  | _ => none

namespace Client
variable {ε : Type}

/-- The failed attempts whose callback waits for the native disconnect or the
timer. -/
def tearingDown (c : Client ε) : List (FailedAttempt ε) := c.failed.filter (!·.callbackCalled)

/-- No worker, no timer and no immediate is pending. -/
structure Quiescent (c : Client ε) : Prop where
  connecting : c.connecting = []
  fetching : c.fetching = []
  disconnecting : c.disconnecting = []
  immediates : c.immediates = []
  frame : c.frame = none
  failed : ∀ attempt ∈ c.failed, attempt.workerPending = false ∧ attempt.timerPending = false

end Client

namespace ClientAttempts
variable {ε : Type}

/-- The attempt that a call finds under way, if there is one. -/
def inFlight (s : ClientAttempts ε) : Option Nat := (s.connecting ++ s.fetching).head?

/-- A call starts an attempt when its closure goes to the native connect. -/
def trackConnect (s : ClientAttempts ε) (cb : Option Nat) (client : Client ε) : ClientAttempts ε :=
  if s.client.connecting.length < client.connecting.length then
    { s with client, started := s.started + 1, connecting := s.connecting ++ [s.started],
             calls := s.calls ++ [(cb, some s.started)] }
  else { s with client, calls := s.calls ++ [(cb, s.inFlight)] }

def track (s : ClientAttempts ε) (client : Client ε) : ClientAction ε → ClientAttempts ε
  | .connect cb => s.trackConnect cb client
  | .deliver (.connected index none) =>
    { s with client, connecting := s.connecting.eraseIdx index,
             fetching := s.fetching ++ s.connecting[index]?.toList }
  | .deliver (.connected index (some _)) =>
    { s with client, connecting := s.connecting.eraseIdx index,
             failures := s.failures ++ s.connecting[index]?.toList }
  | .deliver (.metadata index none) => { s with client, fetching := s.fetching.eraseIdx index }
  | .deliver (.metadata index (some _)) =>
    { s with client, fetching := s.fetching.eraseIdx index,
             failures := s.failures ++ s.fetching[index]?.toList }
  | _ => { s with client }

def step (s : ClientAttempts ε) (action : ClientAction ε) : Option (ClientAttempts ε) :=
  (s.client.step action).map fun client => s.track client action

/-- The callbacks that have been called, with whether they got an error. -/
def answers (s : ClientAttempts ε) : List (Nat × Bool) := s.client.log.filterMap ClientEvent.answer?

/-- The answer to a connect call with a callback: an error if the attempt that
it started or joined is among the failures. -/
def answerDue (failures : List Nat) (call : Option Nat × Option Nat) : List (Nat × Bool) :=
  call.1.toList.map (·, call.2.any fun a => decide (a ∈ failures))

def due (s : ClientAttempts ε) : List (Nat × Bool) := s.calls.flatMap (answerDue s.failures)

/-- Of the connect calls that belong to the attempt only the first, which
started it, has a callback. -/
def Alone (s : ClientAttempts ε) (attempt : Option Nat) : Prop :=
  ∀ a ∈ attempt, ∀ call ∈ (s.calls.filter (·.2 = some a)).tail, call.1 = none

/-- The condition on a step: a connect call with a callback is not made while a
failed attempt is being torn down, and none at all while the client is being
disconnected; in an attempt that fails no call but its own had a callback, and
no immediate waits; and a disconnect finds nothing under way. -/
def Undisturbed (s : ClientAttempts ε) : ClientAction ε → Prop
  | .connect cb =>
    s.client.isDisconnecting = false ∧
      (s.client.tearingDown = [] ∨ cb = none ∧ s.client.isConnecting = true)
  | .disconnect _ =>
    s.inFlight = none ∧ s.client.tearingDown = [] ∧ s.client.immediates = [] ∧ s.client.frame = none
  | .deliver (.connected index (some _)) => s.Alone s.connecting[index]?
  | .deliver (.metadata index (some _)) => s.Alone s.fetching[index]? ∧ s.client.immediates = []
  | _ => True

instance (s : ClientAttempts ε) : (action : ClientAction ε) → Decidable (s.Undisturbed action)
  | .connect _ => inferInstanceAs (Decidable (_ ∧ _))
  | .disconnect _ => inferInstanceAs (Decidable (_ ∧ _ ∧ _ ∧ _))
  | .deliver (.connected _ (some _)) => inferInstanceAs (Decidable (∀ a ∈ _, ∀ call ∈ _, _ = none))
  | .deliver (.metadata _ (some _)) =>
    inferInstanceAs (Decidable ((∀ a ∈ _, ∀ call ∈ _, _ = none) ∧ _ = []))
  | .resume | .deliver (.connected _ none) | .deliver (.metadata _ none)
  | .deliver (.failureDisconnected _) | .deliver (.failureTimeout _) | .deliver (.immediate _)
  | .deliver (.disconnected _) => inferInstanceAs (Decidable True)

/-- The callbacks that closures still hold, with what they will be told. -/
def told (failed : Bool) (cbs : List (Option Nat)) : List (Nat × Bool) :=
  cbs.flatMap fun cb => cb.toList.map (·, failed)

def held (c : Client ε) : List (Nat × Bool) :=
  told false (c.connecting ++ c.fetching ++ c.joined ++ c.immediates ++ ClientFrame.joined c.frame) ++
    told true (c.tearingDown.map (·.cb))

/-- No call is forgotten and none is answered twice. -/
def Accounted (s : ClientAttempts ε) : Prop :=
  ∀ x, s.answers.count x + (held s.client).count x = s.due.count x

/-- How many callbacks wait for the end of an attempt, or for an immediate. -/
def waitingCallbacks (c : Client ε) : Nat := (c.joined ++ c.immediates).countP Option.isSome

/-- The calls that belong to an attempt under way: its own and some others,
among them all those that wait with a callback. -/
structure Owns (s : ClientAttempts ε) (cb : Option Nat) (a : Nat) : Prop where
  running : a ∉ s.failures
  calls : ∃ others, s.calls.filter (·.2 = some a) = (cb, some a) :: others ∧
    waitingCallbacks s.client ≤ others.countP (·.1.isSome)

/-- What holds whatever is under way. -/
structure Steady (s : ClientAttempts ε) : Prop where
  takes : s.client.connection.Takes s.client.configs
  accounted : s.Accounted
  numbered : ∀ call ∈ s.calls, ∀ a, call.2 = some a → a < s.started
  failures : ∀ a ∈ s.failures, a < s.started
  waiting : ∀ attempt ∈ s.client.failed, attempt.callbackCalled = false → attempt.workerPending = true
  disconnecting : s.client.disconnecting.length ≤ s.client.isDisconnecting.toNat

/-- No attempt is under way and none is being torn down. -/
structure Resting (s : ClientAttempts ε) : Prop where
  connecting : s.client.connecting = [] ∧ s.connecting = []
  fetching : s.client.fetching = [] ∧ s.fetching = []
  joined : s.client.joined.countP Option.isSome = 0
  tearingDown : s.client.tearingDown = []
  isConnecting : s.client.isConnecting = false
  down : s.client.isConnected = false ∨ s.client.isDisconnecting = true →
    s.client.immediates = [] ∧ ClientFrame.joined s.client.frame = []

/-- The native connect of an attempt is under way. -/
structure Connecting (s : ClientAttempts ε) (cb : Option Nat) (a : Nat) : Prop where
  connecting : s.client.connecting = [cb] ∧ s.connecting = [a]
  fetching : s.client.fetching = [] ∧ s.fetching = []
  tearingDown : s.client.tearingDown = []
  isConnecting : s.client.isConnecting = true
  isConnected : s.client.isConnected = false
  isDisconnecting : s.client.isDisconnecting = false
  immediates : s.client.immediates = []
  frame : ClientFrame.joined s.client.frame = []
  owns : s.Owns cb a

/-- Its metadata request is. -/
structure Fetching (s : ClientAttempts ε) (cb : Option Nat) (a : Nat) : Prop where
  connecting : s.client.connecting = [] ∧ s.connecting = []
  fetching : s.client.fetching = [cb] ∧ s.fetching = [a]
  tearingDown : s.client.tearingDown = []
  isConnected : s.client.isConnected = true
  isDisconnecting : s.client.isDisconnecting = false
  frame : ClientFrame.joined s.client.frame = []
  owns : s.Owns cb a

/-- It has failed, and its native disconnect and its timer are under way. -/
structure Tearing (s : ClientAttempts ε) (attempt : FailedAttempt ε) : Prop where
  connecting : s.client.connecting = [] ∧ s.connecting = []
  fetching : s.client.fetching = [] ∧ s.fetching = []
  joined : s.client.joined.countP Option.isSome = 0
  tearingDown : s.client.tearingDown = [attempt]
  isConnected : s.client.isConnected = false
  isDisconnecting : s.client.isDisconnecting = false
  immediates : s.client.immediates = []
  frame : ClientFrame.joined s.client.frame = []

inductive Phase (s : ClientAttempts ε) : Prop
  | resting (resting : s.Resting)
  | connecting (cb : Option Nat) (a : Nat) (connecting : s.Connecting cb a)
  | fetching (cb : Option Nat) (a : Nat) (fetching : s.Fetching cb a)
  | tearing (attempt : FailedAttempt ε) (tearing : s.Tearing attempt)

/-- All that the phase depends on. -/
def phaseView (s : ClientAttempts ε) :=
  (s.client.connecting, s.connecting, s.client.fetching, s.fetching, s.client.joined,
    s.client.immediates, s.client.isConnected, s.client.isConnecting, s.client.isDisconnecting,
    s.client.tearingDown, ClientFrame.joined s.client.frame, s.calls, s.failures)

theorem Owns.of_view {s t : ClientAttempts ε} {cb : Option Nat} {a : Nat} (owns : s.Owns cb a)
    (same : t.phaseView = s.phaseView) : t.Owns cb a := by
  simp only [phaseView, Prod.mk.injEq] at same
  obtain ⟨_, _, _, _, joined, immediates, _, _, _, _, _, calls, failures⟩ := same
  refine ⟨by rw [failures]; exact owns.running, ?_⟩
  rw [calls, waitingCallbacks, joined, immediates]
  exact owns.calls

theorem Phase.of_view {s t : ClientAttempts ε} (phase : s.Phase) (same : t.phaseView = s.phaseView) :
    t.Phase := by
  have owned {cb : Option Nat} {a : Nat} (owns : s.Owns cb a) : t.Owns cb a := owns.of_view same
  simp only [phaseView, Prod.mk.injEq] at same
  obtain ⟨connecting, connectingIds, fetching, fetchingIds, joined, immediates, isConnected,
    isConnecting, isDisconnecting, tearingDown, frame, _, _⟩ := same
  cases phase with
  | resting resting =>
    refine .resting ⟨?_, ?_, ?_, ?_, ?_, ?_⟩
    · rw [connecting, connectingIds]; exact resting.connecting
    · rw [fetching, fetchingIds]; exact resting.fetching
    · rw [joined]; exact resting.joined
    · rw [tearingDown]; exact resting.tearingDown
    · rw [isConnecting]; exact resting.isConnecting
    · rw [isConnected, isDisconnecting, immediates, frame]; exact resting.down
  | connecting cb a phase =>
    refine .connecting cb a ⟨?_, ?_, ?_, ?_, ?_, ?_, ?_, ?_, owned phase.owns⟩
    · rw [connecting, connectingIds]; exact phase.connecting
    · rw [fetching, fetchingIds]; exact phase.fetching
    · rw [tearingDown]; exact phase.tearingDown
    · rw [isConnecting]; exact phase.isConnecting
    · rw [isConnected]; exact phase.isConnected
    · rw [isDisconnecting]; exact phase.isDisconnecting
    · rw [immediates]; exact phase.immediates
    · rw [frame]; exact phase.frame
  | fetching cb a phase =>
    refine .fetching cb a ⟨?_, ?_, ?_, ?_, ?_, ?_, owned phase.owns⟩
    · rw [connecting, connectingIds]; exact phase.connecting
    · rw [fetching, fetchingIds]; exact phase.fetching
    · rw [tearingDown]; exact phase.tearingDown
    · rw [isConnected]; exact phase.isConnected
    · rw [isDisconnecting]; exact phase.isDisconnecting
    · rw [frame]; exact phase.frame
  | tearing attempt phase =>
    refine .tearing attempt ⟨?_, ?_, ?_, ?_, ?_, ?_, ?_, ?_⟩
    · rw [connecting, connectingIds]; exact phase.connecting
    · rw [fetching, fetchingIds]; exact phase.fetching
    · rw [joined]; exact phase.joined
    · rw [tearingDown]; exact phase.tearingDown
    · rw [isConnected]; exact phase.isConnected
    · rw [isDisconnecting]; exact phase.isDisconnecting
    · rw [immediates]; exact phase.immediates
    · rw [frame]; exact phase.frame

/-- What every run under the condition keeps. -/
structure Kept (s : ClientAttempts ε) : Prop where
  steady : s.Steady
  phase : s.Phase

@[simp] theorem told_nil (failed : Bool) : told failed [] = [] := rfl

@[simp] theorem told_cons (failed : Bool) (cb : Option Nat) (cbs : List (Option Nat)) :
    told failed (cb :: cbs) = cb.toList.map (·, failed) ++ told failed cbs := by
  simp [told]

@[simp] theorem told_append (failed : Bool) (left right : List (Option Nat)) :
    told failed (left ++ right) = told failed left ++ told failed right := by
  simp [told]

/-- Calls without a callback are told nothing. -/
theorem told_eq_nil {cbs : List (Option Nat)} (failed : Bool) (silent : cbs.countP Option.isSome = 0) :
    told failed cbs = [] := by
  refine List.flatMap_eq_nil_iff.mpr fun cb member => ?_
  have absent := List.countP_eq_zero.mp silent cb member
  simpa using absent

theorem told_eraseIdx {cbs : List (Option Nat)} {index : Nat} {cb : Option Nat}
    (found : cbs[index]? = some cb) (failed : Bool) (x : Nat × Bool) :
    (told failed cbs).count x =
      (cb.toList.map (·, failed)).count x + (told failed (cbs.eraseIdx index)).count x := by
  obtain ⟨bound, rfl⟩ := List.getElem?_eq_some_iff.mp found
  have taken : (told failed cbs).Perm (told failed (cbs[index] :: cbs.eraseIdx index)) :=
    (List.getElem_cons_eraseIdx_perm bound).symm.flatMap_right _
  rw [taken.count_eq, told_cons, List.count_append]

/-- What a call of next tells its callback. -/
theorem next_answers (c : Client ε) (cb : Option Nat) (err : Option ε) :
    (c.next cb err).log.filterMap ClientEvent.answer? =
      c.log.filterMap ClientEvent.answer? ++ cb.toList.map (·, err.isSome) := by
  rw [Client.next, List.filterMap_append]
  cases cb <;> rfl

section
variable {c : Client ε}

/-- An attempt starts with the configured functions registered. -/
theorem startAttempt_eq (takes : c.connection.Takes c.configs) (cb : Option Nat) :
    ∃ connection, c.connection.Refuses connection ∧ c.startAttempt cb =
      { c.record .attempt with
        isConnecting := true, connection, connecting := c.connecting ++ [cb] } := by
  have refuses := c.connection.configureEntries_refuses true c.configs.entries
  have taken := takes.configureCallbacks
  simp only [Client.startAttempt, Client.record]
  split
  · rename_i connection errstr run
    rw [run] at taken
    cases taken
  · rename_i connection run
    rw [Connection.configureCallbacks] at run
    rw [run] at refuses
    exact ⟨connection, refuses, rfl⟩

/-- A failed attempt whose callback has been called counts no more. -/
theorem filter_set_called {failed : List (FailedAttempt ε)} {index : Nat} {old new : FailedAttempt ε}
    (found : failed[index]? = some old) (before : old.callbackCalled = true)
    (after : new.callbackCalled = true) :
    (failed.set index new).filter (!·.callbackCalled) = failed.filter (!·.callbackCalled) := by
  induction failed generalizing index with
  | nil => cases found
  | cons first rest ih =>
    cases index with
    | zero =>
      cases Option.some.inj found
      simp [before, after]
    | succ index =>
      have same := @ih index (by simpa using found)
      rw [List.set_cons_succ, List.filter_cons, List.filter_cons, same]

/-- The one whose callback is called now was the only one. -/
theorem filter_set_calling {failed : List (FailedAttempt ε)} {index : Nat} {old only : FailedAttempt ε}
    (new : FailedAttempt ε) (found : failed[index]? = some old) (before : old.callbackCalled = false)
    (after : new.callbackCalled = true) (single : failed.filter (!·.callbackCalled) = [only]) :
    old = only ∧ (failed.set index new).filter (!·.callbackCalled) = [] := by
  induction failed generalizing index with
  | nil => cases found
  | cons first rest ih =>
    cases index with
    | zero =>
      cases Option.some.inj found
      rw [List.filter_cons_of_pos (by simp [before]), List.cons_eq_cons] at single
      simpa [after] using single
    | succ index =>
      cases called : first.callbackCalled with
      | true =>
        rw [List.filter_cons_of_neg (by simp [called])] at single
        simpa [called] using ih found single
      | false =>
        have none_left : rest.filter (!·.callbackCalled) = [] := by
          rw [List.filter_cons_of_pos (by simp [called]), List.cons_eq_cons] at single
          exact single.2
        have member : old ∈ rest := List.mem_of_getElem? (i := index) (by simpa using found)
        have uncalled := List.filter_eq_nil_iff.mp none_left old member
        simp [before] at uncalled

end

theorem count_filter_flatMap {α β : Type} [BEq β] [LawfulBEq β] (p : α → Bool) (f : α → List β)
    (list : List α) (x : β) :
    (list.flatMap f).count x =
      ((list.filter p).flatMap f).count x + ((list.filter (!p ·)).flatMap f).count x := by
  have split : ((list.filter p ++ list.filter (!p ·)).flatMap f).Perm (list.flatMap f) :=
    (List.filter_append_perm p list).flatMap_right f
  rw [← split.count_eq, List.flatMap_append, List.count_append]

/-- Only the attempt's own call is answered otherwise once it has failed. -/
theorem count_failing {calls others : List (Option Nat × Option Nat)} {failures : List Nat}
    {cb : Option Nat} {a : Nat} (running : a ∉ failures)
    (own : calls.filter (·.2 = some a) = (cb, some a) :: others) (silent : ∀ call ∈ others, call.1 = none)
    (x : Nat × Bool) :
    (calls.flatMap (answerDue (failures ++ [a]))).count x + (cb.toList.map (·, false)).count x =
      (calls.flatMap (answerDue failures)).count x + (cb.toList.map (·, true)).count x := by
  have unanswered (failures : List Nat) : others.flatMap (answerDue failures) = [] :=
    List.flatMap_eq_nil_iff.mpr fun call member => by simp [answerDue, silent call member]
  have apart : (calls.filter (fun call => !decide (call.2 = some a))).flatMap (answerDue (failures ++ [a])) =
      (calls.filter (fun call => !decide (call.2 = some a))).flatMap (answerDue failures) := by
    refine List.flatMap_congr fun call member => ?_
    have different : call.2 ≠ some a := by simpa using (List.mem_filter.mp member).2
    unfold answerDue
    cases attempt : call.2 with
    | none => rfl
    | some b =>
      have distinct : b ≠ a := fun same => different (by rw [attempt, same])
      simp [distinct]
  have before : answerDue failures (cb, some a) = cb.toList.map (·, false) := by
    simp [answerDue, running]
  have after : answerDue (failures ++ [a]) (cb, some a) = cb.toList.map (·, true) := by
    simp [answerDue]
  rw [count_filter_flatMap (fun call => decide (call.2 = some a)) (answerDue (failures ++ [a])) calls,
    count_filter_flatMap (fun call => decide (call.2 = some a)) (answerDue failures) calls, own, apart,
    List.flatMap_cons, List.flatMap_cons, unanswered, unanswered, List.append_nil, List.append_nil,
    before, after]
  omega

section
variable {s t : ClientAttempts ε}

theorem Accounted.unchanged (accounted : s.Accounted) (answers : t.answers = s.answers)
    (due : t.due = s.due) (held : ∀ x, (held t.client).count x = (held s.client).count x) :
    t.Accounted := by
  intro x
  rw [answers, due, held x]
  exact accounted x

/-- A new call is held by a closure. -/
theorem Accounted.call (accounted : s.Accounted) {cb a : Option Nat} (answers : t.answers = s.answers)
    (calls : t.calls = s.calls ++ [(cb, a)]) (failures : t.failures = s.failures)
    (running : ∀ b, a = some b → b ∉ s.failures)
    (held : ∀ x, (held t.client).count x = (held s.client).count x + (cb.toList.map (·, false)).count x) :
    t.Accounted := by
  intro x
  have due : answerDue s.failures (cb, a) = cb.toList.map (·, false) := by
    cases a with
    | none => rfl
    | some b => simp [answerDue, running b rfl]
  have before := accounted x
  rw [answers, held x, ClientAttempts.due, calls, failures, List.flatMap_append, List.count_append,
    List.flatMap_singleton, due]
  simp only [ClientAttempts.due] at before
  omega

/-- A callback that is called is held no more. -/
theorem Accounted.answer (accounted : s.Accounted) (cb : Option Nat) (failed : Bool)
    (answers : t.answers = s.answers ++ cb.toList.map (·, failed)) (due : t.due = s.due)
    (held : ∀ x, (held s.client).count x =
      (cb.toList.map (·, failed)).count x + (held t.client).count x) : t.Accounted := by
  intro x
  have before := accounted x
  rw [held x] at before
  rw [answers, due, List.count_append]
  omega

/-- The call of an attempt that fails is held or called with an error. -/
theorem Accounted.failing (accounted : s.Accounted) {cb : Option Nat} {a : Nat}
    {others : List (Option Nat × Option Nat)} (running : a ∉ s.failures)
    (own : s.calls.filter (·.2 = some a) = (cb, some a) :: others) (silent : ∀ call ∈ others, call.1 = none)
    (calls : t.calls = s.calls) (failures : t.failures = s.failures ++ [a])
    (moved : ∀ x, t.answers.count x + (held t.client).count x + (cb.toList.map (·, false)).count x =
      s.answers.count x + (held s.client).count x + (cb.toList.map (·, true)).count x) :
    t.Accounted := by
  intro x
  have flips := count_failing running own silent x
  have before := accounted x
  have now := moved x
  simp only [ClientAttempts.due, calls, failures] at before ⊢
  omega

end

theorem record_answers (c : Client ε) (event : ClientEvent ε) (silent : event.answer? = none) :
    (c.record event).log.filterMap ClientEvent.answer? = c.log.filterMap ClientEvent.answer? := by
  simp [Client.record, silent]

/-- Numbers that no call has yet are no call's. -/
theorem filter_fresh {calls : List (Option Nat × Option Nat)} {started : Nat}
    (numbered : ∀ call ∈ calls, ∀ a, call.2 = some a → a < started) :
    calls.filter (·.2 = some started) = [] := by
  rw [List.filter_eq_nil_iff]
  intro call member own
  exact absurd (numbered call member started (by simpa using own)) (Nat.lt_irrefl _)

/-- The closure found in a list of one. -/
theorem found_single {cbs : List (Option Nat)} {own cb : Option Nat} {index : Nat} (single : cbs = [own])
    (found : cbs[index]? = some cb) : index = 0 ∧ own = cb := by
  rw [single, List.getElem?_singleton, Option.ite_none_right_eq_some] at found
  exact ⟨found.1, Option.some.inj found.2⟩

section
variable {s t : ClientAttempts ε} {cb joining : Option Nat} {a : Nat}

theorem Resting.inFlight (resting : s.Resting) : s.inFlight = none := by
  simp [ClientAttempts.inFlight, resting.connecting.2, resting.fetching.2]

theorem Connecting.inFlight (connecting : s.Connecting cb a) : s.inFlight = some a := by
  simp [ClientAttempts.inFlight, connecting.connecting.2]

theorem Fetching.inFlight (fetching : s.Fetching cb a) : s.inFlight = some a := by
  simp [ClientAttempts.inFlight, fetching.connecting.2, fetching.fetching.2]

theorem Owns.lt (owns : s.Owns cb a) (steady : s.Steady) : a < s.started := by
  obtain ⟨others, calls, _⟩ := owns.calls
  have member : (cb, some a) ∈ s.calls.filter (·.2 = some a) := by
    rw [calls]
    exact List.mem_cons_self
  exact steady.numbered _ (List.mem_of_mem_filter member) a rfl

/-- An attempt that fails had been started. -/
theorem Owns.failing (owns : s.Owns cb a) (steady : s.Steady) : ∀ b ∈ s.failures ++ [a], b < s.started := by
  intro b member
  rcases List.mem_append.mp member with member | member
  · exact steady.failures b member
  · cases List.mem_singleton.mp member
    exact owns.lt steady

/-- A call that finds the attempt under way is one more of its calls. -/
theorem Owns.join (owns : s.Owns cb a) (joining : Option Nat) (calls : t.calls = s.calls ++ [(joining, some a)])
    (failures : t.failures = s.failures)
    (waiting : waitingCallbacks t.client = waitingCallbacks s.client + if joining.isSome then 1 else 0) :
    t.Owns cb a := by
  obtain ⟨others, own, waited⟩ := owns.calls
  refine ⟨by rw [failures]; exact owns.running, others ++ [(joining, some a)], ?_, ?_⟩
  · rw [calls, List.filter_append, own]
    simp
  · rw [List.countP_append, List.countP_singleton]
    dsimp only
    omega

/-- A call that no attempt is started for. -/
theorem Steady.call (steady : s.Steady) (attempt : ∀ b, s.inFlight = some b → b ∉ s.failures ∧ b < s.started)
    (client : t.client.connection = s.client.connection ∧ t.client.configs = s.client.configs ∧
      t.client.failed = s.client.failed ∧ t.client.isDisconnecting = s.client.isDisconnecting ∧
      t.client.disconnecting = s.client.disconnecting)
    (calls : t.calls = s.calls ++ [(joining, s.inFlight)]) (failures : t.failures = s.failures)
    (started : t.started = s.started) (answers : t.answers = s.answers)
    (held : ∀ x, (held t.client).count x =
      (held s.client).count x + (joining.toList.map (·, false)).count x) : t.Steady := by
  obtain ⟨connection, configs, failed, isDisconnecting, disconnecting⟩ := client
  refine ⟨by rw [connection, configs]; exact steady.takes,
    steady.accounted.call answers calls failures (fun b own => (attempt b own).1) held, ?_,
    by rw [failures, started]; exact steady.failures, by rw [failed]; exact steady.waiting,
    by rw [isDisconnecting, disconnecting]; exact steady.disconnecting⟩
  intro call member b own
  rw [calls] at member
  rw [started]
  rcases List.mem_append.mp member with member | member
  · exact steady.numbered call member b own
  · cases List.mem_singleton.mp member
    exact (attempt b own).2

theorem trackConnect_waits {client : Client ε} (same : client.connecting = s.client.connecting) :
    s.trackConnect joining client =
      { s with client, calls := s.calls ++ [(joining, s.inFlight)] } := by
  simp [trackConnect, same]

/-- A call on a connected client is left to an immediate. -/
theorem Kept.connectDeferred (kept : s.Kept) (up : s.client.isConnected = true)
    (allowed : s.Undisturbed (.connect joining)) :
    (s.track (s.client.connect joining) (.connect joining)).Kept := by
  have deferred : s.client.connect joining =
      { s.client with log := s.client.log ++ [.connectCall joining]
                      immediates := s.client.immediates ++ [joining] } := by
    simp [Client.connect, Client.record, up]
  have steady (attempt : ∀ b, s.inFlight = some b → b ∉ s.failures ∧ b < s.started) :
      Steady { s with client := { s.client with log := s.client.log ++ [.connectCall joining]
                                                immediates := s.client.immediates ++ [joining] }
                      calls := s.calls ++ [(joining, s.inFlight)] } := by
    refine kept.steady.call attempt ⟨rfl, rfl, rfl, rfl, rfl⟩ rfl rfl rfl ?_ fun x => ?_
    · exact record_answers s.client (.connectCall joining) rfl
    · simp [held, Client.tearingDown]
      omega
  rw [track, deferred, trackConnect_waits (by rfl)]
  cases kept.phase with
  | resting resting =>
    refine ⟨steady (by simp [resting.inFlight]), .resting ⟨resting.connecting, resting.fetching,
      resting.joined, resting.tearingDown, resting.isConnecting, fun down => ?_⟩⟩
    rcases down with down | leaving
    · cases up.symm.trans down
    · cases allowed.1.symm.trans leaving
  | connecting cb a connecting => cases up.symm.trans connecting.isConnected
  | fetching cb a fetching =>
    have attempt : ∀ b, s.inFlight = some b → b ∉ s.failures ∧ b < s.started := by
      intro b same
      cases fetching.inFlight.symm.trans same
      exact ⟨fetching.owns.running, fetching.owns.lt kept.steady⟩
    refine ⟨steady attempt, .fetching cb a ⟨fetching.connecting, fetching.fetching,
      fetching.tearingDown, fetching.isConnected, fetching.isDisconnecting, fetching.frame, ?_⟩⟩
    refine fetching.owns.join joining (by rw [fetching.inFlight]) rfl ?_
    simp only [waitingCallbacks, List.countP_append, List.countP_singleton]
    omega
  | tearing attempt tearing => cases up.symm.trans tearing.isConnected

/-- A call during the native connect waits for 'ready'. -/
theorem Kept.connectJoined (kept : s.Kept) (down : s.client.isConnected = false)
    (busy : s.client.isConnecting = true) (allowed : s.Undisturbed (.connect joining)) :
    (s.track (s.client.connect joining) (.connect joining)).Kept := by
  have joined : s.client.connect joining =
      { s.client with log := s.client.log ++ [.connectCall joining]
                      joined := s.client.joined ++ [joining] } := by
    simp [Client.connect, Client.record, down, busy]
  rw [track, joined, trackConnect_waits (by rfl)]
  cases kept.phase with
  | resting resting => cases busy.symm.trans resting.isConnecting
  | connecting cb a connecting =>
    have attempt : ∀ b, s.inFlight = some b → b ∉ s.failures ∧ b < s.started := by
      intro b same
      cases connecting.inFlight.symm.trans same
      exact ⟨connecting.owns.running, connecting.owns.lt kept.steady⟩
    refine ⟨kept.steady.call attempt ⟨rfl, rfl, rfl, rfl, rfl⟩ rfl rfl rfl ?_ fun x => ?_,
      .connecting cb a ⟨connecting.connecting, connecting.fetching, connecting.tearingDown, busy,
        down, connecting.isDisconnecting, connecting.immediates, connecting.frame, ?_⟩⟩
    · exact record_answers s.client (.connectCall joining) rfl
    · simp [held, Client.tearingDown]
      omega
    · refine connecting.owns.join joining (by rw [connecting.inFlight]) rfl ?_
      simp only [waitingCallbacks, List.countP_append, List.countP_singleton]
      omega
  | fetching cb a fetching => cases down.symm.trans fetching.isConnected
  | tearing attempt tearing =>
    -- such a call has no callback, and is forgotten like any other
    obtain ⟨rfl, _⟩ := allowed.2.resolve_left (by simp [tearing.tearingDown])
    have nothing : s.inFlight = none := by simp [inFlight, tearing.connecting.2, tearing.fetching.2]
    refine ⟨kept.steady.call (by simp [nothing]) ⟨rfl, rfl, rfl, rfl, rfl⟩ rfl rfl rfl ?_ fun x => ?_,
      .tearing attempt ⟨tearing.connecting, tearing.fetching, ?_, tearing.tearingDown, down,
        tearing.isDisconnecting, tearing.immediates, tearing.frame⟩⟩
    · exact record_answers s.client (.connectCall none) rfl
    · simp [held, Client.tearingDown]
    · rw [List.countP_append, tearing.joined]
      rfl

/-- Any other call starts an attempt. -/
theorem Kept.connectStarts (kept : s.Kept) (down : s.client.isConnected = false)
    (idle : s.client.isConnecting = false) (allowed : s.Undisturbed (.connect joining)) :
    (s.track (s.client.connect joining) (.connect joining)).Kept := by
  obtain ⟨connection, refuses, starts⟩ := startAttempt_eq (c := s.client.record (.connectCall joining))
    kept.steady.takes joining
  have made : s.client.connect joining =
      { s.client with log := s.client.log ++ [.connectCall joining] ++ [.attempt]
                      isConnecting := true
                      connection
                      connecting := s.client.connecting ++ [joining] } := by
    have begun : s.client.connect joining =
        (s.client.record (.connectCall joining)).startAttempt joining := by
      simp [Client.connect, Client.record, down, idle]
    rw [begun, starts]
    rfl
  have begins (client : Client ε) (longer : client.connecting = s.client.connecting ++ [joining]) :
      s.trackConnect joining client =
        { s with client, started := s.started + 1, connecting := s.connecting ++ [s.started],
                 calls := s.calls ++ [(joining, some s.started)] } := by
    simp [trackConnect, longer]
  rw [track, made, begins _ (by rfl)]
  cases kept.phase with
  | resting resting =>
    obtain ⟨none_waiting, frame⟩ := resting.down (Or.inl down)
    have new : s.started ∉ s.failures := fun member => Nat.lt_irrefl _ (kept.steady.failures _ member)
    refine ⟨⟨kept.steady.takes.refuses refuses, kept.steady.accounted.call ?_ rfl rfl ?_ fun x => ?_,
      ?_, ?_, kept.steady.waiting, kept.steady.disconnecting⟩, .connecting joining s.started
        ⟨?_, resting.fetching, resting.tearingDown, rfl, down, allowed.1, none_waiting, frame, new,
          [], ?_, ?_⟩⟩
    · have silent := record_answers (s.client.record (.connectCall joining)) .attempt rfl
      exact silent.trans (record_answers s.client (.connectCall joining) rfl)
    · intro b same
      cases same
      exact new
    · simp [held, Client.tearingDown]
      omega
    · intro call member b own
      rcases List.mem_append.mp member with member | member
      · exact Nat.lt_succ_of_lt (kept.steady.numbered call member b own)
      · cases List.mem_singleton.mp member
        cases own
        exact Nat.lt_succ_self _
    · exact fun b member => Nat.lt_succ_of_lt (kept.steady.failures b member)
    · simp [resting.connecting.1, resting.connecting.2]
    · simp [filter_fresh kept.steady.numbered]
    · rw [waitingCallbacks, none_waiting, List.append_nil, resting.joined]
      exact Nat.zero_le _
  | connecting cb a connecting => cases idle.symm.trans connecting.isConnecting
  | fetching cb a fetching => cases down.symm.trans fetching.isConnected
  | tearing attempt tearing =>
    obtain ⟨_, busy⟩ := allowed.2.resolve_left (by simp [tearing.tearingDown])
    cases idle.symm.trans busy

theorem Kept.connect (kept : s.Kept) (allowed : s.Undisturbed (.connect joining)) :
    (s.track (s.client.connect joining) (.connect joining)).Kept := by
  cases up : s.client.isConnected with
  | true => exact kept.connectDeferred up allowed
  | false =>
    cases busy : s.client.isConnecting with
    | true => exact kept.connectJoined up busy allowed
    | false => exact kept.connectStarts up busy allowed

theorem Kept.disconnect (kept : s.Kept) (allowed : s.Undisturbed (.disconnect cb)) :
    Kept { s with client := s.client.disconnect cb } := by
  obtain ⟨free, settled, none_waiting, returned⟩ := allowed
  have frame : ClientFrame.joined s.client.frame = [] := by rw [returned]; rfl
  have silent := record_answers s.client (.disconnectCall cb) rfl
  cases kept.phase with
  | resting resting =>
    by_cases leaving : s.client.isDisconnecting
    · have ignored : s.client.disconnect cb = s.client.record (.disconnectCall cb) := by
        simp [Client.disconnect, Client.record, leaving]
      rw [ignored]
      refine ⟨⟨kept.steady.takes, kept.steady.accounted.unchanged silent rfl fun x => rfl,
        kept.steady.numbered, kept.steady.failures, kept.steady.waiting, kept.steady.disconnecting⟩,
        .resting ⟨resting.connecting, resting.fetching, resting.joined, resting.tearingDown,
          resting.isConnecting, fun _ => ⟨none_waiting, frame⟩⟩⟩
    · have asked : s.client.disconnect cb =
          { s.client.record (.disconnectCall cb) with
            isDisconnecting := true, disconnecting := s.client.disconnecting ++ [cb] } := by
        simp [Client.disconnect, Client.record, leaving]
      rw [asked]
      refine ⟨⟨kept.steady.takes, kept.steady.accounted.unchanged silent rfl fun x => rfl,
        kept.steady.numbered, kept.steady.failures, kept.steady.waiting, ?_⟩,
        .resting ⟨resting.connecting, resting.fetching, resting.joined, resting.tearingDown,
          resting.isConnecting, fun _ => ⟨none_waiting, frame⟩⟩⟩
      have none_asked := kept.steady.disconnecting
      simp only [leaving, Bool.toNat_false, Nat.le_zero, List.length_eq_zero_iff] at none_asked
      simp [none_asked]
  | connecting cb a connecting => cases connecting.inFlight.symm.trans free
  | fetching cb a fetching => cases fetching.inFlight.symm.trans free
  | tearing attempt tearing => cases settled.symm.trans tearing.tearingDown

/-- A client whose listeners have yet to call callbacks of connect rests. -/
theorem Kept.resting_of_frame (kept : s.Kept) (waiting : ClientFrame.joined s.client.frame ≠ []) :
    s.Resting ∧ s.client.isConnected = true ∧ s.client.isDisconnecting = false := by
  cases kept.phase with
  | resting resting =>
    refine ⟨resting, ?_, ?_⟩
    · by_contra down
      exact waiting (resting.down (Or.inl (by simpa using down))).2
    · by_contra leaving
      exact waiting (resting.down (Or.inr (by simpa using leaving))).2
  | connecting cb a connecting => exact absurd connecting.frame waiting
  | fetching cb a fetching => exact absurd fetching.frame waiting
  | tearing attempt tearing => exact absurd tearing.frame waiting

/-- One of the callbacks that wait for 'ready' is called. -/
theorem Kept.resumeReady (kept : s.Kept) (frame : Option ClientFrame)
    (waiting : ClientFrame.joined s.client.frame = cb :: ClientFrame.joined frame) :
    Kept { s with client := Client.next { s.client with frame } cb none } := by
  obtain ⟨resting, up, staying⟩ := kept.resting_of_frame (by simp [waiting])
  have accounted : Accounted { s with client := Client.next { s.client with frame } cb none } := by
    refine kept.steady.accounted.answer cb false ?_ rfl fun x => ?_
    · exact next_answers { s.client with frame } cb none
    · simp [held, Client.next, Client.tearingDown, waiting]
      omega
  refine ⟨⟨kept.steady.takes, accounted, kept.steady.numbered, kept.steady.failures,
    kept.steady.waiting, kept.steady.disconnecting⟩, .resting ⟨resting.connecting, resting.fetching,
    resting.joined, resting.tearingDown, rfl, fun down => ?_⟩⟩
  rcases down with down | leaving
  · cases up.symm.trans down
  · cases staying.symm.trans leaving

/-- The callback of a disconnect is none of those of connect. -/
theorem Kept.resumeDisconnected (kept : s.Kept) (returning : s.client.frame = some (.disconnected cb)) :
    Kept { s with client := s.client.resume (.disconnected cb) } := by
  have frame : ClientFrame.joined s.client.frame = [] := by rw [returning]; rfl
  have accounted : Accounted { s with client := s.client.resume (.disconnected cb) } := by
    refine kept.steady.accounted.unchanged ?_ rfl fun x => ?_
    · cases cb <;> simp [answers, Client.resume, ClientEvent.answer?]
    · have after : ClientFrame.joined none = [] := rfl
      simp [held, Client.resume, Client.tearingDown, frame, after]
  refine ⟨⟨kept.steady.takes, accounted, kept.steady.numbered, kept.steady.failures, kept.steady.waiting,
    kept.steady.disconnecting⟩, kept.phase.of_view ?_⟩
  simp only [phaseView, frame]
  rfl

theorem Kept.resume (kept : s.Kept) {frame : ClientFrame} (returning : s.client.frame = some frame) :
    Kept { s with client := s.client.resume frame } := by
  cases frame with
  | ready joined cb =>
    cases joined with
    | nil => exact kept.resumeReady none (by rw [returning]; rfl)
    | cons first rest => exact kept.resumeReady (some (.ready rest cb)) (by rw [returning]; rfl)
  | disconnected cb => exact kept.resumeDisconnected returning

/-- The client that a native connect answers is that of the one attempt. -/
theorem Phase.connecting_of (phase : s.Phase) {index : Nat} (found : s.client.connecting[index]? = some cb) :
    index = 0 ∧ ∃ a, s.Connecting cb a := by
  cases phase with
  | connecting own a connecting =>
    obtain ⟨rfl, rfl⟩ := found_single connecting.connecting.1 found
    exact ⟨rfl, a, connecting⟩
  | resting resting => simp [resting.connecting.1] at found
  | fetching own a fetching => simp [fetching.connecting.1] at found
  | tearing attempt tearing => simp [tearing.connecting.1] at found

theorem Phase.fetching_of (phase : s.Phase) {index : Nat} (found : s.client.fetching[index]? = some cb) :
    index = 0 ∧ ∃ a, s.Fetching cb a := by
  cases phase with
  | fetching own a fetching =>
    obtain ⟨rfl, rfl⟩ := found_single fetching.fetching.1 found
    exact ⟨rfl, a, fetching⟩
  | resting resting => simp [resting.fetching.1] at found
  | connecting own a connecting => simp [connecting.fetching.1] at found
  | tearing attempt tearing => simp [tearing.fetching.1] at found

/-- The native connect of an attempt has succeeded. -/
theorem Kept.connected (kept : s.Kept) {index : Nat} (found : s.client.connecting[index]? = some cb) :
    (s.track (Client.connected { s.client with connecting := s.client.connecting.eraseIdx index } cb none)
      (.deliver (.connected index none))).Kept := by
  obtain ⟨rfl, a, connecting⟩ := kept.phase.connecting_of found
  obtain ⟨list, numbers⟩ := connecting.connecting
  have accounted : Accounted
      (s.track (Client.connected { s.client with connecting := s.client.connecting.eraseIdx 0 } cb none)
        (.deliver (.connected 0 none))) := by
    refine kept.steady.accounted.unchanged rfl rfl fun x => ?_
    simp [held, track, Client.connected, Client.tearingDown, list, connecting.fetching.1]
  obtain ⟨others, calls, waiting⟩ := connecting.owns.calls
  refine ⟨⟨kept.steady.takes, accounted, kept.steady.numbered, kept.steady.failures,
    kept.steady.waiting, kept.steady.disconnecting⟩, .fetching cb a ⟨?_, ?_, connecting.tearingDown,
      rfl, connecting.isDisconnecting, connecting.frame, connecting.owns.running, others, calls,
      waiting⟩⟩
  · simp [track, Client.connected, list, numbers]
  · simp [track, Client.connected, connecting.fetching, numbers]

/-- An attempt none of whose other calls has a callback has none that waits. -/
theorem Owns.alone (owns : s.Owns cb a) (alone : s.Alone (some a)) :
    ∃ others, s.calls.filter (·.2 = some a) = (cb, some a) :: others ∧ (∀ call ∈ others, call.1 = none) ∧
      s.client.joined.countP Option.isSome = 0 := by
  obtain ⟨others, calls, waiting⟩ := owns.calls
  have silent : ∀ call ∈ others, call.1 = none := by
    intro call member
    exact alone a rfl call (by rwa [calls])
  have nobody : others.countP (·.1.isSome) = 0 :=
    List.countP_eq_zero.mpr fun call member => by simp [silent call member]
  rw [waitingCallbacks, List.countP_append] at waiting
  exact ⟨others, calls, silent, by omega⟩

/-- The native connect has failed, and the callback is called at once. -/
theorem Kept.connectFailed (kept : s.Kept) {index : Nat} {err : ε}
    (allowed : s.Undisturbed (.deliver (.connected index (some err))))
    (found : s.client.connecting[index]? = some cb) :
    (s.track (Client.connected { s.client with connecting := s.client.connecting.eraseIdx index } cb
      (some err)) (.deliver (.connected index (some err)))).Kept := by
  obtain ⟨rfl, a, connecting⟩ := kept.phase.connecting_of found
  obtain ⟨list, numbers⟩ := connecting.connecting
  have alone : s.Alone (some a) := by
    have own : s.Alone s.connecting[0]? := allowed
    rwa [numbers] at own
  obtain ⟨others, calls, silent, nobody⟩ := connecting.owns.alone alone
  have failed : Client.connected { s.client with connecting := s.client.connecting.eraseIdx 0 } cb
      (some err) = Client.next { s.client with connecting := [] } cb (some err) := by
    simp [Client.connected, Client.fail, connecting.isConnected, list]
  have tracked : s.track (Client.next { s.client with connecting := [] } cb (some err))
      (.deliver (.connected 0 (some err))) =
        { s with client := Client.next { s.client with connecting := [] } cb (some err)
                 connecting := [], failures := s.failures ++ [a] } := by
    simp [track, numbers]
  rw [failed, tracked]
  refine ⟨⟨kept.steady.takes, kept.steady.accounted.failing connecting.owns.running calls silent rfl rfl
    fun x => ?_, kept.steady.numbered, connecting.owns.failing kept.steady, kept.steady.waiting,
    kept.steady.disconnecting⟩, .resting ⟨⟨rfl, rfl⟩, connecting.fetching, nobody,
      connecting.tearingDown, rfl, fun _ => ⟨connecting.immediates, connecting.frame⟩⟩⟩
  · have answers := next_answers { s.client with connecting := [] } cb (some err)
    simp only [ClientAttempts.answers, answers, List.count_append]
    simp [held, Client.next, Client.tearingDown, list]
    omega

/-- An attempt has succeeded, and 'ready' is emitted. -/
theorem Kept.metadata (kept : s.Kept) {index : Nat} (found : s.client.fetching[index]? = some cb) :
    (s.track (Client.metadata { s.client with fetching := s.client.fetching.eraseIdx index } cb none)
      (.deliver (.metadata index none))).Kept := by
  obtain ⟨rfl, a, fetching⟩ := kept.phase.fetching_of found
  obtain ⟨list, numbers⟩ := fetching.fetching
  have silent := record_answers s.client .ready rfl
  refine ⟨⟨kept.steady.takes, kept.steady.accounted.unchanged silent rfl fun x => ?_,
    kept.steady.numbered, kept.steady.failures, kept.steady.waiting, kept.steady.disconnecting⟩,
    .resting ⟨fetching.connecting, ⟨?_, ?_⟩, rfl, fetching.tearingDown, rfl, fun down => ?_⟩⟩
  · have frame : ClientFrame.joined (some (.ready s.client.joined cb)) = s.client.joined ++ [cb] := rfl
    simp [held, track, Client.metadata, Client.record, Client.tearingDown, list, fetching.connecting.1,
      fetching.frame, frame]
    omega
  · simp [track, Client.metadata, Client.record, list]
  · simp [track, numbers]
  · rcases down with down | leaving
    · cases down
    · cases fetching.isDisconnecting.symm.trans leaving

/-- The metadata request has failed, and the native client is disconnected. -/
theorem Kept.metadataFailed (kept : s.Kept) {index : Nat} {err : ε}
    (allowed : s.Undisturbed (.deliver (.metadata index (some err))))
    (found : s.client.fetching[index]? = some cb) :
    (s.track (Client.metadata { s.client with fetching := s.client.fetching.eraseIdx index } cb (some err))
      (.deliver (.metadata index (some err)))).Kept := by
  obtain ⟨rfl, a, fetching⟩ := kept.phase.fetching_of found
  obtain ⟨list, numbers⟩ := fetching.fetching
  obtain ⟨own, none_waiting⟩ : s.Alone s.fetching[0]? ∧ s.client.immediates = [] := allowed
  have alone : s.Alone (some a) := by rwa [numbers] at own
  obtain ⟨others, calls, quiet, nobody⟩ := fetching.owns.alone alone
  have failed : Client.metadata { s.client with fetching := s.client.fetching.eraseIdx 0 } cb
      (some err) = { s.client with fetching := [], log := s.client.log ++ [.connectionFailure err]
                                   isConnected := false
                                   failed := s.client.failed ++ [{ cb, err }] } := by
    simp [Client.metadata, Client.fail, Client.record, fetching.isConnected, list]
  have tracked (client : Client ε) : s.track client (.deliver (.metadata 0 (some err))) =
      { s with client, fetching := [], failures := s.failures ++ [a] } := by
    simp [track, numbers]
  rw [failed, tracked]
  have silent := record_answers s.client (.connectionFailure err) rfl
  have settled : s.client.failed.filter (!·.callbackCalled) = [] := fetching.tearingDown
  have torn : (s.client.failed ++ [({ cb, err } : FailedAttempt ε)]).filter
      (!·.callbackCalled) = [{ cb, err }] := by
    rw [List.filter_append, settled]
    rfl
  refine ⟨⟨kept.steady.takes, kept.steady.accounted.failing fetching.owns.running calls quiet rfl rfl
    fun x => ?_, kept.steady.numbered, fetching.owns.failing kept.steady, fun attempt member _ => ?_,
    kept.steady.disconnecting⟩, .tearing { cb, err } ⟨fetching.connecting, ⟨rfl, rfl⟩, nobody,
      torn, rfl, fetching.isDisconnecting, none_waiting, fetching.frame⟩⟩
  · simp only [answers, Client.record] at silent ⊢
    simp only [held, Client.tearingDown, torn, settled, list, silent]
    simp
    omega
  · rename_i uncalled
    rcases List.mem_append.mp member with member | member
    · exact kept.steady.waiting attempt member uncalled
    · cases List.mem_singleton.mp member
      rfl

/-- The native disconnect of a failed attempt, or its timer. -/
theorem Kept.settle (kept : s.Kept) {index : Nat} {old new : FailedAttempt ε}
    (found : s.client.failed[index]? = some old) (called : new.callbackCalled = old.callbackCalled)
    (callback : new.cb = old.cb) : Kept { s with client := s.client.settle index new } := by
  cases before : old.callbackCalled with
  | true =>
    have marked : s.client.settle index new =
        { s.client with failed := s.client.failed.set index new } := by
      simp [Client.settle, called, before]
    have same : Client.tearingDown { s.client with failed := s.client.failed.set index new } =
        s.client.tearingDown := filter_set_called found before (called.trans before)
    rw [marked]
    refine ⟨⟨kept.steady.takes, kept.steady.accounted.unchanged rfl rfl fun x => ?_,
      kept.steady.numbered, kept.steady.failures, fun attempt member uncalled => ?_,
      kept.steady.disconnecting⟩, kept.phase.of_view ?_⟩
    · simp only [held, same]
    · rcases List.mem_or_eq_of_mem_set member with member | rfl
      · exact kept.steady.waiting attempt member uncalled
      · cases (called.trans before).symm.trans uncalled
    · simp only [phaseView, same]
  | false =>
    have calls : s.client.settle index new = Client.next
        { s.client with failed := s.client.failed.set index { new with callbackCalled := true } }
        new.cb (some new.err) := by
      simp [Client.settle, called, before]
    have waiting : old ∈ s.client.tearingDown :=
      List.mem_filter.mpr ⟨List.mem_of_getElem? found, by simp [before]⟩
    rw [calls]
    cases kept.phase with
    | tearing attempt tearing =>
      obtain ⟨rfl, settled⟩ := filter_set_calling { new with callbackCalled := true } found
        before rfl tearing.tearingDown
      refine ⟨⟨kept.steady.takes, kept.steady.accounted.answer new.cb true ?_ rfl
        fun x => ?_, kept.steady.numbered, kept.steady.failures, fun attempt member uncalled => ?_,
        kept.steady.disconnecting⟩, .resting ⟨tearing.connecting, tearing.fetching, tearing.joined,
          settled, rfl, fun _ => ⟨tearing.immediates, tearing.frame⟩⟩⟩
      · exact next_answers _ new.cb (some new.err)
      · simp only [held, Client.next, tearing.tearingDown]
        simp only [Client.tearingDown, settled]
        simp [callback]
        omega
      · rcases List.mem_or_eq_of_mem_set member with member | rfl
        · exact kept.steady.waiting attempt member uncalled
        · cases uncalled
    | resting resting => simp [resting.tearingDown] at waiting
    | connecting cb a connecting => simp [connecting.tearingDown] at waiting
    | fetching cb a fetching => simp [fetching.tearingDown] at waiting

/-- The immediate of a call on a connected client. -/
theorem Kept.immediate (kept : s.Kept) {index : Nat} (found : s.client.immediates[index]? = some cb) :
    Kept { s with
      client := Client.next { s.client with immediates := s.client.immediates.eraseIdx index } cb none } := by
  obtain ⟨bound, _⟩ := List.getElem?_eq_some_iff.mp found
  have accounted : Accounted { s with
      client := Client.next { s.client with immediates := s.client.immediates.eraseIdx index } cb none } := by
    refine kept.steady.accounted.answer cb false ?_ rfl fun x => ?_
    · exact next_answers _ cb none
    · have taken := told_eraseIdx found false x
      simp [held, Client.next, Client.tearingDown]
      omega
  refine ⟨⟨kept.steady.takes, accounted, kept.steady.numbered, kept.steady.failures, kept.steady.waiting,
    kept.steady.disconnecting⟩, ?_⟩
  cases kept.phase with
  | resting resting =>
    refine .resting ⟨resting.connecting, resting.fetching, resting.joined, resting.tearingDown, rfl,
      fun down => ?_⟩
    have none_waiting := (resting.down down).1
    simp [none_waiting] at bound
  | connecting own a connecting => simp [connecting.immediates] at bound
  | fetching own a fetching =>
    obtain ⟨others, calls, waiting⟩ := fetching.owns.calls
    refine .fetching own a ⟨fetching.connecting, fetching.fetching, fetching.tearingDown,
      fetching.isConnected, fetching.isDisconnecting, fetching.frame, fetching.owns.running, others,
      calls, Nat.le_trans ?_ waiting⟩
    exact ((List.eraseIdx_sublist s.client.immediates index).append_left s.client.joined).countP_le
  | tearing attempt tearing => simp [tearing.immediates] at bound

/-- The end of a disconnect. -/
theorem Kept.disconnected (kept : s.Kept) {index : Nat}
    (found : s.client.disconnecting[index]? = some cb) :
    Kept { s with
      client := Client.disconnected { s.client with disconnecting := s.client.disconnecting.eraseIdx index } cb } := by
  obtain ⟨bound, _⟩ := List.getElem?_eq_some_iff.mp found
  have few := kept.steady.disconnecting
  cases leaving : s.client.isDisconnecting with
  | false =>
    rw [leaving, Bool.toNat_false] at few
    omega
  | true =>
    rw [leaving, Bool.toNat_true] at few
    have silent := record_answers s.client .disconnected rfl
    have refuses := s.client.connection.configureEntries_refuses false s.client.configs.entries
    cases kept.phase with
    | resting resting =>
      obtain ⟨none_waiting, frame⟩ := resting.down (Or.inr leaving)
      refine ⟨⟨kept.steady.takes.refuses refuses, kept.steady.accounted.unchanged silent rfl fun x => ?_,
        kept.steady.numbered, kept.steady.failures, kept.steady.waiting, ?_⟩,
        .resting ⟨resting.connecting, resting.fetching, resting.joined, resting.tearingDown,
          resting.isConnecting, fun _ => ⟨none_waiting, rfl⟩⟩⟩
      · have after : ClientFrame.joined (some (.disconnected cb)) = [] := rfl
        simp [held, Client.disconnected, Client.record, Client.tearingDown, frame, after]
      · have shorter := List.length_eraseIdx_of_lt bound
        show (s.client.disconnecting.eraseIdx index).length ≤ 0
        omega
    | connecting own a connecting => cases leaving.symm.trans connecting.isDisconnecting
    | fetching own a fetching => cases leaving.symm.trans fetching.isDisconnecting
    | tearing attempt tearing => cases leaving.symm.trans tearing.isDisconnecting

theorem Kept.deliver (kept : s.Kept) {event : ClientLoopEvent ε}
    (allowed : s.Undisturbed (.deliver event)) {client : Client ε}
    (run : s.client.deliver event = some client) : (s.track client (.deliver event)).Kept := by
  cases event with
  | connected index err =>
    obtain ⟨cb, found, rfl⟩ := Option.map_eq_some_iff.mp run
    cases err with
    | none => exact kept.connected found
    | some err => exact kept.connectFailed allowed found
  | metadata index err =>
    obtain ⟨cb, found, rfl⟩ := Option.map_eq_some_iff.mp run
    cases err with
    | none => exact kept.metadata found
    | some err => exact kept.metadataFailed allowed found
  | failureDisconnected index =>
    obtain ⟨attempt, found, rfl⟩ := Option.map_eq_some_iff.mp run
    exact kept.settle (Option.filter_eq_some_iff.mp found).1 rfl rfl
  | failureTimeout index =>
    obtain ⟨attempt, found, rfl⟩ := Option.map_eq_some_iff.mp run
    exact kept.settle (Option.filter_eq_some_iff.mp found).1 rfl rfl
  | immediate index =>
    obtain ⟨cb, found, rfl⟩ := Option.map_eq_some_iff.mp run
    exact kept.immediate found
  | disconnected index =>
    obtain ⟨cb, found, rfl⟩ := Option.map_eq_some_iff.mp run
    exact kept.disconnected found

theorem Kept.step {action : ClientAction ε} (allowed : s.Undisturbed action) (kept : s.Kept)
    (run : s.step action = some t) : t.Kept := by
  obtain ⟨client, stepped, rfl⟩ := Option.map_eq_some_iff.mp run
  cases action with
  | connect cb =>
    cases Option.some.inj stepped
    exact kept.connect allowed
  | disconnect cb =>
    cases Option.some.inj stepped
    exact kept.disconnect allowed
  | resume =>
    obtain ⟨frame, returning, rfl⟩ := Option.map_eq_some_iff.mp stepped
    exact kept.resume returning
  | deliver event =>
    simp only [Client.step, Option.ite_none_left_eq_some] at stepped
    exact kept.deliver allowed stepped.2

/-- With nothing pending no callback is held. -/
theorem Kept.released (kept : s.Kept) (quiescent : s.client.Quiescent) : held s.client = [] := by
  have settled : s.client.tearingDown = [] := by
    rw [Client.tearingDown, List.filter_eq_nil_iff]
    intro attempt member uncalled
    have waits := kept.steady.waiting attempt member (by simpa using uncalled)
    cases (quiescent.failed attempt member).1.symm.trans waits
  have nobody : s.client.joined.countP Option.isSome = 0 := by
    cases kept.phase with
    | resting resting => exact resting.joined
    | connecting cb a connecting => cases quiescent.connecting.symm.trans connecting.connecting.1
    | fetching cb a fetching => cases quiescent.fetching.symm.trans fetching.fetching.1
    | tearing attempt tearing => exact tearing.joined
  have frame : ClientFrame.joined none = [] := rfl
  simp [held, quiescent.connecting, quiescent.fetching, quiescent.immediates, quiescent.frame, settled,
    told_eq_nil false nobody, frame]

theorem created_kept {configs : CbConfigs} {globalError topicError : String → Option String}
    {producer : Bool} {start : Client ε}
    (created : Client.create configs globalError topicError producer = .ok start) :
    Kept { client := start } := by
  simp only [Client.create] at created
  split at created
  · rename_i gconfig tconfig globalRun topicRun
    cases Except.ok.inj created
    have global := Conf.createLoop_takes globalRun
    have topic := Conf.createLoop_takes topicRun
    have takes : Connection.Takes { gconfig, tconfig, drCb := if producer then some {} else none }
        configs := by
      refine ⟨fun entry member => ?_, fun entry member => ?_⟩
      · rw [← global.2 entry member]
        exact Conf.configureCallback_refuses global.1 _ _ _
      · rw [← topic.2 entry member]
        exact Conf.configureCallback_refuses topic.1 _ _ _
    exact ⟨⟨takes, fun _ => rfl, by simp, by simp, by simp, Nat.le_refl 0⟩,
      .resting ⟨⟨rfl, rfl⟩, ⟨rfl, rfl⟩, rfl, rfl, rfl, fun _ => ⟨rfl, rfl⟩⟩⟩
  · cases created
  · cases created

end
end ClientAttempts

/-- As long as connect is given no callback while a failed attempt is torn down
and no failing attempt had a second call with one, every callback of connect has
been called exactly once when nothing is pending, with an error exactly for the
attempts that failed. -/
theorem connect_called_once {ε : Type} {configs : CbConfigs}
    {globalError topicError : String → Option String} {producer : Bool} {start : Client ε}
    (created : Client.create configs globalError topicError producer = .ok start)
    {trace : List (ClientAction ε)} {s : ClientAttempts ε}
    (reach : ReachWhile ClientAttempts.Undisturbed ClientAttempts.step { client := start } trace s)
    (quiescent : s.client.Quiescent) : s.answers.Perm s.due := by
  have kept := reach.invariant ClientAttempts.Kept (ClientAttempts.created_kept created)
    ClientAttempts.Kept.step
  rw [List.perm_iff_count]
  intro x
  have accounted := kept.steady.accounted x
  rwa [kept.released quiescent, List.count_nil, Nat.add_zero] at accounted

/-- Two calls during an attempt that succeeds, and after a disconnect one for
an attempt that fails, with another call that has no callback. -/
def connectsInTurn : List (ClientAction String) :=
  [.connect (some 0), .connect (some 1), .deliver (.connected 0 none), .connect (some 2),
   .deliver (.metadata 0 none), .resume, .resume, .deliver (.immediate 0), .disconnect none,
   .deliver (.disconnected 0), .resume, .connect (some 3), .connect none,
   .deliver (.connected 0 (some "broker transport failure"))]

theorem connect_called_once_inTurn :
    ∃ s, ReachWhile ClientAttempts.Undisturbed ClientAttempts.step { client := sampleClient }
        connectsInTurn s ∧
      s.answers.Perm s.due ∧ s.due = [(0, false), (1, false), (2, false), (3, true)] := by
  obtain ⟨s, run, facts⟩ : ∃ s,
      replayWhile ClientAttempts.Undisturbed ClientAttempts.step { client := sampleClient }
          connectsInTurn = some s ∧
        (s.due, s.client.connecting ++ s.client.fetching ++ s.client.disconnecting ++ s.client.immediates,
          s.client.failed.length + s.client.frame.toList.length) =
            ([(0, false), (1, false), (2, false), (3, true)], [], 0) :=
    Option.map_eq_some_iff.mp (by decide +kernel)
  simp only [Prod.mk.injEq, List.append_eq_nil_iff, Nat.add_eq_zero_iff, List.length_eq_zero_iff,
    Option.toList_eq_nil_iff] at facts
  obtain ⟨due, ⟨⟨⟨connecting, fetching⟩, disconnecting⟩, immediates⟩, failed, frame⟩ := facts
  have reach := ReachWhile.of_replayWhile run
  have quiescent : s.client.Quiescent :=
    ⟨connecting, fetching, disconnecting, immediates, frame, by simp [failed]⟩
  exact ⟨s, reach, connect_called_once sampleClient_created reach quiescent, due⟩

/-- The call that joined an attempt whose native connect fails is forgotten. -/
theorem joined_connect_forgotten :
    ∃ s, Reach ClientAttempts.step { client := sampleClient }
        [.connect (some 0), .connect (some 1),
         .deliver (.connected 0 (some "broker transport failure"))] s ∧
      s.client.Quiescent ∧ s.due = [(0, true), (1, true)] ∧ s.answers = [(0, true)] :=
  ⟨_, reach_iff_replay.mpr rfl, ⟨rfl, rfl, rfl, rfl, rfl, nofun⟩, rfl, rfl⟩

end NodeRdkafka

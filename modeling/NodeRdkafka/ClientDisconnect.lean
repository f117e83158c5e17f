import NodeRdkafka.ClientCallbacks
import NodeRdkafka.Lib.Lists

namespace NodeRdkafka
open Transition

namespace ClientEvent
variable {ε : Type}

/-- The callback that a call of disconnect gives. -/
def given? : ClientEvent ε → Option Nat
  | disconnectCall cb => cb
  | _ => none

/-- The callback of disconnect that is called. -/
def told? : ClientEvent ε → Option Nat
  | disconnectCallback cb => some cb
  | _ => none

end ClientEvent

/-- The callback that the end of a disconnect has still to call. -/
def ClientFrame.owed : Option ClientFrame → List Nat
  | some (.disconnected cb) => cb.toList
  | _ => []

namespace Client
variable {ε : Type} {s t : Client ε}

/-- The callbacks that the calls of disconnect have given, in the order of the calls. -/
def given (s : Client ε) : List Nat := s.log.filterMap ClientEvent.given?

/-- The callbacks of disconnect that have been called. -/
def told (s : Client ε) : List Nat := s.log.filterMap ClientEvent.told?

/-- The callbacks that native workers hold, or that the end of one is about to call. -/
def owed (s : Client ε) : List Nat := s.disconnecting.reduceOption ++ ClientFrame.owed s.frame

/-- No native disconnect is pending: none is queued, and the callback of none is running. -/
def NoWorker (s : Client ε) : Prop :=
  s.disconnecting = [] ∧ ∀ cb, s.frame ≠ some (.disconnected cb)

/-- The condition on a step: a call of disconnect that gives a callback does
not come while a disconnect is in progress. -/
def Heard (s : Client ε) : ClientAction ε → Prop
  | .disconnect (some _) => s.isDisconnecting = false
  | _ => True

instance (s : Client ε) : DecidablePred s.Heard
  | .disconnect (some _) => inferInstanceAs (Decidable (_ = _))
  | .disconnect none | .connect _ | .resume | .deliver _ => .isTrue trivial

/-- What a step leaves alone when it has nothing to do with disconnect. -/
structure Apart (s t : Client ε) : Prop where
  disconnecting : t.disconnecting = s.disconnecting
  isDisconnecting : t.isDisconnecting = s.isDisconnecting
  owed : ClientFrame.owed t.frame = ClientFrame.owed s.frame
  log : ∃ events, t.log = s.log ++ events ∧ ∀ event ∈ events, event.given? = none ∧ event.told? = none

theorem Apart.of_event {s t : Client ε} (event : ClientEvent ε) (given : event.given? = none)
    (told : event.told? = none) (log : t.log = s.log ++ [event])
    (disconnecting : t.disconnecting = s.disconnecting)
    (isDisconnecting : t.isDisconnecting = s.isDisconnecting)
    (owed : ClientFrame.owed t.frame = ClientFrame.owed s.frame) : s.Apart t :=
  ⟨disconnecting, isDisconnecting, owed, [event], log, by simp [given, told]⟩

theorem Apart.trans {s t u : Client ε} (first : s.Apart t) (second : t.Apart u) : s.Apart u := by
  obtain ⟨earlier, log, apart⟩ := first.log
  obtain ⟨later, further, quiet⟩ := second.log
  refine ⟨second.disconnecting.trans first.disconnecting,
    second.isDisconnecting.trans first.isDisconnecting, second.owed.trans first.owed,
    earlier ++ later, by rw [further, log, List.append_assoc], ?_⟩
  intro event member
  rcases List.mem_append.mp member with member | member
  · exact apart event member
  · exact quiet event member

theorem Apart.given (apart : s.Apart t) : t.given = s.given := by
  obtain ⟨events, log, silent⟩ := apart.log
  rw [Client.given, log, List.filterMap_append,
    List.filterMap_eq_nil_iff.mpr fun event member => (silent event member).1, List.append_nil]
  rfl

theorem Apart.told (apart : s.Apart t) : t.told = s.told := by
  obtain ⟨events, log, silent⟩ := apart.log
  rw [Client.told, log, List.filterMap_append,
    List.filterMap_eq_nil_iff.mpr fun event member => (silent event member).2, List.append_nil]
  rfl

theorem Apart.same_owed (apart : s.Apart t) : t.owed = s.owed := by
  rw [Client.owed, apart.disconnecting, apart.owed]
  rfl

theorem next_apart (s : Client ε) (cb : Option Nat) (err : Option ε) : s.Apart (s.next cb err) := by
  refine ⟨rfl, rfl, rfl, _, rfl, ?_⟩
  intro event member
  obtain ⟨called, _, rfl⟩ := List.mem_map.mp member
  exact ⟨rfl, rfl⟩

theorem startAttempt_apart (s : Client ε) (cb : Option Nat) : s.Apart (s.startAttempt cb) := by
  simp only [startAttempt, record]
  split <;> exact .of_event .attempt rfl rfl rfl rfl rfl rfl

theorem connect_apart (s : Client ε) (cb : Option Nat) : s.Apart (s.connect cb) := by
  have called : s.Apart (s.record (.connectCall cb)) := .of_event (.connectCall cb) rfl rfl rfl rfl rfl rfl
  simp only [connect]
  split
  · exact called.trans ⟨rfl, rfl, rfl, [], by simp, by simp⟩
  · split
    · exact called.trans ⟨rfl, rfl, rfl, [], by simp, by simp⟩
    · exact called.trans (startAttempt_apart _ cb)

theorem fail_apart (s : Client ε) (cb : Option Nat) (err : ε) : s.Apart (s.fail cb err) := by
  unfold fail
  split
  · exact .of_event (.connectionFailure err) rfl rfl rfl rfl rfl rfl
  · exact s.next_apart cb (some err)

theorem settle_apart (s : Client ε) (index : Nat) (attempt : FailedAttempt ε) :
    s.Apart (s.settle index attempt) := by
  unfold settle
  split
  · exact ⟨rfl, rfl, rfl, [], by simp, by simp⟩
  · obtain ⟨disconnecting, isDisconnecting, owed, log⟩ := next_apart
      { s with failed := s.failed.set index { attempt with callbackCalled := true } } attempt.cb
      (some attempt.err)
    exact ⟨disconnecting, isDisconnecting, owed, log⟩

theorem connected_apart (s : Client ε) (cb : Option Nat) (err : Option ε) :
    s.Apart (s.connected cb err) := by
  cases err with
  | some err => exact s.fail_apart cb err
  | none => exact ⟨rfl, rfl, rfl, [], by simp [connected], by simp⟩

/-- The emit of 'ready' starts when no other emit is running. -/
theorem metadata_apart {s : Client ε} (returned : s.frame = none) (cb : Option Nat) (err : Option ε) :
    s.Apart (s.metadata cb err) := by
  cases err with
  | some err => exact s.fail_apart cb err
  | none => exact .of_event .ready rfl rfl rfl rfl rfl (by rw [returned]; rfl)

/-- Of the events of the event loop only the end of a disconnect takes a
callback of disconnect. -/
theorem deliver_apart {event : ClientLoopEvent ε} (returned : s.frame = none)
    (run : s.deliver event = some t) (other : ∀ index, event ≠ .disconnected index) : s.Apart t := by
  have taken {u v : Client ε} (apart : u.Apart v) (disconnecting : u.disconnecting = s.disconnecting)
      (isDisconnecting : u.isDisconnecting = s.isDisconnecting) (frame : u.frame = s.frame)
      (log : u.log = s.log) : s.Apart v :=
    Apart.trans ⟨disconnecting, isDisconnecting, by rw [frame], [], by simp [log], by simp⟩ apart
  cases event with
  | connected index err =>
    obtain ⟨cb, _, rfl⟩ := Option.map_eq_some_iff.mp run
    exact taken (connected_apart _ cb err) rfl rfl rfl rfl
  | metadata index err =>
    obtain ⟨cb, _, rfl⟩ := Option.map_eq_some_iff.mp run
    exact taken (metadata_apart (by exact returned) cb err) rfl rfl rfl rfl
  | failureDisconnected index =>
    obtain ⟨attempt, _, rfl⟩ := Option.map_eq_some_iff.mp run
    exact s.settle_apart index _
  | failureTimeout index =>
    obtain ⟨attempt, _, rfl⟩ := Option.map_eq_some_iff.mp run
    exact s.settle_apart index _
  | immediate index =>
    obtain ⟨cb, _, rfl⟩ := Option.map_eq_some_iff.mp run
    exact taken (next_apart _ cb none) rfl rfl rfl rfl
  | disconnected index => exact absurd rfl (other index)

/-- The callback that a step drops: the one given to a call that comes while a
disconnect is in progress. -/
def dropped (s : Client ε) : ClientAction ε → List Nat
  | .disconnect cb => if s.isDisconnecting then cb.toList else []
  | _ => []

theorem heard_iff (s : Client ε) (action : ClientAction ε) : s.Heard action ↔ s.dropped action = [] := by
  cases action with
  | disconnect cb => cases cb <;> simp [Heard, dropped]
  | _ => simp [Heard, dropped]

/-- Every callback given has been called, is held, or has been dropped. -/
def Balanced (s : Client ε) (missed : List Nat) : Prop :=
  ∀ cb, s.given.count cb = s.told.count cb + s.owed.count cb + missed.count cb

theorem Balanced.apart {missed : List Nat} (balanced : s.Balanced missed) (apart : s.Apart t) :
    t.Balanced missed := by
  rw [Balanced, apart.given, apart.told, apart.same_owed]
  exact balanced

/-- A call of disconnect hands its callback to a worker, or drops it. -/
theorem disconnect_owed (s : Client ε) (cb : Option Nat) (x : Nat) : (s.disconnect cb).owed.count x =
    s.owed.count x + if s.isDisconnecting then 0 else cb.toList.count x := by
  by_cases busy : s.isDisconnecting
  · rw [if_pos busy]
    simp [Client.disconnect, record, busy, Client.owed]
  · have owed : (s.disconnect cb).owed =
        (s.disconnecting.reduceOption ++ cb.toList) ++ ClientFrame.owed s.frame := by
      simp [Client.disconnect, record, busy, Client.owed, List.reduceOption_append, List.reduceOption_singleton]
    rw [owed, if_neg busy, Client.owed, List.count_append, List.count_append, List.count_append]
    omega

/-- The end of a disconnect is about to call the callback that its worker held. -/
theorem disconnected_owed {index : Nat} {cb : Option Nat} (returned : s.frame = none)
    (found : s.disconnecting[index]? = some cb) (x : Nat) :
    (disconnected { s with disconnecting := s.disconnecting.eraseIdx index } cb).owed.count x = s.owed.count x := by
  have taken := Lists.reduceOption_eraseIdx found x
  simp only [Client.disconnected, Client.owed, record, returned, ClientFrame.owed, List.count_append, List.count_nil]
  omega

/-- No event of the event loop changes how often a callback is owed. -/
theorem deliver_owed {event : ClientLoopEvent ε} (returned : s.frame = none) (run : s.deliver event = some t) (x : Nat) :
    t.owed.count x = s.owed.count x := by
  by_cases ends : ∃ index, event = .disconnected index
  · obtain ⟨index, rfl⟩ := ends
    obtain ⟨cb, found, rfl⟩ := Option.map_eq_some_iff.mp run
    exact disconnected_owed returned found x
  · rw [(deliver_apart returned run fun index same => ends ⟨index, same⟩).same_owed]

theorem resume_owed {frame : ClientFrame} (running : s.frame = some frame) (x : Nat) :
    s.owed.count x = (s.resume frame).owed.count x + (ClientFrame.owed (some frame)).count x := by
  rw [Client.owed, running, List.count_append]
  cases frame with
  | ready joined cb => cases joined <;> simp [Client.resume, next, Client.owed, ClientFrame.owed]
  | disconnected cb => simp [Client.resume, Client.owed, ClientFrame.owed]

theorem Balanced.disconnect {missed : List Nat} (balanced : s.Balanced missed) (cb : Option Nat) :
    (s.disconnect cb).Balanced (missed ++ s.dropped (.disconnect cb)) := by
  intro x
  have before := balanced x
  have owed := s.disconnect_owed cb x
  have given : (s.disconnect cb).given = s.given ++ cb.toList := by
    simp only [Client.disconnect]
    cases cb <;> split <;> simp [Client.given, record, ClientEvent.given?]
  have told : (s.disconnect cb).told = s.told := by
    simp only [Client.disconnect]
    split <;> simp [Client.told, record, ClientEvent.told?]
  rw [given, told, owed, List.count_append, List.count_append, dropped]
  split
  · omega
  · rw [List.count_nil]
    omega

theorem Balanced.disconnected {missed : List Nat} {index : Nat} {cb : Option Nat}
    (balanced : s.Balanced missed) (returned : s.frame = none)
    (found : s.disconnecting[index]? = some cb) :
    (disconnected { s with disconnecting := s.disconnecting.eraseIdx index } cb).Balanced missed := by
  intro x
  have before := balanced x
  rw [disconnected_owed returned found]
  simp only [Client.disconnected, Client.given, Client.told, record, List.filterMap_append, List.count_append]
  simp only [Client.given, Client.told] at before
  simp only [List.filterMap_cons, List.filterMap_nil, ClientEvent.given?, ClientEvent.told?, List.count_nil]
  omega

theorem Balanced.resume {missed : List Nat} {frame : ClientFrame} (balanced : s.Balanced missed)
    (running : s.frame = some frame) : (s.resume frame).Balanced missed := by
  cases frame with
  | ready joined cb =>
    have owed : ClientFrame.owed s.frame = [] := by rw [running]; rfl
    have apart : s.Apart (s.resume (.ready joined cb)) := by
      cases joined with
      | nil =>
        obtain ⟨disconnecting, isDisconnecting, _, log⟩ := next_apart { s with frame := none } cb none
        exact ⟨disconnecting, isDisconnecting, owed.symm, log⟩
      | cons first rest =>
        obtain ⟨disconnecting, isDisconnecting, _, log⟩ :=
          next_apart { s with frame := some (.ready rest cb) } first none
        exact ⟨disconnecting, isDisconnecting, owed.symm, log⟩
    exact balanced.apart apart
  | disconnected cb =>
    intro x
    have before := balanced x
    have owed := resume_owed running x
    have given : (s.resume (.disconnected cb)).given = s.given := by
      cases cb <;> simp [Client.resume, Client.given, ClientEvent.given?]
    have told : (s.resume (.disconnected cb)).told = s.told ++ cb.toList := by
      cases cb <;> simp [Client.resume, Client.told, ClientEvent.told?]
    rw [ClientFrame.owed] at owed
    rw [given, told, List.count_append]
    omega

theorem Balanced.step {missed : List Nat} {action : ClientAction ε} (balanced : s.Balanced missed)
    (run : s.step action = some t) : t.Balanced (missed ++ s.dropped action) := by
  cases action with
  | connect cb =>
    cases Option.some.inj run
    simpa [dropped] using balanced.apart (s.connect_apart cb)
  | disconnect cb =>
    cases Option.some.inj run
    exact balanced.disconnect cb
  | resume =>
    obtain ⟨frame, running, rfl⟩ := Option.map_eq_some_iff.mp run
    simpa [dropped] using balanced.resume running
  | deliver event =>
    simp only [Client.step, Option.ite_none_left_eq_some] at run
    obtain ⟨idle, run⟩ := run
    have returned : s.frame = none := by simpa using idle
    have kept : t.Balanced missed := by
      by_cases ends : ∃ index, event = .disconnected index
      · obtain ⟨index, rfl⟩ := ends
        obtain ⟨cb, found, rfl⟩ := Option.map_eq_some_iff.mp run
        exact balanced.disconnected returned found
      · exact balanced.apart (deliver_apart returned run fun index same => ends ⟨index, same⟩)
    simpa [dropped] using kept

/-- What a run has dropped is nothing exactly when each of its calls was heard. -/
theorem balanced_run {start : Client ε} {trace : List (ClientAction ε)} (fresh : start.Balanced [])
    (reach : Reach step start trace s) :
    ∃ missed, s.Balanced missed ∧ (missed = [] ↔ ReachWhile Heard step start trace s) :=
  reach.ghost_iff_while Balanced dropped fresh heard_iff Balanced.step

theorem create_balanced {configs : CbConfigs} {globalError topicError : String → Option String}
    {producer : Bool} {start : Client ε} (run : create configs globalError topicError producer = .ok start) :
    start.Balanced [] := by
  simp only [create] at run
  split at run
  · cases Except.ok.inj run
    intro cb
    rfl
  · cases run
  · cases run

theorem NoWorker.owed (settled : s.NoWorker) : s.owed = [] := by
  obtain ⟨unqueued, idle⟩ := settled
  rw [Client.owed, unqueued]
  cases running : s.frame with
  | none => rfl
  | some frame =>
    cases frame with
    | ready joined cb => rfl
    | disconnected cb => exact absurd running (idle cb)

end Client

/-- When no native disconnect is pending, each callback given to disconnect
has been called as often as it was given, exactly once that is, if and only if
no call that gave one came while a disconnect was in progress. -/
theorem disconnect_told_iff {ε : Type} {configs : CbConfigs}
    {globalError topicError : String → Option String} {producer : Bool} {start s : Client ε}
    {trace : List (ClientAction ε)}
    (created : Client.create configs globalError topicError producer = .ok start)
    (reach : Reach Client.step start trace s) (settled : s.NoWorker) :
    s.told.Perm s.given ↔ ReachWhile Client.Heard Client.step start trace s := by
  obtain ⟨missed, balanced, allHeard⟩ := Client.balanced_run (Client.create_balanced created) reach
  rw [← allHeard, List.perm_iff_count]
  simp only [Client.Balanced, settled.owed, List.count_nil, Nat.add_zero] at balanced
  constructor
  · intro all
    refine List.eq_nil_iff_forall_not_mem.mpr fun cb member => ?_
    have missing := List.count_pos_iff.mpr member
    have called := all cb
    have given := balanced cb
    omega
  · rintro rfl cb
    simpa using (balanced cb).symm

/-- A client that is disconnected twice, the second time from the callback of
the first. -/
def disconnectsInTurn : List (ClientAction String) :=
  [.connect none, .deliver (.connected 0 none), .deliver (.metadata 0 none), .resume,
   .disconnect (some 0), .deliver (.disconnected 0), .resume,
   .disconnect (some 1), .deliver (.disconnected 0), .resume]

theorem disconnect_told_inTurn :
    ∃ s, Reach Client.step sampleClient disconnectsInTurn s ∧ s.told.Perm s.given ∧ s.given = [0, 1] := by
  obtain ⟨s, run, given, unqueued, idle⟩ : ∃ s, replayWhile Client.Heard Client.step sampleClient
      disconnectsInTurn = some s ∧ s.given = [0, 1] ∧ s.disconnecting = [] ∧ s.frame = none :=
    ⟨_, rfl, rfl, rfl, rfl⟩
  have heard := ReachWhile.of_replayWhile run
  have settled : s.NoWorker := ⟨unqueued, by simp [idle]⟩
  exact ⟨s, heard.reach, (disconnect_told_iff sampleClient_created heard.reach settled).mpr heard, given⟩

/-- The callback of a call that comes while a disconnect is in progress is
never called. -/
theorem disconnect_forgets :
    Client.create sampleConfigs (fun _ => none) (fun _ => none) false = .ok sampleClient ∧
      ∃ s, Reach Client.step sampleClient
          [.connect none, .deliver (.connected 0 none), .deliver (.metadata 0 none), .resume,
           .disconnect (some 0), .disconnect (some 1), .deliver (.disconnected 0), .resume] s ∧
        s.NoWorker ∧ s.given = [0, 1] ∧ s.told = [0] ∧ ¬ s.told.Perm s.given := by
  refine ⟨sampleClient_created, _, reach_iff_replay.mpr rfl, ⟨rfl, ?_⟩, rfl, rfl, by decide⟩
  intro cb
  simp [Client.resume]

end NodeRdkafka

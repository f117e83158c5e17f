import NodeRdkafka.ProducerPolling

namespace NodeRdkafka
open Transition

/-- A timer that setInterval has made. -/
structure PollTimer (ι : Type) where
  id : Nat
  interval : ι
  deriving DecidableEq

/-- The timers of a producer: the one stored in pollInterval, those that
are live, and how many have been made. -/
structure PollTimers (ι : Type) where
  pollInterval : Option (PollTimer ι) := none
  live : List (PollTimer ι) := []
  created : Nat := 0

namespace PollTimers
variable {ι : Type} [Zero ι] [DecidableEq ι]

def clear (t : PollTimers ι) : PollTimers ι :=
  match t.pollInterval with
  | some timer => { t with live := t.live.erase timer, pollInterval := none }
  | none => t

def start (t : PollTimers ι) (interval : ι) : PollTimers ι :=
  let timer := { id := t.created, interval }
  { pollInterval := some timer, live := t.live ++ [timer], created := t.created + 1 }

/-- What setPollInterval does to the timers. The listeners that it adds are
those of the function on the producer. -/
def setPollInterval (t : PollTimers ι) (isConnected : Bool) (interval : ι) : PollTimers ι :=
  if interval = 0 then t.clear
  else if !isConnected then t.clear
  else t.clear.start interval

variable {t : PollTimers ι}

/-- No timer is live but the stored one. -/
def Single (t : PollTimers ι) : Prop := t.live = t.pollInterval.toList

omit [Zero ι] in
theorem Single.clear (single : t.Single) : t.clear.live = [] ∧ t.clear.pollInterval = none := by
  unfold Single at single
  unfold PollTimers.clear
  split
  · rename_i timer stored
    simp [single, stored]
  · rename_i none
    simp [single, none]

theorem Single.setPollInterval (single : t.Single) (isConnected : Bool) (interval : ι) :
    (t.setPollInterval isConnected interval).Single := by
  obtain ⟨cleared, none⟩ := single.clear
  unfold PollTimers.setPollInterval
  split
  · simp [Single, cleared, none]
  · split
    · simp [Single, cleared, none]
    · simp [Single, start, cleared]

end PollTimers

namespace PollingProducer
variable {ε ι : Type} [Zero ι] {s t : PollingProducer ε ι}

/-- What every run keeps of the listeners that stop the timer. While there is a
timer one of them waits for 'disconnected', or is about to run. -/
structure Stoppable (s : PollingProducer ε ι) : Prop where
  idle : s.client.frame = none → s.running = []
  stopping : ∀ cb, s.client.frame = some (.disconnected cb) → ∀ interval ∈ intervals s.running, interval = 0
  stops : ∀ interval ∈ intervals s.disconnected, interval = 0
  silent : s.stopped = true → ∀ joined cb, s.client.frame ≠ some (.ready joined cb)
  started : s.pollInterval ≠ none → 0 ∈ intervals s.disconnected ∨ 0 ∈ intervals s.running
  halted : s.stopped = true → s.pollInterval ≠ none → 0 ∈ intervals s.running

theorem intervals_stop (listeners : List (PollListener ι)) :
    intervals (listeners ++ [.setPollInterval 0]) = intervals listeners ++ [0] := by
  simp [intervals, PollListener.interval?]

/-- The steps of the client that come with no event keep its frame. -/
theorem Stoppable.client {c : Client ε} (stoppable : s.Stoppable) (frame : c.frame = s.client.frame)
    (ready : List (PollListener ι)) (flushing : List (Option Nat)) :
    Stoppable { s with client := c, ready, flushing } where
  idle returned := stoppable.idle (frame ▸ returned)
  stopping cb emitting := stoppable.stopping cb (frame ▸ emitting)
  stops := stoppable.stops
  silent stopped joined cb emitting := stoppable.silent stopped joined cb (frame ▸ emitting)
  started := stoppable.started
  halted := stoppable.halted

theorem Stoppable.resume {frame : ClientFrame} (stoppable : s.Stoppable) (emitting : s.client.frame = some frame)
    {rest : List (PollListener ι)} (left : intervals rest = intervals s.running)
    (returns : (s.client.resume frame).frame = none → rest = []) :
    Stoppable { s with running := rest, client := s.client.resume frame } := by
  refine ⟨returns, ?_, stoppable.stops, ?_, ?_, ?_⟩
  · intro cb running
    unfold Client.resume at running
    split at running <;> simp [Client.next] at running
  · intro stopped joined cb running
    unfold Client.resume at running
    split at running
    · rename_i first
      exact stoppable.silent stopped _ first emitting
    · simp [Client.next] at running
    · simp at running
  · rw [left]
    exact stoppable.started
  · rw [left]
    exact stoppable.halted

theorem Stoppable.deliver {event : ClientLoopEvent ε} {c : Client ε} (stoppable : s.Stoppable)
    (idle : s.client.frame = none) (run : s.client.deliver event = some c) : (s.emit c).Stoppable := by
  have done := stoppable.idle idle
  unfold emit
  rcases Client.deliver_frame idle run with frame | ⟨index, joined, cb, rfl, frame, -⟩ | ⟨cb, frame, -⟩
  · simp only [frame]
    exact ⟨fun _ => done, by simp [frame], stoppable.stops, by simp [frame], stoppable.started, stoppable.halted⟩
  · simp only [frame]
    refine ⟨by simp [frame], by simp [frame], stoppable.stops, by simp, ?_, by simp⟩
    intro timer
    exact .inl ((stoppable.started timer).resolve_right (by simp [done, intervals]))
  · simp only [frame]
    have waiting : s.pollInterval ≠ none → 0 ∈ intervals s.disconnected := fun timer =>
      (stoppable.started timer).resolve_right (by simp [done, intervals])
    exact ⟨by simp [frame], fun _ _ => stoppable.stops, by simp [intervals], by simp [frame],
      fun timer => .inr (waiting timer), fun _ => waiting⟩

variable [DecidableEq ι]

/-- A call stops the timer, or it starts one and adds the listener that stops it. -/
theorem setPollInterval_stops (s : PollingProducer ε ι) (interval : ι) :
    (s.setPollInterval interval).pollInterval = none ∧
        (s.setPollInterval interval).disconnected = s.disconnected ∨
      interval ≠ 0 ∧ (s.setPollInterval interval).disconnected = s.disconnected ++ [.setPollInterval 0] := by
  by_cases zero : interval = 0
  · simp [setPollInterval, zero]
  · cases connected : s.client.isConnected with
    | false => simp [setPollInterval, zero, connected]
    | true => simp [setPollInterval, zero, connected]

theorem setPollInterval_keeps (s : PollingProducer ε ι) (interval : ι) :
    (s.setPollInterval interval).client = s.client ∧ (s.setPollInterval interval).running = s.running ∧
      (s.setPollInterval interval).stopped = s.stopped := by
  unfold setPollInterval
  dsimp only
  split
  · exact ⟨rfl, rfl, rfl⟩
  · split <;> exact ⟨rfl, rfl, rfl⟩

/-- After a call a timer is waited for by a listener of 'disconnected'. -/
theorem setPollInterval_started (s : PollingProducer ε ι) (interval : ι)
    (timer : (s.setPollInterval interval).pollInterval ≠ none) :
    interval ≠ 0 ∧ 0 ∈ intervals (s.setPollInterval interval).disconnected := by
  rcases s.setPollInterval_stops interval with ⟨none, -⟩ | ⟨start, disconnected⟩
  · exact absurd none timer
  · refine ⟨start, ?_⟩
    rw [disconnected, intervals_stop]
    exact List.mem_append_right _ (List.mem_singleton_self 0)

theorem setPollInterval_zeros (s : PollingProducer ε ι) (interval : ι)
    (zeros : ∀ stop ∈ intervals s.disconnected, stop = 0) :
    ∀ stop ∈ intervals (s.setPollInterval interval).disconnected, stop = 0 := by
  rcases s.setPollInterval_stops interval with ⟨-, disconnected⟩ | ⟨-, disconnected⟩
  · rwa [disconnected]
  · rw [disconnected]
    exact stops_append zeros (by simp)

theorem Stoppable.setPollInterval (stoppable : s.Stoppable) (interval : ι) :
    Stoppable { s.setPollInterval interval with last := some interval, stopped := false, ran := some interval } := by
  obtain ⟨client, running, -⟩ := s.setPollInterval_keeps interval
  refine ⟨?_, ?_, s.setPollInterval_zeros interval stoppable.stops, by simp, ?_, by simp⟩
  · rw [client, running]
    exact stoppable.idle
  · rw [client, running]
    exact stoppable.stopping
  · exact fun timer => .inl (s.setPollInterval_started interval timer).2

theorem Stoppable.listener {interval : ι} {running : List (PollListener ι)} (stoppable : s.Stoppable)
    (next : s.running = .setPollInterval interval :: running) :
    Stoppable (PollingProducer.setPollInterval { s with running, ran := some interval } interval) := by
  obtain ⟨client, rest, stopped⟩ := setPollInterval_keeps { s with running, ran := some interval } interval
  have left : intervals s.running = interval :: intervals running := by
    rw [next]
    rfl
  refine ⟨?_, ?_, setPollInterval_zeros _ interval stoppable.stops, ?_, ?_, ?_⟩
  · rw [client]
    intro returned
    simp [stoppable.idle returned] at next
  · rw [client, rest]
    intro cb emitting stop member
    refine stoppable.stopping cb emitting stop ?_
    rw [left]
    exact List.mem_cons_of_mem _ member
  · rw [client, stopped]
    exact stoppable.silent
  · exact fun timer => .inl (setPollInterval_started _ interval timer).2
  · -- only the listeners of 'disconnected' run on a stopped producer
    rw [stopped]
    intro halted timer
    have start := (setPollInterval_started _ interval timer).1
    cases emitting : s.client.frame with
    | none => simp [stoppable.idle emitting] at next
    | some frame =>
      cases frame with
      | ready joined cb => exact absurd emitting (stoppable.silent halted joined cb)
      | disconnected cb =>
        refine absurd (stoppable.stopping cb emitting interval ?_) start
        rw [left]
        exact List.mem_cons_self

theorem Stoppable.step {action : PollingAction ε ι} (stoppable : s.Stoppable)
    (run : s.step action = some t) : t.Stoppable := by
  cases action with
  | setPollInterval interval =>
    cases Option.some.inj run
    exact stoppable.setPollInterval interval
  | connect cb =>
    cases Option.some.inj run
    exact stoppable.client (s.client.connect_frame cb).1 _ _
  | disconnect cb =>
    cases Option.some.inj run
    unfold disconnect
    split
    · exact stoppable.client rfl _ _
    · exact stoppable
  | flushed index =>
    simp only [PollingProducer.step, Option.ite_none_left_eq_some] at run
    obtain ⟨cb, _, rfl⟩ := Option.map_eq_some_iff.mp run.2
    exact stoppable.client (s.client.disconnect_frame cb).1 _ _
  | listener =>
    simp only [PollingProducer.step] at run
    split at run
    · rename_i interval running next
      cases Option.some.inj run
      exact stoppable.listener next
    · cases run
  | resume =>
    simp only [PollingProducer.step] at run
    split at run
    · rename_i running cb joined first next emitting
      cases Option.some.inj run
      exact stoppable.resume emitting (by rw [next]; rfl) (by simp [Client.resume, Client.next])
    · rename_i frame next emitting
      cases Option.some.inj run
      have resumed := stoppable.resume emitting rfl fun _ => next
      exact resumed
    · cases run
  | deliver event =>
    simp only [PollingProducer.step, Option.ite_none_left_eq_some] at run
    obtain ⟨idle, run⟩ := run
    obtain ⟨c, delivered, rfl⟩ := Option.map_eq_some_iff.mp run
    exact stoppable.deliver (by simpa using idle) delivered

end PollingProducer

/-- A producer, which stores the interval of its timer, and the timers. -/
structure TimedProducer (ε ι : Type) where
  producer : PollingProducer ε ι
  timers : PollTimers ι := {}

namespace TimedProducer
variable {ε ι : Type} [Zero ι] [DecidableEq ι]

/-- The call of setPollInterval that an action makes. -/
def calls (s : PollingProducer ε ι) : PollingAction ε ι → Option ι
  | .setPollInterval interval => some interval
  | .listener => s.running.head?.bind PollListener.interval?
  | _ => none

def step (s : TimedProducer ε ι) (action : PollingAction ε ι) : Option (TimedProducer ε ι) :=
  (s.producer.step action).map fun producer =>
    match calls s.producer action with
    | some interval => { producer, timers := s.timers.setPollInterval s.producer.client.isConnected interval }
    | none => { s with producer }

variable {s t : TimedProducer ε ι}

/-- The stored timer has the interval that the producer stores. -/
structure Kept (s : TimedProducer ε ι) : Prop where
  single : s.timers.Single
  stored : s.timers.pollInterval.map PollTimer.interval = s.producer.pollInterval
  stoppable : s.producer.Stoppable

/-- The calls of setPollInterval alone change the stored interval. -/
theorem pollInterval_unchanged {p q : PollingProducer ε ι} {action : PollingAction ε ι}
    (quiet : calls p action = none) (run : p.step action = some q) : q.pollInterval = p.pollInterval := by
  cases action with
  | setPollInterval interval => cases quiet
  | connect cb => cases Option.some.inj run; rfl
  | disconnect cb =>
    cases Option.some.inj run
    unfold PollingProducer.disconnect
    split <;> rfl
  | flushed index =>
    simp only [PollingProducer.step, Option.ite_none_left_eq_some] at run
    obtain ⟨cb, _, rfl⟩ := Option.map_eq_some_iff.mp run.2
    rfl
  | listener =>
    simp only [PollingProducer.step] at run
    split at run
    · rename_i interval running next
      simp [calls, next, PollListener.interval?] at quiet
    · cases run
  | resume =>
    simp only [PollingProducer.step] at run
    split at run
    · cases Option.some.inj run; rfl
    · cases Option.some.inj run; rfl
    · cases run
  | deliver event =>
    simp only [PollingProducer.step, Option.ite_none_left_eq_some] at run
    obtain ⟨c, _, rfl⟩ := Option.map_eq_some_iff.mp run.2
    unfold PollingProducer.emit
    split <;> rfl

theorem pollInterval_called {p q : PollingProducer ε ι} {action : PollingAction ε ι} {interval : ι}
    (called : calls p action = some interval) (run : p.step action = some q) :
    q.pollInterval = (p.setPollInterval interval).pollInterval := by
  cases action with
  | setPollInterval other =>
    cases called
    cases Option.some.inj run
    rfl
  | listener =>
    simp only [PollingProducer.step] at run
    split at run
    · rename_i other running next
      simp only [calls, next, List.head?_cons, Option.bind_some, PollListener.interval?] at called
      cases called
      cases Option.some.inj run
      unfold PollingProducer.setPollInterval
      dsimp only
      split
      · rfl
      · split <;> rfl
    · cases run
  | connect cb | disconnect cb | flushed index | resume | deliver event => cases called

/-- The timers follow the function on the producer. -/
theorem setPollInterval_stored {timers : PollTimers ι} (single : timers.Single) (p : PollingProducer ε ι)
    (interval : ι) :
    (timers.setPollInterval p.client.isConnected interval).pollInterval.map PollTimer.interval =
      (p.setPollInterval interval).pollInterval := by
  have none := single.clear.2
  by_cases zero : interval = 0
  · simp [PollTimers.setPollInterval, PollingProducer.setPollInterval, zero, none]
  · cases connected : p.client.isConnected with
    | false => simp [PollTimers.setPollInterval, PollingProducer.setPollInterval, zero, connected, none]
    | true => simp [PollTimers.setPollInterval, PollTimers.start, PollingProducer.setPollInterval, zero, connected]

theorem Kept.step {action : PollingAction ε ι} (kept : s.Kept) (run : s.step action = some t) : t.Kept := by
  obtain ⟨producer, moved, rfl⟩ := Option.map_eq_some_iff.mp run
  have stoppable := kept.stoppable.step moved
  cases called : calls s.producer action with
  | none => exact ⟨kept.single, kept.stored.trans (pollInterval_unchanged called moved).symm, stoppable⟩
  | some interval =>
    refine ⟨kept.single.setPollInterval _ interval, ?_, stoppable⟩
    rw [pollInterval_called called moved]
    exact setPollInterval_stored kept.single s.producer interval

theorem create_kept {configs : CbConfigs} {globalError topicError : String → Option String} {client : Client ε}
    (created : Client.create configs globalError topicError true = .ok client) :
    Kept ({ producer := { client } } : TimedProducer ε ι) := by
  have idle := (PollingProducer.create_kept (ι := ι) created).idle
  have frame : client.frame = none := by
    simp only [Client.create] at created
    split at created
    · cases Except.ok.inj created
      rfl
    · cases created
    · cases created
  exact ⟨rfl, rfl, idle, by simp [frame], by simp [PollingProducer.intervals], by simp, by simp, by simp⟩

end TimedProducer

/-- In every state at most one timer is live, it is the one stored, and none is
live once the listeners of a 'disconnected' have run, until a later
setPollInterval call or 'ready'. -/
theorem pollInterval_timer {ε ι : Type} [Zero ι] [DecidableEq ι] {configs : CbConfigs}
    {globalError topicError : String → Option String} {client : Client ε} {s : TimedProducer ε ι}
    {trace : List (PollingAction ε ι)}
    (created : Client.create configs globalError topicError true = .ok client)
    (reach : Reach TimedProducer.step { producer := { client } } trace s) :
    s.timers.live.length ≤ 1 ∧ s.timers.live = s.timers.pollInterval.toList ∧
      (s.producer.stopped = true → s.producer.running = [] → s.timers.live = []) := by
  obtain ⟨single, stored, stoppable⟩ := reach.invariant TimedProducer.Kept (TimedProducer.create_kept created)
    fun kept run => kept.step run
  refine ⟨?_, single, ?_⟩
  · rw [single]
    exact Option.length_toList_le
  · intro stopped done
    have timer : s.producer.pollInterval = none := by
      by_contra timer
      have waits := stoppable.halted stopped timer
      simp [done, PollingProducer.intervals] at waits
    rw [timer, Option.map_eq_none_iff] at stored
    rw [single, stored]
    rfl

/-- Two timers of one connection, the first of which is cleared by the call
that starts the second, and two listeners that stop it. -/
theorem pollInterval_timer_reconnected :
    ∃ s, Reach TimedProducer.step { producer := { client := sampleProducer } }
        ([.setPollInterval 100] ++ connects ++ [.listener, .resume, .setPollInterval 50] ++ disconnects ++
          [.listener, .listener, .resume]) s ∧
      s.timers.created = 2 ∧ s.producer.stopped = true ∧ s.producer.running = [] ∧ s.timers.live = [] := by
  obtain ⟨s, run, created, stopped, done⟩ : ∃ s,
      replay TimedProducer.step { producer := { client := sampleProducer } }
      ([.setPollInterval 100] ++ connects ++ [.listener, .resume, .setPollInterval 50] ++ disconnects ++
        [.listener, .listener, .resume]) = some s ∧
      s.timers.created = 2 ∧ s.producer.stopped = true ∧ s.producer.running = [] := ⟨_, rfl, rfl, rfl, rfl⟩
  have reach := reach_iff_replay.mpr run
  exact ⟨s, reach, created, stopped, done, (pollInterval_timer sampleProducer_created reach).2.2 stopped done⟩

end NodeRdkafka

import Mathlib.Algebra.GroupWithZero.Nat
import NodeRdkafka.ClientCallbacks

namespace NodeRdkafka
open Transition

/-- A once listener of 'ready' or 'disconnected': that of a connect call which
joined an attempt, or one that calls setPollInterval. -/
inductive PollListener (ι : Type)
  | joined
  | setPollInterval (interval : ι)
  deriving DecidableEq

def PollListener.interval? {ι : Type} : PollListener ι → Option ι
  | joined => none
  | setPollInterval interval => some interval

/-- A Producer and the timer that polls it. Intervals are numbers that are not
negative, and the code only compares them with zero. `running` holds the
listeners that the current emit has yet to call. The last five fields are
history: the last setPollInterval call of the user, whether 'ready' has been
emitted on this connection, whether 'disconnected' has been emitted since
both of them, what that was when 'ready' was emitted last, and the interval of
the setPollInterval that has run last since then, called by the user or by a
listener. -/
structure PollingProducer (ε ι : Type) where
  client : Client ε
  pollInterval : Option ι := none
  ready : List (PollListener ι) := []
  disconnected : List (PollListener ι) := []
  running : List (PollListener ι) := []
  flushing : List (Option Nat) := []
  last : Option ι := none
  announced : Bool := false
  stopped : Bool := false
  lapsed : Bool := false
  ran : Option ι := none

/-- The emit is that of 'ready'. -/
def ClientFrame.isReady : ClientFrame → Bool
  | ready _ _ => true
  | disconnected _ => false

inductive PollingAction (ε ι : Type)
  | setPollInterval (interval : ι)
  | connect (cb : Option Nat)
  | disconnect (cb : Option Nat)
  | flushed (index : Nat)
  | listener
  | resume
  | deliver (event : ClientLoopEvent ε)

namespace PollingProducer
variable {ε ι : Type}

/-- The intervals of the calls that listeners will make. -/
def intervals (listeners : List (PollListener ι)) : List ι := listeners.filterMap PollListener.interval?

theorem intervals_append (left right : List (PollListener ι)) :
    intervals (left ++ right) = intervals left ++ intervals right := List.filterMap_append

variable [Zero ι]

theorem stops_append {before stops : List (PollListener ι)} (earlier : ∀ stop ∈ intervals before, stop = 0)
    (zeros : ∀ l ∈ stops, l = .setPollInterval 0) : ∀ stop ∈ intervals (before ++ stops), stop = 0 := by
  intro stop member
  rcases List.mem_append.mp (intervals_append _ _ ▸ member) with member | member
  · exact earlier stop member
  · obtain ⟨l, found, same⟩ := List.mem_filterMap.mp member
    rw [zeros l found] at same
    exact (Option.some.inj same).symm

variable [DecidableEq ι]

/-- The timer that an interval asks for. -/
def wanted (interval : ι) : Option ι := if interval = 0 then none else some interval

def setPollInterval (s : PollingProducer ε ι) (interval : ι) : PollingProducer ε ι :=
  let s := { s with pollInterval := none }
  if interval = 0 then s
  else if !s.client.isConnected then { s with ready := s.ready ++ [.setPollInterval interval] }
  else { s with pollInterval := some interval, disconnected := s.disconnected ++ [.setPollInterval 0] }

/-- A connect call that finds an attempt under way adds a listener of 'ready'. -/
def connect (s : PollingProducer ε ι) (cb : Option Nat) : PollingProducer ε ι :=
  { s with
    client := s.client.connect cb
    ready := if !s.client.isConnected && s.client.isConnecting then s.ready ++ [.joined] else s.ready }

/-- The producer flushes before it disconnects, and throws when not connected. -/
def disconnect (s : PollingProducer ε ι) (cb : Option Nat) : PollingProducer ε ι :=
  if s.client.isConnected then { s with flushing := s.flushing ++ [cb] } else s

/-- The emit that an event ends in takes the once listeners. -/
def emit (s : PollingProducer ε ι) (client : Client ε) : PollingProducer ε ι :=
  match client.frame with
  | none => { s with client, announced := s.announced && client.isConnected }
  | some (.ready _ _) =>
    { s with
      client, running := s.ready, ready := [], announced := true, stopped := false
      lapsed := s.stopped, ran := none }
  | some (.disconnected _) =>
    { s with client, running := s.disconnected, disconnected := [], announced := false, stopped := true }

/-- The listeners run one at a time, and the user may call in between. A tick
of the timer changes nothing here: it polls, and an exception of poll is ignored. -/
def step (s : PollingProducer ε ι) : PollingAction ε ι → Option (PollingProducer ε ι)
  | .setPollInterval interval =>
    some { s.setPollInterval interval with last := some interval, stopped := false, ran := some interval }
  | .connect cb => some (s.connect cb)
  | .disconnect cb => some (s.disconnect cb)
  | .flushed index =>
    if s.client.frame.isSome then none
    else s.flushing[index]?.map fun cb =>
      { s with flushing := s.flushing.eraseIdx index, client := s.client.disconnect cb }
  | .listener =>
    match s.running with
    | .setPollInterval interval :: running =>
      some (setPollInterval { s with running, ran := some interval } interval)
    | _ => none
  | .resume =>
    match s.running, s.client.frame with
    | .joined :: running, some (.ready (cb :: joined) first) =>
      some { s with running, client := s.client.resume (.ready (cb :: joined) first) }
    | [], some frame => some { s with client := s.client.resume frame }
    | _, _ => none
  | .deliver event => if s.client.frame.isSome then none else (s.client.deliver event).map s.emit

/-- On a connection whose 'ready' listeners have run, the timer is the one
that the last call asked for. -/
def Polls (s : PollingProducer ε ι) : Prop :=
  s.client.isConnected = true → s.announced = true → s.client.frame = none →
    ∀ interval, s.last = some interval →
      (interval ≠ 0 → s.pollInterval = some interval) ∧ (interval = 0 → s.pollInterval = none)

/-- What the end of an emit of 'ready' finds: the setPollInterval that ran last
in it had the interval of the user's last call, or none ran and the timer of
that call had not been stopped. -/
def Current (s : PollingProducer ε ι) : Prop :=
  (∀ interval ∈ s.ran, s.last = some interval) ∧
    (s.ran = none → s.lapsed = true → ∀ interval ∈ s.last, interval = 0)

/-- The condition on a step: each emit of 'ready' ends with what the last call
asked for. -/
def Heeded (s : PollingProducer ε ι) : PollingAction ε ι → Prop
  | .resume => s.running = [] → s.client.frame.any ClientFrame.isReady = true → s.Current
  | _ => True

instance (s : PollingProducer ε ι) : Decidable s.Current := inferInstanceAs (Decidable (_ ∧ _))

instance (s : PollingProducer ε ι) : (action : PollingAction ε ι) → Decidable (s.Heeded action)
  | .resume => inferInstanceAs (Decidable (_ → _ → _))
  | .setPollInterval _ | .connect _ | .disconnect _ | .flushed _ | .listener | .deliver _ =>
    inferInstanceAs (Decidable True)

variable {s t : PollingProducer ε ι}

/-- The client is in the middle of an emit of 'ready'. -/
def Emitting (s : PollingProducer ε ι) : Prop := s.client.frame.any ClientFrame.isReady = true

/-- What the timer will be when the listeners of 'disconnected' have run. -/
def outcome (s : PollingProducer ε ι) : Option ι := if intervals s.running = [] then s.pollInterval else none

/-- What every run keeps. In the middle of an emit of 'ready' the timer is that
of the setPollInterval that ran last in it; outside of one it is that of the
user's last call, unless a start waits or 'disconnected' has stopped it. -/
structure Kept (s : PollingProducer ε ι) : Prop where
  idle : s.client.frame = none → s.running = []
  connected : s.Emitting → s.client.isConnected = true
  stopping : ∀ cb, s.client.frame = some (.disconnected cb) →
    s.client.isConnected = false ∧ ∀ interval ∈ intervals s.running, interval = 0
  stops : ∀ interval ∈ intervals s.disconnected, interval = 0
  announced : s.announced = true →
    s.client.isConnected = true ∧ intervals s.ready = [] ∧ s.stopped = false
  ran : s.Emitting → ∀ interval, s.ran = some interval → s.pollInterval = wanted interval
  unran : s.Emitting → s.ran = none → intervals s.running = [] → ∀ interval, s.last = some interval →
    (interval ≠ 0 → s.lapsed = false) → s.pollInterval = wanted interval
  asked : ¬ s.Emitting → intervals s.ready = [] → ∀ interval, s.last = some interval →
    (interval ≠ 0 → s.stopped = false) → s.outcome = wanted interval

omit [Zero ι] [DecidableEq ι] in
theorem outcome_done (done : s.running = []) : s.outcome = s.pollInterval := by
  simp [outcome, intervals, done]

/-- A call of setPollInterval takes effect at once unless it starts a timer on
a producer that is not connected. -/
theorem setPollInterval_eq {interval : ι} (now : interval = 0 ∨ s.client.isConnected = true) :
    ∃ stops, (∀ l ∈ stops, l = .setPollInterval 0) ∧ s.setPollInterval interval =
      { s with pollInterval := wanted interval, disconnected := s.disconnected ++ stops } := by
  by_cases zero : interval = 0
  · exact ⟨[], by simp, by simp [setPollInterval, wanted, zero]⟩
  · have connected := now.resolve_left zero
    exact ⟨[.setPollInterval 0], by simp, by simp [setPollInterval, wanted, zero, connected]⟩

theorem setPollInterval_waits {interval : ι} (start : interval ≠ 0) (offline : s.client.isConnected = false) :
    s.setPollInterval interval =
      { s with pollInterval := none, ready := s.ready ++ [.setPollInterval interval] } := by
  simp [setPollInterval, start, offline]

/-- The steps of the client that come with no event keep its connection. -/
theorem Kept.client {c : Client ε} (kept : s.Kept) (frame : c.frame = s.client.frame)
    (connected : c.isConnected = s.client.isConnected) : Kept { s with client := c } := by
  have emitting : Emitting { s with client := c } ↔ s.Emitting := by simp [Emitting, frame]
  refine ⟨fun returned => kept.idle (frame ▸ returned), ?_, ?_, kept.stops, ?_, ?_, ?_, ?_⟩
  · exact fun running => connected.trans (kept.connected (emitting.mp running))
  · intro cb running
    have before := kept.stopping cb (frame ▸ running)
    exact ⟨connected.trans before.1, before.2⟩
  · exact fun told => ⟨connected.trans (kept.announced told).1, (kept.announced told).2⟩
  · exact fun running => kept.ran (emitting.mp running)
  · exact fun running => kept.unran (emitting.mp running)
  · exact fun running => kept.asked fun before => running (emitting.mpr before)

/-- A call in the middle of an emit leaves what its listeners will do: those of
'disconnected' only turn polling off. -/
theorem Kept.outcome_called {interval : ι} (kept : s.Kept) (quiet : ¬ s.Emitting)
    (now : interval = 0 ∨ s.client.isConnected = true) :
    outcome { s with pollInterval := wanted interval } = wanted interval := by
  cases running : s.client.frame with
  | none => exact outcome_done (kept.idle running)
  | some frame =>
    cases frame with
    | ready joined cb => exact absurd (by simp [Emitting, running, ClientFrame.isReady]) quiet
    | disconnected cb =>
      have zero := now.resolve_right (by simp [(kept.stopping cb running).1])
      simp [outcome, wanted, zero]

theorem Kept.setPollInterval (kept : s.Kept) (interval : ι) :
    Kept { s.setPollInterval interval with last := some interval, stopped := false, ran := some interval } := by
  by_cases now : interval = 0 ∨ s.client.isConnected = true
  · obtain ⟨stops, zeros, called⟩ := setPollInterval_eq now
    rw [called]
    refine ⟨kept.idle, kept.connected, kept.stopping, stops_append kept.stops zeros, ?_, ?_, by simp, ?_⟩
    · exact fun told => ⟨(kept.announced told).1, (kept.announced told).2.1, rfl⟩
    · intro _ last same
      cases Option.some.inj same
      rfl
    · intro quiet _ last same _
      cases Option.some.inj same
      exact kept.outcome_called quiet now
  · obtain ⟨start, offline⟩ := not_or.mp now
    rw [setPollInterval_waits start (by simpa using offline)]
    refine ⟨kept.idle, kept.connected, kept.stopping, kept.stops, ?_, ?_, by simp, ?_⟩
    · exact fun told => absurd (kept.announced told).1 offline
    · exact fun emitting => absurd (kept.connected emitting) offline
    · intro _ none
      simp [intervals, PollListener.interval?] at none

/-- The listener that runs next is a start of 'ready', or it stops the timer. -/
theorem Kept.listener {interval : ι} {running : List (PollListener ι)} (kept : s.Kept)
    (next : s.running = .setPollInterval interval :: running) :
    Kept (PollingProducer.setPollInterval { s with running, ran := some interval } interval) := by
  have left : intervals s.running = interval :: intervals running := by
    rw [next]
    rfl
  have now : s.Emitting ∨ interval = 0 := by
    cases emitting : s.client.frame with
    | none => simp [kept.idle emitting] at next
    | some frame =>
      cases frame with
      | ready joined cb => exact .inl (by simp [Emitting, emitting, ClientFrame.isReady])
      | disconnected cb => exact .inr ((kept.stopping cb emitting).2 interval (left ▸ List.mem_cons_self))
  obtain ⟨stops, zeros, called⟩ :=
    setPollInterval_eq (s := { s with running, ran := some interval }) (now.symm.imp_right kept.connected)
  rw [called]
  refine ⟨?_, kept.connected, ?_, stops_append kept.stops zeros, kept.announced, ?_, by simp, ?_⟩
  · intro returned
    simp [kept.idle returned] at next
  · intro cb emitting
    have before := kept.stopping cb emitting
    exact ⟨before.1, fun stop found => before.2 stop (left ▸ List.mem_cons_of_mem _ found)⟩
  · intro _ last same
    cases Option.some.inj same
    rfl
  · intro quiet none last same current
    have zero : interval = 0 := now.resolve_left quiet
    have before := kept.asked quiet none last same current
    simp only [outcome, left, List.cons_ne_nil, if_false] at before
    rw [← before]
    simp [outcome, zero, wanted]

theorem Kept.connect (kept : s.Kept) (cb : Option Nat) : (s.connect cb).Kept := by
  obtain ⟨frame, connected⟩ := s.client.connect_frame cb
  have moved := kept.client frame connected
  refine ⟨moved.idle, moved.connected, moved.stopping, moved.stops, ?_, moved.ran, moved.unran, ?_⟩
  · intro told
    have before := moved.announced told
    refine ⟨before.1, ?_, before.2.2⟩
    simp [PollingProducer.connect, (kept.announced told).1, before.2.1]
  · intro quiet none
    refine moved.asked quiet ?_
    simp only [PollingProducer.connect] at none
    split at none
    · exact (List.append_eq_nil_iff.mp (intervals_append _ _ ▸ none)).1
    · exact none

/-- When the last listener of 'ready' has returned, the timer is the one that
the user asked for. -/
theorem Kept.ended {interval : ι} (kept : s.Kept) (emitting : s.Emitting) (current : s.Current)
    (done : intervals s.running = []) (last : s.last = some interval) : s.pollInterval = wanted interval := by
  obtain ⟨same, unstopped⟩ := current
  cases ran : s.ran with
  | some called =>
    have agrees : called = interval := Option.some.inj ((same called ran).symm.trans last)
    exact agrees ▸ kept.ran emitting called ran
  | none =>
    refine kept.unran emitting ran done interval last fun start => ?_
    by_contra lapsed
    exact start (unstopped ran (by simpa using lapsed) interval last)

theorem Kept.resume {frame : ClientFrame} (kept : s.Kept) (running : s.client.frame = some frame)
    {rest : List (PollListener ι)} (left : intervals rest = intervals s.running)
    (returns : (s.client.resume frame).frame = none → rest = [] ∧ (s.Emitting → s.Current)) :
    Kept { s with running := rest, client := s.client.resume frame } := by
  have connected : (s.client.resume frame).isConnected = s.client.isConnected := by
    unfold Client.resume
    split <;> rfl
  have emits (emitting : Emitting { s with running := rest, client := s.client.resume frame }) :
      s.Emitting := by
    cases frame with
    | ready joined cb => simp [Emitting, running, ClientFrame.isReady]
    | disconnected cb => simp [Emitting, Client.resume] at emitting
  refine ⟨fun done => (returns done).1, fun emitting => connected.trans (kept.connected (emits emitting)),
    ?_, kept.stops, ?_, fun emitting => kept.ran (emits emitting), ?_, ?_⟩
  · intro cb emitting
    unfold Client.resume at emitting
    split at emitting <;> simp [Client.next] at emitting
  · exact fun told => ⟨connected.trans (kept.announced told).1, (kept.announced told).2⟩
  · exact fun emitting unran none => kept.unran (emits emitting) unran (left ▸ none)
  · intro quiet waiting last found current
    by_cases emitting : s.Emitting
    · have finished : (s.client.resume frame).frame = none := by
        cases frame with
        | ready joined cb =>
          cases joined with
          | nil => rfl
          | cons first joined => exact absurd rfl quiet
        | disconnected cb => rfl
      obtain ⟨done, ended⟩ := returns finished
      have empty : intervals s.running = [] := by rw [← left, done]; rfl
      simpa [outcome, left, empty] using kept.ended emitting (ended emitting) empty found
    · have unchanged := kept.asked emitting waiting last found current
      simpa only [outcome, left] using unchanged

/-- The emit that follows an event takes the listeners from where they waited. -/
theorem Kept.deliver {event : ClientLoopEvent ε} {c : Client ε} (kept : s.Kept)
    (idle : s.client.frame = none) (run : s.client.deliver event = some c) : (s.emit c).Kept := by
  have done := kept.idle idle
  have quiet : ¬ s.Emitting := by simp [Emitting, idle]
  rcases Client.deliver_frame idle run with frame | ⟨index, joined, cb, rfl, frame, connected⟩ | ⟨cb, frame, offline⟩
  · have same : s.emit c = { s with client := c, announced := s.announced && c.isConnected } := by
      simp [emit, frame]
    rw [same]
    refine ⟨fun _ => done, by simp [Emitting, frame], by simp [frame], kept.stops, ?_,
      by simp [Emitting, frame], by simp [Emitting, frame], fun _ => kept.asked quiet⟩
    intro told
    obtain ⟨before, connected⟩ := Bool.and_eq_true_iff.mp told
    exact ⟨connected, (kept.announced before).2⟩
  · simp only [emit, frame]
    refine ⟨by simp [frame], fun _ => connected, by simp [frame], kept.stops,
      fun _ => ⟨connected, rfl, rfl⟩, by simp, ?_, ?_⟩
    · intro _ _ none last found current
      exact (outcome_done done).symm.trans (kept.asked quiet none last found current)
    · intro returned
      exact absurd (by simp [Emitting, frame, ClientFrame.isReady]) returned
  · simp only [emit, frame]
    refine ⟨by simp [frame], by simp [Emitting, frame, ClientFrame.isReady], fun _ _ => ⟨offline, kept.stops⟩,
      by simp [intervals], by simp, by simp [Emitting, frame, ClientFrame.isReady],
      by simp [Emitting, frame, ClientFrame.isReady], ?_⟩
    intro _ none last found current
    have zero : last = 0 := by
      by_contra start
      simp at current
      exact start current
    have timer := (outcome_done done).symm.trans (kept.asked quiet none last found fun start => absurd zero start)
    simp [outcome, timer, wanted, zero]

theorem Kept.step {action : PollingAction ε ι} (kept : s.Kept) (heeded : s.Heeded action)
    (run : s.step action = some t) : t.Kept := by
  cases action with
  | setPollInterval interval =>
    cases Option.some.inj run
    exact kept.setPollInterval interval
  | connect cb =>
    cases Option.some.inj run
    exact kept.connect cb
  | disconnect cb =>
    cases Option.some.inj run
    unfold disconnect
    split
    · obtain ⟨idle, up, stopping, stops, announced, ran, unran, asked⟩ := kept
      exact ⟨idle, up, stopping, stops, announced, ran, unran, asked⟩
    · exact kept
  | flushed index =>
    simp only [PollingProducer.step, Option.ite_none_left_eq_some] at run
    obtain ⟨cb, _, rfl⟩ := Option.map_eq_some_iff.mp run.2
    obtain ⟨frame, connected⟩ := s.client.disconnect_frame cb
    obtain ⟨idle, up, stopping, stops, announced, ran, unran, asked⟩ := kept.client frame connected
    exact ⟨idle, up, stopping, stops, announced, ran, unran, asked⟩
  | listener =>
    simp only [PollingProducer.step] at run
    split at run
    · rename_i interval running next
      cases Option.some.inj run
      exact kept.listener next
    · cases run
  | resume =>
    simp only [PollingProducer.step] at run
    split at run
    · rename_i running cb joined first next emitting
      cases Option.some.inj run
      exact kept.resume emitting (by rw [next]; rfl) (by simp [Client.resume, Client.next])
    · rename_i frame next emitting
      cases Option.some.inj run
      have resumed := kept.resume emitting rfl fun _ => ⟨next, heeded next⟩
      exact resumed
    · cases run
  | deliver event =>
    simp only [PollingProducer.step, Option.ite_none_left_eq_some] at run
    obtain ⟨idle, run⟩ := run
    obtain ⟨c, delivered, rfl⟩ := Option.map_eq_some_iff.mp run
    exact kept.deliver (by simpa using idle) delivered

theorem Kept.polls (kept : s.Kept) : s.Polls := by
  intro _ told idle interval last
  obtain ⟨_, waiting, unstopped⟩ := kept.announced told
  have quiet : ¬ s.Emitting := by simp [Emitting, idle]
  have timer := (outcome_done (kept.idle idle)).symm.trans
    (kept.asked quiet waiting interval last fun _ => unstopped)
  exact ⟨fun start => by simpa [wanted, start] using timer, fun zero => by simpa [wanted, zero] using timer⟩

theorem create_kept {configs : CbConfigs} {globalError topicError : String → Option String} {client : Client ε}
    (created : Client.create configs globalError topicError true = .ok client) :
    Kept ({ client } : PollingProducer ε ι) := by
  simp only [Client.create] at created
  split at created
  · cases Except.ok.inj created
    exact ⟨fun _ => rfl, by simp [Emitting], by simp, by simp [intervals], by simp, by simp, by simp, by simp⟩
  · cases created
  · cases created

end PollingProducer

/-- In every state of a run whose steps all meet the condition, the producer
polls on the interval that the last setPollInterval call asked for, or not at
all when that was 0. -/
theorem pollInterval_asked {ε ι : Type} [Zero ι] [DecidableEq ι] {configs : CbConfigs}
    {globalError topicError : String → Option String} {client : Client ε} {s : PollingProducer ε ι}
    {trace : List (PollingAction ε ι)}
    (created : Client.create configs globalError topicError true = .ok client)
    (reach : ReachWhile PollingProducer.Heeded PollingProducer.step { client } trace s) : s.Polls :=
  (reach.invariant PollingProducer.Kept (PollingProducer.create_kept created)
    fun heeded kept run => kept.step heeded run).polls

/-- Without a callback, and with the event callback of the sample client. -/
def sampleProducerConfigs : CbConfigs := { sampleConfigs with global := sampleConfigs.topic }

def sampleProducer : Client String :=
  { configs := sampleProducerConfigs
    connection :=
      { gconfig := { setError := fun _ => none }
        tconfig := { setError := fun _ => none }
        drCb := some {} } }

theorem sampleProducer_created :
    Client.create sampleProducerConfigs (fun _ => none) (fun _ => none) true = .ok sampleProducer := rfl

def connects : List (PollingAction String Nat) :=
  [.connect none, .deliver (.connected 0 none), .deliver (.metadata 0 none)]

def disconnects : List (PollingAction String Nat) :=
  [.disconnect none, .flushed 0, .deliver (.disconnected 0)]

/-- A start that waits for 'ready', another after a disconnect, and a call by a
listener of the third 'ready', which nothing else would have polled after. -/
theorem pollInterval_asked_again :
    ∃ s, ReachWhile PollingProducer.Heeded PollingProducer.step { client := sampleProducer }
        ([.setPollInterval 100] ++ connects ++ [.listener, .resume] ++ disconnects ++
          [.listener, .resume, .setPollInterval 50] ++ connects ++ [.listener, .resume] ++ disconnects ++
          [.listener, .resume] ++ connects ++ [.setPollInterval 70, .resume]) s ∧
      s.Polls ∧ s.client.isConnected = true ∧ s.announced = true ∧ s.client.frame = none ∧ s.last = some 70 ∧
      s.pollInterval = some 70 := by
  obtain ⟨s, run, facts⟩ : ∃ s, replayWhile PollingProducer.Heeded PollingProducer.step
      { client := sampleProducer }
      ([.setPollInterval 100] ++ connects ++ [.listener, .resume] ++ disconnects ++
        [.listener, .resume, .setPollInterval 50] ++ connects ++ [.listener, .resume] ++ disconnects ++
        [.listener, .resume] ++ connects ++ [.setPollInterval 70, .resume]) = some s ∧
      s.client.isConnected = true ∧ s.announced = true ∧ s.client.frame = none ∧ s.last = some 70 ∧
        s.pollInterval = some 70 := ⟨_, rfl, rfl, rfl, rfl, rfl, rfl⟩
  have reach := ReachWhile.of_replayWhile run
  exact ⟨s, reach, pollInterval_asked sampleProducer_created reach, facts⟩

/-- After a disconnect and a reconnect nothing polls, and a start that waits
for 'ready' comes back after it was turned off. -/
theorem pollInterval_lost :
    Client.create sampleProducerConfigs (fun _ => none) (fun _ => none) true = .ok sampleProducer ∧
      (∃ s, Reach PollingProducer.step { client := sampleProducer }
          (connects ++ [.resume, .setPollInterval 100] ++ disconnects ++ [.listener, .resume] ++ connects ++
            [.resume]) s ∧
        ¬ s.Polls ∧ s.client.isConnected = true ∧ s.last = some 100 ∧ s.pollInterval = none) ∧
      ∃ s, Reach PollingProducer.step { client := sampleProducer }
          ([.setPollInterval 100, .setPollInterval 0] ++ connects ++ [.listener, .resume]) s ∧
        ¬ s.Polls ∧ s.client.isConnected = true ∧ s.last = some 0 ∧ s.pollInterval = some 100 := by
  refine ⟨sampleProducer_created, ⟨_, reach_iff_replay.mpr rfl, ?_, rfl, rfl, rfl⟩,
    ⟨_, reach_iff_replay.mpr rfl, ?_, rfl, rfl, rfl⟩⟩
  · intro polls
    exact absurd ((polls rfl rfl rfl 100 rfl).1 (by decide)) (by decide)
  · intro polls
    exact absurd ((polls rfl rfl rfl 0 rfl).2 rfl) (by decide)

end NodeRdkafka

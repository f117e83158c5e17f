import NodeRdkafka.Client
import NodeRdkafka.ConnectionCallbacks

namespace NodeRdkafka
open Transition

namespace ClientEvent
variable {ε : Type}

def isConnectCall : ClientEvent ε → Bool
  | connectCall _ => true
  | _ => false

/-- The events that bear on what is registered, or on what is asked of it. -/
def bears : ClientEvent ε → Bool
  | connectCall _ | attempt | disconnected | disconnectCallback _ => true
  | _ => false

/-- Whether an attempt has been started since the last removal, after one more event. -/
def attemptAfter (attempted : Bool) : ClientEvent ε → Bool
  | attempt => true
  | disconnected => false
  | _ => attempted

/-- Whether a disconnect callback has fired since the last connect call,
after one more event. -/
def releasedAfter (released : Bool) : ClientEvent ε → Bool
  | disconnectCallback _ => true
  | connectCall _ => false
  | _ => released

theorem attemptAfter_quiet {event : ClientEvent ε} (quiet : event.bears = false) (attempted : Bool) :
    attemptAfter attempted event = attempted := by
  cases event <;> first | rfl | simp [bears] at quiet

theorem releasedAfter_quiet {event : ClientEvent ε} (quiet : event.bears = false) (released : Bool) :
    releasedAfter released event = released := by
  cases event <;> first | rfl | simp [bears] at quiet

end ClientEvent

namespace Client
variable {ε : Type}

/-- An attempt has been started since the callbacks were last removed. -/
def attempted (s : Client ε) : Bool := s.log.foldl ClientEvent.attemptAfter false

/-- A disconnect callback has fired, with no later connect call. -/
def released (s : Client ε) : Bool := s.log.foldl ClientEvent.releasedAfter false

/-- The condition on a step: a connect call that starts an attempt finds the
callbacks removed, and does not come between a removal and the callback of
the disconnect that made it. -/
def FindsRemoved (s : Client ε) : ClientAction ε → Prop
  | .connect _ =>
    s.isConnected = false → s.isConnecting = false →
      s.attempted = false ∧ ∀ cb, s.frame ≠ some (.disconnected (some cb))
  | _ => True

/-- What the runs under the condition keep: the registered callbacks are those
of one attempt, or none. -/
structure Registered (configs : CbConfigs) (s : Client ε) : Prop where
  unchanged : s.configs = configs
  once : ∀ configType key,
    (s.connection.callbacks configType key).Sublist (configs.functions configType key)
  removed : s.attempted = false → ∀ configType key, s.connection.callbacks configType key = []
  released : s.released = true → s.attempted = false
  framed : ∀ cb, s.frame = some (.disconnected (some cb)) → s.attempted = false

/-- A step that leaves what is registered alone. -/
structure Quiet (s t : Client ε) : Prop where
  configs : t.configs = s.configs
  connection : t.connection = s.connection
  log : ∃ events, t.log = s.log ++ events ∧ ∀ event ∈ events, event.bears = false
  framed : ∀ cb, t.frame = some (.disconnected (some cb)) → s.frame = t.frame

theorem foldl_quiet {events : List (ClientEvent ε)} {after : Bool → ClientEvent ε → Bool}
    (quiet : ∀ event ∈ events, ∀ value, after value event = value) (value : Bool) :
    events.foldl after value = value := by
  induction events with
  | nil => rfl
  | cons event rest ih =>
    rw [List.foldl_cons, quiet event (by simp)]
    exact ih fun later member => quiet later (by simp [member])

theorem Quiet.attempted {s t : Client ε} (quiet : s.Quiet t) : t.attempted = s.attempted := by
  obtain ⟨events, log, silent⟩ := quiet.log
  rw [Client.attempted, log, List.foldl_append]
  exact foldl_quiet (fun event member => ClientEvent.attemptAfter_quiet (silent event member)) _

theorem Quiet.released {s t : Client ε} (quiet : s.Quiet t) : t.released = s.released := by
  obtain ⟨events, log, silent⟩ := quiet.log
  rw [Client.released, log, List.foldl_append]
  exact foldl_quiet (fun event member => ClientEvent.releasedAfter_quiet (silent event member)) _

theorem Registered.quiet {configs : CbConfigs} {s t : Client ε} (registered : s.Registered configs)
    (quiet : s.Quiet t) : t.Registered configs := by
  refine ⟨quiet.configs.trans registered.unchanged, ?_, ?_, ?_, ?_⟩
  · rw [quiet.connection]
    exact registered.once
  · rw [quiet.attempted, quiet.connection]
    exact registered.removed
  · rw [quiet.attempted, quiet.released]
    exact registered.released
  · intro cb returning
    rw [quiet.attempted]
    exact registered.framed cb ((quiet.framed cb returning).trans returning)

theorem Quiet.trans {s t u : Client ε} (first : s.Quiet t) (second : t.Quiet u) : s.Quiet u := by
  obtain ⟨earlier, log, quiet⟩ := first.log
  obtain ⟨later, further, silent⟩ := second.log
  refine ⟨second.configs.trans first.configs, second.connection.trans first.connection, ?_, ?_⟩
  · refine ⟨earlier ++ later, by rw [further, log, List.append_assoc], ?_⟩
    intro event member
    rcases List.mem_append.mp member with member | member
    · exact quiet event member
    · exact silent event member
  · intro cb returning
    have same := second.framed cb returning
    exact (first.framed cb (same.trans returning)).trans same

theorem next_quiet (s : Client ε) (cb : Option Nat) (err : Option ε) : s.Quiet (s.next cb err) := by
  refine ⟨rfl, rfl, ⟨_, rfl, ?_⟩, fun _ _ => rfl⟩
  intro event member
  obtain ⟨called, _, rfl⟩ := List.mem_map.mp member
  rfl

theorem fail_quiet (s : Client ε) (cb : Option Nat) (err : ε) : s.Quiet (s.fail cb err) := by
  by_cases up : s.isConnected
  · have asked : s.fail cb err = { s.record (.connectionFailure err) with
        isConnected := false, failed := s.failed ++ [{ cb, err }] } := by
      simp [fail, up]
    rw [asked]
    exact ⟨rfl, rfl, ⟨_, rfl, by simp [ClientEvent.bears]⟩, fun _ _ => rfl⟩
  · have failed : s.fail cb err = s.next cb (some err) := by simp [fail, up]
    exact failed ▸ s.next_quiet cb (some err)

theorem settle_quiet (s : Client ε) (index : Nat) (attempt : FailedAttempt ε) :
    s.Quiet (s.settle index attempt) := by
  by_cases called : attempt.callbackCalled
  · have marked : s.settle index attempt = { s with failed := s.failed.set index attempt } := by
      simp [settle, called]
    exact marked ▸ ⟨rfl, rfl, ⟨[], (List.append_nil _).symm, by simp⟩, fun _ _ => rfl⟩
  · have failed : s.settle index attempt =
        next { s with failed := s.failed.set index { attempt with callbackCalled := true } }
          attempt.cb (some attempt.err) := by
      simp [settle, called]
    rw [failed]
    obtain ⟨configs, connection, log, framed⟩ := next_quiet
      { s with failed := s.failed.set index { attempt with callbackCalled := true } } attempt.cb
      (some attempt.err)
    exact ⟨configs, connection, log, framed⟩

theorem metadata_quiet (s : Client ε) (cb : Option Nat) (err : Option ε) : s.Quiet (s.metadata cb err) := by
  cases err with
  | some err => exact s.fail_quiet cb err
  | none => exact ⟨rfl, rfl, ⟨[.ready], rfl, by simp [ClientEvent.bears]⟩, by simp [metadata]⟩

theorem connected_quiet (s : Client ε) (cb : Option Nat) (err : Option ε) :
    s.Quiet (s.connected cb err) := by
  cases err with
  | some err => exact s.fail_quiet cb err
  | none => exact ⟨rfl, rfl, ⟨[], (List.append_nil _).symm, by simp⟩, fun _ _ => rfl⟩

/-- Taking a closure from one of the lists is a quiet step of its own. -/
theorem Quiet.after {s t u : Client ε} (quiet : t.Quiet u) (configs : t.configs = s.configs)
    (connection : t.connection = s.connection) (log : t.log = s.log) (frame : t.frame = s.frame) :
    s.Quiet u := by
  have taken : s.Quiet t :=
    ⟨configs, connection, ⟨[], log.trans (List.append_nil _).symm, by simp⟩, fun _ _ => frame.symm⟩
  exact taken.trans quiet

/-- Of the events of the event loop only the end of a disconnect bears on
what is registered. -/
theorem deliver_quiet {s t : Client ε} {event : ClientLoopEvent ε} (run : s.deliver event = some t)
    (other : ∀ index, event ≠ .disconnected index) : s.Quiet t := by
  cases event with
  | connected index err =>
    obtain ⟨cb, _, rfl⟩ := Option.map_eq_some_iff.mp run
    exact (connected_quiet _ cb err).after rfl rfl rfl rfl
  | metadata index err =>
    obtain ⟨cb, _, rfl⟩ := Option.map_eq_some_iff.mp run
    exact (metadata_quiet _ cb err).after rfl rfl rfl rfl
  | failureDisconnected index =>
    obtain ⟨attempt, _, rfl⟩ := Option.map_eq_some_iff.mp run
    exact s.settle_quiet index _
  | failureTimeout index =>
    obtain ⟨attempt, _, rfl⟩ := Option.map_eq_some_iff.mp run
    exact s.settle_quiet index _
  | immediate index =>
    obtain ⟨cb, _, rfl⟩ := Option.map_eq_some_iff.mp run
    exact (next_quiet _ cb none).after rfl rfl rfl rfl
  | disconnected index => exact absurd rfl (other index)

theorem disconnect_quiet (s : Client ε) (cb : Option Nat) : s.Quiet (s.disconnect cb) := by
  by_cases disconnecting : s.isDisconnecting
  · have ignored : s.disconnect cb = s.record (.disconnectCall cb) := by
      simp [disconnect, record, disconnecting]
    exact ignored ▸ ⟨rfl, rfl, ⟨[.disconnectCall cb], rfl, by simp [ClientEvent.bears]⟩, fun _ _ => rfl⟩
  · have asked : s.disconnect cb = { s.record (.disconnectCall cb) with
        isDisconnecting := true, disconnecting := s.disconnecting ++ [cb] } := by
      simp [disconnect, record, disconnecting]
    exact asked ▸ ⟨rfl, rfl, ⟨[.disconnectCall cb], rfl, by simp [ClientEvent.bears]⟩, fun _ _ => rfl⟩

@[simp] theorem attempted_append (s : Client ε) (event : ClientEvent ε) :
    (s.record event).attempted = event.attemptAfter s.attempted := by
  simp [attempted, record]

@[simp] theorem released_append (s : Client ε) (event : ClientEvent ε) :
    (s.record event).released = event.releasedAfter s.released := by
  simp [released, record]

/-- A connect call as such changes only what is asked of later states. -/
theorem Registered.connectCall {configs : CbConfigs} {s : Client ε} (registered : s.Registered configs)
    (cb : Option Nat) : (s.record (.connectCall cb)).Registered configs := by
  obtain ⟨unchanged, once, removed, _, framed⟩ := registered
  refine ⟨unchanged, once, ?_, ?_, ?_⟩
  · rw [attempted_append]
    exact removed
  · rw [released_append]
    intro released
    cases released
  · rw [attempted_append]
    exact framed

/-- An attempt that finds nothing registered registers what is configured. -/
theorem Registered.startAttempt {configs : CbConfigs} {s : Client ε} (registered : s.Registered configs)
    (removed : s.attempted = false) (unreleased : s.released = false)
    (settled : ∀ cb, s.frame ≠ some (.disconnected (some cb))) (cb : Option Nat) :
    (s.startAttempt cb).Registered configs := by
  have added : ∀ configType key,
      ((s.connection.configureCallbacks true s.configs).1.callbacks configType key).Sublist
        (configs.functions configType key) := by
    intro configType key
    have added := s.connection.configureCallbacks_add s.configs configType key
    rw [registered.removed removed, List.nil_append] at added
    exact registered.unchanged ▸ added
  have attempt {t : Client ε} (unchanged : t.configs = s.configs) (frame : t.frame = s.frame)
      (connection : t.connection = (s.connection.configureCallbacks true s.configs).1)
      (log : t.log = (s.record .attempt).log) : t.Registered configs := by
    have attempted : t.attempted = true := by
      rw [Client.attempted, log]
      exact s.attempted_append .attempt
    have still : t.released = false := by
      rw [Client.released, log]
      exact (s.released_append .attempt).trans unreleased
    refine ⟨unchanged.trans registered.unchanged, ?_, ?_, ?_, ?_⟩
    · rw [connection]
      exact added
    · simp [attempted]
    · simp [still]
    · intro cb returning
      exact absurd (frame.symm.trans returning) (settled cb)
  simp only [Client.startAttempt, record]
  split
  · rename_i connection errstr run
    exact attempt rfl rfl (congrArg Prod.fst run).symm rfl
  · rename_i connection run
    exact attempt rfl rfl (congrArg Prod.fst run).symm rfl

theorem Registered.connect {configs : CbConfigs} {s : Client ε} (registered : s.Registered configs)
    {cb : Option Nat} (finds : s.FindsRemoved (.connect cb)) : (s.connect cb).Registered configs := by
  have called := registered.connectCall cb
  by_cases connected : s.isConnected
  · have deferred : s.connect cb =
        { s.record (.connectCall cb) with immediates := s.immediates ++ [cb] } := by
      simp [Client.connect, record, connected]
    rw [deferred]
    exact called.quiet ⟨rfl, rfl, ⟨[], (List.append_nil _).symm, by simp⟩, fun _ _ => rfl⟩
  · by_cases connecting : s.isConnecting
    · have joined : s.connect cb = { s.record (.connectCall cb) with joined := s.joined ++ [cb] } := by
        simp [Client.connect, record, connected, connecting]
      rw [joined]
      exact called.quiet ⟨rfl, rfl, ⟨[], (List.append_nil _).symm, by simp⟩, fun _ _ => rfl⟩
    · obtain ⟨removed, settled⟩ := finds (by simpa using connected) (by simpa using connecting)
      have starts : s.connect cb = (s.record (.connectCall cb)).startAttempt cb := by
        simp [Client.connect, record, connected, connecting]
      rw [starts]
      refine called.startAttempt ?_ ?_ settled cb
      · exact (s.attempted_append (.connectCall cb)).trans removed
      · exact s.released_append (.connectCall cb)

/-- The end of a disconnect leaves nothing registered. -/
theorem Registered.disconnected {configs : CbConfigs} {s : Client ε} (registered : s.Registered configs)
    (cb : Option Nat) : (s.disconnected cb).Registered configs := by
  have nothing : ∀ configType key,
      (s.connection.configureCallbacks false s.configs).1.callbacks configType key = [] := by
    intro configType key
    have part : ((s.connection.callbacks configType key).diff (configs.functions configType key)).Sublist
        ((configs.functions configType key).diff (configs.functions configType key)) :=
      (registered.once configType key).diff_right
    rw [diff_self_eq_nil] at part
    rw [s.connection.configureCallbacks_remove, registered.unchanged]
    exact List.sublist_nil.mp part
  have removed : (s.disconnected cb).attempted = false := s.attempted_append .disconnected
  refine ⟨registered.unchanged, ?_, fun _ => nothing, fun _ => removed, fun _ _ => removed⟩
  intro configType key
  have empty : (s.disconnected cb).connection.callbacks configType key = [] := nothing configType key
  rw [empty]
  exact List.nil_sublist _

theorem Registered.resume {configs : CbConfigs} {s : Client ε} {frame : ClientFrame}
    (registered : s.Registered configs) (returning : s.frame = some frame) :
    (s.resume frame).Registered configs := by
  cases frame with
  | ready joined cb =>
    cases joined with
    | nil =>
      obtain ⟨unchanged, connection, log, _⟩ := next_quiet { s with frame := none } cb none
      exact registered.quiet ⟨unchanged, connection, log, by simp [Client.resume, next]⟩
    | cons first rest =>
      obtain ⟨unchanged, connection, log, _⟩ :=
        next_quiet { s with frame := some (.ready rest cb) } first none
      exact registered.quiet ⟨unchanged, connection, log, by simp [Client.resume, next]⟩
  | disconnected cb =>
    cases cb with
    | none =>
      exact registered.quiet ⟨rfl, rfl, ⟨[], rfl, by simp⟩, by simp [Client.resume]⟩
    | some cb =>
      have removed := registered.framed cb returning
      have still : (s.resume (.disconnected (some cb))).attempted = false :=
        (s.attempted_append (.disconnectCallback cb)).trans removed
      refine ⟨registered.unchanged, registered.once, fun _ => registered.removed removed, ?_, ?_⟩
      · exact fun _ => still
      · exact fun _ _ => still

theorem Registered.step {configs : CbConfigs} {s t : Client ε} {action : ClientAction ε}
    (finds : s.FindsRemoved action) (registered : s.Registered configs)
    (run : s.step action = some t) : t.Registered configs := by
  cases action with
  | connect cb =>
    cases Option.some.inj run
    exact registered.connect finds
  | disconnect cb =>
    cases Option.some.inj run
    exact registered.quiet (s.disconnect_quiet cb)
  | resume =>
    obtain ⟨frame, returning, rfl⟩ := Option.map_eq_some_iff.mp run
    exact registered.resume returning
  | deliver event =>
    simp only [Client.step, Option.ite_none_left_eq_some] at run
    obtain ⟨_, run⟩ := run
    by_cases ends : ∃ index, event = .disconnected index
    · obtain ⟨index, rfl⟩ := ends
      obtain ⟨cb, _, rfl⟩ := Option.map_eq_some_iff.mp run
      obtain ⟨unchanged, once, removed, released, framed⟩ := registered
      have taken : Client.Registered configs
          { s with disconnecting := s.disconnecting.eraseIdx index } :=
        ⟨unchanged, once, removed, released, framed⟩
      exact taken.disconnected cb
    · exact registered.quiet (deliver_quiet run fun index same => ends ⟨index, same⟩)

theorem create_registered {configs : CbConfigs} {globalError topicError : String → Option String}
    {producer : Bool} {start : Client ε} (run : create configs globalError topicError producer = .ok start) :
    start.Registered configs := by
  simp only [create] at run
  split at run
  · rename_i gconfig tconfig globalRun topicRun
    cases Except.ok.inj run
    have silent : ∀ configType key, Connection.callbacks
        { gconfig, tconfig, drCb := if producer then some {} else none } configType key = [] := by
      intro configType key
      cases configType with
      | global => exact Conf.create_silent globalRun key
      | topic => exact Conf.create_silent topicRun key
      | event =>
        simp only [Connection.callbacks, Connection.dispatcher, Connection.eventDispatcher]
        cases producer <;> grind
    refine ⟨rfl, ?_, fun _ => silent, by simp [released], by simp⟩
    intro configType key
    rw [silent]
    exact List.nil_sublist _
  · cases run
  · cases run

/-- A disconnect callback with no connect call after it is the last of these. -/
theorem released_of_log {s : Client ε} {before after : List (ClientEvent ε)} {cb : Nat}
    (log : s.log = before ++ .disconnectCallback cb :: after)
    (last : ∀ event ∈ after, event.isConnectCall = false) : s.released = true := by
  have kept : ∀ events : List (ClientEvent ε), (∀ event ∈ events, event.isConnectCall = false) →
      events.foldl ClientEvent.releasedAfter true = true := by
    intro events none_later
    induction events with
    | nil => rfl
    | cons event rest ih =>
      have stays : ClientEvent.releasedAfter true event = true := by
        have other := none_later event (by simp)
        cases event <;> first | rfl | simp [ClientEvent.isConnectCall] at other
      rw [List.foldl_cons, stays]
      exact ih fun later member => none_later later (by simp [member])
  rw [released, log, List.foldl_append, List.foldl_cons]
  exact kept after last

end Client

/-- While every attempt finds the callbacks of the one before it removed, each
configured callback is registered, and called for a native event, at most
once, and not at all after a disconnect callback. -/
theorem client_callbacks_once {ε : Type} {configs : CbConfigs}
    {globalError topicError : String → Option String} {producer : Bool} {start s : Client ε}
    {trace : List (ClientAction ε)}
    (created : Client.create configs globalError topicError producer = .ok start)
    (reach : ReachWhile Client.FindsRemoved Client.step start trace s)
    (configType : ConfigType) (key : String) (cb : JsFunction) :
    (s.connection.callbacks configType key).count cb ≤ 1 ∧
      (∀ before disconnectCb after, s.log = before ++ .disconnectCallback disconnectCb :: after →
        (∀ event ∈ after, event.isConnectCall = false) →
          (s.connection.callbacks configType key).count cb = 0) ∧
      ∀ dispatcher, s.connection.dispatcher configType key = some dispatcher →
        ((dispatcher.dispatch ()).map Prod.fst).count cb ≤ 1 := by
  have registered := reach.invariant (Client.Registered configs) (Client.create_registered created)
    Client.Registered.step
  have once : (s.connection.callbacks configType key).count cb ≤ 1 := by
    have length := (registered.once configType key).length_le
    have single := configs.functions_length configType key
    exact Nat.le_trans List.count_le_length (Nat.le_trans length single)
  refine ⟨once, ?_, ?_⟩
  · intro before disconnectCb after log last
    have removed := registered.released (Client.released_of_log log last)
    rw [registered.removed removed]
    rfl
  · intro dispatcher serves
    simpa [Connection.callbacks, serves, Dispatcher.dispatch, Function.comp_def] using once

def sampleConfigs : CbConfigs where
  global := { entries := [("rebalance_cb", 1)], keys := by decide }
  topic := { entries := [], keys := by decide }
  event := { entries := [("event_cb", 2)], keys := by decide }

/-- A consumer that accepts its callbacks. -/
def sampleClient : Client String :=
  { configs := sampleConfigs
    connection :=
      { gconfig := { rebalanceCb := some {}, setError := fun _ => none }
        tconfig := { setError := fun _ => none }
        drCb := none } }

theorem sampleClient_created :
    Client.create sampleConfigs (fun _ => none) (fun _ => none) false = .ok sampleClient := rfl

/-- A client that connects, disconnects and connects again. -/
def reconnecting : List (ClientAction String) :=
  [.connect (some 0), .deliver (.connected 0 none), .deliver (.metadata 0 none), .resume,
   .disconnect (some 1), .deliver (.disconnected 0), .resume, .connect (some 2)]

theorem client_callbacks_once_reconnecting :
    ∃ s, ReachWhile Client.FindsRemoved Client.step sampleClient reconnecting s ∧
      (s.connection.callbacks .global "rebalance_cb").count 1 ≤ 1 ∧
      s.connection.callbacks .global "rebalance_cb" = [1] := by
  obtain ⟨s, reach, registered⟩ :
      ∃ s, ReachWhile Client.FindsRemoved Client.step sampleClient reconnecting s ∧
        s.connection.callbacks .global "rebalance_cb" = [1] :=
    ⟨_, .prepend (fun _ _ => ⟨rfl, nofun⟩) rfl <| .prepend trivial rfl <| .prepend trivial rfl <|
      .prepend trivial rfl <| .prepend trivial rfl <| .prepend trivial rfl <| .prepend trivial rfl <|
      .prepend (fun _ _ => ⟨rfl, nofun⟩) rfl .start, rfl⟩
  have once := client_callbacks_once sampleClient_created reach .global "rebalance_cb" 1
  exact ⟨s, reach, once.1, registered⟩

/-- After a failed native connect the next attempt registers a second time. -/
theorem failed_attempt_registers_again :
    Client.create sampleConfigs (fun _ => none) (fun _ => none) false = .ok sampleClient ∧
      ∃ s, Reach Client.step sampleClient
          [.connect none, .deliver (.connected 0 (some "broker transport failure")), .connect none] s ∧
        (s.connection.callbacks .global "rebalance_cb").count 1 = 2 :=
  ⟨sampleClient_created, _, reach_iff_replay.mpr rfl, rfl⟩

end NodeRdkafka

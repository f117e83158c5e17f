import NodeRdkafka.AdminClientAnswers

namespace NodeRdkafka
open Transition Ledger

namespace AdminObject

/-- The operation that an object was made for. -/
def operation : AdminObject → Option Nat
  | options _ id | queue _ id | event _ id _ => some id
  | handle _ | rkqu _ | request _ => none

theorem owner_handle {a b : AdminObject} (owned : a.owner = some b) : ∃ client, b = .handle client := by
  cases a <;> simp only [owner, Option.some.injEq, reduceCtorEq] at owned
  all_goals exact ⟨_, owned.symm⟩

end AdminObject

/-- What an account says while the queue of an operation is polled: `base` is there, and
the event in hand; no later event has been made, and what was made beyond `earlier` was
made for the operation. -/
structure PollForEvent.Holds (base earlier : AdminObject → Prop) (client id polls : Nat)
    (response : Option PolledEvent) (account : Account AdminObject) : Prop where
  live : ∀ a, a ∈ account.live ↔ base a ∨ ∃ event ∈ response, a = .event client id event.poll
  fresh : ∀ p, polls ≤ p → .event client id p ∉ account.created
  created : ∀ a ∈ account.created, earlier a ∨ a.operation = some id

namespace PollForEvent
variable {base earlier : AdminObject → Prop} {client id polls : Nat} {response : Option PolledEvent}
  {account : Account AdminObject}

/-- The event in hand can be destroyed. -/
theorem Holds.destroy (holds : Holds base earlier client id polls response account)
    (apart : ∀ p, ¬base (.event client id p)) :
    ∃ after, Runs AdminObject.owner account
        (response.toList.map fun event => .destroy (.event client id event.poll)) after ∧
      Holds base earlier client id polls none after := by
  cases response with
  | none => exact ⟨account, .start, holds⟩
  | some event =>
    have there : AdminObject.event client id event.poll ∈ account.live :=
      (holds.live _).mpr (Or.inr ⟨event, rfl, rfl⟩)
    refine ⟨_, runs_destroy there fun b _ owned => ?_, ?_, holds.fresh, holds.created⟩
    · obtain ⟨_, impossible⟩ := AdminObject.owner_handle owned
      cases impossible
    · intro a
      rw [Finset.mem_erase, holds.live]
      constructor
      · rintro ⟨other, kept | ⟨_, same, rfl⟩⟩
        · exact Or.inl kept
        · cases same
          exact absurd rfl other
      · rintro (kept | ⟨_, impossible, _⟩)
        · exact ⟨fun same => apart _ (same ▸ kept), Or.inl kept⟩
        · cases impossible

/-- The event that was waited for is read first. -/
theorem Holds.read (holds : Holds base earlier client id polls response account)
    (apart : ∀ p, ¬base (.event client id p)) :
    ∃ after, Runs AdminObject.owner account
        (response.toList.flatMap fun event =>
          [.use (.event client id event.poll), .destroy (.event client id event.poll)]) after ∧
      Holds base earlier client id polls none after := by
  obtain ⟨after, destroyed, held⟩ := holds.destroy apart
  cases response with
  | none => exact ⟨after, destroyed, held⟩
  | some event =>
    have there : AdminObject.event client id event.poll ∈ account.live :=
      (holds.live _).mpr (Or.inr ⟨event, rfl, rfl⟩)
    exact ⟨after, (runs_use there).trans destroyed, held⟩

/-- The next poll may return an event. -/
theorem Holds.create (holds : Holds base earlier client id polls none account) (there : base (.handle client))
    (next : Option PolledEvent) (polled : ∀ event ∈ next, event.poll = polls) :
    ∃ after, Runs AdminObject.owner account
        (next.toList.map fun event => .create (.event client id event.poll)) after ∧
      Holds base earlier client id (polls + 1) next after := by
  cases next with
  | none => exact ⟨account, .start, holds.live, fun p later => holds.fresh p (by omega), holds.created⟩
  | some event =>
    have here : event.poll = polls := polled event rfl
    have owned : ∀ o, AdminObject.owner (.event client id event.poll) = some o → o ∈ account.live := by
      rintro o same
      cases same
      exact (holds.live _).mpr (Or.inl there)
    refine ⟨_, runs_create (holds.fresh _ here.ge) owned, ?_, ?_, ?_⟩
    · intro a
      rw [Finset.mem_insert, holds.live]
      simp [or_comm]
    · intro p later
      rw [Finset.mem_insert]
      rintro (same | old)
      · cases same
        omega
      · exact holds.fresh p (by omega) old
    · intro a member
      rcases Finset.mem_insert.mp member with rfl | old
      · exact Or.inr rfl
      · exact holds.created a old

theorem Holds.attempt (answers : Nat → Option Int) {s : PollForEvent}
    (holds : Holds base earlier client id s.timeouts.length s.eventResponse account)
    (apart : ∀ p, ¬base (.event client id p)) (there : base (.handle client)) (queue : base (.queue client id)) :
    ∃ after, Runs AdminObject.owner account (s.attemptEffects client id answers) after ∧
      Holds base earlier client id (s.attempt answers).timeouts.length (s.attempt answers).eventResponse after := by
  obtain ⟨between, destroyed, empty⟩ := holds.destroy apart
  have polled : ∀ event ∈ (s.attempt answers).eventResponse, event.poll = s.timeouts.length := by
    intro event member
    obtain ⟨type, _, rfl⟩ := Option.map_eq_some_iff.mp member
    rfl
  obtain ⟨after, created, held⟩ := empty.create there _ polled
  have used : Runs AdminObject.owner between [.use (.queue client id)] between :=
    runs_use ((empty.live _).mpr (Or.inl queue))
  refine ⟨after, destroyed.trans (used.trans created), ?_⟩
  simpa [PollForEvent.attempt] using held

theorem Holds.loop (eventType : Int) (answers : Nat → Option Int) (fuel : Nat) {s : PollForEvent}
    (holds : Holds base earlier client id s.timeouts.length s.eventResponse account)
    (apart : ∀ p, ¬base (.event client id p)) (there : base (.handle client)) (queue : base (.queue client id)) :
    ∃ after, Runs AdminObject.owner account (s.loopEffects client id eventType answers fuel) after ∧
      Holds base earlier client id (s.loop eventType answers fuel).timeouts.length
        (s.loop eventType answers fuel).eventResponse after := by
  induction fuel generalizing s account with
  | zero => exact holds.attempt answers apart there queue
  | succ fuel ih =>
    obtain ⟨between, first, held⟩ := holds.attempt answers apart there queue
    simp only [loopEffects, PollForEvent.loop]
    split
    · obtain ⟨after, rest, last⟩ := ih held
      exact ⟨after, first.trans rest, last⟩
    · exact ⟨between, by simpa using first, held⟩

/-- After the whole poll only the event that is returned is left. -/
theorem Holds.poll (logAttempts : Nat → Int) (eventType : Int) (answers : Nat → Option Int) (timeoutMs : Int32)
    (holds : Holds base earlier client id 0 none account)
    (apart : ∀ p, ¬base (.event client id p)) (there : base (.handle client)) (queue : base (.queue client id)) :
    ∃ after polls, Runs AdminObject.owner account
        (effects client id eventType answers logAttempts timeoutMs) after ∧
      Holds base earlier client id polls (pollForEvent logAttempts eventType answers timeoutMs).1 after := by
  obtain ⟨none', first, _⟩ := start_fresh logAttempts timeoutMs
  have started : Holds base earlier client id (start logAttempts timeoutMs).timeouts.length
      (start logAttempts timeoutMs).eventResponse account := by simpa [none', first] using holds
  obtain ⟨between, looped, held⟩ := started.loop eventType answers
    ((start logAttempts timeoutMs).attempts - 1).toNat apart there queue
  simp only [pollForEvent]
  by_cases found : ((polls logAttempts eventType answers timeoutMs).finish eventType).1 = none
  · obtain ⟨after, destroyed, empty⟩ := held.destroy apart
    rw [found]
    refine ⟨after, _, looped.trans ?_, empty⟩
    rw [finishEffects, if_pos found]
    exact destroyed
  · obtain ⟨event, returned⟩ := Option.ne_none_iff_exists'.mp found
    have response := ((finish_eq_some eventType _).mp returned).1
    refine ⟨between, (polls logAttempts eventType answers timeoutMs).timeouts.length, looped.trans ?_, ?_⟩
    · rw [finishEffects, if_neg found]
      exact .start
    · rw [returned, ← response]
      exact held

end PollForEvent

namespace AdminWorker
variable {lib : AdminLibrary} {w : AdminWorker}

/-- Only handles own anything. -/
theorem runs_destroy_part {account : Account AdminObject} {a : AdminObject} (there : a ∈ account.live)
    (part : ∀ client, a ≠ .handle client) :
    Runs AdminObject.owner account [.destroy a] { account with live := account.live.erase a } := by
  refine runs_destroy there fun b _ owned => ?_
  obtain ⟨client, same⟩ := AdminObject.owner_handle owned
  exact part client same

theorem perform_effects (client : Nat) (response : AdminResponse) :
    (w.perform lib client response).2 =
      [.create (.options client w.id), .create (.queue client w.id), .use (.handle client), .use (.request w.id),
        .use (.options client w.id), .use (.queue client w.id)] ++
      PollForEvent.effects client w.id (lib.eventType w.request.operation) response.answers lib.logAttempts
        w.timeoutMs ++
      [.destroy (.queue client w.id), .destroy (.options client w.id)] ++
      (pollForEvent lib.logAttempts (lib.eventType w.request.operation) response.answers
        w.timeoutMs).1.toList.flatMap fun event =>
          [.use (.event client w.id event.poll), .destroy (.event client w.id event.poll)] := by
  unfold perform
  dsimp only
  split
  · rename_i none'
    simp [none']
  · rename_i event returned
    simp only [returned, Option.toList_some, List.flatMap_singleton]
    split <;> rfl

/-- An operation on a handle destroys all that it has made. -/
theorem perform_runs (client : Nat) (response : AdminResponse) {account : Account AdminObject}
    (within : account.live ⊆ account.created) (handle : .handle client ∈ account.live)
    (request : .request w.id ∈ account.live) (fresh : ∀ a ∈ account.created, a.operation ≠ some w.id) :
    ∃ after, Runs AdminObject.owner account (w.perform lib client response).2 after ∧
      (∀ a, a ∈ after.live ↔ a ∈ account.live) ∧
      ∀ a ∈ after.created, a ∈ account.created ∨ a.operation = some w.id := by
  have absent : ∀ a, a.operation = some w.id → a ∉ account.live := fun a own member => fresh a (within member) own
  have owned : ∀ {made : Account AdminObject}, .handle client ∈ made.live → ∀ a : AdminObject,
      a.owner = some (.handle client) → ∀ o, a.owner = some o → o ∈ made.live := by
    intro made there a same o is
    cases is.symm.trans same
    exact there
  let opened : Account AdminObject :=
    { created := insert (.options client w.id) account.created,
      live := insert (.options client w.id) account.live }
  let made : Account AdminObject :=
    { created := insert (.queue client w.id) opened.created, live := insert (.queue client w.id) opened.live }
  have options : Runs AdminObject.owner account [.create (.options client w.id)] opened :=
    runs_create (fun member => fresh _ member rfl) (owned handle _ rfl)
  have queue : Runs AdminObject.owner opened [.create (.queue client w.id)] made :=
    runs_create (by simpa [opened] using fun member => fresh _ member rfl) (owned (by simp [opened, handle]) _ rfl)
  have uses : Runs AdminObject.owner made [.use (.handle client), .use (.request w.id),
      .use (.options client w.id), .use (.queue client w.id)] made :=
    runs_uses (by simp [made, opened, handle, request])
  have polling : PollForEvent.Holds (· ∈ made.live) (· ∈ account.created) client w.id 0 none made := by
    refine ⟨by simp, fun p _ member => ?_, fun a member => ?_⟩
    · simp only [made, opened, Finset.mem_insert, reduceCtorEq, false_or] at member
      exact fresh _ member rfl
    · simp only [made, opened, Finset.mem_insert] at member
      rcases member with rfl | rfl | old
      · exact Or.inr rfl
      · exact Or.inr rfl
      · exact Or.inl old
  have apart : ∀ p, .event client w.id p ∉ made.live := by
    intro p member
    simp only [made, opened, Finset.mem_insert, reduceCtorEq, false_or] at member
    exact absent _ rfl member
  obtain ⟨polled, polls, poll, held⟩ := polling.poll lib.logAttempts (lib.eventType w.request.operation)
    response.answers w.timeoutMs apart (by simp [made, opened, handle]) (by simp [made])
  -- the queue and the options go before the event is read
  have closed : Runs AdminObject.owner polled [.destroy (.queue client w.id)]
      { polled with live := polled.live.erase (.queue client w.id) } :=
    runs_destroy_part ((held.live _).mpr (Or.inl (by simp [made]))) (by simp)
  have freed : Runs AdminObject.owner { polled with live := polled.live.erase (.queue client w.id) }
      [.destroy (.options client w.id)]
      { polled with live := (polled.live.erase (.queue client w.id)).erase (.options client w.id) } :=
    runs_destroy_part (Finset.mem_erase.mpr ⟨by simp, (held.live _).mpr (Or.inl (by simp [made, opened]))⟩) (by simp)
  have left : PollForEvent.Holds (· ∈ account.live) (· ∈ account.created) client w.id polls
      (pollForEvent lib.logAttempts (lib.eventType w.request.operation) response.answers w.timeoutMs).1
      { polled with live := (polled.live.erase (.queue client w.id)).erase (.options client w.id) } := by
    refine ⟨fun a => ?_, held.fresh, held.created⟩
    rw [Finset.mem_erase, Finset.mem_erase, held.live]
    simp only [made, opened, Finset.mem_insert]
    constructor
    · rintro ⟨notOptions, notQueue, (same | same | old) | event⟩
      · exact absurd same notQueue
      · exact absurd same notOptions
      · exact Or.inl old
      · exact Or.inr event
    · rintro (old | ⟨event, member, rfl⟩)
      · exact ⟨fun same => absent _ rfl (same ▸ old), fun same => absent _ rfl (same ▸ old),
          Or.inl (Or.inr (Or.inr old))⟩
      · exact ⟨by simp, by simp, Or.inr ⟨event, member, rfl⟩⟩
  obtain ⟨after, read, empty⟩ := left.read fun _ => absent _ rfl
  refine ⟨after, ?_, by simpa using empty.live, empty.created⟩
  rw [perform_effects]
  have before := options.trans (queue.trans uses)
  exact ((before.trans poll).trans (closed.trans freed)).trans read

end AdminWorker

/-- What a call leaves: the request of its worker, if there is one. -/
structure AdminCall.Makes (id : Nat) (taken : Prop) (before after : Account AdminObject) : Prop where
  live : ∀ a, a ∈ after.live ↔ a ∈ before.live ∨ taken ∧ a = .request id
  created : ∀ a ∈ after.created, a ∈ before.created ∨ a = .request id

theorem AdminCall.Makes.nothing {id : Nat} {taken : Prop} (refused : ¬taken) (account : Account AdminObject) :
    Makes id taken account account :=
  ⟨by simp [refused], fun _ => Or.inl⟩

theorem AdminCall.makes_request {id : Nat} {taken : Prop} (accepted : taken) {account : Account AdminObject}
    (fresh : .request id ∉ account.created) :
    ∃ after, Runs AdminObject.owner account [.create (.request id)] after ∧ Makes id taken account after := by
  refine ⟨_, runs_create fresh (by rintro _ ⟨⟩), fun a => ?_, fun a member => ?_⟩
  · rw [Finset.mem_insert]
    simp [accepted, or_comm]
  · exact (Finset.mem_insert.mp member).symm

namespace Conversion.Admin
variable {lib : AdminLibrary} {id : Nat}

/-- The topic is there after the loop unless the loop returns an error. -/
theorem setConfigs_runs (fields : List (String × JsValue)) {account : Account AdminObject}
    (there : .request id ∈ account.live) :
    ∃ after, Runs AdminObject.owner account (setConfigs lib id fields).2 after ∧ after.created = account.created ∧
      after.live = if (setConfigs lib id fields).1.isOk then account.live else account.live.erase (.request id) := by
  have use : Runs AdminObject.owner account [.use (.request id)] account := runs_use there
  have destroy : Runs AdminObject.owner account [.destroy (.request id)]
      { account with live := account.live.erase (.request id) } := AdminWorker.runs_destroy_part there (by simp)
  fun_induction setConfigs lib id fields with
  | case1 => exact ⟨account, .start, rfl, rfl⟩
  | case2 => exact ⟨_, use.trans destroy, rfl, rfl⟩
  | case3 key value rest err passed config effects same ih =>
    obtain ⟨after, run, created, live⟩ := ih
    rw [same] at run live
    refine ⟨after, use.trans run, created, ?_⟩
    rw [live]
    cases config <;> rfl
  | case4 => exact ⟨_, destroy, rfl, rfl⟩

theorem setConfigs_makes (fields : List (String × JsValue)) {account : Account AdminObject}
    (within : account.live ⊆ account.created) (fresh : .request id ∉ account.created) :
    ∃ after, Runs AdminObject.owner account (.create (.request id) :: (setConfigs lib id fields).2) after ∧
      AdminCall.Makes id ((setConfigs lib id fields).1.isOk = true) account after := by
  obtain ⟨made, create, makes⟩ := AdminCall.makes_request trivial fresh
  have there : .request id ∈ made.live := (makes.live _).mpr (Or.inr ⟨trivial, rfl⟩)
  have absent : .request id ∉ account.live := fun member => fresh (within member)
  obtain ⟨after, run, created, live⟩ := setConfigs_runs fields there
  refine ⟨after, create.trans run, fun a => ?_, by rw [created]; exact makes.created⟩
  rw [live]
  split
  · rename_i passed
    simpa [passed] using makes.live a
  · rename_i failed
    rw [Finset.mem_erase, makes.live]
    simp only [failed, Bool.false_eq_true, false_and, or_false, true_and]
    exact ⟨fun left => left.2.resolve_right left.1, fun old => ⟨fun same => absent (same ▸ old), Or.inl old⟩⟩

theorem fromV8TopicObject_runs (object : JsValue) {account : Account AdminObject}
    (within : account.live ⊆ account.created) (fresh : .request id ∉ account.created) :
    ∃ after, Runs AdminObject.owner account (fromV8TopicObject lib id object).2 after ∧
      AdminCall.Makes id ((fromV8TopicObject lib id object).1.isOk = true) account after := by
  unfold fromV8TopicObject
  dsimp only
  split
  · exact ⟨account, .start, .nothing (by simp [Except.isOk, Except.toBool]) account⟩
  · obtain ⟨after, run, makes⟩ := setConfigs_makes _ within fresh
    refine ⟨after, run, ?_⟩
    have same : ∀ {β γ : Type} (f : β → γ) (result : Except String β), (result.map f).isOk = result.isOk := by
      rintro _ _ f (_ | _) <;> rfl
    rw [same]
    exact makes

end Conversion.Admin

theorem AdminCall.node_runs {lib : AdminLibrary} {id : Nat} (call : AdminCall) {account : Account AdminObject}
    (within : account.live ⊆ account.created) (fresh : .request id ∉ account.created) :
    ∃ after, Runs AdminObject.owner account (call.node lib id).2 after ∧
      Makes id ((call.node lib id).1.isOk = true) account after := by
  have refused : ∀ e : String, ¬(Except.error e : Except String AdminWorker).isOk = true := fun _ => by
    simp [Except.isOk, Except.toBool]
  cases call with
  | createTopic topic timeout cb =>
    simp only [node]
    split
    · obtain ⟨after, run, makes⟩ := Conversion.Admin.fromV8TopicObject_runs topic within fresh
      refine ⟨after, run, ?_⟩
      cases result : (Conversion.Admin.fromV8TopicObject lib id topic).1 <;> rw [result] at makes <;> exact makes
    · exact ⟨account, .start, .nothing (refused _) account⟩
  | deleteTopic topic timeout cb =>
    simp only [node]
    split
    · exact makes_request rfl fresh
    · exact ⟨account, .start, .nothing (refused _) account⟩
  | createPartitions topic totalPartitions timeout cb =>
    simp only [node]
    split
    · split
      · exact ⟨account, .start, .nothing (refused _) account⟩
      · exact makes_request rfl fresh
    · exact ⟨account, .start, .nothing (refused _) account⟩

namespace AdminState
variable {connecting : Librdkafka Nat} {lib : AdminLibrary} {s t : AdminState}

/-- What an AdminClient holds, or has lost. -/
def Owns (s : AdminState) : AdminObject → Prop
  | .handle client => s.native.connection.mClient = some client ∨ client ∈ s.lost
  | .rkqu client => s.native.rkqu = some client
  | .request id => ∃ w ∈ s.pending (·.worker), w.id = id
  | .options .. | .queue .. | .event .. => False

/-- The objects whose names are taken. -/
def Known (s : AdminState) : AdminObject → Prop
  | .handle client | .rkqu client => client < s.handles
  | .request id => id < s.requests
  | .options _ id | .queue _ id | .event _ id _ => ∃ run ∈ s.runs, run.worker.id = id

/-- The ledger of an AdminClient, whose handles have names of their own. -/
structure Accounted (s : AdminState) (account : Account AdminObject) : Prop where
  runs : Runs AdminObject.owner {} s.effects account
  live : ∀ a, a ∈ account.live ↔ s.Owns a
  created : ∀ a ∈ account.created, s.Known a
  handle : ∀ client, s.native.connection.mClient = some client → client < s.handles ∧ client ∉ s.lost
  lost : ∀ client ∈ s.lost, client < s.handles

theorem Accounted.within {account : Account AdminObject} (accounted : s.Accounted account) :
    account.live ⊆ account.created := runs_live_subset accounted.runs (by simp)

theorem owns_congr (native : t.native = s.native) (lost : t.lost = s.lost) (pending : (t.pending (·.worker)).Perm (s.pending (·.worker)))
    (a : AdminObject) : t.Owns a ↔ s.Owns a := by
  cases a <;> simp only [Owns, native, lost, pending.mem_iff]

theorem Known.mono {a : AdminObject} (known : s.Known a) (handles : s.handles ≤ t.handles)
    (requests : s.requests ≤ t.requests) (runs : ∀ run ∈ s.runs, run ∈ t.runs) : t.Known a := by
  cases a <;> first
    | exact Nat.lt_of_lt_of_le known handles
    | exact Nat.lt_of_lt_of_le known requests
    | exact known.imp fun run there => ⟨runs run there.1, there.2⟩

theorem Accounted.setToken {account : Account AdminObject} (accounted : s.Accounted account)
    (token : OauthBearerToken) : (s.setToken token).Accounted account := by
  unfold AdminState.setToken
  split
  · exact ⟨accounted.runs, accounted.live, accounted.created, accounted.handle, accounted.lost⟩
  · rename_i client handle
    have there : .handle client ∈ account.live := (accounted.live _).mpr (Or.inl handle)
    exact ⟨accounted.runs.trans (runs_use there), accounted.live, accounted.created, accounted.handle, accounted.lost⟩

/-- What a call changes. -/
theorem call_spec (s : AdminState) (call : AdminCall) (connected : s.isConnected = true) :
    (s.call lib call).effects = s.effects ++ (call.node lib s.requests).2 ∧
      (s.call lib call).requests = s.requests + 1 ∧ (s.call lib call).native = s.native ∧
      (s.call lib call).lost = s.lost ∧ (s.call lib call).handles = s.handles ∧ (s.call lib call).runs = s.runs ∧
      ∀ id, (∃ w ∈ (s.call lib call).pending (·.worker), w.id = id) ↔
        (∃ w ∈ s.pending (·.worker), w.id = id) ∨ (call.node lib s.requests).1.isOk = true ∧ id = s.requests := by
  unfold AdminState.call
  rw [if_pos connected]
  dsimp only
  cases taken : (call.node lib s.requests).1 with
  | error e =>
    refine ⟨rfl, rfl, rfl, rfl, rfl, rfl, fun id => ?_⟩
    simp [Except.isOk, Except.toBool]
  | ok w =>
    refine ⟨rfl, rfl, rfl, rfl, rfl, rfl, fun id => ?_⟩
    have named := AdminCall.node_id taken
    simp only [WorkerPool.pending, WorkerPool.queue, Except.isOk, Except.toBool, List.mem_append, List.mem_singleton,
      true_and]
    constructor
    · rintro ⟨v, (there | rfl) | there, rfl⟩
      · exact Or.inl ⟨v, Or.inl there, rfl⟩
      · exact Or.inr named
      · exact Or.inl ⟨v, Or.inr there, rfl⟩
    · rintro (⟨v, there, rfl⟩ | rfl)
      · exact ⟨v, there.imp Or.inl fun run => run, rfl⟩
      · exact ⟨w, Or.inl (Or.inr rfl), named⟩

theorem Accounted.call {account : Account AdminObject} (accounted : s.Accounted account) (call : AdminCall) :
    ∃ after, (s.call lib call).Accounted after := by
  by_cases connected : s.isConnected = true
  · obtain ⟨effects, requests, native, lost, handles, runs, pending⟩ := call_spec s call connected
    have fresh : .request s.requests ∉ account.created := fun member => Nat.lt_irrefl _ (accounted.created _ member)
    obtain ⟨after, run, live, created⟩ := AdminCall.node_runs call accounted.within fresh
    refine ⟨after, effects ▸ accounted.runs.trans run, fun a => ?_, fun a member => ?_, ?_, ?_⟩
    · rw [live, accounted.live]
      cases a with
      | request id => simp only [Owns, pending, AdminObject.request.injEq]
      | _ => simp [Owns, native, lost]
    · rcases created a member with old | rfl
      · exact (accounted.created a old).mono handles.ge (requests ▸ Nat.le_succ _) (by simp [runs])
      · rw [Known, requests]
        exact Nat.lt_succ_self _
    · rw [native, lost, handles]
      exact accounted.handle
    · rw [lost, handles]
      exact accounted.lost
  · rw [AdminState.call, if_neg connected]
    exact ⟨account, accounted⟩

/-- The queue of the AdminClient can be destroyed. -/
theorem Accounted.destroy_rkqu {account : Account AdminObject} (accounted : s.Accounted account) :
    ∃ after, Runs AdminObject.owner account
        (s.native.rkqu.toList.map fun client => .destroy (.rkqu client)) after ∧
      (∀ a, a ∈ after.live ↔ a ∈ account.live ∧ ∀ client, a ≠ .rkqu client) ∧
      after.created = account.created := by
  cases queue : s.native.rkqu with
  | none =>
    refine ⟨account, .start, fun a => ⟨fun there => ⟨there, ?_⟩, And.left⟩, rfl⟩
    rintro client rfl
    have owns := (accounted.live _).mp there
    simp [Owns, queue] at owns
  | some client =>
    have there : .rkqu client ∈ account.live := (accounted.live _).mpr queue
    refine ⟨_, AdminWorker.runs_destroy_part there (by simp), fun a => ?_, rfl⟩
    rw [Finset.mem_erase]
    refine ⟨fun left => ⟨left.2, ?_⟩, fun left => ⟨left.2 client, left.1⟩⟩
    rintro other rfl
    have owns := (accounted.live _).mp left.2
    exact left.1 (by simp [Option.some.inj (owns.symm.trans queue)])

theorem Accounted.disconnect {account : Account AdminObject} (accounted : s.Accounted account) :
    ∃ after, s.disconnect.Accounted after := by
  unfold AdminState.disconnect
  split
  · rename_i connected
    obtain ⟨client, handle⟩ := Option.isSome_iff_exists.mp (Bool.and_eq_true_iff.mp connected).2
    obtain ⟨between, queue, live, created⟩ := accounted.destroy_rkqu
    have kept : client ∉ s.lost := (accounted.handle client handle).2
    have there : .handle client ∈ between.live := (live _).mpr ⟨(accounted.live _).mpr (Or.inl handle), by simp⟩
    have free : ∀ b ∈ between.live, b.owner ≠ some (.handle client) := by
      intro b member owned
      obtain ⟨old, part⟩ := (live b).mp member
      have owns := (accounted.live b).mp old
      cases b <;> simp_all [AdminObject.owner, Owns]
    refine ⟨{ between with live := between.live.erase (.handle client) }, ?_, fun a => ?_, ?_, ?_, accounted.lost⟩
    · rw [handle]
      exact (accounted.runs.trans queue).trans (runs_destroy there free)
    · rw [Finset.mem_erase, live, accounted.live]
      cases a with
      | handle other =>
        simp only [Owns, handle, ne_eq, AdminObject.handle.injEq, Option.some.injEq, reduceCtorEq, not_false_eq_true,
          implies_true, and_true, false_or]
        constructor
        · rintro ⟨different, same | lost⟩
          · exact absurd same.symm different
          · exact lost
        · exact fun lost => ⟨fun same => kept (same ▸ lost), Or.inr lost⟩
      | rkqu other => simp [Owns]
      | _ => simp [Owns]
    · intro a member
      rw [created] at member
      exact accounted.created a member
    · rintro _ ⟨⟩
  · exact ⟨account, accounted.runs, accounted.live, accounted.created, accounted.handle, accounted.lost⟩

/-- A Connect that gets no handle drops the one there is. -/
theorem connect_refused (s : AdminState) (errstr : String) :
    s.connect connecting false errstr =
      { s with
        native := { s.native with connection := { s.native.connection with mClient := none } }
        handles := s.handles + 1
        lost := s.lost ++ s.native.connection.mClient.toList } := by
  have refused : ErrorCode.errState ≠ ErrorCode.errNoError := by decide
  unfold AdminState.connect AdminClient.connect
  simp only [NativeConnection.connectClient, Baton.err, Baton.ofErrstr, Bool.false_eq_true, if_false, ne_eq, refused,
    not_false_eq_true, if_true, List.append_nil]
  cases s.native.connection.mInitOauthToken <;> cases s.native.rkqu <;> simp

theorem connect_native (keeps : ∀ client token, (connecting.setToken client token).2.2 = client)
    (a : AdminClient Nat) (client : Nat) (errstr : String) :
    (a.connect connecting (some client, errstr)).1.connection.mClient = some client ∧
      ((a.connect connecting (some client, errstr)).1.rkqu = a.rkqu ∨
        a.rkqu = none ∧ (a.connect connecting (some client, errstr)).1.rkqu = some client) := by
  have handle : (a.connection.connectClient connecting true (some client, errstr)).1.mClient = some client := by
    rw [NativeConnection.connectClient_some]
    split
    · rfl
    · unfold NativeConnection.giveToken
      split
      · rfl
      · rename_i token stored
        dsimp only
        split <;> exact congrArg some (keeps client token)
  unfold AdminClient.connect
  dsimp only
  split
  · exact ⟨handle, Or.inl rfl⟩
  · refine ⟨handle, ?_⟩
    cases queue : a.rkqu with
    | none => exact Or.inr ⟨rfl, handle⟩
    | some other => exact Or.inl rfl

/-- A Connect that gets a handle keeps it, perhaps gives it the token, and makes its
queue if there is none. -/
theorem connect_handle (keeps : ∀ client token, (connecting.setToken client token).2.2 = client)
    (s : AdminState) (errstr : String) :
    (s.connect connecting true errstr).native.connection.mClient = some s.handles ∧
      ∃ uses queue, (s.connect connecting true errstr).effects =
          s.effects ++ [.create (.handle s.handles)] ++ uses ++ queue ∧
        (∀ effect ∈ uses, effect = .use (.handle s.handles)) ∧
        ((s.connect connecting true errstr).native.rkqu = s.native.rkqu ∧ queue = [] ∨
          s.native.rkqu = none ∧ (s.connect connecting true errstr).native.rkqu = some s.handles ∧
            queue = [.create (.rkqu s.handles)]) := by
  obtain ⟨handle, rkqu⟩ := connect_native keeps s.native s.handles errstr
  generalize same : (s.native.connect connecting (some s.handles, errstr)).1 = native at handle rkqu
  have left : (s.connect connecting true errstr).native = native := same
  refine ⟨left ▸ handle, if s.native.connection.mInitOauthToken.isSome ∧ native.connection.mInitOauthToken = none then
    [.use (.handle s.handles)] else [], if s.native.rkqu = none then native.rkqu.toList.map fun client =>
      .create (.rkqu client) else [], by rw [← same]; rfl, ?_, ?_⟩
  · intro effect member
    split at member
    · exact List.mem_singleton.mp member
    · cases member
  · rw [left]
    rcases rkqu with kept | ⟨none', made⟩
    · refine Or.inl ⟨kept, ?_⟩
      split
      · rename_i none'
        simp [kept.trans none']
      · rfl
    · exact Or.inr ⟨none', made, by simp [none', made]⟩

/-- What is owned after a Connect, apart from its queue. -/
theorem owns_connect (keeps : ∀ client token, (connecting.setToken client token).2.2 = client) (s : AdminState)
    (errstr : String) {a : AdminObject} (other : ∀ client, a ≠ .rkqu client) :
    (s.connect connecting true errstr).Owns a ↔ a = .handle s.handles ∨ s.Owns a := by
  obtain ⟨handle, _⟩ := connect_handle keeps s errstr
  cases a with
  | handle client =>
    have lost : (s.connect connecting true errstr).lost = s.lost ++ s.native.connection.mClient.toList := rfl
    simp only [Owns, handle, lost, List.mem_append, Option.mem_toList, Option.some.injEq,
      AdminObject.handle.injEq, eq_comm (a := client)]
    tauto
  | rkqu client => exact absurd rfl (other client)
  | request id => exact ⟨Or.inr, fun owns => owns.resolve_left (by simp)⟩
  | options | queue | event => simp [Owns]

theorem Accounted.lost_connect {account : Account AdminObject} (accounted : s.Accounted account) :
    ∀ client ∈ s.lost ++ s.native.connection.mClient.toList, client < s.handles := by
  intro client member
  rcases List.mem_append.mp member with old | held
  · exact accounted.lost client old
  · exact (accounted.handle client (by simpa using held)).1

theorem Accounted.connect_refused {account : Account AdminObject} (accounted : s.Accounted account)
    (errstr : String) : (s.connect connecting false errstr).Accounted account := by
  refine ⟨?_, fun a => ?_, fun a member => ?_, ?_, fun client member => ?_⟩
  · rw [AdminState.connect_refused]
    exact accounted.runs
  · rw [accounted.live, AdminState.connect_refused]
    cases a <;> simp [Owns, or_comm]
  · exact (accounted.created a member).mono (Nat.le_succ _) le_rfl fun _ there => there
  · rw [AdminState.connect_refused]
    rintro _ ⟨⟩
  · exact Nat.lt_succ_of_lt (accounted.lost_connect client member)

theorem Accounted.connect_handle {account : Account AdminObject} (accounted : s.Accounted account)
    (keeps : ∀ client token, (connecting.setToken client token).2.2 = client) (errstr : String) :
    ∃ after, (s.connect connecting true errstr).Accounted after := by
  have lost := accounted.lost_connect
  obtain ⟨handle, uses, queue, effects, used, rkqu⟩ := AdminState.connect_handle keeps s errstr
  have owns := fun a => owns_connect keeps s errstr (a := a)
  have held : ∀ client, (s.connect connecting true errstr).native.connection.mClient = some client →
      client < s.handles + 1 ∧ client ∉ s.lost ++ s.native.connection.mClient.toList := by
    intro client same
    cases handle.symm.trans same
    exact ⟨Nat.lt_succ_self _, fun member => Nat.lt_irrefl _ (lost _ member)⟩
  have fresh : ∀ a : AdminObject, a = .handle s.handles ∨ a = .rkqu s.handles → a ∉ account.created := by
    rintro a (rfl | rfl) member <;> exact Nat.lt_irrefl _ (accounted.created _ member)
  let made : Account AdminObject :=
    { created := insert (.handle s.handles) account.created, live := insert (.handle s.handles) account.live }
  have create : Runs AdminObject.owner account [.create (.handle s.handles)] made :=
    runs_create (fresh _ (Or.inl rfl)) (by rintro _ ⟨⟩)
  have use : Runs AdminObject.owner made uses made :=
    runs_uses fun effect member => ⟨_, Finset.mem_insert_self .., used effect member⟩
  have before := (accounted.runs.trans create).trans use
  have known : ∀ a ∈ made.created, (s.connect connecting true errstr).Known a := by
    intro a member
    rcases Finset.mem_insert.mp member with rfl | old
    · exact Nat.lt_succ_self _
    · exact (accounted.created a old).mono (Nat.le_succ _) le_rfl fun _ there => there
  have next : ∀ client ∈ s.lost ++ s.native.connection.mClient.toList, client < s.handles + 1 :=
    fun client member => Nat.lt_succ_of_lt (lost client member)
  rcases rkqu with ⟨kept, rfl⟩ | ⟨none', some', rfl⟩
  · refine ⟨made, by rw [effects]; exact before.trans .start, fun a => ?_, known, held, next⟩
    rw [Finset.mem_insert, accounted.live]
    by_cases other : ∀ client, a ≠ .rkqu client
    · exact (owns a other).symm
    · push Not at other
      obtain ⟨client, rfl⟩ := other
      simp [Owns, kept]
  · have queue : Runs AdminObject.owner made [.create (.rkqu s.handles)]
        { created := insert (.rkqu s.handles) made.created, live := insert (.rkqu s.handles) made.live } := by
      refine runs_create ?_ ?_
      · simpa [made] using fresh _ (Or.inr rfl)
      · rintro _ ⟨⟩
        exact Finset.mem_insert_self ..
    refine ⟨_, by rw [effects]; exact before.trans queue, fun a => ?_, fun a member => ?_, held, next⟩
    · rw [Finset.mem_insert, Finset.mem_insert, accounted.live]
      by_cases other : ∀ client, a ≠ .rkqu client
      · rw [owns a other]
        exact ⟨fun there => there.resolve_left (other _), Or.inr⟩
      · push Not at other
        obtain ⟨client, rfl⟩ := other
        simp [Owns, none', some', eq_comm]
    · rcases Finset.mem_insert.mp member with rfl | old
      · exact Nat.lt_succ_self _
      · exact known a old

theorem Accounted.execute {account : Account AdminObject} (accounted : s.Accounted account)
    (answered : s.Answered lib) {index : Nat} {response : AdminResponse}
    (run : s.execute lib index response = some t) : ∃ after, t.Accounted after := by
  obtain ⟨w, pool, done, taken, worker, finished, native, lost, handles, requests, _, _, effects, _⟩ :=
    execute_cases run
  have waits := WorkerPool.take_mem taken
  have moved : t.runs.Perm (done :: s.runs) := finished ▸ WorkerPool.finish_runs taken done
  have owns := owns_congr native lost (finished ▸ WorkerPool.finish_pending taken worker)
  have held : ∀ client, t.native.connection.mClient = some client → client < t.handles ∧ client ∉ t.lost := by
    rw [native, lost, handles]
    exact accounted.handle
  have older : ∀ client ∈ t.lost, client < t.handles := by
    rw [lost, handles]
    exact accounted.lost
  have known : ∀ a ∈ account.created, t.Known a := fun a member =>
    (accounted.created a member).mono handles.ge requests.ge
      fun run there => moved.mem_iff.mpr (List.mem_cons_of_mem _ there)
  rcases effects with none' | ⟨client, handle, effects⟩
  · exact ⟨account, none' ▸ accounted.runs, fun a => (accounted.live a).trans (owns a).symm, known, held, older⟩
  · have fresh : ∀ a ∈ account.created, a.operation ≠ some w.id := by
      intro a member own
      have known := accounted.created a member
      cases a <;> simp only [AdminObject.operation, Option.some.injEq, reduceCtorEq] at own
      all_goals
        obtain ⟨old, there, same⟩ := known
        exact (answered.placed.nodup answered.distinct).2 w waits old there (same.trans own)
    obtain ⟨after, performed, live, created⟩ := AdminWorker.perform_runs client response accounted.within
      ((accounted.live _).mpr (Or.inl handle))
      ((accounted.live _).mpr ⟨w, List.mem_append_left _ waits, rfl⟩) fresh
    refine ⟨after, effects ▸ accounted.runs.trans performed, fun a => ?_, fun a member => ?_, held, older⟩
    · rw [live, accounted.live, owns]
    · rcases created a member with old | own
      · exact known a old
      · have ran : done ∈ t.runs := moved.mem_iff.mpr List.mem_cons_self
        cases a <;> simp only [AdminObject.operation, Option.some.injEq, reduceCtorEq] at own
        all_goals exact ⟨done, ran, worker ▸ own.symm⟩

theorem Accounted.complete {account : Account AdminObject} (accounted : s.Accounted account)
    (answered : s.Answered lib) {index : Nat} (run : s.complete lib index = some t) :
    ∃ after, t.Accounted after := by
  unfold AdminState.complete at run
  split at run
  · cases run
  · rename_i done pool found
    cases Option.some.inj run
    have left : (s.pending (·.worker)).Perm (done.worker :: pool.pending (·.worker)) :=
      WorkerPool.complete_pending found
    have there : .request done.worker.id ∈ account.live :=
      (accounted.live _).mpr ⟨_, left.mem_iff.mpr List.mem_cons_self, rfl⟩
    refine ⟨_, accounted.runs.trans (AdminWorker.runs_destroy_part there (by simp)), fun a => ?_, fun a member => ?_,
      accounted.handle, accounted.lost⟩
    · rw [Finset.mem_erase, accounted.live]
      cases a with
      | request id =>
        have distinct := (left.map (·.id)).nodup_iff.mp (answered.placed.nodup answered.distinct).1
        rw [List.map_cons, List.nodup_cons] at distinct
        simp only [Owns, left.mem_iff, List.mem_cons, ne_eq, AdminObject.request.injEq]
        constructor
        · rintro ⟨other, w, rfl | kept, rfl⟩
          · exact absurd rfl other
          · exact ⟨w, kept, rfl⟩
        · rintro ⟨w, kept, rfl⟩
          exact ⟨fun same => distinct.1 (same ▸ List.mem_map_of_mem kept), w, Or.inr kept, rfl⟩
      | _ => simp [Owns]
    · exact (accounted.created a member).mono le_rfl le_rfl fun run there =>
        (WorkerPool.complete_runs found).mem_iff.mpr there

theorem Accounted.step {action : AdminAction} {account : Account AdminObject} (accounted : s.Accounted account)
    (answered : s.Answered lib) (keeps : ∀ client token, (connecting.setToken client token).2.2 = client)
    (run : s.step connecting lib action = some t) : ∃ after, t.Accounted after := by
  cases action with
  | connect creates errstr =>
    cases Option.some.inj run
    cases creates with
    | false => exact ⟨account, accounted.connect_refused errstr⟩
    | true => exact accounted.connect_handle keeps errstr
  | disconnect =>
    cases Option.some.inj run
    exact accounted.disconnect
  | setToken token =>
    cases Option.some.inj run
    exact ⟨account, accounted.setToken token⟩
  | call call =>
    cases Option.some.inj run
    exact accounted.call call
  | execute index response => exact accounted.execute answered run
  | complete index => exact accounted.complete answered run

/-- Every connect is taken while there is no handle. -/
def ConnectsOnce (s : AdminState) (action : AdminAction) : Prop :=
  ∀ creates errstr, action = .connect creates errstr → s.native.connection.mClient = none

theorem step_lost {action : AdminAction} (run : s.step connecting lib action = some t) :
    t.lost = [] ↔ s.lost = [] ∧ s.ConnectsOnce action := by
  cases action with
  | connect creates errstr =>
    cases Option.some.inj run
    have lost : (s.connect connecting creates errstr).lost = s.lost ++ s.native.connection.mClient.toList := rfl
    simp [lost, ConnectsOnce]
  | disconnect =>
    cases Option.some.inj run
    unfold AdminState.disconnect
    split <;> simp [ConnectsOnce]
  | setToken token =>
    cases Option.some.inj run
    unfold AdminState.setToken
    split <;> simp [ConnectsOnce]
  | call call =>
    cases Option.some.inj run
    unfold AdminState.call
    split <;> simp [ConnectsOnce]
  | execute index response =>
    obtain ⟨_, _, _, _, _, _, _, lost, _⟩ := execute_cases run
    rw [lost]
    simp [ConnectsOnce]
  | complete index =>
    change s.complete lib index = some t at run
    unfold AdminState.complete at run
    split at run
    · cases run
    · cases Option.some.inj run
      simp [ConnectsOnce]

end AdminState

/-- In every run of an AdminClient whatever it makes with librdkafka is made once, used
only while it is there, and destroyed at most once, before the handle that it belongs to.
What is left at any time is the handle and the queue that it has, the requests of the
workers that have not ended, and the handles that were lost, of which there are none if
and only if each connect was taken while there was no handle. -/
theorem adminClient_ledger {connecting : Librdkafka Nat} {lib : AdminLibrary} {trace : List AdminAction}
    {s : AdminState} (keeps : ∀ client token, (connecting.setToken client token).2.2 = client)
    (reach : Reach (AdminState.step connecting lib) {} trace s) :
    (∃ account, Runs AdminObject.owner {} s.effects account ∧ ∀ a, a ∈ account.live ↔ s.Owns a) ∧
      (s.lost = [] ↔ ReachWhile AdminState.ConnectsOnce (AdminState.step connecting lib) {} trace s) := by
  have start : ({} : AdminState).Accounted {} := by
    refine ⟨.start, fun a => ?_, by simp, ?_, by simp⟩
    · cases a <;> simp [AdminState.Owns, WorkerPool.pending]
    · rintro _ ⟨⟩
  let Inv := fun s : AdminState => s.Answered lib ∧ ∃ account, s.Accounted account
  obtain ⟨⟨_, account, accounted⟩, lost⟩ :=
    reach.good_iff_while Inv (·.lost = []) ⟨AdminState.start_answered, {}, start⟩ rfl fun inv run => by
      obtain ⟨answered, _, accounted⟩ := inv
      exact ⟨⟨answered.step run, accounted.step answered keeps run⟩, AdminState.step_lost run⟩
  exact ⟨⟨account, accounted.runs, accounted.live⟩, lost⟩

/-- A topic is created between two connects. -/
def secondConnect : List AdminAction :=
  let topic := JsValue.object [("topic", .string "t"), ("num_partitions", nanNumber 1)]
  [.connect true "", .call (.createTopic topic (.function 0) .undefined),
   .execute 0 { answers := fun _ => some 100, error := 0, topics := [(0, none)] }, .connect true "", .complete 0,
   .disconnect]

theorem adminClient_ledger_secondConnect : ∃ s,
    Reach (AdminState.step obligingConnect obligingLibrary) {} secondConnect s ∧ s.lost = [0] ∧
      ∃ account, Runs AdminObject.owner {} s.effects account ∧ ∀ a, a ∈ account.live ↔ s.Owns a := by
  obtain ⟨s, reach, lost⟩ : ∃ s, Reach (AdminState.step obligingConnect obligingLibrary) {} secondConnect s ∧
      s.lost = [0] := ⟨_, reach_iff_replay.mpr rfl, rfl⟩
  exact ⟨s, reach, lost, (adminClient_ledger (fun _ _ => rfl) reach).1⟩

end NodeRdkafka

import NodeRdkafka.AdminClient

namespace NodeRdkafka
open Transition

namespace PollForEvent
variable (logAttempts : Nat → Int) (eventType : Int) (answers : Nat → Option Int) (timeoutMs : Int32)

/-- The polls stop at the first event of the type, whatever the number of attempts. -/
theorem polls_iterate : ∃ n, polls logAttempts eventType answers timeoutMs =
      (attempt answers)^[n + 1] (start logAttempts timeoutMs) ∧
    ∀ m < n, rdKafkaEventType (polledEvent answers m) ≠ eventType := by
  obtain ⟨_, first, _⟩ := start_fresh logAttempts timeoutMs
  obtain ⟨n, _, run, earlier, _⟩ := loop_eq eventType answers
    ((start logAttempts timeoutMs).attempts - 1).toNat (start logAttempts timeoutMs)
  exact ⟨n, run, fun m less => ((continues_iterate first m).mp (earlier m less)).1⟩

/-- The event returned is one of the type that was polled, if there is any. -/
theorem pollForEvent_result :
    ((pollForEvent logAttempts eventType answers timeoutMs).1 = none ↔
      ∀ event ∈ (pollForEvent logAttempts eventType answers timeoutMs).2.polled, event.type ≠ eventType) ∧
    ∀ event, (pollForEvent logAttempts eventType answers timeoutMs).1 = some event →
      event ∈ (pollForEvent logAttempts eventType answers timeoutMs).2.polled ∧ event.type = eventType := by
  obtain ⟨_, first, unpolled⟩ := start_fresh logAttempts timeoutMs
  obtain ⟨n, run, earlier⟩ := polls_iterate logAttempts eventType answers timeoutMs
  have response := attempt_iterate_eventResponse answers first n
  have polled := attempt_iterate_polled answers first (n + 1) (by simp_all)
  rw [← run] at response polled
  have kept := (finish_kept eventType (polls logAttempts eventType answers timeoutMs)).2.1
  simp only [pollForEvent, kept]
  exact ⟨finish_eq_none_iff earlier polled response, fun event found => mem_of_finish earlier polled response found⟩

end PollForEvent

namespace AdminWorker
variable (lib : AdminLibrary) (w : AdminWorker)

/-- The events that the queue of the operation has returned. -/
def polled (response : AdminResponse) : List PolledEvent :=
  (pollForEvent lib.logAttempts (lib.eventType w.request.operation) response.answers w.timeoutMs).2.polled

def Responded (response : AdminResponse) : Prop :=
  ∃ event ∈ w.polled lib response, event.type = lib.eventType w.request.operation

/-- The code and the text that are due for what librdkafka has answered, which is none
if there was no handle. -/
inductive Verdict : Option AdminResponse → ErrorCode → Option String → Prop
  | disconnected : Verdict none ErrorCode.errState none
  | timedOut {response} : ¬w.Responded lib response → Verdict (some response) ErrorCode.errTimedOut none
  | failed {response} : w.Responded lib response → response.error ≠ ErrorCode.errNoError →
      Verdict (some response) response.error none
  | refused {response before code text after} : w.Responded lib response →
      response.error = ErrorCode.errNoError → response.topics = before ++ (code, text) :: after →
      (∀ topic ∈ before, topic.1 = ErrorCode.errNoError) → code ≠ ErrorCode.errNoError →
      Verdict (some response) code (if w.request.operation = .deleteTopic then none else text)
  | acknowledged {response} : w.Responded lib response → response.error = ErrorCode.errNoError →
      (∀ topic ∈ response.topics, topic.1 = ErrorCode.errNoError) →
      Verdict (some response) ErrorCode.errNoError none

/-- The baton with a code and perhaps a text. -/
def baton (code : ErrorCode) (text : Option String) : Baton Unit :=
  match text with
  | some text => .ofErrstr code (cString text)
  | none => .ofCode code

variable {lib w}

theorem topicsResult_cases (operation : AdminOperation) (topics : List (ErrorCode × Option String)) :
    (operation.topicsResult topics = baton ErrorCode.errNoError none ∧
      ∀ topic ∈ topics, topic.1 = ErrorCode.errNoError) ∨
    ∃ before code text after, topics = before ++ (code, text) :: after ∧
      (∀ topic ∈ before, topic.1 = ErrorCode.errNoError) ∧ code ≠ ErrorCode.errNoError ∧
      operation.topicsResult topics = baton code (if operation = .deleteTopic then none else text) := by
  induction topics with
  | nil => exact Or.inl ⟨rfl, by simp⟩
  | cons topic rest ih =>
    obtain ⟨code, text⟩ := topic
    by_cases error : code = ErrorCode.errNoError
    · have same : operation.topicsResult ((code, text) :: rest) = operation.topicsResult rest := by
        simp [AdminOperation.topicsResult, error]
      rw [same]
      rcases ih with ⟨passed, none'⟩ | ⟨before, first, message, after, split, earlier, failed, result⟩
      · exact Or.inl ⟨passed, by simpa [error] using none'⟩
      · refine Or.inr ⟨(code, text) :: before, first, message, after, by rw [split]; rfl, ?_, failed, result⟩
        simpa [error] using earlier
    · refine Or.inr ⟨[], code, text, rest, rfl, by simp, error, ?_⟩
      cases text with
      | none => simp [AdminOperation.topicsResult, error, baton]
      | some text =>
        by_cases deletes : operation = .deleteTopic <;> simp [AdminOperation.topicsResult, error, baton, deletes]

/-- An operation on a handle gives the verdict on the answers of librdkafka. -/
theorem perform_verdict (client : Nat) (response : AdminResponse) :
    ∃ code text, (w.perform lib client response).1 = baton code text ∧ Verdict lib w (some response) code text := by
  obtain ⟨missed, found⟩ := PollForEvent.pollForEvent_result lib.logAttempts
    (lib.eventType w.request.operation) response.answers w.timeoutMs
  unfold perform
  dsimp only
  split
  · rename_i none'
    refine ⟨_, none, rfl, .timedOut ?_⟩
    rintro ⟨event, member, type⟩
    exact missed.mp none' event member type
  · rename_i event returned
    have responded : w.Responded lib response := ⟨event, found event returned⟩
    by_cases error : response.error = ErrorCode.errNoError
    · simp only [error, ne_eq, not_true_eq_false, if_false]
      rcases topicsResult_cases w.request.operation response.topics with
        ⟨passed, none'⟩ | ⟨before, code, text, after, split, earlier, failed, result⟩
      · exact ⟨_, none, passed, .acknowledged responded error none'⟩
      · exact ⟨code, _, result, .refused responded error split earlier failed⟩
    · simp only [ne_eq, error, not_false_eq_true, if_true]
      exact ⟨_, none, rfl, .failed responded error⟩

theorem baton_err (code : ErrorCode) (text : Option String) : (baton code text).err = code := by
  cases text <;> rfl

/-- librdkafka has carried the operation out. -/
def Succeeded (lib : AdminLibrary) (w : AdminWorker) (response : Option AdminResponse) : Prop :=
  ∃ answered, response = some answered ∧ w.Responded lib answered ∧ answered.error = ErrorCode.errNoError ∧
    ∀ topic ∈ answered.topics, topic.1 = ErrorCode.errNoError

theorem Verdict.passed_iff {response : Option AdminResponse} {code : ErrorCode} {text : Option String}
    (verdict : Verdict lib w response code text) : code = ErrorCode.errNoError ↔ w.Succeeded lib response := by
  cases verdict with
  | disconnected =>
    refine ⟨fun passed => absurd passed (by decide), ?_⟩
    rintro ⟨answered, impossible, _⟩
    cases impossible
  | timedOut missed =>
    refine ⟨fun passed => absurd passed (by decide), ?_⟩
    rintro ⟨answered, same, responded, _⟩
    cases same
    exact absurd responded missed
  | failed _ error =>
    refine ⟨fun passed => absurd passed error, ?_⟩
    rintro ⟨answered, same, _, none', _⟩
    cases same
    exact none'
  | @refused _ before _ message after _ _ split _ failed =>
    refine ⟨fun passed => absurd passed failed, ?_⟩
    rintro ⟨answered, same, _, _, topics⟩
    cases same
    exact topics (code, message) (by simp [split])
  | acknowledged responded error topics => exact ⟨fun _ => ⟨_, rfl, responded, error, topics⟩, fun _ => rfl⟩

end AdminWorker

theorem AdminCall.node_id {lib : AdminLibrary} {id : Nat} {call : AdminCall} {w : AdminWorker}
    (taken : (call.node lib id).1 = .ok w) : w.id = id := by
  cases call with
  | createTopic topic timeout cb =>
    simp only [node] at taken
    split at taken
    · cases made : (Conversion.Admin.fromV8TopicObject lib id topic).1 with
      | error e => simp [made, Except.map] at taken
      | ok request =>
        simp only [made, Except.map, Except.ok.injEq] at taken
        exact taken ▸ rfl
    · cases taken
  | deleteTopic topic timeout cb =>
    simp only [node] at taken
    split at taken
    · cases taken
      rfl
    · cases taken
  | createPartitions topic totalPartitions timeout cb =>
    simp only [node] at taken
    split at taken
    · split at taken
      · cases taken
      · cases taken
        rfl
    · cases taken

namespace AdminState
variable {connecting : Librdkafka Nat} {lib : AdminLibrary} {s t : AdminState}

/-- Each operation is in one place, and has been answered as it should. -/
structure Answered (lib : AdminLibrary) (s : AdminState) : Prop where
  placed : s.Placed (·.worker)
  older : ∀ w ∈ s.accepted, w.id < s.requests
  distinct : (s.accepted.map (·.id)).Nodup
  submitted : s.submitted.Perm ((s.runs.filter (·.response.isSome)).map (·.worker))
  callbacks : s.callbacks =
    s.completed.flatMap fun run => run.worker.cb.toList.map fun cb => (cb, answer lib run.baton)
  verdicts : ∀ run ∈ s.runs, ∃ code text, run.baton = AdminWorker.baton code text ∧
    run.worker.Verdict lib run.response code text

/-- The fields that the invariant is about. -/
theorem Answered.unchanged (answered : s.Answered lib) (pool : t.toWorkerPool = s.toWorkerPool)
    (requests : s.requests ≤ t.requests) (submitted : t.submitted = s.submitted)
    (callbacks : t.callbacks = s.callbacks) : t.Answered lib := by
  obtain ⟨placed, older, distinct, handed, called, verdicts⟩ := answered
  rw [← pool] at placed older distinct handed called verdicts
  exact ⟨placed, fun w member => (older w member).trans_le requests, distinct, submitted ▸ handed,
    callbacks.trans called, verdicts⟩

theorem Answered.call (answered : s.Answered lib) (call : AdminCall) : (s.call lib call).Answered lib := by
  unfold AdminState.call
  split
  · cases taken : (call.node lib s.requests).1 with
    | error e =>
      dsimp only
      rw [taken]
      exact answered.unchanged rfl (Nat.le_succ _) rfl rfl
    | ok w =>
      have named := AdminCall.node_id taken
      dsimp only
      rw [taken]
      refine ⟨answered.placed.queue w, ?_, ?_, answered.submitted, answered.callbacks, answered.verdicts⟩
      · intro v member
        rcases List.mem_append.mp member with old | new
        · exact Nat.lt_succ_of_lt (answered.older v old)
        · rw [List.mem_singleton.mp new, named]
          exact Nat.lt_succ_self _
      · change ((s.accepted ++ [w]).map (·.id)).Nodup
        rw [List.map_append, List.nodup_append]
        refine ⟨answered.distinct, by simp, ?_⟩
        rintro a old b new rfl
        obtain ⟨v, member, rfl⟩ := List.mem_map.mp old
        have older := answered.older v member
        simp only [List.map_singleton, List.mem_singleton, named] at new
        omega
  · exact answered

/-- What the run of a worker changes. -/
theorem execute_cases {index : Nat} {response : AdminResponse} (run : s.execute lib index response = some t) :
    ∃ w pool done, s.toWorkerPool.take index = some (w, pool) ∧ done.worker = w ∧
      t.toWorkerPool = pool.finish done ∧ t.native = s.native ∧ t.lost = s.lost ∧ t.handles = s.handles ∧
      t.requests = s.requests ∧ t.callbacks = s.callbacks ∧
      t.submitted = s.submitted ++ (if done.response.isSome then [w] else []) ∧
      (t.effects = s.effects ∨ ∃ client, s.native.connection.mClient = some client ∧
        t.effects = s.effects ++ (w.perform lib client response).2) ∧
      ∃ code text, done.baton = AdminWorker.baton code text ∧ w.Verdict lib done.response code text := by
  unfold execute at run
  split at run
  · cases run
  · rename_i w pool found
    split at run
    · rename_i client connected handle
      cases Option.some.inj run
      exact ⟨w, pool, _, found, rfl, rfl, rfl, rfl, rfl, rfl, rfl, rfl, Or.inr ⟨client, handle, rfl⟩,
        AdminWorker.perform_verdict client response⟩
    · cases Option.some.inj run
      exact ⟨w, pool, _, found, rfl, rfl, rfl, rfl, rfl, rfl, rfl, (List.append_nil _).symm, Or.inl rfl,
        _, none, rfl, .disconnected⟩

theorem Answered.execute {index : Nat} {response : AdminResponse} (answered : s.Answered lib)
    (run : s.execute lib index response = some t) : t.Answered lib := by
  obtain ⟨w, pool, done, taken, worker, finished, _, _, _, requests, callbacks, submitted, _, code, text, baton,
    verdict⟩ := execute_cases run
  obtain ⟨_, _, _, accepted, completed⟩ := WorkerPool.take_spec taken
  have moved : t.runs.Perm (done :: s.runs) := finished ▸ WorkerPool.finish_runs taken done
  have kept : t.accepted = s.accepted := finished ▸ accepted
  refine ⟨finished ▸ answered.placed.finish taken worker, ?_, kept ▸ answered.distinct, ?_, ?_, ?_⟩
  · rw [kept, requests]
    exact answered.older
  · rw [submitted]
    have filtered := ((moved.filter (·.response.isSome)).map (·.worker)).symm
    refine (answered.submitted.append_right _).trans (List.Perm.trans ?_ filtered)
    rw [List.filter_cons]
    split
    · rw [List.map_cons, worker]
      exact List.perm_append_singleton ..
    · rw [List.append_nil]
  · rw [callbacks, finished]
    exact completed ▸ answered.callbacks
  · intro other member
    rcases List.mem_cons.mp (moved.mem_iff.mp member) with rfl | old
    · exact ⟨code, text, baton, worker ▸ verdict⟩
    · exact answered.verdicts other old

theorem Answered.complete {index : Nat} (answered : s.Answered lib) (run : s.complete lib index = some t) :
    t.Answered lib := by
  unfold AdminState.complete at run
  split at run
  · cases run
  · rename_i done pool found
    cases Option.some.inj run
    obtain ⟨_, _, _, accepted, completed⟩ := WorkerPool.complete_spec found
    have moved := WorkerPool.complete_runs found
    refine ⟨answered.placed.complete found, ?_, accepted ▸ answered.distinct,
      answered.submitted.trans ((moved.symm.filter _).map _), ?_,
      fun other member => answered.verdicts other (moved.mem_iff.mp member)⟩
    · rw [accepted]
      exact answered.older
    · rw [completed]
      simp [answered.callbacks]

theorem Answered.step {action : AdminAction} (answered : s.Answered lib)
    (run : s.step connecting lib action = some t) : t.Answered lib := by
  cases action with
  | connect creates errstr =>
    cases Option.some.inj run
    exact answered.unchanged rfl le_rfl rfl rfl
  | disconnect =>
    cases Option.some.inj run
    unfold AdminState.disconnect
    split <;> exact answered.unchanged rfl le_rfl rfl rfl
  | setToken token =>
    cases Option.some.inj run
    unfold AdminState.setToken
    split <;> exact answered.unchanged rfl le_rfl rfl rfl
  | call call =>
    cases Option.some.inj run
    exact answered.call call
  | execute index response => exact answered.execute run
  | complete index => exact answered.complete run

theorem start_answered : ({} : AdminState).Answered lib :=
  ⟨.nil, by simp, .nil, .nil, rfl, by simp [WorkerPool.runs]⟩

end AdminState

/-- Requests are all taken, and the types of the events are those of their operations. -/
def obligingLibrary : AdminLibrary where
  newTopic _ _ _ := .ok ()
  setConfig _ _ := ErrorCode.errNoError
  newPartitions _ _ := .ok ()
  eventType
    | .createTopic => 100
    | .deleteTopic => 101
    | .createPartitions => 102
  logAttempts _ := 1
  err2str _ := "error"
  toLowerCase := id
  toText _ := ""

/-- A handle that takes every token. -/
def obligingConnect : Librdkafka Nat where
  create n := (some n, "")
  setToken client _ := (ErrorCode.errNoError, "", client)
  resume client _ := client
  subscribe client _ := (ErrorCode.errNoError, client)
  unsubscribe client := client
  assign client _ := (ErrorCode.errNoError, client)
  unassign client := (ErrorCode.errNoError, client)
  incrementalAssign client _ := (none, client)
  incrementalUnassign client _ := (none, client)
  assignment _ := (ErrorCode.errNoError, [])
  rebalanceProtocol _ := "NONE"
  destroy _ := []

/-- Two topics are created, and a third one after the disconnect: the first is
acknowledged, the second refused with a text. -/
def threeTopics : List AdminAction :=
  let topic := JsValue.object [("topic", .string "t"), ("num_partitions", nanNumber 1)]
  let create := fun cb => AdminAction.call (.createTopic topic (.function cb) .undefined)
  [.connect true "", create 0, create 1, create 2,
   .execute 1 { answers := fun _ => some 100, error := 0, topics := [(36, some "exists")] },
   .execute 0 { answers := fun _ => some 100, error := 0, topics := [(0, none)] }, .complete 1, .disconnect,
   .execute 0 { answers := fun _ => none, error := 0, topics := [] }, .complete 0, .complete 0]

end NodeRdkafka

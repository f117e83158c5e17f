import NodeRdkafka.ClientRequests

namespace NodeRdkafka
open Transition

namespace RequestCall
variable {lib : RequestLibrary} {isConnected : Bool} {assignments : Except Thrown JsValue} {call : RequestCall}
  {request : NativeRequest}

/-- The calls that return at once although they are given a callback: the client is
disconnected, and the callback stands where the timeout may be left out. -/
def Unheard (isConnected : Bool) : RequestCall → Prop
  | queryWatermarkOffsets _ _ timeout cb | offsetsForTimes _ timeout cb =>
    isConnected = false ∧ cb.truthy = false ∧ timeout.callback ≠ none
  | _ => False

theorem callback_timeoutArguments (fallback timeout cb : JsValue) :
    (timeoutArguments fallback timeout cb).2.callback = (timeout.callback <|> cb.callback) := by
  cases timeout <;> simp [timeoutArguments, JsValue.callback]

theorem callback_falsy {cb : JsValue} (falsy : cb.truthy = false) : cb.callback = none := by
  cases cb <;> simp_all [JsValue.truthy, JsValue.callback]

theorem callDisconnected_cases (cb : JsValue) :
    (∃ f, callDisconnected cb = .disconnected f) ∨ ∃ e, callDisconnected cb = .throws e := by
  cases cb with
  | function f => exact Or.inl ⟨f, rfl⟩
  | _ => exact Or.inr ⟨_, rfl⟩

/-- A callback that is asked for first, on a client that is disconnected. -/
theorem asked_cases (cb : JsValue) : (if cb.truthy then callDisconnected cb else .silent) = .silent ∧ cb.truthy = false ∨
    cb.truthy = true ∧ ((∃ f, (if cb.truthy then callDisconnected cb else .silent) = .disconnected f) ∨
      ∃ e, (if cb.truthy then callDisconnected cb else .silent) = .throws e) := by
  cases truthy : cb.truthy with
  | false => exact Or.inl ⟨rfl, rfl⟩
  | true => exact Or.inr ⟨rfl, callDisconnected_cases cb⟩

theorem transactionOutcome_cases (call : TransactionCall) (timeout cb : JsValue) :
    (∃ request cb', transactionOutcome call timeout cb = .queued request cb' ∧
      cb'.callback = (timeout.callback <|> cb.callback)) ∨ ∃ e, transactionOutcome call timeout cb = .throws e := by
  cases timeout with
  | function f => exact Or.inl ⟨_, _, rfl, by simp [JsValue.callback]⟩
  | number n => exact Or.inl ⟨_, _, rfl, by simp [JsValue.callback]⟩
  | _ => exact Or.inr ⟨_, rfl⟩

/-- The callback of the worker is the one that was given. -/
theorem outcome_queued {cb : JsValue} (queued : call.outcome lib isConnected assignments = .queued request cb) :
    cb.callback = call.given := by
  cases call with
  | getMetadata metadataOptions cb' =>
    simp only [outcome, getMetadataOutcome] at queued
    split at queued
    · rcases callDisconnected_cases cb' with ⟨f, same⟩ | ⟨e, same⟩ <;> cases same.symm.trans queued
    · cases queued
      rfl
  | queryWatermarkOffsets topic partition timeout cb' =>
    simp only [outcome, queryWatermarkOffsetsOutcome] at queued
    split at queued
    · rcases asked_cases cb' with ⟨same, _⟩ | ⟨_, ⟨f, same⟩ | ⟨e, same⟩⟩ <;> cases same.symm.trans queued
    · split at queued <;> cases queued
      exact callback_timeoutArguments ..
  | offsetsForTimes toppars timeout cb' =>
    simp only [outcome, offsetsForTimesOutcome] at queued
    split at queued
    · rcases asked_cases cb' with ⟨same, _⟩ | ⟨_, ⟨f, same⟩ | ⟨e, same⟩⟩ <;> cases same.symm.trans queued
    · split at queued <;> cases queued
      exact callback_timeoutArguments ..
  | committed toppars timeout cb' =>
    simp only [outcome, committedOutcome] at queued
    cases truthy : cb'.truthy <;> simp only [truthy, Bool.not_true, Bool.not_false, if_true, Bool.false_eq_true,
      if_false] at queued
    all_goals
      split at queued <;> cases queued
      simp [given, truthy]
  | seek toppar timeout cb' =>
    simp only [outcome, seekOutcome] at queued
    repeat' split at queued
    all_goals cases queued
    all_goals rfl
  | flush timeout callback =>
    simp only [outcome, flushOutcome] at queued
    repeat' split at queued
    all_goals cases queued
    all_goals rfl
  | beginTransaction cb' =>
    cases queued
    rfl
  | initTransactions timeout cb' | commitTransaction timeout cb' | abortTransaction timeout cb' =>
    simp only [outcome] at queued
    rcases transactionOutcome_cases _ timeout cb' with ⟨request', cb'', same, callback⟩ | ⟨e, same⟩
    · cases same.symm.trans queued
      exact callback
    · cases same.symm.trans queued

/-- A call that is silent at once is unheard if it was given a callback. -/
theorem outcome_silent (silent : call.outcome lib isConnected assignments = .silent) :
    call.given ≠ none ↔ call.Unheard isConnected := by
  cases call with
  | getMetadata metadataOptions cb =>
    simp only [outcome, getMetadataOutcome] at silent
    split at silent
    · rcases callDisconnected_cases cb with ⟨f, same⟩ | ⟨e, same⟩ <;> cases same.symm.trans silent
    · cases silent
  | queryWatermarkOffsets topic partition timeout cb =>
    simp only [outcome, queryWatermarkOffsetsOutcome] at silent
    split at silent
    · rename_i disconnected
      rcases asked_cases cb with ⟨_, falsy⟩ | ⟨_, ⟨f, same⟩ | ⟨e, same⟩⟩
      · have off : isConnected = false := by simpa using disconnected
        simp [given, Unheard, callback_falsy falsy, falsy, off]
      · cases same.symm.trans silent
      · cases same.symm.trans silent
    · split at silent <;> cases silent
  | offsetsForTimes toppars timeout cb =>
    simp only [outcome, offsetsForTimesOutcome] at silent
    split at silent
    · rename_i disconnected
      rcases asked_cases cb with ⟨_, falsy⟩ | ⟨_, ⟨f, same⟩ | ⟨e, same⟩⟩
      · have off : isConnected = false := by simpa using disconnected
        simp [given, Unheard, callback_falsy falsy, falsy, off]
      · cases same.symm.trans silent
      · cases same.symm.trans silent
    · split at silent <;> cases silent
  | committed toppars timeout cb =>
    simp only [outcome, committedOutcome] at silent
    split at silent <;> cases silent
  | seek toppar timeout cb =>
    simp only [outcome, seekOutcome] at silent
    repeat' split at silent
    all_goals cases silent
  | flush timeout callback =>
    simp only [outcome, flushOutcome] at silent
    repeat' split at silent
    all_goals cases silent
  | beginTransaction cb => cases silent
  | initTransactions timeout cb | commitTransaction timeout cb | abortTransaction timeout cb =>
    simp only [outcome] at silent
    rcases transactionOutcome_cases _ timeout cb with ⟨_, _, same, _⟩ | ⟨e, same⟩ <;> cases same.symm.trans silent

theorem outcome_unheard (unheard : call.Unheard isConnected) :
    call.outcome lib isConnected assignments = .silent := by
  cases call with
  | queryWatermarkOffsets topic partition timeout cb | offsetsForTimes toppars timeout cb =>
    obtain ⟨rfl, falsy, _⟩ := unheard
    simp [outcome, queryWatermarkOffsetsOutcome, offsetsForTimesOutcome, falsy]
  | _ => exact unheard.elim

end RequestCall

namespace RequestRun
variable (lib : RequestLibrary) (run : RequestRun)

/-- The code that is due for a request: that of a wrong state without a handle, or that
of librdkafka. -/
def code : ErrorCode :=
  if run.connected = false then ErrorCode.errState
  else
    match run.worker.request with
    | .transaction .. => (run.answer.error.map (·.code)).getD ErrorCode.errNoError
    | _ => run.answer.err

theorem baton_err : (run.worker.request.baton run.connected run.answer).err = run.code := by
  unfold code NativeRequest.baton
  cases connected : run.connected with
  | false =>
    cases request : run.worker.request with
    | transaction call timeoutMs => cases call <;> rfl
    | _ => rfl
  | true =>
    cases request : run.worker.request with
    | transaction call timeoutMs =>
      cases error : run.answer.error <;> cases call <;> rfl
    | _ => rfl

/-- The answer is an error exactly when one is due, and has its code but for flush. -/
theorem result_failed : ((∃ e, run.result lib = .failed e) ↔ run.code ≠ ErrorCode.errNoError) ∧
    ∀ e, run.result lib = .failed e → (∀ timeoutMs, run.worker.request ≠ .flush timeoutMs) → e.code = run.code := by
  unfold result
  dsimp only
  rw [baton_err]
  split
  · rename_i failed
    refine ⟨by simp [failed], fun e same other => ?_⟩
    cases same
    rw [← baton_err]
    cases request : run.worker.request with
    | flush timeoutMs => exact absurd request (other timeoutMs)
    | transaction call timeoutMs =>
      cases call with
      | beginTransaction => exact Baton.toObject_code ..
      | _ => rfl
    | _ => exact Baton.toObject_code ..
  · rename_i passed
    exact ⟨by simpa using passed, by simp⟩

end RequestRun

namespace RequestState
variable {lib : RequestLibrary} {s t : RequestState}

/-- The calls that have come to an end or wait for their worker. -/
def settled (s : RequestState) : List Nat := s.answers.map (·.1) ++ s.thrown.map (·.1) ++ s.silent

/-- What every run keeps. -/
structure Kept (lib : RequestLibrary) (s : RequestState) : Prop where
  placed : s.Placed (·.worker)
  once : (s.settled ++ (s.pending (·.worker)).map (·.id)).Perm (List.range s.calls.length)
  workers : ∀ w ∈ s.pending (·.worker), ∃ call, s.calls[w.id]? = some call ∧ w.cb.callback = call.given
  answers : ∀ id cb answer, (id, cb, answer) ∈ s.answers → ∃ call, s.calls[id]? = some call ∧
    (answer = .disconnected ∨
      call.given = some cb ∧ ∃ run ∈ s.completed, run.worker.id = id ∧ answer = run.result lib)

/-- The calls that were given a callback have not ended in silence. -/
def Good (s : RequestState) : Prop := ∀ id ∈ s.silent, ∀ call, s.calls[id]? = some call → call.given = none

theorem Kept.lt {id : Nat} (kept : s.Kept lib) (member : id ∈ s.settled ++ (s.pending (·.worker)).map (·.id)) :
    id < s.calls.length := List.mem_range.mp (kept.once.mem_iff.mp member)

theorem Kept.silent_lt {id : Nat} (kept : s.Kept lib) (member : id ∈ s.silent) : id < s.calls.length :=
  kept.lt (List.mem_append_left _ (List.mem_append_right _ member))

/-- A call is added, and its name is given to what it comes to. -/
theorem Kept.add (kept : s.Kept lib) (call : RequestCall) (calls : t.calls = s.calls ++ [call])
    (placed : t.Placed (·.worker)) (completed : t.completed = s.completed)
    (once : (t.settled ++ (t.pending (·.worker)).map (·.id)).Perm
      (s.settled ++ (s.pending (·.worker)).map (·.id) ++ [s.calls.length]))
    (workers : ∀ w ∈ t.pending (·.worker), w ∈ s.pending (·.worker) ∨
      w.id = s.calls.length ∧ w.cb.callback = call.given)
    (answers : ∀ entry ∈ t.answers, entry ∈ s.answers ∨ entry.1 = s.calls.length ∧ entry.2.2 = .disconnected) :
    t.Kept lib := by
  have old : ∀ {id : Nat} {before : RequestCall}, s.calls[id]? = some before → t.calls[id]? = some before := by
    intro id before found
    rw [calls, List.getElem?_append_left (List.getElem?_eq_some_iff.mp found).1]
    exact found
  have new : t.calls[s.calls.length]? = some call := by simp [calls]
  refine ⟨placed, ?_, fun w member => ?_, fun id cb answer member => ?_⟩
  · rw [calls, List.length_append, List.length_singleton, List.range_succ]
    exact once.trans (kept.once.append_right _)
  · rcases workers w member with there | ⟨named, given⟩
    · obtain ⟨before, found, same⟩ := kept.workers w there
      exact ⟨before, old found, same⟩
    · exact ⟨call, named ▸ new, given⟩
  · rcases answers _ member with there | ⟨named, disconnected⟩
    · obtain ⟨before, found, right⟩ := kept.answers id cb answer there
      exact ⟨before, old found, completed ▸ right⟩
    · exact ⟨call, by rw [show id = s.calls.length from named]; exact new, Or.inl disconnected⟩

theorem Kept.call (kept : s.Kept lib) (call : RequestCall) (assignments : Except Thrown JsValue) :
    (s.call lib call assignments).Kept lib := by
  unfold RequestState.call
  dsimp only
  cases outcome : call.outcome lib s.isConnected assignments with
  | disconnected cb =>
    refine kept.add call rfl kept.placed rfl ?_ (fun w => Or.inl) fun entry member => ?_
    · rw [List.perm_iff_count]
      intro id
      simp only [settled, List.map_append, List.map_singleton, List.count_append]
      omega
    · refine (List.mem_append.mp member).imp (fun there => there) fun last => ?_
      rw [List.mem_singleton.mp last]
      exact ⟨rfl, rfl⟩
  | silent =>
    refine kept.add call rfl kept.placed rfl ?_ (fun w => Or.inl) fun entry => Or.inl
    rw [List.perm_iff_count]
    intro id
    simp only [settled, List.count_append]
    omega
  | throws e =>
    refine kept.add call rfl kept.placed rfl ?_ (fun w => Or.inl) fun entry => Or.inl
    rw [List.perm_iff_count]
    intro id
    simp only [settled, List.map_append, List.map_singleton, List.count_append]
    omega
  | queued request cb =>
    refine kept.add call rfl (kept.placed.queue _) rfl ?_ (fun w member => ?_) fun entry => Or.inl
    · rw [List.perm_iff_count]
      intro id
      simp only [settled, WorkerPool.pending, WorkerPool.queue, List.map_append, List.map_singleton, List.count_append]
      omega
    · have given := RequestCall.outcome_queued outcome
      simp only [WorkerPool.pending, WorkerPool.queue, List.mem_append, List.mem_singleton] at member ⊢
      rcases member with (there | rfl) | there
      · exact Or.inl (Or.inl there)
      · exact Or.inr ⟨rfl, given⟩
      · exact Or.inl (Or.inr there)

theorem Kept.execute {w : RequestWorker} {pool : WorkerPool RequestWorker RequestRun} {index : Nat} (kept : s.Kept lib)
    (taken : s.toWorkerPool.take index = some (w, pool)) (answer : LibrdkafkaAnswer) :
    ({ s with toWorkerPool := pool.finish { worker := w, connected := s.connected, answer } } : RequestState).Kept
      lib := by
  have pending : ((pool.finish { worker := w, connected := s.connected, answer }).pending (·.worker)).Perm
      (s.toWorkerPool.pending (·.worker)) := WorkerPool.finish_pending taken rfl
  obtain ⟨_, _, _, _, completed⟩ := WorkerPool.take_spec taken
  refine ⟨kept.placed.finish taken rfl, ((pending.map (·.id)).append_left _).trans kept.once,
    fun v member => kept.workers v (pending.mem_iff.mp member), fun id cb answer member => ?_⟩
  obtain ⟨call, found, right⟩ := kept.answers id cb answer member
  exact ⟨call, found, completed ▸ right⟩

/-- The end of a worker is that of its call. -/
theorem Kept.ends {run : RequestRun} {pool : WorkerPool RequestWorker RequestRun} {index : Nat} (kept : s.Kept lib)
    (step : s.toWorkerPool.complete index = some (run, pool)) (after : t.toWorkerPool = pool)
    (calls : t.calls = s.calls) (once : t.settled.Perm (s.settled ++ [run.worker.id]))
    (answers : ∀ entry ∈ t.answers, entry ∈ s.answers ∨
      ∃ cb, run.worker.cb = .function cb ∧ entry = (run.worker.id, cb, run.result lib)) : t.Kept lib := by
  have pending : (s.pending (·.worker)).Perm (run.worker :: pool.pending (·.worker)) :=
    WorkerPool.complete_pending step
  obtain ⟨_, _, _, _, completed⟩ := WorkerPool.complete_spec step
  obtain ⟨call, found, given⟩ := kept.workers run.worker (pending.mem_iff.mpr List.mem_cons_self)
  refine ⟨after ▸ kept.placed.complete step, ?_, fun w member => ?_, fun id cb answer member => ?_⟩
  · rw [calls, after]
    refine List.Perm.trans ?_ kept.once
    rw [List.perm_iff_count]
    intro id
    have moved := once.count_eq id
    have left := (pending.map (·.id)).count_eq id
    simp only [List.count_append, List.map_cons, List.count_cons, List.count_nil, Nat.zero_add] at moved left ⊢
    omega
  · rw [calls]
    exact kept.workers w (pending.mem_iff.mpr (List.mem_cons_of_mem _ (after ▸ member)))
  · rw [calls, after, completed]
    rcases answers _ member with there | ⟨f, function, same⟩
    · obtain ⟨before, at_id, right⟩ := kept.answers id cb answer there
      refine ⟨before, at_id, right.imp (fun disconnected => disconnected) ?_⟩
      rintro ⟨same, done, ended, rest⟩
      exact ⟨same, done, List.mem_append_left _ ended, rest⟩
    · cases same
      refine ⟨call, found, Or.inr ⟨?_, run, List.mem_append_right _ List.mem_cons_self, rfl, rfl⟩⟩
      rw [← given, function]
      rfl

theorem Kept.complete {run : RequestRun} {pool : WorkerPool RequestWorker RequestRun} {index : Nat} (kept : s.Kept lib)
    (step : s.toWorkerPool.complete index = some (run, pool)) :
    (({ s with toWorkerPool := pool } : RequestState).settle lib run).Kept lib := by
  unfold RequestState.settle
  split
  · rename_i cb function
    refine kept.ends step rfl rfl ?_ fun entry member => ?_
    · rw [List.perm_iff_count]
      intro id
      simp only [settled, List.map_append, List.map_singleton, List.count_append]
      omega
    · exact (List.mem_append.mp member).imp (fun there => there) fun last => ⟨cb, function, List.mem_singleton.mp last⟩
  · split
    · exact kept.ends step rfl rfl (by simp [settled]) fun entry => Or.inl
    · refine kept.ends step rfl rfl ?_ fun entry => Or.inl
      rw [List.perm_iff_count]
      intro id
      simp only [settled, List.map_append, List.map_singleton, List.count_append]
      omega

theorem Kept.step {action : RequestAction} (kept : s.Kept lib) (run : s.step lib action = some t) : t.Kept lib := by
  cases action with
  | connection isConnected connected =>
    cases Option.some.inj run
    exact ⟨kept.placed, kept.once, kept.workers, kept.answers⟩
  | call call assignments =>
    cases Option.some.inj run
    exact kept.call call assignments
  | execute index answer =>
    obtain ⟨⟨w, pool⟩, taken, rfl⟩ := Option.map_eq_some_iff.mp run
    exact kept.execute taken answer
  | complete index =>
    obtain ⟨⟨done, pool⟩, taken, rfl⟩ := Option.map_eq_some_iff.mp run
    exact kept.complete taken

/-- No callback stands where it is not heard. -/
def Heard (s : RequestState) (action : RequestAction) : Prop :=
  ∀ call assignments, action = .call call assignments → ¬call.Unheard s.isConnected

theorem good_congr (silent : t.silent = s.silent) (calls : ∀ id ∈ s.silent, t.calls[id]? = s.calls[id]?) :
    t.Good ↔ s.Good := by
  unfold Good
  rw [silent]
  exact forall₂_congr fun id member => by rw [calls id member]

/-- A call keeps the calls before it. -/
theorem Kept.calls_append (kept : s.Kept lib) (call : RequestCall) :
    ∀ id ∈ s.silent, (s.calls ++ [call])[id]? = s.calls[id]? :=
  fun _ member => List.getElem?_append_left (kept.silent_lt member)

theorem Kept.good_call (kept : s.Kept lib) (call : RequestCall) (assignments : Except Thrown JsValue) :
    (s.call lib call assignments).Good ↔ s.Good ∧ ¬call.Unheard s.isConnected := by
  have heard : call.outcome lib s.isConnected assignments ≠ .silent → ¬call.Unheard s.isConnected :=
    fun other unheard => other (RequestCall.outcome_unheard unheard)
  have kept_calls := kept.calls_append call
  unfold RequestState.call
  dsimp only
  cases outcome : call.outcome lib s.isConnected assignments with
  | silent =>
    have given := RequestCall.outcome_silent outcome
    rw [← given, not_not]
    constructor
    · intro good
      refine ⟨fun id member before found => ?_, ?_⟩
      · exact good id (List.mem_append_left _ member) before ((kept_calls id member).trans found)
      · exact good _ (List.mem_append_right _ List.mem_cons_self) call (by simp)
    · rintro ⟨good, none'⟩ id member before found
      rcases List.mem_append.mp member with old | new
      · exact good id old before ((kept_calls id old).symm.trans found)
      · rw [List.mem_singleton.mp new] at found
        simp only [List.getElem?_append_right le_rfl, Nat.sub_self, List.getElem?_cons_zero, Option.some.injEq] at found
        exact found ▸ none'
  | disconnected cb | throws e | queued request cb =>
    have calm : ¬call.Unheard s.isConnected := heard (by simp [outcome])
    rw [and_iff_left calm]
    exact good_congr rfl kept_calls

theorem Kept.good_complete {run : RequestRun} {pool : WorkerPool RequestWorker RequestRun} {index : Nat}
    (kept : s.Kept lib) (step : s.toWorkerPool.complete index = some (run, pool)) :
    (({ s with toWorkerPool := pool } : RequestState).settle lib run).Good ↔ s.Good := by
  have pending : (s.pending (·.worker)).Perm (run.worker :: pool.pending (·.worker)) :=
    WorkerPool.complete_pending step
  obtain ⟨call, found, given⟩ := kept.workers run.worker (pending.mem_iff.mpr List.mem_cons_self)
  unfold RequestState.settle
  split
  · exact good_congr rfl fun _ _ => rfl
  · split
    · rename_i asks
      rw [RequestCall.callback_falsy asks.2] at given
      constructor
      · exact fun good id member => good id (List.mem_append_left _ member)
      · intro good id member before at_id
        rcases List.mem_append.mp member with old | new
        · exact good id old before at_id
        · cases List.mem_singleton.mp new
          cases Option.some.inj (found.symm.trans at_id)
          exact given.symm
    · exact good_congr rfl fun _ _ => rfl

theorem Kept.good_step {action : RequestAction} (kept : s.Kept lib) (run : s.step lib action = some t) :
    t.Good ↔ s.Good ∧ s.Heard action := by
  cases action with
  | connection isConnected connected =>
    cases Option.some.inj run
    simp [Heard, Good]
  | call call assignments =>
    cases Option.some.inj run
    rw [kept.good_call]
    simp [Heard]
  | execute index answer =>
    obtain ⟨⟨w, pool⟩, taken, rfl⟩ := Option.map_eq_some_iff.mp run
    simp [Heard, Good]
  | complete index =>
    obtain ⟨⟨done, pool⟩, taken, rfl⟩ := Option.map_eq_some_iff.mp run
    refine (kept.good_complete taken).trans ?_
    simp [Heard]

theorem start_kept : ({} : RequestState).Kept lib :=
  ⟨.nil, .nil, by simp [WorkerPool.pending], by simp⟩

/-- Once no worker is left, a call that has not ended in silence has called a callback
or has thrown, and not both. -/
theorem Kept.idle (kept : s.Kept lib) (waiting : s.waiting = []) (executed : s.executed = []) :
    (∀ id call, s.calls[id]? = some call → call.given ≠ none →
        id ∈ s.answers.map (·.1) ∨ id ∈ s.thrown.map (·.1)) ↔ s.Good := by
  have once : s.settled.Perm (List.range s.calls.length) := by
    simpa [WorkerPool.pending, waiting, executed] using kept.once
  have apart := once.nodup_iff.mpr List.nodup_range
  rw [settled, List.nodup_append] at apart
  constructor
  · intro all id member call found
    by_contra given
    refine apart.2.2 id ?_ id member rfl
    exact List.mem_append.mpr (all id call found given)
  · intro good id call found given
    have there : id ∈ s.settled :=
      once.mem_iff.mpr (List.mem_range.mpr (List.getElem?_eq_some_iff.mp found).1)
    rcases List.mem_append.mp there with heard | silent
    · exact List.mem_append.mp heard
    · exact absurd (good id silent call found) given

end RequestState

def plainLibrary : RequestLibrary where
  toText _ := ""
  toNumber _ := .nan
  toLowerCase := id
  err2str _ := "error"

/-- The same call before and after the client connects, its callback in the place of the
timeout. -/
def twoQueries : List RequestAction :=
  let query := fun cb => RequestAction.call
    (.queryWatermarkOffsets (.string "t") (nanNumber 0) (.function cb) .undefined) (.ok .undefined)
  [query 0, .connection true true, query 1, .execute 0 { lowOffset := 3, highOffset := 9 }, .complete 0]

end NodeRdkafka

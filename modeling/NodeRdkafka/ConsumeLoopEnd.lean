import NodeRdkafka.ConsumeLoopOrder

namespace NodeRdkafka
open Transition

namespace ConsumeLoop
section
variable {err2str : ErrorCode → String} {s t u : ConsumeLoop}

/-- The worker after WorkComplete: nothing is sent or delivered any more. -/
structure Settled (t s : ConsumeLoop) : Prop where
  stands : s.Stands
  detached : s.callback = false
  sent : s.sent = t.sent
  delivered : s.delivered = t.delivered
  asyncData : s.asyncData = t.asyncData

theorem Settled.deliver (settled : Settled t s) (run : s.deliver err2str = some u) : Settled t u := by
  have stands := settled.stands.deliver run
  simp only [ConsumeLoop.deliver, settled.detached] at run
  split at run
  · cases Option.some.inj run
    exact ⟨stands, rfl, settled.sent, settled.delivered, settled.asyncData⟩
  · cases Option.some.inj run
    exact ⟨stands, rfl, settled.sent, settled.delivered, settled.asyncData⟩
  · simp at run

theorem Settled.step {action : LoopAction} (settled : Settled t s)
    (run : s.step err2str action = some u) : Settled t u := by
  obtain ⟨_, run⟩ := act_of_step run
  have stands := settled.stands.act run
  have exited := settled.stands.exited settled.detached
  have closing : ¬ (s.close = .opened ∨ s.close = .joining) := by
    simp [← settled.stands.attached, settled.detached]
  obtain ⟨unopened, unjoined⟩ := not_or.mp closing
  cases action with
  | check connected => simp [act, exited] at run
  | consume answer => simp [act, exited] at run
  | asyncMessage => simp [act, unopened] at run
  | swap =>
    have outside : s.work ≠ .entered := fun entered => unopened (settled.stands.working entered)
    simp [act, outside] at run
  | deliver =>
    simp only [act, Option.ite_none_right_eq_some] at run
    exact settled.deliver run.2
  | close => simp [act, unopened] at run
  | workComplete => simp [act, unjoined] at run
  | finish | destroy | asyncClose =>
    simp only [act, Option.ite_none_right_eq_some, Option.some.injEq] at run
    obtain ⟨_, rfl⟩ := run
    exact ⟨stands, settled.detached, settled.sent, settled.delivered, settled.asyncData⟩

/-- What the answer of a Consume makes the loop thread send. -/
def sentBy (b : Baton Message) : List Message :=
  if b.err = ErrorCode.errNoError then
    b.mData.toList.filter fun m => m.err = ErrorCode.errPartitionEof ∨ m.err = ErrorCode.errNoError
  else []

/-- What a step makes of the messages sent since the last swap. -/
def unswapped (waiting : List Message) : LoopAction → List Message
  | .consume answer => waiting ++ sentBy (KafkaConsumer.consume answer)
  | .swap => []
  | _ => waiting

theorem loopBody_asyncData (s : ConsumeLoop) (b : Baton Message) :
    (s.loopBody b).asyncData = s.asyncData ++ sentBy b := by
  by_cases success : b.err = ErrorCode.errNoError
  · cases data : b.mData with
    | none => simp [loopBody, sentBy, success, data]
    | some message =>
      have body : s.loopBody b = s.receive b message := by simp [loopBody, success, data]
      rw [body, receive]
      split
      · rename_i eof
        simp [send, sentBy, success, data, eof]
      · rename_i other
        split
        · rename_i timedOut
          have error : message.err ≠ ErrorCode.errNoError := by
            rintro none_
            rw [none_] at timedOut
            exact absurd timedOut (by decide)
          simp [sentBy, success, data, other, error]
        · split
          · rename_i fine
            simp [send, sentBy, success, data, fine]
          · rename_i failed
            simp [fail, sentBy, success, data, other, failed]
  · by_cases warning : b.err = ErrorCode.errUnknownTopicOrPart ∨ b.err = ErrorCode.errTopicAuthorizationFailed
    · simp [loopBody, success, warning, sendWarning, sentBy]
    · simp [loopBody, success, warning, fail, sentBy]

/-- Only what the loop thread sends and a swap change m_asyncdata. -/
theorem act_asyncData {action : LoopAction} (stands : s.Stands) (run : s.act err2str action = some t) :
    t.asyncData = unswapped s.asyncData action := by
  cases action with
  | consume answer =>
    simp only [act, Option.ite_none_right_eq_some, Option.some.injEq] at run
    obtain ⟨_, rfl⟩ := run
    exact s.loopBody_asyncData (KafkaConsumer.consume answer)
  | swap =>
    simp only [act, Option.ite_none_right_eq_some] at run
    obtain ⟨entered, run⟩ := run
    -- NodeDisconnect is not called within WorkMessage before the swap
    have attached := stands.attached.mpr (Or.inl (stands.working entered))
    rw [if_pos attached] at run
    cases Option.some.inj run
    rfl
  | deliver =>
    simp only [act, Option.ite_none_right_eq_some, deliver] at run
    obtain ⟨_, run⟩ := run
    split at run
    · split at run <;> cases Option.some.inj run <;> rfl
    · split at run <;> cases Option.some.inj run <;> rfl
    · simp at run
  | check | asyncMessage | finish | close | workComplete | destroy | asyncClose =>
    simp only [act, Option.ite_none_right_eq_some, Option.some.injEq] at run
    obtain ⟨_, rfl⟩ := run
    rfl

theorem asyncData_unswapped {trace : List LoopAction} (reach : Reach (step err2str) created trace s) :
    s.asyncData = trace.foldl unswapped [] := by
  refine (reach.foldl_of_labels (fun _ => True) Stands asyncData unswapped created_kept.stands ?_
    fun _ _ => trivial).2
  intro before action after _ stands run
  obtain ⟨_, run⟩ := act_of_step run
  exact ⟨stands.act run, act_asyncData stands run⟩

end
end ConsumeLoop

/-- After Close has joined the loop thread and WorkComplete has run, every
message and EOF that was sent is and stays delivered, and none is left in
m_asyncdata, exactly when WorkComplete found none that was not delivered yet:
neither in m_asyncdata, which holds what was sent since the last swap, nor
with a WorkMessage whose callback disconnects. -/
theorem consumeLoop_close_iff {err2str : ErrorCode → String} {s t u : ConsumeLoop}
    {trace rest : List LoopAction} (reach : Reach (ConsumeLoop.step err2str) .created trace s)
    (completes : s.step err2str .workComplete = some t)
    (later : Reach (ConsumeLoop.step err2str) t rest u) :
    (u.delivered = u.sent ∧ u.asyncData = [] ↔ s.asyncData = [] ∧ s.held = []) ∧
      s.asyncData = trace.foldl ConsumeLoop.unswapped [] := by
  refine ⟨?_, ConsumeLoop.asyncData_unswapped reach⟩
  have kept := ConsumeLoop.reach_kept reach
  obtain ⟨_, completes⟩ := ConsumeLoop.act_of_step completes
  have stands := kept.stands.act completes
  simp only [ConsumeLoop.act, Option.ite_none_right_eq_some, Option.some.injEq] at completes
  obtain ⟨⟨joining, _⟩, rfl⟩ := completes
  have settled := later.invariant (ConsumeLoop.Settled s) ⟨stands, rfl, rfl, rfl, rfl⟩
    fun settled run => settled.step run
  have ordered : s.delivered ++ s.held ++ s.asyncData = s.sent :=
    (kept.messages (kept.stands.attached.mpr (Or.inr joining))).inOrder
  rw [settled.delivered, settled.sent, settled.asyncData, ← ordered, List.append_assoc,
    List.self_eq_append_right, List.append_eq_nil_iff]
  constructor
  · rintro ⟨⟨free, empty⟩, _⟩
    exact ⟨empty, free⟩
  · rintro ⟨empty, free⟩
    exact ⟨⟨free, empty⟩, empty⟩

/-- A loop that is disconnected when its messages are delivered. -/
def drainedClose : List LoopAction :=
  [.check true, .consume (.message (polledMessage ErrorCode.errNoError 0)), .asyncMessage, .swap,
   .deliver, .finish, .close, .check true]

theorem consumeLoop_close_iff_drained :
    ∃ s t u, Reach (ConsumeLoop.step fun _ => "") .created drainedClose s ∧
      s.step (fun _ => "") .workComplete = some t ∧
      Reach (ConsumeLoop.step fun _ => "") t [.destroy, .asyncClose] u ∧ u.close = .destroyed ∧
      u.delivered = u.sent ∧ u.asyncData = [] ∧ u.sent.length = 1 := by
  obtain ⟨s, t, u, reach, completes, later, destroyed, empty, free, sent⟩ :
      ∃ s t u, Reach (ConsumeLoop.step fun _ => "") .created drainedClose s ∧
        s.step (fun _ => "") .workComplete = some t ∧
        Reach (ConsumeLoop.step fun _ => "") t [.destroy, .asyncClose] u ∧ u.close = .destroyed ∧
        s.asyncData = [] ∧ s.held = [] ∧ u.sent.length = 1 :=
    ⟨_, _, _, reach_iff_replay.mpr rfl, rfl, reach_iff_replay.mpr rfl, rfl, rfl, rfl, rfl⟩
  have delivers := (consumeLoop_close_iff reach completes later).1.mpr ⟨empty, free⟩
  exact ⟨s, t, u, reach, completes, later, destroyed, delivers.1, delivers.2, sent⟩

/-- A message that the loop thread sends while Close joins it is lost with
the worker. -/
theorem close_loses_message :
    ∃ u, Reach (ConsumeLoop.step fun _ => "") .created
        [.check true, .close, .consume (.message (polledMessage ErrorCode.errNoError 0)), .check true,
         .workComplete, .destroy, .asyncClose] u ∧
      u.close = .destroyed ∧ u.sent.length = 1 ∧ u.delivered = [] ∧ u.asyncData.length = 1 :=
  ⟨_, reach_iff_replay.mpr rfl, rfl, rfl, rfl, rfl⟩

namespace ConsumeLoop
section
variable {err2str : ErrorCode → String} {s t : ConsumeLoop}

/-- The read callback gets an error from WorkComplete only, and the one that
the loop thread recorded. -/
structure Reports (err2str : ErrorCode → String) (s : ConsumeLoop) : Prop where
  stands : s.Stands
  silent : s.callback = true → ∀ err, .error err ∉ s.calls
  called : s.callback = false → ∀ b, s.errorBaton = some b →
    .error (KafkaConsumerConsumeLoop.handleErrorCallback err2str b) ∈ s.calls

theorem handleMessageCallback_ne (message : Option Message) (ec : ErrorCode) (err : JsError) :
    handleMessageCallback err2str message ec ≠ .error err := by
  cases message with
  | none => simp [handleMessageCallback]
  | some message =>
    simp only [handleMessageCallback]
    split <;> simp

theorem deliver_calls (run : s.deliver err2str = some t) :
    t.callback = s.callback ∧ t.errorBaton = s.errorBaton ∧
      (t.calls = s.calls ∨ ∃ message ec, t.calls = s.calls ++ [handleMessageCallback err2str message ec]) := by
  simp only [ConsumeLoop.deliver] at run
  split at run
  · split at run <;> cases Option.some.inj run
    · exact ⟨rfl, rfl, Or.inr ⟨_, _, rfl⟩⟩
    · exact ⟨rfl, rfl, Or.inl rfl⟩
  · split at run <;> cases Option.some.inj run
    · exact ⟨rfl, rfl, Or.inr ⟨_, _, rfl⟩⟩
    · exact ⟨rfl, rfl, Or.inl rfl⟩
  · simp at run

theorem loopBody_calls (s : ConsumeLoop) (b : Baton Message) :
    (s.loopBody b).callback = s.callback ∧ (s.loopBody b).calls = s.calls := by
  rcases s.loopBody_cases b with same | ⟨m, sent⟩ | ⟨c, warned⟩ | ⟨failed, _⟩
  · rw [same]
    exact ⟨rfl, rfl⟩
  · rw [sent]
    exact ⟨rfl, rfl⟩
  · rw [warned]
    exact ⟨rfl, rfl⟩
  · rw [failed]
    exact ⟨rfl, rfl⟩

theorem Reports.step {action : LoopAction} (reports : s.Reports err2str)
    (run : s.step err2str action = some t) : t.Reports err2str := by
  obtain ⟨_, run⟩ := act_of_step run
  have stands := reports.stands.act run
  cases action with
  | check connected =>
    simp only [act, Option.ite_none_right_eq_some, Option.some.injEq] at run
    obtain ⟨_, rfl⟩ := run
    exact ⟨stands, reports.silent, reports.called⟩
  | consume answer =>
    simp only [act, Option.ite_none_right_eq_some, Option.some.injEq] at run
    obtain ⟨consuming, rfl⟩ := run
    obtain ⟨callback, calls⟩ := s.loopBody_calls (KafkaConsumer.consume answer)
    refine ⟨stands, by simpa only [callback, calls] using reports.silent, fun detached => ?_⟩
    have exited := reports.stands.exited (callback.symm.trans detached)
    exact absurd (consuming.symm.trans exited) (by decide)
  | deliver =>
    simp only [act, Option.ite_none_right_eq_some] at run
    obtain ⟨callback, errorBaton, calls⟩ := deliver_calls run.2
    rcases calls with calls | ⟨message, ec, calls⟩
    · exact ⟨stands, by rw [callback, calls]; exact reports.silent,
        by rw [callback, errorBaton, calls]; exact reports.called⟩
    · refine ⟨stands, ?_, ?_⟩
      · rw [callback, calls]
        intro attached err member
        rcases List.mem_append.mp member with earlier | last
        · exact reports.silent attached err earlier
        · exact handleMessageCallback_ne message ec err (List.mem_singleton.mp last).symm
      · rw [callback, errorBaton, calls]
        exact fun detached b failed => List.mem_append_left _ (reports.called detached b failed)
  | swap =>
    simp only [act, Option.ite_none_right_eq_some] at run
    obtain ⟨_, run⟩ := run
    split at run <;> cases Option.some.inj run <;> exact ⟨stands, reports.silent, reports.called⟩
  | workComplete =>
    simp only [act, Option.ite_none_right_eq_some, Option.some.injEq] at run
    obtain ⟨_, rfl⟩ := run
    refine ⟨stands, by simp [ConsumeLoop.workComplete], fun _ b failed => ?_⟩
    have recorded : s.errorBaton = some b := failed
    simp [ConsumeLoop.workComplete, recorded]
  | asyncMessage | finish | close | destroy | asyncClose =>
    simp only [act, Option.ite_none_right_eq_some, Option.some.injEq] at run
    obtain ⟨_, rfl⟩ := run
    exact ⟨stands, reports.silent, reports.called⟩

/-- The loop thread has exited because Consume returned this error. -/
def ExitedWith (s : ConsumeLoop) (b : Baton Message) : Prop :=
  s.thread = .exited ∧ s.errorBaton = some b

/-- What the user's callback is to be called with. -/
def userError (err2str : ErrorCode → String) (toLowerCase : String → String) (b : Baton Message) :
    LoopEvent :=
  .callback (.error (.create err2str toLowerCase
    (.error (KafkaConsumerConsumeLoop.handleErrorCallback err2str b))))

/-- What the read callback has made of its calls. -/
def events (err2str : ErrorCode → String) (toLowerCase : String → String) (s : ConsumeLoop) :
    List LoopEvent :=
  s.calls.flatMap (readCallback err2str toLowerCase)

theorem error_of_callback {toLowerCase : String → String} {call : ReadCall} {err : LibrdKafkaError}
    (member : .callback (.error err) ∈ readCallback err2str toLowerCase call) :
    ∃ e, call = .error e := by
  cases call with
  | error e => exact ⟨e, rfl⟩
  | message | eof => simp [readCallback] at member
  | warning code =>
    simp only [readCallback] at member
    split at member <;> simp at member

/-- The recorded error is that of a Consume that the loop thread made. -/
theorem errorBaton_consumed {trace : List LoopAction}
    (reach : Reach (step err2str) created trace s) {b : Baton Message}
    (failed : s.errorBaton = some b) :
    ∃ answer, .consume answer ∈ trace ∧ KafkaConsumer.consume answer = b ∧ Fatal b := by
  induction reach with
  | start => simp [created] at failed
  | @next before after action trace _ run ih =>
    have earlier (same : after.errorBaton = before.errorBaton) :
        ∃ answer, .consume answer ∈ trace ++ [action] ∧ KafkaConsumer.consume answer = b ∧ Fatal b := by
      obtain ⟨answer, member, answered⟩ := ih (same ▸ failed)
      exact ⟨answer, List.mem_append_left _ member, answered⟩
    obtain ⟨_, run⟩ := act_of_step run
    cases action with
    | consume answer =>
      simp only [act, Option.ite_none_right_eq_some, Option.some.injEq] at run
      obtain ⟨_, rfl⟩ := run
      rcases before.loopBody_cases (KafkaConsumer.consume answer) with
        same | ⟨m, sent⟩ | ⟨c, warned⟩ | ⟨fails, fatal⟩
      · exact earlier (by rw [same])
      · exact earlier (by rw [sent]; rfl)
      · exact earlier (by rw [warned]; rfl)
      · have answered : KafkaConsumer.consume answer = b := by
          rw [fails] at failed
          exact Option.some.inj failed
        exact ⟨answer, by simp, answered, answered ▸ fatal⟩
    | deliver =>
      simp only [act, Option.ite_none_right_eq_some] at run
      exact earlier (deliver_calls run.2).2.1
    | swap =>
      simp only [act, Option.ite_none_right_eq_some] at run
      obtain ⟨_, run⟩ := run
      split at run <;> cases Option.some.inj run <;> exact earlier rfl
    | check | asyncMessage | finish | close | workComplete | destroy | asyncClose =>
      simp only [act, Option.ite_none_right_eq_some, Option.some.injEq] at run
      obtain ⟨_, rfl⟩ := run
      exact earlier rfl

end
end ConsumeLoop

/-- Once the loop thread has exited because of an error, which a Consume of its
has returned, the user's callback has been called with it exactly when
NodeDisconnect has completed the worker. -/
theorem consumeLoop_error_iff {err2str : ErrorCode → String} {toLowerCase : String → String}
    {s : ConsumeLoop} {b : Baton Message} {trace : List LoopAction}
    (reach : Reach (ConsumeLoop.step err2str) .created trace s) (exited : s.ExitedWith b) :
    (∃ answer, .consume answer ∈ trace ∧ KafkaConsumer.consume answer = b ∧ ConsumeLoop.Fatal b) ∧
      (ConsumeLoop.userError err2str toLowerCase b ∈ s.events err2str toLowerCase ↔
        s.close ≠ .opened ∧ s.close ≠ .joining) := by
  refine ⟨ConsumeLoop.errorBaton_consumed reach exited.2, ?_⟩
  have reports := reach.invariant (ConsumeLoop.Reports err2str)
    ⟨ConsumeLoop.created_kept.stands, by simp [ConsumeLoop.created], by simp [ConsumeLoop.created]⟩
    fun reports run => reports.step run
  rw [← not_or, ← reports.stands.attached, Bool.not_eq_true]
  constructor
  · intro told
    obtain ⟨call, member, produced⟩ := List.mem_flatMap.mp told
    obtain ⟨err, rfl⟩ := ConsumeLoop.error_of_callback produced
    by_contra attached
    exact reports.silent (by simpa using attached) err member
  · intro detached
    exact List.mem_flatMap.mpr ⟨_, reports.called detached b exited.2, by
      simp [readCallback, ConsumeLoop.userError]⟩

def failedPoll : Message := polledMessage ErrorCode.errAllBrokersDown 0

/-- A consume loop whose error ends it, and that is disconnected then. -/
def failingLoop : List LoopAction :=
  [.check true, .consume (.message failedPoll), .check true, .close, .workComplete]

theorem consumeLoop_error_iff_disconnected :
    ∃ s, Reach (ConsumeLoop.step fun _ => "") .created failingLoop s ∧
      s.ExitedWith (KafkaConsumer.consume (.message failedPoll)) ∧
      ConsumeLoop.userError (fun _ => "") id (KafkaConsumer.consume (.message failedPoll)) ∈
        s.events (fun _ => "") id := by
  obtain ⟨s, reach, exited, close⟩ :
      ∃ s, Reach (ConsumeLoop.step fun _ => "") .created failingLoop s ∧
        s.ExitedWith (KafkaConsumer.consume (.message failedPoll)) ∧ s.close = .completed :=
    ⟨_, reach_iff_replay.mpr rfl, ⟨rfl, rfl⟩, rfl⟩
  exact ⟨s, reach, exited, (consumeLoop_error_iff reach exited).2.mpr (by simp [close])⟩

/-- Without a disconnect the loop stops and tells nobody. -/
theorem consumeLoop_stops_silently :
    ∃ s, Reach (ConsumeLoop.step fun _ => "") .created
        [.check true, .consume (.message failedPoll), .check true] s ∧
      s.ExitedWith (KafkaConsumer.consume (.message failedPoll)) ∧ s.wakeup = false ∧
      s.work = .idle ∧ s.events (fun _ => "") id = [] :=
  ⟨_, reach_iff_replay.mpr rfl, ⟨rfl, rfl⟩, rfl, rfl, rfl⟩

end NodeRdkafka

import NodeRdkafka.ConsumeNumOrder

namespace NodeRdkafka
open Transition

namespace ConsumeAnswer

/-- The partition EOF that an answer hands to the worker. -/
def eof : ConsumeAnswer → Option Message
  | disconnected => none
  | message m => if m.err = ErrorCode.errPartitionEof then some m else none

/-- An answer the loop stops on with an error: no client, or any code but
success, EOF and the two timeouts. -/
def Fails : ConsumeAnswer → Prop
  | disconnected => True
  | message m => m.err ≠ ErrorCode.errNoError ∧ m.err ≠ ErrorCode.errPartitionEof ∧
      m.err ≠ ErrorCode.errTimedOut ∧ m.err ≠ ErrorCode.errTimedOutQueue

end ConsumeAnswer

/-- The partition EOFs among the dequeued answers, in order. -/
def eofMessages (answers : List ConsumeAnswer) : List Message := answers.filterMap (·.eof)

def ConsumerEvent.eof : ConsumerEvent → Option EofEvent
  | .data _ => none
  | .partitionEof event => some event

/-- The 'partition.eof' events among those emitted, in order. -/
def emittedEofs (events : List ConsumerEvent) : List EofEvent := events.filterMap (·.eof)

theorem collected_eof (err2str : ErrorCode → String) (answer : ConsumeAnswer) :
    (answer.collected.bind fun m => (m.event err2str).eof) = answer.eof.map eofEvent := by
  cases answer with
  | disconnected => rfl
  | message m =>
    by_cases ok : m.err = ErrorCode.errNoError
    · have notEof : ErrorCode.errNoError ≠ ErrorCode.errPartitionEof := by decide
      simp [ConsumeAnswer.collected, ConsumeAnswer.eof, Message.event, ConsumerEvent.eof, ok, notEof]
    · by_cases eof : m.err = ErrorCode.errPartitionEof
      · have event : m.event err2str = .partitionEof (eofEvent m) := if_neg ok
        simp [ConsumeAnswer.collected, ConsumeAnswer.eof, event, ConsumerEvent.eof, eof]
      · simp [ConsumeAnswer.collected, ConsumeAnswer.eof, ok, eof]

/-- On the success path the EOFs due are the EOFs dequeued. -/
theorem dueEvents_eofs (err2str : ErrorCode → String) (answers : List ConsumeAnswer) :
    emittedEofs (dueEvents err2str answers) = (eofMessages answers).map eofEvent := by
  simp only [emittedEofs, dueEvents, eofMessages, List.map_filterMap, List.filterMap_filterMap,
    ← collected_eof err2str, Option.bind_map]
  rfl

namespace ConsumeNum

theorem fail_isSome (w : ConsumeNum) (b : Baton Message) :
    (w.fail b).errorBaton.isSome ↔ w.errorBaton.isSome ∨ w.mMessages.length = w.eofEventCount := by
  unfold fail
  split
  · rename_i noData
    simp [noData]
  · rename_i data
    simp [data]

/-- A turn records an error if its answer fails while no data message is held. -/
theorem execute_error {w t : ConsumeNum} {answer : ConsumeAnswer} (run : w.execute answer = some t) :
    w.looping = true ∧
      (answer.Fails → t.looping = false ∧
        (t.errorBaton.isSome ↔ w.errorBaton.isSome ∨ w.mMessages.length = w.eofEventCount)) ∧
      (¬ answer.Fails → t.errorBaton = w.errorBaton) := by
  simp only [execute, running, Bool.and_eq_true, Option.ite_none_right_eq_some, Option.some.injEq] at run
  obtain ⟨⟨_, looping⟩, rfl⟩ := run
  refine ⟨looping, ?_⟩
  cases answer with
  | disconnected => exact ⟨fun _ => ⟨rfl, fail_isSome w _⟩, fun handled => absurd trivial handled⟩
  | message m =>
    rw [loopBody_message]
    constructor
    · rintro ⟨ok, eof, timedOut, timedOutQueue⟩
      have failed : w.receive m = w.fail (.ofCode m.err) := by
        simp [receive, ok, eof, timedOut, timedOutQueue]
      rw [failed]
      exact ⟨rfl, fail_isSome w _⟩
    · intro handled
      unfold receive
      split
      · rfl
      · rename_i notEof
        split
        · rfl
        · rename_i inTime
          split
          · rfl
          · rename_i notOk
            exact absurd ⟨notOk, notEof, not_or.mp inTime⟩ handled

/-- When the worker holds an error, in terms of the answers dequeued. -/
structure Failed (w : ConsumeNum) (answers : List ConsumeAnswer) : Prop where
  clean : w.looping = true → ∀ answer ∈ answers, ¬ answer.Fails
  error : w.errorBaton.isSome ↔ dataMessages answers = [] ∧ ∃ answer ∈ answers, answer.Fails

theorem failed_execute {w t : ConsumeNum} {answers : List ConsumeAnswer} {answer : ConsumeAnswer}
    (kept : w.Kept answers) (failed : w.Failed answers) (run : w.execute answer = some t) :
    t.Failed (answers ++ [answer]) := by
  obtain ⟨looping, fails, handled⟩ := execute_error run
  have clean := failed.clean looping
  have none_before : ¬ ∃ answer ∈ answers, answer.Fails := fun ⟨a, member, bad⟩ => clean a member bad
  have noError : ¬ w.errorBaton.isSome := fun held => none_before (failed.error.mp held).2
  have noData : w.mMessages.length = w.eofEventCount ↔ dataMessages answers = [] := by
    have eofs := kept.eofs
    rw [← List.length_eq_zero_iff]
    omega
  by_cases bad : answer.Fails
  · obtain ⟨stopped, error⟩ := fails bad
    have noMessage : answer.data = none := by
      cases answer with
      | disconnected => rfl
      | message m => exact if_neg bad.1
    refine ⟨fun live => by simp [stopped] at live, ?_⟩
    rw [error, or_iff_right noError, noData, dataMessages_append, noMessage, Option.toList_none, List.append_nil]
    exact ⟨fun empty => ⟨empty, answer, by simp, bad⟩, fun both => both.1⟩
  · have none_after : ∀ a ∈ answers ++ [answer], ¬ a.Fails := by
      intro a member
      rcases List.mem_append.mp member with earlier | last
      · exact clean a earlier
      · rwa [List.mem_singleton.mp last]
    refine ⟨fun _ => none_after, ?_⟩
    rw [handled bad]
    exact ⟨fun held => absurd held noError, fun ⟨_, a, member, fails⟩ => absurd fails (none_after a member)⟩

theorem reach_failed {n : UInt32} {timeoutMs : Int} {answers : List ConsumeAnswer} {w : ConsumeNum}
    (reach : Reach execute (create n timeoutMs) answers w) : w.Failed answers := by
  induction reach with
  | start => exact ⟨by simp, by simp [create]⟩
  | next earlier run ih => exact failed_execute (reach_kept earlier).1 ih run

end ConsumeNum

section
variable (err2str : ErrorCode → String) (toLowerCase : String → String)

/-- Whenever the loop ends, the EOFs dequeued are emitted, each once and in
order, unless it met an error with no data message before it: then they are
dropped. -/
theorem eofs_emitted_iff {n : UInt32} {timeoutMs : Int} {answers : List ConsumeAnswer} {w : ConsumeNum}
    (reach : Reach ConsumeNum.execute (ConsumeNum.create n timeoutMs) answers w) :
    emittedEofs (w.outcome err2str toLowerCase).events = (eofMessages answers).map eofEvent ↔
      ¬ (eofMessages answers ≠ [] ∧ dataMessages answers = [] ∧ ∃ answer ∈ answers, answer.Fails) := by
  have failed := ConsumeNum.reach_failed reach
  rw [← failed.error]
  cases error : w.errorBaton with
  | some b =>
    have silent : (w.outcome err2str toLowerCase).events = [] := by
      simp only [ConsumeNum.outcome, ConsumeNum.workComplete, error, ConsumeNum.handleErrorCallback, consumeNum]
    rw [silent, emittedEofs, List.filterMap_nil, eq_comm, List.map_eq_nil_iff]
    simp only [Option.isSome_some, and_true, ne_eq, not_not]
  | none =>
    have kept := (ConsumeNum.reach_kept reach).1
    have emitted : emittedEofs (w.outcome err2str toLowerCase).events = (eofMessages answers).map eofEvent := by
      rw [kept.outcome_ok err2str toLowerCase error, kept.messages]
      exact dueEvents_eofs err2str answers
    simp [emitted]

/-- An EOF and a message, then an error: the EOF is emitted. -/
theorem eofs_emitted_with_data :
    ∃ w, Reach ConsumeNum.execute (ConsumeNum.create 5 1000)
        [.message { err := -191, topicName := "t", partition := 0, offset := 7 },
         .message { err := 0, topicName := "t", partition := 1, offset := 3 },
         .message { err := -195, topicName := "", partition := 0, offset := 0 }] w ∧ w.running = false ∧
      emittedEofs (w.outcome (fun _ => "") id).events =
        [{ topic := "t", offset := Number.ofInt 7, partition := Number.ofInt 0 }] := by
  obtain ⟨w, reach, stopped⟩ : ∃ w, Reach ConsumeNum.execute (ConsumeNum.create 5 1000)
      [.message { err := -191, topicName := "t", partition := 0, offset := 7 },
       .message { err := 0, topicName := "t", partition := 1, offset := 3 },
       .message { err := -195, topicName := "", partition := 0, offset := 0 }] w ∧ w.running = false :=
    ⟨_, reach_iff_replay.mpr rfl, rfl⟩
  exact ⟨w, reach, stopped, (eofs_emitted_iff (fun _ => "") id reach).mpr fun dropped =>
    absurd dropped.2.1 (by decide)⟩

/-- An EOF, then a transport error: the callback gets the error, and the EOF
is never emitted. -/
theorem eof_dropped_before_error :
    ∃ w, Reach ConsumeNum.execute (ConsumeNum.create 5 1000)
        [.message { err := -191, topicName := "t", partition := 0, offset := 7 },
         .message { err := -195, topicName := "", partition := 0, offset := 0 }] w ∧ w.running = false ∧
      (eofMessages [.message { err := -191, topicName := "t", partition := 0, offset := 7 },
         .message { err := -195, topicName := "", partition := 0, offset := 0 }]).length = 1 ∧
      emittedEofs (w.outcome (fun _ => "") id).events = [] :=
  ⟨_, reach_iff_replay.mpr rfl, rfl, rfl, rfl⟩

end
end NodeRdkafka

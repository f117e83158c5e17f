import NodeRdkafka.ConsumeNum

namespace NodeRdkafka
open Transition

namespace ConsumeAnswer

/-- The message or EOF that an answer hands to the worker. -/
def collected : ConsumeAnswer → Option Message
  | disconnected => none
  | message m =>
    if m.err = ErrorCode.errNoError ∨ m.err = ErrorCode.errPartitionEof then some m else none

def data : ConsumeAnswer → Option Message
  | disconnected => none
  | message m => if m.err = ErrorCode.errNoError then some m else none

end ConsumeAnswer

/-- The data messages among the dequeued answers, in order. -/
def dataMessages (answers : List ConsumeAnswer) : List Message := answers.filterMap (·.data)

/-- The event that a collected message must give rise to. -/
def Message.event (err2str : ErrorCode → String) (m : Message) : ConsumerEvent :=
  if m.err = ErrorCode.errNoError then .data (Conversion.Message.toV8Object err2str m)
  else .partitionEof (eofEvent m)

/-- The events due for the dequeued answers, in dequeued order. -/
def dueEvents (err2str : ErrorCode → String) (answers : List ConsumeAnswer) : List ConsumerEvent :=
  (answers.filterMap (·.collected)).map (Message.event err2str)

/-- A message is either data or an EOF. -/
def Collectable (m : Message) : Prop :=
  m.err = ErrorCode.errNoError ∨ m.err = ErrorCode.errPartitionEof

theorem collected_collectable {answer : ConsumeAnswer} {m : Message} (taken : answer.collected = some m) :
    Collectable m := by
  cases answer with
  | disconnected => simp [ConsumeAnswer.collected] at taken
  | message m' =>
    simp only [ConsumeAnswer.collected, Option.ite_none_right_eq_some, Option.some.injEq] at taken
    obtain ⟨kind, rfl⟩ := taken
    exact kind

theorem data_eq (answer : ConsumeAnswer) :
    answer.data = answer.collected.filter (·.err = ErrorCode.errNoError) := by
  cases answer with
  | disconnected => rfl
  | message m =>
    simp only [ConsumeAnswer.data, ConsumeAnswer.collected]
    by_cases ok : m.err = ErrorCode.errNoError
    · simp [ok, Option.filter]
    · by_cases eof : m.err = ErrorCode.errPartitionEof <;> simp [ok, eof, Option.filter]

theorem dataMessages_eq (answers : List ConsumeAnswer) :
    dataMessages answers = (answers.filterMap (·.collected)).filter (·.err = ErrorCode.errNoError) := by
  simp only [dataMessages, List.filter_filterMap, data_eq]

theorem dataMessages_append (answers : List ConsumeAnswer) (answer : ConsumeAnswer) :
    dataMessages (answers ++ [answer]) = dataMessages answers ++ answer.data.toList := by
  cases data : answer.data <;> simp [dataMessages, data]

namespace ConsumeNum

theorem fail_errorBaton (w : ConsumeNum) (b : Baton Message) :
    (w.fail b).errorBaton = w.errorBaton ∨ w.mMessages.length = w.eofEventCount := by
  by_cases noData : w.mMessages.length = w.eofEventCount
  · exact Or.inr noData
  · exact Or.inl (by simp [fail, noData])

/-- The codes Consume keeps back are those the loop would fail on anyway. -/
theorem loopBody_message (w : ConsumeNum) (m : Message) :
    w.loopBody (KafkaConsumer.consume (.message m)) = w.receive m := by
  by_cases handled : m.err = ErrorCode.errNoError ∨ m.err = ErrorCode.errPartitionEof ∨
      m.err = ErrorCode.errTimedOut ∨ m.err = ErrorCode.errTimedOutQueue
  · have passed : KafkaConsumer.consume (.message m) = .ofData m := by
      simp only [KafkaConsumer.consume]
      exact if_neg (by tauto)
    rw [passed]
    rfl
  · simp only [not_or] at handled
    obtain ⟨ok, eof, timedOut, timedOutQueue⟩ := handled
    have kept : KafkaConsumer.consume (.message m) = .ofCode m.err := by
      simp only [KafkaConsumer.consume]
      exact if_pos ⟨ok, eof, timedOut, timedOutQueue⟩
    rw [kept]
    simp [loopBody, receive, Baton.err, Baton.ofCode, ok, eof, timedOut, timedOutQueue]

/-- Everything one turn of the loop can do: collect a data message, collect
an EOF, or stop, with an error only if no data message is held. -/
theorem execute_cases {w t : ConsumeNum} {answer : ConsumeAnswer} (run : w.execute answer = some t) :
    w.running = true ∧ t.numMessages = w.numMessages ∧
      ((∃ m, answer.collected = some m ∧ m.err = ErrorCode.errNoError ∧
          t.mMessages = w.mMessages ++ [m] ∧ t.eofEventCount = w.eofEventCount ∧
          t.errorBaton = w.errorBaton) ∨
        (∃ m, answer.collected = some m ∧ m.err = ErrorCode.errPartitionEof ∧
          t.mMessages = w.mMessages ++ [m] ∧ t.eofEventCount = w.eofEventCount + 1 ∧
          t.errorBaton = w.errorBaton) ∨
        (answer.collected = none ∧ t.mMessages = w.mMessages ∧
          t.eofEventCount = w.eofEventCount ∧ t.looping = false ∧
          (t.errorBaton = w.errorBaton ∨ w.mMessages.length = w.eofEventCount))) := by
  simp only [execute, Option.ite_none_right_eq_some, Option.some.injEq] at run
  obtain ⟨live, rfl⟩ := run
  refine ⟨live, ?_⟩
  cases answer with
  | disconnected => exact ⟨rfl, Or.inr (Or.inr ⟨rfl, rfl, rfl, rfl, fail_errorBaton w _⟩)⟩
  | message m =>
    rw [loopBody_message]
    by_cases eof : m.err = ErrorCode.errPartitionEof
    · have taken : (ConsumeAnswer.message m).collected = some m := if_pos (Or.inr eof)
      rw [receive, if_pos eof]
      exact ⟨rfl, Or.inr (Or.inl ⟨m, taken, eof, rfl, rfl, rfl⟩)⟩
    by_cases ok : m.err = ErrorCode.errNoError
    · have taken : (ConsumeAnswer.message m).collected = some m := if_pos (Or.inl ok)
      have appended : w.receive m = { w with mMessages := w.mMessages ++ [m] } := by
        simp only [receive, ok]
        rfl
      rw [appended]
      exact ⟨rfl, Or.inl ⟨m, taken, ok, rfl, rfl, rfl⟩⟩
    · have refused : (ConsumeAnswer.message m).collected = none := if_neg (by tauto)
      rw [receive, if_neg eof, if_neg ok]
      split
      · exact ⟨rfl, Or.inr (Or.inr ⟨refused, rfl, rfl, rfl, Or.inl rfl⟩)⟩
      · exact ⟨rfl, Or.inr (Or.inr ⟨refused, rfl, rfl, rfl, fail_errorBaton w _⟩)⟩

/-- What the loop keeps after the answers dequeued so far. An error is only
recorded by the turn that ends the loop. -/
structure Kept (w : ConsumeNum) (answers : List ConsumeAnswer) : Prop where
  messages : w.mMessages = answers.filterMap (·.collected)
  eofs : w.eofEventCount + (dataMessages answers).length = w.mMessages.length
  bound : (dataMessages answers).length ≤ w.numMessages.toNat
  error : w.errorBaton.isSome → w.looping = false ∧ dataMessages answers = []

theorem create_kept (n : UInt32) (timeoutMs : Int) : (create n timeoutMs).Kept [] :=
  ⟨rfl, rfl, Nat.zero_le _, by simp [create]⟩

theorem kept_execute {w t : ConsumeNum} {answers : List ConsumeAnswer} {answer : ConsumeAnswer}
    (kept : w.Kept answers) (run : w.execute answer = some t) : t.Kept (answers ++ [answer]) := by
  obtain ⟨live, size, cases⟩ := execute_cases run
  simp only [running, Bool.and_eq_true, decide_eq_true_eq] at live
  obtain ⟨room, looping⟩ := live
  have clean : w.errorBaton = none := by
    by_contra failed
    have stopped := (kept.error (Option.isSome_iff_ne_none.mpr failed)).1
    simp [looping] at stopped
  have eofs := kept.eofs
  have bound := kept.bound
  rcases cases with ⟨m, taken, ok, messages, count, baton⟩ |
    ⟨m, taken, eof, messages, count, baton⟩ | ⟨refused, messages, count, stopped, baton⟩
  · have more : dataMessages (answers ++ [answer]) = dataMessages answers ++ [m] := by
      simp [dataMessages_append, data_eq, taken, ok]
    refine ⟨by simp [messages, kept.messages, taken], ?_, ?_, by simp [baton, clean]⟩
    · rw [more, messages, count]; simp only [List.length_append]; omega
    · rw [more, size]; simp only [List.length_append, List.length_singleton]; omega
  · have same : dataMessages (answers ++ [answer]) = dataMessages answers := by
      simp [dataMessages_append, data_eq, taken, eof]
    refine ⟨by simp [messages, kept.messages, taken], ?_, ?_, by simp [baton, clean]⟩
    · rw [same, messages, count]; simp only [List.length_append, List.length_singleton]; omega
    · rw [same, size]; exact bound
  · have same : dataMessages (answers ++ [answer]) = dataMessages answers := by
      simp [dataMessages_append, data_eq, refused]
    refine ⟨by simp [messages, kept.messages, refused], ?_, ?_, fun failed => ⟨stopped, ?_⟩⟩
    · rw [same, messages, count]; exact eofs
    · rw [same, size]; exact bound
    · rcases baton with unchanged | onlyEofs
      · simp [unchanged, clean] at failed
      · rw [same]
        exact List.eq_nil_of_length_eq_zero (by omega)

theorem reach_kept {n : UInt32} {timeoutMs : Int} {answers : List ConsumeAnswer} {w : ConsumeNum}
    (reach : Reach execute (create n timeoutMs) answers w) : w.Kept answers ∧ w.numMessages = n := by
  induction reach with
  | start => exact ⟨create_kept n timeoutMs, rfl⟩
  | next _ run ih => exact ⟨kept_execute ih.1 run, (execute_cases run).2.1.trans ih.2⟩

end ConsumeNum

section Emission
variable (err2str : ErrorCode → String)

theorem splitMessages_index {ms : List Message} {i : Int} :
    ∀ eof ∈ (splitMessages err2str i ms).2, i ≤ eof.messageIndex := by
  induction ms generalizing i with
  | nil => simp [splitMessages]
  | cons m rest ih =>
    unfold splitMessages
    split
    · intro eof member
      have above := ih eof member
      omega
    · split
      · intro eof member
        rcases List.mem_cons.mp member with rfl | later
        · exact le_rfl
        · exact ih eof later
      · exact ih

theorem emitEofEventsFor_later {eofs : List IndexedEofEvent} {i : Int}
    (later : ∀ eof ∈ eofs, i < eof.messageIndex) : emitEofEventsFor i eofs = ([], eofs) := by
  cases eofs with
  | nil => rfl
  | cons eof rest =>
    have different : eof.messageIndex ≠ i := by
      have above := later eof (List.mem_cons_self ..)
      omega
    simp [emitEofEventsFor, different]

/-- The native callback of _consumeNum with the cursor standing at index `i`. -/
def emitFrom (i : Int) (messages : List JsValue) (eofs : List IndexedEofEvent) :
    List ConsumerEvent × List IndexedEofEvent :=
  let (first, remaining) := emitEofEventsFor i eofs
  let (rest, last) := emitMessages (i + 1) messages remaining
  (first ++ rest, last)

theorem emitMessages_cons (i : Int) (message : JsValue) (rest : List JsValue)
    (eofs : List IndexedEofEvent) :
    emitMessages i (message :: rest) eofs =
      (.data message :: (emitFrom i rest eofs).1, (emitFrom i rest eofs).2) := rfl

theorem emitFrom_here (i : Int) (messages : List JsValue) (event : EofEvent)
    (eofs : List IndexedEofEvent) :
    emitFrom i messages (⟨event, i⟩ :: eofs) =
      (.partitionEof event :: (emitFrom i messages eofs).1, (emitFrom i messages eofs).2) := by
  simp [emitFrom, emitEofEventsFor]

theorem emitFrom_later {i : Int} {eofs : List IndexedEofEvent} (messages : List JsValue)
    (later : ∀ eof ∈ eofs, i < eof.messageIndex) :
    emitFrom i messages eofs = emitMessages (i + 1) messages eofs := by
  simp [emitFrom, emitEofEventsFor_later later]

/-- The cursor of _consumeNum merges the two arrays back: from any index on,
it emits exactly the collected messages in order and uses up all EOFs. -/
theorem emitFrom_splitMessages {ms : List Message} (i : Int) (collected : ∀ m ∈ ms, Collectable m) :
    emitFrom i (splitMessages err2str i ms).1 (splitMessages err2str i ms).2 =
      (ms.map (Message.event err2str), []) := by
  induction ms generalizing i with
  | nil => rfl
  | cons m rest ih =>
    have remaining : ∀ m ∈ rest, Collectable m := fun m member =>
      collected m (List.mem_cons_of_mem _ member)
    by_cases ok : m.err = ErrorCode.errNoError
    · have later : ∀ eof ∈ (splitMessages err2str (i + 1) rest).2, i < eof.messageIndex := by
        intro eof member
        have above := splitMessages_index err2str eof member
        omega
      have placed : splitMessages err2str i (m :: rest) =
          (Conversion.Message.toV8Object err2str m :: (splitMessages err2str (i + 1) rest).1,
            (splitMessages err2str (i + 1) rest).2) := by
        simp [splitMessages, ok]
      rw [placed, emitFrom_later _ later, emitMessages_cons, ih (i + 1) remaining]
      simp [Message.event, ok]
    · have eof : m.err = ErrorCode.errPartitionEof :=
        (collected m (List.mem_cons_self ..)).resolve_left ok
      have placed : splitMessages err2str i (m :: rest) =
          ((splitMessages err2str i rest).1,
            ⟨eofEvent m, i⟩ :: (splitMessages err2str i rest).2) := by
        simp [splitMessages, eof]
      rw [placed, emitFrom_here, ih i remaining]
      simp [Message.event, ok]

theorem splitMessages_messages (ms : List Message) (i : Int) :
    (splitMessages err2str i ms).1 =
      (ms.filter (·.err = ErrorCode.errNoError)).map (Conversion.Message.toV8Object err2str) := by
  induction ms generalizing i with
  | nil => rfl
  | cons m rest ih =>
    unfold splitMessages
    split
    · rename_i ok
      simp [ok, ih]
    · rename_i notOk
      split <;> simp [notOk, ih]

/-- On the success path the user callback gets all data messages, after the
events of all collected messages in their order. -/
theorem consumeNum_ok (toLowerCase : String → String) {ms : List Message}
    (collected : ∀ m ∈ ms, Collectable m) :
    consumeNum err2str toLowerCase
        (.ok (splitMessages err2str (-1) ms).1 (splitMessages err2str (-1) ms).2) =
      { events := ms.map (Message.event err2str),
        callback := .ok (splitMessages err2str (-1) ms).1 } := by
  have merged := emitFrom_splitMessages err2str (-1) collected
  simp only [emitFrom, Int.reduceNeg, Int.reduceAdd, Prod.mk.injEq] at merged
  obtain ⟨inOrder, used⟩ := merged
  simp only [consumeNum, used, inOrder, emitEofEventsFor, List.append_nil]

end Emission

section
variable (err2str : ErrorCode → String) (toLowerCase : String → String)

/-- The call of the user callback once the worker has left its loop. -/
def ConsumeNum.outcome (w : ConsumeNum) : ConsumeOutcome :=
  consumeNum err2str toLowerCase (w.workComplete err2str)

/-- Without an error the callback gets the collected messages, and their events are emitted. -/
theorem ConsumeNum.Kept.outcome_ok {w : ConsumeNum} {answers : List ConsumeAnswer} (kept : w.Kept answers)
    (clean : w.errorBaton = none) :
    w.outcome err2str toLowerCase =
      { events := w.mMessages.map (Message.event err2str),
        callback := .ok (splitMessages err2str (-1) w.mMessages).1 } := by
  have collected : ∀ m ∈ w.mMessages, Collectable m := by
    intro m member
    rw [kept.messages] at member
    obtain ⟨answer, _, taken⟩ := List.mem_filterMap.mp member
    exact collected_collectable taken
  simp only [ConsumeNum.outcome, ConsumeNum.workComplete, clean]
  exact consumeNum_ok err2str toLowerCase collected

/-- No dequeued data message is lost, repeated or moved on the way through the
worker and the native callback, whatever the loop met and however it stopped. -/
theorem consumeNum_delivers {n : UInt32} {timeoutMs : Int} {answers : List ConsumeAnswer}
    {w : ConsumeNum} (reach : Reach ConsumeNum.execute (ConsumeNum.create n timeoutMs) answers w) :
    (dataMessages answers).length ≤ n.toNat ∧ w.eofEventCount ≤ w.mMessages.length ∧
      (w.running = false →
        (∀ messages, (w.outcome err2str toLowerCase).callback = .ok messages →
          messages = (dataMessages answers).map (Conversion.Message.toV8Object err2str) ∧
            (w.outcome err2str toLowerCase).events = dueEvents err2str answers) ∧
        (∀ e, (w.outcome err2str toLowerCase).callback = .error e → dataMessages answers = [])) := by
  obtain ⟨kept, size⟩ := ConsumeNum.reach_kept reach
  have eofs := kept.eofs
  refine ⟨size ▸ kept.bound, by omega, fun _ => ?_⟩
  cases failed : w.errorBaton with
  | some b =>
    have noData := (kept.error (by simp [failed])).2
    refine ⟨fun messages delivered => ?_, fun _ _ => noData⟩
    simp [ConsumeNum.outcome, ConsumeNum.workComplete, failed, ConsumeNum.handleErrorCallback,
      consumeNum] at delivered
  | none =>
    have delivered := kept.outcome_ok err2str toLowerCase failed
    rw [delivered]
    refine ⟨fun messages same => ?_, fun e same => by simp at same⟩
    cases Except.ok.inj same
    exact ⟨by rw [splitMessages_messages, kept.messages, dataMessages_eq],
      by rw [kept.messages, dueEvents]⟩

/-- EOFs before, between and after two messages, then a timeout. -/
def mixedAnswers : List ConsumeAnswer :=
  [.message { err := -191, topicName := "t", partition := 0, offset := 7 },
   .message { err := 0, topicName := "t", partition := 0, offset := 7 },
   .message { err := -191, topicName := "t", partition := 0, offset := 8 },
   .message { err := 0, topicName := "t", partition := 1, offset := 3 },
   .message { err := -185, topicName := "", partition := 0, offset := 0 }]

theorem consumeNum_delivers_mixed :
    ∃ w, Reach ConsumeNum.execute (ConsumeNum.create 5 1000) mixedAnswers w ∧ w.running = false ∧
      (dataMessages mixedAnswers).length = 2 ∧
      ∀ messages, (w.outcome (fun _ => "") id).callback = .ok messages →
        messages = (dataMessages mixedAnswers).map (Conversion.Message.toV8Object (fun _ => "")) ∧
          (w.outcome (fun _ => "") id).events = dueEvents (fun _ => "") mixedAnswers := by
  obtain ⟨w, reach, stopped⟩ : ∃ w, Reach ConsumeNum.execute (ConsumeNum.create 5 1000)
      mixedAnswers w ∧ w.running = false := ⟨_, reach_iff_replay.mpr rfl, rfl⟩
  exact ⟨w, reach, stopped, rfl, ((consumeNum_delivers (fun _ => "") id reach).2.2 stopped).1⟩

end
end NodeRdkafka

import NodeRdkafka.ConsumeLoop
import NodeRdkafka.Lib.Mailbox

namespace NodeRdkafka
open Transition

namespace ConsumeLoop

def receiver (s : ConsumeLoop) : Mailbox.Receiver :=
  match s.work with
  | .idle => .idle
  | .entered => .woken
  | .delivering _ _ => .draining false

/-- The two vectors seen as mailboxes that share one wakeup. -/
def messageBox (s : ConsumeLoop) : Mailbox.State Message :=
  { posted := s.sent, delivered := s.delivered, held := s.held, queue := s.asyncData,
    owed := 0, pending := s.wakeup, receiver := s.receiver }

def warningBox (s : ConsumeLoop) : Mailbox.State ErrorCode :=
  { posted := s.warned, delivered := s.deliveredWarnings, held := s.heldWarnings,
    queue := s.asyncWarning, owed := 0, pending := s.wakeup, receiver := s.receiver }

/-- A step that is a run of both mailboxes. -/
def Refines (s t : ConsumeLoop) : Prop :=
  (∃ labels, Reach Mailbox.step s.messageBox labels t.messageBox) ∧
    ∃ labels, Reach Mailbox.step s.warningBox labels t.warningBox

theorem Refines.stutter {s t : ConsumeLoop} (messages : t.messageBox = s.messageBox)
    (warnings : t.warningBox = s.warningBox) : Refines s t :=
  ⟨Reach.stutter messages, Reach.stutter warnings⟩

/-- What ends the loop: any error but the two that are warnings. -/
def Fatal (b : Baton Message) : Prop :=
  b.err ≠ ErrorCode.errUnknownTopicOrPart ∧ b.err ≠ ErrorCode.errTopicAuthorizationFailed

/-- All that the body of the loop can do. -/
theorem loopBody_cases (s : ConsumeLoop) (b : Baton Message) :
    s.loopBody b = s ∨ (∃ m, s.loopBody b = s.send m) ∨ (∃ c, s.loopBody b = s.sendWarning c) ∨
      (s.loopBody b = s.fail b ∧ Fatal b) := by
  by_cases success : b.err = ErrorCode.errNoError
  · have fatal : Fatal b := by simp [Fatal, success, ErrorCode.errNoError,
      ErrorCode.errUnknownTopicOrPart, ErrorCode.errTopicAuthorizationFailed]
    cases data : b.mData with
    | none => exact Or.inl (by simp [loopBody, success, data])
    | some message =>
      have body : s.loopBody b = s.receive b message := by simp [loopBody, success, data]
      rw [body, receive]
      split
      · exact Or.inr (Or.inl ⟨message, rfl⟩)
      · split
        · exact Or.inl rfl
        · split
          · exact Or.inr (Or.inl ⟨message, rfl⟩)
          · exact Or.inr (Or.inr (Or.inr ⟨rfl, fatal⟩))
  · by_cases warning : b.err = ErrorCode.errUnknownTopicOrPart ∨
        b.err = ErrorCode.errTopicAuthorizationFailed
    · exact Or.inr (Or.inr (Or.inl ⟨b.err, by simp [loopBody, success, warning]⟩))
    · exact Or.inr (Or.inr (Or.inr ⟨by simp [loopBody, success, warning], not_or.mp warning⟩))

theorem loopBody_refines (s : ConsumeLoop) (b : Baton Message) : Refines s (s.loopBody b) := by
  rcases s.loopBody_cases b with same | ⟨m, sent⟩ | ⟨c, warned⟩ | ⟨failed, _⟩
  · rw [same]
    exact Refines.stutter rfl rfl
  · rw [sent]
    exact ⟨Mailbox.reach_send s.messageBox m, Reach.single .signal rfl⟩
  · rw [warned]
    exact ⟨Reach.single .signal rfl, Mailbox.reach_send s.warningBox c⟩
  · rw [failed]
    exact Refines.stutter rfl rfl

section
variable {err2str : ErrorCode → String} {s t : ConsumeLoop}

/-- A worker that has not crashed takes the step, a crashed one takes none. -/
theorem act_of_step {action : LoopAction} (run : s.step err2str action = some t) :
    s.crashed = false ∧ s.act err2str action = some t := by
  simp only [step] at run
  split at run
  · simp at run
  · rename_i sound
    exact ⟨by simpa using sound, run⟩

theorem swap_refines (callback : s.callback = true) (run : s.act err2str .swap = some t) :
    Refines s t := by
  simp only [act, callback, if_true, Option.ite_none_right_eq_some, Option.some.injEq] at run
  obtain ⟨entered, rfl⟩ := run
  refine ⟨Reach.single (.take s.asyncData.length) ?_, Reach.single (.take s.asyncWarning.length) ?_⟩
  · simp [Mailbox.step, messageBox, receiver, held, entered]
  · simp [Mailbox.step, warningBox, receiver, heldWarnings, entered]

theorem deliver_refines (callback : s.callback = true) (run : s.deliver err2str = some t) :
    Refines s t := by
  simp only [deliver, callback, if_true] at run
  split at run
  · rename_i message messages warnings delivering
    cases Option.some.inj run
    refine ⟨Reach.single .deliver ?_, Reach.stutter ?_⟩
    · simp [Mailbox.step, messageBox, receiver, held, delivering]
    · simp [warningBox, receiver, heldWarnings, delivering]
  · rename_i warning warnings delivering
    cases Option.some.inj run
    refine ⟨Reach.stutter ?_, Reach.single .deliver ?_⟩
    · simp [messageBox, receiver, held, delivering]
    · simp [Mailbox.step, warningBox, receiver, heldWarnings, delivering]
  · simp at run

/-- Every step is a run of both mailboxes as long as the callback exists. -/
theorem act_refines {action : LoopAction} (open_ : s.close = .opened ∨ s.close = .joining)
    (callback : s.callback = true) (after : t.callback = true)
    (run : s.act err2str action = some t) : Refines s t := by
  cases action with
  | check connected =>
    simp only [act, Option.ite_none_right_eq_some, Option.some.injEq] at run
    obtain ⟨_, rfl⟩ := run
    exact Refines.stutter rfl rfl
  | consume answer =>
    simp only [act, Option.ite_none_right_eq_some, Option.some.injEq] at run
    obtain ⟨_, rfl⟩ := run
    exact s.loopBody_refines (KafkaConsumer.consume answer)
  | asyncMessage =>
    simp only [act, Option.ite_none_right_eq_some, Option.some.injEq] at run
    obtain ⟨⟨wakeup, idle, _⟩, rfl⟩ := run
    refine ⟨Reach.single .wake ?_, Reach.single .wake ?_⟩
    · simp [Mailbox.step, messageBox, receiver, held, wakeup, idle]
    · simp [Mailbox.step, warningBox, receiver, heldWarnings, wakeup, idle]
  | swap => exact swap_refines callback run
  | deliver =>
    simp only [act, Option.ite_none_right_eq_some] at run
    exact deliver_refines callback run.2
  | finish =>
    simp only [act, Option.ite_none_right_eq_some, Option.some.injEq] at run
    obtain ⟨⟨delivering, _⟩, rfl⟩ := run
    refine ⟨Reach.single .finish ?_, Reach.single .finish ?_⟩
    · simp [Mailbox.step, messageBox, receiver, held, delivering]
    · simp [Mailbox.step, warningBox, receiver, heldWarnings, delivering]
  | close =>
    simp only [act, Option.ite_none_right_eq_some, Option.some.injEq] at run
    obtain ⟨_, rfl⟩ := run
    exact Refines.stutter rfl rfl
  | workComplete =>
    simp only [act, Option.ite_none_right_eq_some, Option.some.injEq] at run
    obtain ⟨_, rfl⟩ := run
    cases after
  | destroy =>
    simp only [act, Option.ite_none_right_eq_some] at run
    rcases open_ with open_ | open_ <;> simp [open_] at run
  | asyncClose =>
    simp only [act, Option.ite_none_right_eq_some] at run
    rcases open_ with open_ | open_ <;> simp [open_] at run

/-- How NodeDisconnect, the main thread and the callback go together. -/
structure Stands (s : ConsumeLoop) : Prop where
  attached : s.callback = true ↔ s.close = .opened ∨ s.close = .joining
  exited : s.callback = false → s.thread = .exited
  working : s.work = .entered → s.close = .opened

theorem Stands.deliver (stands : s.Stands) (run : s.deliver err2str = some t) : t.Stands := by
  simp only [ConsumeLoop.deliver] at run
  split at run
  · split at run <;> cases Option.some.inj run
    · exact ⟨stands.attached, stands.exited, by simp⟩
    · exact ⟨stands.attached, stands.exited, stands.working⟩
  · split at run <;> cases Option.some.inj run
    · exact ⟨stands.attached, stands.exited, by simp⟩
    · exact ⟨stands.attached, stands.exited, stands.working⟩
  · simp at run

theorem Stands.loopBody (stands : s.Stands) (attached : s.callback = true) (b : Baton Message)
    (thread : LoopThread) : ({ s.loopBody b with thread } : ConsumeLoop).Stands := by
  rcases s.loopBody_cases b with same | ⟨m, sent⟩ | ⟨c, warned⟩ | ⟨failed, _⟩
  · rw [same]
    exact ⟨stands.attached, by simp [attached], stands.working⟩
  · rw [sent]
    exact ⟨stands.attached, by simp [send, attached], stands.working⟩
  · rw [warned]
    exact ⟨stands.attached, by simp [sendWarning, attached], stands.working⟩
  · rw [failed]
    exact ⟨stands.attached, by simp [fail, attached], stands.working⟩

theorem Stands.act {action : LoopAction} (stands : s.Stands)
    (run : s.act err2str action = some t) : t.Stands := by
  have attached_of {thread : LoopThread} (runs : s.thread = thread) (early : thread ≠ .exited) :
      s.callback = true := by
    by_contra detached
    exact early (runs.symm.trans (stands.exited (by simpa using detached)))
  cases action with
  | check connected =>
    simp only [ConsumeLoop.act, Option.ite_none_right_eq_some, Option.some.injEq] at run
    obtain ⟨checking, rfl⟩ := run
    have attached := attached_of checking (by decide)
    exact ⟨stands.attached, by simp [attached], stands.working⟩
  | consume answer =>
    simp only [ConsumeLoop.act, Option.ite_none_right_eq_some, Option.some.injEq] at run
    obtain ⟨consuming, rfl⟩ := run
    exact stands.loopBody (attached_of consuming (by decide)) _ _
  | asyncMessage =>
    simp only [ConsumeLoop.act, Option.ite_none_right_eq_some, Option.some.injEq] at run
    obtain ⟨⟨_, _, opened⟩, rfl⟩ := run
    exact ⟨stands.attached, stands.exited, fun _ => opened⟩
  | swap =>
    simp only [ConsumeLoop.act, Option.ite_none_right_eq_some] at run
    obtain ⟨_, run⟩ := run
    split at run <;> cases Option.some.inj run <;> exact ⟨stands.attached, stands.exited, by simp⟩
  | deliver =>
    simp only [ConsumeLoop.act, Option.ite_none_right_eq_some] at run
    exact stands.deliver run.2
  | finish =>
    simp only [ConsumeLoop.act, Option.ite_none_right_eq_some, Option.some.injEq] at run
    obtain ⟨_, rfl⟩ := run
    exact ⟨stands.attached, stands.exited, by simp⟩
  | close =>
    simp only [ConsumeLoop.act, Option.ite_none_right_eq_some, Option.some.injEq] at run
    obtain ⟨⟨opened, outside⟩, rfl⟩ := run
    have attached := stands.attached.mpr (Or.inl opened)
    exact ⟨by simp [attached], by simp [attached], fun entered => absurd entered outside⟩
  | workComplete =>
    simp only [ConsumeLoop.act, Option.ite_none_right_eq_some, Option.some.injEq] at run
    obtain ⟨⟨joining, exited⟩, rfl⟩ := run
    refine ⟨by simp [ConsumeLoop.workComplete], fun _ => exited, fun entered => ?_⟩
    exact absurd ((stands.working entered).symm.trans joining) (by decide)
  | destroy =>
    simp only [ConsumeLoop.act, Option.ite_none_right_eq_some, Option.some.injEq] at run
    obtain ⟨completed, rfl⟩ := run
    refine ⟨by simpa [completed] using stands.attached, stands.exited, fun entered => ?_⟩
    exact absurd ((stands.working entered).symm.trans completed) (by decide)
  | asyncClose =>
    simp only [ConsumeLoop.act, Option.ite_none_right_eq_some, Option.some.injEq] at run
    obtain ⟨⟨closed, idle⟩, rfl⟩ := run
    exact ⟨by simpa [closed] using stands.attached, stands.exited, by simp [idle]⟩

/-- What every run keeps: as long as the callback exists, nothing is lost,
reordered or repeated in either vector. -/
structure Kept (s : ConsumeLoop) : Prop where
  stands : s.Stands
  messages : s.callback = true → s.messageBox.Sound
  warnings : s.callback = true → s.warningBox.Sound

/-- A callback that exists has existed before. -/
theorem callback_mono {action : LoopAction} (run : s.act err2str action = some t)
    (after : t.callback = true) : s.callback = true := by
  cases action with
  | check connected =>
    simp only [act, Option.ite_none_right_eq_some, Option.some.injEq] at run
    obtain ⟨_, rfl⟩ := run
    exact after
  | consume answer =>
    simp only [act, Option.ite_none_right_eq_some, Option.some.injEq] at run
    obtain ⟨_, rfl⟩ := run
    rcases s.loopBody_cases (KafkaConsumer.consume answer) with same | ⟨m, sent⟩ | ⟨c, warned⟩ | ⟨failed, _⟩
    · simpa [same] using after
    · simpa [sent, send] using after
    · simpa [warned, sendWarning] using after
    · simpa [failed, fail] using after
  | deliver =>
    simp only [act, Option.ite_none_right_eq_some, deliver] at run
    obtain ⟨_, run⟩ := run
    split at run
    · split at run <;> cases Option.some.inj run <;> exact after
    · split at run <;> cases Option.some.inj run <;> exact after
    · simp at run
  | swap =>
    simp only [act, Option.ite_none_right_eq_some] at run
    obtain ⟨_, run⟩ := run
    split at run <;> cases Option.some.inj run <;> exact after
  | workComplete =>
    simp only [act, Option.ite_none_right_eq_some, Option.some.injEq] at run
    obtain ⟨_, rfl⟩ := run
    cases after
  | asyncMessage | finish | close | destroy | asyncClose =>
    simp only [act, Option.ite_none_right_eq_some, Option.some.injEq] at run
    obtain ⟨_, rfl⟩ := run
    exact after

theorem created_kept : created.Kept where
  stands := ⟨by simp [created], by simp [created], by simp [created]⟩
  messages _ := Mailbox.empty_sound
  warnings _ := Mailbox.empty_sound

theorem Kept.step {action : LoopAction} (kept : s.Kept) (run : s.step err2str action = some t) :
    t.Kept := by
  obtain ⟨_, run⟩ := act_of_step run
  have refines (after : t.callback = true) : s.callback = true ∧ Refines s t := by
    have callback := callback_mono run after
    exact ⟨callback, act_refines (kept.stands.attached.mp callback) callback after run⟩
  refine ⟨kept.stands.act run, fun after => ?_, fun after => ?_⟩
  · obtain ⟨callback, ⟨_, simulated⟩, _⟩ := refines after
    exact simulated.invariant Mailbox.State.Sound (kept.messages callback) Mailbox.sound_step
  · obtain ⟨callback, _, _, simulated⟩ := refines after
    exact simulated.invariant Mailbox.State.Sound (kept.warnings callback) Mailbox.sound_step

theorem reach_kept {trace : List LoopAction} (reach : Reach (step err2str) created trace s) : s.Kept :=
  reach.invariant Kept created_kept fun kept run => kept.step run

end
end ConsumeLoop

/-- Before Close the messages and the warnings that the loop thread sends come
out in order, each once, and wait in a vector only while a wakeup is pending
or WorkMessage is running. -/
theorem consumeLoop_order {err2str : ErrorCode → String} {s : ConsumeLoop}
    {trace : List LoopAction} (reach : Reach (ConsumeLoop.step err2str) .created trace s)
    (opened : s.close = .opened) :
    s.delivered ++ s.held ++ s.asyncData = s.sent ∧
      s.deliveredWarnings ++ s.heldWarnings ++ s.asyncWarning = s.warned ∧
      (s.wakeup = false → s.work = .idle → s.asyncData = [] ∧ s.asyncWarning = []) := by
  have kept := ConsumeLoop.reach_kept reach
  have callback := kept.stands.attached.mpr (Or.inl opened)
  have messages := kept.messages callback
  have warnings := kept.warnings callback
  refine ⟨messages.inOrder, warnings.inOrder, fun silent idle => ?_⟩
  have asleep : s.receiver = .idle := by simp [ConsumeLoop.receiver, idle]
  exact ⟨(messages.quiescent asleep silent rfl).1, (warnings.quiescent asleep silent rfl).1⟩

def polledMessage (err : ErrorCode) (offset : Int64) : Message :=
  { err, topicName := "t", partition := 0, offset }

/-- Two messages and a warning, the second message sent while the first is
being delivered. -/
def overlappingSends : List LoopAction :=
  [.check true, .consume (.message (polledMessage ErrorCode.errNoError 0)), .asyncMessage, .swap,
   .check true, .consume (.message (polledMessage ErrorCode.errNoError 1)), .deliver, .finish,
   .check true, .consume (.message (polledMessage ErrorCode.errUnknownTopicOrPart 0)),
   .asyncMessage, .swap, .deliver, .deliver, .finish]

theorem consumeLoop_order_overlapping :
    ∃ s, Reach (ConsumeLoop.step fun _ => "") .created overlappingSends s ∧
      s.delivered ++ s.held ++ s.asyncData = s.sent ∧ s.asyncData = [] ∧ s.sent.length = 2 ∧
      s.deliveredWarnings = [ErrorCode.errUnknownTopicOrPart] := by
  obtain ⟨s, reach, opened, silent, idle, sent, warned⟩ :
      ∃ s, Reach (ConsumeLoop.step fun _ => "") .created overlappingSends s ∧
        s.close = .opened ∧ s.wakeup = false ∧ s.work = .idle ∧ s.sent.length = 2 ∧
        s.deliveredWarnings = [ErrorCode.errUnknownTopicOrPart] :=
    ⟨_, reach_iff_replay.mpr rfl, rfl, rfl, rfl, rfl, rfl⟩
  have ordered := consumeLoop_order reach opened
  exact ⟨s, reach, ordered.1, (ordered.2.2 silent idle).1, sent, warned⟩

end NodeRdkafka

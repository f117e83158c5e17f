import NodeRdkafka.Lib.Reach

namespace Mailbox
open Transition
universe u
variable {μ : Type u}

/-- Where the receiver stands: asleep, woken but not yet at the queue, or
working through a batch, having noted whether it left messages behind. -/
inductive Receiver
  | idle
  | woken
  | draining (rearm : Bool)
  deriving DecidableEq

/-- A queue between senders and one receiver, with a wakeup that coalesces.
`owed` counts the senders that have posted and still owe their wakeup. -/
structure State (μ : Type u) where
  posted : List μ
  delivered : List μ
  held : List μ
  queue : List μ
  owed : Nat
  pending : Bool
  receiver : Receiver

inductive Action (μ : Type u)
  | post (message : μ) (signals : Bool)
  | signal
  | wake
  | take (count : Nat)
  | deliver
  | finish

/-- A post to an empty queue must be followed by a signal; a post behind
other messages need not be. The receiver takes any front part of the queue,
delivers it in order and signals itself when it left something behind. -/
def step (s : State μ) : Action μ → Option (State μ)
  | .post message signals =>
    if signals ∨ s.queue ≠ [] then
      some { s with posted := s.posted ++ [message], queue := s.queue ++ [message],
                    owed := if signals then s.owed + 1 else s.owed }
    else none
  | .signal => some { s with owed := s.owed - 1, pending := true }
  | .wake =>
    if s.pending ∧ s.receiver = .idle then some { s with pending := false, receiver := .woken }
    else none
  | .take count =>
    if s.receiver = .woken then
      some { s with held := s.queue.take count, queue := s.queue.drop count,
                    receiver := .draining !(s.queue.drop count).isEmpty }
    else none
  | .deliver =>
    match s.held with
    | message :: rest => some { s with delivered := s.delivered ++ [message], held := rest }
    | [] => none
  | .finish =>
    match s.receiver, s.held with
    | .draining rearm, [] => some { s with receiver := .idle, pending := s.pending || rearm }
    | _, _ => none

def empty : State μ := ⟨[], [], [], [], 0, false, .idle⟩

/-- A post whose signal follows at once. -/
theorem reach_send (s : State μ) (message : μ) :
    ∃ labels, Reach step s labels
      { s with posted := s.posted ++ [message], queue := s.queue ++ [message], pending := true } :=
  ⟨[.post message true, .signal], .prepend rfl (.prepend rfl .start)⟩

/-- Someone will still come for a message left in the queue. -/
def State.Attended (s : State μ) : Prop :=
  s.pending = true ∨ 0 < s.owed ∨ s.receiver = .woken ∨ s.receiver = .draining true

/-- No message lies in the queue unattended. -/
def State.Watched (s : State μ) : Prop := s.queue ≠ [] → s.Attended

theorem watched_post {s t : State μ} {message : μ} {signals : Bool} (watched : s.Watched)
    (run : step s (.post message signals) = some t) : t.Watched := by
  simp only [step, Option.ite_none_right_eq_some, Option.some.injEq] at run
  obtain ⟨rule, rfl⟩ := run
  intro _
  rcases rule with signalled | behind
  · exact Or.inr (Or.inl (by simp [signalled]))
  · rcases watched behind with pending | owed | receiver
    · exact Or.inl pending
    · exact Or.inr (Or.inl (by dsimp only; split <;> omega))
    · exact Or.inr (Or.inr receiver)

theorem watched_finish {s t : State μ} (watched : s.Watched) (run : step s .finish = some t) :
    t.Watched := by
  simp only [step] at run
  split at run
  · rename_i rearm draining _
    cases Option.some.inj run
    intro left
    rcases watched left with pending | owed | woken | rearmed
    · exact Or.inl (by simp [pending])
    · exact Or.inr (Or.inl owed)
    · simp [draining] at woken
    · cases draining.symm.trans rearmed
      exact Or.inl (by simp)
  · simp at run

/-- This much holds whatever state the run starts from. -/
theorem watched_step {s t : State μ} {action : Action μ} (watched : s.Watched)
    (run : step s action = some t) : t.Watched := by
  cases action with
  | post message signals => exact watched_post watched run
  | signal =>
    cases Option.some.inj run
    exact fun _ => Or.inl rfl
  | wake =>
    simp only [step, Option.ite_none_right_eq_some, Option.some.injEq] at run
    obtain ⟨_, rfl⟩ := run
    exact fun _ => Or.inr (Or.inr (Or.inl rfl))
  | take count =>
    simp only [step, Option.ite_none_right_eq_some, Option.some.injEq] at run
    obtain ⟨_, rfl⟩ := run
    exact fun left => Or.inr (Or.inr (Or.inr (by simpa [List.isEmpty_iff] using left)))
  | deliver =>
    simp only [step] at run
    split at run
    · cases Option.some.inj run
      exact watched
    · simp at run
  | finish => exact watched_finish watched run

/-- What every run keeps: nothing is lost, reordered or repeated, only a
draining receiver holds messages, and no message is left unattended. -/
structure State.Sound (s : State μ) : Prop where
  inOrder : s.delivered ++ s.held ++ s.queue = s.posted
  holding : s.held ≠ [] → ∃ rearm, s.receiver = .draining rearm
  attended : s.queue ≠ [] → s.Attended

theorem empty_sound : (empty : State μ).Sound := ⟨rfl, by simp [empty], by simp [empty]⟩

theorem sound_take {s t : State μ} {count : Nat} (sound : s.Sound)
    (run : step s (.take count) = some t) : t.Sound := by
  have watched := watched_step sound.attended run
  simp only [step, Option.ite_none_right_eq_some, Option.some.injEq] at run
  obtain ⟨woken, rfl⟩ := run
  have free : s.held = [] := by
    by_contra held
    obtain ⟨rearm, draining⟩ := sound.holding held
    simp [woken] at draining
  refine ⟨?_, fun _ => ⟨_, rfl⟩, watched⟩
  have ordered := sound.inOrder
  rw [free] at ordered
  simpa using ordered

theorem sound_step {s t : State μ} {action : Action μ} (sound : s.Sound)
    (run : step s action = some t) : t.Sound := by
  have watched := watched_step sound.attended run
  cases action with
  | post message signals =>
    simp only [step, Option.ite_none_right_eq_some, Option.some.injEq] at run
    obtain ⟨_, rfl⟩ := run
    exact ⟨by simp [← sound.inOrder], sound.holding, watched⟩
  | signal =>
    cases Option.some.inj run
    exact ⟨sound.inOrder, sound.holding, watched⟩
  | wake =>
    simp only [step, Option.ite_none_right_eq_some, Option.some.injEq] at run
    obtain ⟨⟨_, idle⟩, rfl⟩ := run
    refine ⟨sound.inOrder, fun held => ?_, watched⟩
    obtain ⟨rearm, draining⟩ := sound.holding held
    simp [idle] at draining
  | take count => exact sound_take sound run
  | deliver =>
    simp only [step] at run
    split at run
    · rename_i message rest held
      cases Option.some.inj run
      refine ⟨?_, fun _ => sound.holding (by simp [held]), watched⟩
      simpa [held] using sound.inOrder
    · simp at run
  | finish =>
    simp only [step] at run
    split at run
    · rename_i rearm draining free
      cases Option.some.inj run
      exact ⟨sound.inOrder, fun held => absurd free held, watched⟩
    · simp at run

theorem reach_sound {s : State μ} {trace : List (Action μ)} (reach : Reach step empty trace s) :
    s.Sound :=
  reach.invariant State.Sound empty_sound sound_step

/-- With the receiver asleep, no wakeup pending and none owed, every posted
message has been delivered. -/
theorem State.Sound.quiescent {s : State μ} (sound : s.Sound) (asleep : s.receiver = .idle)
    (silent : s.pending = false) (settled : s.owed = 0) : s.queue = [] ∧ s.delivered = s.posted := by
  have drained : s.queue = [] := by
    by_contra left
    rcases sound.attended left with pending | owed | woken | rearmed
    · simp [silent] at pending
    · omega
    · simp [asleep] at woken
    · simp [asleep] at rearmed
  have free : s.held = [] := by
    by_contra held
    obtain ⟨rearm, draining⟩ := sound.holding held
    simp [asleep] at draining
  refine ⟨drained, ?_⟩
  have ordered := sound.inOrder
  simpa [drained, free] using ordered

end Mailbox

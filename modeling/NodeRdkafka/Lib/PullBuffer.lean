import NodeRdkafka.Lib.Reach

namespace PullBuffer
open Transition
universe u
variable {α : Type u}

/-- The request of the reader: there is none, it has yet to be served, or a
batch is being fetched for it. -/
inductive Demand
  | idle
  | waiting
  | fetching
  deriving DecidableEq

/-- A buffer between a source of batches and a reader that asks for one item
at a time. -/
structure State (α : Type u) where
  batches : List (List α)
  handed : List α
  buffer : List α
  demand : Demand

inductive Action (α : Type u)
  | ask
  | fetch
  | receive (batch : List α)
  | hand

/-- A batch is fetched only for a request that finds the buffer empty, and an
item leaves the buffer only to serve a request. -/
def step (s : State α) : Action α → Option (State α)
  | .ask => if s.demand = .idle then some { s with demand := .waiting } else none
  | .fetch =>
    if s.demand = .waiting ∧ s.buffer = [] then some { s with demand := .fetching } else none
  | .receive batch =>
    if s.demand = .fetching then
      some { s with batches := s.batches ++ [batch], buffer := s.buffer ++ batch,
                    demand := .waiting }
    else none
  | .hand =>
    match s.demand, s.buffer with
    | .waiting, item :: rest =>
      some { s with handed := s.handed ++ [item], buffer := rest, demand := .idle }
    | _, _ => none

def empty : State α := ⟨[], [], [], .idle⟩

/-- What every run keeps: the items come out in the order of the batches, each
once, and only the rest of the last batch is ever held. -/
structure State.Sound (s : State α) : Prop where
  inOrder : s.handed ++ s.buffer = s.batches.flatten
  drained : s.demand = .fetching → s.buffer = []
  fresh : s.buffer <:+ s.batches.getLastD []

theorem empty_sound : (empty : State α).Sound := ⟨rfl, fun _ => rfl, List.suffix_refl _⟩

theorem sound_receive {s t : State α} {batch : List α} (sound : s.Sound)
    (run : step s (.receive batch) = some t) : t.Sound := by
  simp only [step, Option.ite_none_right_eq_some, Option.some.injEq] at run
  obtain ⟨fetching, rfl⟩ := run
  have free := sound.drained fetching
  have ordered := sound.inOrder
  rw [free, List.append_nil] at ordered
  refine ⟨by simp [free, ordered], fun again => by simp at again, ?_⟩
  simp [free]

theorem sound_hand {s t : State α} (sound : s.Sound) (run : step s .hand = some t) : t.Sound := by
  simp only [step] at run
  split at run
  · rename_i item rest waiting held
    cases Option.some.inj run
    have ordered := sound.inOrder
    have fresh := sound.fresh
    rw [held] at ordered fresh
    refine ⟨by simpa using ordered, fun again => by simp at again, ?_⟩
    exact (List.suffix_cons item rest).trans fresh
  · simp at run

theorem sound_step {s t : State α} {action : Action α} (sound : s.Sound)
    (run : step s action = some t) : t.Sound := by
  cases action with
  | ask =>
    simp only [step, Option.ite_none_right_eq_some, Option.some.injEq] at run
    obtain ⟨_, rfl⟩ := run
    exact ⟨sound.inOrder, fun again => by simp at again, sound.fresh⟩
  | fetch =>
    simp only [step, Option.ite_none_right_eq_some, Option.some.injEq] at run
    obtain ⟨⟨_, free⟩, rfl⟩ := run
    exact ⟨sound.inOrder, fun _ => free, sound.fresh⟩
  | receive batch => exact sound_receive sound run
  | hand => exact sound_hand sound run

theorem reach_sound {s : State α} {trace : List (Action α)} (reach : Reach step empty trace s) :
    s.Sound :=
  reach.invariant State.Sound empty_sound sound_step

end PullBuffer

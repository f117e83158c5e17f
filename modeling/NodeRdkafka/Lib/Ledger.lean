import Mathlib.Data.Finset.Insert
import Mathlib.Data.Finset.Erase
import NodeRdkafka.Lib.Reach

namespace Ledger
open Transition
universe u
variable {α : Type u}

/-- What a program does with objects that it makes and destroys itself. -/
inductive Effect (α : Type u)
  | create (a : α)
  | use (a : α)
  | destroy (a : α)

/-- The objects there have ever been, and those that are left. -/
structure Account (α : Type u) where
  created : Finset α := ∅
  live : Finset α := ∅

section
variable [DecidableEq α] (owner : α → Option α)

/-- An object is created once, while its owner is there; it is used while it is there;
and it is destroyed once, after the objects that it owns. -/
def Account.apply (s : Account α) : Effect α → Option (Account α)
  | .create a =>
    if a ∉ s.created ∧ ∀ o ∈ owner a, o ∈ s.live then
      some { created := insert a s.created, live := insert a s.live }
    else none
  | .use a => if a ∈ s.live then some s else none
  | .destroy a =>
    if a ∈ s.live ∧ ∀ b ∈ s.live, owner b ≠ some a then some { s with live := s.live.erase a } else none

/-- The effects can be taken one after another. -/
abbrev Runs (s : Account α) (effects : List (Effect α)) (t : Account α) : Prop :=
  Reach (Account.apply owner) s effects t

variable {owner} {s t : Account α} {a : α}

theorem Runs.cons {effect : Effect α} {rest : List (Effect α)} {u : Account α}
    (first : s.apply owner effect = some t) (later : Runs owner t rest u) : Runs owner s (effect :: rest) u :=
  later.prepend first

theorem runs_create (fresh : a ∉ s.created) (owned : ∀ o, owner a = some o → o ∈ s.live) :
    Runs owner s [.create a] { created := insert a s.created, live := insert a s.live } :=
  Runs.cons (if_pos ⟨fresh, owned⟩) .start

theorem runs_use (there : a ∈ s.live) : Runs owner s [.use a] s := Runs.cons (if_pos there) .start

/-- Any number of uses. -/
theorem runs_uses {effects : List (Effect α)} (uses : ∀ effect ∈ effects, ∃ a ∈ s.live, effect = .use a) :
    Runs owner s effects s := by
  induction effects with
  | nil => exact .start
  | cons effect rest ih =>
    obtain ⟨a, there, rfl⟩ := uses effect List.mem_cons_self
    exact Runs.cons (if_pos there) (ih fun other member => uses other (List.mem_cons_of_mem _ member))

theorem runs_destroy (there : a ∈ s.live) (free : ∀ b ∈ s.live, owner b ≠ some a) :
    Runs owner s [.destroy a] { s with live := s.live.erase a } :=
  Runs.cons (if_pos ⟨there, free⟩) .start

theorem apply_live_subset {effect : Effect α} (within : s.live ⊆ s.created)
    (run : s.apply owner effect = some t) : t.live ⊆ t.created := by
  cases effect with
  | create a =>
    simp only [Account.apply, Option.ite_none_right_eq_some, Option.some.injEq] at run
    obtain ⟨_, rfl⟩ := run
    exact Finset.insert_subset_insert a within
  | use a =>
    simp only [Account.apply, Option.ite_none_right_eq_some, Option.some.injEq] at run
    exact run.2 ▸ within
  | destroy a =>
    simp only [Account.apply, Option.ite_none_right_eq_some, Option.some.injEq] at run
    obtain ⟨_, rfl⟩ := run
    exact (Finset.erase_subset a s.live).trans within

/-- What is there has been made. -/
theorem runs_live_subset {effects : List (Effect α)} (run : Runs owner s effects t) (within : s.live ⊆ s.created) :
    t.live ⊆ t.created :=
  Reach.invariant (fun u : Account α => u.live ⊆ u.created) within (fun kept run => apply_live_subset kept run) run

end
end Ledger

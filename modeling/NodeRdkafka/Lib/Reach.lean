import Mathlib.Data.List.Basic

namespace Transition
universe u v w x
variable {σ : Type u} {α : Type v} {step : σ → α → Option σ} {initial : σ}

/-- A finite run of a partial step function, with its labels in the order
taken. A label whose step is undefined is not enabled in that state. -/
inductive Reach (step : σ → α → Option σ) (initial : σ) : List α → σ → Prop
  | start : Reach step initial [] initial
  | next {before after label trace} : Reach step initial trace before →
      step before label = some after → Reach step initial (trace ++ [label]) after

/-- The executable form of a run, used to replay a fixed list of labels. -/
def replay (step : σ → α → Option σ) : σ → List α → Option σ
  | s, [] => some s
  | s, label :: rest => (step s label).bind fun t => replay step t rest

theorem Reach.prepend {s t : σ} {label : α} {trace : List α} (first : step initial label = some s)
    (reach : Reach step s trace t) : Reach step initial (label :: trace) t := by
  induction reach with
  | start => exact .next .start first
  | next _ run ih => exact .next ih run

theorem Reach.trans {s t : σ} {left right : List α} (first : Reach step initial left s)
    (second : Reach step s right t) : Reach step initial (left ++ right) t := by
  induction second with
  | start => simpa using first
  | next _ run ih => simpa only [← List.append_assoc] using ih.next run

theorem replay_append (left right : List α) (s : σ) :
    replay step s (left ++ right) = (replay step s left).bind fun t => replay step t right := by
  induction left generalizing s with
  | nil => rfl
  | cons label rest ih =>
    simp only [List.cons_append, replay, Option.bind_assoc]
    exact congrArg _ (funext ih)

/-- Replaying decides reachability along a given list of labels. -/
theorem reach_iff_replay {trace : List α} {s : σ} :
    Reach step initial trace s ↔ replay step initial trace = some s := by
  constructor
  · intro reach
    induction reach with
    | start => rfl
    | next _ run ih => rw [replay_append, ih]; simp [replay, run]
  · intro run
    induction trace generalizing initial with
    | nil => cases Option.some.inj run; exact .start
    | cons label rest ih =>
      obtain ⟨t, first, later⟩ := Option.bind_eq_some_iff.mp run
      exact (ih later).prepend first

/-- A property that holds initially and is kept by every enabled step holds
in every reached state. -/
theorem Reach.invariant (Inv : σ → Prop) (base : Inv initial)
    (preserved : ∀ {s a t}, Inv s → step s a = some t → Inv t)
    {trace : List α} {s : σ} (reach : Reach step initial trace s) : Inv s := by
  induction reach with
  | start => exact base
  | next _ run ih => exact preserved ih run

/-- The invariant rule for runs whose labels all lie in a class. -/
theorem Reach.invariant_of_labels (Inv : σ → Prop) {Ok : α → Prop} (base : Inv initial)
    (preserved : ∀ {s a t}, Ok a → Inv s → step s a = some t → Inv t)
    {trace : List α} {s : σ} (reach : Reach step initial trace s)
    (labels : ∀ a ∈ trace, Ok a) : Inv s := by
  induction reach with
  | start => exact base
  | @next before after label trace _ run ih =>
    have earlier : ∀ a ∈ trace, Ok a := fun a member => labels a (List.mem_append_left _ member)
    exact preserved (labels label (by simp)) (ih earlier) run

/-- A quantity that each step changes as its label alone says is, after a run,
what the labels of the run make of it. -/
theorem Reach.foldl_of_labels {β : Type w} (Ok : α → Prop) (Inv : σ → Prop) (quantity : σ → β)
    (change : β → α → β) (base : Inv initial)
    (preserved : ∀ {s a t}, Ok a → Inv s → step s a = some t →
      Inv t ∧ quantity t = change (quantity s) a)
    {trace : List α} {s : σ} (reach : Reach step initial trace s) (labels : ∀ a ∈ trace, Ok a) :
    Inv s ∧ quantity s = trace.foldl change (quantity initial) := by
  induction reach with
  | start => exact ⟨base, rfl⟩
  | @next before after label trace _ run ih =>
    obtain ⟨inv, earlier⟩ := ih fun a member => labels a (List.mem_append_left _ member)
    obtain ⟨kept, last⟩ := preserved (labels label (by simp)) inv run
    exact ⟨kept, by rw [List.foldl_append, ← earlier, List.foldl_cons, List.foldl_nil, last]⟩

/-- Every step of the run meets `Ok` in the state it is taken from. -/
inductive ReachWhile (Ok : σ → α → Prop) (step : σ → α → Option σ) (initial : σ) :
    List α → σ → Prop
  | start : ReachWhile Ok step initial [] initial
  | next {before after label trace} : ReachWhile Ok step initial trace before → Ok before label →
      step before label = some after → ReachWhile Ok step initial (trace ++ [label]) after

theorem ReachWhile.prepend {Ok : σ → α → Prop} {s t : σ} {label : α} {trace : List α}
    (allowed : Ok initial label) (first : step initial label = some s)
    (reach : ReachWhile Ok step s trace t) : ReachWhile Ok step initial (label :: trace) t := by
  induction reach with
  | start => exact .next .start allowed first
  | next _ ok run ih => exact .next ih ok run

theorem ReachWhile.invariant {Ok : σ → α → Prop} (Inv : σ → Prop) (base : Inv initial)
    (preserved : ∀ {s a t}, Ok s a → Inv s → step s a = some t → Inv t)
    {trace : List α} {s : σ} (reach : ReachWhile Ok step initial trace s) : Inv s := by
  induction reach with
  | start => exact base
  | next _ allowed run ih => exact preserved allowed ih run

theorem ReachWhile.reach {Ok : σ → α → Prop} {trace : List α} {s : σ}
    (reach : ReachWhile Ok step initial trace s) : Reach step initial trace s := by
  induction reach with
  | start => exact .start
  | next _ _ run ih => exact ih.next run

/-- A run is determined by its labels. -/
theorem Reach.unique {trace : List α} {s t : σ} (left : Reach step initial trace s)
    (right : Reach step initial trace t) : s = t :=
  Option.some.inj ((reach_iff_replay.mp left).symm.trans (reach_iff_replay.mp right))

/-- A run meets a condition when all of it but the last step does, and the last step. -/
theorem Reach.while_snoc_iff {Ok : σ → α → Prop} {trace : List α} {label : α} {before after : σ}
    (reach : Reach step initial trace before) (run : step before label = some after) :
    ReachWhile Ok step initial (trace ++ [label]) after ↔
      ReachWhile Ok step initial trace before ∧ Ok before label := by
  constructor
  · intro whole
    generalize longer : trace ++ [label] = labels at whole
    cases whole with
    | start => simp at longer
    | next earlier allowed _ =>
      obtain ⟨rfl, last⟩ := List.append_inj' longer rfl
      cases List.singleton_inj.mp last
      cases reach.unique earlier.reach
      exact ⟨earlier, allowed⟩
  · rintro ⟨earlier, allowed⟩
    exact earlier.next allowed run

/-- Where a step keeps an invariant, and keeps `Good` exactly under `Ok`, a run
is good exactly when all its steps meet `Ok`. -/
theorem Reach.good_iff_while {Ok : σ → α → Prop} (Inv Good : σ → Prop) (base : Inv initial) (good : Good initial)
    (preserved : ∀ {s a t}, Inv s → step s a = some t → Inv t ∧ (Good t ↔ Good s ∧ Ok s a))
    {trace : List α} {s : σ} (reach : Reach step initial trace s) :
    Inv s ∧ (Good s ↔ ReachWhile Ok step initial trace s) := by
  induction reach with
  | start => exact ⟨base, fun _ => .start, fun _ => good⟩
  | next earlier run ih =>
    obtain ⟨inv, iff⟩ := ih
    obtain ⟨kept, last⟩ := preserved inv run
    exact ⟨kept, by rw [last, earlier.while_snoc_iff run, iff]⟩

/-- The same with a ghost list: what the steps add to it is nothing exactly
under `Ok`. -/
theorem Reach.ghost_iff_while {β : Type w} {Ok : σ → α → Prop} (Inv : σ → List β → Prop) (added : σ → α → List β)
    (base : Inv initial []) (added_nil : ∀ s a, Ok s a ↔ added s a = [])
    (preserved : ∀ {s a t items}, Inv s items → step s a = some t → Inv t (items ++ added s a))
    {trace : List α} {s : σ} (reach : Reach step initial trace s) :
    ∃ items, Inv s items ∧ (items = [] ↔ ReachWhile Ok step initial trace s) := by
  induction reach with
  | start => exact ⟨[], base, fun _ => .start, fun _ => rfl⟩
  | @next before after label _ earlier run ih =>
    obtain ⟨items, inv, iff⟩ := ih
    refine ⟨items ++ added before label, preserved inv run, ?_⟩
    rw [List.append_eq_nil_iff, iff, ← added_nil, earlier.while_snoc_iff run]

/-- The executable form, for a condition that can be decided. -/
def replayWhile (Ok : σ → α → Prop) [∀ s a, Decidable (Ok s a)] (step : σ → α → Option σ) :
    σ → List α → Option σ
  | s, [] => some s
  | s, label :: rest =>
    if Ok s label then (step s label).bind fun t => replayWhile Ok step t rest else none

theorem ReachWhile.of_replayWhile {Ok : σ → α → Prop} [∀ s a, Decidable (Ok s a)] {trace : List α} {s : σ}
    (run : replayWhile Ok step initial trace = some s) : ReachWhile Ok step initial trace s := by
  induction trace generalizing initial with
  | nil => cases Option.some.inj run; exact .start
  | cons label rest ih =>
    unfold replayWhile at run
    split at run
    · rename_i allowed
      obtain ⟨t, first, later⟩ := Option.bind_eq_some_iff.mp run
      exact (ih later).prepend allowed first
    · cases run

/-- A refinement mapping that turns each concrete step into a finite run of
the specification turns whole runs into runs. The concrete steps may be those
of one class, and an invariant of them may be used. -/
theorem Reach.refines {τ : Type w} {β : Type x} {specStep : τ → β → Option τ} (abs : σ → τ)
    (Inv : σ → Prop) {Ok : α → Prop} (base : Inv initial)
    (refined : ∀ {s a t}, Ok a → Inv s → step s a = some t →
      Inv t ∧ ∃ labels, Reach specStep (abs s) labels (abs t))
    {trace : List α} {s : σ} (reach : Reach step initial trace s) (labels : ∀ a ∈ trace, Ok a) :
    ∃ abstractTrace, Reach specStep (abs initial) abstractTrace (abs s) := by
  have both : Inv s ∧ ∃ earlier, Reach specStep (abs initial) earlier (abs s) := by
    induction reach with
    | start => exact ⟨base, [], .start⟩
    | @next before after label trace _ run ih =>
      obtain ⟨inv, earlier, simulated⟩ := ih fun a member => labels a (List.mem_append_left _ member)
      obtain ⟨kept, later, simulation⟩ := refined (labels label (by simp)) inv run
      exact ⟨kept, earlier ++ later, simulated.trans simulation⟩
  exact both.2

theorem Reach.stutter {s t : σ} (same : t = s) : ∃ labels, Reach step s labels t :=
  ⟨[], same ▸ .start⟩

theorem Reach.single {s t : σ} (label : α) (run : step s label = some t) :
    ∃ labels, Reach step s labels t := ⟨[label], .prepend run .start⟩

end Transition

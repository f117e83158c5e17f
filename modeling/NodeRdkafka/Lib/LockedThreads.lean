import Mathlib.Logic.Hydra
import NodeRdkafka.Lib.Reach

namespace LockedThreads
open Transition
universe u v w
variable {σ : Type u} {ρ : Type v} {μ : Type w}

/-- The two ways to hold a read-write lock. -/
inductive Mode
  | read
  | write
  deriving DecidableEq

/-- What a thread has still to do. Every step is atomic: an effect on the shared
state, none where it is undefined; a look at the shared state, on which the rest
may depend; the lock taken, or given back. -/
inductive Code (σ : Type u)
  | done
  | act (effect : σ → Option σ) (next : Code σ)
  | look (next : σ → Code σ)
  | lock (mode : Mode) (next : Code σ)
  | unlock (next : Code σ)

def Code.isDone : Code σ → Bool
  | done => true
  | _ => false

structure Thread (σ : Type u) (ρ : Type v) where
  role : ρ
  code : Code σ
  held : Option Mode

def Thread.Live (t : Thread σ ρ) : Prop := t.code.isDone = false

structure State (σ : Type u) (ρ : Type v) where
  shared : σ
  threads : List (Thread σ ρ)

/-- The calls that threads are started for. Two calls whose roles clash are not
under way together. -/
structure System (σ : Type u) (ρ : Type v) (μ : Type w) where
  role : μ → ρ
  code : μ → Code σ
  clash : ρ → ρ → Bool
  clash_comm : ∀ q r, clash q r = clash r q

inductive Action (μ : Type w)
  | start (call : μ)
  | run (index : Nat)

def grants (threads : List (Thread σ ρ)) : Mode → Bool
  | .read => threads.all fun t => t.held ≠ some .write
  | .write => threads.all fun t => t.held = none

/-- The next step of a thread, if it is not blocked. -/
def Thread.step (s : State σ ρ) (t : Thread σ ρ) : Option (σ × Thread σ ρ) :=
  match t.code with
  | .done => none
  | .act effect next => (effect s.shared).map fun after => (after, { t with code := next })
  | .look next => some (s.shared, { t with code := next s.shared })
  | .lock mode next =>
    if grants s.threads mode then some (s.shared, { t with code := next, held := some mode }) else none
  | .unlock next => some (s.shared, { t with code := next, held := none })

def System.step (sys : System σ ρ μ) (s : State σ ρ) : Action μ → Option (State σ ρ)
  | .start call =>
    if s.threads.all fun t => t.code.isDone || !sys.clash (sys.role call) t.role then
      some { s with threads := s.threads ++ [⟨sys.role call, sys.code call, none⟩] }
    else none
  | .run index =>
    match s.threads[index]? with
    | some t => (t.step s).map fun moved =>
        { shared := moved.1, threads := s.threads.set index moved.2 }
    | none => none

/-- Some thread is about to do what is undefined. -/
def State.Faulty (s : State σ ρ) : Prop :=
  ∃ t ∈ s.threads, ∃ effect next, t.code = .act effect next ∧ effect s.shared = none

/-- What two threads may hold at once. -/
def Compatible (g h : Option Mode) : Prop := (g = some .write → h = none) ∧ (h = some .write → g = none)

theorem Compatible.symm {g h : Option Mode} (compatible : Compatible g h) : Compatible h g :=
  ⟨compatible.2, compatible.1⟩

theorem compatible_none (h : Option Mode) : Compatible none h := by simp [Compatible]

theorem compatible_of_grants {threads : List (Thread σ ρ)} {mode : Mode} {u : Thread σ ρ}
    (granted : grants threads mode = true) (member : u ∈ threads) : Compatible (some mode) u.held := by
  cases mode with
  | read =>
    have open' : u.held ≠ some .write := by simpa using List.all_eq_true.mp granted u member
    exact ⟨by simp, fun writing => absurd writing open'⟩
  | write =>
    have free : u.held = none := by simpa using List.all_eq_true.mp granted u member
    exact ⟨fun _ => free, fun writing => by simp [free] at writing⟩

theorem grants_of_free {threads : List (Thread σ ρ)} (free : ∀ t ∈ threads, t.held = none) (mode : Mode) :
    grants threads mode = true := by
  cases mode <;> simp +contextual [grants, free]

/-- A proof outline: what each thread may rely on at each point of its code. The
lock guards `inv`, which holds while no one writes; a role guards `rest`, which holds
while no one has it. -/
structure Outline (sys : System σ ρ μ) (Ok : μ → Prop) where
  inv : σ → Prop
  rest : ρ → σ → Prop
  pre : ρ → Option Mode → Code σ → σ → Prop
  shared_rest : ∀ {r s}, sys.clash r r = false → rest r s
  start : ∀ {call s}, Ok call → rest (sys.role call) s → pre (sys.role call) none (sys.code call) s
  done : ∀ {r h s}, pre r h .done s → h = none ∧ rest r s
  look : ∀ {r h next s}, pre r h (.look next) s → pre r h (next s) s
  lock : ∀ {r h mode next s}, pre r h (.lock mode next) s →
    h = none ∧ (inv s → pre r (some mode) next s)
  unlock : ∀ {r h next s}, pre r h (.unlock next) s →
    h ≠ none ∧ pre r none next s ∧ (h = some .write → inv s)
  act : ∀ {r h effect next s}, pre r h (.act effect next) s → ∃ t, effect s = some t ∧ pre r h next t
  /-- An effect disturbs neither the guarded facts nor what another thread relies on. -/
  act_inv : ∀ {r h effect next s t}, pre r h (.act effect next) s → effect s = some t →
    h ≠ some .write → inv s → inv t
  act_rest : ∀ {r h effect next s t q}, pre r h (.act effect next) s → effect s = some t →
    q ≠ r → rest q s → rest q t
  act_pre : ∀ {r h effect next s t q g code}, pre r h (.act effect next) s → effect s = some t →
    sys.clash q r = false → Compatible g h → pre q g code s → pre q g code t

namespace Outline
variable {sys : System σ ρ μ} {Ok : μ → Prop} (o : Outline sys Ok)

structure Holds (s : State σ ρ) : Prop where
  apart : ∀ {i j : Nat} {t v : Thread σ ρ}, i ≠ j → s.threads[i]? = some t → s.threads[j]? = some v →
    Compatible t.held v.held
  roles : ∀ {i j : Nat} {t v : Thread σ ρ}, i ≠ j → s.threads[i]? = some t → s.threads[j]? = some v →
    t.Live → v.Live → sys.clash t.role v.role = false
  pre : ∀ {i : Nat} {t : Thread σ ρ}, s.threads[i]? = some t → t.Live → o.pre t.role t.held t.code s.shared
  ended : ∀ {i : Nat} {t : Thread σ ρ}, s.threads[i]? = some t → ¬t.Live → t.held = none
  inv : (∀ t ∈ s.threads, t.held ≠ some .write) → o.inv s.shared
  rest : ∀ {r}, (∀ t ∈ s.threads, t.Live → t.role ≠ r) → o.rest r s.shared

/-- What a step of the thread `t` at `i` leaves, for it and for the others. -/
structure Advance (s : State σ ρ) (i : Nat) (t : Thread σ ρ) (after : σ) (t' : Thread σ ρ) : Prop where
  role : t'.role = t.role
  pre : o.pre t'.role t'.held t'.code after
  apart : ∀ {j : Nat} {v : Thread σ ρ}, j ≠ i → s.threads[j]? = some v → Compatible t'.held v.held
  inv : t'.held ≠ some .write →
    (∀ {j : Nat} {v : Thread σ ρ}, j ≠ i → s.threads[j]? = some v → v.held ≠ some .write) →
    o.inv after
  rest : ∀ {r}, r ≠ t.role → o.rest r s.shared → o.rest r after
  others : ∀ {j : Nat} {v : Thread σ ρ}, j ≠ i → s.threads[j]? = some v → v.Live →
    o.pre v.role v.held v.code after

variable {o}

theorem Holds.inv_of_others {s : State σ ρ} {i : Nat} {t : Thread σ ρ} (holds : o.Holds s)
    (at_i : s.threads[i]? = some t) (own : t.held ≠ some .write)
    (others : ∀ {j : Nat} {v : Thread σ ρ}, j ≠ i → s.threads[j]? = some v → v.held ≠ some .write) :
    o.inv s.shared := by
  refine holds.inv fun v member => ?_
  obtain ⟨j, at_j⟩ := List.getElem?_of_mem member
  by_cases same : j = i
  · subst same
    cases at_i.symm.trans at_j
    exact own
  · exact others same at_j

theorem Holds.advance {s : State σ ρ} {i : Nat} {t t' : Thread σ ρ} {after : σ} (holds : o.Holds s)
    (at_i : s.threads[i]? = some t) (run : t.step s = some (after, t')) : o.Advance s i t after t' := by
  obtain ⟨r, code, h⟩ := t
  have apart : ∀ {j : Nat} {v : Thread σ ρ}, j ≠ i → s.threads[j]? = some v → Compatible h v.held :=
    fun differ at_j => holds.apart differ.symm at_i at_j
  have same : ∀ {j : Nat} {v : Thread σ ρ}, j ≠ i → s.threads[j]? = some v → v.Live →
      o.pre v.role v.held v.code s.shared := fun _ at_j live => holds.pre at_j live
  cases code with
  | done => simp [Thread.step] at run
  | act effect next =>
    have pre := holds.pre at_i rfl
    obtain ⟨u, effects, later⟩ := o.act pre
    simp only [Thread.step, effects, Option.map_some, Option.some.injEq, Prod.mk.injEq] at run
    obtain ⟨rfl, rfl⟩ := run
    refine ⟨rfl, later, apart, ?_, ?_, ?_⟩
    · exact fun own others => o.act_inv pre effects own (holds.inv_of_others at_i own others)
    · exact fun differ rest => o.act_rest pre effects differ rest
    · intro j v differ at_j live
      exact o.act_pre pre effects (holds.roles differ at_j at_i live rfl) (holds.apart differ at_j at_i)
        (holds.pre at_j live)
  | look next =>
    cases run
    exact ⟨rfl, o.look (holds.pre at_i rfl), apart, fun own others => holds.inv_of_others at_i own others,
      fun _ rest => rest, same⟩
  | lock mode next =>
    simp only [Thread.step, Option.ite_none_right_eq_some, Option.some.injEq, Prod.mk.injEq] at run
    obtain ⟨granted, rfl, rfl⟩ := run
    obtain ⟨rfl, taken⟩ := o.lock (holds.pre at_i rfl)
    have quiet : ∀ v ∈ s.threads, v.held ≠ some .write := by
      intro v member writing
      simpa using (compatible_of_grants granted member).2 writing
    have free : ∀ {j : Nat} {v : Thread σ ρ}, j ≠ i → s.threads[j]? = some v →
        Compatible (some mode) v.held := fun _ at_j => compatible_of_grants granted (List.mem_of_getElem? at_j)
    exact ⟨rfl, taken (holds.inv quiet), free, fun _ _ => holds.inv quiet, fun _ rest => rest, same⟩
  | unlock next =>
    cases run
    obtain ⟨_, later, written⟩ := o.unlock (holds.pre at_i rfl)
    refine ⟨rfl, later, fun _ _ => compatible_none _, fun _ others => ?_, fun _ rest => rest, same⟩
    by_cases writing : h = some .write
    · exact written writing
    · exact holds.inv_of_others at_i writing others

theorem Advance.holds {s : State σ ρ} {i : Nat} {t t' : Thread σ ρ} {after : σ} (holds : o.Holds s)
    (at_i : s.threads[i]? = some t) (live : t.Live) (advance : o.Advance s i t after t') :
    o.Holds { shared := after, threads := s.threads.set i t' } := by
  have bound : i < s.threads.length := (List.getElem?_eq_some_iff.mp at_i).1
  have self : (s.threads.set i t')[i]? = some t' := by simp [bound]
  have other : ∀ {j}, j ≠ i → (s.threads.set i t')[j]? = s.threads[j]? := fun differ => by
    simp [differ.symm]
  have ended : ¬t'.Live → t'.held = none ∧ o.rest t'.role after := by
    intro stopped
    have finished := advance.pre
    cases code : t'.code with
    | done => exact o.done (code ▸ finished)
    | _ => simp [Thread.Live, code, Code.isDone] at stopped
  constructor
  · intro j k v w differ at_j at_k
    by_cases first : j = i
    · subst first
      cases self.symm.trans at_j
      exact advance.apart differ.symm ((other differ.symm).symm.trans at_k)
    · rw [other first] at at_j
      by_cases second : k = i
      · subst second
        cases self.symm.trans at_k
        exact (advance.apart first at_j).symm
      · exact holds.apart differ at_j ((other second).symm.trans at_k)
  · intro j k v w differ at_j at_k v_live w_live
    by_cases first : j = i
    · subst first
      cases self.symm.trans at_j
      rw [advance.role]
      exact holds.roles differ at_i ((other differ.symm).symm.trans at_k) live w_live
    · rw [other first] at at_j
      by_cases second : k = i
      · subst second
        cases self.symm.trans at_k
        rw [advance.role]
        exact holds.roles differ at_j at_i v_live live
      · exact holds.roles differ at_j ((other second).symm.trans at_k) v_live w_live
  · intro j v at_j v_live
    by_cases same : j = i
    · subst same
      cases self.symm.trans at_j
      exact advance.pre
    · exact advance.others same ((other same).symm.trans at_j) v_live
  · intro j v at_j finished
    by_cases same : j = i
    · subst same
      cases self.symm.trans at_j
      exact (ended finished).1
    · exact holds.ended ((other same).symm.trans at_j) finished
  · intro quiet
    refine advance.inv (quiet _ (List.mem_of_getElem? self)) fun differ at_j => ?_
    exact quiet _ (List.mem_of_getElem? ((other differ).trans at_j))
  · intro r absent
    by_cases last : r = t.role
    · by_cases t'_live : t'.Live
      · exact absurd (advance.role.trans last.symm) (absent _ (List.mem_of_getElem? self) t'_live)
      · rw [last, ← advance.role]
        exact (ended t'_live).2
    · refine advance.rest last (holds.rest fun v member v_live => ?_)
      obtain ⟨j, at_j⟩ := List.getElem?_of_mem member
      by_cases same : j = i
      · subst same
        cases at_i.symm.trans at_j
        exact fun role => last role.symm
      · exact absent _ (List.mem_of_getElem? ((other same).trans at_j)) v_live

theorem at_append_singleton {threads : List (Thread σ ρ)} {new t : Thread σ ρ} {i : Nat}
    (at_i : (threads ++ [new])[i]? = some t) : threads[i]? = some t ∨ (i = threads.length ∧ t = new) := by
  rcases Nat.lt_trichotomy i threads.length with before | last | beyond
  · exact Or.inl (by rwa [List.getElem?_append_left before] at at_i)
  · subst last
    simp only [List.getElem?_concat_length, Option.some.injEq] at at_i
    exact Or.inr ⟨rfl, at_i.symm⟩
  · rw [List.getElem?_eq_none (by simp; omega)] at at_i
    cases at_i

theorem Holds.start {s : State σ ρ} {call : μ} (holds : o.Holds s) (ok : Ok call)
    (free : ∀ t ∈ s.threads, t.Live → sys.clash (sys.role call) t.role = false) :
    o.Holds { s with threads := s.threads ++ [⟨sys.role call, sys.code call, none⟩] } := by
  have alone : o.rest (sys.role call) s.shared := by
    cases exclusive : sys.clash (sys.role call) (sys.role call) with
    | false => exact o.shared_rest exclusive
    | true =>
      refine holds.rest fun t member live role => ?_
      have clashes := free t member live
      rw [role, exclusive] at clashes
      cases clashes
  have fresh : ∀ {j : Nat} {v : Thread σ ρ}, s.threads[j]? = some v → v.Live →
      sys.clash (sys.role call) v.role = false := fun at_j live => free _ (List.mem_of_getElem? at_j) live
  have older : ∀ t ∈ s.threads, t ∈ s.threads ++ [⟨sys.role call, sys.code call, none⟩] :=
    fun t member => List.mem_append_left _ member
  constructor
  · intro i j t v differ at_i at_j
    rcases at_append_singleton at_i with old_i | ⟨rfl, rfl⟩
    · rcases at_append_singleton at_j with old_j | ⟨_, rfl⟩
      · exact holds.apart differ old_i old_j
      · exact (compatible_none _).symm
    · exact compatible_none _
  · intro i j t v differ at_i at_j t_live v_live
    rcases at_append_singleton at_i with old_i | ⟨rfl, rfl⟩
    · rcases at_append_singleton at_j with old_j | ⟨_, rfl⟩
      · exact holds.roles differ old_i old_j t_live v_live
      · exact (sys.clash_comm _ _).trans (fresh old_i t_live)
    · rcases at_append_singleton at_j with old_j | ⟨rfl, _⟩
      · exact fresh old_j v_live
      · exact absurd rfl differ
  · intro i t at_i live
    rcases at_append_singleton at_i with old | ⟨_, rfl⟩
    · exact holds.pre old live
    · exact o.start ok alone
  · intro i t at_i finished
    rcases at_append_singleton at_i with old | ⟨_, rfl⟩
    · exact holds.ended old finished
    · rfl
  · exact fun quiet => holds.inv fun t member => quiet t (older t member)
  · exact fun absent => holds.rest fun t member live => absent t (older t member) live

theorem Holds.step {s t : State σ ρ} {action : Action μ} (holds : o.Holds s)
    (ok : ∀ call, action = .start call → Ok call) (run : sys.step s action = some t) : o.Holds t := by
  cases action with
  | start call =>
    simp only [System.step, Option.ite_none_right_eq_some, Option.some.injEq] at run
    obtain ⟨allowed, rfl⟩ := run
    refine holds.start (ok call rfl) fun t member live => ?_
    simpa [show t.code.isDone = false from live] using List.all_eq_true.mp allowed t member
  | run index =>
    simp only [System.step] at run
    split at run
    · rename_i thread at_index
      obtain ⟨⟨after, moved⟩, steps, rfl⟩ := Option.map_eq_some_iff.mp run
      have live : thread.Live := by
        cases code : thread.code with
        | done => simp [Thread.step, code] at steps
        | _ => simp [Thread.Live, code, Code.isDone]
      exact (holds.advance at_index steps).holds holds at_index live
    · cases run

variable (o)

/-- The outline is sound: in every run each thread finds what it relies on. -/
theorem reach_holds {initial : σ} (inv : o.inv initial) (rest : ∀ r, o.rest r initial)
    {trace : List (Action μ)} {s : State σ ρ} (reach : Reach sys.step ⟨initial, []⟩ trace s)
    (calls : ∀ call, .start call ∈ trace → Ok call) : o.Holds s := by
  have base : o.Holds ⟨initial, []⟩ := ⟨by simp, by simp, by simp, by simp, fun _ => inv, fun _ => rest _⟩
  refine reach.invariant_of_labels o.Holds base (fun ok holds run => holds.step ok run) ?_
  exact fun _ member call start => calls call (start ▸ member)

variable {o}

theorem Holds.not_faulty {s : State σ ρ} (holds : o.Holds s) : ¬s.Faulty := by
  rintro ⟨⟨r, _, h⟩, member, effect, next, rfl, fails⟩
  obtain ⟨i, at_i⟩ := List.getElem?_of_mem member
  obtain ⟨_, succeeds, _⟩ := o.act (holds.pre at_i rfl)
  cases fails.symm.trans succeeds

/-- A thread that holds the lock, or finds it free, can take its next step. -/
theorem Holds.can_step {s : State σ ρ} {i : Nat} {t : Thread σ ρ} (holds : o.Holds s)
    (at_i : s.threads[i]? = some t) (live : t.Live)
    (free : t.held ≠ none ∨ ∀ v ∈ s.threads, v.held = none) :
    ∃ after, sys.step s (.run i) = some after := by
  have pre := holds.pre at_i live
  obtain ⟨r, code, h⟩ := t
  have moves : ∃ moved, Thread.step s ⟨r, code, h⟩ = some moved := by
    cases code with
    | done => simp [Thread.Live, Code.isDone] at live
    | act effect next =>
      obtain ⟨after, effects, _⟩ := o.act pre
      exact ⟨(after, ⟨r, next, h⟩), by simp [Thread.step, effects]⟩
    | look next => exact ⟨_, rfl⟩
    | lock mode next =>
      rcases free with held | free
      · exact absurd (o.lock pre).1 held
      · exact ⟨(s.shared, ⟨r, next, some mode⟩), by simp [Thread.step, grants_of_free free mode]⟩
    | unlock next => exact ⟨_, rfl⟩
  obtain ⟨moved, steps⟩ := moves
  exact ⟨⟨moved.1, s.threads.set i moved.2⟩, by simp [System.step, at_i, steps]⟩

/-- No deadlock: while a call is under way, some thread can go on. -/
theorem Holds.progress {s : State σ ρ} (holds : o.Holds s) (busy : ∃ t ∈ s.threads, t.Live) :
    ∃ i after, sys.step s (.run i) = some after := by
  by_cases free : ∀ v ∈ s.threads, v.held = none
  · obtain ⟨t, member, live⟩ := busy
    obtain ⟨i, at_i⟩ := List.getElem?_of_mem member
    exact ⟨i, holds.can_step at_i live (Or.inr free)⟩
  · push Not at free
    obtain ⟨t, member, held⟩ := free
    obtain ⟨i, at_i⟩ := List.getElem?_of_mem member
    have live : t.Live := by
      by_contra finished
      exact held (holds.ended at_i finished)
    exact ⟨i, holds.can_step at_i live (Or.inl held)⟩

end Outline

/-- What can be left of a piece of code after its first step. -/
inductive Child : Code σ → Code σ → Prop
  | act (effect : σ → Option σ) (next : Code σ) : Child next (.act effect next)
  | look (next : σ → Code σ) (s : σ) : Child (next s) (.look next)
  | lock (mode : Mode) (next : Code σ) : Child next (.lock mode next)
  | unlock (next : Code σ) : Child next (.unlock next)

theorem child_wellFounded : WellFounded (Child (σ := σ)) := by
  refine ⟨fun code => ?_⟩
  induction code with
  | done => exact ⟨_, fun _ child => nomatch child⟩
  | act effect next ih => exact ⟨_, fun | _, .act _ _ => ih⟩
  | look next ih => exact ⟨_, fun | _, .look _ s => ih s⟩
  | lock mode next ih => exact ⟨_, fun | _, .lock _ _ => ih⟩
  | unlock next ih => exact ⟨_, fun | _, .unlock _ => ih⟩

theorem Thread.step_child {s : State σ ρ} {t t' : Thread σ ρ} {after : σ}
    (run : t.step s = some (after, t')) : Child t'.code t.code := by
  obtain ⟨r, code, h⟩ := t
  cases code with
  | done => simp [Thread.step] at run
  | act effect next =>
    obtain ⟨_, _, moved⟩ := Option.map_eq_some_iff.mp run
    cases moved
    exact .act effect next
  | look next => cases run; exact .look next s.shared
  | lock mode next =>
    simp only [Thread.step, Option.ite_none_right_eq_some, Option.some.injEq, Prod.mk.injEq] at run
    obtain ⟨_, _, rfl⟩ := run
    exact .lock mode next
  | unlock next => cases run; exact .unlock next

/-- Without new calls the threads stop: the codes form a multiset, of which a
step replaces one element by a smaller one. -/
theorem run_wellFounded (sys : System σ ρ μ) :
    WellFounded fun after before => ∃ i, sys.step before (.run i) = some after := by
  refine Subrelation.wf ?_ (InvImage.wf (fun s : State σ ρ => (s.threads.map Thread.code : Multiset (Code σ)))
    child_wellFounded.cutExpand)
  rintro after before ⟨i, run⟩
  simp only [System.step] at run
  split at run
  · rename_i t at_i
    obtain ⟨⟨shared, t'⟩, steps, rfl⟩ := Option.map_eq_some_iff.mp run
    obtain ⟨bound, value⟩ := List.getElem?_eq_some_iff.mp at_i
    have replaced : ((before.threads.set i t').map Thread.code : Multiset (Code σ)) =
        {t'.code} + ((before.threads.eraseIdx i).map Thread.code : Multiset (Code σ)) :=
      Multiset.coe_eq_coe.mpr ((List.set_perm_cons_eraseIdx bound t').map Thread.code)
    have original : (before.threads.map Thread.code : Multiset (Code σ)) =
        {t.code} + ((before.threads.eraseIdx i).map Thread.code : Multiset (Code σ)) :=
      Multiset.coe_eq_coe.mpr (value ▸ (List.getElem_cons_eraseIdx_perm bound).symm.map Thread.code)
    change Relation.CutExpand Child _ _
    simp only [replaced, original]
    exact Relation.cutExpand_single_add (Thread.step_child steps) _
  · cases run

end LockedThreads

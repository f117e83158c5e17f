import Mathlib.Data.List.Nodup
import Mathlib.Data.List.Perm.Basic

universe u v w

/-- Work for a pool of threads: what waits, the runs that have ended, and those whose end
was taken note of. `accepted` records what was queued. -/
structure WorkerPool (ω : Type u) (ρ : Type v) where
  waiting : List ω := []
  executed : List ρ := []
  accepted : List ω := []
  completed : List ρ := []

namespace WorkerPool
variable {ω : Type u} {ρ : Type v} {κ : Type w}

def runs (p : WorkerPool ω ρ) : List ρ := p.executed ++ p.completed

def queue (p : WorkerPool ω ρ) (work : ω) : WorkerPool ω ρ :=
  { p with waiting := p.waiting ++ [work], accepted := p.accepted ++ [work] }

/-- Threads take the work in any order. -/
def take (p : WorkerPool ω ρ) (index : Nat) : Option (ω × WorkerPool ω ρ) :=
  p.waiting[index]?.map fun work => (work, { p with waiting := p.waiting.eraseIdx index })

def finish (p : WorkerPool ω ρ) (run : ρ) : WorkerPool ω ρ := { p with executed := p.executed ++ [run] }

def complete (p : WorkerPool ω ρ) (index : Nat) : Option (ρ × WorkerPool ω ρ) :=
  p.executed[index]?.map fun run =>
    (run, { p with executed := p.executed.eraseIdx index, completed := p.completed ++ [run] })

variable (worker : ρ → ω)

/-- The work that has not been taken note of. -/
def pending (p : WorkerPool ω ρ) : List ω := p.waiting ++ p.executed.map worker

/-- All work is in one place. -/
def Placed (p : WorkerPool ω ρ) : Prop := p.accepted.Perm (p.waiting ++ p.runs.map worker)

variable {worker} {p q : WorkerPool ω ρ} {index : Nat} {work : ω} {run : ρ}

theorem Placed.queue (placed : p.Placed worker) (work : ω) : (p.queue work).Placed worker := by
  refine (placed.append_right [work]).trans ?_
  simp only [WorkerPool.queue, runs, List.append_assoc]
  exact List.perm_append_comm.append_left _

/-- What the run of some work changes. -/
theorem take_spec (step : p.take index = some (work, q)) :
    p.waiting[index]? = some work ∧ p.waiting.Perm (work :: q.waiting) ∧
      q.executed = p.executed ∧ q.accepted = p.accepted ∧ q.completed = p.completed := by
  obtain ⟨found, there, same⟩ := Option.map_eq_some_iff.mp step
  cases same
  obtain ⟨bound, rfl⟩ := List.getElem?_eq_some_iff.mp there
  exact ⟨there, (List.getElem_cons_eraseIdx_perm bound).symm, rfl, rfl, rfl⟩

theorem take_mem (step : p.take index = some (work, q)) : work ∈ p.waiting :=
  List.mem_of_getElem? (take_spec step).1

theorem finish_runs (step : p.take index = some (work, q)) (run : ρ) : (q.finish run).runs.Perm (run :: p.runs) := by
  obtain ⟨_, _, executed, _, completed⟩ := take_spec step
  simp only [finish, runs, executed, completed, List.append_assoc]
  exact List.perm_middle

theorem finish_pending (step : p.take index = some (work, q)) (own : worker run = work) :
    ((q.finish run).pending worker).Perm (p.pending worker) := by
  obtain ⟨_, taken, executed, _⟩ := take_spec step
  simp only [finish, pending, executed, List.map_append, List.map_singleton, own, ← List.append_assoc]
  exact (List.perm_append_singleton ..).trans (taken.symm.append_right _)

theorem Placed.finish (placed : p.Placed worker) (step : p.take index = some (work, q)) (own : worker run = work) :
    (q.finish run).Placed worker := by
  obtain ⟨_, taken, _, accepted, _⟩ := take_spec step
  have ran : ((q.finish run).runs.map worker).Perm (work :: p.runs.map worker) := by
    rw [← own]
    exact (finish_runs step run).map worker
  have moved : (p.waiting ++ p.runs.map worker).Perm (q.waiting ++ (q.finish run).runs.map worker) := by
    refine (taken.append_right _).trans ?_
    rw [List.cons_append]
    exact List.perm_middle.symm.trans (ran.symm.append_left _)
  refine List.Perm.trans ?_ moved
  exact (List.Perm.of_eq accepted).trans placed

/-- What taking note of a run changes. -/
theorem complete_spec (step : p.complete index = some (run, q)) :
    p.executed[index]? = some run ∧ p.executed.Perm (run :: q.executed) ∧ q.waiting = p.waiting ∧
      q.accepted = p.accepted ∧ q.completed = p.completed ++ [run] := by
  obtain ⟨done, there, same⟩ := Option.map_eq_some_iff.mp step
  cases same
  obtain ⟨bound, rfl⟩ := List.getElem?_eq_some_iff.mp there
  exact ⟨there, (List.getElem_cons_eraseIdx_perm bound).symm, rfl, rfl, rfl⟩

theorem complete_runs (step : p.complete index = some (run, q)) : q.runs.Perm p.runs := by
  obtain ⟨_, taken, _, _, completed⟩ := complete_spec step
  rw [runs, completed, ← List.append_assoc]
  exact (List.perm_append_singleton ..).trans (taken.symm.append_right _)

theorem complete_pending (step : p.complete index = some (run, q)) :
    (p.pending worker).Perm (worker run :: q.pending worker) := by
  obtain ⟨_, taken, waiting, _⟩ := complete_spec step
  rw [pending, pending, waiting]
  exact ((taken.map worker).append_left _).trans List.perm_middle

theorem Placed.complete (placed : p.Placed worker) (step : p.complete index = some (run, q)) :
    q.Placed worker := by
  obtain ⟨_, _, waiting, accepted, _⟩ := complete_spec step
  rw [Placed, accepted, waiting]
  exact placed.trans (((complete_runs step).symm.map worker).append_left _)

/-- Names that are given once are given once to what has not been taken note of. -/
theorem Placed.nodup (placed : p.Placed worker) {name : ω → κ} (distinct : (p.accepted.map name).Nodup) :
    ((p.pending worker).map name).Nodup ∧ ∀ work ∈ p.waiting, ∀ run ∈ p.runs, name (worker run) ≠ name work := by
  have apart := (placed.map name).nodup_iff.mp distinct
  rw [List.map_append, List.nodup_append] at apart
  obtain ⟨waiting, ran, disjoint⟩ := apart
  refine ⟨?_, fun work there run member same => disjoint _ (List.mem_map_of_mem there) _
    (List.mem_map_of_mem (List.mem_map_of_mem member)) same.symm⟩
  rw [pending, List.map_append, List.nodup_append]
  simp only [runs, List.map_append, List.nodup_append, List.mem_append] at ran disjoint
  exact ⟨waiting, ran.1, fun a there b member => disjoint a there b (Or.inl member)⟩

end WorkerPool

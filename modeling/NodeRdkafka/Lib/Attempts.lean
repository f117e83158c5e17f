import Mathlib.Data.List.Basic

namespace Attempts
universe u v
variable {α : Type u} {ε : Type v}

/-- What becomes of one attempt: the item is through, the same item is tried
again, or the whole transfer is given up. -/
inductive Outcome (ε : Type v)
  | through
  | again
  | failure (e : ε)

inductive Status (α : Type u) (ε : Type v)
  | left (items : List α)
  | failed (e : ε)

def Status.Ended : Status α ε → Prop
  | .left items => items = []
  | .failed _ => True

/-- The result a transfer reports at its end. -/
def Status.result : Status α ε → Option ε
  | .left _ => none
  | .failed e => some e

/-- An in-order transfer of `items` whose k-th attempt has the k-th outcome:
the attempts made so far, the items that are through, and what is left. -/
inductive Run (outcome : Nat → Outcome ε) (items : List α) :
    List α → List α → Status α ε → Prop
  | start : Run outcome items [] [] (.left items)
  | through {log sent item rest} : Run outcome items log sent (.left (item :: rest)) →
      outcome log.length = .through → Run outcome items (log ++ [item]) (sent ++ [item]) (.left rest)
  | again {log sent item rest} : Run outcome items log sent (.left (item :: rest)) →
      outcome log.length = .again →
      Run outcome items (log ++ [item]) sent (.left (item :: rest))
  | failed {log sent item rest e} : Run outcome items log sent (.left (item :: rest)) →
      outcome log.length = .failure e → Run outcome items (log ++ [item]) sent (.failed e)

variable {outcome : Nat → Outcome ε} {items : List α}

/-- The items that are through are a front part of the list, and all of it
exactly when the transfer ends without a failure. -/
theorem Run.conserved {log sent : List α} {status : Status α ε}
    (run : Run outcome items log sent status) :
    (∀ rest, status = .left rest → sent ++ rest = items) ∧
      (∀ e, status = .failed e → ∃ item rest, sent ++ item :: rest = items) := by
  induction run with
  | start => exact ⟨fun rest same => by cases same; rfl, fun e same => by cases same⟩
  | through _ _ ih =>
    refine ⟨fun rest same => ?_, fun e same => by cases same⟩
    cases same
    simpa using ih.1 _ rfl
  | again _ _ ih =>
    refine ⟨fun rest same => ?_, fun e same => by cases same⟩
    cases same
    exact ih.1 _ rfl
  | failed _ _ ih =>
    refine ⟨fun rest same => (by cases same), fun e same => ⟨_, _, ih.1 _ rfl⟩⟩

/-- Only items of the list are attempted. -/
theorem Run.log_subset {log sent : List α} {status : Status α ε}
    (run : Run outcome items log sent status) : log ⊆ items := by
  induction run with
  | start => exact List.nil_subset _
  | @through _ sent item rest before _ ih | @again _ sent item rest before _ ih
  | @failed _ sent item rest _ before _ ih =>
    have whole : sent ++ item :: rest = items := before.conserved.1 _ rfl
    intro x member
    rcases List.mem_append.mp member with old | new
    · exact ih old
    · rw [← whole, List.mem_singleton.mp new]
      simp

theorem Run.sent_prefix {log sent : List α} {status : Status α ε}
    (run : Run outcome items log sent status) : sent <+: items := by
  cases status with
  | left rest => exact ⟨rest, run.conserved.1 rest rfl⟩
  | failed e =>
    obtain ⟨item, rest, whole⟩ := run.conserved.2 e rfl
    exact ⟨item :: rest, whole⟩

theorem Run.complete_iff {log sent : List α} {status : Status α ε}
    (run : Run outcome items log sent status) (ended : status.Ended) :
    status.result = none ↔ sent = items := by
  cases status with
  | left rest =>
    cases (show rest = [] from ended)
    simpa [Status.result] using run.conserved.1 [] rfl
  | failed e =>
    obtain ⟨item, rest, whole⟩ := run.conserved.2 e rfl
    simp only [Status.result, reduceCtorEq, false_iff]
    intro same
    have sizes := congrArg List.length whole
    simp only [List.length_append, List.length_cons, same] at sizes
    omega

/-- The items that are through are those of the attempts that got through. -/
theorem Run.sent_eq {log sent : List α} {status : Status α ε} (success : Nat → Bool)
    (succeeds : ∀ k, success k = true ↔ outcome k = .through)
    (run : Run outcome items log sent status) :
    sent = (log.zipIdx.filter fun attempt => success attempt.2).map Prod.fst := by
  induction run with
  | start => rfl
  | @through log _ _ _ _ through ih =>
    have success := (succeeds log.length).mpr through
    simp [List.zipIdx_append, ih, success]
  | @again log _ _ _ _ again ih =>
    have success : success log.length = false := by
      simpa [again] using (succeeds log.length).not
    simp [List.zipIdx_append, ih, success]
  | @failed log _ _ _ _ _ failure ih =>
    have success : success log.length = false := by
      simpa [failure] using (succeeds log.length).not
    simp [List.zipIdx_append, ih, success]

/-- A failure is the outcome of the last attempt and of no earlier one. -/
theorem Run.first_failure {log sent : List α} {status : Status α ε}
    (run : Run outcome items log sent status) :
    (∀ rest, status = .left rest → ∀ k < log.length, ∀ e, outcome k ≠ .failure e) ∧
      (∀ e, status = .failed e → ∃ k, log.length = k + 1 ∧ outcome k = .failure e ∧
        ∀ j < k, ∀ e', outcome j ≠ .failure e') := by
  induction run with
  | start => exact ⟨fun _ _ k before => absurd before (by simp), fun e same => by cases same⟩
  | @through log _ _ _ _ through ih =>
    refine ⟨fun _ _ k before e => ?_, fun e same => by cases same⟩
    rcases Nat.lt_succ_iff_lt_or_eq.mp (by simpa using before) with earlier | rfl
    · exact ih.1 _ rfl k earlier e
    · simp [through]
  | @again log _ _ _ _ again ih =>
    refine ⟨fun _ _ k before e => ?_, fun e same => by cases same⟩
    rcases Nat.lt_succ_iff_lt_or_eq.mp (by simpa using before) with earlier | rfl
    · exact ih.1 _ rfl k earlier e
    · simp [again]
  | @failed log _ _ _ e _ failure ih =>
    refine ⟨fun _ same => (by cases same), fun e' same => ?_⟩
    cases same
    exact ⟨log.length, by simp, failure, ih.1 _ rfl⟩

theorem Run.deterministic {log sent log' sent' : List α} {status status' : Status α ε}
    (run : Run outcome items log sent status) (other : Run outcome items log' sent' status')
    (same : log.length = log'.length) : log = log' ∧ sent = sent' ∧ status = status' := by
  induction run generalizing log' sent' status' with
  | start =>
    cases other with
    | start => exact ⟨rfl, rfl, rfl⟩
    | through | again | failed => simp at same
  | through _ this ih =>
    cases other with
    | start => simp at same
    | through run' that | again run' that | failed run' that =>
      obtain ⟨rfl, rfl, rest⟩ := ih run' (by simpa using same)
      cases rest
      first
        | exact ⟨rfl, rfl, rfl⟩
        | simp [this] at that
  | again _ this ih =>
    cases other with
    | start => simp at same
    | through run' that | again run' that | failed run' that =>
      obtain ⟨rfl, rfl, rest⟩ := ih run' (by simpa using same)
      cases rest
      first
        | exact ⟨rfl, rfl, rfl⟩
        | simp [this] at that
  | failed _ this ih =>
    cases other with
    | start => simp at same
    | through run' that | again run' that =>
      obtain ⟨rfl, rfl, rest⟩ := ih run' (by simpa using same)
      cases rest
      simp [this] at that
    | failed run' that =>
      obtain ⟨rfl, rfl, rest⟩ := ih run' (by simpa using same)
      cases rest
      cases this.symm.trans that
      exact ⟨rfl, rfl, rfl⟩

/-- No run goes on past the end of another. -/
theorem Run.ended_longest {log sent log' sent' : List α} {status status' : Status α ε}
    (run : Run outcome items log sent status) (ended : status.Ended)
    (other : Run outcome items log' sent' status') : log'.length ≤ log.length := by
  induction other with
  | start => simp
  | @through log' _ _ _ before _ ih | @again log' _ _ _ before _ ih | @failed log' _ _ _ _ before _ ih =>
    have different : log.length ≠ log'.length := by
      intro same
      obtain ⟨_, _, rfl⟩ := run.deterministic before same
      simp [Status.Ended] at ended
    simp only [List.length_append, List.length_singleton]
    omega

theorem Run.ended_unique {log sent log' sent' : List α} {status status' : Status α ε}
    (run : Run outcome items log sent status) (ended : status.Ended)
    (other : Run outcome items log' sent' status') (ended' : status'.Ended) :
    log = log' ∧ sent = sent' ∧ status = status' :=
  run.deterministic other
    (Nat.le_antisymm (other.ended_longest ended' run) (run.ended_longest ended other))

end Attempts

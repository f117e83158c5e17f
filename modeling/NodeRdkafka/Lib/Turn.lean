import Mathlib.Order.Defs.Unbundled

namespace Turn
universe u
variable {ε σ α β : Type u}

/-- The state in which a synchronous stretch of code stops, whether it returns
or throws. -/
def final : EStateM.Result ε σ α → σ
  | .ok _ s => s
  | .error _ s => s

def thrown : EStateM.Result ε σ α → Option ε
  | .ok _ _ => none
  | .error e _ => some e

@[simp] theorem final_ok (a : α) (s : σ) : final (.ok a s : EStateM.Result ε σ α) = s := rfl
@[simp] theorem final_error (e : ε) (s : σ) : final (.error e s : EStateM.Result ε σ α) = s := rfl
@[simp] theorem thrown_ok (a : α) (s : σ) : thrown (.ok a s : EStateM.Result ε σ α) = none := rfl
@[simp] theorem thrown_error (e : ε) (s : σ) :
    thrown (.error e s : EStateM.Result ε σ α) = some e := rfl

/-- The state is not backtracked, so restoring changes nothing. -/
@[simp] theorem restore_eq (s : σ) (saved : PUnit) : EStateM.Backtrackable.restore s saved = s := rfl

/-- A handler sees the state in which the body threw: nothing is rolled back. -/
@[simp] theorem run_tryCatch (body : EStateM ε σ α) (handler : ε → EStateM ε σ α) (s : σ) :
    (tryCatch body handler).run s = match body.run s with
      | .ok a t => .ok a t
      | .error e t => (handler e).run t := by
  change (EStateM.tryCatch body handler) s = _
  unfold EStateM.tryCatch EStateM.run
  cases body s <;> rfl

/-- Code in sequence: the second part runs from where the first returned. -/
theorem run_seq (first : EStateM ε σ PUnit) (next : EStateM ε σ α) (s : σ) :
    (thrown (first.run s) = none →
      (first >>= fun _ => next).run s = next.run (final (first.run s))) ∧
    ((thrown (first.run s)).isSome →
      final ((first >>= fun _ => next).run s) = final (first.run s) ∧
        (thrown ((first >>= fun _ => next).run s)).isSome) := by
  rw [EStateM.run_bind]
  cases first.run s <;> simp

/-- Every stretch of the code moves the state along `R`. -/
def Respects (R : σ → σ → Prop) (code : EStateM ε σ α) : Prop := ∀ s, R s (final (code.run s))

section Rules
variable {R : σ → σ → Prop}

theorem Respects.modify {f : σ → σ} (moves : ∀ s, R s (f s)) :
    Respects R (modify f : EStateM ε σ PUnit) := fun s => moves s

/-- Code that first looks at the state may use what it sees. -/
theorem Respects.get {next : σ → EStateM ε σ β} (rest : ∀ s, R s (final ((next s).run s))) :
    Respects R (get >>= next) := rest

variable [IsPreorder σ R]

theorem Respects.pure (a : α) : Respects R (pure a : EStateM ε σ α) := fun s => refl_of R s

theorem Respects.throw (e : ε) : Respects R (throw e : EStateM ε σ α) := fun s => refl_of R s

theorem Respects.bind {first : EStateM ε σ α} {next : α → EStateM ε σ β} (left : Respects R first)
    (right : ∀ a, Respects R (next a)) : Respects R (first >>= next) := by
  intro s
  have moved := left s
  rw [EStateM.run_bind]
  cases run : first.run s with
  | ok a t =>
    rw [run] at moved
    exact trans_of R moved (right a t)
  | error e t => simpa [run] using moved

/-- What the first part leaves the second one goes on from, if it gets to run. -/
theorem Respects.after {next : EStateM ε σ β} (right : Respects R next) (first : EStateM ε σ α) (s : σ) :
    R (final (first.run s)) (final ((first >>= fun _ => next).run s)) := by
  rw [EStateM.run_bind]
  cases first.run s with
  | ok a t => exact right t
  | error e t => exact refl_of R t

theorem Respects.tryCatch {body : EStateM ε σ α} {handler : ε → EStateM ε σ α}
    (left : Respects R body) (right : ∀ e, Respects R (handler e)) :
    Respects R (tryCatch body handler) := by
  intro s
  have moved := left s
  rw [run_tryCatch]
  cases run : body.run s with
  | ok a t => simpa [run] using moved
  | error e t =>
    rw [run] at moved
    exact trans_of R moved (right e t)

end Rules
end Turn

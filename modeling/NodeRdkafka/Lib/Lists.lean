import Mathlib.Data.List.Forall2
import Mathlib.Data.List.Perm.Basic
import Mathlib.Data.List.ReduceOption

namespace Lists
variable {α β : Type}

/-- What taking one item out of a list of options takes from its values. -/
theorem reduceOption_eraseIdx [BEq α] {items : List (Option α)} {index : Nat} {item : Option α}
    (found : items[index]? = some item) (x : α) :
    items.reduceOption.count x = item.toList.count x + (items.eraseIdx index).reduceOption.count x := by
  obtain ⟨bound, rfl⟩ := List.getElem?_eq_some_iff.mp found
  have taken : items.reduceOption.Perm (items[index] :: items.eraseIdx index).reduceOption :=
    (List.getElem_cons_eraseIdx_perm bound).symm.filterMap id
  rw [taken.count_eq]
  cases items[index] with
  | none => simp
  | some value => simp [List.count_cons, Nat.add_comm]

theorem length_eraseIdx_of_some {items : List α} {index : Nat} {item : α} (found : items[index]? = some item) :
    (items.eraseIdx index).length + 1 = items.length := by
  obtain ⟨bound, -⟩ := List.getElem?_eq_some_iff.mp found
  rw [List.length_eraseIdx_of_lt bound]
  omega

/-- The first item with a property splits the list. -/
theorem findIdx?_split {p : α → Bool} {items : List α} {index : Nat} (found : items.findIdx? p = some index) :
    ∃ before item after, items = before ++ item :: after ∧ before.length = index ∧ p item = true ∧
      ∀ other ∈ before, ¬ p other = true := by
  obtain ⟨bound, holds, earlier⟩ := List.findIdx?_eq_some_iff_getElem.mp found
  refine ⟨items.take index, items[index], items.drop (index + 1), ?_,
    List.length_take_of_le (Nat.le_of_lt bound), holds, ?_⟩
  · rw [← List.drop_eq_getElem_cons bound, List.take_append_drop]
  · intro other member
    obtain ⟨i, short, rfl⟩ := List.getElem_of_mem member
    rw [List.getElem_take]
    exact earlier i (Nat.lt_of_lt_of_le short (List.length_take_le _ _))

/-- What a partial function makes of a list stands to it item by item if and
only if the function skips no item. -/
theorem forall₂_filterMap_iff {R : α → β → Prop} {f : α → Option β} {items : List α} :
    List.Forall₂ R items (items.filterMap f) ↔ ∀ item ∈ items, ∃ value, f item = some value ∧ R item value := by
  constructor
  · intro related
    induction items with
    | nil => simp
    | cons item rest ih =>
      cases image : f item with
      | none =>
        have short : (rest.filterMap f).length ≤ rest.length := List.length_filterMap_le ..
        have long := related.length_eq
        simp only [List.filterMap_cons, image, List.length_cons] at long
        omega
      | some value =>
        simp only [List.filterMap_cons, image, List.forall₂_cons] at related
        rintro other (_ | later)
        · exact ⟨value, image, related.1⟩
        · rename_i member
          exact ih related.2 other member
  · intro kept
    induction items with
    | nil => exact .nil
    | cons item rest ih =>
      obtain ⟨value, image, first⟩ := kept item List.mem_cons_self
      rw [List.filterMap_cons_some image]
      exact .cons first (ih fun other member => kept other (List.mem_cons_of_mem _ member))

theorem exists_related {R : α → β → Prop} {items : List α} {values : List β}
    (related : List.Forall₂ R items values) : ∀ item ∈ items, ∃ value, R item value := by
  induction related with
  | nil => simp
  | cons first _ ih =>
    rintro item (_ | later)
    · exact ⟨_, first⟩
    · rename_i member
      exact ih item member

section MapM
variable {ε : Type} {f : α → Except ε β} {items : List α}

theorem mapM_ok {values : List β} (run : items.mapM f = .ok values) :
    List.Forall₂ (fun item value => f item = .ok value) items values := by
  induction items generalizing values with
  | nil =>
    cases run
    exact .nil
  | cons item rest ih =>
    rw [List.mapM_cons] at run
    cases first : f item with
    | error e =>
      rw [first] at run
      cases run
    | ok value =>
      rw [first] at run
      cases later : rest.mapM f with
      | error e =>
        rw [later] at run
        cases run
      | ok others =>
        rw [later] at run
        cases run
        exact .cons first (ih later)

theorem mapM_error {e : ε} (run : items.mapM f = .error e) : ∃ item ∈ items, f item = .error e := by
  induction items with
  | nil => cases run
  | cons item rest ih =>
    rw [List.mapM_cons] at run
    cases first : f item with
    | error other =>
      rw [first] at run
      cases run
      exact ⟨item, List.mem_cons_self, first⟩
    | ok value =>
      rw [first] at run
      cases later : rest.mapM f with
      | error other =>
        rw [later] at run
        cases run
        obtain ⟨failed, member, error⟩ := ih later
        exact ⟨failed, List.mem_cons_of_mem _ member, error⟩
      | ok others =>
        rw [later] at run
        cases run

end MapM

/-- A fold that may fail fails at the first item that it takes no further. -/
theorem foldlM_error_iff {ε σ : Type} {f : σ → α → Except ε σ} {s : σ} {items : List α} {e : ε} :
    items.foldlM f s = .error e ↔ ∃ before item after t, items = before ++ item :: after ∧
      before.foldlM f s = .ok t ∧ f t item = .error e := by
  constructor
  · intro failed
    induction items generalizing s with
    | nil => cases failed
    | cons item rest ih =>
      rw [List.foldlM_cons] at failed
      cases first : f s item with
      | error found =>
        rw [first] at failed
        cases failed
        exact ⟨[], item, rest, s, rfl, rfl, first⟩
      | ok next =>
        rw [first] at failed
        obtain ⟨before, refused, after, t, split, run, last⟩ := ih failed
        refine ⟨item :: before, refused, after, t, by rw [split, List.cons_append], ?_, last⟩
        rw [List.foldlM_cons, first]
        exact run
  · rintro ⟨before, item, after, t, rfl, run, last⟩
    rw [List.foldlM_append, run]
    simp only [bind, Except.bind, List.foldlM_cons, last]

end Lists

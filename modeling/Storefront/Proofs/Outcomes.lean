import Mathlib.Data.List.Forall2

/-!
Outcomes of steps that can fail. A run of several steps succeeds when each step does, and fails in
the first step that does not; a run over a list gives one value for each item.
-/

namespace Storefront

variable {ε α β : Type}

/-- What succeeds in two steps succeeds in each. -/
theorem exists_of_bind {first : Except ε α} {next : α → Except ε β} {value : β}
    (run : first >>= next = .ok value) : ∃ found, first = .ok found ∧ next found = .ok value := by
  cases first with
  | error => cases run
  | ok found => exact ⟨found, rfl, run⟩

/-- What fails in two steps fails in the first, or in the second after the first. -/
theorem error_of_bind {first : Except ε α} {next : α → Except ε β} {error : ε}
    (fails : first >>= next = .error error) :
    first = .error error ∨ ∃ found, first = .ok found ∧ next found = .error error := by
  cases first with
  | error fault => exact .inl (congrArg Except.error (Except.error.inj fails))
  | ok found => exact .inr ⟨found, rfl, fails⟩

/-- A run over a list succeeds when it does for every item, with the value of each at its place. -/
theorem mapM_eq_ok_iff {read : α → Except ε β} {items : List α} {values : List β} :
    items.mapM read = .ok values ↔
      List.Forall₂ (fun item value => read item = .ok value) items values := by
  induction items generalizing values with
  | nil =>
    rw [List.mapM_nil, List.forall₂_nil_left_iff]
    exact ⟨fun same => (Except.ok.inj same).symm, fun none => congrArg Except.ok none.symm⟩
  | cons item rest inductionHypothesis =>
    rw [List.mapM_cons, List.forall₂_cons_left_iff]
    constructor
    · intro run
      obtain ⟨value, first, run⟩ := exists_of_bind run
      obtain ⟨others, later, whole⟩ := exists_of_bind run
      exact ⟨value, others, first, inductionHypothesis.mp later, (Except.ok.inj whole).symm⟩
    · rintro ⟨value, others, first, later, rfl⟩
      rw [first, inductionHypothesis.mpr later]
      rfl

end Storefront

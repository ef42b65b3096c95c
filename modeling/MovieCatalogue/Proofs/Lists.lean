import Mathlib.Data.List.Forall2
import Mathlib.Tactic.Tauto

/-!
Contract: laws of lists.

Owns: how a list is cut where an item is found, removed or replaced; which items are left when
repetitions are erased; and how many items of a kind related lists have.
Does not own: what the items are.
-/

namespace MovieCatalogue

variable {α β : Type}

/-! ## One item -/

/-- The first item that is searched for stands behind items that are not. -/
theorem findIdx?_eq_some_iff_split {p : α → Bool} {items : List α} {place : Nat} :
    items.findIdx? p = some place ↔
      ∃ before found others, items = before ++ found :: others ∧ before.length = place ∧
        p found = true ∧ ∀ item ∈ before, p item = false := by
  constructor
  · intro found
    obtain ⟨inside, holds, first⟩ := List.findIdx?_eq_some_iff_getElem.mp found
    refine ⟨items.take place, items[place], items.drop (place + 1), ?_, ?_, holds, ?_⟩
    · rw [← List.drop_eq_getElem_cons inside, List.take_append_drop]
    · exact List.length_take_of_le (Nat.le_of_lt inside)
    · intro item member
      obtain ⟨i, below, rfl⟩ := List.mem_take_iff_getElem.mp member
      simpa using first i (by omega)
  · rintro ⟨before, found, others, rfl, rfl, holds, first⟩
    have skipped : before.findIdx? p = none := List.findIdx?_eq_none_iff.mpr first
    simp [List.findIdx?_append, skipped, List.findIdx?_cons, holds]

theorem eraseIdx_length (before : List α) (old : α) (others : List α) :
    (before ++ old :: others).eraseIdx before.length = before ++ others := by
  rw [List.eraseIdx_append_of_length_le (Nat.le_refl _), Nat.sub_self, List.eraseIdx_cons_zero]

theorem modify_length (before : List α) (old : α) (others : List α) (f : α → α) :
    (before ++ old :: others).modify before.length f = before ++ f old :: others := by
  induction before with
  | nil => simp
  | cons head before inductionHypothesis => simp [inductionHypothesis]

/-! ## Repetitions -/

private theorem mem_eraseRepsLoop [BEq α] [LawfulBEq α] {x kept : α} {items passed : List α} :
    x ∈ List.eraseRepsBy.loop (· == ·) kept items passed ↔ x = kept ∨ x ∈ items ∨ x ∈ passed := by
  induction items generalizing kept passed with
  | nil => simp [List.eraseRepsBy.loop, or_comm]
  | cons item items inductionHypothesis =>
      rw [List.eraseRepsBy.loop]
      split
      case h_1 same =>
          rw [inductionHypothesis, beq_iff_eq.mp same, List.mem_cons]
          tauto
      case h_2 =>
          rw [inductionHypothesis, List.mem_cons, List.mem_cons]
          tauto

/-- Only repetitions are erased. -/
theorem mem_eraseReps [BEq α] [LawfulBEq α] {x : α} {items : List α} :
    x ∈ items.eraseReps ↔ x ∈ items := by
  cases items with
  | nil => rfl
  | cons item items =>
      rw [List.eraseReps, List.eraseRepsBy, mem_eraseRepsLoop, List.mem_cons]
      simp

/-! ## Related lists -/

/-- Related lists have equally many items of a kind that related items share. -/
theorem countP_eq_of_forall₂ {R : α → β → Prop} {p : α → Bool} {q : β → Bool}
    {items : List α} {others : List β} (related : List.Forall₂ R items others)
    (shared : ∀ item other, R item other → p item = q other) :
    items.countP p = others.countP q := by
  induction related with
  | nil => rfl
  | cons first _ inductionHypothesis =>
      rw [List.countP_cons, List.countP_cons, inductionHypothesis, shared _ _ first]

end MovieCatalogue

import Mathlib.Data.List.Basic
import MovieCatalogue.Text.Cut

/-!
Contract: the order of texts.

Owns: that texts compare like the lists of their code points, and with it the laws of
the order: it turns around, only equal texts stand at the same place, and it is
transitive and total.
Does not own: what is sorted by it.
-/

namespace MovieCatalogue.Text

theorem compareChars_eq_compare (first second : List Char) :
    compareChars first second = compare (first.map Char.toNat) (second.map Char.toNat) := by
  fun_induction compareChars first second with
  | case1 => rfl
  | case2 => rfl
  | case3 => rfl
  | case4 a as b bs inductionHypothesis =>
      rw [List.map_cons, List.map_cons, List.compare_cons_cons, inductionHypothesis]

theorem compareChars_eq_lt_iff {first second : List Char} :
    compareChars first second = .lt ↔ first < second := by
  fun_induction compareChars first second with
  | case1 => simp
  | case2 => simp
  | case3 => simp
  | case4 a as b bs inductionHypothesis =>
      rw [Ordering.then_eq_lt, inductionHypothesis, List.cons_lt_cons_iff, Nat.compare_eq_lt,
        Nat.compare_eq_eq, Char.toNat_inj]
      rfl

/-- Texts are in the order of the lists of their characters. -/
theorem compareTexts_eq_lt_iff {a b : String} : compareTexts a b = .lt ↔ a < b :=
  compareChars_eq_lt_iff

theorem compareChars_swap (first second : List Char) :
    (compareChars first second).swap = compareChars second first := by
  rw [compareChars_eq_compare, compareChars_eq_compare]
  exact Std.OrientedCmp.eq_swap.symm

theorem compareTexts_swap (a b : String) : (compareTexts a b).swap = compareTexts b a :=
  compareChars_swap a.toList b.toList

theorem compareTexts_eq_iff {a b : String} : compareTexts a b = .eq ↔ a = b := by
  rw [compareTexts, compareChars_eq_compare, Std.LawfulEqCmp.compare_eq_iff_eq]
  constructor
  · intro sameCodes
    have injective : Function.Injective Char.toNat := fun c d same => Char.toNat_inj.mp same
    exact String.toList_inj.mp (injective.list_map sameCodes)
  · rintro rfl
    rfl

theorem leTexts_trans {a b c : String} (first : leTexts a b = true) (second : leTexts b c = true) :
    leTexts a c = true := by
  rw [leTexts, compareTexts, compareChars_eq_compare] at first second ⊢
  exact Std.TransCmp.isLE_trans first second

theorem leTexts_total (a b : String) : (leTexts a b || leTexts b a) = true := by
  rw [leTexts, leTexts, ← compareTexts_swap a b]
  cases compareTexts a b <;> rfl

end MovieCatalogue.Text

import MovieCatalogue.Proofs.Number.Whole
import MovieCatalogue.Proofs.Storage.StoredOrder

/-!
Contract: the comparison of values of any sorts, and of rows that hold them.

Owns: `Value.compareRounded`, the order in which each whole number stands where the floating-point
number stands to which it is rounded, a total preorder; that comparing refines it only between two
64-bit integers; `Value.Blurs`, the only values among which comparing is not transitive; and which
lists of rows can therefore be sorted by any terms.
Does not own: the order of the values that one column may hold; see `Proofs.Storage.StoredOrder`.

Two 64-bit integers are compared exactly, but each of them is rounded before it is compared with a
number of another sort, and integers of more than 53 bits are rounded to numbers that stand for
several of them. No other rounding takes place, so the two orders differ nowhere else.
-/

namespace MovieCatalogue.Storage.Value

open MovieCatalogue.Number MovieCatalogue.Selection

variable {a b c : Value}

/-! ## The order of rounded numbers -/

/-- The place of a truth value or of a rounded number among the values of its sort. -/
def measure : Value → Int
  | .bool b => b.toNat
  | .int32 n => (Binary64.ofInt n.toInt).rank
  | .int64 n => (Binary64.ofInt n.toInt).rank
  | .real x => x.rank
  | _ => 0

/-- The code points by which a text is compared with other texts. -/
def codes : Value → List Nat
  | .text s => s.toList.map Char.toNat
  | _ => []

/-- The comparison of values by their sorts, of numbers as if each were rounded. -/
def compareRounded : Value → Value → Ordering :=
  compareLex (compareOn sortRank) (compareLex (compareOn measure) (compareOn codes))

theorem compareRounded_trans : Std.TransCmp compareRounded :=
  inferInstanceAs (Std.TransCmp (compareLex _ (compareLex _ _)))

private theorem place_of_numeric {x : Binary64} (number : a.numeric? = some x) :
    a.sortRank = 2 ∧ a.measure = x.rank ∧ a.codes = [] := by
  cases a <;> cases number <;> exact ⟨rfl, rfl, rfl⟩

theorem compareRounded_of_numeric {x y : Binary64} (first : a.numeric? = some x)
    (second : b.numeric? = some y) : a.compareRounded b = x.compareTotal y := by
  obtain ⟨sortFirst, measureFirst, codesFirst⟩ := place_of_numeric first
  obtain ⟨sortSecond, measureSecond, codesSecond⟩ := place_of_numeric second
  simp [compareRounded, compareLex, compareOn, Binary64.compareTotal, *]

/-- Comparing rounds all numbers except two 64-bit integers. -/
theorem compare_eq_compareRounded_or (a b : Value) :
    a.compare b = a.compareRounded b ∨ ∃ m n, a = .int64 m ∧ b = .int64 n := by
  cases a with
  | null | array | document | foreign => cases b <;> exact .inl rfl
  | bool p =>
      cases b with
      | bool q => cases p <;> cases q <;> exact .inl rfl
      | _ => exact .inl rfl
  | int64 m =>
      cases b with
      | int64 n => exact .inr ⟨m, n, rfl, rfl⟩
      | int32 | real => exact .inl (compareRounded_of_numeric rfl rfl).symm
      | _ => exact .inl rfl
  | int32 | real =>
      cases b with
      | int32 | int64 | real => exact .inl (compareRounded_of_numeric rfl rfl).symm
      | _ => exact .inl rfl
  | text s =>
      cases b with
      | text t => exact .inl (Text.compareChars_eq_compare _ _)
      | _ => exact .inl rfl

/-- Comparing refines the order of rounded numbers. -/
theorem compareRounded_isLE (atMost : (a.compare b).isLE = true) :
    (a.compareRounded b).isLE = true := by
  rcases compare_eq_compareRounded_or a b with same | ⟨m, n, rfl, rfl⟩
  · rwa [← same]
  · rw [compareRounded_of_numeric rfl rfl, Binary64.compareTotal, Std.isLE_compare]
    rw [compare, Std.isLE_compare] at atMost
    exact Binary64.rank_ofInt_mono atMost

/-! ## Values that are not in order -/

/-- Two 64-bit integers with the same rounded number, the larger one first, and this number. -/
inductive Blurs : Value → Value → Value → Prop
  | intro {m n : Int64} (less : n.toInt < m.toInt)
      (same : Binary64.ofInt m.toInt = Binary64.ofInt n.toInt) :
      Blurs (.int64 m) (.real (.ofInt m.toInt)) (.int64 n)

/-- Values at one place of the rounded order are the same number, if one of them is a number. -/
private theorem numeric_of_tied {x : Binary64} (number : a.numeric? = some x)
    (tied : a.compareRounded b = .eq) : b.numeric? = some x := by
  have numbers {y : Binary64} (second : b.numeric? = some y) : b.numeric? = some x := by
    rw [compareRounded_of_numeric number second, Binary64.compareTotal, Int.compare_eq_eq] at tied
    rw [second, Binary64.rank_injective tied]
  cases b with
  | int32 | int64 | real => exact numbers rfl
  | _ =>
      have sorts : a.sortRank = _ := Nat.compare_eq_eq.mp (Ordering.then_eq_eq.mp tied).1
      rw [(place_of_numeric number).1] at sorts
      cases sorts

theorem compare_self (a : Value) : a.compare a = .eq := by
  have turned := compare_swap a a
  cases compared : a.compare a with
  | eq => rfl
  | lt | gt =>
      rw [compared] at turned
      cases turned

private theorem compare_ofInt {n : Int64} : (int64 n).compare (.real (.ofInt n.toInt)) = .eq :=
  Int.compare_eq_eq.mpr rfl

/-- Values whose comparison is not transitive are two integers and the number they are rounded to. -/
theorem isLE_isLE_gt_iff :
    ((a.compare b).isLE = true ∧ (b.compare c).isLE = true ∧ a.compare c = .gt) ↔ Blurs a b c := by
  constructor
  · rintro ⟨first, second, above⟩
    have rounded := compareRounded_trans
    have back : (c.compare a).isLE = true := by
      rw [← compare_swap, above]
      rfl
    have firstRounded := compareRounded_isLE first
    have secondRounded := compareRounded_isLE second
    have backRounded := compareRounded_isLE back
    -- The rounded order is transitive, so it leaves all three values tied.
    have tied : a.compareRounded c = .eq :=
      Std.OrientedCmp.isLE_antisymm (Std.TransCmp.isLE_trans firstRounded secondRounded) backRounded
    have tiedFirst : a.compareRounded b = .eq :=
      Std.OrientedCmp.isLE_antisymm firstRounded (Std.TransCmp.isLE_trans secondRounded backRounded)
    rcases compare_eq_compareRounded_or a c with same | ⟨m, n, rfl, rfl⟩
    · rw [same, tied] at above
      cases above
    have less : n.toInt < m.toInt := Int.compare_eq_gt.mp above
    have same : Binary64.ofInt m.toInt = Binary64.ofInt n.toInt :=
      (Option.some.inj (numeric_of_tied rfl tied)).symm
    have between : b.numeric? = some (.ofInt m.toInt) := numeric_of_tied rfl tiedFirst
    cases b with
    | int32 k =>
        -- A number of 32 bits is not rounded, so both integers would be this number.
        have small : k.toInt.natAbs < 2 ^ 53 := by
          have lower := k.le_toInt
          have upper := k.toInt_lt
          omega
        have rounded := Option.some.inj between
        have first := Binary64.eq_of_ofInt_eq_small small rounded.symm
        have second := Binary64.eq_of_ofInt_eq_small small (rounded.trans same).symm
        omega
    | int64 k =>
        rw [compare, Std.isLE_compare] at first second
        omega
    | real x =>
        cases between
        exact ⟨less, same⟩
    | _ => cases between
  · rintro ⟨less, same⟩
    refine ⟨by rw [compare_ofInt]; rfl, ?_, Int.compare_eq_gt.mpr less⟩
    rw [same, ← compare_swap, compare_ofInt]
    rfl

end MovieCatalogue.Storage.Value

namespace MovieCatalogue.Selection

open MovieCatalogue.Number MovieCatalogue.Storage

/-! ## Rows -/

/-- Comparing by the terms is a total preorder of the rows, so that they can be sorted by it. -/
def Sortable (order : List OrderTerm) (rows : List Row) : Prop :=
  Std.TransCmp fun a b : { row // row ∈ rows } => compareRows order a.val b.val

/-- Under no field do three of the rows have values that are not in order. -/
def Unblurred (rows : List Row) : Prop :=
  ∀ field, ∀ a ∈ rows, ∀ b ∈ rows, ∀ c ∈ rows,
    ¬ (valueAt a field).Blurs (valueAt b field) (valueAt c field)

variable {order : List OrderTerm} {rows : List Row}

theorem compareRows_self (order : List OrderTerm) (row : Row) : compareRows order row row = .eq := by
  induction order with
  | nil => rfl
  | cons term terms inductionHypothesis =>
      have self : term.compare row row = .eq := by
        unfold OrderTerm.compare
        rw [Value.compare_self]
        cases term.direction <;> rfl
      rw [compareRows, self, inductionHypothesis]
      rfl

/-- Comparing by one term orders the rows. -/
private theorem Unblurred.transCmp (unblurred : Unblurred rows) (term : OrderTerm) :
    Std.TransCmp fun a b : { row // row ∈ rows } => term.compare a.val b.val := by
  have ordered : Std.TransCmp fun a b : { row // row ∈ rows } =>
      (valueAt a.val term.field).compare (valueAt b.val term.field) :=
    { eq_swap := fun {_ _} => (Value.compare_swap _ _).symm
      isLE_trans := fun {a b c} first second => by
        rw [Ordering.isLE_iff_ne_gt]
        intro above
        exact unblurred term.field a a.property b b.property c c.property
          (Value.isLE_isLE_gt_iff.mp ⟨first, second, above⟩) }
  unfold OrderTerm.compare
  cases term.direction with
  | ascending => exact ordered
  | descending =>
      simp only [Value.compare_swap]
      exact ordered.opposite

theorem Unblurred.sortable (unblurred : Unblurred rows) (order : List OrderTerm) : Sortable order rows := by
  unfold Sortable
  induction order with
  | nil => exact { eq_swap := rfl, isLE_trans := fun _ _ => rfl }
  | cons term terms inductionHypothesis =>
      have byTerm := unblurred.transCmp term
      exact inferInstanceAs (Std.TransCmp (compareLex
        (fun a b : { row // row ∈ rows } => term.compare a.val b.val)
        fun a b => compareRows terms a.val b.val))

theorem unblurred_of_sortable (sortable : ∀ order, Sortable order rows) : Unblurred rows := by
  intro field a inRows b inRowsToo c inRowsAgain blurs
  obtain ⟨first, second, above⟩ := Value.isLE_isLE_gt_iff.mpr blurs
  have ordered : Std.TransCmp fun a b : { row // row ∈ rows } =>
      compareRows [⟨field, .ascending⟩] a.val b.val := sortable _
  have compared (a b : Row) : compareRows [⟨field, .ascending⟩] a b =
      (valueAt a field).compare (valueAt b field) := Ordering.then_eq
  simp only [compared] at ordered
  have atMost := ordered.isLE_trans (a := ⟨a, inRows⟩) (b := ⟨b, inRowsToo⟩) (c := ⟨c, inRowsAgain⟩)
    first second
  rw [above] at atMost
  cases atMost

/-- Rows in the form in which one table stores them are in order. -/
theorem unblurred_of_normalize {spec : Spec}
    (stored : ∀ row ∈ rows, ∃ given, normalize spec given = .ok row) : Unblurred rows := by
  intro field a inRows b inRowsToo c _ blurs
  obtain ⟨_, normal⟩ := stored a inRows
  obtain ⟨_, normalToo⟩ := stored b inRowsToo
  have known : (spec.column? field).isSome = true := by
    apply (normalize_eq_ok.mp (normalize_idempotent normal)).1
    by_contra absent
    rw [valueAt, Fields.get?_eq_none_iff.mpr absent] at blurs
    cases blurs
  obtain ⟨column, -, -, holds⟩ := exists_column_holds known
  have integer := holds normal
  have real := holds normalToo
  -- A column holds no integers if it holds other numbers.
  generalize valueAt a field = first at blurs integer
  generalize valueAt b field = second at blurs real
  generalize valueAt c field = third at blurs
  cases blurs
  obtain ⟨name, kind, nullable⟩ := column
  cases integer with
  | stored form =>
      cases form
      cases real with
      | stored form => cases form

/-- Comparing orders all values and rows, except where three values blur. Lists of rows can be sorted
by any terms exactly if no three of their values do, as is the case with the rows of one table. -/
theorem compare_orders_unless_blurred :
    (∀ a : Value, a.compare a = .eq) ∧
      (∀ a b : Value, b.compare a = (a.compare b).swap) ∧
      (∀ a b c : Value, ((a.compare b).isLE = true ∧ (b.compare c).isLE = true ∧
        a.compare c = .gt) ↔ a.Blurs b c) ∧
      (∀ order (row : Row), compareRows order row row = .eq) ∧
      (∀ order (a b : Row), compareRows order b a = (compareRows order a b).swap) ∧
      (∀ rows : List Row, (∀ order, Sortable order rows) ↔ Unblurred rows) ∧
      (∀ spec (rows : List Row), (∀ row ∈ rows, ∃ given, normalize spec given = .ok row) →
        ∀ order, Sortable order rows) :=
  ⟨Value.compare_self, fun a b => (Value.compare_swap a b).symm,
    fun _ _ _ => Value.isLE_isLE_gt_iff, compareRows_self,
    fun order a b => (compareRows_swap order a b).symm,
    fun _ => ⟨unblurred_of_sortable, Unblurred.sortable⟩,
    fun _ _ stored => (unblurred_of_normalize stored).sortable⟩

/-- The first integers that blur: the number to which both are rounded is tied with each of them. -/
theorem compare_not_transitive :
    ((Value.int64 9007199254740993).compare (.real (.ofInt 9007199254740992))).isLE = true ∧
      ((Value.real (.ofInt 9007199254740992)).compare (.int64 9007199254740992)).isLE = true ∧
      ¬ ((Value.int64 9007199254740993).compare (.int64 9007199254740992)).isLE = true := by
  decide

end MovieCatalogue.Selection

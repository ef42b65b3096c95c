import MovieCatalogue.Proofs.Number.ExactValue
import MovieCatalogue.Proofs.Storage.Change
import MovieCatalogue.Proofs.Storage.StorageForm

/-!
Contract: the order of stored rows.

Owns: `Value.Below`, the order of stored values: an absent value below all others, and
whole numbers, floating-point numbers, texts and truth values among themselves;
`Ahead` and `TiedOn`, the order of rows by a list of terms, in which a later term decides
only between rows that all earlier ones leave tied; their laws; and that comparing
decides this order on values that one column may hold.
Does not own: the rows that a query selects; see `Proofs.Storage.Answering`.
-/

namespace MovieCatalogue.Storage

open MovieCatalogue.Number

/-! ## Values -/

/-- The order of stored values. -/
inductive Value.Below : Value → Value → Prop
  | absent {value : Value} (present : value.isNull = false) : Below .null value
  | boolean : Below (.bool false) (.bool true)
  | integer {m n : Int64} (less : m < n) : Below (.int64 m) (.int64 n)
  | real {x y : Binary64} (less : x.rank < y.rank) : Below (.real x) (.real y)
  | text {s t : String} (less : s < t) : Below (.text s) (.text t)

namespace Value

theorem Below.irrefl (value : Value) : ¬ value.Below value := by
  intro below
  cases below with
  | absent present => cases present
  | integer less => exact Int64.lt_irrefl less
  | real less => exact Int.lt_irrefl _ less
  | text less => exact String.lt_irrefl _ less

theorem Below.isNull_right {a b : Value} (below : a.Below b) : b.isNull = false := by
  cases below with
  | absent present => exact present
  | _ => rfl

theorem Below.trans {a b c : Value} (first : a.Below b) (second : b.Below c) : a.Below c := by
  cases first with
  | absent present =>
      refine .absent ?_
      cases second with
      | absent _ => cases present
      | _ => rfl
  | boolean => cases second
  | integer less =>
      cases second with
      | integer lessAgain => exact .integer (Int64.lt_trans less lessAgain)
  | real less =>
      cases second with
      | real lessAgain => exact .real (Int.lt_trans less lessAgain)
  | text less =>
      cases second with
      | text lessAgain => exact .text (String.lt_trans less lessAgain)

variable {column : Column} {a b : Value}

private theorem compare_null_left (present : a.isNull = false) : null.compare a = .lt := by
  cases a with
  | null => cases present
  | _ => rfl

private theorem compare_null_right (present : a.isNull = false) : a.compare .null = .gt := by
  cases a with
  | null => cases present
  | _ => rfl

/-- Comparing values of one kind in storage form tells their order. -/
private theorem compare_of_stores {kind : Kind} (first : kind.Stores a) (second : kind.Stores b) :
    (a.compare b = .lt ↔ a.Below b) ∧ (a.compare b = .eq ↔ a = b) := by
  have texts (s t : String) : ((text s).compare (.text t) = .lt ↔ (text s).Below (.text t)) ∧
      ((text s).compare (.text t) = .eq ↔ text s = .text t) := by
    rw [compare, Text.compareTexts_eq_lt_iff, Text.compareTexts_eq_iff, text.injEq]
    exact ⟨⟨.text, fun below => by cases below with | text less => exact less⟩, .rfl⟩
  cases first with
  | integer n =>
      cases second with
      | integer m =>
          rw [compare, Int.compare_eq_lt, Int.compare_eq_eq, ← Int64.lt_iff_toInt_lt,
            Int64.toInt_inj, int64.injEq]
          exact ⟨⟨.integer, fun below => by cases below with | integer less => exact less⟩, .rfl⟩
  | real x =>
      cases second with
      | real y =>
          have same : x.rank = y.rank ↔ x = y := ⟨Binary64.rank_injective, fun same => same ▸ rfl⟩
          change (Ord.compare x.rank y.rank = .lt ↔ _) ∧ (Ord.compare x.rank y.rank = .eq ↔ _)
          rw [Int.compare_eq_lt, Int.compare_eq_eq, same, real.injEq]
          exact ⟨⟨.real, fun below => by cases below with | real less => exact less⟩, .rfl⟩
  | boolean p =>
      cases second with
      | boolean q =>
          have less : (bool p).Below (.bool q) ↔ p = false ∧ q = true := by
            constructor
            · intro below
              cases below
              exact ⟨rfl, rfl⟩
            · rintro ⟨rfl, rfl⟩
              exact .boolean
          rw [less, bool.injEq]
          cases p <;> cases q <;> decide
  | text s =>
      cases second with
      | text t => exact texts s t
  | date d =>
      cases second with
      | date e => exact texts d.text e.text

private theorem compare_of_holds (first : column.Holds a) (second : column.Holds b) :
    (a.compare b = .lt ↔ a.Below b) ∧ (a.compare b = .eq ↔ a = b) := by
  cases first with
  | absent =>
      cases second with
      | absent => exact ⟨⟨nofun, fun below => absurd below (Below.irrefl _)⟩, fun _ => rfl, fun _ => rfl⟩
      | stored form =>
          have present := Kind.isNull_of_stores form
          rw [compare_null_left present]
          refine ⟨⟨fun _ => .absent present, fun _ => rfl⟩, ⟨nofun, ?_⟩⟩
          rintro rfl
          cases present
  | stored form =>
      cases second with
      | absent =>
          have present := Kind.isNull_of_stores form
          rw [compare_null_right present]
          refine ⟨⟨nofun, fun below => ?_⟩, ⟨nofun, ?_⟩⟩
          · cases below with
            | absent impossible => cases impossible
          · rintro rfl
            cases present
      | stored otherForm => exact compare_of_stores form otherForm

/-- Comparing values of one column tells which of them is below the other. -/
theorem compare_eq_lt_iff (first : column.Holds a) (second : column.Holds b) :
    a.compare b = .lt ↔ a.Below b :=
  (compare_of_holds first second).1

/-- Values of one column are tied only if they are the same. -/
theorem compare_eq_eq_iff (first : column.Holds a) (second : column.Holds b) :
    a.compare b = .eq ↔ a = b :=
  (compare_of_holds first second).2

end Value

end MovieCatalogue.Storage

namespace MovieCatalogue.Selection

open MovieCatalogue.Storage

/-! ## Rows -/

/-- A row comes before another by one term. -/
def OrderTerm.Before (term : OrderTerm) (a b : Row) : Prop :=
  match term.direction with
  | .ascending => (valueAt a term.field).Below (valueAt b term.field)
  | .descending => (valueAt b term.field).Below (valueAt a term.field)

/-- Two rows have the same value under the field of a term. -/
def OrderTerm.Tied (term : OrderTerm) (a b : Row) : Prop :=
  valueAt a term.field = valueAt b term.field

/-- Two rows are tied on all terms. -/
def TiedOn (order : List OrderTerm) (a b : Row) : Prop :=
  ∀ term ∈ order, term.Tied a b

/-- A row comes before another by the first term on which they are not tied. -/
inductive Ahead : List OrderTerm → Row → Row → Prop
  | first {term : OrderTerm} {terms : List OrderTerm} {a b : Row} (before : term.Before a b) :
      Ahead (term :: terms) a b
  | later {term : OrderTerm} {terms : List OrderTerm} {a b : Row} (tied : term.Tied a b)
      (ahead : Ahead terms a b) : Ahead (term :: terms) a b

variable {order : List OrderTerm} {a b c : Row}

namespace OrderTerm

variable {term : OrderTerm}

theorem Before.trans (first : term.Before a b) (second : term.Before b c) : term.Before a c := by
  cases direction : term.direction with
  | ascending =>
      simp only [Before, direction] at *
      exact first.trans second
  | descending =>
      simp only [Before, direction] at *
      exact second.trans first

theorem Before.not_tied (before : term.Before a b) : ¬ term.Tied a b := by
  intro tied
  unfold Before at before
  rw [tied] at before
  split at before
  · exact Value.Below.irrefl _ before
  · exact Value.Below.irrefl _ before

theorem Before.congr {first second : Row} (before : term.Before a b) (left : term.Tied a first)
    (right : term.Tied b second) : term.Before first second := by
  unfold Before at *
  rwa [left, right] at before

end OrderTerm

theorem TiedOn.symm (tied : TiedOn order a b) : TiedOn order b a :=
  fun term member => (tied term member).symm

theorem TiedOn.trans (first : TiedOn order a b) (second : TiedOn order b c) : TiedOn order a c :=
  fun term member => (first term member).trans (second term member)

namespace Ahead

theorem not_tiedOn (ahead : Ahead order a b) : ¬ TiedOn order a b := by
  induction ahead with
  | first before => exact fun tied => before.not_tied (tied _ List.mem_cons_self)
  | later _ _ inductionHypothesis =>
      exact fun tied => inductionHypothesis fun term member => tied term (List.mem_cons_of_mem _ member)

/-- Rows that are tied with others take their places. -/
theorem congr {first second : Row} (ahead : Ahead order a b) (left : TiedOn order a first)
    (right : TiedOn order b second) : Ahead order first second := by
  induction ahead with
  | first before =>
      exact .first (before.congr (left _ List.mem_cons_self) (right _ List.mem_cons_self))
  | later tied _ inductionHypothesis =>
      unfold TiedOn at left right
      rw [List.forall_mem_cons] at left right
      exact .later ((left.1.symm.trans tied).trans right.1) (inductionHypothesis left.2 right.2)

theorem trans (first : Ahead order a b) (second : Ahead order b c) : Ahead order a c := by
  induction first with
  | first before =>
      cases second with
      | first beforeAgain => exact .first (before.trans beforeAgain)
      | later tied _ => exact .first (before.congr rfl tied)
  | later tied _ inductionHypothesis =>
      cases second with
      | first before => exact .first (before.congr tied.symm rfl)
      | later tiedAgain ahead => exact .later (tied.trans tiedAgain) (inductionHypothesis ahead)

theorem asymm (ahead : Ahead order a b) : ¬ Ahead order b a :=
  fun behind => (ahead.trans behind).not_tiedOn fun _ _ => rfl

end Ahead

/-! ## Comparing -/

/-- Under the field of every term the two rows have values that one column may hold. -/
def Comparable (order : List OrderTerm) (a b : Row) : Prop :=
  ∀ term ∈ order, ∃ column : Column,
    column.Holds (valueAt a term.field) ∧ column.Holds (valueAt b term.field)

private theorem compare_term {term : OrderTerm} {column : Column}
    (first : column.Holds (valueAt a term.field)) (second : column.Holds (valueAt b term.field)) :
    (term.compare a b = .lt ↔ term.Before a b) ∧ (term.compare a b = .eq ↔ term.Tied a b) := by
  have tied := Value.compare_eq_eq_iff first second
  cases direction : term.direction with
  | ascending =>
      simp only [OrderTerm.compare, OrderTerm.Before, direction]
      exact ⟨Value.compare_eq_lt_iff first second, tied⟩
  | descending =>
      simp only [OrderTerm.compare, OrderTerm.Before, direction, Value.compare_swap]
      exact ⟨Value.compare_eq_lt_iff second first,
        (Value.compare_eq_eq_iff second first).trans eq_comm⟩

private theorem compareRows_of_comparable (comparable : Comparable order a b) :
    (compareRows order a b = .lt ↔ Ahead order a b) ∧
      (compareRows order a b = .eq ↔ TiedOn order a b) := by
  induction order with
  | nil => exact ⟨⟨nofun, nofun⟩, ⟨fun _ _ member => (nomatch member), fun _ => rfl⟩⟩
  | cons term terms inductionHypothesis =>
      unfold Comparable at comparable
      rw [List.forall_mem_cons] at comparable
      obtain ⟨⟨column, first, second⟩, others⟩ := comparable
      obtain ⟨less, tied⟩ := compare_term first second
      obtain ⟨lessRest, tiedRest⟩ := inductionHypothesis others
      rw [compareRows, Ordering.then_eq_lt, Ordering.then_eq_eq, less, tied, lessRest, tiedRest]
      refine ⟨⟨?_, ?_⟩, ⟨?_, ?_⟩⟩
      · rintro (before | ⟨tiedHere, ahead⟩)
        · exact .first before
        · exact .later tiedHere ahead
      · rintro (before | ⟨tiedHere, ahead⟩)
        · exact .inl before
        · exact .inr ⟨tiedHere, ahead⟩
      · rintro ⟨tiedHere, tiedLater⟩
        exact List.forall_mem_cons.mpr ⟨tiedHere, tiedLater⟩
      · exact List.forall_mem_cons.mp

/-- Comparing rows tells which of them is ahead. -/
theorem compareRows_eq_lt_iff (comparable : Comparable order a b) :
    compareRows order a b = .lt ↔ Ahead order a b :=
  (compareRows_of_comparable comparable).1

/-- Comparing rows tells whether they are tied on all terms. -/
theorem compareRows_eq_eq_iff (comparable : Comparable order a b) :
    compareRows order a b = .eq ↔ TiedOn order a b :=
  (compareRows_of_comparable comparable).2

theorem compareRows_swap (order : List OrderTerm) (a b : Row) :
    (compareRows order a b).swap = compareRows order b a := by
  induction order with
  | nil => rfl
  | cons term terms inductionHypothesis =>
      have turned : (term.compare a b).swap = term.compare b a := by
        unfold OrderTerm.compare
        cases term.direction with
        | ascending => exact Value.compare_swap _ _
        | descending => exact congrArg Ordering.swap (Value.compare_swap _ _)
      rw [compareRows, compareRows, Ordering.swap_then, turned, inductionHypothesis]

theorem Comparable.symm (comparable : Comparable order a b) : Comparable order b a :=
  fun term member => (comparable term member).imp fun _ => And.symm

/-- Of two rows that can be compared one is ahead, or they are tied. -/
theorem Comparable.cases (comparable : Comparable order a b) :
    Ahead order a b ∨ TiedOn order a b ∨ Ahead order b a := by
  cases compared : compareRows order a b with
  | lt => exact .inl ((compareRows_eq_lt_iff comparable).mp compared)
  | eq => exact .inr (.inl ((compareRows_eq_eq_iff comparable).mp compared))
  | gt =>
      have turned := compareRows_swap order a b
      rw [compared] at turned
      exact .inr (.inr ((compareRows_eq_lt_iff comparable.symm).mp turned.symm))

end MovieCatalogue.Selection

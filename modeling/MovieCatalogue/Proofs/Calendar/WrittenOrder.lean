import MovieCatalogue.Proofs.Calendar.WrittenDate
import MovieCatalogue.Proofs.Number.DigitOrder

/-!
Contract: the order of written dates.

Owns: `WrittenBefore`, the years that come before each other both in time and as texts; and that
written dates are in the order of time if and only if their years are the same or of this kind,
which all years from 0 to 9999 are among themselves.
Does not own: columns of dates; see `Proofs.Storage.DateOrder`.
-/

namespace MovieCatalogue.Calendar

open MovieCatalogue.Number MovieCatalogue.Text

/-! ## Written years -/

/-- The number of digits with which a year is written. -/
def yearPlaces (year : Int) : Nat :=
  (paddedDigits 4 year.natAbs).length

/-- A year comes before another one in time, and its text comes before the other text. Signs come
before digits, and a plus sign before a minus sign. Behind a sign the leading digits of the longer
number decide. -/
inductive WrittenBefore (a b : Int) : Prop
  | unsigned (first : 0 ≤ a) (less : a < b) (last : b ≤ 9999)
  | signed (negative : a < 0) (first : 0 ≤ b) (last : b ≤ 9999)
  | large (long : 9999 < a) (less : a < b)
      (leading : a.natAbs ≤ b.natAbs / 10 ^ (yearPlaces b - yearPlaces a))
  | negative (less : a < b) (negative : b < 0)
      (leading : a.natAbs / 10 ^ (yearPlaces a - yearPlaces b) < b.natAbs)

/-- The texts of two years keep their order. -/
def InTheirOrder (a b : Int) : Prop :=
  a = b ∨ WrittenBefore a b ∨ WrittenBefore b a

variable {a b : Int}

/-- All years without a sign keep their order. -/
theorem inTheirOrder_of_unsigned (first : 0 ≤ a) (last : a ≤ 9999) (firstToo : 0 ≤ b)
    (lastToo : b ≤ 9999) : InTheirOrder a b := by
  rcases Int.lt_trichotomy a b with less | same | more
  · exact .inr (.inl (.unsigned first less lastToo))
  · exact .inl same
  · exact .inr (.inr (.unsigned firstToo more last))

theorem yearChars_unsigned (first : 0 ≤ a) (last : a ≤ 9999) :
    Date.yearChars a = paddedDigits 4 a.natAbs :=
  if_pos ⟨first, last⟩

theorem yearChars_negative (negative : a < 0) :
    Date.yearChars a = '-' :: paddedDigits 4 a.natAbs := by
  rw [Date.yearChars, if_neg (by omega), if_pos negative]

theorem yearChars_large (long : 9999 < a) : Date.yearChars a = '+' :: paddedDigits 4 a.natAbs := by
  rw [Date.yearChars, if_neg (by omega), if_neg (by omega)]

/-- The text of an unsigned year comes behind every sign. -/
theorem compareChars_sign_unsigned {sign : Char} (below : sign.toNat < 48) (first : 0 ≤ a)
    (last : a ≤ 9999) (rest others : List Char) :
    compareChars (sign :: rest) (Date.yearChars a ++ others) = .lt := by
  rw [yearChars_unsigned first last]
  cases written : paddedDigits 4 a.natAbs with
  | nil => exact absurd written (paddedDigits_ne_nil _ _)
  | cons c digits =>
      have member : c ∈ paddedDigits 4 a.natAbs := by simp [written]
      exact compareChars_sign below (isDigit_of_mem_paddedDigits member) rest _

/-- Two years as they stand in dates, in front of hyphens. -/
def compareYears (a b : Int) (rest others : List Char) : Ordering :=
  compareChars (Date.yearChars a ++ '-' :: rest) (Date.yearChars b ++ '-' :: others)

theorem compareYears_swap (a b : Int) (rest others : List Char) :
    (compareYears a b rest others).swap = compareYears b a others rest :=
  compareChars_swap _ _

variable (rest others : List Char)

/-- Among the years above 9999. -/
theorem compareYears_large (long : 9999 < a) (less : a < b) :
    let leading := b.natAbs / 10 ^ (yearPlaces b - yearPlaces a)
    a.natAbs ≤ leading ∧ compareYears a b rest others = .lt ∨
      leading < a.natAbs ∧ compareYears a b rest others = .gt := by
  have magnitudes := compareChars_paddedDigits_of_lt 4 (by omega : a.natAbs < b.natAbs) rest others
  unfold compareYears
  rw [yearChars_large long, yearChars_large (Int.lt_trans long less)]
  exact magnitudes

/-- Among the years below zero, where the earlier one has the larger number. -/
theorem compareYears_negative (less : a < b) (negative : b < 0) :
    let leading := a.natAbs / 10 ^ (yearPlaces a - yearPlaces b)
    leading < b.natAbs ∧ compareYears a b rest others = .lt ∨
      b.natAbs ≤ leading ∧ compareYears a b rest others = .gt := by
  have magnitudes := compareChars_paddedDigits_of_lt 4 (by omega : b.natAbs < a.natAbs) others rest
  have turned : compareYears b a others rest =
      compareChars (paddedDigits 4 b.natAbs ++ '-' :: others)
        (paddedDigits 4 a.natAbs ++ '-' :: rest) := by
    rw [compareYears, yearChars_negative negative, yearChars_negative (Int.lt_trans less negative)]
    rfl
  simp only [← turned, ← compareYears_swap a b, Ordering.swap_eq_lt, Ordering.swap_eq_gt] at magnitudes
  exact magnitudes.symm

/-- Of two years the earlier one comes first as a text as well, or it comes last. -/
theorem compareYears_of_lt (less : a < b) :
    WrittenBefore a b ∧ compareYears a b rest others = .lt ∨
      ¬ WrittenBefore a b ∧ compareYears a b rest others = .gt := by
  have signs (year : Int) : year < 0 ∨ (0 ≤ year ∧ year ≤ 9999) ∨ 9999 < year := by omega
  rcases signs a with negative | ⟨first, last⟩ | long
  · rcases signs b with negativeToo | ⟨firstToo, lastToo⟩ | long
    · rcases compareYears_negative rest others less negativeToo with ⟨below, before⟩ | ⟨above, behind⟩
      · exact .inl ⟨.negative less negativeToo below, before⟩
      · refine .inr ⟨fun written => ?_, behind⟩
        cases written with
        | negative _ _ below => exact Nat.not_lt.mpr above below
        | _ => omega
    · refine .inl ⟨.signed negative firstToo lastToo, ?_⟩
      rw [compareYears, yearChars_negative negative]
      exact compareChars_sign_unsigned (by decide) firstToo lastToo _ _
    · refine .inr ⟨fun written => by cases written <;> omega, ?_⟩
      rw [compareYears, yearChars_negative negative, yearChars_large long]
      rfl
  · rcases signs b with negativeToo | ⟨firstToo, lastToo⟩ | long
    · omega
    · refine .inl ⟨.unsigned first less lastToo, ?_⟩
      rw [compareYears, yearChars_unsigned first last, yearChars_unsigned firstToo lastToo,
        compareChars_paddedDigits (by decide) (by omega) (by omega), Nat.compare_eq_lt.mpr (by omega)]
      rfl
    · refine .inr ⟨fun written => by cases written <;> omega, ?_⟩
      have turned : compareYears b a others rest = .lt := by
        rw [compareYears, yearChars_large long]
        exact compareChars_sign_unsigned (by decide) first last _ _
      rw [← compareYears_swap] at turned
      exact Ordering.swap_eq_lt.mp turned
  · rcases compareYears_large rest others long less with ⟨below, before⟩ | ⟨above, behind⟩
    · exact .inl ⟨.large long less below, before⟩
    · refine .inr ⟨fun written => ?_, behind⟩
      cases written with
      | large _ _ below => exact Nat.not_lt.mpr below above
      | _ => omega

/-! ## Written dates -/

/-- What stands behind the year of a date. -/
def Date.dayChars (d : Date) : List Char :=
  paddedDigits 2 d.month ++ '-' :: paddedDigits 2 d.day

theorem compareChars_dayChars (d e : Date) : compareChars d.dayChars e.dayChars =
    (Ord.compare d.month e.month).then (Ord.compare d.day e.day) := by
  obtain ⟨-, -, firstDay, lastDay⟩ := d.valid
  obtain ⟨-, -, otherFirstDay, otherLastDay⟩ := e.valid
  obtain ⟨-, month, day⟩ := month_of_day firstDay lastDay
  obtain ⟨-, otherMonth, otherDay⟩ := month_of_day otherFirstDay otherLastDay
  have days : compareChars (paddedDigits 2 d.day ++ []) (paddedDigits 2 e.day ++ []) = _ :=
    compareChars_paddedDigits (by decide) (by omega) (by omega) [] []
  have hyphens (rest others : List Char) :
      compareChars ('-' :: rest) ('-' :: others) = compareChars rest others := rfl
  rw [List.append_nil, List.append_nil] at days
  rw [Date.dayChars, Date.dayChars, compareChars_paddedDigits (by decide) (by omega) (by omega),
    hyphens, days, compareChars, Ordering.then_eq]

theorem compareTexts_text (d e : Date) : compareTexts d.text e.text =
    compareYears d.year e.year d.dayChars e.dayChars := by
  have written (d : Date) : d.text.toList = Date.yearChars d.year ++ '-' :: d.dayChars := by
    simp [Date.text, Date.chars, Date.dayChars]
  rw [compareTexts, written, written, compareYears]

/-- Dates of one year are in the order of time. -/
theorem compareTexts_of_same_year {d e : Date} (sameYear : d.year = e.year) :
    compareTexts d.text e.text = d.compare e := by
  have behind (start rest others : List Char) :
      compareChars (start ++ rest) (start ++ others) = compareChars rest others := by
    induction start with
    | nil => rfl
    | cons c start inductionHypothesis =>
        rw [List.cons_append, List.cons_append, compareChars, Nat.compare_eq_eq.mpr rfl,
          inductionHypothesis]
        rfl
  have hyphens : compareChars ('-' :: d.dayChars) ('-' :: e.dayChars) =
      compareChars d.dayChars e.dayChars := rfl
  rw [compareTexts_text, compareYears, sameYear, behind, hyphens, compareChars_dayChars, Date.compare,
    sameYear, Int.compare_eq_eq.mpr rfl]
  rfl

theorem compare_of_year_lt {d e : Date} (earlier : d.year < e.year) : d.compare e = .lt := by
  rw [Date.compare, Int.compare_eq_lt.mpr earlier]
  rfl

theorem compare_of_year_gt {d e : Date} (later : e.year < d.year) : d.compare e = .gt := by
  rw [Date.compare, Int.compare_eq_gt.mpr later]
  rfl

/-- Texts of dates are in the order of time if and only if those of their years are. -/
theorem compareTexts_eq_compare_iff (d e : Date) :
    compareTexts d.text e.text = d.compare e ↔ InTheirOrder d.year e.year := by
  rcases Int.lt_trichotomy d.year e.year with earlier | same | later
  · have notBehind : ¬ WrittenBefore e.year d.year := fun written => by cases written <;> omega
    have different : d.year ≠ e.year := Int.ne_of_lt earlier
    rw [compareTexts_text, compare_of_year_lt earlier]
    rcases compareYears_of_lt d.dayChars e.dayChars earlier with ⟨written, before⟩ | ⟨unwritten, behind⟩
    · simp [before, InTheirOrder, written]
    · simp [behind, InTheirOrder, different, unwritten, notBehind]
  · simp [compareTexts_of_same_year same, InTheirOrder, same]
  · have notBehind : ¬ WrittenBefore d.year e.year := fun written => by cases written <;> omega
    have different : d.year ≠ e.year := (Int.ne_of_lt later).symm
    rw [compareTexts_text, compare_of_year_gt later, ← compareYears_swap]
    rcases compareYears_of_lt e.dayChars d.dayChars later with ⟨written, before⟩ | ⟨unwritten, behind⟩
    · simp [before, InTheirOrder, written]
    · simp [behind, InTheirOrder, different, unwritten, notBehind]

/-- Of two dates in the order of their texts the first one is not the later one, if their years keep
their order, and else it is. -/
theorem compare_ne_gt_iff {d e : Date} (listed : compareTexts d.text e.text ≠ .gt) :
    d.compare e ≠ .gt ↔ InTheirOrder d.year e.year := by
  rw [← compareTexts_eq_compare_iff]
  constructor
  · intro notLater
    rcases Int.lt_trichotomy d.year e.year with earlier | same | later
    · rw [compareTexts_text] at listed ⊢
      rw [compare_of_year_lt earlier]
      rcases compareYears_of_lt d.dayChars e.dayChars earlier with ⟨-, before⟩ | ⟨-, behind⟩
      · exact before
      · exact absurd behind listed
    · exact compareTexts_of_same_year same
    · exact absurd (compare_of_year_gt later) notLater
  · intro same
    exact same ▸ listed

end MovieCatalogue.Calendar

import Mathlib.Data.List.TakeWhile
import MovieCatalogue.Json.Reader
import MovieCatalogue.Number.Notation
import MovieCatalogue.Proofs.Number.Written

/-!
Contract: numbers in front of other text.

Owns: that a number is read in the same way whatever text follows it, as long as this
text does not go on with a digit, a sign, a point or an exponent mark; and that every
integer of at most 64 bits reads back from its written form.
Does not own: floating-point numbers, whose texts are rounded when they are read.
-/

namespace MovieCatalogue.Json

open MovieCatalogue.Number

/-- No number goes on with this text. -/
def Closed (rest : List Char) : Prop :=
  ∀ c, rest.head? = some c →
    isDigit c = false ∧ c ≠ '-' ∧ c ≠ '+' ∧ c ≠ '.' ∧ c ≠ 'e' ∧ c ≠ 'E'

theorem closed_cons {c : Char} (rest : List Char)
    (closing : isDigit c = false ∧ c ≠ '-' ∧ c ≠ '+' ∧ c ≠ '.' ∧ c ≠ 'e' ∧ c ≠ 'E') :
    Closed (c :: rest) := by
  rintro _ ⟨⟩
  exact closing

/-! ## What follows a number -/

private theorem takeWhile_append_stop {p : Char → Bool} {rest : List Char} (cs : List Char)
    (stops : ∀ c, rest.head? = some c → p c = false) :
    (cs ++ rest).takeWhile p = cs.takeWhile p := by
  induction cs with
  | nil =>
      cases rest with
      | nil => rfl
      | cons c rest => simp [stops c rfl]
  | cons c cs inductionHypothesis =>
      by_cases holds : p c = true <;> simp [holds, inductionHypothesis]

private theorem dropWhile_append_stop {p : Char → Bool} {rest : List Char} (cs : List Char)
    (stops : ∀ c, rest.head? = some c → p c = false) :
    (cs ++ rest).dropWhile p = cs.dropWhile p ++ rest := by
  induction cs with
  | nil =>
      cases rest with
      | nil => rfl
      | cons c rest => simp [stops c rfl]
  | cons c cs inductionHypothesis =>
      by_cases holds : p c = true <;> simp [holds, inductionHypothesis]

/-- The sign of an exponent and what follows it. -/
private def cutSign (cs : List Char) : Bool × List Char :=
  match cs with
  | '-' :: rest => (true, rest)
  | '+' :: rest => (false, rest)
  | _ => (false, cs)

/-- The exponent of a number behind its sign. -/
private def powerDigits (negative : Bool) (cs : List Char) : Option (Option Int × List Char) :=
  let ds := cs.takeWhile isDigit
  if ds.isEmpty then none
  else
    let n : Int := valueOf ds
    some (some (if negative then -n else n), cs.dropWhile isDigit)

private theorem readPower_mark {mark : Char} (isMark : mark = 'e' ∨ mark = 'E')
    (tail : List Char) :
    readPower (mark :: tail) = powerDigits (cutSign tail).1 (cutSign tail).2 := by
  simp only [readPower, if_pos isMark]
  rfl

private theorem cutSign_append {rest : List Char} (closed : Closed rest) (cs : List Char) :
    cutSign (cs ++ rest) = ((cutSign cs).1, (cutSign cs).2 ++ rest) := by
  cases cs with
  | nil =>
      cases rest with
      | nil => rfl
      | cons c rest =>
          obtain ⟨-, minus, plus, -⟩ := closed c rfl
          simp [cutSign, minus, plus]
  | cons c cs =>
      rw [List.cons_append]
      by_cases minus : c = '-'
      · rw [minus]
        rfl
      · by_cases plus : c = '+'
        · rw [plus]
          rfl
        · simp [cutSign, minus, plus]

private theorem powerDigits_append {rest : List Char} (closed : Closed rest) (negative : Bool)
    (cs : List Char) :
    powerDigits negative (cs ++ rest) =
      (powerDigits negative cs).map fun read => (read.1, read.2 ++ rest) := by
  have stops : ∀ c, rest.head? = some c → isDigit c = false := fun c head => (closed c head).1
  unfold powerDigits
  rw [takeWhile_append_stop cs stops, dropWhile_append_stop cs stops]
  dsimp only
  split <;> rfl

private theorem readPower_append {rest : List Char} (closed : Closed rest) (cs : List Char) :
    readPower (cs ++ rest) = (readPower cs).map fun read => (read.1, read.2 ++ rest) := by
  cases cs with
  | nil =>
      cases rest with
      | nil => rfl
      | cons c rest =>
          obtain ⟨-, -, -, -, lower, upper⟩ := closed c rfl
          simp [readPower, lower, upper]
  | cons mark tail =>
      by_cases isMark : mark = 'e' ∨ mark = 'E'
      · rw [List.cons_append, readPower_mark isMark, readPower_mark isMark,
          cutSign_append closed, powerDigits_append closed]
      · simp [readPower, isMark]

/-- The fraction of a number and what follows it. -/
private def readFraction (cs : List Char) : Option (Option (List Char) × List Char) :=
  match cs with
  | '.' :: tail =>
    let ds := tail.takeWhile isDigit
    if ds.isEmpty then none else some (some ds, tail.dropWhile isDigit)
  | _ => some (none, cs)

private theorem readFraction_append {rest : List Char} (closed : Closed rest) (cs : List Char) :
    readFraction (cs ++ rest) = (readFraction cs).map fun read => (read.1, read.2 ++ rest) := by
  have stops : ∀ c, rest.head? = some c → isDigit c = false := fun c head => (closed c head).1
  cases cs with
  | nil =>
      cases rest with
      | nil => rfl
      | cons c rest =>
          obtain ⟨-, -, -, point, -⟩ := closed c rfl
          simp [readFraction, point]
  | cons c cs =>
      by_cases point : c = '.'
      · rw [point, List.cons_append]
        simp only [readFraction, takeWhile_append_stop cs stops, dropWhile_append_stop cs stops]
        split <;> rfl
      · simp [readFraction, point]

/-- The parts of a number behind its sign, and what follows it. -/
private def unsignedParts (negative : Bool) (cs : List Char) :
    Option (NumberParts × List Char) :=
  let whole := cs.takeWhile isDigit
  if whole.isEmpty || (whole.length > 1 && whole.head? == some '0') then none
  else
    match readFraction (cs.dropWhile isDigit) with
    | none => none
    | some (fraction, rest) =>
      (readPower rest).map fun (power, rest) => (⟨negative, whole, fraction, power⟩, rest)

/-- The sign of a number and what follows it. -/
private def cutMinus (cs : List Char) : Bool × List Char :=
  match cs with
  | '-' :: tail => (true, tail)
  | _ => (false, cs)

private theorem readNumberParts_eq (cs : List Char) :
    readNumberParts cs = unsignedParts (cutMinus cs).1 (cutMinus cs).2 := rfl

private theorem cutMinus_append {cs : List Char} (nonempty : cs ≠ []) (rest : List Char) :
    cutMinus (cs ++ rest) = ((cutMinus cs).1, (cutMinus cs).2 ++ rest) := by
  obtain ⟨c, cs, rfl⟩ := List.exists_cons_of_ne_nil nonempty
  rw [List.cons_append]
  by_cases minus : c = '-'
  · rw [minus]
    rfl
  · simp [cutMinus, minus]

private theorem unsignedParts_append {rest : List Char} (closed : Closed rest) (negative : Bool)
    (cs : List Char) :
    unsignedParts negative (cs ++ rest) =
      (unsignedParts negative cs).map fun read => (read.1, read.2 ++ rest) := by
  have stops : ∀ c, rest.head? = some c → isDigit c = false := fun c head => (closed c head).1
  unfold unsignedParts
  rw [takeWhile_append_stop cs stops, dropWhile_append_stop cs stops, readFraction_append closed]
  dsimp only
  split
  · rfl
  · cases readFraction (cs.dropWhile isDigit) with
    | none => rfl
    | some read =>
        simp only [Option.map_some, readPower_append closed, Option.map_map]
        rfl

/-- A number is read in the same way whatever follows it. -/
theorem readNumberParts_append {rest : List Char} (closed : Closed rest) {cs : List Char}
    (nonempty : cs ≠ []) :
    readNumberParts (cs ++ rest) =
      (readNumberParts cs).map fun read => (read.1, read.2 ++ rest) := by
  rw [readNumberParts_eq, readNumberParts_eq, cutMinus_append nonempty, unsignedParts_append closed]

theorem readNumber_append {rest : List Char} (closed : Closed rest) {cs after : List Char}
    {json : Json} (nonempty : cs ≠ []) (read : readNumber cs = .ok (json, after)) :
    readNumber (cs ++ rest) = .ok (json, after ++ rest) := by
  unfold readNumber at read ⊢
  rw [readNumberParts_append closed nonempty]
  cases parts : readNumberParts cs with
  | none => simp [parts] at read
  | some found =>
      simp only [parts, Option.map_some] at read ⊢
      cases value : found.1.value? with
      | none => simp [value] at read
      | some held =>
          simp only [value, Except.ok.injEq, Prod.mk.injEq] at read ⊢
          exact ⟨read.1, by rw [read.2]⟩

/-! ## Integers -/

/-- The first digit of a positive number is not zero. -/
private theorem head?_digits {n : Nat} (positive : 0 < n) : (digits n).head? ≠ some '0' := by
  fun_induction digits n with
  | case1 n small =>
      have each : ∀ d, d < 10 → 0 < d → digitChar d ≠ '0' := by decide
      simpa using each n small positive
  | case2 n large inductionHypothesis =>
      rw [List.head?_append_of_ne_nil _ (digits_ne_nil _)]
      exact inductionHypothesis (by omega)

private theorem unsignedParts_digits (negative : Bool) (n : Nat) :
    unsignedParts negative (digits n) = some (⟨negative, digits n, none, none⟩, []) := by
  have all : ∀ c ∈ digits n, isDigit c = true := List.all_eq_true.mp (all_isDigit_digits n)
  have whole : (digits n).takeWhile isDigit = digits n := List.takeWhile_eq_self_iff.mpr all
  have rest : (digits n).dropWhile isDigit = [] := List.dropWhile_eq_nil_iff.mpr all
  have notEmpty : (digits n).isEmpty = false := by simp [digits_ne_nil]
  have noZero : ((digits n).length > 1 && (digits n).head? == some '0') = false := by
    rcases Nat.eq_zero_or_pos n with rfl | positive
    · simp [digits]
    · simp [head?_digits positive]
  unfold unsignedParts
  rw [whole, rest]
  dsimp only
  rw [notEmpty, noZero]
  rfl

private theorem readNumberParts_intChars (n : Int) :
    readNumberParts (intChars n) = some (⟨n < 0, digits n.natAbs, none, none⟩, []) := by
  rw [readNumberParts_eq]
  unfold intChars
  split
  · rename_i negative
    simp only [cutMinus, unsignedParts_digits, decide_eq_true negative]
  · rename_i positive
    have notMinus : (digits n.natAbs).head? ≠ some '-' := by
      intro minus
      have digit := List.all_eq_true.mp (all_isDigit_digits n.natAbs) '-' (List.mem_of_head? minus)
      exact absurd digit (by decide)
    have uncut : cutMinus (digits n.natAbs) = (false, digits n.natAbs) := by
      unfold cutMinus
      split
      · rename_i tail shape
        exact absurd (by rw [shape]; rfl) notMinus
      · rfl
    rw [uncut, unsignedParts_digits, decide_eq_false positive]

/-- An integer of 64 bits reads back from its written form, whatever closed text follows it. -/
theorem readNumber_intChars {n : Int} (lower : minInt64 ≤ n) (upper : n ≤ maxInt64)
    {rest : List Char} (closed : Closed rest) :
    readNumber (intChars n ++ rest) = .ok (.int n, rest) := by
  have nonempty : intChars n ≠ [] := by
    unfold intChars
    split
    · exact List.cons_ne_nil _ _
    · exact digits_ne_nil _
  rw [minInt64] at lower
  rw [maxInt64] at upper
  have fits : ¬ n.natAbs > maxWord := by
    rw [maxWord]
    omega
  have value : NumberParts.value? ⟨n < 0, digits n.natAbs, none, none⟩ = some (.int n) := by
    unfold NumberParts.value?
    simp only [Option.isSome_none, Bool.or_false, Bool.false_eq_true, if_false, valueOf_digits,
      if_neg fits]
    by_cases negative : n < 0
    · have inRange : ¬ (n = 0 ∨ 9223372036854775808 < n.natAbs) := by omega
      have same : -(n.natAbs : Int) = n := by omega
      simp only [negative, same]
      simp [inRange]
    · have same : (n.natAbs : Int) = n := by omega
      simp [negative, same]
  have read : readNumber (intChars n) = .ok (.int n, []) := by
    simp [readNumber, readNumberParts_intChars, value]
  simpa using readNumber_append closed nonempty read

end MovieCatalogue.Json

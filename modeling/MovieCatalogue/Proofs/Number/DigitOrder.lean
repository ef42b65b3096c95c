import Mathlib.Data.List.Induction
import MovieCatalogue.Proofs.Number.Written
import MovieCatalogue.Proofs.Text.Order

/-!
Contract: the order of written numbers.

Owns: how two texts compare that start with digits and go on behind a hyphen: runs of one length
like their values; a shorter run like the value of as many leading digits of the longer one, and
before it if these are the same.
Does not own: signs; see `Proofs.Calendar.WrittenOrder`.
-/

namespace MovieCatalogue.Number

open MovieCatalogue.Text

variable {first second rest others : List Char}

/-! ## Places -/

theorem compare_add_left (base low small : Nat) :
    compare (base + low) (base + small) = compare low small := by
  rcases Nat.lt_trichotomy low small with less | rfl | more
  · rw [Nat.compare_eq_lt.mpr less, Nat.compare_eq_lt.mpr (Nat.add_lt_add_left less base)]
  · rw [Nat.compare_eq_eq.mpr rfl, Nat.compare_eq_eq.mpr rfl]
  · rw [Nat.compare_eq_gt.mpr more, Nat.compare_eq_gt.mpr (Nat.add_lt_add_left more base)]

/-- What stands in front of a number of places decides, and then what stands in these places. -/
theorem compare_places {high low other small base : Nat} (lowBelow : low < base)
    (smallBelow : small < base) : compare (high * base + low) (other * base + small) =
      (compare high other).then (compare low small) := by
  have apart {less more : Nat} (below : less < more) {part : Nat} (partBelow : part < base)
      (anything : Nat) : less * base + part < more * base + anything :=
    calc less * base + part < less * base + base := Nat.add_lt_add_left partBelow _
      _ = (less + 1) * base := (Nat.succ_mul less base).symm
      _ ≤ more * base := Nat.mul_le_mul_right base below
      _ ≤ more * base + anything := Nat.le_add_right _ _
  rcases Nat.lt_trichotomy high other with less | rfl | more
  · rw [Nat.compare_eq_lt.mpr less, Nat.compare_eq_lt.mpr (apart less lowBelow small)]
    rfl
  · rw [compare_add_left, Nat.compare_eq_eq.mpr rfl]
    rfl
  · rw [Nat.compare_eq_gt.mpr more, Nat.compare_eq_gt.mpr (apart more smallBelow low)]
    rfl

theorem valueOf_append_places (first second : List Char) :
    valueOf (first ++ second) = valueOf first * 10 ^ second.length + valueOf second := by
  induction second using List.reverseRecOn with
  | nil => simp [valueOf]
  | append_singleton second c inductionHypothesis =>
      rw [← List.append_assoc, valueOf_append_digit, inductionHypothesis, valueOf_append_digit,
        List.length_append, List.length_singleton, Nat.pow_succ, Nat.add_mul, Nat.mul_assoc,
        Nat.add_assoc]

theorem valueOf_cons (c : Char) (cs : List Char) :
    valueOf (c :: cs) = digitValue c * 10 ^ cs.length + valueOf cs := by
  have front : valueOf [c] = digitValue c := by simp [valueOf]
  rw [← List.singleton_append, valueOf_append_places, front]

theorem toNat_of_isDigit {c : Char} (digit : isDigit c = true) :
    c.toNat = 48 + digitValue c ∧ digitValue c < 10 := by
  simp only [isDigit, Bool.and_eq_true, decide_eq_true_eq] at digit
  unfold digitValue
  omega

theorem valueOf_lt {cs : List Char} (digits : ∀ c ∈ cs, isDigit c = true) :
    valueOf cs < 10 ^ cs.length := by
  induction cs with
  | nil => simp [valueOf]
  | cons c cs inductionHypothesis =>
      rw [List.forall_mem_cons] at digits
      obtain ⟨-, small⟩ := toNat_of_isDigit digits.1
      have rest := inductionHypothesis digits.2
      rw [valueOf_cons, List.length_cons, Nat.pow_succ']
      calc digitValue c * 10 ^ cs.length + valueOf cs
          < digitValue c * 10 ^ cs.length + 10 ^ cs.length := Nat.add_lt_add_left rest _
        _ = (digitValue c + 1) * 10 ^ cs.length := (Nat.succ_mul _ _).symm
        _ ≤ 10 * 10 ^ cs.length := Nat.mul_le_mul_right _ small

/-! ## Runs of digits -/

/-- Runs of one length compare like their values. -/
theorem compareChars_digits (sameLength : first.length = second.length)
    (digits : ∀ c ∈ first, isDigit c = true) (otherDigits : ∀ c ∈ second, isDigit c = true)
    (rest others : List Char) : compareChars (first ++ rest) (second ++ others) =
      (compare (valueOf first) (valueOf second)).then (compareChars rest others) := by
  induction first generalizing second with
  | nil =>
      cases List.length_eq_zero_iff.mp sameLength.symm
      rfl
  | cons c first inductionHypothesis =>
      cases second with
      | nil => cases sameLength
      | cons d second =>
          have sameRest : first.length = second.length := Nat.succ.inj sameLength
          rw [List.forall_mem_cons] at digits otherDigits
          obtain ⟨code, -⟩ := toNat_of_isDigit digits.1
          obtain ⟨otherCode, -⟩ := toNat_of_isDigit otherDigits.1
          have codes : compare c.toNat d.toNat = compare (digitValue c) (digitValue d) := by
            rw [code, otherCode, compare_add_left]
          have below := valueOf_lt digits.2
          have otherBelow := valueOf_lt otherDigits.2
          rw [List.cons_append, List.cons_append, compareChars,
            inductionHypothesis sameRest digits.2 otherDigits.2, codes, valueOf_cons, valueOf_cons,
            ← sameRest, compare_places below (sameRest ▸ otherBelow), Ordering.then_assoc]

/-- Signs and hyphens come before all digits. -/
theorem compareChars_sign {sign c : Char} (below : sign.toNat < 48) (digit : isDigit c = true)
    (rest others : List Char) : compareChars (sign :: rest) (c :: others) = .lt := by
  obtain ⟨code, -⟩ := toNat_of_isDigit digit
  have less : sign.toNat < c.toNat := code ▸ Nat.lt_add_right _ below
  rw [compareChars, Nat.compare_eq_lt.mpr less]
  rfl

/-- A shorter run compares like the leading digits of a longer one, and comes first if they are the
same. -/
theorem compareChars_runs (shorter : first.length ≤ second.length)
    (digits : ∀ c ∈ first, isDigit c = true) (otherDigits : ∀ c ∈ second, isDigit c = true)
    (rest others : List Char) :
    compareChars (first ++ '-' :: rest) (second ++ '-' :: others) =
      (compare (valueOf first) (valueOf second / 10 ^ (second.length - first.length))).then
        (if first.length < second.length then .lt else compareChars rest others) := by
  obtain ⟨leading, tail, rfl, sameLength⟩ :
      ∃ leading tail, second = leading ++ tail ∧ leading.length = first.length :=
    ⟨_, _, (List.take_append_drop first.length second).symm, List.length_take_of_le shorter⟩
  rw [List.forall_mem_append] at otherDigits
  obtain ⟨leadingDigits, tailDigits⟩ := otherDigits
  have places : (leading ++ tail).length - first.length = tail.length := by
    rw [List.length_append, sameLength, Nat.add_sub_cancel_left]
  have value : valueOf (leading ++ tail) / 10 ^ tail.length = valueOf leading := by
    rw [valueOf_append_places, Nat.mul_comm, Nat.mul_add_div (Nat.pow_pos (by decide)),
      Nat.div_eq_of_lt (valueOf_lt tailDigits), Nat.add_zero]
  rw [places, value, List.append_assoc, compareChars_digits sameLength.symm digits leadingDigits]
  congr 1
  cases tail with
  | nil =>
      have same : ¬ first.length < (leading ++ []).length := by simp [sameLength]
      rw [if_neg same]
      rfl
  | cons c tail =>
      -- A digit stands where the shorter run has its hyphen.
      have longer : first.length < (leading ++ c :: tail).length := by simp [sameLength]
      rw [if_pos longer, List.cons_append]
      exact compareChars_sign (by decide) (tailDigits c List.mem_cons_self) rest _

/-! ## Padded numbers -/

/-- A larger number has at least as many digits. -/
theorem length_paddedDigits_mono (places : Nat) {less more : Nat} (atMost : less ≤ more) :
    (paddedDigits places less).length ≤ (paddedDigits places more).length := by
  have below : less < 10 ^ (paddedDigits places more).length := by
    have digits : ∀ c ∈ paddedDigits places more, isDigit c = true :=
      fun c => isDigit_of_mem_paddedDigits
    have bound := valueOf_lt digits
    rw [valueOf_paddedDigits] at bound
    exact Nat.lt_of_le_of_lt atMost bound
  have positive := List.length_pos_iff.mpr (paddedDigits_ne_nil places more)
  have fits := length_digits_le positive below
  have padded : places ≤ (paddedDigits places more).length := by
    simp only [paddedDigits, List.length_append, List.length_replicate]
    omega
  rw [paddedDigits, List.length_append, List.length_replicate]
  omega

/-- Numbers that fill the same places compare like their values. -/
theorem compareChars_paddedDigits {places m n : Nat} (positive : 0 < places) (below : m < 10 ^ places)
    (otherBelow : n < 10 ^ places) (rest others : List Char) :
    compareChars (paddedDigits places m ++ rest) (paddedDigits places n ++ others) =
      (compare m n).then (compareChars rest others) := by
  have sameLength : (paddedDigits places m).length = (paddedDigits places n).length := by
    rw [length_paddedDigits positive below, length_paddedDigits positive otherBelow]
  rw [compareChars_digits sameLength (fun c => isDigit_of_mem_paddedDigits)
    (fun c => isDigit_of_mem_paddedDigits), valueOf_paddedDigits, valueOf_paddedDigits]

/-- Of two numbers the larger one comes last if its leading digits are not below the other number,
and else first. -/
theorem compareChars_paddedDigits_of_lt (places : Nat) {m n : Nat} (less : m < n)
    (rest others : List Char) :
    let leading := n / 10 ^ ((paddedDigits places n).length - (paddedDigits places m).length)
    let compared :=
      compareChars (paddedDigits places m ++ '-' :: rest) (paddedDigits places n ++ '-' :: others)
    m ≤ leading ∧ compared = .lt ∨ leading < m ∧ compared = .gt := by
  intro leading compared
  have shorter := length_paddedDigits_mono places (Nat.le_of_lt less)
  have runs : compared = _ := compareChars_runs shorter (fun c => isDigit_of_mem_paddedDigits)
    (fun c => isDigit_of_mem_paddedDigits) rest others
  rw [valueOf_paddedDigits, valueOf_paddedDigits] at runs
  rcases Nat.lt_trichotomy m leading with below | same | above
  · rw [Nat.compare_eq_lt.mpr below] at runs
    exact .inl ⟨Nat.le_of_lt below, runs⟩
  · -- Different numbers have the same leading digits only if one of them is longer.
    have longer : (paddedDigits places m).length < (paddedDigits places n).length := by
      refine Nat.lt_of_le_of_ne shorter fun sameLength => Nat.ne_of_lt less ?_
      simpa [leading, sameLength] using same
    rw [Nat.compare_eq_eq.mpr same, if_pos longer] at runs
    exact .inl ⟨Nat.le_of_eq same, runs⟩
  · rw [Nat.compare_eq_gt.mpr above] at runs
    exact .inr ⟨above, runs⟩

end MovieCatalogue.Number

import Mathlib.Data.List.Basic
import MovieCatalogue.Number.Digits
import MovieCatalogue.Number.Integer
import MovieCatalogue.Proofs.Text.Trimming

/-!
Contract: whole numbers as they are written.

Owns: which characters a written number consists of, so that trimming leaves it as it
is; that a signed 64-bit word reads back from its text; and that padded digits are digits, that
they read back as the number they were written for, and how many places they fill.
Does not own: what the places mean.
-/

namespace MovieCatalogue.Number

/-! ## Numbers -/

theorem isBlank_of_isDigit {c : Char} (digit : isDigit c = true) : Text.isBlank c = false := by
  obtain ⟨lower, upper⟩ : 48 ≤ c.toNat ∧ c.toNat ≤ 57 := by simpa [isDigit] using digit
  simp only [Text.isBlank, Text.blankRanges, List.any_cons, List.any_nil, Bool.or_false,
    Bool.or_eq_false_iff, Bool.and_eq_false_iff, decide_eq_false_iff_not]
  omega

/-- A written number holds digits and perhaps a minus sign. -/
theorem mem_intChars {c : Char} {n : Int} (member : c ∈ intChars n) : c = '-' ∨ isDigit c = true := by
  have digit : c ∈ digits n.natAbs → isDigit c = true :=
    fun inDigits => List.all_eq_true.mp (all_isDigit_digits _) c inDigits
  unfold intChars at member
  split at member
  · exact (List.mem_cons.mp member).imp_right digit
  · exact .inr (digit member)

theorem trim_intText (n : Int) : Text.trim (intText n) = intText n := by
  have noBlank : ∀ c ∈ intChars n, Text.isBlank c = false := by
    intro c member
    rcases mem_intChars member with rfl | digit
    · rfl
    · exact isBlank_of_isDigit digit
  rw [intText, Text.trim, String.toList_ofList, (Text.trimmed_of_no_blanks noBlank).trimBlanks_eq_self]

theorem readDigits?_digits (n : Nat) : readDigits? (digits n) = some n := by
  simp [readDigits?, digits_ne_nil, all_isDigit_digits, valueOf_digits]

theorem readSigned?_intChars (n : Int) : readSigned? (intChars n) = some n := by
  unfold intChars
  split
  case isTrue negative =>
      have absolute : -(n.natAbs : Int) = n := by omega
      rw [readSigned?, readDigits?_digits]
      exact congrArg some absolute
  case isFalse nonnegative =>
      have absolute : (n.natAbs : Int) = n := by omega
      -- A run of digits does not start with a sign.
      have digit : ∀ c ∈ digits n.natAbs, isDigit c = true :=
        List.all_eq_true.mp (all_isDigit_digits _)
      unfold readSigned?
      split
      case h_1 minus => cases digit '-' (by simp [minus])
      case h_2 plus => cases digit '+' (by simp [plus])
      case h_3 => rw [readDigits?_digits]; exact congrArg some absolute

theorem fitsInt64_toInt (n : Int64) : fitsInt64 n.toInt = true := by
  have lower := n.le_toInt
  have upper := n.toInt_lt
  rw [fitsInt64, Bool.and_eq_true, decide_eq_true_eq, decide_eq_true_eq, minInt64, maxInt64]
  omega

/-- A signed 64-bit word reads back from its text. -/
theorem readInt64?_intText (n : Int64) : readInt64? (intText n.toInt) = some n := by
  rw [readInt64?, intText, String.toList_ofList, readSigned?_intChars]
  simp [fitsInt64_toInt]

/-! ## Digits that fill a number of places -/

/-- A number below a power of ten has no more digits than the power has zeros. -/
theorem length_digits_le {n places : Nat} (positive : 0 < places) (below : n < 10 ^ places) :
    (digits n).length ≤ places := by
  induction places generalizing n with
  | zero => omega
  | succ places inductionHypothesis =>
      unfold digits
      split
      · simp
      · rename_i large
        rw [Nat.pow_succ] at below
        have more : 0 < places := by
          rcases Nat.eq_zero_or_pos places with rfl | more
          · omega
          · exact more
        have shorter := inductionHypothesis more (Nat.div_lt_of_lt_mul (by omega : n < 10 * 10 ^ places))
        simp only [List.length_append, List.length_singleton]
        omega

theorem length_paddedDigits {n places : Nat} (positive : 0 < places) (below : n < 10 ^ places) :
    (paddedDigits places n).length = places := by
  have fits := length_digits_le positive below
  simp only [paddedDigits, List.length_append, List.length_replicate]
  omega

theorem paddedDigits_ne_nil (places n : Nat) : paddedDigits places n ≠ [] := by
  simp [paddedDigits, digits_ne_nil]

theorem isDigit_of_mem_paddedDigits {places n : Nat} {c : Char}
    (member : c ∈ paddedDigits places n) : isDigit c = true := by
  rcases List.mem_append.mp member with zero | digit
  · rw [List.eq_of_mem_replicate zero]
    rfl
  · exact List.all_eq_true.mp (all_isDigit_digits n) c digit

theorem valueOf_append (first second : List Char) :
    valueOf (first ++ second) = second.foldl (fun acc c => acc * 10 + digitValue c) (valueOf first) := by
  simp [valueOf]

theorem valueOf_replicate_zero (count : Nat) : valueOf (List.replicate count '0') = 0 := by
  induction count with
  | zero => rfl
  | succ count inductionHypothesis =>
      rw [List.replicate_succ', valueOf_append_digit, inductionHypothesis]
      rfl

/-- Zeros in front do not change what is read. -/
theorem valueOf_paddedDigits (places n : Nat) : valueOf (paddedDigits places n) = n := by
  rw [paddedDigits, valueOf_append, valueOf_replicate_zero]
  exact valueOf_digits n

end MovieCatalogue.Number

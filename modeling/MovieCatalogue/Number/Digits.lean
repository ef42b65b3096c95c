import MovieCatalogue.Number.Operators

/-!
Contract: decimal digits of natural numbers.

Owns: the decimal writing of a natural number, without leading zeros, and the
value of a run of ASCII digits. `valueOf_digits` says that a written number
reads back.
Does not own: signs, bounds and decimal points.
-/

namespace MovieCatalogue.Number

/-- The character of a digit below ten. -/
def digitChar (d : Nat) : Char :=
  Char.ofNat (48 + d)

/-- Whether a character is one of the ten ASCII digits. -/
def isDigit (c : Char) : Bool :=
  48 ≤ c.toNat && c.toNat ≤ 57

def digitValue (c : Char) : Nat :=
  c.toNat - 48

/-- The decimal digits of a number, the leading one first. -/
def digits (n : Nat) : List Char :=
  if _small : n < 10 then [digitChar n]
  else digits (n / 10) ++ [digitChar (n % 10)]
termination_by n
decreasing_by omega

def valueOf (cs : List Char) : Nat :=
  cs.foldl (fun acc c => acc * 10 + digitValue c) 0

theorem digitValue_digitChar {d : Nat} (below : d < 10) : digitValue (digitChar d) = d := by
  have everyDigit : ∀ e, e < 10 → digitValue (digitChar e) = e := by decide
  exact everyDigit d below

theorem isDigit_digitChar {d : Nat} (below : d < 10) : isDigit (digitChar d) = true := by
  have everyDigit : ∀ e, e < 10 → isDigit (digitChar e) = true := by decide
  exact everyDigit d below

theorem valueOf_append_digit (cs : List Char) (c : Char) :
    valueOf (cs ++ [c]) = valueOf cs * 10 + digitValue c := by
  simp [valueOf]

/-- A written number reads back. -/
theorem valueOf_digits (n : Nat) : valueOf (digits n) = n := by
  fun_induction digits n with
  | case1 n small => simp [valueOf, digitValue_digitChar small]
  | case2 n large inductionHypothesis =>
      rw [valueOf_append_digit, inductionHypothesis,
        digitValue_digitChar (Nat.mod_lt n (by decide))]
      omega

/-- A written number holds digits only. -/
theorem all_isDigit_digits (n : Nat) : (digits n).all isDigit = true := by
  fun_induction digits n with
  | case1 n small => simp [isDigit_digitChar small]
  | case2 n large inductionHypothesis =>
      simp [inductionHypothesis, isDigit_digitChar (Nat.mod_lt n (by decide : 0 < 10))]

theorem digits_ne_nil (n : Nat) : digits n ≠ [] := by
  unfold digits
  split <;> simp

/-- Digits of `n` behind as many zeros as fill `width` places. -/
def paddedDigits (width n : Nat) : List Char :=
  List.replicate (width - (digits n).length) '0' ++ digits n

def natText (n : Nat) : String :=
  String.ofList (digits n)

/-- An integer as text, a minus sign before the negative ones. -/
def intChars (n : Int) : List Char :=
  if n < 0 then '-' :: digits n.natAbs else digits n.natAbs

/-- An integer as text, a minus sign before the negative ones. -/
def intText (n : Int) : String :=
  String.ofList (intChars n)

end MovieCatalogue.Number

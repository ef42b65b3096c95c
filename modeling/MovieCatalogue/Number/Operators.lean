/-!
Contract: which operations are meant by `^` and by sums.

Owns: the choice of the language's own powers, and of the plain zero for sums of natural
numbers, where a library is in scope that has others, equal to them.
Does not own: laws of these operations.
-/

namespace MovieCatalogue.Number

universe u

@[default_instance 20000]
instance (priority := 2000) plainPower {R : Type u} [NatPow R] : Pow R Nat := instPowNat

instance (priority := 2000) plainZero : Zero Nat := ⟨0⟩

end MovieCatalogue.Number

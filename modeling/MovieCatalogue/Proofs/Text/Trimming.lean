import Mathlib.Data.List.TakeWhile
import MovieCatalogue.Text.Blank

/-!
Contract: blanks at the ends of texts.

Owns: `Trimmed`, that a text has no blank at either end; and that trimming takes exactly the blanks
away that were put around such a text.
Does not own: which characters are blanks.
-/

namespace MovieCatalogue.Text

variable {cs before after : List Char}

/-- The text neither starts nor ends with a blank. -/
structure Trimmed (cs : List Char) : Prop where
  first : ∀ c ∈ cs.head?, isBlank c = false
  last : ∀ c ∈ cs.getLast?, isBlank c = false

theorem trimmed_of_no_blanks (noBlank : ∀ c ∈ cs, isBlank c = false) : Trimmed cs where
  first := fun c head => noBlank c (List.mem_of_mem_head? head)
  last := fun c last => noBlank c (List.mem_of_mem_getLast? last)

/-- Blanks are taken away up to the first character that is none. -/
theorem trimStart_append (blank : ∀ c ∈ before, isBlank c = true)
    (first : ∀ c ∈ cs.head?, isBlank c = false) : trimStart (before ++ cs) = cs := by
  rw [trimStart, List.dropWhile_append_of_pos blank]
  cases cs with
  | nil => rfl
  | cons c cs =>
      have noBlank : ¬ isBlank c = true := by simp [first c rfl]
      exact List.dropWhile_cons_of_neg noBlank

/-- Trimming takes the blanks away that were put around a text. -/
theorem Trimmed.trimBlanks_append (trimmed : Trimmed cs) (blankBefore : ∀ c ∈ before, isBlank c = true)
    (blankAfter : ∀ c ∈ after, isBlank c = true) : trimBlanks (before ++ cs ++ after) = cs := by
  have blankBehind : ∀ c ∈ after.reverse, isBlank c = true := fun c member =>
    blankAfter c (List.mem_reverse.mp member)
  have lastFirst : ∀ c ∈ cs.reverse.head?, isBlank c = false := by
    rw [List.head?_reverse]
    exact trimmed.last
  have tail : trimStart (after.reverse ++ cs.reverse) = cs.reverse :=
    trimStart_append blankBehind lastFirst
  cases cs with
  | nil =>
      have allBlank : trimStart (before ++ [] ++ after) = [] := by
        have blank : ∀ c ∈ before ++ [] ++ after, isBlank c = true := by
          rw [List.append_nil]
          exact List.forall_mem_append.mpr ⟨blankBefore, blankAfter⟩
        exact List.dropWhile_eq_nil_iff.mpr blank
      rw [trimBlanks, allBlank]
      rfl
  | cons c cs =>
      have head : ∀ d ∈ (c :: cs ++ after).head?, isBlank d = false := trimmed.first
      rw [trimBlanks, List.append_assoc, trimStart_append blankBefore head, List.reverse_append, tail,
        List.reverse_reverse]

theorem trimBlanks_of_blanks (blank : ∀ c ∈ cs, isBlank c = true) : trimBlanks cs = [] := by
  have trimmed : Trimmed [] := ⟨nofun, nofun⟩
  have none : ∀ c ∈ ([] : List Char), isBlank c = true := nofun
  simpa using trimmed.trimBlanks_append blank none

theorem Trimmed.trimBlanks_eq_self (trimmed : Trimmed cs) : trimBlanks cs = cs := by
  have none : ∀ c ∈ ([] : List Char), isBlank c = true := nofun
  have around := trimmed.trimBlanks_append none none
  rwa [List.nil_append, List.append_nil] at around

end MovieCatalogue.Text

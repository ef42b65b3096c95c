import MovieCatalogue.Proofs.Text.Cutting
import MovieCatalogue.Selection.Pattern

/-!
Contract: needles at the start of a word.

Owns: `BeginsWord`, that a needle occurs at the start of a text or behind a blank; and how
far patterns agree with it. They look at the occurrences that a scan from left to right
finds, which never overlap: what they match begins a word, and a needle is found at every
such place if and only if it does not start over behind one of its own blanks.
Does not own: the other anchors.
-/

namespace MovieCatalogue.Text

variable {first : Char} {others rest front cs : List Char} {before precededBy : Option Char}

/-! ## Scanning -/

/-- Behind an occurrence the scan goes on with its last character. -/
theorem precedingChars_append (rest : List Char) : precedingChars first others before
    (first :: others ++ rest) =
      before :: precedingChars first others (first :: others).getLast? rest := by
  have stripped := stripStart?_append (first :: others) rest
  rw [precedingChars]
  split
  case h_1 found hit =>
      cases stripped.symm.trans hit
      rfl
  case h_2 missed => cases stripped.symm.trans missed

theorem precedingChars_cons {c : Char} (missed : ¬ first :: others <+: c :: rest) :
    precedingChars first others before (c :: rest) = precedingChars first others (some c) rest := by
  have notStripped := stripStart?_eq_none_iff.mpr missed
  rw [precedingChars]
  split
  case h_1 found hit => cases notStripped.symm.trans hit
  case h_2 => rfl

theorem precedingChars_of_short (short : cs.length < (first :: others).length) :
    precedingChars first others before cs = [] := by
  induction cs generalizing before with
  | nil =>
      rw [precedingChars]
      rfl
  | cons c rest inductionHypothesis =>
      have missed : ¬ first :: others <+: c :: rest := fun hit =>
        Nat.not_le_of_lt short hit.length_le
      rw [precedingChars_cons missed]
      apply inductionHypothesis
      simp only [List.length_cons] at short ⊢
      omega

/-- The character in front of a place behind an occurrence is one of the text from there on. -/
private theorem getLast?_occurrence_append (front : List Char) (before : Option Char) :
    (first :: others ++ front).getLast?.or before = front.getLast?.or (first :: others).getLast? := by
  rw [List.getLast?_append, Option.or_assoc, List.getLast?_cons]
  rfl

private theorem getLast?_cons_or (c : Char) (front : List Char) (before : Option Char) :
    (c :: front).getLast?.or before = front.getLast?.or (some c) := by
  rw [List.getLast?_cons]
  cases front.getLast? <;> rfl

/-- What the scan finds occurs in the text, behind the character that is given for it. -/
theorem exists_occurrence_of_mem_precedingChars
    (found : precededBy ∈ precedingChars first others before cs) :
    ∃ front, front ++ first :: others <+: cs ∧ precededBy = front.getLast?.or before := by
  fun_induction precedingChars first others before cs with
  | case1 before cs rest stripped inductionHypothesis =>
      have text := eq_append_of_stripStart? stripped
      subst text
      rcases List.mem_cons.mp found with rfl | later
      · exact ⟨[], List.prefix_append _ _, rfl⟩
      · obtain ⟨front, occurs, rfl⟩ := inductionHypothesis later
        refine ⟨first :: others ++ front, ?_, (getLast?_occurrence_append front before).symm⟩
        rw [List.append_assoc]
        exact (List.prefix_append_right_inj _).mpr occurs
  | case2 before missed => cases found
  | case3 before c tail missed inductionHypothesis =>
      obtain ⟨front, occurs, rfl⟩ := inductionHypothesis found
      exact ⟨c :: front, List.cons_prefix_cons.mpr ⟨rfl, occurs⟩,
        (getLast?_cons_or c front before).symm⟩

/-! ## Needles that overlap themselves -/

/-- An end of the needle behind this character is also a beginning of it, so that the needle can
start over there before it has ended. -/
def RestartsBehind (c : Char) (needle : List Char) : Prop :=
  ∃ front border, needle = front ++ c :: border ∧ border ≠ [] ∧ border <+: needle

theorem RestartsBehind.mem {c : Char} {needle : List Char} (restarts : RestartsBehind c needle) :
    c ∈ needle := by
  obtain ⟨front, border, rfl, -, -⟩ := restarts
  simp

/-- A needle that occurs at the start and again before that occurrence has ended starts over. -/
theorem restartsBehind_of_overlap {needle : List Char} {c : Char}
    (occurs : front ++ [c] ++ needle <+: needle ++ rest)
    (inside : (front ++ [c]).length < needle.length) : RestartsBehind c needle := by
  have shiftStarts : front ++ [c] <+: needle :=
    List.prefix_of_prefix_length_le ((List.prefix_append _ _).trans occurs)
      (List.prefix_append _ _) (Nat.le_of_lt inside)
  obtain ⟨border, rfl⟩ := shiftStarts
  rw [List.append_assoc (front ++ [c]) border rest, List.prefix_append_right_inj] at occurs
  refine ⟨front, border, by simp, ?_, ?_⟩
  · rintro rfl
    simp at inside
  · have shorter : border.length ≤ (front ++ [c] ++ border).length := by
      simp only [List.length_append]
      omega
    exact List.prefix_of_prefix_length_le (List.prefix_append _ _) occurs shorter

/-- Every occurrence is found, unless it starts inside one that is found. -/
theorem mem_precedingChars_or_restartsBehind (occurs : front ++ first :: others <+: cs) :
    front.getLast?.or before ∈ precedingChars first others before cs ∨
      ∃ c, front.getLast? = some c ∧ RestartsBehind c (first :: others) := by
  fun_induction precedingChars first others before cs generalizing front with
  | case1 before cs rest stripped inductionHypothesis =>
      have text := eq_append_of_stripStart? stripped
      subst text
      -- Inside the occurrence that is found here the needle starts over; behind it the scan goes on.
      rcases Nat.lt_or_ge front.length (first :: others).length with inside | behind
      · rcases List.eq_nil_or_concat' front with rfl | ⟨start, c, rfl⟩
        · exact .inl List.mem_cons_self
        · exact .inr ⟨c, List.getLast?_concat, restartsBehind_of_overlap occurs inside⟩
      · have starts : first :: others <+: front :=
          List.prefix_of_prefix_length_le (List.prefix_append _ _)
            ((List.prefix_append _ _).trans occurs) behind
        obtain ⟨later, rfl⟩ := starts
        rw [List.append_assoc, List.prefix_append_right_inj] at occurs
        rw [getLast?_occurrence_append]
        rcases inductionHypothesis occurs with found | ⟨c, last, restarts⟩
        · exact .inl (List.mem_cons_of_mem _ found)
        · exact .inr ⟨c, by rw [List.getLast?_append, last]; rfl, restarts⟩
  | case2 before missed => simp at occurs
  | case3 before c tail missed inductionHypothesis =>
      cases front with
      | nil => exact absurd occurs (stripStart?_eq_none_iff.mp missed)
      | cons head front =>
          obtain ⟨rfl, tailOccurs⟩ := List.cons_prefix_cons.mp occurs
          rw [getLast?_cons_or]
          rcases inductionHypothesis tailOccurs with found | ⟨c, last, restarts⟩
          · exact .inl found
          · exact .inr ⟨c, by rw [List.getLast?_cons, last]; rfl, restarts⟩

end MovieCatalogue.Text

namespace MovieCatalogue.Selection.Pattern

open MovieCatalogue.Text

/-- The needle occurs in the text at its start or directly behind a blank. -/
def BeginsWord (needle text : List Char) : Prop :=
  ∃ front, front ++ needle <+: text ∧ ∀ c ∈ front.getLast?, isBlank c = true

variable {needle text : List Char}

theorem opensWord_iff {before : Option Char} :
    opensWord before = true ↔ ∀ c ∈ before, isBlank c = true := by
  cases before <;> simp [opensWord]

theorem beginsWord_of_startsWord (matched : startsWord needle text = true) :
    BeginsWord needle text := by
  cases needle with
  | nil => exact ⟨[], List.nil_prefix, by simp⟩
  | cons first others =>
      obtain ⟨before, found, opens⟩ := List.any_eq_true.mp matched
      obtain ⟨front, occurs, rfl⟩ := exists_occurrence_of_mem_precedingChars found
      rw [Option.or_none, opensWord_iff] at opens
      exact ⟨front, occurs, opens⟩

theorem startsWord_of_beginsWord (begins : BeginsWord needle text)
    (never : ∀ c, isBlank c = true → ¬ RestartsBehind c needle) : startsWord needle text = true := by
  cases needle with
  | nil => rfl
  | cons first others =>
      obtain ⟨front, occurs, blank⟩ := begins
      have scanned : front.getLast?.or none ∈ precedingChars first others none text ∨ _ :=
        mem_precedingChars_or_restartsBehind occurs
      rcases scanned with found | ⟨c, last, restarts⟩
      · rw [Option.or_none] at found
        exact List.any_eq_true.mpr ⟨front.getLast?, found, opensWord_iff.mpr blank⟩
      · exact absurd restarts (never c (blank c last))

theorem exists_other_letter (c : Char) : ∃ letter, isBlank letter = false ∧ letter ≠ c := by
  by_cases same : c = 'a'
  · exact ⟨'b', rfl, by simp [same]⟩
  · exact ⟨'a', rfl, Ne.symm same⟩

/-- A needle that starts over behind a blank is missed in some text: there the first occurrence,
inside a word, hides the second one. -/
theorem exists_missed {blank : Char} (isBlank_blank : isBlank blank = true)
    (restarts : RestartsBehind blank needle) :
    ∃ text, BeginsWord needle text ∧ startsWord needle text = false := by
  obtain ⟨front, border, split, nonempty, tail, starts⟩ := restarts
  obtain ⟨first, others, rfl⟩ : ∃ first others, needle = first :: others :=
    List.exists_cons_of_ne_nil (by simp [split])
  obtain ⟨letter, notBlank, different⟩ := exists_other_letter first
  have twice : front ++ blank :: (first :: others) = first :: others ++ tail := by
    conv_lhs => rw [← starts]
    conv_rhs => rw [split]
    simp
  have short : tail.length < (first :: others).length := by
    have positive := List.length_pos_iff.mpr nonempty
    rw [← starts, List.length_append]
    omega
  -- The border stands for both occurrences, and behind the first one is too little left for another.
  refine ⟨letter :: (front ++ blank :: (first :: others)), ⟨letter :: (front ++ [blank]), ?_, ?_⟩, ?_⟩
  · simp
  · intro c last
    rw [← List.cons_append, List.getLast?_concat] at last
    exact Option.some.inj last ▸ isBlank_blank
  · have missed : ¬ first :: others <+: letter :: (first :: others ++ tail) := fun hit =>
      different (List.cons_prefix_cons.mp hit).1.symm
    rw [startsWord, twice, precedingChars_cons missed, precedingChars_append,
      precedingChars_of_short short]
    simp [opensWord, notBlank]

/--
A pattern for the start of a word matches only texts in which its needle begins a word. It
matches all of them if and only if the needle does not start over behind a blank, since of
two occurrences that overlap only the first is looked at.
-/
theorem isMatch_wordStart (needle : String) :
    (∀ text, isMatch ⟨.wordStart, needle⟩ text = true → BeginsWord needle.toList text.toList) ∧
      ((∀ text, BeginsWord needle.toList text.toList → isMatch ⟨.wordStart, needle⟩ text = true) ↔
        ∀ c, isBlank c = true → ¬ RestartsBehind c needle.toList) := by
  refine ⟨fun text matched => beginsWord_of_startsWord matched, ?_, ?_⟩
  · intro all blank isBlank_blank restarts
    obtain ⟨text, begins, missed⟩ := exists_missed isBlank_blank restarts
    have matched : isMatch ⟨.wordStart, needle⟩ (String.ofList text) = true := by
      apply all
      rwa [String.toList_ofList]
    rw [isMatch, String.toList_ofList, missed] at matched
    cases matched
  · intro never text begins
    exact startsWord_of_beginsWord begins never

/-- A needle without blanks is found at the start of a word. -/
theorem isMatch_wordStart_mars : BeginsWord "Ma".toList "Escape\tMars".toList ∧
    isMatch ⟨.wordStart, "Ma"⟩ "Escape\tMars" = true := by
  have begins : BeginsWord "Ma".toList "Escape\tMars".toList :=
    ⟨"Escape\t".toList, by decide, opensWord_iff.mp rfl⟩
  have noBlank : "Ma".toList.any isBlank = false := by decide
  refine ⟨begins, (isMatch_wordStart "Ma").2.mpr ?_ _ begins⟩
  intro c blank restarts
  exact List.any_eq_false.mp noBlank c restarts.mem blank

/-- The needle begins the second word, but it is found inside the first one, where it has not ended
yet when the second word begins. -/
theorem isMatch_wordStart_misses : BeginsWord "a a".toList "ba a a".toList ∧
    isMatch ⟨.wordStart, "a a"⟩ "ba a a" = false := by
  exact ⟨⟨"ba ".toList, by decide, opensWord_iff.mp rfl⟩, by decide +kernel⟩

end MovieCatalogue.Selection.Pattern

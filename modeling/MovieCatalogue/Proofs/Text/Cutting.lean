import Mathlib.Data.List.Infix
import MovieCatalogue.Text.Cut

/-!
Contract: texts that are joined and cut again, and occurrences in them that are replaced.

Owns: that parts which are joined by a separator come back when the text is cut at it:
all of them if no part holds the separator, and with a bound on their number also if the
last one does; that a text consists of the parts that it is cut into, of which the
ones in front do not hold the separator; and that characters which are written one by one, and
items with a separator between them, are told from what follows if each of them is and if what
follows begins no further one. Also that replacing acts on each piece of a text alone, if it does
so on the first piece whatever comes behind it, and which characters of the result were there before.
Does not own: what the parts mean, and which texts are replaced.
-/

namespace MovieCatalogue.Text

variable {separator : Char} {part rest : List Char}

theorem stripStart?_eq_none_iff {start cs : List Char} :
    stripStart? start cs = none ↔ ¬ start <+: cs := by
  constructor
  · rintro missed ⟨rest, rfl⟩
    rw [stripStart?_append] at missed
    cases missed
  · intro notPrefix
    cases stripped : stripStart? start cs with
    | none => rfl
    | some rest => exact absurd ⟨rest, (eq_append_of_stripStart? stripped).symm⟩ notPrefix

theorem stripEnd?_append (finish : List Char) :
    stripEnd? finish (rest ++ finish) = some rest := by
  rw [stripEnd?, List.reverse_append, stripStart?_append, Option.map_some, List.reverse_reverse]

theorem joinWith_singleton (separator only : List Char) : joinWith separator [only] = only := by
  simp [joinWith]

theorem joinWith_cons_cons (separator first second : List Char) (others : List (List Char)) :
    joinWith separator (first :: second :: others) =
      first ++ (separator ++ joinWith separator (second :: others)) := by
  simp [joinWith]

theorem prefix_joinWith (separator first : List Char) (others : List (List Char)) :
    first <+: joinWith separator (first :: others) := by
  cases others with
  | nil => rw [joinWith_singleton]
  | cons second others =>
      rw [joinWith_cons_cons]
      exact List.prefix_append _ _

/-- The first occurrence of a separator is behind a part without it. -/
theorem cutAt?_append (free : separator ∉ part) :
    cutAt? [separator] (part ++ separator :: rest) = some (part, rest) := by
  induction part with
  | nil => simp [cutAt?, stripStart?]
  | cons c part inductionHypothesis =>
      rw [List.mem_cons, not_or] at free
      simp [cutAt?, stripStart?, free.1, inductionHypothesis free.2]

theorem splitOn_of_not_mem (free : separator ∉ part) : splitOn separator part = [part] := by
  induction part with
  | nil => rfl
  | cons c part inductionHypothesis =>
      rw [List.mem_cons, not_or] at free
      simp [splitOn, Ne.symm free.1, inductionHypothesis free.2]

theorem splitOn_append (free : separator ∉ part) :
    splitOn separator (part ++ separator :: rest) = part :: splitOn separator rest := by
  induction part with
  | nil => simp [splitOn]
  | cons c part inductionHypothesis =>
      rw [List.mem_cons, not_or] at free
      simp [splitOn, Ne.symm free.1, inductionHypothesis free.2]

theorem length_splitOn (cs : List Char) : (splitOn separator cs).length = cs.count separator + 1 := by
  induction cs with
  | nil => rfl
  | cons c cs inductionHypothesis =>
      by_cases same : c = separator
      · simp [splitOn, same, inductionHypothesis]
      · cases parts : splitOn separator cs with
        | nil => exact absurd parts (splitOn_ne_nil separator cs)
        | cons first others =>
            rw [parts] at inductionHypothesis
            simp [splitOn, same, parts, ← inductionHypothesis]

theorem not_mem_of_mem_splitOn {cs : List Char} :
    ∀ part ∈ splitOn separator cs, separator ∉ part := by
  induction cs with
  | nil => simp [splitOn]
  | cons c cs inductionHypothesis =>
      by_cases same : c = separator
      · simpa [splitOn, same] using inductionHypothesis
      · cases parts : splitOn separator cs with
        | nil => exact absurd parts (splitOn_ne_nil separator cs)
        | cons first others =>
            rw [parts, List.forall_mem_cons] at inductionHypothesis
            simpa [splitOn, same, parts, Ne.symm same] using inductionHypothesis

theorem splitOn_joinWith {parts : List (List Char)} (nonempty : parts ≠ [])
    (free : ∀ part ∈ parts, separator ∉ part) :
    splitOn separator (joinWith [separator] parts) = parts := by
  induction parts with
  | nil => exact absurd rfl nonempty
  | cons first parts inductionHypothesis =>
      rw [List.forall_mem_cons] at free
      cases parts with
      | nil => simpa [joinWith] using splitOn_of_not_mem free.1
      | cons second others =>
          rw [joinWith_cons_cons, List.singleton_append, splitOn_append free.1,
            inductionHypothesis (List.cons_ne_nil _ _) free.2]

theorem eq_append_of_cutAt? {separator cs part rest : List Char}
    (cut : cutAt? separator cs = some (part, rest)) : cs = part ++ (separator ++ rest) := by
  induction cs generalizing part with
  | nil =>
      rw [cutAt?] at cut
      split at cut
      case h_1 stripped =>
          cases cut
          exact (eq_append_of_stripStart? stripped).trans (List.nil_append _).symm
      case h_2 => cases cut
  | cons c cs inductionHypothesis =>
      rw [cutAt?] at cut
      split at cut
      case h_1 stripped =>
          cases cut
          exact (eq_append_of_stripStart? stripped).trans (List.nil_append _).symm
      case h_2 =>
          obtain ⟨⟨front, behind⟩, cutLater, built⟩ := Option.map_eq_some_iff.mp cut
          cases built
          rw [inductionHypothesis cutLater, List.cons_append]

/-- The part in front of the first occurrence of a separator does not hold it. -/
theorem not_infix_of_cutAt? {separator cs part rest : List Char} (nonempty : separator ≠ [])
    (cut : cutAt? separator cs = some (part, rest)) : ¬ separator <:+: part := by
  induction cs generalizing part with
  | nil =>
      rw [cutAt?] at cut
      split at cut
      case h_1 =>
          cases cut
          simpa using nonempty
      case h_2 => cases cut
  | cons c cs inductionHypothesis =>
      rw [cutAt?] at cut
      split at cut
      case h_1 =>
          cases cut
          simpa using nonempty
      case h_2 missed =>
          obtain ⟨⟨front, behind⟩, cutLater, built⟩ := Option.map_eq_some_iff.mp cut
          cases built
          have inText : c :: front <+: c :: cs := by
            rw [eq_append_of_cutAt? cutLater, ← List.cons_append]
            exact List.prefix_append _ _
          intro inside
          rcases List.infix_cons_iff.mp inside with here | later
          · exact stripStart?_eq_none_iff.mp missed (here.trans inText)
          · exact inductionHypothesis cutLater later

/-- Two different characters do not overlap themselves, so their first occurrence is behind a part
that does not hold them, whatever this part ends with. -/
theorem cutAt?_pair_append {first second : Char} (different : first ≠ second)
    (free : ¬ [first, second] <:+: part) :
    cutAt? [first, second] (part ++ first :: second :: rest) = some (part, rest) := by
  induction part with
  | nil => simp [cutAt?, stripStart?]
  | cons c part inductionHypothesis =>
      rw [List.infix_cons_iff, not_or] at free
      have missed : stripStart? [first, second] (c :: (part ++ first :: second :: rest)) = none := by
        rw [stripStart?_eq_none_iff]
        intro here
        cases part with
        | nil => simp [different.symm] at here
        | cons d part => exact free.1 (by simpa using here)
      rw [List.cons_append, cutAt?, missed, inductionHypothesis free.2]
      rfl

theorem eq_append_of_stripEnd? {finish cs rest : List Char}
    (stripped : stripEnd? finish cs = some rest) : cs = rest ++ finish := by
  obtain ⟨reversed, found, rfl⟩ := Option.map_eq_some_iff.mp stripped
  rw [← List.reverse_inj, eq_append_of_stripStart? found]
  simp

theorem cutAt?_singleton_eq_none_iff {cs : List Char} :
    cutAt? [separator] cs = none ↔ separator ∉ cs := by
  induction cs with
  | nil => simp [cutAt?, stripStart?]
  | cons c cs inductionHypothesis =>
      by_cases same : separator = c
      · simp [cutAt?, stripStart?, same]
      · simp [cutAt?, stripStart?, same, inductionHypothesis]

theorem cutAt?_singleton_eq_some {cs : List Char}
    (cut : cutAt? [separator] cs = some (part, rest)) :
    separator ∉ part ∧ cs = part ++ separator :: rest := by
  have free := not_infix_of_cutAt? (List.cons_ne_nil _ _) cut
  rw [List.singleton_infix_iff] at free
  exact ⟨free, eq_append_of_cutAt? cut⟩

/-- There is one part more than there are separators, up to the bound. -/
theorem length_splitAtMost (separator : Char) (most : Nat) (cs : List Char) :
    (splitAtMost separator most cs).length = min most (cs.count separator + 1) := by
  fun_induction splitAtMost separator most cs with
  | case1 => simp
  | case2 => simp
  | case3 most cs missed =>
      have none := List.count_eq_zero.mpr (cutAt?_singleton_eq_none_iff.mp missed)
      simp [none]
  | case4 most cs part rest cut inductionHypothesis =>
      obtain ⟨free, rfl⟩ := cutAt?_singleton_eq_some cut
      rw [List.length_cons, inductionHypothesis, List.count_append, List.count_cons_self,
        List.count_eq_zero.mpr free]
      omega

theorem exists_splitAtMost_eq_cons (separator : Char) (most : Nat) (cs : List Char) :
    ∃ first others, splitAtMost separator (most + 1) cs = first :: others := by
  apply List.exists_cons_of_length_pos
  rw [length_splitAtMost]
  omega

/-- The parts of a text with a bound on their number, joined by the separator, are the text. -/
theorem joinWith_splitAtMost (separator : Char) (most : Nat) (cs : List Char) :
    joinWith [separator] (splitAtMost separator (most + 1) cs) = cs := by
  induction most generalizing cs with
  | zero => simp [splitAtMost, joinWith]
  | succ most inductionHypothesis =>
      rw [splitAtMost]
      split
      case h_1 => simp [joinWith]
      case h_2 part rest cut =>
          obtain ⟨-, rfl⟩ := cutAt?_singleton_eq_some cut
          obtain ⟨first, others, parts⟩ := exists_splitAtMost_eq_cons separator most rest
          have joined := inductionHypothesis rest
          rw [parts] at joined ⊢
          rw [joinWith_cons_cons, joined, List.singleton_append]

/-- Of these parts only the last one may hold the separator. -/
theorem not_mem_of_mem_dropLast_splitAtMost {most : Nat} {cs : List Char} :
    ∀ part ∈ (splitAtMost separator most cs).dropLast, separator ∉ part := by
  fun_induction splitAtMost separator most cs with
  | case1 => simp
  | case2 => simp
  | case3 => simp
  | case4 most cs part rest cut inductionHypothesis =>
      obtain ⟨free, -⟩ := cutAt?_singleton_eq_some cut
      obtain ⟨first, others, parts⟩ := exists_splitAtMost_eq_cons separator most rest
      rw [parts] at inductionHypothesis ⊢
      rw [List.dropLast_cons_of_ne_nil (List.cons_ne_nil _ _)]
      exact List.forall_mem_cons.mpr ⟨free, inductionHypothesis⟩

/-- Joined parts are cut into these parts if only the last one may hold the separator. -/
theorem splitAtMost_joinWith (front : List (List Char)) (last : List Char)
    (free : ∀ part ∈ front, separator ∉ part) :
    splitAtMost separator (front.length + 1) (joinWith [separator] (front ++ [last])) =
      front ++ [last] := by
  induction front with
  | nil => simp [splitAtMost, joinWith]
  | cons first front inductionHypothesis =>
      rw [List.forall_mem_cons] at free
      obtain ⟨second, others, following⟩ : ∃ second others, front ++ [last] = second :: others :=
        List.exists_cons_of_ne_nil (by simp)
      rw [following] at inductionHypothesis
      rw [List.cons_append, following, joinWith_cons_cons, List.length_cons, splitAtMost,
        List.singleton_append, cutAt?_append free.1]
      exact congrArg _ (inductionHypothesis free.2)

/-! ## Texts that end where others begin -/

variable {otherRest : List Char}

/-- Characters are read back one by one if each of them is and what follows is not one more. -/
theorem flatMap_append_inj {code : Char → List Char}
    (one : ∀ c d rest otherRest, code c ++ rest = code d ++ otherRest → c = d ∧ rest = otherRest)
    (ends : ∀ c later, code c ++ later ≠ rest) (otherEnds : ∀ c later, code c ++ later ≠ otherRest)
    {cs ds : List Char} (same : cs.flatMap code ++ rest = ds.flatMap code ++ otherRest) :
    cs = ds ∧ rest = otherRest := by
  induction cs generalizing ds with
  | nil =>
      cases ds with
      | nil => exact ⟨rfl, same⟩
      | cons d ds =>
          rw [List.flatMap_cons, List.append_assoc] at same
          exact absurd same.symm (ends d _)
  | cons c cs inductionHypothesis =>
      rw [List.flatMap_cons, List.append_assoc] at same
      cases ds with
      | nil => exact absurd same (otherEnds c _)
      | cons d ds =>
          rw [List.flatMap_cons, List.append_assoc] at same
          obtain ⟨rfl, later⟩ := one _ _ _ _ same
          obtain ⟨rfl, sameRest⟩ := inductionHypothesis later
          exact ⟨rfl, sameRest⟩

/-- A word ends at the first character that no word has. -/
theorem append_cons_inj {stop : Char} {word other : List Char} (free : stop ∉ word)
    (otherFree : stop ∉ other) (same : word ++ stop :: rest = other ++ stop :: otherRest) :
    word = other ∧ rest = otherRest := by
  have cut := congrArg (cutAt? [stop]) same
  rw [cutAt?_append free, cutAt?_append otherFree] at cut
  exact Prod.mk.inj (Option.some.inj cut)

/-- Items with a separator between them are related one by one if the first two are, wherever they
stand in front of a separator or of the rest, and the rest does not begin with a separator. -/
theorem joinWith_append_inj {α : Type} (write : α → List Char) (R : α → α → Prop)
    (Follows : List Char → Prop) {separator : List Char} {items others : List α}
    (one : ∀ item ∈ items, ∀ other ∈ others, ∀ rest otherRest, Follows rest → Follows otherRest →
      write item ++ rest = write other ++ otherRest → R item other ∧ rest = otherRest)
    (separated : ∀ later, Follows (separator ++ later)) (follows : Follows rest)
    (otherFollows : Follows otherRest) (ends : ¬ separator <+: rest)
    (otherEnds : ¬ separator <+: otherRest) (nonempty : items ≠ []) (otherNonempty : others ≠ [])
    (same : joinWith separator (items.map write) ++ rest =
      joinWith separator (others.map write) ++ otherRest) :
    List.Forall₂ R items others ∧ rest = otherRest := by
  induction items generalizing others with
  | nil => exact absurd rfl nonempty
  | cons item items inductionHypothesis =>
      obtain ⟨other, others, rfl⟩ := List.exists_cons_of_ne_nil otherNonempty
      have first := one item List.mem_cons_self other List.mem_cons_self
      simp only [List.map_cons] at same
      cases items with
      | nil =>
          rw [List.map_nil, joinWith_singleton] at same
          cases others with
          | nil =>
              rw [List.map_nil, joinWith_singleton] at same
              obtain ⟨related, sameRest⟩ := first _ _ follows otherFollows same
              exact ⟨.cons related .nil, sameRest⟩
          | cons second others =>
              rw [List.map_cons, joinWith_cons_cons, List.append_assoc, List.append_assoc] at same
              exact absurd ⟨_, (first _ _ follows (separated _) same).2.symm⟩ ends
      | cons next items =>
          rw [List.map_cons, joinWith_cons_cons, List.append_assoc, List.append_assoc] at same
          cases others with
          | nil =>
              rw [List.map_nil, joinWith_singleton] at same
              exact absurd ⟨_, (first _ _ (separated _) otherFollows same).2⟩ otherEnds
          | cons second others =>
              rw [List.map_cons, joinWith_cons_cons, List.append_assoc, List.append_assoc] at same
              obtain ⟨related, later⟩ := first _ _ (separated _) (separated _) same
              obtain ⟨relatedLater, sameRest⟩ := inductionHypothesis
                (fun item inItems other inOthers => one item (List.mem_cons_of_mem _ inItems) other
                  (List.mem_cons_of_mem _ inOthers))
                (List.cons_ne_nil _ _) (List.cons_ne_nil _ _) (List.append_cancel_left later)
              exact ⟨.cons related relatedLater, sameRest⟩

/-! ## Replacing -/

section

variable {first : Char} {others replacement : List Char}

theorem replaceAll_nil : replaceAll first others replacement [] = [] := by
  rw [replaceAll]
  rfl

theorem replaceAll_append (rest : List Char) :
    replaceAll first others replacement (first :: others ++ rest) =
      replacement ++ replaceAll first others replacement rest := by
  have stripped := stripStart?_append (first :: others) rest
  rw [replaceAll]
  split
  case h_1 found hit =>
      cases stripped.symm.trans hit
      rfl
  case h_2 missed => cases stripped.symm.trans missed

/-- A character that starts no occurrence stays. -/
theorem replaceAll_cons {c : Char} {rest : List Char}
    (missed : stripStart? (first :: others) (c :: rest) = none) :
    replaceAll first others replacement (c :: rest) =
      c :: replaceAll first others replacement rest := by
  rw [replaceAll]
  split
  case h_1 found hit => cases missed.symm.trans hit
  case h_2 => rfl

theorem replaceAll_cons_of_ne {c : Char} (different : c ≠ first) (rest : List Char) :
    replaceAll first others replacement (c :: rest) =
      c :: replaceAll first others replacement rest :=
  replaceAll_cons (by simp [stripStart?, Ne.symm different])

/-- A character other than the one that is put in was in the text before. -/
theorem exists_of_replaceAll_eq_cons {made c : Char} {cs rest : List Char} (different : c ≠ made)
    (replaced : replaceAll first others [made] cs = c :: rest) :
    ∃ tail, cs = c :: tail ∧ replaceAll first others [made] tail = rest := by
  rw [replaceAll] at replaced
  split at replaced
  case h_1 => exact absurd (List.cons.inj replaced).1.symm different
  case h_2 missed =>
      cases cs with
      | nil => cases replaced
      | cons d tail =>
          cases replaced
          exact ⟨tail, rfl, rfl⟩

/-- A text in pieces is replaced piece by piece. -/
theorem replaceAll_flatMap {before after : Char → List Char}
    (each : ∀ c rest, replaceAll first others replacement (before c ++ rest) =
      after c ++ replaceAll first others replacement rest) (cs : List Char) :
    replaceAll first others replacement (cs.flatMap before) = cs.flatMap after := by
  induction cs with
  | nil => exact replaceAll_nil
  | cons c cs inductionHypothesis =>
      rw [List.flatMap_cons, each, inductionHypothesis, List.flatMap_cons]

end

end MovieCatalogue.Text

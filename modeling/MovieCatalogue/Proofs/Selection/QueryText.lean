import Mathlib.Data.List.Forall2
import MovieCatalogue.Proofs.Text.Cutting
import MovieCatalogue.Selection.Evaluation

/-!
Contract: the written form of queries.

Owns: that literals, patterns, conditions and order terms are told from what follows them; and that
queries over one table which are written alike have the same order terms and, place by place,
conditions on the same fields that hold for the same rows, but for `Predicate.Blurred`.
Does not own: which queries tokens make; see `Proofs.Endpoint.QueryText`.
-/

namespace MovieCatalogue.Selection

open MovieCatalogue.Storage MovieCatalogue.Text

variable {rest otherRest : List Char}

/-! ## Literals -/

/-- A character inside a literal, an apostrophe twice. -/
def quotedChar (c : Char) : List Char :=
  if c = '\x27' then ['\x27', '\x27'] else [c]

theorem toList_literalText (s : String) :
    (literalText s).toList = '\x27' :: (s.toList.flatMap quotedChar ++ ['\x27']) := by
  rw [literalText, String.toList_ofList]
  rfl

theorem quotedChar_append_inj (c d : Char) (rest otherRest : List Char)
    (same : quotedChar c ++ rest = quotedChar d ++ otherRest) : c = d ∧ rest = otherRest := by
  unfold quotedChar at same
  split_ifs at same <;> grind

/-- A literal ends at the first apostrophe behind which there is no other one. -/
theorem literalText_append_inj {s t : String} (ends : rest.head? ≠ some '\x27')
    (otherEnds : otherRest.head? ≠ some '\x27')
    (same : (literalText s).toList ++ rest = (literalText t).toList ++ otherRest) :
    s = t ∧ rest = otherRest := by
  have ended {rest : List Char} (ends : rest.head? ≠ some '\x27') (c : Char) (later : List Char) :
      quotedChar c ++ later ≠ '\x27' :: rest := by
    intro begins
    unfold quotedChar at begins
    split_ifs at begins with quote
    · exact ends (by simp [← (List.cons.inj begins).2])
    · exact quote (List.cons.inj begins).1
  simp only [toList_literalText, List.cons_append, List.append_assoc, List.nil_append,
    List.cons.injEq, true_and] at same
  obtain ⟨sameText, behind⟩ :=
    flatMap_append_inj quotedChar_append_inj (ended ends) (ended otherEnds) same
  exact ⟨String.toList_inj.mp sameText, (List.cons.inj behind).2⟩

/-! ## Patterns -/

namespace Pattern

/-- A character of a needle, behind a backslash if it would stand for other characters. -/
def literalChar (c : Char) : List Char :=
  if c = '\\' ∨ c = '%' ∨ c = '_' then ['\\', c] else [c]

/-- The text of which the written form of a pattern is the literal. -/
def form (pattern : Pattern) : List Char :=
  let needle := pattern.needle.toList.flatMap literalChar
  match pattern.anchor with
  | .contains => '%' :: (needle ++ ['%'])
  | .start => needle ++ ['%']
  | .finish => '%' :: needle
  | .wordStart => '%' :: ' ' :: (needle ++ ['%'])

theorem text_eq (pattern : Pattern) : pattern.text = literalText (String.ofList pattern.form) := by
  have each (c : Char) : escapedChar c = (literalChar c).flatMap quotedChar := by
    unfold escapedChar literalChar
    split_ifs <;> simp_all [quotedChar]
  have needle : pattern.needle.toList.flatMap escapedChar =
      (pattern.needle.toList.flatMap literalChar).flatMap quotedChar := by
    rw [List.flatMap_assoc]
    exact congrArg (List.flatMap · _) (funext each)
  rw [← String.toList_inj, toList_literalText, text, needle, String.toList_ofList,
    String.toList_ofList]
  cases anchor : pattern.anchor <;> simp [form, anchor, quotedChar]

variable {pattern other : Pattern}

theorem literalChar_append_inj (c d : Char) (rest otherRest : List Char)
    (same : literalChar c ++ rest = literalChar d ++ otherRest) : c = d ∧ rest = otherRest := by
  unfold literalChar at same
  split_ifs at same <;> grind

/-- No character of a needle is written as a bare percent sign. -/
theorem literalChar_ne (c : Char) (later rest : List Char) :
    literalChar c ++ later ≠ '%' :: rest := by
  unfold literalChar
  split_ifs <;> grind

/-- A word start is written like its needle behind a blank. -/
theorem form_wordStart (needle : String) :
    form ⟨.wordStart, needle⟩ = form ⟨.contains, " " ++ needle⟩ := by
  simp [form, literalChar]

/-- Needles at the end of a form or in front of one more percent sign. -/
theorem needle_append_inj {needle otherNeedle : String} (ends : rest = [] ∨ rest = ['%'])
    (otherEnds : otherRest = [] ∨ otherRest = ['%'])
    (same : needle.toList.flatMap literalChar ++ rest =
      otherNeedle.toList.flatMap literalChar ++ otherRest) :
    needle = otherNeedle ∧ rest = otherRest := by
  have ended {rest : List Char} (ends : rest = [] ∨ rest = ['%']) (c : Char) (later : List Char) :
      literalChar c ++ later ≠ rest := by
    rcases ends with rfl | rfl
    · unfold literalChar
      split_ifs <;> simp
    · exact literalChar_ne c later []
  obtain ⟨sameText, sameRest⟩ :=
    flatMap_append_inj literalChar_append_inj (ended ends) (ended otherEnds) same
  exact ⟨String.toList_inj.mp sameText, sameRest⟩

theorem needle_eq_of_form_eq {anchor : Anchor} {needle otherNeedle : String}
    (same : form ⟨anchor, needle⟩ = form ⟨anchor, otherNeedle⟩) : needle = otherNeedle := by
  cases anchor with
  | contains => exact (needle_append_inj (.inr rfl) (.inr rfl) (List.cons.inj same).2).1
  | start => exact (needle_append_inj (.inr rfl) (.inr rfl) same).1
  | finish =>
      exact (needle_append_inj (.inl rfl) (.inl rfl) (congrArg (· ++ []) (List.cons.inj same).2)).1
  | wordStart =>
      have behind := (List.cons.inj (List.cons.inj same).2).2
      exact (needle_append_inj (.inr rfl) (.inr rfl) behind).1

/-- Only the empty needle is written in front of a percent sign like a text that begins with one. -/
theorem eq_of_needle_append_eq_cons {needle : String} {later : List Char}
    (same : needle.toList.flatMap literalChar ++ ['%'] = '%' :: later) :
    needle = "" ∧ later = [] := by
  cases chars : needle.toList with
  | nil =>
      rw [chars] at same
      exact ⟨String.toList_inj.mp chars, (List.cons.inj same).2.symm⟩
  | cons c cs =>
      rw [chars, List.flatMap_cons, List.append_assoc] at same
      exact absurd same (literalChar_ne c _ _)

theorem form_contains_ne_start (needle otherNeedle : String) :
    form ⟨.contains, needle⟩ ≠ form ⟨.start, otherNeedle⟩ := by
  intro same
  obtain ⟨-, nothing⟩ := eq_of_needle_append_eq_cons same.symm
  exact List.append_ne_nil_of_right_ne_nil _ (List.cons_ne_nil _ _) nothing

theorem form_contains_ne_finish (needle otherNeedle : String) :
    form ⟨.contains, needle⟩ ≠ form ⟨.finish, otherNeedle⟩ := by
  intro same
  have later := (List.cons.inj same).2.trans (List.append_nil _).symm
  cases (needle_append_inj (.inr rfl) (.inl rfl) later).2

/-- Only the empty needle is written alike at the start and at the end, and it is found in all
texts. -/
theorem isMatch_eq_of_form_start_eq {needle otherNeedle : String}
    (same : form ⟨.start, needle⟩ = form ⟨.finish, otherNeedle⟩) :
    isMatch ⟨.start, needle⟩ = isMatch ⟨.finish, otherNeedle⟩ := by
  obtain ⟨rfl, nothing⟩ := eq_of_needle_append_eq_cons same
  have alone : otherNeedle.toList.flatMap literalChar ++ [] = "".toList.flatMap literalChar ++ [] :=
    congrArg (· ++ []) nothing
  obtain ⟨rfl, -⟩ := needle_append_inj (.inl rfl) (.inl rfl) alone
  funext text
  simp [isMatch, stripEnd?, stripStart?]

/-- Patterns that do not look for the start of a word mean the same if they are written alike. -/
theorem isMatch_eq_of_form_eq (notWord : pattern.anchor ≠ .wordStart)
    (otherNotWord : other.anchor ≠ .wordStart) (same : pattern.form = other.form) :
    pattern.isMatch = other.isMatch := by
  obtain ⟨anchor, needle⟩ := pattern
  obtain ⟨otherAnchor, otherNeedle⟩ := other
  cases anchor with
  | wordStart => exact absurd rfl notWord
  | contains =>
      cases otherAnchor with
      | wordStart => exact absurd rfl otherNotWord
      | contains => rw [needle_eq_of_form_eq same]
      | start => exact absurd same (form_contains_ne_start _ _)
      | finish => exact absurd same (form_contains_ne_finish _ _)
  | start =>
      cases otherAnchor with
      | wordStart => exact absurd rfl otherNotWord
      | contains => exact absurd same.symm (form_contains_ne_start _ _)
      | start => rw [needle_eq_of_form_eq same]
      | finish => exact isMatch_eq_of_form_start_eq same
  | finish =>
      cases otherAnchor with
      | wordStart => exact absurd rfl otherNotWord
      | contains => exact absurd same.symm (form_contains_ne_finish _ _)
      | start => exact (isMatch_eq_of_form_start_eq same.symm).symm
      | finish => rw [needle_eq_of_form_eq same]

/-- One of two patterns looks for a needle behind a blank, the other one for the same needle at the
start of a word. They are written alike, but a word starts also at the start of the text and
behind any other blank character. -/
def Blurred (pattern other : Pattern) : Prop :=
  ∃ needle, pattern = ⟨.contains, " " ++ needle⟩ ∧ other = ⟨.wordStart, needle⟩ ∨
    pattern = ⟨.wordStart, needle⟩ ∧ other = ⟨.contains, " " ++ needle⟩

/-- A pattern that is written like one for the start of a word. -/
theorem eq_of_form_eq_wordStart {needle : String} (notWord : pattern.anchor ≠ .wordStart)
    (same : pattern.form = form ⟨.wordStart, needle⟩) : pattern = ⟨.contains, " " ++ needle⟩ := by
  rw [form_wordStart] at same
  obtain ⟨anchor, otherNeedle⟩ := pattern
  cases anchor with
  | wordStart => exact absurd rfl notWord
  | contains => rw [needle_eq_of_form_eq same]
  | start => exact absurd same.symm (form_contains_ne_start _ _)
  | finish => exact absurd same.symm (form_contains_ne_finish _ _)

/-- Patterns that are written alike mean the same unless they are blurred. -/
theorem isMatch_eq_or_blurred (same : pattern.form = other.form) :
    pattern.isMatch = other.isMatch ∨ pattern.Blurred other := by
  by_cases word : pattern.anchor = .wordStart
  · obtain ⟨_, needle⟩ := pattern
    cases word
    by_cases otherWord : other.anchor = .wordStart
    · obtain ⟨_, otherNeedle⟩ := other
      cases otherWord
      exact .inl (by rw [needle_eq_of_form_eq same])
    · exact .inr ⟨needle, .inr ⟨rfl, eq_of_form_eq_wordStart otherWord same.symm⟩⟩
  · by_cases otherWord : other.anchor = .wordStart
    · obtain ⟨_, needle⟩ := other
      cases otherWord
      exact .inr ⟨needle, .inl ⟨eq_of_form_eq_wordStart word same, rfl⟩⟩
    · exact .inl (isMatch_eq_of_form_eq word otherWord same)

end Pattern

/-! ## Conditions -/

namespace Predicate

/-- The literals of a set, with what is written between them. -/
def listed (literals : List String) : List Char :=
  joinWith ", ".toList (literals.map fun literal => (literalText literal).toList)

/-- What is written of a condition behind its field and a blank. -/
def condition : Predicate → List Char
  | .equals _ literal => '=' :: ' ' :: (literalText literal).toList
  | .like _ pattern => 'L' :: 'I' :: 'K' :: 'E' :: ' ' :: pattern.text.toList
  | .oneOf _ literals => 'I' :: 'N' :: ' ' :: '(' :: (listed literals ++ [')'])

theorem toList_text (predicate : Predicate) :
    predicate.text.toList = predicate.field.toList ++ ' ' :: predicate.condition := by
  cases predicate <;> simp [text, field, condition, listed, join, Function.comp_def]

variable {predicate other : Predicate}

/-- Two conditions hold for the same rows. -/
def Agrees (predicate other : Predicate) : Prop :=
  ∀ spec row, predicate.holds spec row = other.holds spec row

/-- Two conditions on one field with blurred patterns. -/
def Blurred (predicate other : Predicate) : Prop :=
  ∃ field pattern otherPattern, predicate = .like field pattern ∧ other = .like field otherPattern ∧
    pattern.Blurred otherPattern

/-- Two conditions are on one field and hold for the same rows, unless they are blurred. -/
def Resembles (predicate other : Predicate) : Prop :=
  predicate.field = other.field ∧ (predicate.Agrees other ∨ predicate.Blurred other)

theorem agrees_like {name : String} {pattern otherPattern : Pattern}
    (same : pattern.isMatch = otherPattern.isMatch) :
    (Predicate.like name pattern).Agrees (.like name otherPattern) := by
  intro spec row
  simp only [holds, field, accepts, same]

theorem listed_append_ne (first : String) (others : List String) (rest otherRest : List Char) :
    listed (first :: others) ++ rest ≠ ')' :: otherRest := by
  intro same
  obtain ⟨behind, begins⟩ := prefix_joinWith ", ".toList (literalText first).toList
    (others.map fun literal => (literalText literal).toList)
  rw [listed, List.map_cons, ← begins, toList_literalText] at same
  exact absurd (List.cons.inj same).1 (by decide)

theorem listed_append_inj {literals otherLiterals : List String}
    (same : listed literals ++ ')' :: rest = listed otherLiterals ++ ')' :: otherRest) :
    literals = otherLiterals ∧ rest = otherRest := by
  have closed (rest : List Char) : ¬ ", ".toList <+: ')' :: rest := by simp
  cases literals with
  | nil =>
      cases otherLiterals with
      | nil => exact ⟨rfl, (List.cons.inj same).2⟩
      | cons first others => exact absurd same.symm (listed_append_ne first others _ _)
  | cons first others =>
      cases otherLiterals with
      | nil => exact absurd same (listed_append_ne first others _ _)
      | cons otherFirst otherOthers =>
          obtain ⟨sameLiterals, sameRest⟩ := joinWith_append_inj
            (fun literal => (literalText literal).toList) Eq (fun rest => rest.head? ≠ some '\x27')
            (fun _ _ _ _ _ _ => literalText_append_inj)
            (by simp) (by simp) (by simp) (closed _) (closed _) (List.cons_ne_nil _ _)
            (List.cons_ne_nil _ _) same
          rw [List.forall₂_eq_eq_eq] at sameLiterals
          exact ⟨sameLiterals, (List.cons.inj sameRest).2⟩

/-- Conditions on one field that are written alike hold for the same rows, unless they are
blurred. -/
theorem condition_append_inj (sameField : predicate.field = other.field)
    (ends : rest.head? ≠ some '\x27') (otherEnds : otherRest.head? ≠ some '\x27')
    (same : predicate.condition ++ rest = other.condition ++ otherRest) :
    (predicate.Agrees other ∨ predicate.Blurred other) ∧ rest = otherRest := by
  cases predicate with
  | equals name literal =>
      cases other with
      | equals otherName otherLiteral =>
          cases sameField
          obtain ⟨rfl, sameRest⟩ := literalText_append_inj ends otherEnds
            (List.cons.inj (List.cons.inj same).2).2
          exact ⟨.inl fun _ _ => rfl, sameRest⟩
      | like => simp [condition] at same
      | oneOf => simp [condition] at same
  | like name pattern =>
      cases other with
      | equals => simp [condition] at same
      | like otherName otherPattern =>
          cases sameField
          simp only [condition, Pattern.text_eq, List.cons_append, List.cons.injEq,
            true_and] at same
          obtain ⟨sameForm, sameRest⟩ := literalText_append_inj ends otherEnds same
          have meaning := Pattern.isMatch_eq_or_blurred (String.ofList_injective sameForm)
          rcases meaning with agree | blurred
          · exact ⟨.inl (agrees_like agree), sameRest⟩
          · exact ⟨.inr ⟨name, pattern, otherPattern, rfl, rfl, blurred⟩, sameRest⟩
      | oneOf => simp [condition] at same
  | oneOf name literals =>
      cases other with
      | equals => simp [condition] at same
      | like => simp [condition] at same
      | oneOf otherName otherLiterals =>
          cases sameField
          simp only [condition, List.cons_append, List.cons.injEq, true_and, List.append_assoc,
            List.nil_append] at same
          obtain ⟨rfl, sameRest⟩ := listed_append_inj same
          exact ⟨.inl fun _ _ => rfl, sameRest⟩

/-- A condition on a field without blanks can be told from what follows it, and so can its field
and, unless it is blurred, the rows for which it holds. -/
theorem text_append_inj (free : ' ' ∉ predicate.field.toList) (otherFree : ' ' ∉ other.field.toList)
    (ends : rest.head? ≠ some '\x27') (otherEnds : otherRest.head? ≠ some '\x27')
    (same : predicate.text.toList ++ rest = other.text.toList ++ otherRest) :
    predicate.Resembles other ∧ rest = otherRest := by
  rw [toList_text, toList_text, List.append_assoc, List.append_assoc] at same
  obtain ⟨sameField, behind⟩ := append_cons_inj free otherFree same
  have named : predicate.field = other.field := String.toList_inj.mp sameField
  obtain ⟨meaning, sameRest⟩ := condition_append_inj named ends otherEnds behind
  exact ⟨⟨named, meaning⟩, sameRest⟩

end Predicate

/-! ## Order terms -/

/-- An order term on a field without blanks can be told from what follows it. -/
theorem OrderTerm.text_append_inj {term other : OrderTerm} (free : ' ' ∉ term.field.toList)
    (otherFree : ' ' ∉ other.field.toList)
    (same : term.text.toList ++ rest = other.text.toList ++ otherRest) :
    term = other ∧ rest = otherRest := by
  obtain ⟨field, direction⟩ := term
  obtain ⟨otherField, otherDirection⟩ := other
  have written (field : String) (direction : Direction) (rest : List Char) :
      (OrderTerm.mk field direction).text.toList ++ rest =
        field.toList ++ ' ' :: (direction.text.toList ++ rest) := by
    simp [OrderTerm.text]
  rw [written, written] at same
  obtain ⟨sameField, behind⟩ := append_cons_inj free otherFree same
  cases String.toList_inj.mp sameField
  cases direction <;> cases otherDirection <;> simp_all [Direction.text]

/-! ## Queries -/

namespace Query

/-- What is written behind the table of a query and its conditions. -/
def orderText (order : List OrderTerm) : List Char :=
  if order.isEmpty then []
  else " ORDER BY ".toList ++ joinWith ", ".toList (order.map (·.text.toList))

def whereText (predicates : List Predicate) : List Char :=
  if predicates.isEmpty then []
  else " WHERE ".toList ++ joinWith " AND ".toList (predicates.map (·.text.toList))

theorem toList_text (query : Query) :
    query.text.toList = "SELECT * FROM ".toList ++ query.table.toList ++
      (whereText query.predicates ++ orderText query.order) := by
  unfold text whereText orderText
  split_ifs <;> simp [join, Function.comp_def]

theorem orderText_inj {order other : List OrderTerm}
    (free : ∀ term ∈ order, ' ' ∉ term.field.toList)
    (otherFree : ∀ term ∈ other, ' ' ∉ term.field.toList)
    (same : orderText order = orderText other) : order = other := by
  unfold orderText at same
  split_ifs at same with none otherNone otherNone
  · rw [List.isEmpty_iff.mp none, List.isEmpty_iff.mp otherNone]
  · simp at same
  · simp at same
  · rw [List.append_cancel_left_eq] at same
    obtain ⟨sameTerms, -⟩ := joinWith_append_inj (·.text.toList) Eq (fun _ => True)
      (fun term member otherTerm otherMember _ _ _ _ same => OrderTerm.text_append_inj
        (free term member) (otherFree otherTerm otherMember) same)
      (fun _ => trivial) trivial trivial (by simp) (by simp) (by simpa using none)
      (by simpa using otherNone) (congrArg (· ++ []) same)
    rwa [List.forall₂_eq_eq_eq] at sameTerms

/-- The order of a query is not taken for the rest of a literal, one more condition or the first
one. -/
theorem orderText_apart (order : List OrderTerm) : (orderText order).head? ≠ some '\x27' ∧
    ¬ " AND ".toList <+: orderText order ∧ ¬ " WHERE ".toList <+: orderText order := by
  unfold orderText
  split_ifs <;> simp

theorem whereText_append_inj {predicates otherPredicates : List Predicate}
    {order otherOrder : List OrderTerm}
    (free : ∀ predicate ∈ predicates, ' ' ∉ predicate.field.toList)
    (otherFree : ∀ predicate ∈ otherPredicates, ' ' ∉ predicate.field.toList)
    (same : whereText predicates ++ orderText order =
      whereText otherPredicates ++ orderText otherOrder) :
    List.Forall₂ Predicate.Resembles predicates otherPredicates ∧
      orderText order = orderText otherOrder := by
  obtain ⟨ends, notMore, notFirst⟩ := orderText_apart order
  obtain ⟨otherEnds, otherNotMore, otherNotFirst⟩ := orderText_apart otherOrder
  unfold whereText at same
  split_ifs at same with none otherNone otherNone
  · rw [List.isEmpty_iff.mp none, List.isEmpty_iff.mp otherNone]
    exact ⟨.nil, same⟩
  · rw [List.append_assoc] at same
    exact absurd ⟨_, same.symm⟩ notFirst
  · rw [List.append_assoc] at same
    exact absurd ⟨_, same⟩ otherNotFirst
  · rw [List.append_assoc, List.append_assoc, List.append_cancel_left_eq] at same
    exact joinWith_append_inj (·.text.toList) _ (fun rest => rest.head? ≠ some '\x27')
      (fun predicate member other otherMember _ _ ends otherEnds same =>
        Predicate.text_append_inj (free predicate member) (otherFree other otherMember) ends
          otherEnds same)
      (by simp) ends otherEnds notMore otherNotMore (by simpa using none) (by simpa using otherNone)
      same

/-- Queries over one table that are written alike have the same order terms, and their conditions
are on the same fields and hold for the same rows, place by place, unless they are blurred there. -/
theorem text_inj {query other : Query} (sameTable : query.table = other.table)
    (free : ∀ name ∈ query.fields, ' ' ∉ name.toList)
    (otherFree : ∀ name ∈ other.fields, ' ' ∉ name.toList) (same : query.text = other.text) :
    List.Forall₂ Predicate.Resembles query.predicates other.predicates ∧
      query.order = other.order := by
  have parts {query : Query} (free : ∀ name ∈ query.fields, ' ' ∉ name.toList) :
      (∀ predicate ∈ query.predicates, ' ' ∉ predicate.field.toList) ∧
        ∀ term ∈ query.order, ' ' ∉ term.field.toList :=
    ⟨fun predicate member => free _ (List.mem_append_left _ (List.mem_map_of_mem member)),
      fun term member => free _ (List.mem_append_right _ (List.mem_map_of_mem member))⟩
  obtain ⟨freePredicates, freeOrder⟩ := parts free
  obtain ⟨otherFreePredicates, otherFreeOrder⟩ := parts otherFree
  rw [← String.toList_inj, toList_text, toList_text, sameTable, List.append_cancel_left_eq] at same
  obtain ⟨related, sameOrder⟩ := whereText_append_inj freePredicates otherFreePredicates same
  exact ⟨related, orderText_inj freeOrder otherFreeOrder sameOrder⟩

end Query

end MovieCatalogue.Selection

import MovieCatalogue.Proofs.Selection.Condition
import MovieCatalogue.Proofs.Token.Resolution

/-!
Contract: the rows that filter tokens select.

Owns: `Selects`, that a token resolves and a row satisfies what it resolves to; that tokens on the
fields of the catalogue are never refused but for their operands; and that a token with a set of
literals selects the rows that the equalities with one of the literals select.
Does not own: patterns; see `Proofs.Selection.WordStart`.
-/

namespace MovieCatalogue.Token

open MovieCatalogue.Record MovieCatalogue.Selection MovieCatalogue.Storage

variable {entity : Entity} {field operand : String}

/-- A token resolves, and the row satisfies what it resolves to. -/
def Selects (entity : Entity) (token : String) (row : Row) : Prop :=
  ∃ predicate, resolveFilter entity token = .ok predicate ∧ predicate.holds entity.spec row = true

theorem selects_iff {token : String} {predicate : Predicate}
    (resolved : resolveFilter entity token = .ok predicate) (row : Row) :
    Selects entity token row ↔ predicate.holds entity.spec row = true := by
  constructor
  · rintro ⟨other, resolvedAgain, holds⟩
    cases resolved.symm.trans resolvedAgain
    exact holds
  · intro holds
    exact ⟨predicate, resolved, holds⟩

/-! ## Fields of the catalogue -/

theorem admissible_of_hasField (member : entity ∈ catalogue) (has : entity.hasField field = true)
    {op : Operator} (known : op ∈ operators) (operand : String) :
    FilterToken.Admissible ⟨op.name, field, operand⟩ := by
  have names : ∀ op ∈ operators, op.name ≠ "" ∧ '(' ∉ op.name.toList := by decide +kernel
  have fields : ∀ entity ∈ catalogue, ∀ field ∈ entity.fields,
      field.name ≠ "" ∧ ¬ [',', ' '] <:+: field.name.toList := by
    decide +kernel
  obtain ⟨found, inEntity, named⟩ := List.any_eq_true.mp has
  rw [beq_iff_eq] at named
  subst named
  obtain ⟨nonempty, noParenthesis⟩ := names op known
  obtain ⟨fieldNonempty, noSeparator⟩ := fields entity member found inEntity
  exact ⟨nonempty, noParenthesis, fieldNonempty, noSeparator⟩

/-- There is an operator of this name and kind. -/
def Offers (name : String) (kind : OperatorKind) : Prop :=
  ∃ op ∈ operators, op.name = name ∧ op.kind = kind

/-- On a field of the catalogue a token stands for what its operator makes of the operand. -/
theorem resolveFilter_field (member : entity ∈ catalogue) (has : entity.hasField field = true)
    {name : String} {kind : OperatorKind} (offers : Offers name kind) (operand : String) :
    resolveFilter entity (FilterToken.text ⟨name, field, operand⟩) = kind.build field operand := by
  obtain ⟨op, known, rfl, rfl⟩ := offers
  exact resolveFilter_text (admissible_of_hasField member has known operand) known rfl has

theorem resolveFilter_exact (member : entity ∈ catalogue) (has : entity.hasField field = true)
    (operand : String) : resolveFilter entity (FilterToken.text ⟨"exact", field, operand⟩) =
      .ok (.equals field operand) := by
  have offers : Offers "exact" .exact := by
    unfold Offers
    decide +kernel
  exact resolveFilter_field member has offers operand

/-- Both names of the set operator make the same of an operand. -/
theorem resolveFilter_set (member : entity ∈ catalogue) (has : entity.hasField field = true)
    {name : String} (named : name = "anyOf" ∨ name = "in") (operand : String) :
    resolveFilter entity (FilterToken.text ⟨name, field, operand⟩) =
      OperatorKind.anyOf.build field operand := by
  have offers : Offers name .anyOf := by
    unfold Offers
    rcases named with rfl | rfl
    · decide +kernel
    · decide +kernel
  exact resolveFilter_field member has offers operand

/-! ## Sets -/

/-- The operand of a set: its literals between brackets, separated by bars. -/
def setText (literals : List String) : String :=
  "[" ++ Text.join "|" literals ++ "]"

/-- Literals without bars are the members of the set that is written with them. -/
theorem setMembers?_setText {literals : List String} (nonempty : literals ≠ [])
    (free : ∀ literal ∈ literals, '|' ∉ literal.toList) :
    OperatorKind.setMembers? (setText literals) = some literals := by
  have parts : Text.splitOn '|' (Text.join "|" literals).toList = literals.map String.toList := by
    rw [Text.join, String.toList_ofList]
    apply Text.splitOn_joinWith
    · simpa using nonempty
    · exact List.forall_mem_map.mpr free
  rw [setText, setMembers?_bracketed, parts, List.map_map]
  simp [Function.comp_def]

theorem build_setText {literals : List String} (nonempty : literals ≠ [])
    (free : ∀ literal ∈ literals, '|' ∉ literal.toList) :
    OperatorKind.anyOf.build field (setText literals) =
      if literals.length ≤ 1000 then .ok (.oneOf field literals)
      else .error (.invalidParameter "anyOf accepts at most 1000 values" none) := by
  have bound : Number.natText maxSetSize = "1000" := by decide +kernel
  simp only [OperatorKind.build, setMembers?_setText nonempty free, bound]
  split
  case isTrue large =>
      have many : ¬ literals.length ≤ 1000 := Nat.not_le.mpr large
      rw [if_neg many]
      rfl
  case isFalse notLarge =>
      have few : literals.length ≤ 1000 := Nat.not_lt.mp notLarge
      rw [if_pos few]

/--
A token with a set of at most 1000 literals resolves, whatever the literals are made of besides
bars, and selects exactly the rows that one of the equalities selects. A larger set and an operand
without brackets are refused. Under its other name the operator does the same.
-/
theorem selects_set_iff (member : entity ∈ catalogue) (has : entity.hasField field = true) :
    (∀ literals, literals ≠ [] → (∀ literal ∈ literals, '|' ∉ literal.toList) →
      let token := FilterToken.text ⟨"anyOf", field, setText literals⟩
      (literals.length ≤ 1000 → (∃ predicate, resolveFilter entity token = .ok predicate) ∧
        ∀ row, Selects entity token row ↔
          ∃ literal ∈ literals, Selects entity (FilterToken.text ⟨"exact", field, literal⟩) row) ∧
      (1000 < literals.length → resolveFilter entity token =
        .error (.invalidParameter "anyOf accepts at most 1000 values" none))) ∧
    (∀ operand, (∀ inner, operand ≠ "[" ++ inner ++ "]") →
      resolveFilter entity (FilterToken.text ⟨"anyOf", field, operand⟩) =
        .error (.malformedFilter operand)) ∧
    ∀ operand, resolveFilter entity (FilterToken.text ⟨"in", field, operand⟩) =
      resolveFilter entity (FilterToken.text ⟨"anyOf", field, operand⟩) := by
  have set := resolveFilter_set member has (.inl rfl)
  refine ⟨fun literals nonempty free => ⟨fun few => ?_, fun many => ?_⟩, fun operand bare => ?_,
    fun operand => ?_⟩
  · have resolved := set (setText literals)
    rw [build_setText nonempty free, if_pos few] at resolved
    refine ⟨⟨_, resolved⟩, fun row => ?_⟩
    simp only [selects_iff resolved, selects_iff (resolveFilter_exact member has _)]
    exact holds_oneOf_iff
  · rw [set, build_setText nonempty free, if_neg (Nat.not_le.mpr many)]
  · rw [set]
    exact build_eq_error.mpr (.unbracketed bare)
  · rw [set, resolveFilter_set member has (.inr rfl)]

/-- Literals that look like sets and tokens are literals all the same. -/
theorem selects_set_iff_title :
    let set := FilterToken.text ⟨"in", "title", "[[M]|a, b)|]"⟩
    (∀ row, Selects movie set row ↔
      ∃ literal ∈ ["[M]", "a, b)", ""],
        Selects movie (FilterToken.text ⟨"exact", "title", literal⟩) row) ∧
      Selects movie set [("title", .text "a, b)")] ∧ ¬ Selects movie set [("title", .text "M")] ∧
      resolveFilter movie (FilterToken.text ⟨"anyOf", "title", "[M"⟩) =
        .error (.malformedFilter "[M") := by
  intro set
  have member : movie ∈ catalogue := by simp [catalogue]
  have has : movie.hasField "title" = true := by decide
  obtain ⟨union, refused, renamed⟩ := selects_set_iff member has
  have written : setText ["[M]", "a, b)", ""] = "[[M]|a, b)|]" := by decide +kernel
  obtain ⟨few, -⟩ := union ["[M]", "a, b)", ""] (by simp) (by decide +kernel)
  rw [written] at few
  obtain ⟨-, each⟩ := few (by decide)
  have same : resolveFilter movie set = _ := renamed "[[M]|a, b)|]"
  have selected (row : Row) : Selects movie set row ↔
      ∃ literal ∈ ["[M]", "a, b)", ""],
        Selects movie (FilterToken.text ⟨"exact", "title", literal⟩) row := by
    rw [← each row, Selects, same]
    rfl
  have equality (literal : String) (row : Row) :=
    selects_iff (resolveFilter_exact member has literal) row
  refine ⟨selected, (selected _).mpr ⟨"a, b)", by simp, (equality _ _).mpr (by decide)⟩, ?_, ?_⟩
  · rw [selected]
    rintro ⟨literal, listed, selects⟩
    rw [equality] at selects
    revert literal
    decide
  · exact refused "[M" (setMembers?_eq_none.mp (by decide +kernel))

end MovieCatalogue.Token

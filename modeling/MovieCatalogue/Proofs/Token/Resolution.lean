import MovieCatalogue.Proofs.Token.Grammar

/-!
Contract: what tokens resolve to, and why they do not.

Owns: `FilterRefused`, the faults of a filter token in the order in which they are looked for: its
form, its operator, its field and its operand; that a token is refused for exactly these; and that
the tokens of a parameter all resolve, or the first one that does not refuses them.
Does not own: the query of several parameters; see `Proofs.Endpoint.Building`.
-/

namespace MovieCatalogue.Record.Entity

variable {entity : Entity} {name : String}

theorem checkField_eq_ok {passed : Unit} :
    entity.checkField name = .ok passed ↔ entity.hasField name = true := by
  unfold checkField
  split
  case isTrue has => simp [has]
  case isFalse lacks => simp [lacks]

theorem checkField_eq_error {error : RequestError} : entity.checkField name = .error error ↔
    entity.hasField name = false ∧ error = .unknownField entity.name name := by
  unfold checkField
  split
  case isTrue has => simp [has]
  case isFalse lacks => simp [lacks, eq_comm]

end MovieCatalogue.Record.Entity

namespace MovieCatalogue.Token

open MovieCatalogue.Record MovieCatalogue.Refusal MovieCatalogue.Selection

/-! ## Operators -/

theorem operator_eq_ok {name : String} {op : Operator} :
    operator name = .ok op ↔ op ∈ operators ∧ op.name = name := by
  have first : ∀ op ∈ operators, operators.find? (fun other => other.name == op.name) = some op := by
    decide +kernel
  constructor
  · intro found
    unfold operator at found
    split at found
    case h_1 here =>
        cases found
        exact ⟨List.mem_of_find?_eq_some here, by simpa using List.find?_some here⟩
    case h_2 => cases found
  · rintro ⟨known, rfl⟩
    rw [operator, first op known]

theorem operator_eq_error {name : String} {error : RequestError} : operator name = .error error ↔
    error = .unknownOperator name ∧ ∀ op ∈ operators, op.name ≠ name := by
  have only : ∀ error, operator name = .error error → error = .unknownOperator name := by
    intro error refused
    unfold operator at refused
    split at refused
    case h_1 => cases refused
    case h_2 => exact (Except.error.inj refused).symm
  rw [eq_error_iff only]
  simp only [ne_eq, operator_eq_ok, not_and]

/-! ## Operands -/

/-- The faults of an operand: a set that is not in brackets, or that has too many members. -/
inductive OperandRefused : OperatorKind → String → RequestError → Prop
  | unbracketed {operand : String} (bare : ∀ inner, operand ≠ "[" ++ inner ++ "]") :
      OperandRefused .anyOf operand (.malformedFilter operand)
  | tooMany {inner : String} (many : 1000 ≤ inner.toList.count '|') :
      OperandRefused .anyOf ("[" ++ inner ++ "]")
        (.invalidParameter "anyOf accepts at most 1000 values" none)

theorem setMembers?_bracketed (inner : String) :
    OperatorKind.setMembers? ("[" ++ inner ++ "]") =
      some ((Text.splitOn '|' inner.toList).map String.ofList) := by
  have written : ("[" ++ inner ++ "]").toList = ['['] ++ (inner.toList ++ [']']) := by simp
  rw [OperatorKind.setMembers?, written, Text.stripStart?_append]
  simp only [Option.bind_eq_bind, Option.bind_some, Text.stripEnd?_append]

theorem setMembers?_eq_some {operand : String} {literals : List String} :
    OperatorKind.setMembers? operand = some literals ↔ ∃ inner, operand = "[" ++ inner ++ "]" ∧
      (Text.splitOn '|' inner.toList).map String.ofList = literals := by
  constructor
  · intro members
    unfold OperatorKind.setMembers? at members
    simp only [Option.bind_eq_bind, Option.bind_eq_some_iff] at members
    obtain ⟨behind, opened, inner, closed, built⟩ := members
    refine ⟨String.ofList inner, ?_, by simpa using built⟩
    rw [← String.toList_inj, Text.eq_append_of_stripStart? opened,
      Text.eq_append_of_stripEnd? closed]
    simp
  · rintro ⟨inner, rfl, rfl⟩
    exact setMembers?_bracketed inner

theorem setMembers?_eq_none {operand : String} :
    OperatorKind.setMembers? operand = none ↔ ∀ inner, operand ≠ "[" ++ inner ++ "]" := by
  rw [Option.eq_none_iff_forall_ne_some]
  constructor
  · rintro missed inner rfl
    exact missed _ (setMembers?_bracketed inner)
  · intro bare literals members
    obtain ⟨inner, bracketed, -⟩ := setMembers?_eq_some.mp members
    exact bare inner bracketed

theorem build_eq_error {kind : OperatorKind} {field operand : String} {error : RequestError} :
    kind.build field operand = .error error ↔ OperandRefused kind operand error := by
  have size (inner : String) :
      ((Text.splitOn '|' inner.toList).map String.ofList).length = inner.toList.count '|' + 1 := by
    rw [List.length_map, Text.length_splitOn]
  have bound : Number.natText maxSetSize = "1000" := by decide +kernel
  constructor
  · intro refused
    cases kind with
    | exact => cases refused
    | like anchor => cases refused
    | anyOf =>
        rw [OperatorKind.build] at refused
        split at refused
        case h_1 bare =>
            cases refused
            exact .unbracketed (setMembers?_eq_none.mp bare)
        case h_2 literals members =>
            obtain ⟨inner, rfl, rfl⟩ := setMembers?_eq_some.mp members
            rw [size] at refused
            split at refused
            case isTrue many =>
                cases refused
                rw [bound]
                exact .tooMany (Nat.lt_succ_iff.mp many)
            case isFalse => cases refused
  · intro refused
    cases refused with
    | unbracketed bare => simp only [OperatorKind.build, setMembers?_eq_none.mpr bare]
    | @tooMany inner many =>
        have large : inner.toList.count '|' + 1 > maxSetSize := Nat.lt_succ_iff.mpr many
        simp only [OperatorKind.build, setMembers?_bracketed, size, large, if_true, bound]
        rfl

/-! ## Filters -/

/-- The faults of a filter token, in the order in which they are looked for. -/
inductive FilterRefused (entity : Entity) (token : String) : RequestError → Prop
  | malformed (unwritten : ∀ parts : FilterToken, ¬ (parts.text = token ∧ parts.Admissible)) :
      FilterRefused entity token (.malformedFilter token)
  | unknownOperator {parts : FilterToken} (written : parts.text = token)
      (admissible : parts.Admissible) (unknown : ∀ op ∈ operators, op.name ≠ parts.operator) :
      FilterRefused entity token (.unknownOperator parts.operator)
  | unknownField {parts : FilterToken} {op : Operator} (written : parts.text = token)
      (admissible : parts.Admissible) (known : op ∈ operators) (named : op.name = parts.operator)
      (lacks : entity.hasField parts.field = false) :
      FilterRefused entity token (.unknownField entity.name parts.field)
  | operand {parts : FilterToken} {op : Operator} {error : RequestError}
      (written : parts.text = token) (admissible : parts.Admissible) (known : op ∈ operators)
      (named : op.name = parts.operator) (has : entity.hasField parts.field = true)
      (bad : OperandRefused op.kind parts.operand error) : FilterRefused entity token error

variable {entity : Entity} {token : String}

/-- A token of a known operator and a field of the entity stands for what the operator makes of its
operand. -/
theorem resolveFilter_text {parts : FilterToken} {op : Operator} (admissible : parts.Admissible)
    (known : op ∈ operators) (named : op.name = parts.operator)
    (has : entity.hasField parts.field = true) :
    resolveFilter entity parts.text = op.kind.build parts.field parts.operand := by
  have parsed : FilterToken.parse parts.text = .ok parts :=
    FilterToken.parse_eq_ok_iff.mpr ⟨rfl, admissible⟩
  have found : operator parts.operator = .ok op := operator_eq_ok.mpr ⟨known, named⟩
  have checked : entity.checkField parts.field = .ok () := Entity.checkField_eq_ok.mpr has
  simp only [resolveFilter, parsed, found, checked, bind, Except.bind]

theorem resolveFilter_eq_error {cause : RequestError} :
    resolveFilter entity token = .error cause ↔ FilterRefused entity token cause := by
  constructor
  · intro refused
    rcases bind_eq_error.mp refused with malformed | ⟨parts, parsed, rest⟩
    · obtain ⟨rfl, unwritten⟩ := FilterToken.parse_eq_error_iff.mp malformed
      exact .malformed unwritten
    obtain ⟨written, admissible⟩ := FilterToken.parse_eq_ok_iff.mp parsed
    rcases bind_eq_error.mp rest with unknown | ⟨op, found, rest⟩
    · obtain ⟨rfl, unlisted⟩ := operator_eq_error.mp unknown
      exact .unknownOperator written admissible unlisted
    obtain ⟨known, named⟩ := operator_eq_ok.mp found
    rcases bind_eq_error.mp rest with unknown | ⟨passed, checked, built⟩
    · obtain ⟨lacks, rfl⟩ := Entity.checkField_eq_error.mp unknown
      exact .unknownField written admissible known named lacks
    · exact .operand written admissible known named (Entity.checkField_eq_ok.mp checked)
        (build_eq_error.mp built)
  · intro refused
    have opened {parts : FilterToken} (written : parts.text = token)
        (admissible : parts.Admissible) : FilterToken.parse token = .ok parts :=
      FilterToken.parse_eq_ok_iff.mpr ⟨written, admissible⟩
    unfold resolveFilter
    cases refused with
    | malformed unwritten =>
        exact bind_eq_error.mpr (.inl (FilterToken.parse_eq_error_iff.mpr ⟨rfl, unwritten⟩))
    | unknownOperator written admissible unknown =>
        exact bind_eq_error.mpr (.inr ⟨_, opened written admissible,
          bind_eq_error.mpr (.inl (operator_eq_error.mpr ⟨rfl, unknown⟩))⟩)
    | unknownField written admissible known named lacks =>
        exact bind_eq_error.mpr (.inr ⟨_, opened written admissible,
          bind_eq_error.mpr (.inr ⟨_, operator_eq_ok.mpr ⟨known, named⟩,
            bind_eq_error.mpr (.inl (Entity.checkField_eq_error.mpr ⟨lacks, rfl⟩))⟩)⟩)
    | operand written admissible known named has bad =>
        rw [← resolveFilter, ← written, resolveFilter_text admissible known named has]
        exact build_eq_error.mpr bad

theorem hasField_of_resolveFilter {predicate : Predicate}
    (resolved : resolveFilter entity token = .ok predicate) :
    entity.hasField predicate.field = true := by
  obtain ⟨parts, -, rest⟩ := bind_eq_ok.mp resolved
  obtain ⟨op, -, rest⟩ := bind_eq_ok.mp rest
  obtain ⟨passed, checked, built⟩ := bind_eq_ok.mp rest
  have sameField : predicate.field = parts.field := by
    unfold OperatorKind.build at built
    split at built
    · cases built
      rfl
    · cases built
      rfl
    · split at built
      · cases built
      · split at built
        · cases built
        · cases built
          rfl
  exact sameField ▸ Entity.checkField_eq_ok.mp checked

theorem hasField_of_resolveSort {term : OrderTerm}
    (resolved : resolveSort entity token = .ok term) : entity.hasField term.field = true := by
  obtain ⟨found, -, rest⟩ := bind_eq_ok.mp resolved
  obtain ⟨passed, checked, built⟩ := bind_eq_ok.mp rest
  cases built
  exact Entity.checkField_eq_ok.mp checked

/-! ## All tokens -/

variable {α : Type} {parameter : String} {resolve : String → Except RequestError α}
  {tokens : List String}

theorem resolveAll_eq_ok {results : List α} :
    resolveAll parameter resolve tokens = .ok results ↔
      List.Forall₂ (fun token result => resolve token = .ok result) tokens results := by
  induction tokens generalizing results with
  | nil => simp [resolveAll, eq_comm]
  | cons token tokens inductionHypothesis =>
      rw [resolveAll, bind_eq_ok]
      constructor
      · rintro ⟨first, resolved, rest⟩
        obtain ⟨others, resolvedAll, built⟩ := bind_eq_ok.mp rest
        cases built
        exact .cons (mapError_eq_ok.mp resolved) (inductionHypothesis.mp resolvedAll)
      · intro each
        cases each with
        | cons resolved others =>
            exact ⟨_, mapError_eq_ok.mpr resolved,
              bind_eq_ok.mpr ⟨_, inductionHypothesis.mpr others, rfl⟩⟩

theorem exists_resolveAll_eq_ok : (∃ results, resolveAll parameter resolve tokens = .ok results) ↔
    ∀ token ∈ tokens, ∃ result, resolve token = .ok result := by
  simp only [resolveAll_eq_ok, ← mapM_eq_ok]
  exact exists_mapM_eq_ok

/-- The first token that does not resolve refuses all. -/
theorem resolveAll_eq_error {error : RequestError} :
    resolveAll parameter resolve tokens = .error error ↔
      ∃ before token others cause, tokens = before ++ token :: others ∧
        (∀ earlier ∈ before, ∃ result, resolve earlier = .ok result) ∧
        resolve token = .error cause ∧ error = .invalidToken parameter token cause := by
  induction tokens with
  | nil => simp [resolveAll]
  | cons first tokens inductionHypothesis =>
      rw [resolveAll, bind_eq_error]
      constructor
      · rintro (refused | ⟨result, resolved, rest⟩)
        · obtain ⟨cause, refused, built⟩ := mapError_eq_error.mp refused
          exact ⟨[], first, tokens, cause, rfl, by simp, refused, built.symm⟩
        · rcases bind_eq_error.mp rest with refused | ⟨results, -, impossible⟩
          · obtain ⟨before, token, others, cause, rfl, resolvedBefore, refused, built⟩ :=
              inductionHypothesis.mp refused
            refine ⟨first :: before, token, others, cause, rfl, ?_, refused, built⟩
            exact List.forall_mem_cons.mpr ⟨⟨result, mapError_eq_ok.mp resolved⟩, resolvedBefore⟩
          · cases impossible
      · rintro ⟨before, token, others, cause, split, resolvedBefore, refused, rfl⟩
        cases before with
        | nil =>
            cases split
            exact .inl (mapError_eq_error.mpr ⟨cause, refused, rfl⟩)
        | cons earlier before =>
            cases split
            obtain ⟨⟨result, resolved⟩, resolvedBefore⟩ := List.forall_mem_cons.mp resolvedBefore
            have later := inductionHypothesis.mpr
              ⟨before, token, others, cause, rfl, resolvedBefore, refused, rfl⟩
            exact .inr ⟨result, mapError_eq_ok.mpr resolved, bind_eq_error.mpr (.inl later)⟩

end MovieCatalogue.Token

import MovieCatalogue.Proofs.Refusal
import MovieCatalogue.Proofs.Text.Cutting
import MovieCatalogue.Proofs.Text.Trimming
import MovieCatalogue.Record.Catalogue
import MovieCatalogue.Token.Resolution

/-!
Contract: which texts are tokens.

Owns: that a token is the text of the parts that it is parsed into, so that no token which resolves
has a blank at either end, and that sort tokens have neither blanks nor semicolons at all;
`FilterToken.Admissible` and `SortAdmissible`, the parts that a token may be made of; and that
exactly the texts of such parts are parsed, to the parts that they are made of. No text is made of
two different sets of parts, and every other text is refused with itself as the malformed token.
Does not own: which operators and fields exist; see `Proofs.Token.Building`.
-/

namespace MovieCatalogue.Token

open MovieCatalogue.Record MovieCatalogue.Refusal MovieCatalogue.Selection

section

variable {token : String} {entity : Entity}

/-! ## Filters as they are written -/

theorem FilterToken.eq_of_cut? {cs operator field operand : List Char}
    (cut : cut? cs = some (operator, field, operand)) :
    cs = operator ++ '(' :: field ++ ',' :: ' ' :: operand ++ [')'] := by
  unfold cut? at cut
  simp only [Option.bind_eq_bind, Option.bind_eq_some_iff] at cut
  obtain ⟨⟨first, behindFirst⟩, cutFirst, ⟨second, behindSecond⟩, cutSecond, third, stripped, built⟩ := cut
  split at built
  · cases built
  · cases built
    dsimp only at cutSecond stripped ⊢
    rw [Text.eq_append_of_cutAt? cutFirst, Text.eq_append_of_cutAt? cutSecond,
      Text.eq_append_of_stripEnd? stripped]
    simp

theorem FilterToken.text_of_parse {parts : FilterToken} (parsed : parse token = .ok parts) :
    parts.text = token := by
  unfold parse at parsed
  split at parsed
  case h_1 operator field operand cut =>
      cases parsed
      rw [← String.toList_inj, eq_of_cut? cut]
      simp [text]
  case h_2 => cases parsed

theorem head?_operator {name : String} {op : Operator} (found : operator name = .ok op) :
    ∃ c, name.toList.head? = some c ∧ Text.isBlank c = false := by
  have each : ∀ op ∈ operators, op.name.toList.head?.any fun c => !Text.isBlank c := by decide
  unfold operator at found
  split at found
  case h_1 first here =>
      have named : first.name = name := by simpa using List.find?_some here
      have plain := each first (List.mem_of_find?_eq_some here)
      rw [named] at plain
      simpa [Option.any_eq_true] using plain
  case h_2 => cases found

/-- A filter token that resolves starts with the name of an operator and ends with a parenthesis. -/
theorem trimmed_of_resolveFilter {predicate : Predicate}
    (resolved : resolveFilter entity token = .ok predicate) :
    Text.Trimmed token.toList ∧ token.toList ≠ [] := by
  obtain ⟨parts, parsed, rest⟩ := bind_eq_ok.mp resolved
  obtain ⟨op, found, -⟩ := bind_eq_ok.mp rest
  obtain ⟨c, head, notBlank⟩ := head?_operator found
  have written : token.toList = parts.operator.toList ++
      ("(" ++ parts.field ++ ", " ++ parts.operand).toList ++ [')'] := by
    rw [← FilterToken.text_of_parse parsed]
    simp [FilterToken.text]
  rw [written]
  refine ⟨⟨?_, ?_⟩, by simp⟩
  · simp [List.head?_append, head, notBlank]
  · rw [List.getLast?_concat]
    rintro c ⟨⟩
    rfl

/-! ## Sorts as they are written -/

theorem text_of_ofText? {name : String} {direction : Direction}
    (found : Direction.ofText? name = some direction) : direction.text = name := by
  unfold Direction.ofText? at found
  split at found
  case h_3 => cases found
  all_goals
    cases found
    rfl

theorem text_of_parseSort {term : OrderTerm} (parsed : parseSort token = .ok term) :
    sortText term = token := by
  unfold parseSort at parsed
  split at parsed
  case h_2 => cases parsed
  case h_1 field direction cut =>
      cases parsed
      unfold cutSort? at cut
      split at cut
      case h_2 => cases cut
      case h_1 first second parts =>
          split at cut
          case h_2 => cases cut
          case h_1 found =>
              split at cut
              · cases cut
              · cases cut
                have joined := Text.joinWith_splitOn '.' token.toList
                rw [parts] at joined
                rw [← String.toList_inj, ← joined]
                simp [sortText, text_of_ofText? found, Text.joinWith]

/-- Neither a blank nor a semicolon. -/
def isPlain (c : Char) : Bool :=
  !Text.isBlank c && c != ';'

/-- A sort token that resolves is the name of a field with a direction. -/
theorem plain_of_resolveSort (member : entity ∈ catalogue) {term : OrderTerm}
    (resolved : resolveSort entity token = .ok term) : token.toList.all isPlain = true := by
  have fields : ∀ entity ∈ catalogue, ∀ field ∈ entity.fields,
      field.name.toList.all isPlain = true := by decide
  have directions (direction : Direction) : direction.text.toList.all isPlain = true := by
    cases direction <;> decide
  obtain ⟨found, parsed, rest⟩ := bind_eq_ok.mp resolved
  obtain ⟨passed, checked, built⟩ := bind_eq_ok.mp rest
  cases built
  obtain ⟨field, inEntity, named⟩ : ∃ field ∈ entity.fields, field.name = term.field := by
    unfold Entity.checkField at checked
    split at checked
    case isTrue has => simpa [Entity.hasField] using has
    case isFalse => cases checked
  have dot : ".".toList.all isPlain = true := by decide
  rw [← text_of_parseSort parsed, sortText, String.toList_append, String.toList_append, ← named,
    List.all_append, List.all_append, fields entity member field inEntity, dot, directions]
  rfl

end

/-! ## The parts of filters -/

/-- Parts that can be told from their text. The operand may be any text. -/
structure FilterToken.Admissible (parts : FilterToken) : Prop where
  operator_ne_empty : parts.operator ≠ ""
  parenthesis_not_mem : '(' ∉ parts.operator.toList
  field_ne_empty : parts.field ≠ ""
  separator_not_infix : ¬ [',', ' '] <:+: parts.field.toList

namespace FilterToken

/-- Parts are cut out of their text. -/
theorem cut?_text {parts : FilterToken} (admissible : parts.Admissible) :
    cut? parts.text.toList =
      some (parts.operator.toList, parts.field.toList, parts.operand.toList) := by
  have written : parts.text.toList = parts.operator.toList ++ '(' ::
      (parts.field.toList ++ ',' :: ' ' :: (parts.operand.toList ++ [')'])) := by
    simp [text]
  have atParenthesis : Text.cutAt? ['('] parts.text.toList = some (parts.operator.toList,
      parts.field.toList ++ ',' :: ' ' :: (parts.operand.toList ++ [')'])) := by
    rw [written, Text.cutAt?_append admissible.parenthesis_not_mem]
  have atSeparator : Text.cutAt? [',', ' '] (parts.field.toList ++ ',' :: ' ' ::
      (parts.operand.toList ++ [')'])) = some (parts.field.toList, parts.operand.toList ++ [')']) :=
    Text.cutAt?_pair_append (by decide) admissible.separator_not_infix
  have nonempty : (parts.operator.toList.isEmpty || parts.field.toList.isEmpty) = false := by
    simp [admissible.operator_ne_empty, admissible.field_ne_empty]
  rw [cut?, atParenthesis]
  simp only [Option.bind_eq_bind, Option.bind_some, atSeparator, Text.stripEnd?_append, nonempty]
  rfl

/-- What a token is cut into are parts that can be told from their text. -/
theorem admissible_of_cut? {cs operator field operand : List Char}
    (cut : cut? cs = some (operator, field, operand)) :
    Admissible ⟨String.ofList operator, String.ofList field, String.ofList operand⟩ := by
  unfold cut? at cut
  simp only [Option.bind_eq_bind, Option.bind_eq_some_iff] at cut
  obtain ⟨⟨first, behindFirst⟩, cutFirst, ⟨second, behindSecond⟩, cutSecond, third, -, built⟩ := cut
  split at built
  case isTrue => cases built
  case isFalse nonempty =>
      cases built
      simp only [Bool.or_eq_true, List.isEmpty_iff, not_or] at nonempty
      have noParenthesis := Text.not_infix_of_cutAt? (List.cons_ne_nil _ _) cutFirst
      have noSeparator := Text.not_infix_of_cutAt? (List.cons_ne_nil _ _) cutSecond
      constructor
      · simpa [← String.toList_inj] using nonempty.1
      · simpa [List.singleton_infix_iff] using noParenthesis
      · simpa [← String.toList_inj] using nonempty.2
      · simpa using noSeparator

variable {token : String} {parts : FilterToken}

theorem parse_eq_ok_iff : parse token = .ok parts ↔ parts.text = token ∧ parts.Admissible := by
  constructor
  · intro parsed
    refine ⟨text_of_parse parsed, ?_⟩
    unfold parse at parsed
    split at parsed
    case h_1 operator field operand cut =>
        cases parsed
        exact admissible_of_cut? cut
    case h_2 => cases parsed
  · rintro ⟨rfl, admissible⟩
    simp [parse, cut?_text admissible]

theorem parse_eq_error_iff {error : RequestError} : parse token = .error error ↔
    error = .malformedFilter token ∧
      ∀ parts : FilterToken, ¬ (parts.text = token ∧ parts.Admissible) := by
  have only : ∀ error, parse token = .error error → error = .malformedFilter token := by
    intro error refused
    unfold parse at refused
    split at refused
    case h_1 => cases refused
    case h_2 => exact (Except.error.inj refused).symm
  rw [eq_error_iff only]
  simp only [ne_eq, parse_eq_ok_iff]

end FilterToken

/-! ## The parts of sorts -/

/-- A term that can be told from its text. -/
structure SortAdmissible (term : OrderTerm) : Prop where
  field_ne_empty : term.field ≠ ""
  dot_not_mem : '.' ∉ term.field.toList

/-- A term is cut out of its text. -/
theorem cutSort?_sortText {term : OrderTerm} (admissible : SortAdmissible term) :
    cutSort? (sortText term).toList = some (term.field.toList, term.direction) := by
  have noDot (direction : Direction) : '.' ∉ direction.text.toList := by
    cases direction <;> decide
  have known (direction : Direction) : Direction.ofText? direction.text = some direction := by
    cases direction <;> rfl
  have written : (sortText term).toList =
      term.field.toList ++ '.' :: term.direction.text.toList := by
    simp [sortText]
  have cut : Text.splitOn '.' (sortText term).toList =
      [term.field.toList, term.direction.text.toList] := by
    rw [written, Text.splitOn_append admissible.dot_not_mem, Text.splitOn_of_not_mem (noDot _)]
  have nonempty : term.field.toList.isEmpty = false := by
    simp [admissible.field_ne_empty]
  simp only [cutSort?, cut, String.ofList_toList, known, nonempty]
  rfl

/-- What a token is cut into is a term that can be told from its text. -/
theorem sortAdmissible_of_cutSort? {cs field : List Char} {direction : Direction}
    (cut : cutSort? cs = some (field, direction)) :
    SortAdmissible ⟨String.ofList field, direction⟩ := by
  unfold cutSort? at cut
  split at cut
  case h_2 => cases cut
  case h_1 first second parts =>
      split at cut
      case h_2 => cases cut
      case h_1 found =>
          split at cut
          case isTrue => cases cut
          case isFalse nonempty =>
              cases cut
              have inSplit : field ∈ Text.splitOn '.' cs := by simp [parts]
              have noDot : '.' ∉ field := Text.not_mem_of_mem_splitOn field inSplit
              constructor
              · simpa [← String.toList_inj] using nonempty
              · simpa using noDot

variable {token : String} {term : OrderTerm}

theorem parseSort_eq_ok_iff :
    parseSort token = .ok term ↔ sortText term = token ∧ SortAdmissible term := by
  constructor
  · intro parsed
    refine ⟨text_of_parseSort parsed, ?_⟩
    unfold parseSort at parsed
    split at parsed
    case h_1 field direction cut =>
        cases parsed
        exact sortAdmissible_of_cutSort? cut
    case h_2 => cases parsed
  · rintro ⟨rfl, admissible⟩
    simp [parseSort, cutSort?_sortText admissible]

theorem parseSort_eq_error_iff {error : RequestError} : parseSort token = .error error ↔
    error = .malformedSort token ∧
      ∀ term : OrderTerm, ¬ (sortText term = token ∧ SortAdmissible term) := by
  have only : ∀ error, parseSort token = .error error → error = .malformedSort token := by
    intro error refused
    unfold parseSort at refused
    split at refused
    case h_1 => cases refused
    case h_2 => exact (Except.error.inj refused).symm
  rw [eq_error_iff only]
  simp only [ne_eq, parseSort_eq_ok_iff]

/-! ## The grammar -/

/--
A token is parsed into given parts if and only if it is their text and they can be told from it:
neither the operator nor the field is empty, the operator has no parenthesis that opens, the field
has no comma with a blank, and the operand is any text. There are never two sets of such parts, and
a token without any is refused as malformed. The same is true of sorts, with a field that is not
empty and has no dot.
-/
theorem parse_iff_written (token : String) :
    (∀ parts : FilterToken,
        FilterToken.parse token = .ok parts ↔ parts.text = token ∧ parts.Admissible) ∧
      ((∃ parts, FilterToken.parse token = .ok parts) ↔
        ∃! parts : FilterToken, parts.text = token ∧ parts.Admissible) ∧
      (∀ error, FilterToken.parse token = .error error ↔
        error = .malformedFilter token ∧
          ∀ parts : FilterToken, ¬ (parts.text = token ∧ parts.Admissible)) ∧
      (∀ term, parseSort token = .ok term ↔ sortText term = token ∧ SortAdmissible term) ∧
      ((∃ term, parseSort token = .ok term) ↔
        ∃! term, sortText term = token ∧ SortAdmissible term) ∧
      ∀ error, parseSort token = .error error ↔
        error = .malformedSort token ∧
          ∀ term, ¬ (sortText term = token ∧ SortAdmissible term) := by
  refine ⟨fun parts => FilterToken.parse_eq_ok_iff, ?_,
    fun error => FilterToken.parse_eq_error_iff, fun term => parseSort_eq_ok_iff, ?_,
    fun error => parseSort_eq_error_iff⟩
  · simp only [← FilterToken.parse_eq_ok_iff]
    exact exists_eq_ok_iff
  · simp only [← parseSort_eq_ok_iff]
    exact exists_eq_ok_iff

/-- A field may end with a comma, and an operand may hold all that separates. -/
example : FilterToken.parse "exact(title,, Alien (1979), cut)" =
    .ok ⟨"exact", "title,", "Alien (1979), cut"⟩ := by rfl

end MovieCatalogue.Token

import MovieCatalogue.Proofs.Number.Written
import MovieCatalogue.Proofs.Storage.Change
import MovieCatalogue.Proofs.Storage.StoredOrder

/-!
Contract: conditions on stored rows.

Owns: that a row satisfies an equality if and only if the text of it stands for the value of the
row, and a set if and only if it satisfies the equality with one of the members; and that the text
in which a value is shown stands for this value in every kind of column but reals.
Does not own: the tokens that conditions are written as; see `Proofs.Token.Membership`.
-/

namespace MovieCatalogue.Selection

open MovieCatalogue.Storage

variable {spec : Spec} {row : Row} {column : Column}

/-! ## Equalities and sets -/

theorem Predicate.holds_iff {predicate : Predicate}
    (found : spec.column? predicate.field = some column) :
    predicate.holds spec row = true ↔ (valueAt row predicate.field).isNull = false ∧
      predicate.accepts column.kind (valueAt row predicate.field) = true := by
  have named : column.name = predicate.field := (Spec.mem_of_column? found).2
  simp only [holds, found, named, Bool.and_eq_true, Bool.not_eq_true']

/-- A row has the value that the text of an equality stands for. -/
theorem holds_equals_iff {name text : String} (found : spec.column? name = some column)
    (holds : column.Holds (valueAt row name)) :
    (Predicate.equals name text).holds spec row = true ↔
      column.kind.readLiteral? text = some (valueAt row name) := by
  rw [Predicate.holds_iff found]
  dsimp only [Predicate.field, Predicate.accepts]
  cases read : column.kind.readLiteral? text with
  | none => simp
  | some bound =>
      have form := Kind.stores_of_readLiteral? read
      have same := Value.compare_eq_eq_iff holds (.stored form)
      show _ ∧ Value.ties _ bound = true ↔ some bound = _
      rw [Value.ties_iff, same, Option.some.injEq]
      constructor
      · rintro ⟨-, tied⟩
        exact tied.symm
      · intro tied
        exact ⟨tied ▸ Kind.isNull_of_stores form, tied.symm⟩

/-- A set is satisfied through one of its members. -/
theorem holds_oneOf_iff {name : String} {literals : List String} :
    (Predicate.oneOf name literals).holds spec row = true ↔
      ∃ literal ∈ literals, (Predicate.equals name literal).holds spec row = true := by
  cases found : spec.column? name with
  | none => simp [Predicate.holds, Predicate.field, found]
  | some column =>
      -- A literal that does not read equals nothing, and a set leaves it out.
      have one (literal : String) : (Predicate.equals name literal).accepts column.kind
          (valueAt row name) = true ↔ ∃ bound, column.kind.readLiteral? literal = some bound ∧
            (valueAt row name).ties bound = true := by
        cases read : column.kind.readLiteral? literal <;> simp [Predicate.accepts, read]
      have set : (Predicate.oneOf name literals).accepts column.kind (valueAt row name) = true ↔
          ∃ literal ∈ literals, ∃ bound, column.kind.readLiteral? literal = some bound ∧
            (valueAt row name).ties bound = true := by
        simp only [Predicate.accepts, List.any_eq_true, List.mem_filterMap]
        constructor
        · rintro ⟨bound, ⟨literal, member, read⟩, tied⟩
          exact ⟨literal, member, bound, read, tied⟩
        · rintro ⟨literal, member, bound, read, tied⟩
          exact ⟨bound, ⟨literal, member, read⟩, tied⟩
      have equality (literal : String) : (Predicate.equals name literal).holds spec row = true ↔
          (valueAt row name).isNull = false ∧
            (Predicate.equals name literal).accepts column.kind (valueAt row name) = true :=
        Predicate.holds_iff found
      rw [Predicate.holds_iff found]
      simp only [equality, Predicate.field, set, one]
      constructor
      · rintro ⟨present, literal, member, tied⟩
        exact ⟨literal, member, present, tied⟩
      · rintro ⟨literal, member, present, tied⟩
        exact ⟨present, literal, member, tied⟩

end MovieCatalogue.Selection

namespace MovieCatalogue.Storage.Kind

/-! ## Shown values -/

/-- The text in which a stored value is shown stands for this value, unless it is a real. -/
theorem exists_render {kind : Kind} {value : Value} (stores : kind.Stores value)
    (notReal : kind ≠ .real) :
    ∃ shown, render? value = some shown ∧ kind.readLiteral? shown = some value := by
  cases stores with
  | integer n =>
      refine ⟨Number.intText n.toInt, rfl, ?_⟩
      show (Number.readInt64? (Text.trim (Number.intText n.toInt))).map Value.int64 = _
      rw [Number.trim_intText, Number.readInt64?_intText]
      rfl
  | real x => exact absurd rfl notReal
  | text s => exact ⟨s, rfl, rfl⟩
  | boolean b =>
      cases b with
      | false => exact ⟨"false", rfl, by rfl⟩
      | true => exact ⟨"true", rfl, by rfl⟩
  | date d =>
      refine ⟨d.text, rfl, ?_⟩
      have read := Calendar.readDate_chars .strict d
      simp only [readLiteral?, Calendar.Date.text, String.toList_ofList, Calendar.trimBlanks_chars,
        read]

end MovieCatalogue.Storage.Kind

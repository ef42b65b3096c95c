import MovieCatalogue.Proofs.Number.ExactValue
import MovieCatalogue.Proofs.Selection.Condition
import MovieCatalogue.Proofs.Storage.Answering

/-!
Contract: columns of floating-point numbers.

Owns: that such a column is filtered and ordered by the values of its numbers, except that the two
zeros are told apart; and that a term on which two rows are tied has no say in their order.
Does not own: which numbers texts stand for; see `Number.Literal`.
-/

namespace MovieCatalogue.Selection

open MovieCatalogue.Number MovieCatalogue.Storage

/-! ## Terms without a say -/

variable {earlier later : List OrderTerm} {term : OrderTerm} {a b : Row}

theorem ahead_insert_iff (tied : term.Tied a b) :
    Ahead (earlier ++ term :: later) a b ↔ Ahead (earlier ++ later) a b := by
  -- The terms in front decide before the inserted one is reached.
  induction earlier with
  | nil =>
      constructor
      · intro ahead
        cases ahead with
        | first before => exact absurd tied before.not_tied
        | later _ ahead => exact ahead
      · intro ahead
        exact .later tied ahead
  | cons first earlier inductionHypothesis =>
      constructor
      · intro ahead
        cases ahead with
        | first before => exact .first before
        | later tiedFirst ahead => exact .later tiedFirst (inductionHypothesis.mp ahead)
      · intro ahead
        cases ahead with
        | first before => exact .first before
        | later tiedFirst ahead => exact .later tiedFirst (inductionHypothesis.mpr ahead)

theorem tiedOn_insert_iff (tied : term.Tied a b) :
    TiedOn (earlier ++ term :: later) a b ↔ TiedOn (earlier ++ later) a b := by
  unfold TiedOn
  simp only [List.forall_mem_append, List.forall_mem_cons, tied, true_and]

/-! ## Numbers of rows -/

/-- A literal reads as a finite number with the same value and, if it is zero, the same sign. -/
def ReadsAs (literal : String) (v : Binary64) : Prop :=
  ∃ x, readDecimal? (Text.trim literal) = some x ∧ x.isFinite = true ∧
    v.toRat = x.toRat ∧ ¬ v.OppositeZeros x

theorem readLiteral?_real_iff {literal : String} {v : Binary64} :
    Kind.real.readLiteral? literal = some (.real v) ↔ ReadsAs literal v := by
  unfold ReadsAs
  simp only [Kind.readLiteral?, Option.map_eq_some_iff, Option.filter_eq_some_iff, Value.real.injEq,
    ← Binary64.eq_iff_toRat]
  constructor
  · rintro ⟨x, ⟨read, finite⟩, rfl⟩
    exact ⟨x, read, finite, rfl⟩
  · rintro ⟨x, read, finite, rfl⟩
    exact ⟨v, ⟨read, finite⟩, rfl⟩

/-- Under a column of reals an equality selects the numbers that its literal reads as. -/
theorem holds_equals_real_iff {spec : Spec} {field : String} {row : Row} {v : Binary64}
    (known : (spec.column? field).isSome = true)
    (reals : ∀ column ∈ spec.columns, column.name = field → column.kind = .real)
    (value : valueAt row field = .real v) (literal : String) :
    (Predicate.equals field literal).holds spec row = true ↔ ReadsAs literal v := by
  obtain ⟨column, isColumn⟩ := Option.isSome_iff_exists.mp known
  obtain ⟨inSpec, named⟩ := Spec.mem_of_column? isColumn
  have isReal : column.kind = .real := reals column inSpec named
  have holds : column.Holds (valueAt row field) := by
    rw [value]
    exact .stored (isReal ▸ .real v)
  rw [holds_equals_iff isColumn holds, isReal, value]
  exact readLiteral?_real_iff

end MovieCatalogue.Selection

namespace MovieCatalogue.Storage

open MovieCatalogue.Number MovieCatalogue.Selection

theorem Table.inOrder_insert_iff {table : Table} {earlier later : List OrderTerm} {term : OrderTerm}
    {first second : StoredRow} (tied : term.Tied first.cells second.cells) :
    table.InOrder (earlier ++ term :: later) first second ↔
      table.InOrder (earlier ++ later) first second := by
  unfold InOrder
  rw [ahead_insert_iff tied, tiedOn_insert_iff tied]

theorem Column.Holds.null_or_real {column : Column} {value : Value} (holds : column.Holds value)
    (isReal : column.kind = .real) : value = .null ∨ ∃ v, value = .real v := by
  rcases holds.null_or_stores with absent | form
  · exact .inl absent
  · rw [isReal] at form
    cases form with
    | real v => exact .inr ⟨v, rfl⟩

namespace Store

/--
A column of floating-point numbers holds numbers, filters by their values, by themselves and in
sets, and orders by them: of two rows the one with the smaller value is ahead, and where the values
are equal, the other terms and the insertion decide. Only the two zeros, which have equal values, are
not taken for each other, and the negative one is ahead. Every query over known columns is answered
in this order.
-/
theorem fetch_run_by_real (operations : List Operation) {name field : String} {table : Table}
    (found : (empty.run operations).find? name = some table)
    (known : (table.spec.column? field).isSome = true)
    (reals : ∀ column ∈ table.spec.columns, column.name = field → column.kind = .real) :
    (∀ row ∈ table.rows, valueAt row.cells field = .null ∨
        ∃ v, valueAt row.cells field = .real v) ∧
      (∀ (row : Row) (v : Binary64), valueAt row field = .real v → v.isFinite = true →
        (∀ literal, (Predicate.equals field literal).holds table.spec row = true ↔
          ReadsAs literal v) ∧
        ∀ literals, (Predicate.oneOf field literals).holds table.spec row = true ↔
          ∃ literal ∈ literals, ReadsAs literal v) ∧
      (∀ (first second : StoredRow) (v w : Binary64), valueAt first.cells field = .real v →
        valueAt second.cells field = .real w → v.isFinite = true → w.isFinite = true →
        (v.toRat = w.toRat → ¬ v.OppositeZeros w → ∀ earlier later direction,
          (table.InOrder (earlier ++ ⟨field, direction⟩ :: later) first second ↔
            table.InOrder (earlier ++ later) first second)) ∧
        (v.toRat < w.toRat ∨ v.OppositeZeros w ∧ v.negative = true → ∀ later,
          table.InOrder (⟨field, .ascending⟩ :: later) first second ∧
            table.InOrder (⟨field, .descending⟩ :: later) second first)) ∧
      ∀ query : Query, query.table = name → table.Knows query →
        ∃ answer, table.Answers query answer ∧
          (empty.run operations).fetch query 0 none = .ok (answer.map StoredRow.cells) := by
  have sound : table.Sound := (sound_run operations).tables table (mem_of_find? found)
  refine ⟨fun row inTable => ?_, fun row v value _ => ?_, fun first second v w here there _ _ => ?_,
    fun query named knows => ?_⟩
  · obtain ⟨column, inSpec, named, holds⟩ := exists_column_holds known
    exact (holds (sound.stored row inTable)).null_or_real (reals column inSpec named)
  · have equality := holds_equals_real_iff known reals value
    refine ⟨equality, fun literals => ?_⟩
    simp only [holds_oneOf_iff, equality]
  · refine ⟨fun same notOpposite earlier later direction => ?_, fun less later => ?_⟩
    · apply Table.inOrder_insert_iff
      show valueAt first.cells field = valueAt second.cells field
      rw [here, there, Binary64.eq_iff_toRat.mpr ⟨same, notOpposite⟩]
    · have below : (valueAt first.cells field).Below (valueAt second.cells field) := by
        rw [here, there]
        exact .real (Binary64.rank_lt_iff.mpr less)
      exact ⟨.inl (.first below), .inl (.first below)⟩
  · subst named
    refine ⟨_, Table.answers_ranked sound knows, ?_⟩
    exact (fetch_of_find? found knows 0).1

/-- A film with the rating 7.5 is found under another spelling of it, and the title decides between
two films with this rating. -/
theorem fetch_run_by_real_title :
    let half : Binary64 := .ofRatio false 15 2
    let spec : Spec := ⟨"film", [⟨"rating", .real, false⟩, ⟨"title", .text, false⟩], ["title"], []⟩
    let film (title : String) : Row := [("rating", .real half), ("title", .text title)]
    let operations : List Operation := [.declare spec,
      .commit "film" [.insert (film "B"), .insert (film "A")]]
    let table : Table := ⟨spec, [⟨1, film "B"⟩, ⟨2, film "A"⟩], 3⟩
    let terms : List OrderTerm := [⟨"rating", .ascending⟩, ⟨"title", .ascending⟩]
    half.toRat = 15 / 2 ∧ (empty.run operations).find? "film" = some table ∧
      (Predicate.equals "rating" " 75e-1 ").holds spec (film "A") = true ∧
      table.InOrder terms ⟨2, film "A"⟩ ⟨1, film "B"⟩ ∧
      ∃ answer, table.Answers ⟨"film", [], terms⟩ answer ∧
        (empty.run operations).fetch ⟨"film", [], terms⟩ 0 none =
          .ok (answer.map StoredRow.cells) := by
  intro half spec film operations table terms
  have value : half.toRat = 15 / 2 := by decide +kernel
  have found : (empty.run operations).find? "film" = some table := by
    with_unfolding_all rfl
  have reals : ∀ column ∈ spec.columns, column.name = "rating" → column.kind = .real := by decide
  obtain ⟨-, filtered, ordered, answered⟩ := fetch_run_by_real operations found rfl reals
  have finite : half.isFinite = true := by decide +kernel
  have read : ReadsAs " 75e-1 " half :=
    ⟨half, by decide +kernel, finite, rfl, fun zeros => zeros.2.2 rfl⟩
  have tied := (ordered ⟨2, film "A"⟩ ⟨1, film "B"⟩ half half rfl rfl finite finite).1 rfl
    (fun zeros => zeros.2.2 rfl) [] [⟨"title", .ascending⟩] .ascending
  have byTitle : table.InOrder [⟨"title", .ascending⟩] ⟨2, film "A"⟩ ⟨1, film "B"⟩ :=
    .inl (.first (.text (by decide)))
  have knows : table.Knows ⟨"film", [], terms⟩ :=
    List.forall_mem_cons.mpr ⟨rfl, List.forall_mem_singleton.mpr rfl⟩
  exact ⟨value, found, ((filtered (film "A") half rfl finite).1 _).mpr read, tied.mpr byTitle,
    answered _ rfl knows⟩

/-- A film that is rated with the negative zero is not found under zero, and is listed before one
that is rated with zero although its title comes after. -/
theorem fetch_run_by_real_zeros :
    let zeros : List Binary64 := [.zero, Binary64.zero.neg]
    let spec : Spec := ⟨"film", [⟨"rating", .real, false⟩, ⟨"title", .text, false⟩], ["title"], []⟩
    let film (rating : Binary64) (title : String) : Row :=
      [("rating", .real rating), ("title", .text title)]
    let operations : List Operation := [.declare spec,
      .commit "film" [.insert (film .zero "A"), .insert (film Binary64.zero.neg "B")]]
    let terms : List OrderTerm := [⟨"rating", .ascending⟩, ⟨"title", .ascending⟩]
    (∀ x ∈ zeros, x.isFinite = true ∧ x.toRat = 0) ∧
      readDecimal? (Text.trim "0") = some .zero ∧
      (Predicate.equals "rating" "0").holds spec (film Binary64.zero.neg "B") = false ∧
      (Predicate.oneOf "rating" ["0"]).holds spec (film Binary64.zero.neg "B") = false ∧
      (empty.run operations).fetch ⟨"film", [.equals "rating" "0"], []⟩ 0 none =
        .ok [film .zero "A"] ∧
      (empty.run operations).fetch ⟨"film", [], terms⟩ 0 none =
        .ok [film Binary64.zero.neg "B", film .zero "A"] := by
  intro zeros spec film operations terms
  have values : ∀ x ∈ zeros, x.isFinite = true ∧ x.toRat = 0 := by decide +kernel
  have read : readDecimal? (Text.trim "0") = some .zero := by decide +kernel
  have missed :
      (Predicate.equals "rating" "0").holds spec (film Binary64.zero.neg "B") = false := by
    decide +kernel
  have hit : (Predicate.equals "rating" "0").holds spec (film .zero "A") = true := by
    decide +kernel
  let table : Table := ⟨spec, [⟨1, film .zero "A"⟩, ⟨2, film Binary64.zero.neg "B"⟩], 3⟩
  have found : (empty.run operations).find? "film" = some table := by
    with_unfolding_all rfl
  have knowsRating : table.Knows ⟨"film", [.equals "rating" "0"], []⟩ :=
    List.forall_mem_singleton.mpr rfl
  have knowsTerms : table.Knows ⟨"film", [], terms⟩ :=
    List.forall_mem_cons.mpr ⟨rfl, List.forall_mem_singleton.mpr rfl⟩
  have behind :
      Table.precedes terms ⟨1, film .zero "A"⟩ ⟨2, film Binary64.zero.neg "B"⟩ = false := by
    decide +kernel
  refine ⟨values, read, missed, by decide +kernel, ?_, ?_⟩
  · rw [(fetch_of_find? found knowsRating 0).1]
    simp [Table.select, Table.hits, satisfies, missed, hit, table]
  · rw [(fetch_of_find? found knowsTerms 0).1]
    simp [Table.select, Table.hits, satisfies, List.mergeSort, behind, terms, table]

end Store

end MovieCatalogue.Storage

import MovieCatalogue.Proofs.Calendar.WrittenOrder
import MovieCatalogue.Proofs.Storage.Answering

/-!
Contract: rows in the order of a column of dates.

Owns: what a column of dates stores; and that a query which is ordered by such a column lists rows in
the order of time if their years keep their order as texts, and in the opposite order if not.
Does not own: which years keep their order; see `Proofs.Calendar.WrittenOrder`.
-/

namespace MovieCatalogue.Storage

open MovieCatalogue.Calendar MovieCatalogue.Selection

/-! ## Stored dates -/

/-- A column of dates stores the texts of all dates and nothing else. -/
theorem exists_coerce_date {stored : Value} :
    (∃ value, Kind.date.coerce value = .ok stored) ↔ ∃ d : Date, stored = .text d.text := by
  constructor
  · rintro ⟨value, coerced⟩
    cases Kind.stores_of_coerce coerced with
    | date d => exact ⟨d, rfl⟩
  · rintro ⟨d, rfl⟩
    exact ⟨.text d.text, Kind.coerce_of_stores (.date d)⟩

theorem Column.Holds.null_or_date {column : Column} {value : Value} (holds : column.Holds value)
    (isDate : column.kind = .date) : value = .null ∨ ∃ d : Date, value = .text d.text := by
  rcases holds.null_or_stores with absent | form
  · exact .inl absent
  · rw [isDate] at form
    cases form with
    | date d => exact .inr ⟨d, rfl⟩

/-! ## Listed dates -/

/-- Two rows in the order in which they are listed: absent dates first, and a date that is not later
than the next one if and only if their years keep their order. -/
def ListedByDate (field : String) (earlier later : Row) : Prop :=
  (valueAt later field = .null → valueAt earlier field = .null) ∧
    ∀ d e : Date, valueAt earlier field = .text d.text → valueAt later field = .text e.text →
      (d.compare e ≠ .gt ↔ InTheirOrder d.year e.year)

theorem listedByDate_of_inOrder {table : Table} {field : String} {terms : List OrderTerm}
    {first second : StoredRow}
    (before : table.InOrder (⟨field, .ascending⟩ :: terms) first second) :
    ListedByDate field first.cells second.cells := by
  have below : (valueAt first.cells field).Below (valueAt second.cells field) ∨
      valueAt first.cells field = valueAt second.cells field := by
    rcases before with ahead | ⟨tied, -⟩
    · cases ahead with
      | first before => exact .inl before
      | later tied _ => exact .inr tied
    · exact .inr (tied _ List.mem_cons_self)
  refine ⟨fun absent => ?_, fun d e here there => compare_ne_gt_iff fun behind => ?_⟩
  · rw [absent] at below
    rcases below with below | same
    · cases below.isNull_right
    · exact same
  · rw [here, there] at below
    rcases below with below | same
    · cases below with
      | text less =>
          rw [← Text.compareTexts_eq_lt_iff, behind] at less
          cases less
    · cases (Text.compareTexts_eq_iff.mpr (Value.text.inj same)).symm.trans behind

namespace Store

/--
A column of dates holds the written forms of dates, and compares them in the order of time if and
only if their years are the same or come before each other as texts as well, as all years from 0 to
9999 do. So what is fetched in the order of the column is in the order of time as far as the years
are of this kind, and in the opposite order where they are not.
-/
theorem fetch_run_by_date (operations : List Operation) {name field : String} {table : Table}
    (found : (empty.run operations).find? name = some table)
    (known : (table.spec.column? field).isSome = true)
    (dates : ∀ column ∈ table.spec.columns, column.name = field → column.kind = .date) :
    (∀ stored, (∃ value, Kind.date.coerce value = .ok stored) ↔ ∃ d : Date, stored = .text d.text) ∧
      (∀ row ∈ table.rows, valueAt row.cells field = .null ∨
        ∃ d : Date, valueAt row.cells field = .text d.text) ∧
      (∀ d e : Date, (Value.text d.text).compare (.text e.text) = d.compare e ↔
        InTheirOrder d.year e.year) ∧
      ∀ (query : Query) (terms : List OrderTerm), query.table = name →
        query.order = ⟨field, .ascending⟩ :: terms → table.Knows query →
        ∀ offset limit, ∃ rows, (empty.run operations).fetch query offset limit = .ok rows ∧
          rows.Pairwise (ListedByDate field) := by
  have sound : table.Sound := (sound_run operations).tables table (mem_of_find? found)
  refine ⟨fun stored => exists_coerce_date, fun row inTable => ?_,
    fun d e => compareTexts_eq_compare_iff d e, ?_⟩
  · obtain ⟨column, inSpec, named, holds⟩ := exists_column_holds known
    exact (holds (sound.stored row inTable)).null_or_date (dates column inSpec named)
  · intro query terms here order knows offset limit
    subst here
    have listed : (table.select query).Pairwise (ListedByDate field) := by
      have ordered := (Table.answers_ranked sound knows).ordered
      rw [order] at ordered
      rw [Table.select_eq_map_ranked, List.pairwise_map]
      exact ordered.imp fun before => listedByDate_of_inOrder before
    obtain ⟨all, part⟩ := fetch_of_find? found knows offset
    have dropped : ((table.select query).drop offset).Pairwise (ListedByDate field) :=
      listed.sublist (List.drop_sublist _ _)
    cases limit with
    | none => exact ⟨_, all, dropped⟩
    | some most => exact ⟨_, part most, dropped.sublist (List.take_sublist _ _)⟩

/-- Two films of the last century are listed in the order of their dates. -/
theorem fetch_run_by_date_alien :
    let alien : Date := ⟨1979, 5, 25, by decide⟩
    let vertigo : Date := ⟨1958, 5, 9, by decide⟩
    let spec : Spec := ⟨"film", [⟨"released", .date, false⟩], ["released"], []⟩
    let film (day : String) : Row := [("released", .text day)]
    let operations : List Operation := [.declare spec,
      .commit "film" [.insert (film "1979-05-25"), .insert (film "1958-05-09")]]
    let byDate : Query := ⟨"film", [], [⟨"released", .ascending⟩]⟩
    (Value.text vertigo.text).compare (.text alien.text) = .lt ∧
      ∃ rows, (empty.run operations).fetch byDate 0 none = .ok rows ∧
        rows.Pairwise (ListedByDate "released") := by
  intro alien vertigo spec film operations byDate
  have found : (empty.run operations).find? "film" =
      some ⟨spec, [⟨1, film "1979-05-25"⟩, ⟨2, film "1958-05-09"⟩], 3⟩ := by
    with_unfolding_all rfl
  have dates : ∀ column ∈ spec.columns, column.name = "released" → column.kind = .date := by decide
  obtain ⟨-, -, ordered, listed⟩ := fetch_run_by_date operations found rfl dates
  have sameSort : InTheirOrder 1958 1979 :=
    inTheirOrder_of_unsigned (by decide) (by decide) (by decide) (by decide)
  exact ⟨(ordered vertigo alien).mpr sameSort,
    listed byDate [] rfl rfl (List.forall_mem_singleton.mpr rfl) 0 none⟩

/-- A date after the year 9999 is listed before the dates of today, and of two dates before the year
zero the later one comes first. -/
theorem fetch_run_by_date_overtaken :
    let today : Date := ⟨2024, 5, 5, by decide⟩
    let farOff : Date := ⟨10000, 1, 1, by decide⟩
    let ancient : Date := ⟨-2, 1, 1, by decide⟩
    let nextYear : Date := ⟨-1, 1, 1, by decide⟩
    let spec : Spec := ⟨"film", [⟨"released", .date, false⟩], ["released"], []⟩
    let film (day : String) : Row := [("released", .text day)]
    let operations : List Operation := [.declare spec,
      .commit "film" [.insert (film "2024-05-05"), .insert (film "+10000-01-01")]]
    let byDate : Query := ⟨"film", [], [⟨"released", .ascending⟩]⟩
    farOff.text = "+10000-01-01" ∧ ancient.text = "-0002-01-01" ∧
      (∀ d : Date, Kind.date.coerce (.text d.text) = .ok (.text d.text)) ∧
      (today.compare farOff = .lt ∧ (Value.text today.text).compare (.text farOff.text) = .gt) ∧
      (ancient.compare nextYear = .lt ∧
        (Value.text ancient.text).compare (.text nextYear.text) = .gt) ∧
      (empty.run operations).fetch byDate 0 none = .ok [film farOff.text, film today.text] := by
  intro today farOff ancient nextYear spec film operations byDate
  have todayText : today.text = "2024-05-05" := by decide +kernel
  have farOffText : farOff.text = "+10000-01-01" := by decide +kernel
  have ancientText : ancient.text = "-0002-01-01" := by decide +kernel
  have found : (empty.run operations).find? "film" =
      some ⟨spec, [⟨1, film "2024-05-05"⟩, ⟨2, film "+10000-01-01"⟩], 3⟩ := by
    with_unfolding_all rfl
  have behind : Table.precedes byDate.order ⟨1, film "2024-05-05"⟩ ⟨2, film "+10000-01-01"⟩ =
      false := by
    decide
  have knows : Table.Knows ⟨spec, [⟨1, film "2024-05-05"⟩, ⟨2, film "+10000-01-01"⟩], 3⟩ byDate :=
    List.forall_mem_singleton.mpr rfl
  have fetched : (empty.run operations).fetch byDate 0 none = _ := (fetch_of_find? found knows 0).1
  refine ⟨farOffText, ancientText, fun d => Kind.coerce_of_stores (.date d),
    ⟨by decide, by decide +kernel⟩, ⟨by decide, by decide +kernel⟩, ?_⟩
  rw [fetched, todayText, farOffText]
  simp [Table.select, Table.hits, satisfies, List.mergeSort, behind, byDate]

end Store

end MovieCatalogue.Storage

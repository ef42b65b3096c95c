import MovieCatalogue.Proofs.Calendar.WrittenDate
import MovieCatalogue.Proofs.Members
import MovieCatalogue.Proofs.Number.Whole
import MovieCatalogue.Proofs.Refusal
import MovieCatalogue.Storage.Table

/-!
Contract: the storage form of rows.

Owns: `Kind.Stores`, the values that a kind of column stores; `Column.Holds` and
`Spec.Holds`, the same for columns with their absent values and for whole rows; that
normalisation produces exactly these rows where the columns have different names;
that it leaves what it produced as it is, for every declaration; and which texts are
stored as a date, in a row as in a filter.
Does not own: the rows that are already in a table.
-/

namespace MovieCatalogue.Storage

open MovieCatalogue.Selection MovieCatalogue.Refusal

/-! ## Values -/

/-- The values in the storage form of a kind. A date is stored as its written form. -/
inductive Kind.Stores : Kind → Value → Prop
  | integer (n : Int64) : Stores .integer (.int64 n)
  | real (x : Number.Binary64) : Stores .real (.real x)
  | text (s : String) : Stores .text (.text s)
  | boolean (b : Bool) : Stores .boolean (.bool b)
  | date (d : Calendar.Date) : Stores .date (.text d.text)

namespace Kind

theorem stores_of_coerce {kind : Kind} {value stored : Value}
    (coerced : kind.coerce value = .ok stored) : kind.Stores stored := by
  unfold coerce at coerced
  split at coerced
  case h_1 n =>
      cases coerced
      exact .integer _
  case h_2 n =>
      cases coerced
      exact .integer _
  case h_3 x =>
      split at coerced
      · cases coerced
        exact .integer _
      · cases coerced
  case h_4 x =>
      cases coerced
      exact .real _
  case h_5 n =>
      cases coerced
      exact .real _
  case h_6 n =>
      cases coerced
      exact .real _
  case h_7 s =>
      cases coerced
      exact .text _
  case h_8 b =>
      cases coerced
      exact .boolean _
  case h_9 s =>
      split at coerced
      · cases coerced
        exact .date _
      · cases coerced
  case h_10 => cases coerced

/-- What the text of a filter stands for is in storage form. -/
theorem stores_of_readLiteral? {kind : Kind} {literal : String} {value : Value}
    (read : kind.readLiteral? literal = some value) : kind.Stores value := by
  unfold readLiteral? at read
  split at read
  case h_1 =>
      obtain ⟨n, -, rfl⟩ := Option.map_eq_some_iff.mp read
      exact .integer n
  case h_2 =>
      obtain ⟨x, -, rfl⟩ := Option.map_eq_some_iff.mp read
      exact .real x
  case h_3 =>
      cases read
      exact .text literal
  case h_4 =>
      split at read
      · cases read
        exact .boolean true
      · cases read
        exact .boolean true
      · cases read
        exact .boolean false
      · cases read
        exact .boolean false
      · cases read
  case h_5 =>
      split at read
      case h_1 found _ =>
          cases read
          exact .date found
      case h_2 => cases read

/-- A value in storage form is stored as it is. -/
theorem coerce_of_stores {kind : Kind} {value : Value} (stores : kind.Stores value) :
    kind.coerce value = .ok value := by
  cases stores with
  | integer n => rfl
  | real x => rfl
  | text s => rfl
  | boolean b => rfl
  | date d => simp [coerce, Calendar.readDate_text]

theorem isNull_of_stores {kind : Kind} {value : Value} (stores : kind.Stores value) :
    value.isNull = false := by
  cases stores <;> rfl

/-- Only whole numbers are stored as integers, and the number nearest to one is whole. -/
private theorem isWhole_of_coerce {value stored : Value} {x : Number.Binary64}
    (coerced : real.coerce value = .ok (.real x)) (otherCoerced : integer.coerce value = .ok stored) :
    x.isWhole = true := by
  cases value with
  | real y =>
      cases coerced
      simp only [coerce] at otherCoerced
      split at otherCoerced
      case isTrue whole => exact whole
      case isFalse => cases otherCoerced
  | int32 n =>
      cases coerced
      exact Number.Binary64.isWhole_ofInt_int32 n
  | int64 n =>
      cases coerced
      exact Number.Binary64.isWhole_ofInt_int64 n
  | _ => cases coerced

/-- What one kind has stored another one takes if it took the value that was written. -/
theorem coerce_stored {kind other : Kind} {value stored otherStored : Value}
    (coerced : kind.coerce value = .ok stored)
    (otherCoerced : other.coerce value = .ok otherStored) :
    ∃ again, other.coerce stored = .ok again := by
  have form := stores_of_coerce coerced
  have otherForm := stores_of_coerce otherCoerced
  cases form with
  | integer n =>
      cases otherForm with
      | integer m => exact ⟨_, rfl⟩
      | real x => exact ⟨_, rfl⟩
      | _ => cases value <;> simp [coerce] at coerced otherCoerced
  | real x =>
      cases otherForm with
      | integer m =>
          have whole := isWhole_of_coerce coerced otherCoerced
          exact ⟨_, by simp [coerce, whole]; rfl⟩
      | real y => exact ⟨_, rfl⟩
      | _ => cases value <;> simp [coerce] at coerced otherCoerced
  | text s =>
      cases otherForm with
      | text t => exact ⟨_, rfl⟩
      | date d =>
          cases value with
          | text t =>
              cases coerced
              exact ⟨_, otherCoerced⟩
          | _ => cases coerced
      | _ => cases value <;> simp [coerce] at coerced otherCoerced
  | boolean b =>
      cases otherForm with
      | boolean c => exact ⟨_, rfl⟩
      | _ => cases value <;> simp [coerce] at coerced otherCoerced
  | date d =>
      cases otherForm with
      | text t => exact ⟨_, rfl⟩
      | date e => exact ⟨_, coerce_of_stores (.date d)⟩
      | _ => cases value <;> simp [coerce] at coerced otherCoerced

end Kind

/-! ## Cells -/

/-- The values that a column may hold: those its kind stores, and none if it is nullable. -/
inductive Column.Holds (column : Column) : Value → Prop
  | absent (nullable : column.nullable = true) : Holds column .null
  | stored {value : Value} (form : column.kind.Stores value) : Holds column value

/-- A column that is not nullable holds what its kind stores. -/
theorem Column.Holds.stores_of_strict {column : Column} {value : Value} (holds : column.Holds value)
    (strict : column.nullable = false) : column.kind.Stores value := by
  cases holds with
  | absent nullable => cases strict.symm.trans nullable
  | stored form => exact form

theorem Column.Holds.null_or_stores {column : Column} {value : Value} (holds : column.Holds value) :
    value = .null ∨ column.kind.Stores value := by
  cases holds with
  | absent => exact .inl rfl
  | stored form => exact .inr form

theorem Value.isNull_iff {value : Value} : value.isNull = true ↔ value = .null := by
  cases value <;> simp [Value.isNull]

/-- The cell of a column is absent if the column is nullable, or the value in storage form. -/
theorem normalizeCell_eq_ok {spec : Spec} {row : Row} {column : Column} {name : String}
    {value : Value} :
    normalizeCell spec row column = .ok (name, value) ↔
      name = column.name ∧
        ((valueAt row column.name = .null ∧ value = .null ∧ column.nullable = true) ∨
          ((valueAt row column.name).isNull = false ∧
            column.kind.coerce (valueAt row column.name) = .ok value)) := by
  unfold normalizeCell
  dsimp only
  generalize valueAt row column.name = written
  split
  case isTrue absent =>
      cases Value.isNull_iff.mp absent
      split
      case isTrue nullable => simp [nullable, Value.isNull, @eq_comm _ column.name, @eq_comm _ Value.null]
      case isFalse strict => simp [strict, Value.isNull]
  case isFalse present =>
      have notNull : written ≠ .null := fun absent => present (Value.isNull_iff.mpr absent)
      split
      case h_1 stored coerced =>
          simp [present, notNull, coerced, @eq_comm _ column.name, @eq_comm _ stored]
      case h_2 refusal refused => simp [present, notNull, refused]

theorem holds_of_normalizeCell {spec : Spec} {row : Row} {column : Column} {cell : String × Value}
    (normal : normalizeCell spec row column = .ok cell) :
    cell.1 = column.name ∧ column.Holds cell.2 := by
  obtain ⟨name, value⟩ := cell
  obtain ⟨named, ⟨-, rfl, nullable⟩ | ⟨-, coerced⟩⟩ := normalizeCell_eq_ok.mp normal
  · exact ⟨named, .absent nullable⟩
  · exact ⟨named, .stored (Kind.stores_of_coerce coerced)⟩

theorem normalizeCell_of_holds (spec : Spec) {row : Row} {column : Column}
    (holds : column.Holds (valueAt row column.name)) :
    normalizeCell spec row column = .ok (column.name, valueAt row column.name) := by
  rw [normalizeCell_eq_ok]
  refine ⟨rfl, ?_⟩
  generalize valueAt row column.name = value at holds
  cases holds with
  | absent nullable => exact .inl ⟨rfl, rfl, nullable⟩
  | stored form => exact .inr ⟨Kind.isNull_of_stores form, Kind.coerce_of_stores form⟩

/-- What one column has stored another one of its name takes if it took the value that was written. -/
theorem normalizeCell_stored {spec : Spec} {row stored : Row} {column other : Column}
    {value otherValue : Value} (sameName : other.name = column.name)
    (normal : normalizeCell spec row column = .ok (column.name, value))
    (otherNormal : normalizeCell spec row other = .ok (other.name, otherValue))
    (held : valueAt stored column.name = value) :
    ∃ again, normalizeCell spec stored other = .ok (other.name, again) := by
  obtain ⟨-, otherCase⟩ := normalizeCell_eq_ok.mp otherNormal
  obtain ⟨-, ⟨absent, rfl, -⟩ | ⟨present, coerced⟩⟩ := normalizeCell_eq_ok.mp normal
  · obtain ⟨-, -, nullable⟩ | ⟨otherPresent, -⟩ := otherCase
    · exact ⟨.null, normalizeCell_eq_ok.mpr ⟨rfl, .inl ⟨sameName ▸ held, rfl, nullable⟩⟩⟩
    · simp [sameName, absent, Value.isNull] at otherPresent
  · obtain ⟨otherAbsent, -, -⟩ | ⟨-, otherCoerced⟩ := otherCase
    · rw [← sameName, otherAbsent] at present
      cases present
    · rw [sameName] at otherCoerced
      obtain ⟨again, coercedAgain⟩ := Kind.coerce_stored coerced otherCoerced
      refine ⟨again, normalizeCell_eq_ok.mpr ⟨rfl, .inr ?_⟩⟩
      rw [sameName, held]
      exact ⟨Kind.isNull_of_stores (Kind.stores_of_coerce coerced), coercedAgain⟩

/-! ## Rows -/

/-- Normalisation takes a row of known columns in which the cell of every column is taken. -/
theorem normalize_eq_ok {spec : Spec} {row stored : Row} :
    normalize spec row = .ok stored ↔
      (∀ name ∈ Fields.names row, (spec.column? name).isSome) ∧
        ∃ cells, List.Forall₂ (fun column cell => normalizeCell spec row column = .ok cell)
          spec.columns cells ∧ Fields.collapse cells = stored := by
  unfold normalize
  split
  case h_1 extra found =>
      have unknown : (spec.column? extra.1).isNone = true := by
        simpa using List.find?_some found
      have member : extra.1 ∈ Fields.names row :=
        List.mem_map.mpr ⟨extra, List.mem_of_find?_eq_some found, rfl⟩
      refine ⟨fun impossible => (nomatch impossible), ?_⟩
      rintro ⟨known, -⟩
      have column := known extra.1 member
      rw [← Option.not_isNone, unknown] at column
      cases column
  case h_2 notFound =>
      have known : ∀ name ∈ Fields.names row, (spec.column? name).isSome := by
        intro name member
        obtain ⟨cell, inRow, rfl⟩ := List.mem_map.mp member
        have column := List.find?_eq_none.mp notFound cell inRow
        simpa [Option.isSome_iff_ne_none] using column
      simp only [map_eq_ok, mapM_eq_ok]
      exact ⟨fun normal => ⟨known, normal⟩, And.right⟩

/-- A row is refused for the value of one of its columns. -/
theorem exists_of_normalize_eq_error {spec : Spec} {row : Row} {error : StoreError}
    (refused : normalize spec row = .error error) :
    ∃ column reason, error = .invalidValue spec.name column reason := by
  unfold normalize at refused
  split at refused
  · cases refused
    exact ⟨_, _, rfl⟩
  · obtain ⟨column, -, cellRefused⟩ := exists_of_mapM_eq_error (map_eq_error.mp refused)
    unfold normalizeCell at cellRefused
    dsimp only at cellRefused
    split at cellRefused
    · split at cellRefused
      · cases cellRefused
      · cases cellRefused
        exact ⟨_, _, rfl⟩
    · split at cellRefused
      · cases cellRefused
      · cases cellRefused
        exact ⟨_, _, rfl⟩

theorem names_of_cells {columns : List Column} {cells : Row} {P : Column → String × Value → Prop}
    (each : List.Forall₂ P columns cells)
    (named : ∀ column cell, P column cell → cell.1 = column.name) :
    Fields.names cells = columns.map Column.name := by
  induction each with
  | nil => rfl
  | cons first _ inductionHypothesis =>
      rw [List.map_cons, ← named _ _ first, ← inductionHypothesis]
      rfl

/-- The cell of a name is that of the first column with this name. -/
private theorem get?_of_cells {spec : Spec} {row : Row} {columns : List Column} {cells : Row}
    (each : List.Forall₂ (fun column cell => normalizeCell spec row column = .ok cell) columns cells)
    (name : String) {value : Value} (found : Fields.get? name cells = some value) :
    ∃ column, columns.find? (fun column => column.name == name) = some column ∧
      normalizeCell spec row column = .ok (name, value) := by
  induction each with
  | nil => cases found
  | cons first _ inductionHypothesis =>
      rename_i column cell columns cells others
      obtain ⟨cellName, cellValue⟩ := cell
      have named : cellName = column.name := (normalizeCell_eq_ok.mp first).1
      by_cases here : column.name = name
      · refine ⟨column, by simp [here], ?_⟩
        have sameValue : cellValue = value := by simpa [Fields.get?, named, here] using found
        rw [first, named, here, sameValue]
      · have later : Fields.get? name cells = some value := by
          simpa [Fields.get?, named, here] using found
        obtain ⟨other, foundOther, normal⟩ := inductionHypothesis later
        exact ⟨other, by simp [here, foundOther], normal⟩

/-- The value that a normalised row has for a column is that of the last column of its name. -/
theorem exists_last_of_normalize {spec : Spec} {row stored : Row}
    (normal : normalize spec row = .ok stored) {column : Column} (inSpec : column ∈ spec.columns) :
    ∃ last, spec.columns.reverse.find? (fun other => other.name == column.name) = some last ∧
      normalizeCell spec row last = .ok (column.name, valueAt stored column.name) := by
  obtain ⟨-, cells, each, rfl⟩ := normalize_eq_ok.mp normal
  have inCells : column.name ∈ Fields.names cells.reverse := by
    rw [Fields.names_reverse, List.mem_reverse, names_of_cells each fun _ _ normal =>
      (holds_of_normalizeCell normal).1]
    exact List.mem_map.mpr ⟨column, inSpec, rfl⟩
  cases found : Fields.get? column.name cells.reverse with
  | none => exact absurd inCells (Fields.get?_eq_none_iff.mp found)
  | some value =>
      obtain ⟨last, isLast, lastNormal⟩ :=
        get?_of_cells (List.rel_reverse each) column.name found
      refine ⟨last, isLast, ?_⟩
      rw [lastNormal, valueAt, Fields.get?_collapse, found, Option.getD_some]

theorem Spec.mem_of_column? {spec : Spec} {name : String} {column : Column}
    (found : spec.column? name = some column) : column ∈ spec.columns ∧ column.name = name :=
  ⟨List.mem_of_find?_eq_some found, by simpa using List.find?_some found⟩

/-- Under the name of a column all normalised rows have values that one and the same column may
hold, which is the last one of that name. -/
theorem exists_column_holds {spec : Spec} {name : String}
    (known : (spec.column? name).isSome = true) :
    ∃ column ∈ spec.columns, column.name = name ∧
      ∀ {row stored : Row}, normalize spec row = .ok stored → column.Holds (valueAt stored name) := by
  obtain ⟨column, inSpec, named⟩ := List.find?_isSome.mp known
  rw [beq_iff_eq] at named
  subst named
  have present : (spec.columns.reverse.find? fun other => other.name == column.name).isSome :=
    List.find?_isSome.mpr ⟨column, List.mem_reverse.mpr inSpec, by simp⟩
  obtain ⟨last, isLast⟩ := Option.isSome_iff_exists.mp present
  have lastInSpec : last ∈ spec.columns := List.mem_reverse.mp (List.mem_of_find?_eq_some isLast)
  refine ⟨last, lastInSpec, by simpa using List.find?_some isLast, fun normal => ?_⟩
  obtain ⟨other, isOther, otherNormal⟩ := exists_last_of_normalize normal inSpec
  cases isLast.symm.trans isOther
  exact (holds_of_normalizeCell otherNormal).2

/-- Every column takes what a normalised row has for it. -/
private theorem exists_normalizeCell_of_normalize {spec : Spec} {row stored : Row}
    (normal : normalize spec row = .ok stored) {column : Column} (inSpec : column ∈ spec.columns) :
    ∃ cell, normalizeCell spec stored column = .ok cell := by
  obtain ⟨last, isLast, lastNormal⟩ := exists_last_of_normalize normal inSpec
  have sameName : last.name = column.name := by simpa using List.find?_some isLast
  obtain ⟨-, cells, each, -⟩ := normalize_eq_ok.mp normal
  obtain ⟨⟨cellName, value⟩, own⟩ := exists_mapM_eq_ok.mp ⟨cells, mapM_eq_ok.mpr each⟩ column inSpec
  cases (normalizeCell_eq_ok.mp own).1
  rw [← sameName] at lastNormal
  obtain ⟨again, normalAgain⟩ := normalizeCell_stored sameName.symm lastNormal own rfl
  exact ⟨_, normalAgain⟩

/-- The cells of a stored row that is normalised again have the values that are stored. -/
private theorem get?_of_normalizeCell_again {spec : Spec} {row stored cells : Row} {name : String}
    {value : Value} (normal : normalize spec row = .ok stored)
    (each : List.Forall₂ (fun column cell => normalizeCell spec stored column = .ok cell)
      spec.columns cells)
    (present : name ∈ Fields.names stored) (found : Fields.get? name cells.reverse = some value) :
    Fields.get? name stored = some value := by
  obtain ⟨last, isLast, lastNormal⟩ := get?_of_cells (List.rel_reverse each) name found
  have inSpec : last ∈ spec.columns := List.mem_reverse.mp (List.mem_of_find?_eq_some isLast)
  have named : last.name = name := by simpa using List.find?_some isLast
  subst named
  obtain ⟨other, isOther, otherNormal⟩ := exists_last_of_normalize normal inSpec
  cases isLast.symm.trans isOther
  have again := normalizeCell_of_holds spec (holds_of_normalizeCell otherNormal).2
  rw [lastNormal] at again
  cases again
  rw [valueAt]
  cases held : Fields.get? last.name stored with
  | none => exact absurd present (Fields.get?_eq_none_iff.mp held)
  | some value => rfl

/--
Normalisation leaves the rows that it produced as they are. With several columns of
one name this needs that each of them takes what the last one has stored.
-/
theorem normalize_idempotent {spec : Spec} {row stored : Row}
    (normal : normalize spec row = .ok stored) : normalize spec stored = .ok stored := by
  obtain ⟨-, cells, each, collapsed⟩ := normalize_eq_ok.mp normal
  have cellNames := names_of_cells each fun _ _ normal => (holds_of_normalizeCell normal).1
  have known : ∀ name ∈ Fields.names stored, (spec.column? name).isSome := by
    intro name member
    rw [← collapsed, Fields.mem_names_collapse, cellNames] at member
    obtain ⟨column, inSpec, rfl⟩ := List.mem_map.mp member
    exact List.find?_isSome.mpr ⟨column, inSpec, by simp⟩
  obtain ⟨cellsAgain, stepped⟩ :=
    exists_mapM_eq_ok.mpr fun _ => exists_normalizeCell_of_normalize normal
  have eachAgain := mapM_eq_ok.mp stepped
  have namesAgain := names_of_cells eachAgain fun _ _ normal => (holds_of_normalizeCell normal).1
  have sameNames : (Fields.collapse cellsAgain).names = Fields.names stored := by
    rw [← collapsed]
    exact Fields.names_merge_congr rfl (namesAgain.trans cellNames.symm)
  refine normalize_eq_ok.mpr ⟨known, cellsAgain, eachAgain, ?_⟩
  refine Fields.eq_of_names_eq (Fields.nodup_names_collapse _) sameNames fun name => ?_
  rw [Fields.get?_collapse]
  cases found : Fields.get? name cellsAgain.reverse with
  | none =>
      rw [← Fields.get?_collapse, Fields.get?_eq_none_iff, sameNames,
        ← Fields.get?_eq_none_iff] at found
      exact found.symm
  | some value =>
      have present : name ∈ Fields.names stored := by
        rw [← sameNames]
        by_contra missing
        rw [← Fields.get?_eq_none_iff, Fields.get?_collapse, found] at missing
        cases missing
      exact (get?_of_normalizeCell_again normal eachAgain present found).symm

/-! ## Columns with different names -/

/-- The rows of a declaration: a cell for each column, in their order, with a value it may hold. -/
def Spec.Holds (spec : Spec) (row : Row) : Prop :=
  List.Forall₂ (fun column cell => cell.1 = column.name ∧ column.Holds cell.2) spec.columns row

theorem Spec.Holds.names_eq {spec : Spec} {row : Row} (holds : spec.Holds row) :
    Fields.names row = spec.columns.map Column.name :=
  names_of_cells holds fun _ _ => And.left

/-- A row of the declaration has for every column a value that the column may hold. -/
theorem Spec.Holds.valueAt {spec : Spec} {row : Row} (holds : spec.Holds row)
    (distinct : (spec.columns.map Column.name).Nodup) {column : Column}
    (inSpec : column ∈ spec.columns) : column.Holds (valueAt row column.name) := by
  obtain ⟨place, inside, rfl⟩ := List.getElem_of_mem inSpec
  have insideRow : place < row.length := holds.length_eq ▸ inside
  have cell := (List.forall₂_iff_get.mp holds).2 place inside insideRow
  simp only [List.get_eq_getElem] at cell
  have member : (spec.columns[place].name, row[place].2) ∈ row := by
    rw [← cell.1]
    exact List.getElem_mem insideRow
  rw [Selection.valueAt, Fields.get?_eq_some_of_mem (holds.names_eq ▸ distinct) member]
  exact cell.2

/-- What normalisation produces is a row of the declaration. -/
theorem holds_of_normalize {spec : Spec} {row stored : Row}
    (distinct : (spec.columns.map Column.name).Nodup) (normal : normalize spec row = .ok stored) :
    spec.Holds stored := by
  obtain ⟨-, cells, each, rfl⟩ := normalize_eq_ok.mp normal
  have holds : spec.Holds cells := each.imp fun _ _ normal => holds_of_normalizeCell normal
  have distinctCells : (Fields.names cells).Nodup := holds.names_eq ▸ distinct
  rw [Fields.collapse_eq_self distinctCells]
  exact holds

/-- Every row of the declaration is stored as it is. -/
theorem normalize_of_holds {spec : Spec} {row : Row}
    (distinct : (spec.columns.map Column.name).Nodup) (holds : spec.Holds row) :
    normalize spec row = .ok row := by
  have distinctCells : (Fields.names row).Nodup := holds.names_eq ▸ distinct
  refine normalize_eq_ok.mpr ⟨?_, row, ?_, Fields.collapse_eq_self distinctCells⟩
  · intro name member
    rw [holds.names_eq] at member
    obtain ⟨column, inSpec, rfl⟩ := List.mem_map.mp member
    exact List.find?_isSome.mpr ⟨column, inSpec, by simp⟩
  · refine List.forall₂_iff_zip.mpr ⟨holds.length_eq, fun {column cell} paired => ?_⟩
    obtain ⟨name, value⟩ := cell
    obtain ⟨rfl, held⟩ := List.forall₂_zip holds paired
    have found : valueAt row column.name = value := by
      rw [valueAt, Fields.get?_eq_some_of_mem distinctCells (List.of_mem_zip paired).2,
        Option.getD_some]
    rw [← found] at held ⊢
    exact normalizeCell_of_holds spec held

/-! ## Dates -/

open MovieCatalogue.Calendar

namespace Kind

/-- A text is stored as the written form of the date that it writes. -/
theorem coerce_date_eq_ok {s : String} {stored : Value} :
    date.coerce (.text s) = .ok stored ↔
      ∃ d : Date, d.Writing s.toList ∧ .text d.text = stored := by
  simp only [coerce]
  constructor
  · intro coerced
    split at coerced
    case h_1 d read =>
        cases coerced
        exact ⟨d, writing_of_readDate read, rfl⟩
    case h_2 => cases coerced
  · rintro ⟨d, writing, rfl⟩
    rw [writing.readDate]

/-- A filter binds a text to what a row stores for it, blanks at its ends apart. -/
theorem readLiteral?_date_iff {literal : String} {bound : Value} :
    date.readLiteral? literal = some bound ↔
      date.coerce (.text (Text.trim literal)) = .ok bound := by
  simp only [readLiteral?, coerce, Text.trim, String.toList_ofList]
  cases readDate .strict (Text.trimBlanks literal.toList) with
  | ok d => simp
  | error => simp

end Kind

/-- A date is what its texts are stored and bound as, so it is known from what is stored. -/
theorem coerce_date_iff {s : String} {d : Date} :
    Kind.date.coerce (.text s) = .ok (.text d.text) ↔ d.Writing s.toList := by
  rw [Kind.coerce_date_eq_ok]
  constructor
  · rintro ⟨other, writing, same⟩
    rwa [← Date.text_injective (Value.text.inj same)]
  · exact fun writing => ⟨d, writing, rfl⟩

/-- Storage form is kept: by values, by what filters bind and by rows of every declaration. All texts
of a date have one storage form, in filters too. -/
theorem storage_form_kept :
    (∀ (kind : Kind) (value stored : Value), kind.coerce value = .ok stored →
        kind.coerce stored = .ok stored) ∧
      (∀ (kind : Kind) (literal : String) (bound : Value), kind.readLiteral? literal = some bound →
        kind.coerce bound = .ok bound) ∧
      (∀ (spec : Spec) (row stored : Row), normalize spec row = .ok stored →
        normalize spec stored = .ok stored) ∧
      (∀ (literal : String) (bound : Value), Kind.date.readLiteral? literal = some bound ↔
        Kind.date.coerce (.text (Text.trim literal)) = .ok bound) ∧
      (∀ (d : Date) (s : String),
        Kind.date.coerce (.text s) = .ok (.text d.text) ↔ d.Writing s.toList) ∧
      ∀ (d : Date) (literal : String), Kind.date.readLiteral? literal = some (.text d.text) ↔
        d.Writing (Text.trimBlanks literal.toList) := by
  refine ⟨fun _ _ _ coerced => Kind.coerce_of_stores (Kind.stores_of_coerce coerced),
    fun _ _ _ read => Kind.coerce_of_stores (Kind.stores_of_readLiteral? read),
    fun _ _ _ => normalize_idempotent, fun _ _ => Kind.readLiteral?_date_iff,
    fun _ _ => coerce_date_iff, fun d literal => ?_⟩
  rw [Kind.readLiteral?_date_iff, coerce_date_iff, Text.trim, String.toList_ofList]

end MovieCatalogue.Storage

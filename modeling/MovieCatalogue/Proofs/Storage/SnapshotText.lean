import MovieCatalogue.Proofs.Json.RoundTrip
import MovieCatalogue.Proofs.Number.Finite
import MovieCatalogue.Proofs.Number.Written
import MovieCatalogue.Proofs.Storage.StorageForm
import MovieCatalogue.Proofs.Text.Order
import MovieCatalogue.Storage.Snapshot

/-!
Contract: snapshots that are written and read again.

Owns: which documents stand for themselves; `Value.Kept`, the values that a JSON text
keeps, among them all values in storage form whose floating-point numbers are kept; that
rows of such values are read back from their JSON objects; and that a snapshot of such
rows is read back from its text.
Does not own: what is done with the rows; see `Proofs.Storage.Restoring`.
-/

namespace MovieCatalogue.Storage

open MovieCatalogue.Number MovieCatalogue.Refusal

/-! ## Documents -/

/-- A name by which no document stands for something else. -/
def Value.IsPlain (name : String) : Prop :=
  name.toList.head? ≠ some '$'

instance (name : String) : Decidable (Value.IsPlain name) :=
  inferInstanceAs (Decidable (_ ≠ _))

namespace Value

theorem get?_of_isPlain {α : Type} {readers : Fields α} {name : String} (plain : IsPlain name)
    (marked : ∀ reader ∈ readers.names, ¬ IsPlain reader) : readers.get? name = none :=
  Fields.get?_eq_none_iff.mpr fun member => marked name member plain

theorem ofMember?_of_isPlain {name : String} (plain : IsPlain name) (value : Value) :
    ofMember? name value = none := by
  have noNumber : numberReaders.get? name = none := get?_of_isPlain plain (by decide)
  have noSort : Foreign.readers.get? name = none := get?_of_isPlain plain (by decide)
  simp [ofMember?, noNumber, noSort]

/-- A document whose names are plain stands for itself. -/
theorem ofMembers_of_isPlain {members : Fields Value} (plain : ∀ name ∈ members.names, IsPlain name) :
    ofMembers members = .document members := by
  unfold ofMembers
  split
  case h_1 name value =>
      have alone : IsPlain name := plain name (by simp)
      rw [ofMember?_of_isPlain alone, Option.getD_none]
  case h_2 first second =>
      have noCode : Fields.get? "$code" [first, second] = none :=
        Fields.get?_eq_none_iff.mpr fun member => plain _ member (by decide)
      rw [isScopedCode, noCode]
      rfl
  case h_3 => rfl

theorem ofJson_of_ofMember? {name digits : String} {value : Value}
    (read : ofMember? name (.text digits) = some value) :
    ofJson (.object [(name, .string digits)]) = .ok value := by
  simp [ofJson, ofJsonMembers, ofMembers, read, bind, Except.bind, pure, Except.pure]

/-- A document may be another way to write a whole number. -/
theorem ofJson_numberLong (n : Int64) :
    ofJson (.object [("$numberLong", .string (intText n.toInt))]) = .ok (.int64 n) := by
  have read : (readInt64? (intText n.toInt)).map Value.int64 = some (.int64 n) := by
    rw [readInt64?_intText, Option.map_some]
  exact ofJson_of_ofMember? read

/-- A document may be another way to write a floating-point number. -/
theorem ofJson_numberDouble {digits : String} {x : Binary64} (read : readDecimal? digits = some x) :
    ofJson (.object [("$numberDouble", .string digits)]) = .ok (.real x) := by
  have named : (readDecimal? digits).map Value.real = some (.real x) := by
    rw [read, Option.map_some]
  exact ofJson_of_ofMember? named

end Value

/-! ## Values -/

/-- A floating-point number is read back: from its text if it is finite, and else by its name. -/
def Value.KeepsReal (x : Binary64) : Prop :=
  if x.isFinite then Json.Rereads x else Value.ofJson (Value.realToJson x) = .ok (.real x)

/-- The values that a JSON text keeps: all that a table stores but floating-point numbers that are
not read back. -/
inductive Value.Kept : Value → Prop
  | null : Kept .null
  | bool (b : Bool) : Kept (.bool b)
  | int64 (n : Int64) : Kept (.int64 n)
  | text (s : String) : Kept (.text s)
  | real {x : Binary64} (keeps : Value.KeepsReal x) : Kept (.real x)

namespace Value

variable {x : Binary64}

theorem keepsReal_of_isFinite (finite : x.isFinite = true) :
    KeepsReal x ↔ Json.Rereads x := by
  simp [KeepsReal, finite]

/-- A number that is not finite is read back by its name, unless it is another NaN than the one that
has this name. -/
theorem keepsReal_of_not_isFinite (infinite : x.isFinite = false) :
    KeepsReal x ↔ (x.isNaN = true → x = .nan) := by
  unfold KeepsReal realToJson
  rw [infinite, if_neg Bool.false_ne_true, if_neg Bool.false_ne_true]
  cases isNaN : x.isNaN with
  | true =>
      have read : readDecimal? "NaN" = some .nan := by decide
      simp [ofJson_numberDouble read, eq_comm]
  | false =>
      have read : readDecimal? (if x.negative then "-Infinity" else "Infinity") = some x := by
        rw [Binary64.eq_infinity_of_isFinite infinite isNaN]
        cases x.negative with
        | true => decide
        | false => decide
      simpa using ofJson_numberDouble read

theorem KeepsReal.ofJson_realToJson (keeps : KeepsReal x) : ofJson (realToJson x) = .ok (.real x) := by
  cases finite : x.isFinite with
  | true => simp [realToJson, finite, ofJson]
  | false => simpa [KeepsReal, finite] using keeps

theorem collapse_realToJson (x : Binary64) : (realToJson x).collapse = realToJson x := by
  cases finite : x.isFinite with
  | true => simp [realToJson, finite, Json.collapse]
  | false => simp [realToJson, finite, Json.collapse, Json.collapseMembers, Fields.collapse,
      Fields.merge, Fields.put]

theorem KeepsReal.fits_realToJson (keeps : KeepsReal x) (levels : Nat) :
    Json.Fits (levels + 1) (realToJson x) := by
  cases finite : x.isFinite with
  | true => simpa [realToJson, finite, Json.Fits] using (keepsReal_of_isFinite finite).mp keeps
  | false => simp [realToJson, finite, Json.Fits, Json.FitMembers]

theorem kept_of_stores {kind : Kind} {value : Value} (stores : kind.Stores value)
    (reals : ∀ x, value = .real x → KeepsReal x) : value.Kept := by
  cases stores with
  | integer n => exact .int64 n
  | real x => exact .real (reals x rfl)
  | text s => exact .text s
  | boolean b => exact .bool b
  | date d => exact .text d.text

theorem Kept.ofJson_toJson {value : Value} (kept : value.Kept) : ofJson value.toJson = .ok value := by
  cases kept with
  | null => simp [toJson, ofJson]
  | bool b => simp [toJson, ofJson]
  | int64 n =>
      have fits : n.toInt ≤ maxInt64 := n.toInt_le
      simp [toJson, ofJson, fits]
  | text s => simp [toJson, ofJson]
  | real keeps => rw [toJson, keeps.ofJson_realToJson]

theorem Kept.collapse_toJson {value : Value} (kept : value.Kept) :
    value.toJson.collapse = value.toJson := by
  cases kept with
  | real => rw [toJson, collapse_realToJson]
  | _ => simp [toJson, Json.collapse]

theorem Kept.fits_toJson {value : Value} (kept : value.Kept) (levels : Nat) :
    Json.Fits (levels + 1) value.toJson := by
  cases kept with
  | null => simp [toJson, Json.Fits]
  | bool b => simp [toJson, Json.Fits]
  | int64 n => exact ⟨n.le_toInt, n.toInt_le⟩
  | text s => simp [toJson, Json.Fits]
  | real keeps =>
      rw [toJson]
      exact keeps.fits_realToJson levels

end Value

/-! ## Rows -/

/-- The rows that a JSON object keeps: kept values under different plain names. -/
structure Row.Kept (row : Row) : Prop where
  distinct : (Fields.names row).Nodup
  plain : ∀ name ∈ Fields.names row, Value.IsPlain name
  values : ∀ cell ∈ row, cell.2.Kept

/-- Rows in storage form are kept if the names of their columns are plain and their floating-point
numbers are kept. -/
theorem kept_of_normalize {spec : Spec} {row stored : Row} (normal : normalize spec row = .ok stored)
    (plain : ∀ column ∈ spec.columns, Value.IsPlain column.name)
    (reals : ∀ cell ∈ stored, ∀ x, cell.2 = .real x → Value.KeepsReal x) : Row.Kept stored := by
  obtain ⟨-, cells, each, rfl⟩ := normalize_eq_ok.mp normal
  have origin {cell : String × Value} (member : cell ∈ Fields.collapse cells) :
      ∃ column ∈ spec.columns, normalizeCell spec row column = .ok cell :=
    exists_of_mem_results each (Fields.mem_of_mem_collapse member)
  refine ⟨Fields.nodup_names_collapse cells, fun name inNames => ?_, fun cell member => ?_⟩
  · obtain ⟨cell, member, rfl⟩ := List.mem_map.mp inNames
    obtain ⟨column, inSpec, cellNormal⟩ := origin member
    exact (holds_of_normalizeCell cellNormal).1 ▸ plain column inSpec
  · obtain ⟨column, -, cellNormal⟩ := origin member
    have holds := (holds_of_normalizeCell cellNormal).2
    obtain ⟨name, value⟩ := cell
    cases holds with
    | absent => exact .null
    | stored form => exact Value.kept_of_stores form (reals _ member)

namespace Row

theorem ofJsonMembers_toJsonMembers {row : Row} (values : ∀ cell ∈ row, cell.2.Kept) :
    Value.ofJsonMembers (Value.toJsonMembers row) = .ok row := by
  induction row with
  | nil => simp [Value.toJsonMembers, Value.ofJsonMembers]
  | cons cell others inductionHypothesis =>
      rw [List.forall_mem_cons] at values
      rw [Value.toJsonMembers, Value.ofJsonMembers, values.1.ofJson_toJson]
      simp [bind, Except.bind, inductionHypothesis values.2, pure, Except.pure]

theorem names_toJsonMembers (row : Row) :
    Fields.names (Value.toJsonMembers row) = Fields.names row := by
  induction row with
  | nil => simp [Value.toJsonMembers, Fields.names]
  | cons cell others inductionHypothesis =>
      rw [Value.toJsonMembers, Fields.names_cons, Fields.names_cons, inductionHypothesis]

theorem collapseMembers_toJsonMembers {row : Row} (values : ∀ cell ∈ row, cell.2.Kept) :
    Json.collapseMembers (Value.toJsonMembers row) = Value.toJsonMembers row := by
  induction row with
  | nil => simp [Value.toJsonMembers, Json.collapseMembers]
  | cons cell others inductionHypothesis =>
      rw [List.forall_mem_cons] at values
      rw [Value.toJsonMembers, Json.collapseMembers, values.1.collapse_toJson,
        inductionHypothesis values.2]

theorem fitMembers_toJsonMembers {row : Row} (values : ∀ cell ∈ row, cell.2.Kept) (levels : Nat) :
    Json.FitMembers (levels + 1) (Value.toJsonMembers row) := by
  induction row with
  | nil => simp [Value.toJsonMembers, Json.FitMembers]
  | cons cell others inductionHypothesis =>
      rw [List.forall_mem_cons] at values
      exact ⟨values.1.fits_toJson levels, inductionHypothesis values.2⟩

namespace Kept

variable {row : Row}

/-- A row is read from its JSON object. -/
theorem ofJson_toJson (kept : Row.Kept row) : Row.ofJson (Row.toJson row) = .ok row := by
  have members := ofJsonMembers_toJsonMembers kept.values
  have read : Value.ofJson (.object (Value.toJsonMembers row)) = .ok (.document row) := by
    rw [Value.ofJson, members, ← Value.ofMembers_of_isPlain kept.plain]
    rfl
  rw [toJson, Row.ofJson, read]
  rfl

theorem collapse_toJson (kept : Row.Kept row) : (Row.toJson row).collapse = Row.toJson row := by
  have distinct : (Fields.names (Value.toJsonMembers row)).Nodup :=
    (names_toJsonMembers row).symm ▸ kept.distinct
  rw [toJson, Json.collapse, collapseMembers_toJsonMembers kept.values,
    Fields.collapse_eq_self distinct]

theorem fits_toJson (kept : Row.Kept row) (levels : Nat) :
    Json.Fits (levels + 2) (Row.toJson row) :=
  fitMembers_toJsonMembers kept.values levels

end Kept

end Row

/-! ## Snapshots -/

namespace Snapshot

/-- The snapshots that their texts keep: kept rows under different names, in the order of the
names. -/
structure Kept (snapshot : Snapshot) : Prop where
  distinct : (Fields.names snapshot.tables).Nodup
  ordered : snapshot.tables.Pairwise fun first second => Text.leTexts first.1 second.1 = true
  rows : ∀ table ∈ snapshot.tables, ∀ json ∈ table.2, ∃ row : Row, row.Kept ∧ row.toJson = json

variable {snapshot : Snapshot}

theorem Kept.fits_toJson (kept : snapshot.Kept) : Json.Fits Json.deepest snapshot.toJson := by
  have tablesFit : Json.FitMembers 125
      (snapshot.tables.map fun table => (table.1, Json.array table.2)) := by
    refine Json.fitMembers_iff.mpr fun member inMembers => ?_
    obtain ⟨table, inTables, rfl⟩ := List.mem_map.mp inMembers
    have rowsFit : Json.FitItems 124 table.2 := by
      refine Json.fitItems_iff.mpr fun json inTable => ?_
      obtain ⟨row, keptRow, rfl⟩ := kept.rows table inTables json inTable
      exact keptRow.fits_toJson 122
    exact rowsFit
  have versionFits : minInt64 ≤ version ∧ version ≤ maxInt64 := by decide
  exact ⟨versionFits, tablesFit, trivial⟩

private theorem readRows_array (kept : snapshot.Kept) {table : String × List Json}
    (inTables : table ∈ snapshot.tables) : readRows (table.1, .array table.2) = .ok table := by
  have same : table.2.map Json.collapse = table.2 := by
    refine (List.map_congr_left fun json inTable => ?_).trans (List.map_id _)
    obtain ⟨row, keptRow, rfl⟩ := kept.rows table inTables json inTable
    exact keptRow.collapse_toJson
  simp [readRows, same]

theorem Kept.ofJson_toJson (kept : snapshot.Kept) : ofJson snapshot.toJson = .ok snapshot := by
  have tables : readTables (.object (snapshot.tables.map fun table => (table.1, .array table.2))) =
      .ok snapshot.tables := by
    have each : (snapshot.tables.map fun table => (table.1, Json.array table.2)).mapM readRows =
        .ok snapshot.tables := by
      rw [mapM_eq_ok, List.forall₂_map_left_iff, List.forall₂_same]
      exact fun table inTables => readRows_array kept inTables
    rw [readTables, each]
    simp only [bind, Except.bind, Fields.collapse_eq_self kept.distinct,
      List.mergeSort_of_pairwise kept.ordered]
    rfl
  have found : parts snapshot.toJson = .ok (.int version,
      .object (snapshot.tables.map fun table => (table.1, .array table.2))) := rfl
  have current : readVersion (.int version) = .ok version := by decide
  simp only [ofJson, found, current, tables, bind, Except.bind]
  rfl

/-- A snapshot is read from its text. -/
theorem Kept.ofText_text (kept : snapshot.Kept) : ofText snapshot.text = .ok snapshot := by
  have read : Json.ofTextChoosing partNames snapshot.text = .ok snapshot.toJson := by
    refine Json.ofTextChoosing_pretty kept.fits_toJson fun each member => ?_
    simp only [List.mem_cons, List.not_mem_nil, or_false] at member
    rcases member with rfl | rfl <;> simp [partNames]
  simp [ofText, read, Except.mapError, bind, Except.bind, kept.ofJson_toJson]

end Snapshot

end MovieCatalogue.Storage

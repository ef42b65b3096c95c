import MovieCatalogue.Proofs.Storage.WrittenIntegers

/-!
Contract: rows that are inserted under the next key.

Owns: the keys in a table and the largest of them; `Spec.IntegerKey`, tables whose primary key is one
column of integers; that a batch of rows under the next keys is a batch of insertions under the
numbers that follow the largest key, none of which is taken; and that tables with another primary
key refuse such rows.
Does not own: the keys that are chosen in a run; see `Proofs.Storage.ChosenKeys`.
-/

namespace MovieCatalogue.Storage

open MovieCatalogue.Number MovieCatalogue.Refusal MovieCatalogue.Selection

/-! ## The largest key -/

/-- The number is the largest of some keys, or zero if there are none. -/
structure IsLargest (keys : List Int) (last : Int) : Prop where
  bound : ∀ key ∈ keys, key ≤ last
  attained : keys = [] ∧ last = 0 ∨ last ∈ keys

/-- The next number is the largest after it was added. -/
theorem IsLargest.next {keys : List Int} {last : Int} (isLargest : IsLargest keys last) :
    IsLargest (keys ++ [last + 1]) (last + 1) := by
  refine ⟨fun key member => ?_, .inr (by simp)⟩
  rcases List.mem_append.mp member with earlier | isNext
  · have below := isLargest.bound key earlier
    omega
  · exact Int.le_of_eq (List.mem_singleton.mp isNext)

theorem Value.minInt64_le_of_integer? {value : Value} {n : Int} (isInteger : value.integer? = some n) :
    minInt64 ≤ n := by
  unfold minInt64
  cases value with
  | int32 word =>
      cases isInteger
      have least := Int32.le_toInt word
      omega
  | int64 word =>
      cases isInteger
      exact Int64.le_toInt word
  | _ => cases isInteger

namespace Table

variable {table after : Table} {column key : String} {row stored : Row} {last : Int}

/-- The integers under a column, in the order of the rows. -/
def keys (table : Table) (column : String) : List Int :=
  table.rows.filterMap fun row => (valueAt row.cells column).integer?

theorem largest_eq_iff : table.largest column = last ↔ IsLargest (table.keys column) last := by
  have isMaximum : table.largest column = (table.keys column).max?.getD 0 := by
    unfold largest keys
    split
    case h_1 none =>
        rw [none]
        rfl
    case h_2 first others some =>
        rw [some, List.max?_cons']
        rfl
  rw [isMaximum]
  cases keys : table.keys column with
  | nil =>
      constructor
      · rintro rfl
        exact ⟨by simp, .inl ⟨rfl, rfl⟩⟩
      · rintro ⟨-, ⟨-, rfl⟩ | impossible⟩
        · rfl
        · cases impossible
  | cons first others =>
      have greatest : (first :: others).max? = some last ↔ IsLargest (first :: others) last := by
        rw [List.max?_eq_some_iff]
        constructor
        · rintro ⟨member, bound⟩
          exact ⟨bound, .inr member⟩
        · rintro ⟨bound, ⟨impossible, -⟩ | member⟩
          · cases impossible
          · exact ⟨member, bound⟩
      rw [← greatest, List.max?_cons']
      exact Option.some_inj.symm

theorem keys_append : (table.append row).keys column =
    table.keys column ++ (valueAt row column).integer?.toList := by
  rw [keys, append, List.filterMap_append]
  cases integer : (valueAt row column).integer? <;> simp [keys, integer]

/-- The number after the largest key is a 64-bit word if it is not too large. -/
theorem toInt_ofInt_of_largest (isLargest : IsLargest (table.keys column) last) {n : Int}
    (above : last < n) (fits : n ≤ maxInt64) : (Int64.ofInt n).toInt = n := by
  have least : minInt64 ≤ last := by
    rcases isLargest.attained with ⟨-, rfl⟩ | member
    · decide
    · obtain ⟨row, -, isInteger⟩ := List.mem_filterMap.mp member
      exact Value.minInt64_le_of_integer? isInteger
  simp only [minInt64, maxInt64] at least fits
  exact Int64.toInt_ofInt_of_le (by omega) (by omega)

end Table

/-! ## Integer keys -/

/-- The primary key is one column, and this holds integers. -/
structure Spec.IntegerKey (spec : Spec) (key : String) : Prop where
  only : spec.primaryKey = [key]
  known : (spec.column? key).isSome = true
  integers : ∀ column ∈ spec.columns, column.name = key → column.kind = .integer

/-- All names in a row are those of columns, and every column but that of the key takes its value. -/
structure Spec.TakesBesides (spec : Spec) (key : String) (row : Row) : Prop where
  known : ∀ name ∈ Fields.names row, (spec.column? name).isSome = true
  taken : ∀ column ∈ spec.columns, column.name ≠ key →
    ∃ cell, normalizeCell spec row column = .ok cell

namespace Spec.IntegerKey

variable {spec : Spec} {key : String} {row stored : Row} {n : Int64}

theorem integerKey?_eq (isKey : spec.IntegerKey key) : spec.integerKey? = some key := by
  obtain ⟨column, found⟩ := Option.isSome_iff_exists.mp isKey.known
  obtain ⟨inSpec, named⟩ := Spec.mem_of_column? found
  simp [integerKey?, isKey.only, found, isKey.integers column inSpec named]

theorem null_or_int64 (isKey : spec.IntegerKey key) (normal : normalize spec row = .ok stored) :
    valueAt stored key = .null ∨ ∃ n, valueAt stored key = .int64 n := by
  obtain ⟨column, inSpec, named, holds⟩ := exists_column_holds isKey.known
  refine (holds normal).null_or_stores.imp_right fun stores => ?_
  rw [isKey.integers column inSpec named] at stores
  generalize valueAt stored key = value at stores
  cases stores with
  | integer n => exact ⟨n, rfl⟩

/-- A row is stored under the key that is put into it. -/
theorem valueAt_of_put (isKey : spec.IntegerKey key)
    (normal : normalize spec (Fields.put key (.int64 n) row) = .ok stored) :
    valueAt stored key = .int64 n := by
  have given : valueAt (Fields.put key (.int64 n) row) key = .int64 n := by
    rw [valueAt, Fields.get?_put_self, Option.getD_some]
  have storedFor := storedFor_of_normalize isKey.known isKey.integers normal
  rw [given] at storedFor
  obtain ⟨m, isNumber, inKey⟩ := storedFor rfl
  have same : n.toInt = m := by exact_mod_cast Option.some.inj isNumber
  rw [inKey, ← same, Kind.saturate_toInt]

/-- A row whose other values are taken is taken under every key. -/
theorem exists_normalize_put (isKey : spec.IntegerKey key) (takes : spec.TakesBesides key row)
    (n : Int64) : ∃ stored, normalize spec (Fields.put key (.int64 n) row) = .ok stored := by
  have each : ∀ column ∈ spec.columns,
      ∃ cell, normalizeCell spec (Fields.put key (.int64 n) row) column = .ok cell := by
    intro column inSpec
    by_cases isColumn : column.name = key
    · refine ⟨(column.name, .int64 n), normalizeCell_eq_ok.mpr ⟨rfl, .inr ?_⟩⟩
      rw [isColumn, valueAt, Fields.get?_put_self, isKey.integers column inSpec isColumn]
      exact ⟨rfl, rfl⟩
    · have unchanged : valueAt (Fields.put key (.int64 n) row) column.name =
          valueAt row column.name := by
        rw [valueAt, Fields.get?_put_of_ne _ _ isColumn]
        rfl
      obtain ⟨cell, normal⟩ := takes.taken column inSpec isColumn
      refine ⟨cell, ?_⟩
      rw [← normal]
      simp only [normalizeCell, unchanged]
  obtain ⟨cells, stepped⟩ := exists_mapM_eq_ok.mpr each
  refine ⟨_, normalize_eq_ok.mpr ⟨fun name member => ?_, cells, mapM_eq_ok.mp stepped, rfl⟩⟩
  obtain ⟨cell, inPut, rfl⟩ := List.mem_map.mp member
  rcases Fields.eq_or_mem_of_mem_put inPut with rfl | inRow
  · exact isKey.known
  · exact takes.known _ (List.mem_map_of_mem inRow)

end Spec.IntegerKey

/-! ## Fresh keys -/

namespace Table

/-- An insertion violates a constraint only if its row collides with another one on it. -/
theorem exists_collide_of_violation {table : Table} {row : Row} {name : String}
    {constraint : List String}
    (refused : table.insert row = .error (.uniqueViolation name constraint)) :
    ∃ stored held, normalize table.spec row = .ok stored ∧ held ∈ table.rows ∧
      Collide constraint stored held.cells := by
  rcases bind_eq_error.mp refused with invalid | ⟨stored, normal, rest⟩
  · obtain ⟨_, _, impossible⟩ := exists_of_normalize_eq_error invalid
    cases impossible
  · rcases bind_eq_error.mp rest with taken | ⟨passed, -, impossible⟩
    · obtain ⟨_, -, same, held, inTable, collide⟩ := checkUnique_eq_error taken
      cases same
      exact ⟨stored, held, normal, inTable, collide⟩
    · cases impossible

/-- A sound table whose primary key is one column of integers, with the largest of them. -/
structure Counts (table : Table) (key : String) (last : Int) : Prop where
  sound : table.Sound
  isKey : table.spec.IntegerKey key
  isLargest : IsLargest (table.keys key) last

namespace Counts

variable {table after : Table} {key : String} {last : Int} {row stored : Row} {n : Int64}
  {constraint : List String}

theorem integerKey?_eq (counts : table.Counts key last) : table.spec.integerKey? = some key :=
  counts.isKey.integerKey?_eq

/-- A row under a larger key than all others collides with none on a constraint with the key. -/
theorem not_collide (counts : table.Counts key last) (inKey : valueAt stored key = .int64 n)
    (above : last < n.toInt) (inConstraint : key ∈ constraint) :
    ∀ held ∈ table.rows, ¬ Collide constraint stored held.cells := by
  intro held inTable collide
  rcases counts.isKey.null_or_int64 (counts.sound.stored held inTable) with absent | ⟨m, heldKey⟩
  · have present := (collide key inConstraint).2.1
    rw [absent] at present
    cases present
  · have same := collide.int64_eq inConstraint inKey heldKey
    have inKeys : m.toInt ∈ table.keys key :=
      List.mem_filterMap.mpr ⟨held, inTable, by rw [heldKey]; rfl⟩
    have below := counts.isLargest.bound _ inKeys
    omega

/-- After a row under the next number, this is the largest. -/
theorem insert (counts : table.Counts key last) (fits : last + 1 ≤ maxInt64)
    (inserted : table.insert (Fields.put key (.int64 (Int64.ofInt (last + 1))) row) =
      .ok (after, stored)) : after.Counts key (last + 1) := by
  obtain ⟨normal, apart, rfl⟩ := insert_eq_ok.mp inserted
  have number := toInt_ofInt_of_largest counts.isLargest (Int.lt_succ last) fits
  have inKey := counts.isKey.valueAt_of_put normal
  refine ⟨(Step.appended normal apart).sound counts.sound, counts.isKey, ?_⟩
  have keys : (table.append stored).keys key = table.keys key ++ [last + 1] := by
    rw [keys_append, inKey, Value.integer?, number]
    rfl
  exact keys ▸ counts.isLargest.next

end Counts

/-! ## Batches under the next keys -/

/-- Rows under the keys that follow a number. -/
def numbered (key : String) (last : Int) : List Row → List Row
  | [] => []
  | row :: rows =>
    Fields.put key (.int64 (Int64.ofInt (last + 1))) row :: numbered key (last + 1) rows

variable {table : Table} {key : String} {last : Int} {rows stored : List Row}
  {constraint : List String}

/-- Rows whose other values are taken are taken under the keys that follow a number. -/
theorem exists_mapM_numbered {spec : Spec} (isKey : spec.IntegerKey key)
    (takes : ∀ row ∈ rows, spec.TakesBesides key row) (last : Int) :
    ∃ stored, (numbered key last rows).mapM (normalize spec) = .ok stored := by
  rw [exists_mapM_eq_ok]
  induction rows generalizing last with
  | nil => exact List.forall_mem_nil _
  | cons row rows inductionHypothesis =>
      rw [List.forall_mem_cons] at takes
      exact List.forall_mem_cons.mpr
        ⟨isKey.exists_normalize_put takes.1 _, inductionHypothesis takes.2 _⟩

theorem length_numbered (key : String) (last : Int) (rows : List Row) :
    (numbered key last rows).length = rows.length := by
  induction rows generalizing last with
  | nil => rfl
  | cons row rows inductionHypothesis => simp [numbered, inductionHypothesis]

/-- What is stored for the rows under the keys that follow a number has these keys in order. -/
theorem valueAt_of_numbered {spec : Spec} (isKey : spec.IntegerKey key)
    (normal : (numbered key last rows).mapM (normalize spec) = .ok stored) {place : Nat} {row : Row}
    (here : stored[place]? = some row) :
    valueAt row key = .int64 (Int64.ofInt (last + 1 + place)) := by
  rw [mapM_eq_ok] at normal
  induction rows generalizing last stored place with
  | nil =>
      cases normal
      cases here
  | cons first rows inductionHypothesis =>
      cases normal with
      | cons normalFirst others =>
          cases place with
          | zero =>
              cases here
              rw [isKey.valueAt_of_put normalFirst, Int.natCast_zero, Int.add_zero]
          | succ place =>
              rw [inductionHypothesis others here, Int.natCast_add, Int.natCast_one]
              congr 2
              omega

namespace Counts

variable (counts : table.Counts key last) (fits : last + rows.length ≤ maxInt64)
include counts fits

theorem exists_number (normal : (numbered key last rows).mapM (normalize table.spec) = .ok stored)
    {place : Nat} {row : Row} (here : stored[place]? = some row) :
    ∃ n : Int64, valueAt row key = .int64 n ∧ n.toInt = last + 1 + place := by
  refine ⟨_, valueAt_of_numbered counts.isKey normal here, ?_⟩
  have sameLength := (mapM_eq_ok.mp normal).length_eq
  obtain ⟨inside, -⟩ := List.getElem?_eq_some_iff.mp here
  rw [length_numbered] at sameLength
  exact toInt_ofInt_of_largest counts.isLargest (by omega) (by omega)

/-- Rows under the next keys are inserted like rows under the numbers that follow the largest key. -/
theorem applyAll_insertNextKey : table.applyAll (rows.map .insertNextKey) =
    table.applyAll ((numbered key last rows).map .insert) := by
  induction rows generalizing table last with
  | nil => rfl
  | cons row rows inductionHypothesis =>
      rw [List.length_cons, Int.natCast_add, Int.natCast_one] at fits
      have sameChange : table.apply (.insertNextKey row) =
          table.apply (.insert (Fields.put key (.int64 (Int64.ofInt (last + 1))) row)) := by
        simp only [apply, insertNextKey, counts.integerKey?_eq, largest_eq_iff.mpr counts.isLargest]
      rw [List.map_cons, numbered, List.map_cons, applyAll, applyAll, sameChange]
      cases applied : table.apply
        (.insert (Fields.put key (.int64 (Int64.ofInt (last + 1))) row)) with
      | error error => rfl
      | ok stepped =>
          obtain ⟨⟨next, written⟩, inserted, rfl⟩ := map_eq_ok.mp applied
          have countsNext := counts.insert (by omega) inserted
          simp only [bind, Except.bind, inductionHypothesis countsNext (by omega)]

/-- Rows that are stored under the next keys collide on no constraint that has the key. -/
theorem apart_of_mem
    (normal : (numbered key last rows).mapM (normalize table.spec) = .ok stored)
    (inConstraint : key ∈ constraint) :
    stored.Pairwise (fun first second => ¬ Collide constraint first second) ∧
      ∀ held ∈ table.rows, ∀ row ∈ stored, ¬ Collide constraint row held.cells := by
  have number {place : Nat} {row : Row} (here : stored[place]? = some row) :=
    counts.exists_number fits normal here
  constructor
  · rw [List.pairwise_iff_getElem]
    intro earlier later insideEarlier insideLater before collide
    obtain ⟨m, inEarlier, isEarlier⟩ := number (List.getElem?_eq_getElem insideEarlier)
    obtain ⟨n, inLater, isLater⟩ := number (List.getElem?_eq_getElem insideLater)
    have same := collide.int64_eq inConstraint inEarlier inLater
    omega
  · intro held inTable row inStored
    obtain ⟨place, inside, rfl⟩ := List.getElem_of_mem inStored
    obtain ⟨n, inKey, isNumber⟩ := number (List.getElem?_eq_getElem inside)
    exact counts.not_collide inKey (by omega) inConstraint held inTable

/-- Rows under the next keys are all inserted if they collide on no constraint without the key. -/
theorem applyAll_insertNextKey_eq_ok
    (normal : (numbered key last rows).mapM (normalize table.spec) = .ok stored)
    (free : ∀ constraint ∈ table.spec.unique, key ∉ constraint →
      stored.Pairwise (fun first second => ¬ Collide constraint first second) ∧
        ∀ held ∈ table.rows, ∀ row ∈ stored, ¬ Collide constraint row held.cells) :
    table.applyAll (rows.map .insertNextKey) = .ok (table.appendAll stored, stored) := by
  rw [counts.applyAll_insertNextKey fits, applyAll_inserts_eq_ok]
  refine ⟨normal, fun constraint inSpec => ?_, rfl⟩
  by_cases inConstraint : key ∈ constraint
  · exact counts.apart_of_mem fits normal inConstraint
  · rcases List.mem_cons.mp inSpec with rfl | inUnique
    · exact absurd (counts.isKey.only ▸ List.mem_cons_self) inConstraint
    · exact free constraint inUnique inConstraint

/-- A violation that refuses rows under the next keys is none of a constraint with the key. -/
theorem not_mem_of_violation {name : String}
    (refused : table.applyAll (rows.map .insertNextKey) =
      .error (.uniqueViolation name constraint)) : key ∉ constraint := by
  rw [counts.applyAll_insertNextKey fits] at refused
  induction rows generalizing table last with
  | nil => cases refused
  | cons row rows inductionHypothesis =>
      rw [List.length_cons, Int.natCast_add, Int.natCast_one] at fits
      rcases bind_eq_error.mp refused with here | ⟨⟨next, written⟩, applied, rest⟩
      · obtain ⟨stored, held, normal, inTable, collide⟩ :=
          exists_collide_of_violation (map_eq_error.mp here)
        intro inConstraint
        have number := toInt_ofInt_of_largest counts.isLargest (Int.lt_succ last) (by omega)
        exact counts.not_collide (counts.isKey.valueAt_of_put normal)
          (number.symm ▸ Int.lt_succ last) inConstraint held inTable collide
      · obtain ⟨⟨_, stored⟩, inserted, built⟩ := map_eq_ok.mp applied
        cases built
        rcases bind_eq_error.mp rest with later | ⟨_, -, impossible⟩
        · exact inductionHypothesis (counts.insert (by omega) inserted) (by omega) later
        · cases impossible

end Counts

end Table

/-! ## Other keys -/

theorem Spec.integerKey?_eq_none_iff {spec : Spec} : spec.integerKey? = none ↔
    ∀ key, spec.primaryKey = [key] → ∀ column, spec.column? key = some column →
      column.kind ≠ .integer := by
  unfold integerKey?
  split
  case h_1 key only =>
      simp only [only, List.cons.injEq, and_true, forall_eq']
      cases spec.column? key <;> simp
  case h_2 other => exact ⟨fun _ key only => absurd only (other key), fun _ => rfl⟩

/-- Without an integer key no row is inserted under the next key. -/
theorem Table.applyAll_insertNextKey_of_none {table : Table} (noKey : table.spec.integerKey? = none)
    (row : Row) (rows : List Row) : table.applyAll ((row :: rows).map .insertNextKey) =
      .error (.invalidValue table.spec.name (Text.join "_" table.spec.primaryKey)
        "key is not a single integer column") := by
  simp [applyAll, apply, insertNextKey, noKey, Except.map, bind, Except.bind]

end MovieCatalogue.Storage

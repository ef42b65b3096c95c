import MovieCatalogue.Proofs.Storage.Run
import MovieCatalogue.Proofs.Storage.StoredOrder

/-!
Contract: rows and their own keys.

Owns: what the equality of keys says about the values of a key; that rows of one table have
different keys where no key value may be absent; and when a row is found by its own key. The
unique constraints and the look-up compare reals in two ways: the constraints keep the two
zeros apart and take NaN for itself, the look-up does neither.
Does not own: keys that are written as identifiers; see `Proofs.Record.Identifier`.
-/

namespace MovieCatalogue.Number.Binary64

/-- The number, with positive zero for either zero. -/
def mergeZeros (x : Binary64) : Binary64 :=
  if x.isZero then zero else x

theorem isNaN_of_isZero {x : Binary64} (isZero : x.isZero = true) : x.isNaN = false := by
  have magnitude : x.magnitude = 0 := by simpa [Binary64.isZero] using isZero
  simp [isNaN, magnitude]

theorem equals_iff {x y : Binary64} :
    x.equals y = true ↔ y.isNaN = false ∧ x.mergeZeros = y.mergeZeros := by
  have zeroIsZero : zero.isZero = true := rfl
  unfold equals mergeZeros
  by_cases left : x.isZero = true
  · by_cases right : y.isZero = true
    · simp [left, right, isNaN_of_isZero left, isNaN_of_isZero right]
    · have different : x ≠ y := fun same => right (same ▸ left)
      have notZero : zero ≠ y := fun same => right (same ▸ zeroIsZero)
      simp [left, right, different, notZero]
  · by_cases right : y.isZero = true
    · have different : x ≠ y := fun same => left (same ▸ right)
      have notZero : x ≠ zero := fun same => left (same ▸ zeroIsZero)
      simp [left, right, different, notZero]
    · simp only [left, right, Bool.false_and, Bool.false_or, Bool.and_eq_true, Bool.not_eq_true',
        decide_eq_true_eq]
      constructor
      · rintro ⟨⟨-, number⟩, same⟩
        exact ⟨number, same⟩
      · rintro ⟨number, rfl⟩
        exact ⟨⟨number, number⟩, rfl⟩

end MovieCatalogue.Number.Binary64

namespace MovieCatalogue.Storage

open MovieCatalogue.Refusal MovieCatalogue.Selection

/-! ## Equality of keys -/

namespace Value

def IsNaN : Value → Prop
  | .real x => x.isNaN = true
  | _ => False

/-- The value, with positive zero for either zero. -/
def mergeZeros : Value → Value
  | .real x => .real x.mergeZeros
  | value => value

/-- A stored value equals the values that differ from it in the sign of zero at most, and NaN none. -/
theorem same_iff {column : Column} {value other : Value} (holds : column.Holds value) :
    other.same value = true ↔ ¬ value.IsNaN ∧ other.mergeZeros = value.mergeZeros := by
  cases holds with
  | absent => cases other <;> simp [same, IsNaN, mergeZeros]
  | stored form =>
      generalize column.kind = kind at form
      cases form with
      | real x => cases other <;> simp [same, IsNaN, mergeZeros, Number.Binary64.equals_iff]
      | _ => cases other <;> simp [same, IsNaN, mergeZeros]

theorem number_of_holds {column : Column} {value : Value} (holds : column.Holds value)
    (notReal : column.kind ≠ .real) : ¬ value.IsNaN ∧ value.mergeZeros = value := by
  cases holds with
  | absent => simp [IsNaN, mergeZeros]
  | stored form =>
      generalize column.kind = kind at form notReal
      cases form with
      | real x => exact absurd rfl notReal
      | _ => simp [IsNaN, mergeZeros]

end Value

theorem Key.same_iff {key other : Key} (holds : ∀ value ∈ key, ∃ column : Column, column.Holds value) :
    other.same key = true ↔
      (∀ value ∈ key, ¬ value.IsNaN) ∧ other.map Value.mergeZeros = key.map Value.mergeZeros := by
  induction key generalizing other with
  | nil => cases other <;> simp [Key.same]
  | cons value key inductionHypothesis =>
      rw [List.forall_mem_cons] at holds
      obtain ⟨⟨column, here⟩, rest⟩ := holds
      cases other with
      | nil => simp [Key.same]
      | cons otherValue others =>
          rw [Key.same, Bool.and_eq_true, Value.same_iff here, inductionHypothesis rest,
            List.forall_mem_cons, List.map_cons, List.map_cons, List.cons.injEq]
          tauto

/-- The values can be those of columns that hold no reals. -/
def Key.NoReals (key : Key) : Prop :=
  ∀ value ∈ key, ∃ column : Column, column.Holds value ∧ column.kind ≠ .real

theorem Key.NoReals.mergeZeros_eq {key : Key} (noReals : key.NoReals) :
    key.map Value.mergeZeros = key := by
  conv_rhs => rw [← List.map_id key]
  refine List.map_congr_left fun value inKey => ?_
  obtain ⟨column, holds, notReal⟩ := noReals value inKey
  exact (Value.number_of_holds holds notReal).2

theorem Key.NoReals.same_iff {key other : Key} (noReals : key.NoReals) (otherNoReals : other.NoReals) :
    other.same key = true ↔ other = key := by
  have numbers : ∀ value ∈ key, ¬ value.IsNaN := by
    intro value inKey
    obtain ⟨column, holds, notReal⟩ := noReals value inKey
    exact (Value.number_of_holds holds notReal).1
  have holds : ∀ value ∈ key, ∃ column : Column, column.Holds value := fun value inKey =>
    (noReals value inKey).imp fun _ => And.left
  rw [Key.same_iff holds, noReals.mergeZeros_eq, otherNoReals.mergeZeros_eq]
  exact and_iff_right numbers

/-! ## Different keys -/

/-- The primary key is made of columns that no row may leave empty. -/
def Spec.StrictKey (spec : Spec) : Prop :=
  ∀ name ∈ spec.primaryKey, ∃ column ∈ spec.columns, column.name = name ∧ column.nullable = false

namespace Table

variable {table : Table} {before others : List StoredRow} {row : StoredRow}

theorem Sound.nodup_rows (sound : table.Sound) : table.rows.Nodup :=
  sound.ordered.imp fun less same => Nat.ne_of_lt less (congrArg StoredRow.rowid same)

theorem Sound.isNull_key (sound : table.Sound) (strict : table.spec.StrictKey)
    (member : row ∈ table.rows) {name : String} (inKey : name ∈ table.spec.primaryKey) :
    (valueAt row.cells name).isNull = false := by
  obtain ⟨column, inSpec, rfl, notNullable⟩ := strict name inKey
  obtain ⟨-, cells, each, -⟩ := normalize_eq_ok.mp (sound.stored row member)
  obtain ⟨⟨cellName, value⟩, normal⟩ := exists_mapM_eq_ok.mp ⟨cells, mapM_eq_ok.mpr each⟩ column inSpec
  obtain ⟨-, ⟨-, -, nullable⟩ | ⟨present, -⟩⟩ := normalizeCell_eq_ok.mp normal
  · rw [notNullable] at nullable
    cases nullable
  · exact present

theorem Sound.exists_column_key (sound : table.Sound) (strict : table.spec.StrictKey) {name : String}
    (inKey : name ∈ table.spec.primaryKey) :
    ∃ column ∈ table.spec.columns, column.name = name ∧
      ∀ row ∈ table.rows, column.Holds (valueAt row.cells name) := by
  obtain ⟨declared, declaredInSpec, declaredName, -⟩ := strict name inKey
  have known : (table.spec.column? name).isSome = true :=
    List.find?_isSome.mpr ⟨declared, declaredInSpec, beq_iff_eq.mpr declaredName⟩
  obtain ⟨column, inSpec, named, holds⟩ := exists_column_holds known
  exact ⟨column, inSpec, named, fun row member => holds (sound.stored row member)⟩

theorem Sound.apart_of_rows (sound : table.Sound) (rows : table.rows = before ++ row :: others) :
    ∀ constraint ∈ table.spec.constraints, ∀ other ∈ before ++ others,
      ¬ Collide constraint row.cells other.cells := by
  intro constraint inSpec
  have apart := sound.apart constraint inSpec
  -- The row is brought to the front, where it is apart from all that follow.
  rw [rows, List.pairwise_middle fun free collide => free (Collide.symm collide)] at apart
  exact (List.pairwise_cons.mp apart).1

/-- A stored row has the key of no other one. -/
theorem Sound.key_ne (sound : table.Sound) (strict : table.spec.StrictKey)
    (rows : table.rows = before ++ row :: others) : ∀ other ∈ before ++ others,
      Key.of table.spec other.cells ≠ Key.of table.spec row.cells := by
  intro other elsewhere sameKey
  have inTable : row ∈ table.rows := by simp [rows]
  refine sound.apart_of_rows rows _ List.mem_cons_self other elsewhere fun name inKey => ?_
  have sameValue : valueAt other.cells name = valueAt row.cells name :=
    List.map_inj_left.mp sameKey name inKey
  have present := sound.isNull_key strict inTable inKey
  obtain ⟨column, -, -, holds⟩ := sound.exists_column_key strict inKey
  have held := holds row inTable
  rw [sameValue]
  exact ⟨present, present, (Value.compare_eq_eq_iff held held).mpr rfl⟩

/-! ## Looking a row up -/

/-- The look-up for the key of a row comes to this row: no value of the key is NaN, and no row
before it has a key that differs in the sign of zeros only. -/
structure FoundByKey (table : Table) (before : List StoredRow) (row : StoredRow) : Prop where
  numbers : ∀ value ∈ Key.of table.spec row.cells, ¬ value.IsNaN
  first : ∀ other ∈ before, (Key.of table.spec other.cells).map Value.mergeZeros ≠
    (Key.of table.spec row.cells).map Value.mergeZeros

section

variable (sound : table.Sound) (strict : table.spec.StrictKey)
include sound strict

theorem Sound.same_key_iff {key : Key} (member : row ∈ table.rows) :
    key.same (Key.of table.spec row.cells) = true ↔
      (∀ value ∈ Key.of table.spec row.cells, ¬ value.IsNaN) ∧
        key.map Value.mergeZeros = (Key.of table.spec row.cells).map Value.mergeZeros := by
  apply Key.same_iff
  intro value inKey
  obtain ⟨name, named, rfl⟩ := List.mem_map.mp inKey
  obtain ⟨column, -, -, holds⟩ := sound.exists_column_key strict named
  exact ⟨column, holds row member⟩

theorem Sound.firstWith_iff (rows : table.rows = before ++ row :: others) :
    table.FirstWith (Key.of table.spec row.cells) before row ↔ table.FoundByKey before row := by
  have member : row ∈ table.rows := by simp [rows]
  constructor
  · rintro ⟨here, earlier⟩
    obtain ⟨numbers, -⟩ := (sound.same_key_iff strict member).mp here
    refine ⟨numbers, fun other inBefore sameKey => ?_⟩
    have missed := earlier other inBefore
    rw [(sound.same_key_iff strict member).mpr ⟨numbers, sameKey⟩] at missed
    cases missed
  · rintro ⟨numbers, first⟩
    refine ⟨(sound.same_key_iff strict member).mpr ⟨numbers, rfl⟩, fun other inBefore => ?_⟩
    rw [Bool.eq_false_iff]
    intro same
    exact first other inBefore ((sound.same_key_iff strict member).mp same).2

/-- Where the key has no column of reals, every row is found by its own key. -/
theorem Sound.firstWith_of_no_reals (rows : table.rows = before ++ row :: others)
    (noReals : ∀ column ∈ table.spec.columns, column.name ∈ table.spec.primaryKey →
      column.kind ≠ .real) : table.FirstWith (Key.of table.spec row.cells) before row := by
  have keyNoReals (stored : StoredRow) (member : stored ∈ table.rows) :
      (Key.of table.spec stored.cells).NoReals := by
    intro value inKey
    obtain ⟨name, named, rfl⟩ := List.mem_map.mp inKey
    obtain ⟨column, inSpec, rfl, holds⟩ := sound.exists_column_key strict named
    exact ⟨column, holds stored member, noReals column inSpec named⟩
  have here : row ∈ table.rows := by simp [rows]
  refine ⟨((keyNoReals row here).same_iff (keyNoReals row here)).mpr rfl, fun other earlier => ?_⟩
  have inTable : other ∈ table.rows := by simp [rows, earlier]
  rw [Bool.eq_false_iff, ne_eq, (keyNoReals row here).same_iff (keyNoReals other inTable)]
  exact sound.key_ne strict rows other (List.mem_append_left _ earlier)

theorem Sound.eq_of_key_eq {other : StoredRow} (rows : table.rows = before ++ row :: others)
    (member : other ∈ table.rows)
    (sameKey : Key.of table.spec other.cells = Key.of table.spec row.cells) : other = row := by
  by_contra different
  have elsewhere : other ∈ before ++ others := by simpa [rows, different] using member
  exact sound.key_ne strict rows other elsewhere sameKey

end

end Table

/-! ## Changes under the key of a row -/

namespace Store

theorem put_eq_self {store : Store} (distinct : (store.tables.map fun table => table.spec.name).Nodup)
    {table : Table} (member : table ∈ store.tables) : store.put table = store := by
  obtain ⟨tables⟩ := store
  rw [put, mk.injEq]
  conv_rhs => rw [← List.map_id tables]
  refine List.map_congr_left fun old inStore => ?_
  split
  case isTrue same => exact (eq_of_name_eq distinct inStore member (beq_iff_eq.mp same)).symm
  case isFalse => rfl

variable {store : Store} {name : String} {table : Table} {before others front rest : List StoredRow}
  {row old : StoredRow}

theorem rows_eq_of_put_eq (found : store.find? name = some table) {first second : List StoredRow}
    (same : store.put { table with rows := first } = store.put { table with rows := second }) :
    first = second := by
  have named : table.spec.name = name := name_of_find? found
  have here (rows : List StoredRow) : (store.put { table with rows := rows }).find? name =
      some { table with rows := rows } := find?_put_self found named
  have sameTable := congrArg (fun store => (store.find? name).map Table.rows) same
  simpa [here] using sameTable

/-- Without repetitions a row stands at one place only. -/
private theorem before_eq_of_split (distinct : (before ++ row :: others).Nodup)
    (rows : before ++ row :: others = front ++ row :: rest) : before = front := by
  rw [List.nodup_middle, List.nodup_cons, List.mem_append, not_or] at distinct
  exact ((List.append_cons_inj_of_notMem distinct.1.1 distinct.1.2).mp rows).1

/-- Without repetitions the rows that are left tell which row was removed. -/
private theorem eq_of_removed_eq (distinct : (before ++ row :: others).Nodup)
    (rows : before ++ row :: others = front ++ old :: rest)
    (removed : before ++ others = front ++ rest) : row = old := by
  have inRows : old ∈ before ++ row :: others := by simp [rows]
  rw [rows, List.nodup_middle, List.nodup_cons, ← removed] at distinct
  by_contra different
  have elsewhere : old ∈ before ++ others := by simpa [Ne.symm different] using inRows
  exact distinct.1 elsewhere

section

variable (sound : store.Sound) (found : store.find? name = some table)
  (strict : table.spec.StrictKey) (rows : table.rows = before ++ row :: others)
include sound found strict rows

/-- Deleting under the key of a row removes this row if and only if the row is found by it. -/
theorem Sound.commit_delete_ownKey_iff :
    store.commit name [.delete (Key.of table.spec row.cells)] =
        .ok (store.put { table with rows := before ++ others }, []) ↔
      table.FoundByKey before row := by
  have tableSound := sound.tables table (mem_of_find? found)
  rw [← tableSound.firstWith_iff strict rows, commit_singleton_eq_ok]
  constructor
  · rintro ⟨held, next, foundHeld, applied, sameStore⟩
    cases found.symm.trans foundHeld
    obtain ⟨removed, deleted, built⟩ := map_eq_ok.mp applied
    cases built
    obtain ⟨front, old, rest, split, first, rfl⟩ := Table.delete_eq_ok.mp deleted
    -- The look-up may have come to another row at first; the rows that are left say that it did not.
    have removed := rows_eq_of_put_eq found sameStore
    have distinct := tableSound.nodup_rows
    rw [rows] at split distinct
    cases eq_of_removed_eq distinct split removed.symm
    cases before_eq_of_split distinct split
    exact first
  · intro first
    have deleted := Table.delete_eq_ok.mpr ⟨before, row, others, rows, first, rfl⟩
    exact ⟨table, _, found, by rw [Table.apply, deleted]; rfl, rfl⟩

/-- Replacing a row by itself under its key changes nothing if and only if the row is found by it. -/
theorem Sound.commit_replace_ownKey_iff :
    store.commit name [.replace (Key.of table.spec row.cells) row.cells] =
        .ok (store, [row.cells]) ↔ table.FoundByKey before row := by
  have tableSound := sound.tables table (mem_of_find? found)
  rw [← tableSound.firstWith_iff strict rows, commit_singleton_eq_ok]
  constructor
  · rintro ⟨held, next, foundHeld, applied, sameStore⟩
    cases found.symm.trans foundHeld
    obtain ⟨⟨replaced, stored⟩, done, built⟩ := map_eq_ok.mp applied
    cases built
    obtain ⟨front, old, rest, split, first, -, -, rfl⟩ := Table.replace_eq_ok.mp done
    have unchanged : store.put { table with rows := table.rows } = store :=
      put_eq_self sound.distinct (mem_of_find? found)
    have sameRows := rows_eq_of_put_eq found (sameStore.trans unchanged.symm)
    -- The row that was replaced has the cells of this one, and so its key; no other row has.
    rw [split, List.append_cancel_left_eq, List.cons.injEq] at sameRows
    have sameCells := congrArg StoredRow.cells sameRows.1
    dsimp only at sameCells
    have sameKey : Key.of table.spec old.cells = Key.of table.spec row.cells := by rw [sameCells]
    have inTable : old ∈ table.rows := by simp [split]
    cases tableSound.eq_of_key_eq strict rows inTable sameKey
    have distinct := tableSound.nodup_rows
    rw [rows] at split distinct
    cases before_eq_of_split distinct split
    exact first
  · intro first
    have normal := tableSound.stored row (by simp [rows])
    have apart := tableSound.apart_of_rows rows
    have replaced := Table.replace_eq_ok.mpr ⟨before, row, others, rows, first, normal, apart, rfl⟩
    refine ⟨table, _, found, by rw [Table.apply, replaced]; rfl, ?_⟩
    have unchanged : before ++ { row with cells := row.cells } :: others = table.rows := rows.symm
    rw [unchanged]
    exact put_eq_self sound.distinct (mem_of_find? found)

end

/--
In every table that can be reached and that has no nullable key column, deleting under the
key of a row removes exactly this row, and replacing the row by itself leaves the store as it is, if
and only if the row is found by its key: no key value is NaN, and no earlier row has a key that
differs in the sign of zeros only. A key without reals finds every row.
-/
theorem ownKey_of_run (operations : List Operation)
    (found : (empty.run operations).find? name = some table) (strict : table.spec.StrictKey)
    (rows : table.rows = before ++ row :: others) :
    ((empty.run operations).commit name [.delete (Key.of table.spec row.cells)] =
        .ok ((empty.run operations).put { table with rows := before ++ others }, []) ↔
      table.FoundByKey before row) ∧
    ((empty.run operations).commit name [.replace (Key.of table.spec row.cells) row.cells] =
        .ok (empty.run operations, [row.cells]) ↔ table.FoundByKey before row) ∧
    ((∀ column ∈ table.spec.columns, column.name ∈ table.spec.primaryKey → column.kind ≠ .real) →
      table.FoundByKey before row) := by
  have sound := sound_run operations
  have tableSound := sound.tables table (mem_of_find? found)
  refine ⟨sound.commit_delete_ownKey_iff found strict rows,
    sound.commit_replace_ownKey_iff found strict rows, fun noReals => ?_⟩
  exact (tableSound.firstWith_iff strict rows).mp (tableSound.firstWith_of_no_reals strict rows noReals)

/-- The second of two readings, taken at an infinite time, is removed under its key. -/
theorem ownKey_of_run_infinity :
    let reading : Spec := ⟨"reading", [⟨"at", .real, false⟩], ["at"], []⟩
    let first : StoredRow := ⟨1, [("at", .real .zero)]⟩
    let second : StoredRow := ⟨2, [("at", .real .infinity)]⟩
    let operations : List Operation :=
      [.declare reading, .commit "reading" [.insert first.cells, .insert second.cells]]
    (empty.run operations).commit "reading" [.delete [.real .infinity]] =
      .ok ((empty.run operations).put ⟨reading, [first], 3⟩, []) := by
  intro reading first second operations
  have found : (empty.run operations).find? "reading" = some ⟨reading, [first, second], 3⟩ := rfl
  have strict : reading.StrictKey := by
    unfold Spec.StrictKey
    decide
  have rows : [first, second] = [first] ++ second :: [] := rfl
  refine (ownKey_of_run operations found strict rows).1.mpr ⟨?_, ?_⟩
  · intro value inKey nan
    cases List.mem_singleton.mp inKey
    cases nan
  · intro other earlier sameKey
    cases List.mem_singleton.mp earlier
    cases sameKey

/-- A reading that was taken at no number is found under no key, and of two readings whose
times differ in the sign of zero the first one is removed under the key of the second one. -/
theorem ownKey_misses :
    let reading : Spec := ⟨"reading", [⟨"at", .real, false⟩], ["at"], []⟩
    let minusZero : Number.Binary64 := .neg .zero
    let lost : List Operation := [.declare reading, .commit "reading" [.insert [("at", .real .nan)]]]
    let zeros : List Operation := [.declare reading,
      .commit "reading" [.insert [("at", .real .zero)], .insert [("at", .real minusZero)]]]
    reading.StrictKey ∧
      (empty.run lost).rows "reading" = .ok [[("at", .real .nan)]] ∧
      (empty.run lost).commit "reading" [.delete [.real .nan]] = .error (.rowNotFound "reading") ∧
      (empty.run zeros).rows "reading" = .ok [[("at", .real .zero)], [("at", .real minusZero)]] ∧
      ((empty.run (zeros ++ [.commit "reading" [.delete [.real minusZero]]])).rows "reading" =
        .ok [[("at", .real minusZero)]]) := by
  intro reading minusZero lost zeros
  have strict : reading.StrictKey := by
    unfold Spec.StrictKey
    decide
  exact ⟨strict, rfl, rfl, rfl, rfl⟩

end Store

end MovieCatalogue.Storage

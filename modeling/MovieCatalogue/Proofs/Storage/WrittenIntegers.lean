import MovieCatalogue.Proofs.Number.ExactValue
import MovieCatalogue.Proofs.Storage.Loading

/-!
Contract: numbers that are written to columns of integers.

Owns: that such a column takes the numbers without a fractional part and no others; that it stores
the nearest 64-bit word, which is the number itself where this fits into such a word; and that this
is so for every row that a batch of changes or a file gives.
Does not own: the columns of other kinds; see `Proofs.Storage.StorageForm`.
-/

namespace MovieCatalogue.Storage

open MovieCatalogue.Number MovieCatalogue.Refusal MovieCatalogue.Selection

/-! ## Numbers of values -/

/-- The number that a value stands for, if it is a finite one. -/
def Value.number? : Value → Option ℚ
  | .int32 n => some n.toInt
  | .int64 n => some n.toInt
  | .real x => if x.isFinite then some x.toRat else none
  | .null | .bool _ | .text _ | .array _ | .document _ | .foreign _ _ => none

namespace Kind

theorem toInt_saturate (n : Int) : (saturate n).toInt = max minInt64 (min maxInt64 n) := by
  unfold saturate minInt64 maxInt64
  apply Int64.toInt_ofInt_of_le <;> omega

/-- An integer is stored as it is if it fits into a 64-bit word, and as another one if not. -/
theorem toInt_saturate_eq_iff {n : Int} : (saturate n).toInt = n ↔ fitsInt64 n = true := by
  rw [toInt_saturate, fitsInt64, Bool.and_eq_true, decide_eq_true_eq, decide_eq_true_eq]
  unfold minInt64 maxInt64
  omega

theorem saturate_toInt (n : Int64) : saturate n.toInt = n :=
  Int64.toInt_inj.mp (toInt_saturate_eq_iff.mpr (fitsInt64_toInt n))

/-- A column of integers takes the numbers that are integers. -/
theorem coerce_integer_eq_ok {value stored : Value} :
    Kind.integer.coerce value = .ok stored ↔
      ∃ n : Int, value.number? = some (n : ℚ) ∧ stored = .int64 (saturate n) := by
  have word (n : Int64) : Kind.integer.coerce (.int64 n) = .ok stored ↔
      ∃ m : Int, some (n.toInt : ℚ) = some (m : ℚ) ∧ stored = .int64 (saturate m) := by
    simp [coerce, saturate_toInt, eq_comm]
  cases value with
  | int64 n => exact word n
  | int32 n =>
      have same := word n.toInt64
      rw [Int32.toInt_toInt64] at same
      exact same
  | real x =>
      have number (n : Int) : (Value.real x).number? = some (n : ℚ) ↔
          x.isFinite = true ∧ x.toRat = n := by
        simp [Value.number?]
      simp only [number]
      constructor
      · intro coerced
        rw [coerce] at coerced
        split at coerced
        case isTrue whole =>
            cases coerced
            have finite : x.isFinite = true := (Binary64.isWhole_iff.mp whole).1
            exact ⟨x.truncate, ⟨finite, Binary64.toRat_of_isWhole whole⟩, rfl⟩
        case isFalse => cases coerced
      · rintro ⟨n, ⟨finite, exact⟩, rfl⟩
        have whole : x.isWhole = true := Binary64.isWhole_iff.mpr ⟨finite, n, exact⟩
        rw [coerce, if_pos whole, Binary64.truncate_eq finite exact]
  | null | bool | text | array | document | foreign => simp [coerce, Value.number?]

theorem coerce_integer_eq_error {value : Value} {refusal : Refusal} :
    Kind.integer.coerce value = .error refusal ↔
      refusal = .wrongSort .integer value ∧ ∀ n : Int, value.number? ≠ some (n : ℚ) := by
  have only : ∀ refusal, Kind.integer.coerce value = .error refusal →
      refusal = .wrongSort .integer value := by
    intro refusal refused
    cases value with
    | int32 n | int64 n => cases refused
    | real x =>
        rw [coerce] at refused
        split at refused
        case isTrue => cases refused
        case isFalse => exact (Except.error.inj refused).symm
    | null | bool | text | array | document | foreign => exact (Except.error.inj refused).symm
  rw [eq_error_iff only]
  simp only [coerce_integer_eq_ok, ne_eq, not_exists, not_and]
  exact and_congr_right fun _ => ⟨fun none n exact => none _ n exact rfl,
    fun none _ n exact => absurd exact (none n)⟩

end Kind

/-! ## Rows -/

/-- A number that was given for a column of integers is stored as the nearest 64-bit word to it, and
was an integer. -/
def StoredFor (given stored : Value) : Prop :=
  given.numeric?.isSome = true →
    ∃ n : Int, given.number? = some (n : ℚ) ∧ stored = .int64 (Kind.saturate n)

variable {spec : Spec} {field : String} {row stored : Row}

/-- The value under a column of integers of a row in storage form. -/
theorem storedFor_of_normalize (known : (spec.column? field).isSome = true)
    (integers : ∀ column ∈ spec.columns, column.name = field → column.kind = .integer)
    (normal : normalize spec row = .ok stored) :
    StoredFor (valueAt row field) (valueAt stored field) := by
  intro isNumber
  obtain ⟨column, isColumn⟩ := Option.isSome_iff_exists.mp known
  obtain ⟨inSpec, rfl⟩ := Spec.mem_of_column? isColumn
  -- Of several columns of one name it is the last one whose value is kept.
  obtain ⟨last, isLast, lastNormal⟩ := exists_last_of_normalize normal inSpec
  have lastInSpec : last ∈ spec.columns := List.mem_reverse.mp (List.mem_of_find?_eq_some isLast)
  have sameName : last.name = column.name := by simpa using List.find?_some isLast
  obtain ⟨-, ⟨absent, -⟩ | ⟨-, coerced⟩⟩ := normalizeCell_eq_ok.mp lastNormal
  · rw [sameName] at absent
    rw [absent] at isNumber
    cases isNumber
  · rw [integers last lastInSpec sameName, sameName] at coerced
    exact Kind.coerce_integer_eq_ok.mp coerced

/-- The values that a change gives for a column, one for each row that it writes. The key that the
table chooses for a row is not given. -/
def Change.given (spec : Spec) (field : String) : Change → List Value
  | .insert row | .replace _ row => [valueAt row field]
  | .insertNextKey row =>
    [if spec.integerKey? = some field then .null else valueAt row field]
  | .delete _ => []

variable {table after : Table} {written : List Row}

theorem Table.storedFor_of_apply (known : (table.spec.column? field).isSome = true)
    (integers : ∀ column ∈ table.spec.columns, column.name = field → column.kind = .integer)
    {change : Change} (applied : table.apply change = .ok (after, written)) :
    List.Forall₂ (fun given stored => StoredFor given (valueAt stored field))
      (change.given table.spec field) written := by
  have normalized {row stored : Row} (normal : normalize table.spec row = .ok stored) :=
    storedFor_of_normalize known integers normal
  cases change with
  | insert row =>
      obtain ⟨⟨found, stored⟩, inserted, built⟩ := map_eq_ok.mp applied
      cases built
      exact .cons (normalized (insert_eq_ok.mp inserted).1) .nil
  | insertNextKey row =>
      obtain ⟨⟨found, stored⟩, inserted, built⟩ := map_eq_ok.mp applied
      cases built
      obtain ⟨key, isKey, inserted⟩ := insertNextKey_eq_ok.mp inserted
      refine .cons ?_ .nil
      split
      -- An absent value is no number.
      case isTrue => exact nofun
      case isFalse notKey =>
          have different : field ≠ key := fun same => notKey (same ▸ isKey)
          have kept := normalized (insert_eq_ok.mp inserted).1
          rw [valueAt, Fields.get?_put_of_ne _ _ different] at kept
          exact kept
  | replace key row =>
      obtain ⟨⟨found, stored⟩, replaced, built⟩ := map_eq_ok.mp applied
      cases built
      obtain ⟨_, _, _, -, -, normal, -, -⟩ := replace_eq_ok.mp replaced
      exact .cons (normalized normal) .nil
  | delete key =>
      obtain ⟨found, deleted, built⟩ := map_eq_ok.mp applied
      cases built
      exact .nil

/-- What holds for each change holds for a batch of them. -/
theorem Table.storedFor_of_applyAll (known : (table.spec.column? field).isSome = true)
    (integers : ∀ column ∈ table.spec.columns, column.name = field → column.kind = .integer)
    {changes : List Change} (applied : table.applyAll changes = .ok (after, written)) :
    List.Forall₂ (fun given stored => StoredFor given (valueAt stored field))
      (changes.flatMap (Change.given table.spec field)) written := by
  induction changes generalizing table written with
  | nil =>
      cases applied
      exact .nil
  | cons change changes inductionHypothesis =>
      obtain ⟨⟨next, front⟩, first, rest⟩ := bind_eq_ok.mp applied
      obtain ⟨⟨last, others⟩, appliedRest, built⟩ := bind_eq_ok.mp rest
      cases built
      have sameSpec : next.spec = table.spec := (step_of_apply first).spec_eq
      have here := storedFor_of_apply known integers first
      have later := inductionHypothesis (sameSpec ▸ known) (sameSpec ▸ integers) appliedRest
      rw [sameSpec] at later
      rw [List.flatMap_cons]
      exact List.rel_append here later

namespace Store

/--
A column of integers takes of all numbers the integers, and refuses the others. It stores the
nearest 64-bit word, which is the same number if and only if this fits into such a word. So does
every batch of changes that is taken, for each row that it writes, and every file that is loaded,
for each row of the table.
-/
theorem integers_written {store : Store} {name field : String} {table : Table}
    (found : store.find? name = some table) (known : (table.spec.column? field).isSome = true)
    (integers : ∀ column ∈ table.spec.columns, column.name = field → column.kind = .integer) :
    (∀ value : Value,
      (∀ stored, Kind.integer.coerce value = .ok stored ↔
        ∃ n : Int, value.number? = some (n : ℚ) ∧ stored = .int64 (Kind.saturate n)) ∧
      ∀ refusal, Kind.integer.coerce value = .error refusal ↔
        refusal = .wrongSort .integer value ∧ ∀ n : Int, value.number? ≠ some (n : ℚ)) ∧
      (∀ n : Int, (Kind.saturate n).toInt = n ↔ fitsInt64 n = true) ∧
      (∀ changes after written, store.commit name changes = .ok (after, written) →
        List.Forall₂ (fun given stored => StoredFor given (valueAt stored field))
          (changes.flatMap (Change.given table.spec field)) written) ∧
      ∀ file count, (Snapshot.load store file).2 = .ok count →
        ∃ snapshot, Snapshot.ofFile file = .ok snapshot ∧
          ∀ items, (name, items) ∈ snapshot.tables → ∃ loaded rows,
            (Snapshot.load store file).1.find? name = some loaded ∧
            items.mapM Row.ofJson = .ok rows ∧
            List.Forall₂ (fun row stored => StoredFor (valueAt row field) (valueAt stored field))
              rows (loaded.rows.map StoredRow.cells) := by
  refine ⟨fun value => ⟨fun stored => Kind.coerce_integer_eq_ok,
    fun refusal => Kind.coerce_integer_eq_error⟩, fun n => Kind.toInt_saturate_eq_iff,
    fun changes after written committed => ?_, fun file count counted => ?_⟩
  · obtain ⟨other, next, foundOther, applied, -⟩ := commit_eq_ok.mp committed
    cases found.symm.trans foundOther
    exact Table.storedFor_of_applyAll known integers applied
  · have loads := Snapshot.loads store file
    obtain ⟨snapshot, read, -, filled, -⟩ := loads.filled count counted
    refine ⟨snapshot, read, fun items member => ?_⟩
    obtain ⟨loaded, foundLoaded, restores⟩ := filled _ member
    obtain ⟨rows, decoded, normal⟩ := restores.normal
    have sameSpec : loaded.spec = table.spec := by
      have declared := loads.declared name
      rw [foundLoaded, found] at declared
      exact Option.some.inj declared
    rw [sameSpec, mapM_eq_ok] at normal
    exact ⟨loaded, rows, foundLoaded, decoded,
      normal.imp fun _ _ normal => storedFor_of_normalize known integers normal⟩

/-- The number 4 is stored as an integer, and 4.5 is refused. -/
theorem integers_written_four :
    let spec : Spec := ⟨"film", [⟨"id", .integer, false⟩], ["id"], []⟩
    let store : Store := ⟨[⟨spec, [], 1⟩]⟩
    let four : Binary64 := ⟨false, 0x4010000000000000, by decide⟩
    let half : Binary64 := ⟨false, 0x4012000000000000, by decide⟩
    four.toRat = 4 ∧ half.toRat = 9 / 2 ∧ Kind.integer.coerce (.real four) = .ok (.int64 4) ∧
      Kind.integer.coerce (.real half) = .error (.wrongSort .integer (.real half)) ∧
      ∃ after stored, store.commit "film" [.insert [("id", .real four)]] = .ok (after, [stored]) ∧
        valueAt stored "id" = .int64 4 := by
  intro spec store four half
  have integers : ∀ column ∈ spec.columns, column.name = "id" → column.kind = .integer := by decide
  have found : store.find? "film" = some ⟨spec, [], 1⟩ := rfl
  have known : (spec.column? "id").isSome = true := rfl
  obtain ⟨coerced, -, committed, -⟩ := integers_written found known integers
  have isFour : (Value.real four).number? = some 4 := by decide +kernel
  have isHalf : (Value.real half).number? = some (9 / 2) := by decide +kernel
  have inserted : store.commit "film" [.insert [("id", .real four)]] =
      .ok (⟨[⟨spec, [⟨1, [("id", .int64 4)]⟩], 2⟩]⟩, [[("id", .int64 4)]]) := by
    dsimp only [store, spec, four]
    with_unfolding_all rfl
  refine ⟨by decide +kernel, by decide +kernel,
    ((coerced _).1 _).mpr ⟨4, by exact_mod_cast isFour, rfl⟩,
    ((coerced _).2 _).mpr ⟨rfl, fun n isNumber => ?_⟩, _, _, inserted, ?_⟩
  · have same := Option.some.inj (isHalf.symm.trans isNumber)
    have denominators : (9 / 2 : ℚ).den = 1 := congrArg Rat.den same
    revert denominators
    decide +kernel
  · cases committed _ _ _ inserted with
    | cons first _ =>
        obtain ⟨n, isNumber, stored⟩ := first rfl
        have same : n = 4 := by exact_mod_cast Option.some.inj (isNumber.symm.trans isFour)
        rw [stored, same]
        rfl

/-- Two numbers beyond the 64-bit words are not refused but stored as the largest word, so that they
are one key. -/
theorem integers_written_beyond :
    let spec : Spec := ⟨"film", [⟨"id", .integer, false⟩], ["id"], []⟩
    let store : Store := ⟨[⟨spec, [], 1⟩]⟩
    let beyond : Binary64 := ⟨false, 0x43E0000000000000, by decide⟩
    let further : Binary64 := ⟨false, 0x43F0000000000000, by decide⟩
    let film (x : Binary64) : Row := [("id", .real x)]
    let largest : Row := [("id", .int64 9223372036854775807)]
    beyond.toRat = 2 ^ 63 ∧ further.toRat = 2 ^ 64 ∧
      Kind.integer.coerce (.real beyond) = .ok (.int64 9223372036854775807) ∧
      (Value.int64 9223372036854775807).number? ≠ (Value.real beyond).number? ∧
      store.commit "film" [.insert (film beyond)] =
        .ok (⟨[⟨spec, [⟨1, largest⟩], 2⟩]⟩, [largest]) ∧
      store.commit "film" [.insert (film beyond), .insert (film further)] =
        .error (.uniqueViolation "film" ["id"]) := by
  dsimp only
  refine ⟨by decide +kernel, by decide +kernel, ?_, by decide +kernel, ?_, ?_⟩
  · with_unfolding_all rfl
  · with_unfolding_all rfl
  · with_unfolding_all rfl

end Store

end MovieCatalogue.Storage

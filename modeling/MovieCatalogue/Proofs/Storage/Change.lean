import MovieCatalogue.Proofs.Lists
import MovieCatalogue.Proofs.Refusal
import MovieCatalogue.Proofs.Text.Order
import MovieCatalogue.Storage.Table

/-!
Contract: what a change does to a table.

Owns: that comparing two values the other way round turns the answer around, so that
being tied does not depend on which of them is asked; `Collide`, when two rows violate a
unique constraint together; for each kind of change, exactly when it is taken and which
rows it leaves; and `Table.Step`, the three ways in which a table can change.
Does not own: what is true of every table; see `Proofs.Storage.Soundness`.
-/

namespace MovieCatalogue.Storage

open MovieCatalogue.Number MovieCatalogue.Selection MovieCatalogue.Refusal

/-! ## Values -/

namespace Value

theorem compareTotal_swap (x y : Binary64) : (x.compareTotal y).swap = y.compareTotal x := by
  unfold Binary64.compareTotal
  exact Std.OrientedCmp.eq_swap.symm

/-- Comparing the other way round turns the answer around. -/
theorem compare_swap (a b : Value) : (a.compare b).swap = b.compare a := by
  have turned (m n : Nat) : (Ord.compare m n).swap = Ord.compare n m := Std.OrientedCmp.eq_swap.symm
  have turnedInt (m n : Int) : (Ord.compare m n).swap = Ord.compare n m :=
    Std.OrientedCmp.eq_swap.symm
  cases a <;> cases b <;>
    simp only [compare, numeric?, compareTotal_swap, Text.compareTexts_swap, turned, turnedInt]

theorem ties_comm (a b : Value) : a.ties b = b.ties a := by
  rw [ties, ties, ← compare_swap a b, Ordering.isEq_swap]

end Value

/-! ## Collisions -/

/-- Two rows agree on a constraint: all their values under it are present and tie. -/
def Collide (constraint : List String) (first second : Row) : Prop :=
  ∀ name ∈ constraint,
    (valueAt first name).isNull = false ∧ (valueAt second name).isNull = false ∧
      (valueAt first name).compare (valueAt second name) = .eq

theorem Value.isNull_of_ties {a b : Value} (tied : a.ties b = true) (present : b.isNull = false) :
    a.isNull = false := by
  cases a with
  | null =>
      cases b with
      | null => cases present
      | _ => cases tied
  | _ => rfl

theorem Value.ties_iff {a b : Value} : a.ties b = true ↔ a.compare b = .eq := by
  simp [ties]

theorem Collide.symm {constraint : List String} {first second : Row}
    (collide : Collide constraint first second) : Collide constraint second first := by
  intro name member
  obtain ⟨firstPresent, secondPresent, tied⟩ := collide name member
  refine ⟨secondPresent, firstPresent, ?_⟩
  rw [← Value.ties_iff, Value.ties_comm, Value.ties_iff]
  exact tied

/-- Rows that collide have the same integers. -/
theorem Collide.int64_eq {constraint : List String} {first second : Row}
    (collide : Collide constraint first second) {name : String} (named : name ∈ constraint)
    {m n : Int64} (inFirst : valueAt first name = .int64 m)
    (inSecond : valueAt second name = .int64 n) : m.toInt = n.toInt := by
  obtain ⟨-, -, tied⟩ := collide name named
  rw [inFirst, inSecond] at tied
  exact Std.LawfulEqOrd.eq_of_compare tied

theorem agreesOn_iff {constraint : List String} {candidate stored : Row} :
    agreesOn constraint candidate stored = true ↔
      ∀ name ∈ constraint, ∃ value, Fields.get? name stored = some value ∧
        value.ties (valueAt candidate name) = true := by
  rw [agreesOn, List.all_eq_true]
  refine forall₂_congr fun name _ => ?_
  cases Fields.get? name stored <;> simp

theorem clashes_iff {rows : List StoredRow} {candidate : Row} {constraint : List String} :
    clashes rows candidate constraint = true ↔
      ∃ held ∈ rows, Collide constraint candidate held.cells := by
  simp only [clashes, Bool.and_eq_true, Bool.not_eq_true', List.any_eq_false, List.any_eq_true,
    agreesOn_iff, Bool.not_eq_true]
  constructor
  · rintro ⟨present, held, member, agree⟩
    refine ⟨held, member, fun name named => ?_⟩
    obtain ⟨value, found, tied⟩ := agree name named
    have here : valueAt held.cells name = value := by rw [valueAt, found, Option.getD_some]
    rw [here]
    exact ⟨present name named, Value.isNull_of_ties tied (present name named),
      Value.ties_iff.mp (by rw [Value.ties_comm]; exact tied)⟩
  · rintro ⟨held, member, collide⟩
    refine ⟨fun name named => (collide name named).1, held, member, fun name named => ?_⟩
    obtain ⟨-, present, tied⟩ := collide name named
    rw [← Value.ties_iff, Value.ties_comm] at tied
    cases found : Fields.get? name held.cells with
    | none => simp [valueAt, found, Value.isNull] at present
    | some value => exact ⟨value, rfl, by simpa [valueAt, found] using tied⟩

/-- A candidate passes if it collides with no row on any constraint. -/
theorem checkUnique_eq_ok {spec : Spec} {rows : List StoredRow} {candidate : Row} {passed : Unit} :
    checkUnique spec rows candidate = .ok passed ↔
      ∀ constraint ∈ spec.constraints, ∀ held ∈ rows, ¬ Collide constraint candidate held.cells := by
  unfold checkUnique
  split
  case h_1 constraint found =>
      obtain ⟨held, member, collide⟩ := clashes_iff.mp (List.find?_some found)
      refine ⟨fun impossible => (nomatch impossible), fun apart => ?_⟩
      exact absurd collide (apart constraint (List.mem_of_find?_eq_some found) held member)
  case h_2 noneFound =>
      refine ⟨fun _ constraint inSpec held member collide => ?_, fun _ => rfl⟩
      exact List.find?_eq_none.mp noneFound constraint inSpec
        (clashes_iff.mpr ⟨held, member, collide⟩)

theorem checkUnique_eq_error {spec : Spec} {rows : List StoredRow} {candidate : Row}
    {error : StoreError} (refused : checkUnique spec rows candidate = .error error) :
    ∃ constraint ∈ spec.constraints, error = .uniqueViolation spec.name constraint ∧
      ∃ held ∈ rows, Collide constraint candidate held.cells := by
  unfold checkUnique at refused
  split at refused
  case h_1 constraint found =>
      cases refused
      exact ⟨constraint, List.mem_of_find?_eq_some found, rfl,
        clashes_iff.mp (List.find?_some found)⟩
  case h_2 => cases refused

/-- A candidate that collides with a row is refused. -/
theorem exists_checkUnique_eq_error {spec : Spec} {rows : List StoredRow} {candidate : Row}
    {constraint : List String} (inSpec : constraint ∈ spec.constraints) {held : StoredRow}
    (inRows : held ∈ rows) (collide : Collide constraint candidate held.cells) :
    ∃ violated, checkUnique spec rows candidate = .error (.uniqueViolation spec.name violated) := by
  cases unique : checkUnique spec rows candidate with
  | ok passed => exact absurd collide (checkUnique_eq_ok.mp unique _ inSpec held inRows)
  | error error =>
      obtain ⟨violated, -, rfl, -⟩ := checkUnique_eq_error unique
      exact ⟨violated, rfl⟩

/-! ## The kinds of change -/

namespace Table

variable {table after : Table} {row stored : Row} {key : Key}

/-- The row that a key means: the first one whose key has the same values. -/
def FirstWith (table : Table) (key : Key) (before : List StoredRow) (old : StoredRow) : Prop :=
  (Key.of table.spec old.cells).same key = true ∧
    ∀ other ∈ before, (Key.of table.spec other.cells).same key = false

theorem position_eq_ok {place : Nat} :
    table.position key = .ok place ↔
      ∃ before old others, table.rows = before ++ old :: others ∧ before.length = place ∧
        table.FirstWith key before old := by
  refine Iff.trans ?_ (findIdx?_eq_some_iff_split
    (p := fun row : StoredRow => (Key.of table.spec row.cells).same key))
  unfold position
  split
  case h_1 found => simp [found]
  case h_2 notFound => simp [notFound]

/-- Only a row that is there can be deleted or replaced. -/
theorem apply_eq_rowNotFound
    (absent : ∀ held ∈ table.rows, (Key.of table.spec held.cells).same key = false) :
    table.apply (.delete key) = .error (.rowNotFound table.spec.name) ∧
      ∀ row, table.apply (.replace key row) = .error (.rowNotFound table.spec.name) := by
  have notThere : table.position key = .error (.rowNotFound table.spec.name) := by
    rw [position, List.findIdx?_eq_none_iff.mpr absent]
  exact ⟨map_eq_error.mpr (bind_eq_error.mpr (.inl notThere)),
    fun _ => map_eq_error.mpr (bind_eq_error.mpr (.inl notThere))⟩

/-- An insertion appends the storage form of a row that collides with no row. -/
theorem insert_eq_ok :
    table.insert row = .ok (after, stored) ↔
      normalize table.spec row = .ok stored ∧
        (∀ constraint ∈ table.spec.constraints, ∀ held ∈ table.rows,
          ¬ Collide constraint stored held.cells) ∧
        after = { table with
          rows := table.rows ++ [⟨table.nextRowid, stored⟩]
          nextRowid := table.nextRowid + 1 } := by
  rw [insert, bind_eq_ok]
  constructor
  · rintro ⟨found, normal, rest⟩
    obtain ⟨passed, unique, built⟩ := bind_eq_ok.mp rest
    cases built
    exact ⟨normal, checkUnique_eq_ok.mp unique, rfl⟩
  · rintro ⟨normal, unique, rfl⟩
    exact ⟨stored, normal, bind_eq_ok.mpr ⟨(), checkUnique_eq_ok.mpr unique, rfl⟩⟩

/-- An insertion whose row collides with one of the rows is refused. -/
theorem insert_eq_error (normal : normalize table.spec row = .ok stored)
    {constraint : List String} (inSpec : constraint ∈ table.spec.constraints) {held : StoredRow}
    (inTable : held ∈ table.rows) (collide : Collide constraint stored held.cells) :
    ∃ violated, table.insert row = .error (.uniqueViolation table.spec.name violated) := by
  obtain ⟨violated, refused⟩ := exists_checkUnique_eq_error inSpec inTable collide
  exact ⟨violated, by simp only [insert, normal, refused, bind, Except.bind]⟩

/-- An insertion under the next key is an insertion of the row with this key. -/
theorem insertNextKey_eq_ok :
    table.insertNextKey row = .ok (after, stored) ↔
      ∃ name, table.spec.integerKey? = some name ∧
        table.insert (Fields.put name (.int64 (Int64.ofInt (table.largest name + 1))) row) =
          .ok (after, stored) := by
  unfold insertNextKey
  split
  case h_1 noKey => simp [noKey]
  case h_2 name found => simp [found]

/-- A replacement puts the storage form of a row, which collides with no other row, in place. -/
theorem replace_eq_ok :
    table.replace key row = .ok (after, stored) ↔
      ∃ before old others, table.rows = before ++ old :: others ∧
        table.FirstWith key before old ∧ normalize table.spec row = .ok stored ∧
        (∀ constraint ∈ table.spec.constraints, ∀ held ∈ before ++ others,
          ¬ Collide constraint stored held.cells) ∧
        after = { table with rows := before ++ { old with cells := stored } :: others } := by
  rw [replace, bind_eq_ok]
  constructor
  · rintro ⟨place, placed, rest⟩
    obtain ⟨before, old, others, rows, rfl, first⟩ := position_eq_ok.mp placed
    obtain ⟨found, normal, rest⟩ := bind_eq_ok.mp rest
    obtain ⟨passed, unique, built⟩ := bind_eq_ok.mp rest
    rw [rows, eraseIdx_length] at unique
    rw [rows, modify_length] at built
    cases built
    exact ⟨before, old, others, rows, first, normal, checkUnique_eq_ok.mp unique, rfl⟩
  · rintro ⟨before, old, others, rows, first, normal, unique, rfl⟩
    refine ⟨before.length, position_eq_ok.mpr ⟨before, old, others, rows, rfl, first⟩, ?_⟩
    rw [rows, eraseIdx_length]
    refine bind_eq_ok.mpr
      ⟨stored, normal, bind_eq_ok.mpr ⟨(), checkUnique_eq_ok.mpr unique, ?_⟩⟩
    rw [modify_length]
    rfl

/-- A replacement whose row collides with another one is refused. -/
theorem replace_eq_error {before others : List StoredRow} {old : StoredRow} (rows : table.rows = before ++ old :: others)
    (first : table.FirstWith key before old) (normal : normalize table.spec row = .ok stored)
    {constraint : List String} (inSpec : constraint ∈ table.spec.constraints) {held : StoredRow}
    (elsewhere : held ∈ before ++ others) (collide : Collide constraint stored held.cells) :
    ∃ violated, table.replace key row = .error (.uniqueViolation table.spec.name violated) := by
  have placed : table.position key = .ok before.length :=
    position_eq_ok.mpr ⟨before, old, others, rows, rfl, first⟩
  obtain ⟨violated, refused⟩ := exists_checkUnique_eq_error inSpec elsewhere collide
  exact ⟨violated,
    by simp only [replace, placed, normal, rows, eraseIdx_length, refused, bind, Except.bind]⟩

/-- A deletion removes the row that a key means. -/
theorem delete_eq_ok :
    table.delete key = .ok after ↔
      ∃ before old others, table.rows = before ++ old :: others ∧
        table.FirstWith key before old ∧ after = { table with rows := before ++ others } := by
  rw [delete, bind_eq_ok]
  constructor
  · rintro ⟨place, placed, built⟩
    obtain ⟨before, old, others, rows, rfl, first⟩ := position_eq_ok.mp placed
    rw [rows, eraseIdx_length] at built
    cases built
    exact ⟨before, old, others, rows, first, rfl⟩
  · rintro ⟨before, old, others, rows, first, rfl⟩
    refine ⟨before.length, position_eq_ok.mpr ⟨before, old, others, rows, rfl, first⟩, ?_⟩
    rw [rows, eraseIdx_length]
    rfl

/-! ## Steps -/

/-- The ways in which a table changes, with the rows that are written. -/
inductive Step (table : Table) : Table → List Row → Prop
  | appended {row stored : Row} (normal : normalize table.spec row = .ok stored)
      (apart : ∀ constraint ∈ table.spec.constraints, ∀ held ∈ table.rows,
        ¬ Collide constraint stored held.cells) :
      Step table { table with
        rows := table.rows ++ [⟨table.nextRowid, stored⟩]
        nextRowid := table.nextRowid + 1 } [stored]
  | replaced {before others : List StoredRow} {old : StoredRow} {row stored : Row}
      (rows : table.rows = before ++ old :: others)
      (normal : normalize table.spec row = .ok stored)
      (apart : ∀ constraint ∈ table.spec.constraints, ∀ held ∈ before ++ others,
        ¬ Collide constraint stored held.cells) :
      Step table { table with rows := before ++ { old with cells := stored } :: others } [stored]
  | removed {before others : List StoredRow} {old : StoredRow}
      (rows : table.rows = before ++ old :: others) :
      Step table { table with rows := before ++ others } []

private theorem step_of_insert (inserted : table.insert row = .ok (after, stored)) :
    table.Step after [stored] := by
  obtain ⟨normal, apart, rfl⟩ := insert_eq_ok.mp inserted
  exact .appended normal apart

/-- A change that is taken is a step. -/
theorem step_of_apply {change : Change} {written : List Row}
    (applied : table.apply change = .ok (after, written)) : table.Step after written := by
  cases change with
  | insert row =>
      obtain ⟨⟨found, stored⟩, inserted, built⟩ := map_eq_ok.mp applied
      cases built
      exact step_of_insert inserted
  | insertNextKey row =>
      obtain ⟨⟨found, stored⟩, inserted, built⟩ := map_eq_ok.mp applied
      cases built
      obtain ⟨name, -, inserted⟩ := insertNextKey_eq_ok.mp inserted
      exact step_of_insert inserted
  | replace key row =>
      obtain ⟨⟨found, stored⟩, replaced, built⟩ := map_eq_ok.mp applied
      cases built
      obtain ⟨before, old, others, rows, -, normal, apart, rfl⟩ := replace_eq_ok.mp replaced
      exact .replaced rows normal apart
  | delete key =>
      obtain ⟨found, deleted, built⟩ := map_eq_ok.mp applied
      cases built
      obtain ⟨before, old, others, rows, -, rfl⟩ := delete_eq_ok.mp deleted
      exact .removed rows

theorem Step.spec_eq {written : List Row} (step : table.Step after written) :
    after.spec = table.spec := by
  cases step <;> rfl

/-- What every step keeps, a batch of changes keeps. -/
theorem applyAll_induction {P : Table → Prop}
    (kept : ∀ {table after : Table} {written : List Row}, table.Step after written → P table → P after)
    {changes : List Change} {written : List Row}
    (applied : table.applyAll changes = .ok (after, written)) (start : P table) : P after := by
  induction changes generalizing table written with
  | nil =>
      cases applied
      exact start
  | cons change changes inductionHypothesis =>
      obtain ⟨⟨next, first⟩, stepped, rest⟩ := bind_eq_ok.mp applied
      obtain ⟨⟨last, others⟩, appliedRest, built⟩ := bind_eq_ok.mp rest
      cases built
      exact inductionHypothesis appliedRest (kept (step_of_apply stepped) start)

end Table

end MovieCatalogue.Storage

import Mathlib.Data.List.InsertIdx
import MovieCatalogue.Proofs.Storage.Restoring

/-!
Contract: changes to stores that differ in their row numbers only.

Owns: that such stores take the same changes, write the same rows and are again stores of
this kind, or refuse a change for the same reason.
Does not own: that they give the same answers; see `Proofs.Storage.SameRows`.
-/

namespace MovieCatalogue.Storage

open MovieCatalogue.Refusal

/-! ## Tables -/

private theorem any_cells (rows : List StoredRow) (p : Row → Bool) :
    rows.any (fun row => p row.cells) = (rows.map StoredRow.cells).any p :=
  List.any_map.symm

theorem checkUnique_eq_of_cells {rows others : List StoredRow}
    (same : rows.map StoredRow.cells = others.map StoredRow.cells) (spec : Spec) (candidate : Row) :
    checkUnique spec rows candidate = checkUnique spec others candidate := by
  have sameClashes : clashes rows candidate = clashes others candidate := by
    funext constraint
    rw [clashes, clashes, any_cells, any_cells, same]
  rw [checkUnique, checkUnique, sameClashes]

namespace Table

/-- Two changed tables have the same rows, and the same was written. -/
def SameResult {α : Type} (first second : Table × α) : Prop :=
  first.1.SameRows second.1 ∧ first.2 = second.2

namespace SameRows

variable {first second third : Table}

theorem refl (table : Table) : table.SameRows table := ⟨rfl, rfl⟩

theorem symm (same : first.SameRows second) : second.SameRows first :=
  ⟨same.spec.symm, same.cells.symm⟩

theorem trans (same : first.SameRows second) (sameAgain : second.SameRows third) :
    first.SameRows third :=
  ⟨same.spec.trans sameAgain.spec, same.cells.trans sameAgain.cells⟩

variable (same : first.SameRows second)
include same

theorem position_eq (key : Key) : first.position key = second.position key := by
  have viaCells (table : Table) :
      table.rows.findIdx? (fun row => (Key.of table.spec row.cells).same key) =
        (table.rows.map StoredRow.cells).findIdx? fun cells =>
          (Key.of table.spec cells).same key := by
    rw [List.findIdx?_map]
    rfl
  rw [position, position, viaCells, viaCells, same.spec, same.cells]

theorem largest_eq (column : String) : first.largest column = second.largest column := by
  have viaCells (table : Table) :
      table.rows.filterMap (fun row => (Selection.valueAt row.cells column).integer?) =
        (table.rows.map StoredRow.cells).filterMap fun cells =>
          (Selection.valueAt cells column).integer? := by
    rw [List.filterMap_map]
    rfl
  rw [largest, largest, viaCells, viaCells, same.cells]

theorem insert (row : Row) : Alike SameResult (first.insert row) (second.insert row) := by
  refine .bind (.of_eq (by rw [same.spec])) ?_
  rintro stored _ rfl
  refine .bind (.of_eq (by rw [same.spec, checkUnique_eq_of_cells same.cells])) ?_
  rintro _ _ rfl
  exact .taken ⟨⟨same.spec, by simp [same.cells]⟩, rfl⟩

theorem insertNextKey (row : Row) :
    Alike SameResult (first.insertNextKey row) (second.insertNextKey row) := by
  unfold Table.insertNextKey
  rw [same.spec]
  cases second.spec.integerKey? with
  | none => exact .refused _
  | some key =>
      dsimp only
      rw [same.largest_eq]
      exact same.insert _

theorem replace (key : Key) (row : Row) :
    Alike SameResult (first.replace key row) (second.replace key row) := by
  refine .bind (.of_eq (same.position_eq key)) ?_
  rintro place _ rfl
  refine .bind (.of_eq (by rw [same.spec])) ?_
  rintro stored _ rfl
  have sameOthers : (first.rows.eraseIdx place).map StoredRow.cells =
      (second.rows.eraseIdx place).map StoredRow.cells := by
    rw [← List.eraseIdx_map, ← List.eraseIdx_map, same.cells]
  refine .bind (.of_eq (by rw [same.spec, checkUnique_eq_of_cells sameOthers])) ?_
  rintro _ _ rfl
  have inPlace (rows : List StoredRow) :
      (rows.modify place fun old => { old with cells := stored }).map StoredRow.cells =
        (rows.map StoredRow.cells).modify place fun _ => stored := by
    refine List.ext_getElem? fun i => ?_
    rw [List.getElem?_map, List.getElem?_modify, List.getElem?_modify, List.getElem?_map]
    by_cases here : place = i <;> simp [here, Function.comp_def]
  exact .taken ⟨⟨same.spec, by rw [inPlace, inPlace, same.cells]⟩, rfl⟩

theorem delete (key : Key) : Alike SameRows (first.delete key) (second.delete key) := by
  refine .bind (.of_eq (same.position_eq key)) ?_
  rintro place _ rfl
  refine .taken ⟨same.spec, ?_⟩
  dsimp only
  rw [← List.eraseIdx_map, ← List.eraseIdx_map, same.cells]

/-- A change does the same to both tables. -/
theorem apply (change : Change) : Alike SameResult (first.apply change) (second.apply change) := by
  cases change with
  | insert row => exact (same.insert row).map fun result => ⟨result.1, congrArg (fun row => [row]) result.2⟩
  | insertNextKey row =>
      exact (same.insertNextKey row).map fun result => ⟨result.1, congrArg (fun row => [row]) result.2⟩
  | replace key row =>
      exact (same.replace key row).map fun result => ⟨result.1, congrArg (fun row => [row]) result.2⟩
  | delete key => exact (same.delete key).map fun rows => ⟨rows, rfl⟩

omit same in
/-- A batch of changes does the same to both tables. -/
theorem applyAll (same : first.SameRows second) (changes : List Change) :
    Alike SameResult (first.applyAll changes) (second.applyAll changes) := by
  induction changes generalizing first second with
  | nil => exact .taken ⟨same, rfl⟩
  | cons change changes inductionHypothesis =>
      refine .bind (same.apply change) ?_
      rintro ⟨next, written⟩ ⟨otherNext, _⟩ ⟨sameNext, rfl⟩
      refine .bind (inductionHypothesis sameNext) ?_
      rintro ⟨last, others⟩ ⟨otherLast, _⟩ ⟨sameLast, rfl⟩
      exact .taken ⟨sameLast, rfl⟩

end SameRows

end Table

/-! ## Stores -/

namespace Store

/-- Two changed stores have the same rows, and the same was written. -/
def SameResult {α : Type} (first second : Store × α) : Prop :=
  first.1.SameRows second.1 ∧ first.2 = second.2

namespace SameRows

variable {first second third : Store}

theorem of_tables (each : ∀ name, first.find? name = none ∧ second.find? name = none ∨
    ∃ table other, first.find? name = some table ∧ second.find? name = some other ∧
      table.SameRows other) : first.SameRows second := by
  intro name
  rcases each name with ⟨none, noneToo⟩ | ⟨table, other, found, foundOther, sameTable⟩
  · rw [none, noneToo]
    exact .none
  · rw [found, foundOther]
    exact .some sameTable

theorem refl (store : Store) : store.SameRows store := by
  intro name
  cases store.find? name with
  | none => exact .none
  | some table => exact .some (.refl table)

theorem symm (same : first.SameRows second) : second.SameRows first := by
  refine of_tables fun name => ?_
  rcases same.find?_cases name with ⟨none, noneToo⟩ | ⟨table, other, found, foundOther, sameTable⟩
  · exact .inl ⟨noneToo, none⟩
  · exact .inr ⟨other, table, foundOther, found, sameTable.symm⟩

theorem trans (same : first.SameRows second) (sameAgain : second.SameRows third) :
    first.SameRows third := by
  refine of_tables fun name => ?_
  rcases same.find?_cases name with ⟨none, noneToo⟩ | ⟨table, other, found, foundOther, sameTable⟩
  · rcases sameAgain.find?_cases name with ⟨-, noThird⟩ | ⟨_, _, impossible, -⟩
    · exact .inl ⟨none, noThird⟩
    · cases noneToo.symm.trans impossible
  · rcases sameAgain.find?_cases name with ⟨impossible, -⟩ | ⟨again, last, foundAgain, foundLast, sameLast⟩
    · cases foundOther.symm.trans impossible
    · cases foundOther.symm.trans foundAgain
      exact .inr ⟨table, last, found, foundLast, sameTable.trans sameLast⟩

/-- Tables of the same rows that are put in the places of such tables make such stores. -/
theorem put (same : first.SameRows second) {table other next otherNext : Table} {name : String}
    (found : first.find? name = some table) (foundOther : second.find? name = some other)
    (named : next.spec.name = name) (sameNext : next.SameRows otherNext) :
    (first.put next).SameRows (second.put otherNext) := by
  intro place
  have namedOther : otherNext.spec.name = name := sameNext.spec ▸ named
  by_cases here : place = name
  · subst here
    rw [find?_put_self found named, find?_put_self foundOther namedOther]
    exact .some sameNext
  · rw [find?_put_of_ne (named ▸ here), find?_put_of_ne (namedOther ▸ here)]
    exact same place

/-- A commit does the same to both stores. -/
theorem commit (same : first.SameRows second) (name : String) (changes : List Change) :
    Alike SameResult (first.commit name changes) (second.commit name changes) := by
  unfold Store.commit Store.get
  rcases same.find?_cases name with ⟨none, noneToo⟩ | ⟨table, other, found, foundOther, sameTable⟩
  · rw [none, noneToo]
    exact .refused _
  · rw [found, foundOther]
    have alike := sameTable.applyAll changes
    simp only [bind, Except.bind]
    generalize applied : table.applyAll changes = outcome at alike
    generalize other.applyAll changes = otherOutcome at alike
    cases alike with
    | refused error => exact .refused error
    | @taken result otherResult related =>
        have named : result.1.spec.name = name :=
          (Table.spec_applyAll applied).symm ▸ name_of_find? found
        exact .taken ⟨same.put found foundOther named related.1, related.2⟩

/-- A floating-point number of one store is one of the other. -/
theorem hasReal (same : first.SameRows second) (sound : first.Sound) {x : Number.Binary64}
    (held : first.HasReal x) : second.HasReal x := by
  obtain ⟨table, inStore, row, inTable, name, inRow⟩ := held
  have found := find?_of_mem sound.distinct inStore
  rcases same.find?_cases table.spec.name with ⟨none, -⟩ | ⟨again, other, foundAgain, foundOther, sameTable⟩
  · cases found.symm.trans none
  · cases found.symm.trans foundAgain
    have inCells : row.cells ∈ other.rows.map StoredRow.cells :=
      sameTable.cells ▸ List.mem_map_of_mem inTable
    obtain ⟨otherRow, inOther, sameCells⟩ := List.mem_map.mp inCells
    exact ⟨other, mem_of_find? foundOther, otherRow, inOther, name, sameCells ▸ inRow⟩

end SameRows

end Store

end MovieCatalogue.Storage

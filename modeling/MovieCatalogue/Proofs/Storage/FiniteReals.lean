import MovieCatalogue.Proofs.Json.Range
import MovieCatalogue.Proofs.Storage.Restoring

/-!
Contract: stores without infinite numbers.

Owns: `Store.Finite`, stores all of whose floating-point numbers are finite; and that
changes with finite numbers keep it.
Does not own: requests; see `Proofs.Endpoint.FiniteReals`. Files, in which infinite numbers
may be named.
-/

namespace MovieCatalogue.Storage

open MovieCatalogue.Number MovieCatalogue.Refusal MovieCatalogue.Selection

/-! ## Values and rows -/

/-- A value is no floating-point number, or a finite one. -/
def Value.Finite : Value → Prop
  | .real x => x.isFinite = true
  | .null | .bool _ | .int32 _ | .int64 _ | .text _ | .array _ | .document _ | .foreign _ _ => True

def Row.Finite (row : Row) : Prop :=
  ∀ cell ∈ row, cell.2.Finite

theorem Value.finite_ofInt {n : Int} (bounded : n.natAbs ≤ maxWord) :
    (Value.real (.ofInt n)).Finite :=
  Binary64.isFinite_ofInt bounded

/-- What a column stores for a finite value is finite. -/
theorem Kind.finite_of_coerce {kind : Kind} {value stored : Value} (finite : value.Finite)
    (coerced : kind.coerce value = .ok stored) : stored.Finite := by
  unfold coerce at coerced
  split at coerced
  case h_1 | h_2 | h_7 | h_8 =>
      cases coerced
      trivial
  case h_3 =>
      split at coerced
      · cases coerced
        trivial
      · cases coerced
  case h_4 =>
      cases coerced
      exact finite
  case h_5 n =>
      cases coerced
      have lower := n.le_toInt
      have upper := n.toInt_lt
      exact Value.finite_ofInt (by rw [maxWord]; omega)
  case h_6 n =>
      cases coerced
      have lower := n.le_toInt
      have upper := n.toInt_lt
      exact Value.finite_ofInt (by rw [maxWord]; omega)
  case h_9 =>
      split at coerced
      · cases coerced
        trivial
      · cases coerced
  case h_10 => cases coerced

theorem Row.Finite.valueAt {row : Row} (finite : row.Finite) (name : String) :
    (valueAt row name).Finite := by
  unfold Selection.valueAt
  cases found : Fields.get? name row with
  | none => trivial
  | some value => exact finite _ (Fields.mem_of_get?_eq_some found)

theorem Row.Finite.put {row : Row} (finite : row.Finite) (name : String) {value : Value}
    (finiteToo : value.Finite) : Row.Finite (Fields.put name value row) := by
  intro cell inPut
  rcases Fields.eq_or_mem_of_mem_put inPut with rfl | inRow
  · exact finiteToo
  · exact finite cell inRow

/-- The storage form of a row with finite numbers has finite numbers. -/
theorem Row.Finite.normalize {spec : Spec} {row stored : Row} (finite : row.Finite)
    (normal : normalize spec row = .ok stored) : stored.Finite := by
  obtain ⟨-, cells, each, rfl⟩ := normalize_eq_ok.mp normal
  intro cell inCollapse
  obtain ⟨column, -, cellNormal⟩ := exists_of_mem_results each (Fields.mem_of_mem_collapse inCollapse)
  obtain ⟨name, value⟩ := cell
  obtain ⟨-, ⟨-, rfl, -⟩ | ⟨-, coerced⟩⟩ := normalizeCell_eq_ok.mp cellNormal
  · trivial
  · exact Kind.finite_of_coerce (finite.valueAt column.name) coerced

/-! ## Changes -/

def Change.Finite : Change → Prop
  | .insert row | .insertNextKey row | .replace _ row => row.Finite
  | .delete _ => True

def Table.Finite (table : Table) : Prop :=
  ∀ row ∈ table.rows, row.cells.Finite

namespace Table

variable {table after : Table} {written : List Row}

private theorem finite_insert {row stored : Row} (finite : table.Finite) (finiteRow : row.Finite)
    (inserted : table.insert row = .ok (after, stored)) : after.Finite := by
  obtain ⟨normal, -, rfl⟩ := insert_eq_ok.mp inserted
  exact List.forall_mem_append.mpr
    ⟨finite, List.forall_mem_singleton.mpr (finiteRow.normalize normal)⟩

/-- A change with finite numbers keeps the numbers of a table finite. -/
theorem Finite.apply {change : Change} (finite : table.Finite) (finiteChange : change.Finite)
    (applied : table.apply change = .ok (after, written)) : after.Finite := by
  cases change with
  | insert row =>
      obtain ⟨⟨found, stored⟩, inserted, built⟩ := map_eq_ok.mp applied
      cases built
      exact finite_insert finite finiteChange inserted
  | insertNextKey row =>
      obtain ⟨⟨found, stored⟩, inserted, built⟩ := map_eq_ok.mp applied
      cases built
      obtain ⟨name, -, inserted⟩ := insertNextKey_eq_ok.mp inserted
      have noReal (n : Int64) : (Value.int64 n).Finite := trivial
      exact finite_insert finite (Row.Finite.put finiteChange name (noReal _)) inserted
  | replace key row =>
      obtain ⟨⟨found, stored⟩, replaced, built⟩ := map_eq_ok.mp applied
      cases built
      obtain ⟨before, old, others, rows, -, normal, -, rfl⟩ := replace_eq_ok.mp replaced
      rw [Table.Finite, rows, List.forall_mem_append, List.forall_mem_cons] at finite
      obtain ⟨finiteBefore, -, finiteOthers⟩ := finite
      exact List.forall_mem_append.mpr ⟨finiteBefore,
        List.forall_mem_cons.mpr ⟨finiteChange.normalize normal, finiteOthers⟩⟩
  | delete key =>
      obtain ⟨found, deleted, built⟩ := map_eq_ok.mp applied
      cases built
      obtain ⟨before, old, others, rows, -, rfl⟩ := delete_eq_ok.mp deleted
      rw [Table.Finite, rows, List.forall_mem_append, List.forall_mem_cons] at finite
      obtain ⟨finiteBefore, -, finiteOthers⟩ := finite
      exact List.forall_mem_append.mpr ⟨finiteBefore, finiteOthers⟩

theorem Finite.applyAll {changes : List Change} (finite : table.Finite)
    (finiteChanges : ∀ change ∈ changes, change.Finite)
    (applied : table.applyAll changes = .ok (after, written)) : after.Finite := by
  induction changes generalizing table written with
  | nil =>
      cases applied
      exact finite
  | cons change changes inductionHypothesis =>
      rw [List.forall_mem_cons] at finiteChanges
      obtain ⟨⟨next, first⟩, stepped, rest⟩ := bind_eq_ok.mp applied
      obtain ⟨⟨last, others⟩, appliedRest, built⟩ := bind_eq_ok.mp rest
      cases built
      exact inductionHypothesis (finite.apply finiteChanges.1 stepped) finiteChanges.2 appliedRest

end Table

/-! ## Stores -/

def Store.Finite (store : Store) : Prop :=
  ∀ table ∈ store.tables, table.Finite

theorem Store.Finite.hasReal {store : Store} (finite : store.Finite) {x : Binary64}
    (held : store.HasReal x) : x.isFinite = true := by
  obtain ⟨table, inStore, row, inTable, name, inRow⟩ := held
  exact finite table inStore row inTable _ inRow

theorem Store.Finite.commit {store after : Store} {name : String} {changes : List Change}
    {written : List Row} (finite : store.Finite)
    (finiteChanges : ∀ change ∈ changes, change.Finite)
    (committed : store.commit name changes = .ok (after, written)) : after.Finite := by
  obtain ⟨table, next, found, applied, rfl⟩ := Store.commit_eq_ok.mp committed
  intro other member
  rcases Store.mem_put member with rfl | old
  · exact (finite table (Store.mem_of_find? found)).applyAll finiteChanges applied
  · exact finite other old

theorem Store.finite_clear (store : Store) : store.clear.Finite := by
  intro table member
  obtain ⟨old, -, rfl⟩ := List.mem_map.mp member
  exact List.forall_mem_nil _

end MovieCatalogue.Storage

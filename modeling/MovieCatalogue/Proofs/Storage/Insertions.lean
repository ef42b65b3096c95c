import MovieCatalogue.Proofs.Storage.Change

/-!
Contract: rows that are inserted together.

Owns: `Table.append` and `Table.appendAll`, tables with more rows at their end; `Table.Apart`, rows
that collide neither with one another nor with those of a table; and exactly when a batch of
insertions is taken and the table that it leaves.
Does not own: insertions under the next key; see `Proofs.Storage.NextKey`.
-/

namespace MovieCatalogue.Storage

open MovieCatalogue.Refusal

namespace Table

variable {table after : Table} {row : Row} {rows stored : List Row}

/-- The table with one more row at its end, under the next number. -/
def append (table : Table) (row : Row) : Table :=
  { table with rows := table.rows ++ [⟨table.nextRowid, row⟩], nextRowid := table.nextRowid + 1 }

def appendAll (table : Table) (rows : List Row) : Table :=
  rows.foldl append table

@[simp] theorem spec_appendAll : (table.appendAll rows).spec = table.spec := by
  induction rows generalizing table with
  | nil => rfl
  | cons row rows inductionHypothesis => exact inductionHypothesis

@[simp] theorem cells_appendAll : (table.appendAll rows).rows.map StoredRow.cells =
    table.rows.map StoredRow.cells ++ rows := by
  induction rows generalizing table with
  | nil => exact (List.append_nil _).symm
  | cons row rows inductionHypothesis =>
      refine inductionHypothesis.trans ?_
      simp [append]

/-- No two of the rows collide, and none of them collides with a row of the table. -/
def Apart (table : Table) (rows : List Row) : Prop :=
  ∀ constraint ∈ table.spec.constraints,
    rows.Pairwise (fun first second => ¬ Collide constraint first second) ∧
      ∀ held ∈ table.rows, ∀ row ∈ rows, ¬ Collide constraint row held.cells

theorem apart_cons : table.Apart (row :: rows) ↔
    (∀ constraint ∈ table.spec.constraints, ∀ held ∈ table.rows,
      ¬ Collide constraint row held.cells) ∧ (table.append row).Apart rows := by
  unfold Apart append
  simp only [List.pairwise_cons, List.forall_mem_cons, List.forall_mem_append]
  constructor
  · intro apart
    refine ⟨fun constraint inSpec held member => ((apart constraint inSpec).2 held member).1, ?_⟩
    intro constraint inSpec
    obtain ⟨⟨first, others⟩, across⟩ := apart constraint inSpec
    exact ⟨others, fun held member => (across held member).2,
      fun other member collide => first other member collide.symm, by simp⟩
  · rintro ⟨here, rest⟩ constraint inSpec
    obtain ⟨others, across, first, -⟩ := rest constraint inSpec
    exact ⟨⟨fun other member collide => first other member collide.symm, others⟩,
      fun held member => ⟨here constraint inSpec held member, across held member⟩⟩

/-- Rows are inserted together if the declaration takes each of them and none collides with
another one; they are written at the end of the table in their order. -/
theorem applyAll_inserts_eq_ok :
    table.applyAll (rows.map .insert) = .ok (after, stored) ↔
      rows.mapM (normalize table.spec) = .ok stored ∧ table.Apart stored ∧
        after = table.appendAll stored := by
  induction rows generalizing table stored with
  | nil =>
      constructor
      · intro applied
        cases applied
        exact ⟨rfl, fun constraint _ => ⟨List.Pairwise.nil, by simp⟩, rfl⟩
      · rintro ⟨normal, -, rfl⟩
        cases normal
        rfl
  | cons row rows inductionHypothesis =>
      rw [List.map_cons, applyAll, bind_eq_ok, List.mapM_cons, bind_eq_ok]
      constructor
      · rintro ⟨⟨next, written⟩, applied, rest⟩
        obtain ⟨⟨last, others⟩, appliedRest, built⟩ := bind_eq_ok.mp rest
        cases built
        obtain ⟨⟨found, first⟩, inserted, built⟩ := map_eq_ok.mp applied
        cases built
        obtain ⟨normal, here, rfl⟩ := insert_eq_ok.mp inserted
        obtain ⟨normalRest, apart, rfl⟩ := inductionHypothesis.mp appliedRest
        exact ⟨⟨first, normal, bind_eq_ok.mpr ⟨others, normalRest, rfl⟩⟩,
          apart_cons.mpr ⟨here, apart⟩, rfl⟩
      · rintro ⟨⟨first, normal, rest⟩, apart, rfl⟩
        obtain ⟨others, normalRest, built⟩ := bind_eq_ok.mp rest
        cases built
        obtain ⟨here, apartRest⟩ := apart_cons.mp apart
        have inserted := insert_eq_ok.mpr ⟨normal, here, rfl⟩
        have appliedRest : (table.append first).applyAll (rows.map .insert) = _ :=
          inductionHypothesis.mpr ⟨normalRest, apartRest, rfl⟩
        exact ⟨⟨table.append first, [first]⟩, map_eq_ok.mpr ⟨_, inserted, rfl⟩,
          bind_eq_ok.mpr ⟨_, appliedRest, rfl⟩⟩

end Table

end MovieCatalogue.Storage

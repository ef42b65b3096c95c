import MovieCatalogue.Proofs.Storage.Change
import MovieCatalogue.Proofs.Storage.StorageForm

/-!
Contract: what is true of every table.

Owns: `Table.Sound`, the invariant of tables: every row is in the form that
normalisation leaves as it is, no two rows collide, and row numbers grow along the
rows; that the steps of a table keep it; and what it says about rows where columns
have different names.
Does not own: several tables at once; see `Proofs.Storage.Run`.
-/

namespace MovieCatalogue.Storage.Table

open MovieCatalogue.Selection

/-- The invariant of tables. -/
structure Sound (table : Table) : Prop where
  /-- Normalisation leaves every row as it is. -/
  stored : ∀ row ∈ table.rows, normalize table.spec row.cells = .ok row.cells
  /-- No two rows collide. -/
  apart : ∀ constraint ∈ table.spec.constraints,
    table.rows.Pairwise fun first second => ¬ Collide constraint first.cells second.cells
  /-- Row numbers grow. -/
  ordered : table.rows.Pairwise fun first second => first.rowid < second.rowid
  /-- The next row number is larger than all of them. -/
  numbered : ∀ row ∈ table.rows, row.rowid < table.nextRowid

/-- A table without rows is sound. -/
theorem sound_of_no_rows {table : Table} (noRows : table.rows = []) : table.Sound where
  stored := by simp [noRows]
  apart := by simp [noRows]
  ordered := by simp [noRows]
  numbered := by simp [noRows]

variable {table after : Table} {written : List Row}

private theorem sound_append (sound : table.Sound) {row stored : Row}
    (normal : normalize table.spec row = .ok stored)
    (apart : ∀ constraint ∈ table.spec.constraints, ∀ held ∈ table.rows,
      ¬ Collide constraint stored held.cells) :
    Sound { table with
      rows := table.rows ++ [⟨table.nextRowid, stored⟩]
      nextRowid := table.nextRowid + 1 } where
  stored := by
    intro held member
    rcases List.mem_append.mp member with earlier | last
    · exact sound.stored held earlier
    · cases List.mem_singleton.mp last
      exact normalize_idempotent normal
  apart := by
    intro constraint inSpec
    refine List.pairwise_append.mpr ⟨sound.apart constraint inSpec, List.pairwise_singleton _ _, ?_⟩
    intro held earlier new last collide
    cases List.mem_singleton.mp last
    exact apart constraint inSpec held earlier collide.symm
  ordered := by
    refine List.pairwise_append.mpr ⟨sound.ordered, List.pairwise_singleton _ _, ?_⟩
    intro held earlier new last
    cases List.mem_singleton.mp last
    exact sound.numbered held earlier
  numbered := by
    intro held member
    rcases List.mem_append.mp member with earlier | last
    · exact Nat.lt_succ_of_lt (sound.numbered held earlier)
    · cases List.mem_singleton.mp last
      exact Nat.lt_succ_self _

private theorem sound_replace (sound : table.Sound) {before others : List StoredRow}
    {old : StoredRow} {row stored : Row} (rows : table.rows = before ++ old :: others)
    (normal : normalize table.spec row = .ok stored)
    (apart : ∀ constraint ∈ table.spec.constraints, ∀ held ∈ before ++ others,
      ¬ Collide constraint stored held.cells) :
    Sound { table with rows := before ++ { old with cells := stored } :: others } where
  stored := by
    intro held member
    rcases List.mem_append.mp member with earlier | later
    · exact sound.stored held (by simp [rows, earlier])
    · rcases List.mem_cons.mp later with rfl | later
      · exact normalize_idempotent normal
      · exact sound.stored held (by simp [rows, later])
  apart := by
    intro constraint inSpec
    have symmetric {first second : StoredRow}
        (free : ¬ Collide constraint first.cells second.cells) :
        ¬ Collide constraint second.cells first.cells :=
      fun collide => free collide.symm
    have held := sound.apart constraint inSpec
    rw [rows, List.pairwise_middle symmetric] at held
    refine (List.pairwise_middle symmetric).mpr (List.pairwise_cons.mpr ⟨?_, ?_⟩)
    · exact apart constraint inSpec
    · exact (List.pairwise_cons.mp held).2
  ordered := by
    have held := sound.ordered
    rw [rows] at held
    -- The row numbers are those from before.
    simpa [List.pairwise_append] using held
  numbered := by
    intro held member
    rcases List.mem_append.mp member with earlier | later
    · exact sound.numbered held (by simp [rows, earlier])
    · rcases List.mem_cons.mp later with rfl | later
      · exact sound.numbered old (by simp [rows])
      · exact sound.numbered held (by simp [rows, later])

private theorem sound_remove (sound : table.Sound) {before others : List StoredRow}
    {old : StoredRow} (rows : table.rows = before ++ old :: others) :
    Sound { table with rows := before ++ others } := by
  have fewer : List.Sublist (before ++ others) table.rows := by
    rw [rows]
    exact (List.sublist_cons_self old others).append_left before
  exact
    { stored := fun held member => sound.stored held (fewer.subset member)
      apart := fun constraint inSpec => (sound.apart constraint inSpec).sublist fewer
      ordered := sound.ordered.sublist fewer
      numbered := fun held member => sound.numbered held (fewer.subset member) }

/-- A step keeps the invariant. -/
theorem Step.sound (step : table.Step after written) (sound : table.Sound) : after.Sound := by
  cases step with
  | appended normal apart => exact sound_append sound normal apart
  | replaced rows normal apart => exact sound_replace sound rows normal apart
  | removed rows => exact sound_remove sound rows

/-- A batch of changes keeps the invariant. -/
theorem Sound.applyAll (sound : table.Sound) {changes : List Change}
    (applied : table.applyAll changes = .ok (after, written)) : after.Sound :=
  applyAll_induction (fun step => step.sound) applied sound

theorem spec_applyAll {changes : List Change}
    (applied : table.applyAll changes = .ok (after, written)) : after.spec = table.spec :=
  applyAll_induction (P := fun next => next.spec = table.spec)
    (fun step same => step.spec_eq.trans same) applied rfl

/-! ## Columns with different names -/

/-- The invariant of tables whose columns have different names. -/
structure WellFormed (table : Table) : Prop extends table.Sound where
  /-- Every row has a cell for each column, in their order, with a value that it may hold. -/
  holds : ∀ row ∈ table.rows, table.spec.Holds row.cells

theorem Sound.wellFormed (sound : table.Sound)
    (distinct : (table.spec.columns.map Column.name).Nodup) : table.WellFormed where
  toSound := sound
  holds := fun row member => holds_of_normalize distinct (sound.stored row member)

end MovieCatalogue.Storage.Table

import MovieCatalogue.Proofs.Storage.Loading
import MovieCatalogue.Proofs.Storage.SameRows
import MovieCatalogue.Proofs.Storage.SnapshotText

/-!
Contract: stores that are written and loaded again.

Owns: that the rows of sound tables are restored as they are in tables of the same
declarations; and the round trip of a store through the text of its snapshot.
Does not own: files that hold something else; see `Proofs.Storage.Loading`.
-/

namespace MovieCatalogue.Storage

open MovieCatalogue.Refusal

/-! ## Restoring -/

namespace Snapshot

/-- What a snapshot has of a table. -/
def ofTable (table : Table) : String × List Json :=
  (table.spec.name, table.rows.map fun row => row.cells.toJson)

variable {store : Store} {table : Table}

/-- A table keeps the rows of a sound table of the same declaration. -/
private theorem restores_ofTable (sound : table.Sound) (kept : ∀ row ∈ table.rows, row.cells.Kept) :
    Restores table.spec (ofTable table).2 (table.rows.map StoredRow.cells) where
  normal := by
    refine ⟨table.rows.map StoredRow.cells, ?_, ?_⟩
    · rw [ofTable, mapM_eq_ok, List.forall₂_map_left_iff, List.forall₂_map_right_iff,
        List.forall₂_same]
      exact fun row member => (kept row member).ofJson_toJson
    · rw [mapM_eq_ok, List.forall₂_same, List.forall_mem_map]
      exact sound.stored
  apart := fun constraint inSpec => List.pairwise_map.mpr (sound.apart constraint inSpec)

/-- Sound tables under different names are restored, each in a table of its declaration without
rows. All other tables stay as they are. -/
private theorem restore_ofTables {tables : List Table} {store : Store}
    (distinct : (tables.map fun table => table.spec.name).Nodup)
    (sound : ∀ table ∈ tables, table.Sound)
    (kept : ∀ table ∈ tables, ∀ row ∈ table.rows, row.cells.Kept)
    (declared : ∀ table ∈ tables, ∃ target, store.find? table.spec.name = some target ∧
      target.spec = table.spec ∧ target.rows = []) :
    ∃ after, (tables.map ofTable).foldlM restoreTable store = .ok after ∧
      (∀ table ∈ tables, ∃ found, after.find? table.spec.name = some found ∧
        table.SameRows found) ∧
      ∀ name ∉ tables.map (fun table => table.spec.name), after.find? name = store.find? name := by
  have names : Fields.names (tables.map ofTable) = tables.map fun table => table.spec.name := by
    rw [Fields.names, List.map_map]
    rfl
  have restores (table : Table) (member : table ∈ tables) :=
    restores_ofTable (sound table member) (kept table member)
  have noRows : ∀ entry ∈ tables.map ofTable, ∀ target,
      store.find? entry.1 = some target → target.rows = [] := by
    rw [List.forall_mem_map]
    intro table member target found
    obtain ⟨declaredTarget, foundDeclared, -, noRows⟩ := declared table member
    cases found.symm.trans foundDeclared
    exact noRows
  have fits : Fits (tables.map ofTable) store := by
    refine List.forall_mem_map.mpr fun table member => ?_
    obtain ⟨target, found, sameSpec, -⟩ := declared table member
    exact ⟨target, _, found, sameSpec ▸ restores table member⟩
  rw [← names] at distinct ⊢
  obtain ⟨after, restored⟩ := exists_restored distinct noRows fits
  obtain ⟨named, others⟩ := filled_of_restored distinct noRows restored
  refine ⟨after, restored, fun table member => ?_, others⟩
  obtain ⟨target, found, sameSpec, targetNoRows⟩ := declared table member
  obtain ⟨again, stored, foundAgain, restoresStored, filled⟩ :=
    named (ofTable table) (List.mem_map_of_mem member)
  cases found.symm.trans foundAgain
  cases (restores table member).unique (sameSpec ▸ restoresStored)
  refine ⟨_, filled, ?_, ?_⟩
  · rw [Table.spec_appendAll, sameSpec]
  · rw [Table.cells_appendAll, targetNoRows]
    rfl

/-! ## The round trip -/

/-- A snapshot has the tables of a store in the order of their names. -/
private theorem tables_ofStore (store : Store) :
    (ofStore store).tables = (store.tables.mergeSort fun first second =>
      Text.leTexts first.spec.name second.spec.name).map ofTable :=
  (List.map_mergeSort (f := ofTable) fun _ _ _ _ => rfl).symm

private theorem perm_ofStore (store : Store) :
    (ofStore store).tables.Perm (store.tables.map ofTable) :=
  List.mergeSort_perm _ _

theorem rowCount_ofStore (store : Store) :
    (ofStore store).rowCount = (store.tables.map fun table => table.rows.length).sum := by
  have counted := ((perm_ofStore store).map fun table => table.2.length).sum_nat
  rw [rowCount, counted, List.map_map]
  simp [ofTable, Function.comp_def]

/-- The snapshot of a sound store is kept if its rows are. -/
private theorem kept_ofStore (sound : store.Sound)
    (kept : ∀ table ∈ store.tables, ∀ row ∈ table.rows, row.cells.Kept) : (ofStore store).Kept where
  distinct := by
    have names := (perm_ofStore store).map Prod.fst
    rw [List.map_map] at names
    exact names.nodup_iff.mpr sound.distinct
  ordered := by
    have transitive (first second third : String × List Json)
        (below : Text.leTexts first.1 second.1 = true)
        (above : Text.leTexts second.1 third.1 = true) : Text.leTexts first.1 third.1 = true :=
      Text.leTexts_trans below above
    exact List.pairwise_mergeSort transitive
      (fun first second => Text.leTexts_total first.1 second.1) _
  rows := by
    intro entry member json inEntry
    obtain ⟨table, inStore, rfl⟩ := List.mem_map.mp ((perm_ofStore store).mem_iff.mp member)
    obtain ⟨row, inTable, rfl⟩ := List.mem_map.mp inEntry
    exact ⟨row.cells, kept table inStore row inTable, rfl⟩

/-- The tables of a sound store are restored in any store of the same declarations without rows. -/
private theorem restore_ofStore (sound : store.Sound)
    (kept : ∀ table ∈ store.tables, ∀ row ∈ table.rows, row.cells.Kept) {cleared : Store}
    (sameSpecs : (cleared.tables.map Table.spec).Perm (store.tables.map Table.spec))
    (noRows : ∀ table ∈ cleared.tables, table.rows = []) :
    ∃ after, (ofStore store).restore cleared = .ok after ∧ store.SameRows after := by
  have sorted := List.mergeSort_perm store.tables fun first second =>
    Text.leTexts first.spec.name second.spec.name
  have names := sorted.map fun table => table.spec.name
  have sameNames := Store.perm_names sameSpecs
  have distinct := sameNames.nodup_iff.mpr sound.distinct
  have declared : ∀ table ∈ store.tables, ∃ target,
      cleared.find? table.spec.name = some target ∧ target.spec = table.spec ∧ target.rows = [] := by
    intro table member
    obtain ⟨target, inCleared, sameSpec⟩ :=
      List.mem_map.mp (sameSpecs.symm.mem_iff.mp (List.mem_map_of_mem member))
    exact ⟨target, sameSpec ▸ Store.find?_of_mem distinct inCleared, sameSpec,
      noRows target inCleared⟩
  obtain ⟨after, restored, each, rest⟩ := restore_ofTables (names.nodup_iff.mpr sound.distinct)
    (fun table member => sound.tables table (sorted.mem_iff.mp member))
    (fun table member => kept table (sorted.mem_iff.mp member))
    (fun table member => declared table (sorted.mem_iff.mp member))
  refine ⟨after, by rw [restore, tables_ofStore]; exact restored, fun name => ?_⟩
  cases found : store.find? name with
  | some table =>
      have member := sorted.mem_iff.mpr (Store.mem_of_find? found)
      obtain ⟨target, foundAfter, same⟩ := each table member
      rw [Store.name_of_find? found] at foundAfter
      rw [foundAfter]
      exact .some same
  | none =>
      have fresh := Store.find?_eq_none.mp found
      have noTarget : cleared.find? name = none := by
        apply Store.find?_eq_none.mpr
        intro taken
        exact fresh (sameNames.mem_iff.mp taken)
      rw [rest name fun taken => fresh (names.mem_iff.mp taken), noTarget]
      exact .none

end Snapshot

/-- A floating-point number that a store has in one of its rows. -/
def Store.HasReal (store : Store) (x : Number.Binary64) : Prop :=
  ∃ table ∈ store.tables, ∃ row ∈ table.rows, ∃ name, (name, .real x) ∈ row.cells

/-- Stores in which no document stands for something else: the names of all columns are plain. -/
def Store.IsPlain (store : Store) : Prop :=
  ∀ table ∈ store.tables, ∀ column ∈ table.spec.columns, Value.IsPlain column.name

instance (store : Store) : Decidable store.IsPlain :=
  inferInstanceAs (Decidable (∀ table ∈ store.tables, _))

theorem Store.Sound.kept {store : Store} (sound : store.Sound) (plain : store.IsPlain)
    (keeps : ∀ x, store.HasReal x → Value.KeepsReal x) :
    ∀ table ∈ store.tables, ∀ row ∈ table.rows, row.cells.Kept := by
  intro table inStore row inTable
  refine kept_of_normalize ((sound.tables table inStore).stored row inTable) (plain table inStore) ?_
  rintro ⟨name, value⟩ inRow x rfl
  exact keeps x ⟨table, inStore, row, inTable, name, inRow⟩

/-- The text of a snapshot is loaded into any store of the same declarations, which has the rows of
the store that was written then. -/
theorem Snapshot.load_text {store other : Store} (sound : store.Sound)
    (kept : ∀ table ∈ store.tables, ∀ row ∈ table.rows, row.cells.Kept)
    (sameSpecs : (other.tables.map Table.spec).Perm (store.tables.map Table.spec)) :
    ∃ after, load other (.found (ofStore store).text) = (after, .ok (ofStore store).rowCount) ∧
      after.Sound ∧ store.SameRows after := by
  have distinct := (Store.perm_names sameSpecs).nodup_iff.mpr sound.distinct
  have cleared : other.clear.Sound := Store.sound_clear distinct
  have clearedSpecs : (other.clear.tables.map Table.spec).Perm (store.tables.map Table.spec) := by
    simpa [Store.clear, Table.clear, Function.comp_def] using sameSpecs
  have noRows : ∀ table ∈ other.clear.tables, table.rows = [] := by
    intro table member
    obtain ⟨old, -, rfl⟩ := List.mem_map.mp member
    rfl
  obtain ⟨after, restored, same⟩ := restore_ofStore sound kept clearedSpecs noRows
  have read : ofFile (.found (ofStore store).text) = .ok (ofStore store) :=
    (kept_ofStore sound kept).ofText_text
  have loaded : load other (.found (ofStore store).text) =
      (after, .ok (ofStore store).rowCount) := by
    simp [load, read, restored, bind, Except.bind, pure, Except.pure]
  have afterSound : after.Sound := by
    have kept := load_induction (P := Store.Sound) (fun committed sound => sound.commit committed)
      (.found (ofStore store).text) cleared
    rwa [loaded] at kept
  exact ⟨after, loaded, afterSound, same⟩

/--
A store that can be reached is read back from the text of its snapshot. It is loaded into any
store of the same declarations, whatever rows that had: the number of all rows is reported, and
afterwards each table has the same rows in the same order and every query has the same answers.
No name of a column starts with a dollar sign, and the floating-point numbers in the store are
finite and among those that are read as they are written.
-/
theorem Snapshot.load_ofStore {operations : List Store.Operation} {store other : Store}
    (reached : store = Store.empty.run operations)
    (sameSpecs : (other.tables.map Table.spec).Perm (store.tables.map Table.spec))
    (plain : store.IsPlain) (finite : ∀ x, store.HasReal x → x.isFinite = true)
    (rereads : ∀ x, store.HasReal x → Json.Rereads x) :
    ∃ after, load other (.found (ofStore store).text) = (after, .ok (ofStore store).rowCount) ∧
      (ofStore store).rowCount = (store.tables.map fun table => table.rows.length).sum ∧
      (∀ name, after.rows name = store.rows name) ∧
      (∀ query, after.count query = store.count query) ∧
      ∀ query offset limit, after.fetch query offset limit = store.fetch query offset limit := by
  have sound : store.Sound := reached ▸ Store.sound_run operations
  have kept := sound.kept plain fun x held =>
    (Value.keepsReal_of_isFinite (finite x held)).mpr (rereads x held)
  obtain ⟨after, loaded, afterSound, same⟩ := load_text sound kept sameSpecs
  exact ⟨after, loaded, rowCount_ofStore store,
    fun name => (same.rows_eq sound afterSound name).symm,
    fun query => (same.count_eq sound afterSound query).symm,
    fun query offset limit => (same.fetch_eq sound afterSound query offset limit).symm⟩

/-- A store of two rows, one with a floating-point number and one without, is loaded over another
row of the same table. -/
theorem Snapshot.load_ofStore_score :
    let spec : Spec := ⟨"film", [⟨"title", .text, false⟩, ⟨"score", .real, true⟩], ["title"], []⟩
    let first : Row := [("title", .text "Roma"), ("score", .int32 7)]
    let second : Row := [("title", .text "Amarcord")]
    let store := Store.empty.run [.declare spec, .commit "film" [.insert first, .insert second]]
    let other : Store := ⟨[{ spec := spec, rows := [⟨4, second⟩], nextRowid := 5 }]⟩
    ∃ after, load other (.found (ofStore store).text) = (after, .ok (ofStore store).rowCount) ∧
      (ofStore store).rowCount = 2 ∧ (∀ name, after.rows name = store.rows name) ∧
      (∀ query, after.count query = store.count query) ∧
      ∀ query offset limit, after.fetch query offset limit = store.fetch query offset limit := by
  intro spec first second store other
  have only : ∀ x, store.HasReal x → x = .ofInt 7 := by
    rintro x ⟨table, inStore, row, inTable, name, inRow⟩
    cases List.mem_singleton.mp inStore
    rcases List.mem_cons.mp inTable with rfl | later
    · change (name, Value.real x) ∈
        [("title", Value.text "Roma"), ("score", Value.real (.ofInt 7))] at inRow
      simp only [List.mem_cons, Prod.mk.injEq, reduceCtorEq, and_false, Value.real.injEq,
        List.not_mem_nil, or_false, false_or] at inRow
      exact inRow.2
    · cases List.mem_singleton.mp later
      change (name, Value.real x) ∈ [("title", Value.text "Amarcord"), ("score", Value.null)] at inRow
      simp at inRow
  exact load_ofStore rfl (.refl _) (by decide) (fun x held => by rw [only x held]; decide)
    (fun x held => by rw [only x held]; decide +kernel)

end MovieCatalogue.Storage

import MovieCatalogue.Proofs.Storage.Tables
import MovieCatalogue.Storage.Snapshot

/-!
Contract: what is true of every store.

Owns: `Store.Operation`, what can be done to a store, and the runs made of such
operations; `Store.Sound`, sound tables under different names; that every operation
keeps it, so that every store that a run ends in is sound; and the form of all stored
rows that follows.
Does not own: requests; see `Proofs.Endpoint.Dispatch`.
-/

namespace MovieCatalogue.Storage

open MovieCatalogue.Refusal

namespace Store

variable {store after : Store} {name : String} {written : List Row}

/-! ## The invariant -/

/-- Every table is sound, and no two have the same name. -/
structure Sound (store : Store) : Prop where
  tables : ∀ table ∈ store.tables, table.Sound
  distinct : (store.tables.map fun table => table.spec.name).Nodup

theorem sound_empty : empty.Sound where
  tables := by simp [empty]
  distinct := List.nodup_nil

theorem Sound.declare (sound : store.Sound) (spec : Spec) : (store.declare spec).1.Sound := by
  unfold Store.declare
  split
  case h_1 => exact sound
  case h_2 noTable =>
      refine ⟨?_, ?_⟩
      · intro table member
        rcases List.mem_append.mp member with earlier | last
        · exact sound.tables table earlier
        · cases List.mem_singleton.mp last
          exact Table.sound_of_no_rows rfl
      · have fresh : spec.name ∉ store.tables.map fun table => table.spec.name :=
          find?_eq_none.mp noTable
        simpa using sound.distinct.concat fresh

theorem Sound.commit (sound : store.Sound) {changes : List Change}
    (committed : store.commit name changes = .ok (after, written)) : after.Sound := by
  obtain ⟨table, next, found, applied, rfl⟩ := commit_eq_ok.mp committed
  refine ⟨?_, (names_put store next).symm ▸ sound.distinct⟩
  intro other member
  rcases mem_put member with rfl | old
  · exact (sound.tables table (mem_of_find? found)).applyAll applied
  · exact sound.tables other old

theorem sound_clear (distinct : (store.tables.map fun table => table.spec.name).Nodup) :
    store.clear.Sound := by
  refine ⟨?_, ?_⟩
  · intro table member
    obtain ⟨old, -, rfl⟩ := List.mem_map.mp member
    exact Table.sound_of_no_rows rfl
  · simpa [Store.clear, Table.clear, Function.comp_def] using distinct

end Store

/-! ## Loading -/

namespace Snapshot

variable {P : Store → Prop}

theorem restore_induction
    (kept : ∀ {store after : Store} {name : String} {changes : List Change} {written : List Row},
      store.commit name changes = .ok (after, written) → P store → P after)
    {tables : Fields (List Json)} {store after : Store}
    (restored : tables.foldlM restoreTable store = .ok after) (start : P store) : P after := by
  induction tables generalizing store with
  | nil =>
      cases restored
      exact start
  | cons table tables inductionHypothesis =>
      obtain ⟨next, restoredTable, restoredRest⟩ := bind_eq_ok.mp restored
      obtain ⟨-, -, rest⟩ := bind_eq_ok.mp restoredTable
      obtain ⟨changes, -, rest⟩ := bind_eq_ok.mp rest
      obtain ⟨⟨found, written⟩, committed, built⟩ := bind_eq_ok.mp rest
      cases built
      exact inductionHypothesis restoredRest (kept committed start)

/-- What the store without rows has and commits keep, a loaded store has. -/
theorem load_induction
    (kept : ∀ {store after : Store} {name : String} {changes : List Change} {written : List Row},
      store.commit name changes = .ok (after, written) → P store → P after)
    {store : Store} (file : FileState) (cleared : P store.clear) : P (load store file).1 := by
  unfold load
  dsimp only
  split
  case h_1 after count restored =>
      obtain ⟨snapshot, -, rest⟩ := bind_eq_ok.mp restored
      obtain ⟨found, restoredAll, built⟩ := bind_eq_ok.mp rest
      cases built
      exact restore_induction kept restoredAll cleared
  case h_2 => exact cleared

end Snapshot

/-! ## Runs -/

namespace Store

/-- What can be done to a store. -/
inductive Operation where
  | declare (spec : Spec)
  | commit (table : String) (changes : List Change)
  | clear
  | load (file : FileState)

/-- The store after an operation. A commit that is refused leaves it as it was. -/
def Operation.apply (store : Store) : Operation → Store
  | .declare spec => (store.declare spec).1
  | .commit table changes =>
    match store.commit table changes with
    | .ok (after, _) => after
    | .error _ => store
  | .clear => store.clear
  | .load file => (Snapshot.load store file).1

/-- The store after a list of operations. -/
def run (store : Store) (operations : List Operation) : Store :=
  operations.foldl Operation.apply store

/-- What the four operations keep, a run keeps. -/
theorem run_induction {P : Store → Prop} {operations : List Operation} {store : Store}
    (declare : ∀ {store : Store} {spec : Spec}, Operation.declare spec ∈ operations → P store →
      P (store.declare spec).1)
    (kept : ∀ {store after : Store} {name : String} {changes : List Change} {written : List Row},
      store.commit name changes = .ok (after, written) → P store → P after)
    (clear : ∀ {store : Store}, P store → P store.clear) (start : P store) :
    P (store.run operations) := by
  induction operations generalizing store with
  | nil => exact start
  | cons operation operations inductionHypothesis =>
      refine inductionHypothesis (fun member => declare (List.mem_cons_of_mem _ member)) ?_
      cases operation with
      | declare spec => exact declare List.mem_cons_self start
      | commit table changes =>
          unfold Operation.apply
          dsimp only
          split
          case h_1 committed => exact kept committed start
          case h_2 => exact start
      | clear => exact clear start
      | load file => exact Snapshot.load_induction kept file (clear start)

/-- Every store that a run ends in is sound. -/
theorem sound_run (operations : List Operation) : (empty.run operations).Sound :=
  run_induction (P := Sound) (fun _ sound => sound.declare _) (fun committed sound => sound.commit committed)
    (fun sound => sound_clear sound.distinct) sound_empty

/-- Every table of a run was declared in it. -/
theorem declared_of_mem_run (operations : List Operation) :
    ∀ table ∈ (empty.run operations).tables, Operation.declare table.spec ∈ operations := by
  refine run_induction
    (P := fun store => ∀ table ∈ store.tables, Operation.declare table.spec ∈ operations)
    ?_ ?_ ?_ (by simp [empty])
  · intro store spec declared each
    unfold Store.declare
    split
    case h_1 => exact each
    case h_2 =>
        intro table member
        rcases List.mem_append.mp member with earlier | last
        · exact each table earlier
        · cases List.mem_singleton.mp last
          exact declared
  · intro store after name changes written committed each table member
    obtain ⟨old, next, found, applied, rfl⟩ := commit_eq_ok.mp committed
    rcases mem_put member with rfl | earlier
    · rw [Table.spec_applyAll applied]
      exact each old (mem_of_find? found)
    · exact each table earlier
  · intro store each table member
    obtain ⟨old, inStore, rfl⟩ := List.mem_map.mp member
    exact each old inStore

/--
Every table that can be reached is well-formed: each row has a cell for every column, in
their order, with a value in storage form or, in a nullable column, none; no two rows
agree on a unique constraint; and row numbers grow along the rows, below the next one.
-/
theorem wellFormed_of_mem_run {operations : List Operation}
    (distinct : ∀ spec, Operation.declare spec ∈ operations →
      (spec.columns.map Column.name).Nodup) :
    ∀ table ∈ (empty.run operations).tables, table.WellFormed := by
  intro table member
  have sound := (sound_run operations).tables table member
  exact sound.wellFormed (distinct table.spec (declared_of_mem_run operations table member))

/-- A run in which a second row of the same key is refused. -/
theorem wellFormed_of_mem_run_country :
    let spec : Spec := ⟨"country", [⟨"code", .text, false⟩, ⟨"since", .date, true⟩], ["code"], []⟩
    let row : Row := [("code", .text "IT"), ("since", .text "1861-3-17")]
    let operations : List Operation :=
      [.declare spec, .commit "country" [.insert row], .commit "country" [.insert row]]
    (empty.run operations).tables.map (fun table => table.rows.map StoredRow.rowid) = [[1]] ∧
      ∀ table ∈ (empty.run operations).tables, table.WellFormed := by
  refine ⟨by decide, wellFormed_of_mem_run fun spec declared => ?_⟩
  simp only [List.mem_cons, Operation.declare.injEq, reduceCtorEq, List.not_mem_nil, or_false] at declared
  rw [declared]
  decide

end Store

end MovieCatalogue.Storage

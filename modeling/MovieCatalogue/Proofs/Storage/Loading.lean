import MovieCatalogue.Proofs.Storage.Insertions
import MovieCatalogue.Proofs.Storage.Run
import MovieCatalogue.Proofs.Storage.SnapshotText

/-!
Contract: stores that are loaded from files.

Owns: when the tables of a snapshot are restored in a store without rows and what is in it then;
and that loading either takes the whole file or leaves no rows at all, whatever the store had in
it before.
Does not own: files that a store was written to; see `Proofs.Storage.Restoring`.
-/

namespace MovieCatalogue.Storage

open MovieCatalogue.Refusal

/-! ## Declarations -/

namespace Store

/-- Two stores have tables of the same declarations, whatever is in them. -/
def SameDeclarations (first second : Store) : Prop :=
  ∀ name, (first.find? name).map Table.spec = (second.find? name).map Table.spec

theorem find?_clear (store : Store) (name : String) :
    store.clear.find? name = (store.find? name).map Table.clear := by
  rw [clear, find?, List.find?_map]
  rfl

theorem SameDeclarations.find?_clear {first second : Store} (same : first.SameDeclarations second)
    (name : String) : first.clear.find? name = second.clear.find? name := by
  have cleared (store : Store) : store.clear.find? name =
      ((store.find? name).map Table.spec).map fun spec => { spec := spec } := by
    rw [Store.find?_clear, Option.map_map]
    rfl
  rw [cleared, cleared, same name]

theorem sameDeclarations_clear (store : Store) : store.clear.SameDeclarations store := by
  intro name
  rw [find?_clear, Option.map_map]
  rfl

theorem SameDeclarations.commit {store after : Store} {name : String} {changes : List Change}
    {written : List Row} (committed : store.commit name changes = .ok (after, written)) :
    after.SameDeclarations store := by
  obtain ⟨table, next, found, applied, rfl⟩ := commit_eq_ok.mp committed
  have sameSpec := Table.spec_applyAll applied
  have named : next.spec.name = name := sameSpec.symm ▸ name_of_find? found
  intro other
  by_cases here : other = name
  · rw [here, find?_put_self found named, found, Option.map_some, sameSpec]
    rfl
  · rw [find?_put_of_ne (named ▸ here)]

end Store

namespace Snapshot

/-! ## One table -/

/-- What a table of this declaration keeps of the items of a file: each of them is an object that the
declaration takes, and no two of the rows that they are stored as collide. -/
structure Restores (spec : Spec) (items : List Json) (stored : List Row) : Prop where
  normal : ∃ rows, items.mapM Row.ofJson = .ok rows ∧ rows.mapM (normalize spec) = .ok stored
  apart : ∀ constraint ∈ spec.constraints,
    stored.Pairwise fun first second => ¬ Collide constraint first second

theorem Restores.unique {spec : Spec} {items : List Json} {stored other : List Row}
    (restores : Restores spec items stored) (again : Restores spec items other) : stored = other := by
  obtain ⟨rows, decoded, normal⟩ := restores.normal
  obtain ⟨otherRows, decodedAgain, normalAgain⟩ := again.normal
  cases decoded.symm.trans decodedAgain
  exact Except.ok.inj (normal.symm.trans normalAgain)

variable {store other after : Store} {entry : String × List Json}

theorem insertion_eq_ok {item : Json} {change : Change} :
    insertion item = .ok change ↔ ∃ row, Row.ofJson item = .ok row ∧ change = .insert row := by
  unfold insertion
  cases Row.ofJson item with
  | error error => simp
  | ok row => simp [eq_comm]

theorem mapM_insertion_eq_ok {items : List Json} {changes : List Change} :
    items.mapM insertion = .ok changes ↔
      ∃ rows, items.mapM Row.ofJson = .ok rows ∧ changes = rows.map .insert := by
  simp only [mapM_eq_ok, insertion_eq_ok]
  constructor
  · intro each
    induction each with
    | nil => exact ⟨[], .nil, rfl⟩
    | cons first _ inductionHypothesis =>
        obtain ⟨row, decoded, rfl⟩ := first
        obtain ⟨rows, others, rfl⟩ := inductionHypothesis
        exact ⟨row :: rows, .cons decoded others, rfl⟩
  · rintro ⟨rows, each, rfl⟩
    exact List.forall₂_map_right_iff.mpr (each.imp fun _ row decoded => ⟨row, decoded, rfl⟩)

/-- A table without rows takes the rows of a file if it keeps all of them. -/
theorem restoreTable_eq_ok
    (noRows : ∀ table, store.find? entry.1 = some table → table.rows = []) :
    restoreTable store entry = .ok after ↔ ∃ table stored, store.find? entry.1 = some table ∧
      Restores table.spec entry.2 stored ∧ after = store.put (table.appendAll stored) := by
  rw [restoreTable, bind_eq_ok]
  constructor
  · rintro ⟨table, found, rest⟩
    obtain ⟨changes, decoded, rest⟩ := bind_eq_ok.mp rest
    obtain ⟨⟨next, stored⟩, committed, built⟩ := bind_eq_ok.mp rest
    cases built
    rw [Store.get_eq_ok] at found
    obtain ⟨held, filled, foundHeld, applied, rfl⟩ := Store.commit_eq_ok.mp committed
    cases found.symm.trans foundHeld
    obtain ⟨rows, decodedRows, rfl⟩ := mapM_insertion_eq_ok.mp decoded
    obtain ⟨normal, apart, rfl⟩ := Table.applyAll_inserts_eq_ok.mp applied
    exact ⟨table, stored, found, ⟨⟨rows, decodedRows, normal⟩,
      fun constraint inSpec => (apart constraint inSpec).1⟩, rfl⟩
  · rintro ⟨table, stored, found, ⟨⟨rows, decoded, normal⟩, apart⟩, rfl⟩
    have apartFromRows : table.Apart stored := fun constraint inSpec =>
      ⟨apart constraint inSpec, by simp [noRows table found]⟩
    have applied := Table.applyAll_inserts_eq_ok.mpr ⟨normal, apartFromRows, rfl⟩
    have committed := Store.commit_eq_ok.mpr ⟨table, _, found, applied, rfl⟩
    exact ⟨table, Store.get_eq_ok.mpr found, bind_eq_ok.mpr ⟨_,
      mapM_insertion_eq_ok.mpr ⟨rows, decoded, rfl⟩, bind_eq_ok.mpr ⟨_, committed, rfl⟩⟩⟩

/-! ## All tables -/

/-- Every table that is named is declared and keeps its items. -/
def Fits (tables : Fields (List Json)) (store : Store) : Prop :=
  ∀ entry ∈ tables, ∃ table stored, store.find? entry.1 = some table ∧
    Restores table.spec entry.2 stored

/-- In the tables that are named there is exactly what they keep of their items; all others are as
they were. -/
structure Filled (tables : Fields (List Json)) (store after : Store) : Prop where
  named : ∀ entry ∈ tables, ∃ table stored, store.find? entry.1 = some table ∧
    Restores table.spec entry.2 stored ∧ after.find? entry.1 = some (table.appendAll stored)
  others : ∀ name ∉ tables.names, after.find? name = store.find? name

section

variable {tables : Fields (List Json)} {table : Table} {stored : List Row}

/-- Filling one table leaves those as they are that are named behind it. -/
private theorem find?_put_of_mem (found : store.find? entry.1 = some table) (stored : List Row)
    (fresh : entry.1 ∉ tables.names) :
    ∀ later ∈ tables, (store.put (table.appendAll stored)).find? later.1 = store.find? later.1 := by
  intro later member
  apply Store.find?_put_of_ne
  rw [Table.spec_appendAll, Store.name_of_find? found]
  intro sameName
  exact fresh (sameName ▸ List.mem_map_of_mem member)

theorem filled_of_restored (distinct : tables.names.Nodup)
    (noRows : ∀ entry ∈ tables, ∀ table, store.find? entry.1 = some table → table.rows = [])
    (restored : tables.foldlM restoreTable store = .ok after) : Filled tables store after := by
  -- The tables that are still to be filled have no rows: no name comes twice.
  induction tables generalizing store with
  | nil =>
      cases restored
      exact ⟨by simp, fun _ _ => rfl⟩
  | cons entry tables inductionHypothesis =>
      rw [Fields.names_cons, List.nodup_cons] at distinct
      rw [List.forall_mem_cons] at noRows
      obtain ⟨next, restoredHere, restoredRest⟩ := bind_eq_ok.mp restored
      obtain ⟨table, stored, found, restores, rfl⟩ := (restoreTable_eq_ok noRows.1).mp restoredHere
      have untouched := find?_put_of_mem found stored distinct.1
      have named : (table.appendAll stored).spec.name = entry.1 := by
        rw [Table.spec_appendAll, Store.name_of_find? found]
      obtain ⟨rest, others⟩ := inductionHypothesis distinct.2
        (fun later member => untouched later member ▸ noRows.2 later member) restoredRest
      refine ⟨List.forall_mem_cons.mpr ⟨⟨table, stored, found, restores, ?_⟩, ?_⟩, ?_⟩
      · rw [others entry.1 distinct.1]
        exact Store.find?_put_self found named
      · intro later member
        rw [← untouched later member]
        exact rest later member
      · intro name fresh
        rw [Fields.names_cons, List.mem_cons, not_or] at fresh
        rw [others name fresh.2, Store.find?_put_of_ne (named ▸ fresh.1)]

theorem exists_restored (distinct : tables.names.Nodup)
    (noRows : ∀ entry ∈ tables, ∀ table, store.find? entry.1 = some table → table.rows = [])
    (fits : Fits tables store) : ∃ after, tables.foldlM restoreTable store = .ok after := by
  induction tables generalizing store with
  | nil => exact ⟨store, rfl⟩
  | cons entry tables inductionHypothesis =>
      rw [Fields.names_cons, List.nodup_cons] at distinct
      rw [Fits, List.forall_mem_cons] at fits
      rw [List.forall_mem_cons] at noRows
      obtain ⟨⟨table, stored, found, restores⟩, fitsRest⟩ := fits
      have restoredHere := (restoreTable_eq_ok noRows.1).mpr ⟨table, stored, found, restores, rfl⟩
      have untouched := find?_put_of_mem found stored distinct.1
      obtain ⟨after, restoredRest⟩ := inductionHypothesis distinct.2
        (fun later member => untouched later member ▸ noRows.2 later member)
        (fun later member => untouched later member ▸ fitsRest later member)
      exact ⟨after, bind_eq_ok.mpr ⟨_, restoredHere, restoredRest⟩⟩

end

/-! ## Files -/

theorem nodup_names_of_readTables {json : Json} {tables : Fields (List Json)}
    (read : readTables json = .ok tables) : tables.names.Nodup := by
  cases json with
  | object members =>
      obtain ⟨found, -, built⟩ := bind_eq_ok.mp read
      cases built
      have sameNames := (List.mergeSort_perm (Fields.collapse found) fun first second =>
        Text.leTexts first.1 second.1).map Prod.fst
      exact sameNames.nodup_iff.mpr (Fields.nodup_names_collapse found)
  | _ => cases read

theorem nodup_names_of_ofText {text : String} {snapshot : Snapshot}
    (read : ofText text = .ok snapshot) : snapshot.tables.names.Nodup := by
  obtain ⟨json, -, readJson⟩ := bind_eq_ok.mp read
  obtain ⟨⟨version, members⟩, -, rest⟩ := bind_eq_ok.mp (mapError_eq_ok.mp readJson)
  obtain ⟨number, -, rest⟩ := bind_eq_ok.mp rest
  obtain ⟨tables, readMembers, built⟩ := bind_eq_ok.mp rest
  split at built
  · cases built
    exact nodup_names_of_readTables readMembers
  · cases built

/-- What a file keeps depends on its bytes in one way, whether they are a text or not. -/
theorem ofFile_ofBytes (bytes : ByteArray) :
    ofFile (.ofBytes bytes) = ofText (Json.textOfBytes bytes) := by
  unfold FileState.ofBytes
  split
  case h_1 s valid =>
      obtain ⟨isValid, ⟨⟩⟩ := Option.dite_none_right_eq_some.mp valid
      exact congrArg ofText (Json.textOfBytes_toUTF8 ⟨bytes, isValid⟩).symm
  case h_2 => rfl

/-- A file has one list of rows for each table that it names. -/
theorem nodup_names_of_ofFile {file : FileState} {snapshot : Snapshot}
    (read : ofFile file = .ok snapshot) : snapshot.tables.names.Nodup := by
  cases file with
  | missing =>
      cases read
      exact List.nodup_nil
  | unreadable => cases read
  | garbled => exact nodup_names_of_ofText read
  | found => exact nodup_names_of_ofText read

/-- Restoring does the same to stores that have the same tables. -/
theorem alike_restore {InSight : String → Prop} {first second : Store}
    (agree : Store.AgreeOn InSight first second) {tables : Fields (List Json)}
    (inSight : ∀ name ∈ tables.names, InSight name) :
    Alike (Store.AgreeOn InSight) (tables.foldlM restoreTable first)
      (tables.foldlM restoreTable second) := by
  induction tables generalizing first second with
  | nil => exact .taken agree
  | cons entry tables inductionHypothesis =>
      rw [Fields.names_cons, List.forall_mem_cons] at inSight
      refine .bind ?_ fun next => inductionHypothesis next inSight.2
      refine .bind (.of_eq (by rw [Store.get, Store.get, agree entry.1 inSight.1])) ?_
      rintro table _ rfl
      refine .bind (.of_eq rfl) ?_
      rintro changes _ rfl
      refine .bind (agree.commit inSight.1 changes) ?_
      rintro ⟨next, written⟩ ⟨otherNext, _⟩ ⟨agreeNext, rfl⟩
      exact .taken agreeNext

/-! ## Loading -/

/-- A store is loaded from a file: either every row of the file is taken, in the order of the file, and
no other rows are left, or there are no rows. -/
structure Loads (store : Store) (file : FileState) (after : Store) (outcome : Except StoreError Nat) :
    Prop where
  declared : after.SameDeclarations store
  taken : (∃ count, outcome = .ok count) ↔
    ∃ snapshot, ofFile file = .ok snapshot ∧ Fits snapshot.tables store
  filled : ∀ count, outcome = .ok count → ∃ snapshot, ofFile file = .ok snapshot ∧
    count = snapshot.rowCount ∧
    (∀ entry ∈ snapshot.tables, ∃ table, after.find? entry.1 = some table ∧
      Restores table.spec entry.2 (table.rows.map StoredRow.cells)) ∧
    ∀ name ∉ snapshot.tables.names, after.find? name = (store.find? name).map Table.clear
  emptied : ∀ error, outcome = .error error →
    ∀ name, after.find? name = (store.find? name).map Table.clear

theorem noRows_clear {store : Store} {name : String} {table : Table}
    (found : store.clear.find? name = some table) : table.rows = [] := by
  rw [Store.find?_clear] at found
  obtain ⟨old, -, rfl⟩ := Option.map_eq_some_iff.mp found
  rfl

theorem Fits.congr {tables : Fields (List Json)} {first second : Store}
    (same : first.SameDeclarations second) (fits : Fits tables first) : Fits tables second := by
  intro entry member
  obtain ⟨table, stored, found, restores⟩ := fits entry member
  have sameSpec := same entry.1
  rw [found, Option.map_some, eq_comm, Option.map_eq_some_iff] at sameSpec
  obtain ⟨other, foundOther, specs⟩ := sameSpec
  exact ⟨other, stored, foundOther, specs ▸ restores⟩

theorem load_eq (store : Store) (file : FileState) :
    (∃ snapshot after, ofFile file = .ok snapshot ∧ snapshot.restore store.clear = .ok after ∧
      load store file = (after, .ok snapshot.rowCount)) ∨
    ∃ error, (∀ snapshot, ofFile file = .ok snapshot → snapshot.restore store.clear = .error error) ∧
      load store file = (store.clear, .error error) := by
  unfold load
  cases ofFile file with
  | error error => exact .inr ⟨error, nofun, rfl⟩
  | ok snapshot =>
      cases restored : snapshot.restore store.clear with
      | error error =>
          refine .inr ⟨error, ?_, by simp [bind, Except.bind, restored]⟩
          rintro _ ⟨⟩
          exact restored
      | ok after =>
          exact .inl ⟨snapshot, after, rfl, restored,
            by simp [bind, Except.bind, restored, pure, Except.pure]⟩

theorem sameDeclarations_of_restored {tables : Fields (List Json)} {store after : Store}
    (restored : tables.foldlM restoreTable store.clear = .ok after) : after.SameDeclarations store :=
  restore_induction (P := fun next => next.SameDeclarations store)
    (fun committed same name => (Store.SameDeclarations.commit committed name).trans (same name))
    restored (Store.sameDeclarations_clear store)

theorem loads (store : Store) (file : FileState) :
    Loads store file (load store file).1 (load store file).2 := by
  have cleared := Store.sameDeclarations_clear store
  rcases load_eq store file with ⟨snapshot, after, read, restored, loaded⟩ | ⟨error, refused, loaded⟩
  · rw [loaded]
    have distinct := nodup_names_of_ofFile read
    obtain ⟨named, others⟩ := filled_of_restored distinct (fun _ _ _ => noRows_clear) restored
    have fits : Fits snapshot.tables store.clear := fun entry member =>
      let ⟨table, stored, found, restores, _⟩ := named entry member
      ⟨table, stored, found, restores⟩
    constructor
    case declared => exact sameDeclarations_of_restored restored
    case taken => exact iff_of_true ⟨_, rfl⟩ ⟨snapshot, read, fits.congr cleared⟩
    case filled =>
      rintro _ ⟨⟩
      refine ⟨snapshot, read, rfl, fun entry member => ?_, fun name fresh => ?_⟩
      · obtain ⟨table, stored, found, restores, filled⟩ := named entry member
        refine ⟨_, filled, ?_⟩
        rw [Table.spec_appendAll, Table.cells_appendAll, noRows_clear found]
        exact restores
      · rw [others name fresh, Store.find?_clear]
    case emptied => exact nofun
  · rw [loaded]
    constructor
    case declared => exact cleared
    case taken =>
      refine iff_of_false nofun ?_
      rintro ⟨snapshot, read, fits⟩
      have fitsCleared := fits.congr fun name => (cleared name).symm
      obtain ⟨after, restored⟩ := exists_restored (nodup_names_of_ofFile read)
        (fun _ _ _ => noRows_clear) fitsCleared
      cases restored.symm.trans (refused snapshot read)
    case filled => exact nofun
    case emptied => exact fun _ _ name => Store.find?_clear store name

theorem alike_load {store other : Store} (same : other.SameDeclarations store) (file : FileState) :
    (load other file).2 = (load store file).2 ∧
      ∀ name, (load other file).1.find? name = (load store file).1.find? name := by
  have cleared : Store.AgreeOn (fun _ => True) other.clear store.clear :=
    fun name _ => same.find?_clear name
  unfold load
  cases ofFile file with
  | error error => exact ⟨rfl, same.find?_clear⟩
  | ok snapshot =>
      have alike : Alike (Store.AgreeOn fun _ => True)
          (snapshot.restore other.clear) (snapshot.restore store.clear) :=
        alike_restore cleared fun _ _ => trivial
      simp only [bind, Except.bind]
      generalize snapshot.restore other.clear = first at alike
      generalize snapshot.restore store.clear = second at alike
      cases alike with
      | refused error => exact ⟨rfl, same.find?_clear⟩
      | taken agree => exact ⟨rfl, fun name => agree name trivial⟩

/--
Loading a file is all or nothing and forgets what was there before. Stores of the same declarations
report the same and have the same tables afterwards, with the same row numbers. Wherever restoring
stops, removing the rows that were restored until then leaves the tables of the declarations without
rows.
-/
theorem load_all_or_nothing {store other : Store} (same : other.SameDeclarations store)
    (file : FileState) :
    (load other file).2 = (load store file).2 ∧
      (∀ name, (load other file).1.find? name = (load store file).1.find? name) ∧
      Loads store file (load store file).1 (load store file).2 ∧
      ∀ tables middle, List.foldlM restoreTable store.clear tables = .ok middle →
        ∀ name, middle.clear.find? name = (store.find? name).map Table.clear := by
  refine ⟨?_, ?_, loads store file, ?_⟩
  · exact (alike_load same file).1
  · exact (alike_load same file).2
  · intro tables middle restored name
    have declared : middle.SameDeclarations store := sameDeclarations_of_restored restored
    rw [declared.find?_clear, Store.find?_clear]

/-- A file with a country and an unknown table is refused, whichever countries were in the store, and
the country of the file is not left in it either. -/
theorem load_all_or_nothing_country :
    let spec : Spec := ⟨"country", [⟨"code", .text, false⟩], ["code"], []⟩
    let store : Store := ⟨[⟨spec, [⟨1, [("code", .text "IT")]⟩], 2⟩]⟩
    let other : Store := ⟨[⟨spec, [⟨4, [("code", .text "FR")]⟩, ⟨7, [("code", .text "DE")]⟩], 9⟩]⟩
    let spain : Row := [("code", .text "ES")]
    let file : FileState := .found (text ⟨[("country", [spain.toJson]), ("film", [])]⟩)
    other.SameDeclarations store ∧ (load other file).2 = .error (.noSuchTable "film") ∧
      (load store file).1.find? "country" = some ⟨spec, [], 1⟩ ∧
      (load other file).1.find? "country" = some ⟨spec, [], 1⟩ := by
  intro spec store other spain file
  have same : other.SameDeclarations store := by
    intro name
    by_cases here : name = "country"
    · subst here
      rfl
    · have fresh : ¬ "country" = name := Ne.symm here
      simp [Store.find?, store, other, spec, fresh]
  have keptRow : spain.Kept :=
    ⟨by decide, by decide, by simpa [spain] using .text "ES"⟩
  have kept : Kept ⟨[("country", [spain.toJson]), ("film", [])]⟩ := by
    refine ⟨by decide, by decide, ?_⟩
    simpa using ⟨spain, keptRow, rfl⟩
  have refused : (load store file).2 = .error (.noSuchTable "film") := by
    rw [load, ofFile, kept.ofText_text]
    rfl
  obtain ⟨sameOutcome, sameTables, loaded, -⟩ := load_all_or_nothing same file
  have emptied := loaded.emptied _ refused "country"
  exact ⟨same, sameOutcome.trans refused, emptied, (sameTables "country").trans emptied⟩

/-- An extended value is taken, and so is a file with a byte of no text in a member that does not
matter. -/
example :
    let spec : Spec := ⟨"user", [⟨"id", .integer, false⟩], ["id"], []⟩
    let note : ByteArray := "\x7b\"note\":\"".toUTF8 ++ ⟨#[255]⟩ ++ "\",".toUTF8
    let rows : String := "[\x7b\"id\":\x7b\"$numberLong\":\"5\"\x7d\x7d]"
    let bytes := note ++ ("\"version\":1,\"tables\":\x7b\"user\":" ++ rows ++ "\x7d\x7d").toUTF8
    FileState.ofBytes bytes = .garbled bytes ∧
      (load ⟨[⟨spec, [], 1⟩]⟩ (.garbled bytes)).2 = .ok 1 := by
  decide +kernel

end Snapshot

end MovieCatalogue.Storage

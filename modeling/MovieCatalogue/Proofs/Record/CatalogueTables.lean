import MovieCatalogue.Proofs.Record.RowDecoding
import MovieCatalogue.Proofs.Storage.Run
import MovieCatalogue.Record.Catalogue

/-!
Contract: stores that hold the catalogue.

Owns: what the descriptions of the nine entities have in common: fields of different
names, keys that are fields, tables of different names; `HoldsCatalogue`, a sound store
with the nine tables; and what follows for any of them: its table is found, and every
row of it is the stored form of a record.
Does not own: how such stores are reached; see `Proofs.Endpoint.Dispatch`.
-/

namespace MovieCatalogue.Record

open MovieCatalogue.Storage

/-! ## The entities -/

theorem nodup_fieldNames {entity : Entity} (member : entity ∈ catalogue) :
    (entity.fields.map Field.name).Nodup := by
  have each : ∀ entity ∈ catalogue, (entity.fields.map Field.name).Nodup := by decide
  exact each entity member

theorem hasField_of_mem_key {entity : Entity} (member : entity ∈ catalogue) {name : String}
    (inKey : name ∈ entity.key) : entity.hasField name = true := by
  have each : ∀ entity ∈ catalogue, ∀ name ∈ entity.key, entity.hasField name = true := by decide
  exact each entity member name inKey

theorem blank_not_mem_of_hasField {entity : Entity} (member : entity ∈ catalogue) {name : String}
    (has : entity.hasField name = true) : ' ' ∉ name.toList := by
  have each : ∀ entity ∈ catalogue, ∀ field ∈ entity.fields, ' ' ∉ field.name.toList := by
    decide +kernel
  obtain ⟨field, inFields, named⟩ := List.any_eq_true.mp has
  exact beq_iff_eq.mp named ▸ each entity member field inFields

/-- Every field has a column. -/
theorem column?_isSome {entity : Entity} {name : String} (has : entity.hasField name = true) :
    (entity.spec.column? name).isSome = true := by
  obtain ⟨field, member, named⟩ := List.any_eq_true.mp has
  exact List.find?_isSome.mpr ⟨field.column, List.mem_map.mpr ⟨field, member, rfl⟩, named⟩

/-- Every column belongs to a field. -/
theorem hasField_of_column? {entity : Entity} {name : String} {column : Column}
    (found : entity.spec.column? name = some column) : entity.hasField name = true := by
  obtain ⟨inSpec, named⟩ := Spec.mem_of_column? found
  obtain ⟨field, inFields, rfl⟩ := List.mem_map.mp inSpec
  exact List.any_eq_true.mpr ⟨field, inFields, beq_iff_eq.mpr named⟩

theorem nodup_columnNames {entity : Entity} (member : entity ∈ catalogue) :
    (entity.spec.columns.map Column.name).Nodup := by
  have sameNames : entity.spec.columns.map Column.name = entity.fields.map Field.name := by
    simp [Entity.spec, Field.column, Function.comp_def]
  exact sameNames ▸ nodup_fieldNames member

/-! ## Stores -/

/-- A sound store with a table for each entity and no others. -/
structure HoldsCatalogue (store : Store) : Prop where
  sound : store.Sound
  specs : store.tables.map Table.spec = catalogue.map Entity.spec

theorem holdsCatalogue_emptyStore : HoldsCatalogue emptyStore where
  sound := by
    have declared (specs : List Spec) {store : Store} (sound : store.Sound) :
        (specs.foldl (fun store spec => (store.declare spec).1) store).Sound := by
      induction specs generalizing store with
      | nil => exact sound
      | cons spec specs inductionHypothesis => exact inductionHypothesis (sound.declare spec)
    exact declared _ Store.sound_empty
  specs := by decide

variable {store after : Store} {entity : Entity}

theorem HoldsCatalogue.commit (holds : HoldsCatalogue store) {name : String}
    {changes : List Change} {written : List Row}
    (committed : store.commit name changes = .ok (after, written)) : HoldsCatalogue after := by
  refine ⟨holds.sound.commit committed, ?_⟩
  obtain ⟨table, next, found, applied, rfl⟩ := Store.commit_eq_ok.mp committed
  rw [Store.specs_put holds.sound.distinct (Store.mem_of_find? found) (Table.spec_applyAll applied)]
  exact holds.specs

theorem HoldsCatalogue.load (holds : HoldsCatalogue store) (file : FileState) :
    HoldsCatalogue (Snapshot.load store file).1 := by
  refine Snapshot.load_induction (fun committed holds => holds.commit committed) file ?_
  refine ⟨Store.sound_clear holds.sound.distinct, ?_⟩
  rw [← holds.specs]
  simp [Store.clear, Table.clear, Function.comp_def]

/-- The table of an entity is there. -/
theorem HoldsCatalogue.find? (holds : HoldsCatalogue store) (member : entity ∈ catalogue) :
    ∃ table, store.find? entity.table = some table ∧ table.spec = entity.spec := by
  have inSpecs : entity.spec ∈ store.tables.map Table.spec := by
    rw [holds.specs]
    exact List.mem_map.mpr ⟨entity, member, rfl⟩
  obtain ⟨table, inStore, sameSpec⟩ := List.mem_map.mp inSpecs
  have named : table.spec.name = entity.table := by rw [sameSpec]; rfl
  exact ⟨table, named ▸ Store.find?_of_mem holds.sound.distinct inStore, sameSpec⟩

/-- The table that is found for an entity is declared for it and well-formed. -/
theorem HoldsCatalogue.wellFormed (holds : HoldsCatalogue store) (member : entity ∈ catalogue)
    {table : Table} (found : store.find? entity.table = some table) :
    table.spec = entity.spec ∧ table.WellFormed := by
  obtain ⟨other, otherFound, sameSpec⟩ := holds.find? member
  cases found.symm.trans otherFound
  have sound := holds.sound.tables table (Store.mem_of_find? found)
  exact ⟨sameSpec, sound.wellFormed (sameSpec ▸ nodup_columnNames member)⟩

/-- Every row of the table of an entity is in the form that the entity describes. -/
theorem HoldsCatalogue.rowHolds (holds : HoldsCatalogue store) (member : entity ∈ catalogue)
    {table : Table} (found : store.find? entity.table = some table) {row : StoredRow}
    (inTable : row ∈ table.rows) : entity.spec.Holds row.cells := by
  obtain ⟨sameSpec, wellFormed⟩ := holds.wellFormed member found
  exact sameSpec ▸ wellFormed.holds row inTable

/-- A row in this form is stored for one record, whatever the time at which it is decoded. -/
theorem exists_record (member : entity ∈ catalogue) {row : Row} (held : entity.spec.Holds row) :
    ∃ record, entity.toRow record = row ∧ ∀ now, entity.ofRow now row = .ok record := by
  have decodes (now : Int64) := Entity.ofRow_of_holds now (nodup_fieldNames member) held
  obtain ⟨record, -, stored⟩ := decodes 0
  refine ⟨record, stored, fun now => ?_⟩
  obtain ⟨other, decoded, otherStored⟩ := decodes now
  rw [decoded, Contents.toRow_injective entity.fields (otherStored.trans stored.symm)]

theorem exists_ofRow (member : entity ∈ catalogue) {row : Row} (held : entity.spec.Holds row)
    (now : Int64) : ∃ record, entity.ofRow now row = .ok record := by
  obtain ⟨record, -, decodes⟩ := exists_record member held
  exact ⟨record, decodes now⟩

end MovieCatalogue.Record

import MovieCatalogue.Proofs.Storage.Soundness
import MovieCatalogue.Storage.Store

/-!
Contract: tables under their names.

Owns: how a table is found in a store, before and after another one is put in its
place; exactly what a commit does; that it does the same to stores that agree on the table;
and when a query is answered.
Does not own: what is true of the tables; see `Proofs.Storage.Run`.
-/

namespace MovieCatalogue.Storage

open MovieCatalogue.Refusal MovieCatalogue.Selection

/-- All columns that a query names are columns of the table. -/
def Table.Knows (table : Table) (query : Query) : Prop :=
  ∀ field ∈ query.fields, (table.spec.column? field).isSome = true

namespace Store

variable {store after : Store} {name : String} {written : List Row}

/-! ## Finding -/

theorem get_eq_ok {table : Table} : store.get name = .ok table ↔ store.find? name = some table := by
  unfold get
  split
  case h_1 found => simp [found]
  case h_2 notFound => simp [notFound]

theorem name_of_find? {table : Table} (found : store.find? name = some table) :
    table.spec.name = name := by
  simpa using List.find?_some found

theorem mem_of_find? {table : Table} (found : store.find? name = some table) :
    table ∈ store.tables :=
  List.mem_of_find?_eq_some found

/-- Tables under different names are determined by them. -/
theorem eq_of_name_eq (distinct : (store.tables.map fun table => table.spec.name).Nodup)
    {first second : Table} (firstMember : first ∈ store.tables) (secondMember : second ∈ store.tables)
    (sameName : first.spec.name = second.spec.name) : first = second :=
  List.inj_on_of_nodup_map distinct firstMember secondMember sameName

theorem find?_of_mem (distinct : (store.tables.map fun table => table.spec.name).Nodup)
    {table : Table} (member : table ∈ store.tables) :
    store.find? table.spec.name = some table := by
  cases found : store.find? table.spec.name with
  | none => exact absurd (beq_self_eq_true _) (List.find?_eq_none.mp found table member)
  | some other =>
      rw [eq_of_name_eq distinct (mem_of_find? found) member (name_of_find? found)]

theorem find?_eq_none :
    store.find? name = none ↔ name ∉ store.tables.map fun table => table.spec.name := by
  constructor
  · intro notFound taken
    obtain ⟨table, member, named⟩ := List.mem_map.mp taken
    exact List.find?_eq_none.mp notFound table member (beq_iff_eq.mpr named)
  · intro fresh
    cases found : store.find? name with
    | none => rfl
    | some table =>
        exact absurd (List.mem_map.mpr ⟨table, mem_of_find? found, name_of_find? found⟩) fresh

/-- Stores of the same declarations have tables of the same names. -/
theorem perm_names {other : Store}
    (sameSpecs : (other.tables.map Table.spec).Perm (store.tables.map Table.spec)) :
    (other.tables.map fun table => table.spec.name).Perm
      (store.tables.map fun table => table.spec.name) := by
  have names := sameSpecs.map Spec.name
  rwa [List.map_map, List.map_map] at names

/-! ## Putting -/

theorem mem_put {table other : Table} (member : other ∈ (store.put table).tables) :
    other = table ∨ other ∈ store.tables := by
  obtain ⟨old, inStore, rfl⟩ := List.mem_map.mp member
  split
  · exact .inl rfl
  · exact .inr inStore

theorem names_put (store : Store) (table : Table) :
    (store.put table).tables.map (fun table => table.spec.name) =
      store.tables.map fun table => table.spec.name := by
  rw [put, List.map_map]
  refine List.map_congr_left fun old _ => ?_
  dsimp only [Function.comp]
  split
  case isTrue same => exact (beq_iff_eq.mp same).symm
  case isFalse => rfl

/-- A table that is put in the place of one with the same declaration changes no declaration. -/
theorem specs_put (distinct : (store.tables.map fun table => table.spec.name).Nodup)
    {table next : Table} (member : table ∈ store.tables) (sameSpec : next.spec = table.spec) :
    (store.put next).tables.map Table.spec = store.tables.map Table.spec := by
  rw [put, List.map_map]
  refine List.map_congr_left fun old inStore => ?_
  dsimp only [Function.comp]
  split
  case isTrue same =>
      rw [sameSpec] at same ⊢
      rw [eq_of_name_eq distinct inStore member (beq_iff_eq.mp same)]
  case isFalse => rfl

theorem find?_put_self {table next : Table} (found : store.find? name = some table)
    (sameName : next.spec.name = name) : (store.put next).find? name = some next := by
  subst sameName
  have here : (fun old : Table => old.spec.name == next.spec.name) ∘
      (fun old => if old.spec.name == next.spec.name then next else old) =
        fun old => old.spec.name == next.spec.name := by
    funext old
    by_cases same : old.spec.name = next.spec.name <;> simp [same]
  have named := name_of_find? found
  rw [find?] at found
  rw [find?, put, List.find?_map, here, found]
  simp [named]

theorem find?_put_of_ne {next : Table} (other : name ≠ next.spec.name) :
    (store.put next).find? name = store.find? name := by
  have here : (fun old : Table => old.spec.name == name) ∘
      (fun old => if old.spec.name == next.spec.name then next else old) =
        fun old => old.spec.name == name := by
    funext old
    by_cases same : old.spec.name = next.spec.name <;> simp [same]
  rw [find?, put, List.find?_map, here]
  change (store.find? name).map _ = store.find? name
  cases found : store.find? name with
  | none => rfl
  | some table =>
      have different : table.spec.name ≠ next.spec.name := name_of_find? found ▸ other
      simp [different]

/-- A store that has changed by one table, which another one had under its name, and by no other. -/
structure ChangedTo (store : Store) (next : Table) (after : Store) : Prop where
  here : after.find? next.spec.name = some next
  elsewhere : ∀ name, name ≠ next.spec.name → after.find? name = store.find? name

theorem changedTo_put {table next : Table} (found : store.find? name = some table)
    (sameName : next.spec.name = name) : store.ChangedTo next (store.put next) where
  here := sameName ▸ find?_put_self found sameName
  elsewhere _ other := find?_put_of_ne other

/-! ## Committing -/

/-- A commit does to the table of its name what the batch does to it. -/
theorem commit_of_find? {table : Table} (found : store.find? name = some table)
    (changes : List Change) : store.commit name changes =
      (table.applyAll changes).map fun result => (store.put result.1, result.2) := by
  simp only [commit, get, found, bind, Except.bind]
  cases table.applyAll changes <;> rfl

/-- A commit puts the table after all changes in the place of the one before. -/
theorem commit_eq_ok {changes : List Change} :
    store.commit name changes = .ok (after, written) ↔
      ∃ table next, store.find? name = some table ∧
        table.applyAll changes = .ok (next, written) ∧ store.put next = after := by
  rw [commit, bind_eq_ok]
  constructor
  · rintro ⟨table, found, rest⟩
    obtain ⟨⟨next, others⟩, applied, built⟩ := bind_eq_ok.mp rest
    cases built
    exact ⟨table, next, get_eq_ok.mp found, applied, rfl⟩
  · rintro ⟨table, next, found, applied, rfl⟩
    exact ⟨table, get_eq_ok.mpr found, bind_eq_ok.mpr ⟨_, applied, rfl⟩⟩

/-- A batch of one change is committed if the change is taken. -/
theorem commit_singleton_eq_ok {change : Change} :
    store.commit name [change] = .ok (after, written) ↔
      ∃ table next, store.find? name = some table ∧
        table.apply change = .ok (next, written) ∧ store.put next = after := by
  have single (table next : Table) : table.applyAll [change] = .ok (next, written) ↔
      table.apply change = .ok (next, written) := by
    rw [Table.applyAll, bind_eq_ok]
    constructor
    · rintro ⟨⟨found, first⟩, applied, built⟩
      cases built
      simpa using applied
    · intro applied
      exact ⟨(next, written), applied, by simp [Table.applyAll, bind, Except.bind, pure, Except.pure]⟩
  simp only [commit_eq_ok, single]

/-- A batch of one change is refused for what the change is refused. -/
theorem commit_singleton_eq_error {table : Table} (found : store.find? name = some table)
    {change : Change} {error : StoreError} (refused : table.apply change = .error error) :
    store.commit name [change] = .error error := by
  rw [commit_of_find? found, map_eq_error]
  exact bind_eq_error.mpr (.inl refused)

/-! ## Agreeing -/

/-- Two stores have the same tables under the names in sight. -/
def AgreeOn (InSight : String → Prop) (first second : Store) : Prop :=
  ∀ name, InSight name → first.find? name = second.find? name

namespace AgreeOn

variable {InSight : String → Prop} {first second : Store}

theorem put (agree : AgreeOn InSight first second) {table next : Table}
    (found : first.find? name = some table) (foundOther : second.find? name = some table)
    (named : next.spec.name = name) : AgreeOn InSight (first.put next) (second.put next) := by
  intro other inSight
  by_cases here : other = name
  · rw [here, find?_put_self found named, find?_put_self foundOther named]
  · rw [find?_put_of_ne (named ▸ here), find?_put_of_ne (named ▸ here)]
    exact agree other inSight

theorem commit (agree : AgreeOn InSight first second) (inSight : InSight name)
    (changes : List Change) :
    Alike (fun result other => AgreeOn InSight result.1 other.1 ∧ result.2 = other.2)
      (first.commit name changes) (second.commit name changes) := by
  unfold Store.commit Store.get
  rw [agree name inSight]
  cases foundOther : second.find? name with
  | none => exact .refused _
  | some table =>
      have found := (agree name inSight).trans foundOther
      simp only [bind, Except.bind]
      cases applied : table.applyAll changes with
      | error error => exact .refused error
      | ok result =>
          have named : result.1.spec.name = name :=
            (Table.spec_applyAll applied).symm ▸ name_of_find? foundOther
          exact .taken ⟨agree.put found foundOther named, rfl⟩

end AgreeOn

/-! ## Answering -/

theorem checkQuery_eq_ok {table : Table} {query : Query} {passed : Unit} :
    table.checkQuery query = .ok passed ↔ table.Knows query := by
  unfold Table.checkQuery
  split
  case h_1 field found =>
      refine ⟨fun impossible => (nomatch impossible), fun known => ?_⟩
      have unknown : (table.spec.column? field).isNone = true := by
        simpa using List.find?_some found
      have column := known field (List.mem_of_find?_eq_some found)
      rw [← Option.not_isNone, unknown] at column
      cases column
  case h_2 noneFound =>
      refine ⟨fun _ field member => ?_, fun _ => rfl⟩
      have column := List.find?_eq_none.mp noneFound field member
      simpa [Option.isSome_iff_ne_none] using column

theorem length_select (table : Table) (query : Query) :
    (table.select query).length = (table.hits query).length := by
  unfold Table.select
  rw [List.length_map]
  split
  · rfl
  · exact List.length_mergeSort _

/-- A query over known columns is counted by the rows that it selects. -/
theorem count_of_find? {table : Table} {query : Query} (found : store.find? query.table = some table)
    (known : table.Knows query) : store.count query = .ok (table.select query).length := by
  rw [length_select]
  exact bind_eq_ok.mpr ⟨table, get_eq_ok.mpr found,
    bind_eq_ok.mpr ⟨(), checkQuery_eq_ok.mpr known, rfl⟩⟩

/-- A query over known columns is answered with those of the rows that are asked for. -/
theorem fetch_of_find? {table : Table} {query : Query} (found : store.find? query.table = some table)
    (known : table.Knows query) (offset : Nat) :
    store.fetch query offset none = .ok ((table.select query).drop offset) ∧
      ∀ limit, store.fetch query offset (some limit) =
        .ok (((table.select query).drop offset).take limit) := by
  have checked : table.checkQuery query = .ok () := checkQuery_eq_ok.mpr known
  refine ⟨?_, fun limit => ?_⟩
  · exact bind_eq_ok.mpr ⟨table, get_eq_ok.mpr found, bind_eq_ok.mpr ⟨(), checked, rfl⟩⟩
  · exact bind_eq_ok.mpr ⟨table, get_eq_ok.mpr found, bind_eq_ok.mpr ⟨(), checked, rfl⟩⟩

/-- The rows that a query selects are rows of the table. -/
theorem mem_select {table : Table} {query : Query} {row : Row} (member : row ∈ table.select query) :
    ∃ stored ∈ table.rows, stored.cells = row := by
  obtain ⟨stored, inHits, rfl⟩ := List.mem_map.mp member
  refine ⟨stored, ?_, rfl⟩
  split at inHits
  · exact (List.mem_filter.mp inHits).1
  · exact (List.mem_filter.mp (List.mem_mergeSort.mp inHits)).1

end Store

end MovieCatalogue.Storage

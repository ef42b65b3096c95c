import MovieCatalogue.Proofs.Endpoint.Dispatch
import MovieCatalogue.Proofs.Record.Identifier

/-!
Contract: records under their identifiers.

Owns: that the identifier of a stored row finds this row and no other one, however it is
written: rows of one table have different identifiers, reading under one of them gives the
record that lists show for the row, deleting under it removes the row alone, and then
nothing is found under it any more.
Does not own: identifiers that no stored row has.
-/

namespace MovieCatalogue.Endpoint

open MovieCatalogue.Record MovieCatalogue.Refusal MovieCatalogue.Selection MovieCatalogue.Storage

variable {store : Store} {entity : Entity} {table : Table} {before others : List StoredRow}
  {row : StoredRow}

theorem mem_rows_of_elsewhere (rows : table.rows = before ++ row :: others) {other : StoredRow}
    (elsewhere : other ∈ before ++ others) : other ∈ table.rows := by
  rw [rows]
  exact ((List.sublist_cons_self row others).append_left before).subset elsewhere

/-! ## Looking up -/

section

variable (holds : HoldsCatalogue store) (member : entity ∈ catalogue)
  (found : store.find? entity.table = some table)
include holds member found

/-- An identifier that parses finds the first row that has what it asks for. -/
theorem findRow_of_parse {id : String} {identifier : Identifier}
    (parsed : Identifier.parse entity.key id = .ok identifier) :
    findRow entity store id =
      match table.rows.find? fun row => satisfies entity.spec identifier.predicates row.cells with
      | some row => .ok row.cells
      | none => .error (.notFound entity.name) := by
  obtain ⟨sameSpec, -⟩ := holds.wellFormed member found
  have asked : identifierQuery entity id = .ok ⟨entity.table, identifier.predicates, []⟩ := by
    rw [identifierQuery, parsed]
    rfl
  have concerns := concerns_identifierQuery (fun name => hasField_of_mem_key member) asked
  have known : table.Knows ⟨entity.table, identifier.predicates, []⟩ :=
    fun field named => sameSpec ▸ column?_isSome (concerns.fields field named)
  have fetched := (Store.fetch_of_find? found known 0).2 1
  have first : ((table.rows.filter fun row =>
      satisfies entity.spec identifier.predicates row.cells).take 1) =
        (table.rows.find? fun row => satisfies entity.spec identifier.predicates row.cells).toList := by
    rw [← List.head?_filter, List.take_one]
  simp only [findRow, asked, fetched, internally, Except.mapError, bind, Except.bind, Table.select,
    List.isEmpty_nil, ↓reduceIte, List.drop_zero, Table.hits, sameSpec, ← List.map_take, first]
  cases table.rows.find? fun row => satisfies entity.spec identifier.predicates row.cells with
  | none => rfl
  | some row => rfl

section

variable {id : String} {identifier : Identifier}
  (parsed : Identifier.parse entity.key id = .ok identifier)
include parsed

/-- The first row that has what an identifier asks for is found. -/
theorem findRow_of_first (rows : table.rows = before ++ row :: others)
    (hit : satisfies entity.spec identifier.predicates row.cells = true)
    (first : ∀ other ∈ before, satisfies entity.spec identifier.predicates other.cells ≠ true) :
    findRow entity store id = .ok row.cells := by
  have noneBefore : before.find?
      (fun row => satisfies entity.spec identifier.predicates row.cells) = none :=
    List.find?_eq_none.mpr first
  have here : (row :: others).find?
      (fun row => satisfies entity.spec identifier.predicates row.cells) = some row :=
    List.find?_cons_of_pos hit
  rw [findRow_of_parse holds member found parsed, rows, List.find?_append, noneBefore,
    Option.none_or, here]

/-- Nothing is found if no row has what an identifier asks for. -/
theorem findRow_of_none
    (missed : ∀ row ∈ table.rows, satisfies entity.spec identifier.predicates row.cells ≠ true) :
    findRow entity store id = .error (.notFound entity.name) := by
  have noneFound : table.rows.find?
      (fun row => satisfies entity.spec identifier.predicates row.cells) = none :=
    List.find?_eq_none.mpr missed
  rw [findRow_of_parse holds member found parsed, noneFound]

end

/-- The identifier of a row asks for the rows that have its key. -/
theorem exists_parse_identifierOf {wanted : Row} (wantedHolds : entity.spec.Holds wanted) :
    ∃ identifier, Identifier.parse entity.key (entity.identifierOf wanted) = .ok identifier ∧
      ∀ row ∈ table.rows, satisfies entity.spec identifier.predicates row.cells = true ↔
        Key.of entity.spec row.cells = Key.of entity.spec wanted := by
  have distinct := nodup_columnNames member
  have keyed := keyed_of_mem member
  refine ⟨_, Entity.parse_identifierOf distinct wantedHolds keyed, fun row inTable => ?_⟩
  have rowHolds := holds.rowHolds member found inTable
  rw [← Entity.satisfies_keyQuery distinct wantedHolds keyed rowHolds, Identifier.predicates,
    List.map_map]
  rfl

/-- The first row with a key is found under the identifiers with this key. -/
theorem findRow_eq_ok {wanted : Row} (wantedHolds : entity.spec.Holds wanted)
    (rows : table.rows = before ++ row :: others)
    (sameKey : Key.of entity.spec row.cells = Key.of entity.spec wanted)
    (first : ∀ other ∈ before, Key.of entity.spec other.cells ≠ Key.of entity.spec wanted) :
    findRow entity store (entity.identifierOf wanted) = .ok row.cells := by
  obtain ⟨identifier, parsed, satisfied⟩ :=
    exists_parse_identifierOf holds member found wantedHolds
  rw [rows, List.forall_mem_append, List.forall_mem_cons] at satisfied
  obtain ⟨satisfiedBefore, satisfiedHere, -⟩ := satisfied
  refine findRow_of_first holds member found parsed rows (satisfiedHere.mpr sameKey) ?_
  intro other earlier hit
  exact first other earlier ((satisfiedBefore other earlier).mp hit)

/-- Nothing is found under an identifier with a key that no row has. -/
theorem findRow_eq_notFound {wanted : Row} (wantedHolds : entity.spec.Holds wanted)
    (absent : ∀ row ∈ table.rows, Key.of entity.spec row.cells ≠ Key.of entity.spec wanted) :
    findRow entity store (entity.identifierOf wanted) = .error (.notFound entity.name) := by
  obtain ⟨identifier, parsed, satisfied⟩ :=
    exists_parse_identifierOf holds member found wantedHolds
  apply findRow_of_none holds member found parsed
  intro row inTable hit
  exact absent row inTable ((satisfied row inTable).mp hit)

/-! ## Keys in a table -/

variable (rows : table.rows = before ++ row :: others)
include rows

theorem key_ne_of_rows : ∀ other ∈ before ++ others,
    Key.of entity.spec other.cells ≠ Key.of entity.spec row.cells := by
  obtain ⟨sameSpec, wellFormed⟩ := holds.wellFormed member found
  have strict : table.spec.StrictKey := sameSpec ▸ (keyed_of_mem member).strictKey
  rw [← sameSpec]
  exact wellFormed.key_ne strict rows

/-- A row is found under its identifier. -/
theorem findRow_identifierOf :
    findRow entity store (entity.identifierOf row.cells) = .ok row.cells := by
  have here : entity.spec.Holds row.cells := holds.rowHolds member found (by simp [rows])
  exact findRow_eq_ok holds member found here rows rfl fun other earlier =>
    key_ne_of_rows holds member found rows other (List.mem_append_left _ earlier)

/-- A row is the one that its key means. -/
theorem firstWith_of_rows : table.FirstWith (Key.of entity.spec row.cells) before row := by
  obtain ⟨sameSpec, wellFormed⟩ := holds.wellFormed member found
  have keyed := keyed_of_mem member
  have strict : table.spec.StrictKey := sameSpec ▸ keyed.strictKey
  rw [← sameSpec]
  apply wellFormed.firstWith_of_no_reals strict rows
  rw [sameSpec]
  exact keyed.notReal (nodup_columnNames member)

/-! ## Deleting -/

/-- The deletion of the row with a key removes this row and no other one. -/
theorem perform_delete {key : Key} (sameKey : Key.of entity.spec row.cells = key)
    (done : Journal.Event) : perform entity store ⟨.delete key, done⟩ =
      ⟨.ok [], store.put { table with rows := before ++ others },
        [.committed entity.table 1, done]⟩ := by
  subst sameKey
  have deleted : table.delete (Key.of entity.spec row.cells) =
      .ok { table with rows := before ++ others } :=
    Table.delete_eq_ok.mpr
      ⟨before, row, others, rows, firstWith_of_rows holds member found rows, rfl⟩
  exact perform_of_applied found done (by rw [Table.apply, deleted]; rfl)

/-- Deleting a row under its identifier removes this row and no other one. -/
theorem delete_identifierOf : delete entity store (entity.identifierOf row.cells) =
    ⟨.ok (), store.put { table with rows := before ++ others },
      [.committed entity.table 1, .deleted entity.name (entity.identifierOf row.cells)]⟩ := by
  have looked := findRow_identifierOf holds member found rows
  simp [delete, planDelete, looked, bind, Except.bind, pure, Except.pure, carryOut,
    perform_delete holds member found rows rfl, Outcome.andThen]

end

/-! ## Listing -/

theorem list_eq_ok {limits : PageLimits} {clock : Clock} {params : ListParams}
    {page : Page entity.Records} :
    (list entity store limits clock params).answer = .ok page ↔
      ∃ number limit query rows, params.resolve limits = .ok (number, limit) ∧
        Token.buildQuery entity params.filter params.sort = .ok query ∧
        paginate store query number limit = .ok rows ∧
        rows.tryMap (entity.ofRow clock.now) = .ok page := by
  unfold list
  split
  case h_1 refused => simp [Outcome.refused, refused]
  case h_2 number limit resolved =>
      split
      case h_1 refused => simp [Outcome.refused, resolved, refused]
      case h_2 query built =>
          split
          case h_1 refused => simp [resolved, built, refused]
          case h_2 rows answered => simp [resolved, built, answered]

theorem getElem?_tryMap {α β ε : Type} {f : α → Except ε β} {page : Page α} {made : Page β}
    (tried : page.tryMap f = .ok made) {place : Nat} {item : α}
    (here : page.items[place]? = some item) :
    ∃ result, made.items[place]? = some result ∧ f item = .ok result := by
  obtain ⟨results, stepped, rfl⟩ := map_eq_ok.mp tried
  have each := mapM_eq_ok.mp stepped
  obtain ⟨inside, rfl⟩ := List.getElem?_eq_some_iff.mp here
  have insideResults : place < results.length := each.length_eq ▸ inside
  exact ⟨results[place], List.getElem?_eq_getElem insideResults,
    (List.forall₂_iff_get.mp each).2 place inside insideResults⟩

/-- A list shows a row as the record that it is decoded to. -/
theorem exists_shown {limits : PageLimits} {clock : Clock} {params : ListParams}
    {page : Page entity.Records} (listed : (list entity store limits clock params).answer = .ok page)
    {cells : Row} {record : entity.Records} (decoded : entity.ofRow clock.now cells = .ok record) :
    ∃ number limit query shown, params.resolve limits = .ok (number, limit) ∧
      Token.buildQuery entity params.filter params.sort = .ok query ∧
      paginate store query number limit = .ok shown ∧
      page.items.length = shown.items.length ∧
      ∀ place : Nat, shown.items[place]? = some cells → page.items[place]? = some record := by
  obtain ⟨number, limit, query, shown, resolved, built, answered, made⟩ := list_eq_ok.mp listed
  refine ⟨number, limit, query, shown, resolved, built, answered, ?_, fun place here => ?_⟩
  · obtain ⟨results, stepped, rfl⟩ := map_eq_ok.mp made
    exact (mapM_eq_ok.mp stepped).length_eq.symm
  · obtain ⟨result, atPlace, decodedHere⟩ := getElem?_tryMap made here
    rw [atPlace, Except.ok.inj (decodedHere.symm.trans decoded)]

/-! ## Addressing -/

/--
The rows of a table have different identifiers. Reading under the identifier of a row gives
the record that is stored as this row, and every page of a list that has the row shows it as
this record. Deleting under the identifier removes the row and no other one, from any table,
and then nothing is found under it.
-/
theorem identifierOf_addresses (reachable : Reachable store) (member : entity ∈ catalogue)
    (found : store.find? entity.table = some table)
    (rows : table.rows = before ++ row :: others) :
    let id := entity.identifierOf row.cells
    let deletion := delete entity store id
    (∀ other ∈ before ++ others, entity.identifierOf other.cells ≠ id) ∧
      (∃ record, entity.toRow record = row.cells ∧
        (∀ clock, read entity store clock id = .ok record) ∧
        ∀ limits clock params page, (list entity store limits clock params).answer = .ok page →
          ∃ number limit query shown, params.resolve limits = .ok (number, limit) ∧
            Token.buildQuery entity params.filter params.sort = .ok query ∧
            paginate store query number limit = .ok shown ∧
            page.items.length = shown.items.length ∧
            ∀ place : Nat, shown.items[place]? = some row.cells →
              page.items[place]? = some record) ∧
      deletion.answer = .ok () ∧
      deletion.store.find? entity.table = some { table with rows := before ++ others } ∧
      (∀ name, name ≠ entity.table → deletion.store.find? name = store.find? name) ∧
      ∀ clock, read entity deletion.store clock id = .error (.notFound entity.name) := by
  intro id deletion
  have holds := reachable.holdsCatalogue
  have here : entity.spec.Holds row.cells := holds.rowHolds member found (by simp [rows])
  have apart := key_ne_of_rows holds member found rows
  have looked : findRow entity store id = .ok row.cells :=
    findRow_identifierOf holds member found rows
  have deleted : deletion = _ := delete_identifierOf holds member found rows
  have named : table.spec.name = entity.table := Store.name_of_find? found
  have foundAfter : deletion.store.find? entity.table =
      some { table with rows := before ++ others } := by
    rw [deleted]
    exact Store.find?_put_self found named
  refine ⟨fun other elsewhere same => ?_, ?_, ?_, foundAfter, fun name different => ?_,
    fun clock => ?_⟩
  · have otherHolds := holds.rowHolds member found (mem_rows_of_elsewhere rows elsewhere)
    exact apart other elsewhere (Entity.key_eq_of_identifierOf_eq (nodup_columnNames member) here
      (keyed_of_mem member) otherHolds same)
  · obtain ⟨record, stored, decodes⟩ := exists_record member here
    refine ⟨record, stored, fun clock => ?_, fun limits clock params page listed =>
      exists_shown listed (decodes clock.now)⟩
    rw [read, looked]
    exact decodes clock.now
  · rw [deleted]
  · rw [deleted]
    exact Store.find?_put_of_ne (named ▸ different)
  · have afterwards : HoldsCatalogue deletion.store :=
      carryOut_induction (fun committed holds => holds.commit committed) entity
        (planDelete entity store id) holds
    rw [read, findRow_eq_notFound afterwards member foundAfter here apart]
    rfl

/-- Of two tags of a movie, the one whose name has underscores. -/
theorem identifierOf_addresses_tag :
    let row (name : String) : Row :=
      [("user", .int64 1), ("movie", .int64 2), ("name", .text name), ("timestamp", .int64 5)]
    let table : Table := ⟨tag.spec, [⟨1, row "based on"⟩, ⟨2, row "based_on_book"⟩], 3⟩
    let id := "1_2_based_on_book"
    let deletion := delete tag (emptyStore.put table) id
    tag.identifierOf (row "based on") ≠ id ∧ deletion.answer = .ok () ∧
      deletion.store.find? "tag" = some { table with rows := [⟨1, row "based on"⟩] } ∧
      ∀ clock, read tag deletion.store clock id = .error (.notFound "Tag") := by
  intro row table id deletion
  have inserted : emptyStore.commit "tag"
      [.insert (row "based on"), .insert (row "based_on_book")] =
        .ok (emptyStore.put table, [row "based on", row "based_on_book"]) :=
    Store.commit_eq_ok.mpr ⟨⟨tag.spec, [], 1⟩, table, rfl, rfl, rfl⟩
  have found : (emptyStore.put table).find? tag.table = some table := rfl
  have reachable : Reachable (emptyStore.put table) := .committed .empty inserted
  have named : tag.identifierOf (row "based_on_book") = id := by decide +kernel
  have member : tag ∈ catalogue := by simp [catalogue]
  have rows : table.rows = [⟨1, row "based on"⟩] ++ ⟨2, row "based_on_book"⟩ :: [] := rfl
  obtain ⟨apart, -, deleted, rest, -, missing⟩ :=
    identifierOf_addresses reachable member found rows
  rw [named] at apart deleted rest missing
  exact ⟨apart ⟨1, row "based on"⟩ List.mem_cons_self, deleted, rest, missing⟩

end MovieCatalogue.Endpoint

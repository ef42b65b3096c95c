import MovieCatalogue.Proofs.Endpoint.Updating

/-!
Contract: updates and deletions in a race with other writes.

Owns: `racedDelete`, a deletion whose look-up and commit are done on two stores; `MergesTo`,
the records that an update makes of the row that it looked up; and what both operations do to
the store that their commit meets. However this store differs from the one of the look-up,
they change the row that has the key which was looked up, wherever it now stands, and no other
one; without such a row they change nothing.
Does not own: which fields an update keeps; see `Proofs.Endpoint.RacedUpdate`.
-/

namespace MovieCatalogue.Endpoint

open MovieCatalogue.Journal MovieCatalogue.Record MovieCatalogue.Storage

/-- A deletion that looks its row up in one store and commits to another one. -/
def racedDelete (entity : Entity) (looked met : Store) (id : String) : Outcome Unit :=
  (carryOut entity met (planDelete entity looked id)).andThen fun _ => .ok ()

/-- Without other requests it is a deletion. -/
theorem racedDelete_self (entity : Entity) (store : Store) (id : String) :
    racedDelete entity store store id = delete entity store id :=
  rfl

/-- The members of a body, all of which name fields, make a record of what a row holds. -/
def MergesTo (entity : Entity) (now : Int64) (row : Row) (body : Json) (record : entity.Records) :
    Prop :=
  ∃ members current, body = .object members ∧
    (∀ member ∈ members, entity.hasField member.1 = true) ∧ entity.toRow current = row ∧
    entity.ofPayload now (Fields.merge (Contents.toMembers entity.fields current) members) =
      .ok record

variable {entity : Entity} {looked met : Store} {table : Table} {clock : Clock} {id : String}
  {body : Json} {row : Row} {record : entity.Records}

/-! ## Plans -/

theorem racedDelete_of_findRow (found : findRow entity looked id = .ok row) :
    racedDelete entity looked met id =
      (perform entity met ⟨.delete (Key.of entity.spec row), .deleted entity.name id⟩).andThen
        fun _ => .ok () := by
  rw [racedDelete, planDelete, found]
  rfl

theorem MergesTo.planUpdate_eq (merges : MergesTo entity clock.now row body record)
    (member : entity ∈ catalogue) (found : findRow entity looked id = .ok row) :
    planUpdate entity looked clock id body =
      .ok ⟨.replace (Key.of entity.spec row) (entity.toRow record), .updated entity.name id⟩ := by
  obtain ⟨members, current, object, known, rfl, decoded⟩ := merges
  rw [planUpdate_of_findRow member object known found, decoded]
  rfl

/-! ## Keys that no row has -/

section

variable (holds : HoldsCatalogue met) (member : entity ∈ catalogue)
  (found : met.find? entity.table = some table) (rowHolds : entity.spec.Holds row)
  (absent : ∀ other ∈ table.rows, Key.of entity.spec other.cells ≠ Key.of entity.spec row)
include holds member found rowHolds absent

/-- No row is deleted or replaced, or written anew, under a key that none has. -/
theorem perform_of_absent (done : Event) :
    perform entity met ⟨.delete (Key.of entity.spec row), done⟩ =
        .refused met (.notFound entity.name) ∧
      ∀ cells, perform entity met ⟨.replace (Key.of entity.spec row) cells, done⟩ =
        .refused met (.notFound entity.name) := by
  obtain ⟨sameSpec, -⟩ := holds.wellFormed member found
  have different : ∀ held ∈ table.rows,
      (Key.of table.spec held.cells).same (Key.of entity.spec row) = false := by
    intro held inTable
    have heldHolds := holds.rowHolds member found inTable
    rw [sameSpec, Bool.eq_false_iff, ne_eq, Entity.key_same_iff (nodup_columnNames member) rowHolds
      (keyed_of_mem member) heldHolds]
    exact absent held inTable
  obtain ⟨deletion, replacement⟩ := Table.apply_eq_rowNotFound different
  exact ⟨perform_of_refused found done deletion,
    fun cells => perform_of_refused found done (replacement cells)⟩

theorem racedDelete_of_absent (foundRow : findRow entity looked id = .ok row) :
    racedDelete entity looked met id = .refused met (.notFound entity.name) := by
  rw [racedDelete_of_findRow foundRow,
    (perform_of_absent holds member found rowHolds absent _).1]
  rfl

theorem racedUpdate_of_absent (foundRow : findRow entity looked id = .ok row)
    (merges : MergesTo entity clock.now row body record) :
    racedUpdate entity looked met clock id body = .refused met (.notFound entity.name) := by
  rw [racedUpdate, merges.planUpdate_eq member foundRow, carryOut,
    (perform_of_absent holds member found rowHolds absent _).2]
  rfl

end

/-! ## Keys that a row has -/

section

variable {before others : List StoredRow} {old : StoredRow}
  (holds : HoldsCatalogue met) (member : entity ∈ catalogue)
  (found : met.find? entity.table = some table) (rows : table.rows = before ++ old :: others)
  (sameKey : Key.of entity.spec old.cells = Key.of entity.spec row)
  (foundRow : findRow entity looked id = .ok row)
include holds member found rows sameKey foundRow

theorem racedDelete_of_held :
    (racedDelete entity looked met id).answer = .ok () ∧
      met.ChangedTo { table with rows := before ++ others }
        (racedDelete entity looked met id).store := by
  have named : table.spec.name = entity.table := Store.name_of_find? found
  rw [racedDelete_of_findRow foundRow, perform_delete holds member found rows sameKey]
  exact ⟨rfl, Store.changedTo_put found named⟩

theorem racedUpdate_of_held (merges : MergesTo entity clock.now row body record)
    (free : ¬ Collides entity (before ++ others) (entity.toRow record)) :
    (racedUpdate entity looked met clock id body).answer = .ok record ∧
      met.ChangedTo { table with
          rows := before ++ { old with cells := entity.toRow record } :: others }
        (racedUpdate entity looked met clock id body).store := by
  have named : table.spec.name = entity.table := Store.name_of_find? found
  have planned := merges.planUpdate_eq member foundRow
  rw [racedUpdate_of_free holds member found rows sameKey planned free]
  exact ⟨rfl, Store.changedTo_put found named⟩

end

/-! ## Races -/

/--
An update or a deletion looks a row up in one reachable store and commits to another one. If no row
of that store has the key of the row that was looked up, nothing is found and nothing is changed: the
row is not written anew. Otherwise just one row has the key, wherever it stands and whatever else it
holds. A deletion removes this row; an update puts the row of the merged record in its place, unless
this collides with another row, and then nothing is changed. All other rows and tables stay as they
are.
-/
theorem races_with_writes (reachableLooked : Reachable looked) (reachableMet : Reachable met)
    (member : entity ∈ catalogue) (foundRow : findRow entity looked id = .ok row)
    (found : met.find? entity.table = some table) :
    let key := Key.of entity.spec row
    let deleted := racedDelete entity looked met id
    ((∀ other ∈ table.rows, Key.of entity.spec other.cells ≠ key) →
        deleted = .refused met (.notFound entity.name) ∧
        ∀ clock body record, MergesTo entity clock.now row body record →
          racedUpdate entity looked met clock id body =
            .refused met (.notFound entity.name)) ∧
      ∀ before old others, table.rows = before ++ old :: others →
        Key.of entity.spec old.cells = key →
        (∀ other ∈ before ++ others, Key.of entity.spec other.cells ≠ key) ∧
        deleted.answer = .ok () ∧
        met.ChangedTo { table with rows := before ++ others } deleted.store ∧
        ∀ clock body record, MergesTo entity clock.now row body record →
          let updated := racedUpdate entity looked met clock id body
          (¬ Collides entity (before ++ others) (entity.toRow record) →
            updated.answer = .ok record ∧
            met.ChangedTo { table with
              rows := before ++ { old with cells := entity.toRow record } :: others }
                updated.store) ∧
          (Collides entity (before ++ others) (entity.toRow record) →
            updated = .refused met (.alreadyExists entity.name)) := by
  intro key deleted
  have holds := reachableMet.holdsCatalogue
  have rowHolds := (findRow_spec reachableLooked.holdsCatalogue member id).2 row foundRow
  refine ⟨fun absent => ⟨?_, fun clock body record merges => ?_⟩,
    fun before old others rows sameKey => ?_⟩
  · exact racedDelete_of_absent holds member found rowHolds absent foundRow
  · exact racedUpdate_of_absent holds member found rowHolds absent foundRow merges
  · have alone := key_ne_of_rows holds member found rows
    obtain ⟨answered, removed⟩ := racedDelete_of_held holds member found rows sameKey foundRow
    refine ⟨fun other elsewhere same => alone other elsewhere (same.trans sameKey.symm), answered,
      removed, fun clock body record merges => ⟨fun free => ?_, fun taken => ?_⟩⟩
    · exact racedUpdate_of_held holds member found rows sameKey foundRow merges free
    · exact racedUpdate_of_taken holds member found rows sameKey
        (merges.planUpdate_eq member foundRow) taken

/-- While a rating is updated or deleted, it is deleted, or given anew after another one. -/
theorem races_with_writes_rating :
    let row (movie : Int64) (stars : Int) : Row :=
      [("user", .int64 1), ("movie", .int64 movie), ("rating", .real (.ofInt stars)),
        ("timestamp", .int64 5)]
    let rated (rows : List StoredRow) (next : Nat) : Store := emptyStore.put ⟨rating.spec, rows, next⟩
    let looked := rated [⟨1, row 2 2⟩] 2
    let met := rated [⟨1, row 3 1⟩, ⟨2, row 2 4⟩] 3
    let clock : Clock := ⟨0, .zero, .zero, 0⟩
    let body : Json := .object [("rating", .int 3)]
    racedDelete rating looked emptyStore "1_2" = .refused emptyStore (.notFound "Rating") ∧
      racedUpdate rating looked emptyStore clock "1_2" body =
        .refused emptyStore (.notFound "Rating") ∧
      (racedDelete rating looked met "1_2").store.find? "rating" =
        some ⟨rating.spec, [⟨1, row 3 1⟩], 3⟩ ∧
      (racedUpdate rating looked met clock "1_2" body).store.find? "rating" =
        some ⟨rating.spec, [⟨1, row 3 1⟩, ⟨2, row 2 3⟩], 3⟩ := by
  intro row rated looked met clock body
  have insertLooked : emptyStore.commit "rating" [.insert (row 2 2)] = .ok (looked, [row 2 2]) :=
    Store.commit_eq_ok.mpr ⟨⟨rating.spec, [], 1⟩, _, rfl, rfl, rfl⟩
  have insertMet : emptyStore.commit "rating" [.insert (row 3 1), .insert (row 2 4)] =
      .ok (met, [row 3 1, row 2 4]) :=
    Store.commit_eq_ok.mpr ⟨⟨rating.spec, [], 1⟩, ⟨rating.spec, [⟨1, row 3 1⟩, ⟨2, row 2 4⟩], 3⟩, rfl,
      rfl, rfl⟩
  have member : rating ∈ catalogue := by simp [catalogue]
  have foundRow : findRow rating looked "1_2" = .ok (row 2 2) := rfl
  let record (stars : Int) : rating.Records :=
    ((1 : Int64), (2 : Int64), Number.Binary64.ofInt stars, (5 : Int64), ())
  have merges : MergesTo rating clock.now (row 2 2) body (record 3) :=
    ⟨_, record 2, rfl, by decide, rfl, rfl⟩
  have free : ¬ Collides rating ([⟨1, row 3 1⟩] ++ []) (rating.toRow (record 3)) := by
    rintro ⟨constraint, inSpec, held, elsewhere, collide⟩
    cases List.mem_singleton.mp inSpec
    cases List.mem_singleton.mp elsewhere
    have sameMovie := (collide "movie" (by decide)).2.2
    revert sameMovie
    decide
  obtain ⟨vanished, -⟩ :=
    races_with_writes (.committed .empty insertLooked) .empty member foundRow rfl
  obtain ⟨notDeleted, notUpdated⟩ := vanished (List.forall_mem_nil _)
  obtain ⟨-, moved⟩ := races_with_writes (.committed .empty insertLooked)
    (.committed .empty insertMet) member foundRow rfl
  have key (stars : Int) : Key.of rating.spec (row 2 stars) = [.int64 1, .int64 2] := rfl
  obtain ⟨-, -, deleted, updated⟩ :=
    moved [⟨1, row 3 1⟩] ⟨2, row 2 4⟩ [] rfl ((key 4).trans (key 2).symm)
  exact ⟨notDeleted, notUpdated clock body _ merges, deleted.here,
    ((updated clock body _ merges).1 free).2.here⟩

end MovieCatalogue.Endpoint

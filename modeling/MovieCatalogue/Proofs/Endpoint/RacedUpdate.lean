import Mathlib.Logic.Relation
import MovieCatalogue.Proofs.Endpoint.Dispatch
import MovieCatalogue.Proofs.Record.Identifier
import MovieCatalogue.Proofs.Record.StoredRecords

/-!
Contract: updates in a race.

Owns: `racedUpdate`, an update whose two steps, the look-up of a row and the commit of the
row that replaces it, are done on two stores, as other requests have committed in between;
and what it leaves: the row under the key has the fields that the body names, and in all
other fields what was there when the row was looked up.
Does not own: updates that are refused.
-/

namespace MovieCatalogue.Endpoint

open MovieCatalogue.Number MovieCatalogue.Record MovieCatalogue.Refusal MovieCatalogue.Selection
  MovieCatalogue.Storage

def CommitsTo (store after : Store) : Prop :=
  ∃ name changes written, store.commit name changes = .ok (after, written)

/-- An update that looks its row up in one store and commits to another one. -/
def racedUpdate (entity : Entity) (looked met : Store) (clock : Clock) (id : String) (body : Json) :
    Outcome entity.Records :=
  (carryOut entity met (planUpdate entity looked clock id body)).andThen
    (writtenRecord entity clock)

/-- Without other requests it is an update. -/
theorem racedUpdate_self (entity : Entity) (store : Store) (clock : Clock) (id : String)
    (body : Json) :
    racedUpdate entity store store clock id body = update entity store clock id body :=
  rfl

variable {entity : Entity} {looked met : Store} {clock : Clock} {id : String} {body : Json}

theorem holdsCatalogue_of_commits (holds : HoldsCatalogue looked)
    (commits : Relation.ReflTransGen CommitsTo looked met) : HoldsCatalogue met := by
  induction commits with
  | refl => exact holds
  | tail _ step inductionHypothesis =>
      obtain ⟨name, changes, written, committed⟩ := step
      exact inductionHypothesis.commit committed

/-- A plan that was carried out with success was committed, and what was written is answered. -/
theorem exists_commit_of_carryOut {α : Type} {plan : Except RequestError Work}
    {finish : List Row → Except RequestError α} {answer : α}
    (succeeds : ((carryOut entity met plan).andThen finish).answer = .ok answer) :
    ∃ work after written, plan = .ok work ∧
      met.commit entity.table [work.change] = .ok (after, written) ∧
      ((carryOut entity met plan).andThen finish).store = after ∧ finish written = .ok answer := by
  cases plan with
  | error error => cases succeeds
  | ok work =>
      unfold carryOut perform Session.commit at succeeds ⊢
      cases committed : met.commit entity.table [work.change] with
      | error error =>
          simp [committed, Outcome.andThen, Outcome.refused, bind, Except.bind] at succeeds
      | ok result =>
          refine ⟨work, result.1, result.2, rfl, committed, ?_, ?_⟩
          · simp [committed, Outcome.andThen, bind, Except.bind, pure, Except.pure]
          · simpa [committed, Outcome.andThen, bind, Except.bind, pure, Except.pure] using succeeds

/-- An update plans to replace the row that it found by that of a merged record. -/
theorem planUpdate_eq_ok {work : Work}
    (planned : planUpdate entity looked clock id body = .ok work) :
    ∃ changes row current record, body = .object changes ∧ findRow entity looked id = .ok row ∧
      entity.ofRow clock.now row = .ok current ∧
      entity.ofPayload clock.now
        (Fields.merge (Contents.toMembers entity.fields current) changes) = .ok record ∧
      work.change = .replace (Key.of entity.spec row) (entity.toRow record) := by
  obtain ⟨changes, named, rest⟩ := bind_eq_ok.mp planned
  obtain ⟨row, found, rest⟩ := bind_eq_ok.mp rest
  obtain ⟨current, decoded, rest⟩ := bind_eq_ok.mp rest
  obtain ⟨record, merged, built⟩ := bind_eq_ok.mp rest
  cases built
  obtain ⟨isObject, -⟩ := payloadMembers_eq_ok.mp named
  exact ⟨changes, row, current, record, isObject, found, decoded, merged, rfl⟩

/-- A replacement by the row of a record is made in the place of the row with the key. -/
theorem replaced_of_commit (holds : HoldsCatalogue met) (member : entity ∈ catalogue) {row : Row}
    (rowHolds : entity.spec.Holds row) {record : entity.Records} {after : Store}
    {written : List Row} (committed : met.commit entity.table
      [.replace (Key.of entity.spec row) (entity.toRow record)] = .ok (after, written)) :
    ∃ table before old others, met.find? entity.table = some table ∧
      table.rows = before ++ old :: others ∧
      Key.of entity.spec old.cells = Key.of entity.spec row ∧
      after = met.put { table with
        rows := before ++ { old with cells := entity.toRow record } :: others } ∧
      written = [entity.toRow record] := by
  have distinct := nodup_columnNames member
  obtain ⟨table, next, found, applied, rfl⟩ := Store.commit_singleton_eq_ok.mp committed
  obtain ⟨sameSpec, -⟩ := holds.wellFormed member found
  obtain ⟨⟨_, stored⟩, replaced, built⟩ := map_eq_ok.mp applied
  cases built
  obtain ⟨before, old, others, rows, first, normal, -, rfl⟩ := Table.replace_eq_ok.mp replaced
  rw [sameSpec, normalize_toRow member] at normal
  cases normal
  have oldHolds : entity.spec.Holds old.cells := holds.rowHolds member found (by simp [rows])
  have sameKey : Key.of entity.spec old.cells = Key.of entity.spec row :=
    (Entity.key_same_iff distinct rowHolds (keyed_of_mem member) oldHolds).mp (sameSpec ▸ first.1)
  exact ⟨table, before, old, others, found, rows, sameKey, rfl, rfl⟩

theorem writtenRecord_toRow (member : entity ∈ catalogue) (record : entity.Records) :
    writtenRecord entity clock [entity.toRow record] = .ok record :=
  ofRow_toRow member clock.now record

/--
An update that succeeds replaces the row which has the key that it looked up, whatever
other requests committed in between, and leaves all other rows and tables. In a field that
its body does not name the row has the value that was looked up, unless this is a number
that is not finite. So the field keeps its value if no commit in between changed it.
-/
theorem racedUpdate_keeps (reachable : Reachable looked)
    (commits : Relation.ReflTransGen CommitsTo looked met) (member : entity ∈ catalogue)
    {record : entity.Records}
    (succeeds : (racedUpdate entity looked met clock id body).answer = .ok record) :
    let after := (racedUpdate entity looked met clock id body).store
    ∃ changes row table before old others, body = .object changes ∧
      findRow entity looked id = .ok row ∧ met.find? entity.table = some table ∧
      table.rows = before ++ old :: others ∧ Key.of entity.spec old.cells = Key.of entity.spec row ∧
      after.find? entity.table = some { table with
        rows := before ++ { old with cells := entity.toRow record } :: others } ∧
      (∀ name, name ≠ entity.table → after.find? name = met.find? name) ∧
      ∀ field ∈ entity.fields, field.name ∉ Fields.names changes →
        (valueAt row field.name).Finite →
        valueAt (entity.toRow record) field.name = valueAt row field.name ∧
        (valueAt old.cells field.name = valueAt row field.name →
          valueAt (entity.toRow record) field.name = valueAt old.cells field.name) := by
  intro after
  have distinct := nodup_fieldNames member
  have holdsMet := holdsCatalogue_of_commits reachable.holdsCatalogue commits
  obtain ⟨work, _, written, planned, committed, isAfter, answered⟩ :=
    exists_commit_of_carryOut succeeds
  obtain ⟨changes, row, current, merged, isObject, found, decoded, mergedFrom, change⟩ :=
    planUpdate_eq_ok planned
  have rowHolds := (findRow_spec reachable.holdsCatalogue member id).2 row found
  -- The row is the stored form of the record that the changes were merged into.
  obtain ⟨_, decodedAgain, rfl⟩ := Entity.ofRow_of_holds clock.now distinct rowHolds
  cases decoded.symm.trans decodedAgain
  rw [change] at committed
  obtain ⟨table, before, old, others, foundTable, rows, sameKey, rfl, rfl⟩ :=
    replaced_of_commit holdsMet member rowHolds committed
  rw [writtenRecord_toRow member] at answered
  cases answered
  have named : table.spec.name = entity.table := Store.name_of_find? foundTable
  have left : after = _ := isAfter
  refine ⟨changes, _, table, before, old, others, isObject, found, foundTable, rows, sameKey,
    ?_, fun name different => ?_, fun field inFields unnamed finite => ?_⟩
  · rw [left]
    exact Store.find?_put_self foundTable named
  · rw [left]
    exact Store.find?_put_of_ne (named ▸ different)
  · have kept := Entity.valueAt_of_merged distinct mergedFrom inFields unnamed finite
    exact ⟨kept, fun unchanged => kept.trans unchanged.symm⟩

/-- While the rating of a movie is updated, another request sets its time. -/
theorem racedUpdate_keeps_rating :
    let row (time : Int64) : Row :=
      [("user", .int64 1), ("movie", .int64 2), ("rating", .real (.ofInt 2)),
        ("timestamp", .int64 time)]
    let stored (time : Int64) : Store := emptyStore.put ⟨rating.spec, [⟨1, row time⟩], 2⟩
    let raced := racedUpdate rating (stored 5) (stored 9) ⟨0, .zero, .zero, 0⟩ "1_2"
      (.object [("rating", .int 3)])
    ∃ record, raced.answer = .ok record ∧
      raced.store.find? "rating" = some ⟨rating.spec, [⟨1, rating.toRow record⟩], 2⟩ ∧
      valueAt (rating.toRow record) "timestamp" = .int64 5 := by
  intro row stored raced
  have inserted : emptyStore.commit "rating" [.insert (row 5)] = .ok (stored 5, [row 5]) :=
    Store.commit_eq_ok.mpr ⟨⟨rating.spec, [], 1⟩, _, rfl, rfl, rfl⟩
  have replaced : (stored 5).commit "rating" [.replace [.int64 1, .int64 2] (row 9)] =
      .ok (stored 9, [row 9]) :=
    Store.commit_eq_ok.mpr ⟨⟨rating.spec, [⟨1, row 5⟩], 2⟩, ⟨rating.spec, [⟨1, row 9⟩], 2⟩, rfl,
      rfl, rfl⟩
  have succeeds : ∃ record, raced.answer = .ok record := ⟨_, rfl⟩
  obtain ⟨record, answered⟩ := succeeds
  obtain ⟨changes, found, table, before, old, others, isBody, looked, inTable, rows, -, after, -,
      kept⟩ :=
    racedUpdate_keeps (.committed .empty inserted) (.single ⟨_, _, _, replaced⟩)
      (show rating ∈ catalogue by simp [catalogue]) answered
  cases isBody
  cases (rfl : findRow rating (stored 5) "1_2" = .ok (row 5)).symm.trans looked
  cases (rfl : (stored 9).find? rating.table = some ⟨rating.spec, [⟨1, row 9⟩], 2⟩).symm.trans
    inTable
  obtain ⟨rfl, rfl, rfl⟩ : before = [] ∧ ⟨1, row 9⟩ = old ∧ others = [] := by
    cases before with
    | nil => simpa [eq_comm] using rows
    | cons first before => simp at rows
  have inFields : Field.stamped "timestamp" ∈ rating.fields := by simp [rating]
  exact ⟨record, answered, after, (kept _ inFields (by decide) trivial).1⟩

/--
Fields that a body does not name are lost in two ways. The time that another request set
after the row was looked up is overwritten by the earlier one; and an infinite time is
absent after an update, as it has no JSON form.
-/
theorem racedUpdate_overwrites :
    let column (store : Store) (table name : String) : Option (List Value) :=
      (store.find? table).map fun table => table.rows.map fun row => valueAt row.cells name
    let clock : Clock := ⟨0, .zero, .zero, 0⟩
    let row (time : Int64) : Row :=
      [("user", .int64 1), ("movie", .int64 2), ("rating", .real (.ofInt 2)),
        ("timestamp", .int64 time)]
    let rated (time : Int64) : Store := emptyStore.put ⟨rating.spec, [⟨1, row time⟩], 2⟩
    let raced := racedUpdate rating (rated 5) (rated 9) clock "1_2" (.object [("rating", .int 3)])
    let endless : Row :=
      [("id", .int64 1), ("path", .text "/"), ("verb", .text "GET"),
        ("response_status_code", .null), ("start_time", .real .zero),
        ("end_time", .real .infinity), ("with_token", .bool false)]
    let logged : Store := emptyStore.put ⟨requestLog.spec, [⟨1, endless⟩], 2⟩
    let updated := racedUpdate requestLog logged logged clock "1" (.object [("verb", .string "PUT")])
    (Reachable (rated 5) ∧
        (update rating (rated 5) clock "1_2" (.object [("timestamp", .int 9)])).store = rated 9 ∧
        CommitsTo (rated 5) (rated 9) ∧ raced.answer.toOption.isSome = true ∧
        column (rated 9) "rating" "timestamp" = some [.int64 9] ∧
        column raced.store "rating" "timestamp" = some [.int64 5]) ∧
      Reachable logged ∧ updated.answer.toOption.isSome = true ∧
        column logged "request" "end_time" = some [.real .infinity] ∧
        column updated.store "request" "end_time" = some [.null] := by
  intro column clock row rated raced endless logged updated
  have rate : emptyStore.commit "rating" [.insert (row 5)] = .ok (rated 5, [row 5]) :=
    Store.commit_eq_ok.mpr ⟨⟨rating.spec, [], 1⟩, _, rfl, rfl, rfl⟩
  have replaced : (rated 5).commit "rating" [.replace [.int64 1, .int64 2] (row 9)] =
      .ok (rated 9, [row 9]) :=
    Store.commit_eq_ok.mpr ⟨⟨rating.spec, [⟨1, row 5⟩], 2⟩, ⟨rating.spec, [⟨1, row 9⟩], 2⟩, rfl,
      rfl, rfl⟩
  have log : emptyStore.commit "request" [.insert endless] = .ok (logged, [endless]) :=
    Store.commit_eq_ok.mpr ⟨⟨requestLog.spec, [], 1⟩, _, rfl, rfl, rfl⟩
  refine ⟨⟨.committed .empty rate, rfl, ⟨_, _, _, replaced⟩, rfl, rfl, rfl⟩,
    .committed .empty log, rfl, rfl, rfl⟩

end MovieCatalogue.Endpoint

import MovieCatalogue.Proofs.Endpoint.Updating
import MovieCatalogue.Proofs.Storage.Insertions

/-!
Contract: what a creation does.

Owns: `CreateRefused`, the reasons for which a creation is refused, in the order in which they are
looked for; that every other creation appends the row of its record, with what the body gives to
each field; and that the store takes the row of every record that a body decodes to, unless it
collides with another one: the values which the fields decode are the ones that the columns hold.
Does not own: the bytes of a body; see `Proofs.Endpoint.Dispatch`.
-/

namespace MovieCatalogue.Endpoint

open MovieCatalogue.Record MovieCatalogue.Refusal MovieCatalogue.Storage

/-- Why a creation is refused. Each reason says that none of those before it holds: the body is no
object, a member is no field, the members do not decode, or the row collides with a stored one. -/
inductive CreateRefused (entity : Entity) (table : Table) (clock : Clock) (body : Json) :
    RequestError → Prop
  | notObject (other : ∀ members, body ≠ .object members) :
      CreateRefused entity table clock body
        (.invalid (entity.name ++ " payload must be a JSON object"))
  | unknownField {before others : Fields Json} {name : String} {value : Json}
      (object : body = .object (before ++ (name, value) :: others))
      (known : ∀ earlier ∈ before, entity.hasField earlier.1 = true)
      (unknown : entity.hasField name = false) :
      CreateRefused entity table clock body (.unknownField entity.name name)
  | payload {members : Fields Json} {error : DecodeError} (object : body = .object members)
      (known : ∀ member ∈ members, entity.hasField member.1 = true)
      (undecoded : Contents.ofMembers entity.fields clock.now members = .error error) :
      CreateRefused entity table clock body
        (.invalid ("invalid " ++ entity.name ++ " payload: " ++ error.message .payload))
  | collision {members : Fields Json} {record : entity.Records} (object : body = .object members)
      (known : ∀ member ∈ members, entity.hasField member.1 = true)
      (decoded : entity.ofPayload clock.now members = .ok record)
      (taken : Collides entity table.rows (entity.toRow record)) :
      CreateRefused entity table clock body (.alreadyExists entity.name)

variable {store : Store} {entity : Entity} {table : Table} {clock : Clock} {body : Json}
  {members : Fields Json} {record : entity.Records}

/-! ## Plans -/

/-- A creation whose plan is refused changes nothing. -/
theorem create_of_planCreate_error {error : RequestError}
    (refused : planCreate entity clock body = .error error) :
    create entity store clock body = .refused store error := by
  rw [create, refused]
  rfl

theorem planCreate_eq_ok {work : Work} : planCreate entity clock body = .ok work ↔
    ∃ members record, body = .object members ∧
      (∀ member ∈ members, entity.hasField member.1 = true) ∧
      entity.ofPayload clock.now members = .ok record ∧
      work = ⟨.insert (entity.toRow record), .created entity.name entity.idSpec⟩ := by
  rw [planCreate, bind_eq_ok]
  constructor
  · rintro ⟨members, named, rest⟩
    obtain ⟨object, known⟩ := payloadMembers_eq_ok.mp named
    obtain ⟨record, decoded, built⟩ := bind_eq_ok.mp rest
    cases built
    exact ⟨members, record, object, known, decoded, rfl⟩
  · rintro ⟨members, record, object, known, decoded, rfl⟩
    exact ⟨members, payloadMembers_eq_ok.mpr ⟨object, known⟩,
      bind_eq_ok.mpr ⟨record, decoded, rfl⟩⟩

/-! ## The insertion -/

section

variable (holds : HoldsCatalogue store) (member : entity ∈ catalogue)
  (found : store.find? entity.table = some table)
include holds member found

/-- The row of a record that collides with no stored one is appended as it is. -/
theorem apply_insert_of_free (free : ¬ Collides entity table.rows (entity.toRow record)) :
    table.apply (.insert (entity.toRow record)) =
      .ok (table.append (entity.toRow record), [entity.toRow record]) := by
  obtain ⟨sameSpec, -⟩ := holds.wellFormed member found
  have apart := (not_collides_iff sameSpec).mp free
  have normal : normalize table.spec (entity.toRow record) = .ok (entity.toRow record) :=
    sameSpec ▸ normalize_toRow member record
  exact map_eq_ok.mpr ⟨_, Table.insert_eq_ok.mpr ⟨normal, apart, rfl⟩, rfl⟩

/-- The row of a record that collides with a stored one is refused for nothing else. -/
theorem apply_insert_of_taken (taken : Collides entity table.rows (entity.toRow record)) :
    ∃ violated, table.apply (.insert (entity.toRow record)) =
      .error (.uniqueViolation table.spec.name violated) := by
  obtain ⟨sameSpec, -⟩ := holds.wellFormed member found
  obtain ⟨constraint, inSpec, held, inTable, collide⟩ := (collides_iff sameSpec).mp taken
  have normal : normalize table.spec (entity.toRow record) = .ok (entity.toRow record) :=
    sameSpec ▸ normalize_toRow member record
  obtain ⟨violated, refused⟩ := Table.insert_eq_error normal inSpec inTable collide
  exact ⟨violated, map_eq_error.mpr refused⟩

/-- The store refuses no value that a body decodes to. -/
theorem commit_ne_invalidValue {work : Work} (planned : planCreate entity clock body = .ok work)
    (name column reason : String) :
    store.commit entity.table [work.change] ≠ .error (.invalidValue name column reason) := by
  obtain ⟨_, record, -, -, -, rfl⟩ := planCreate_eq_ok.mp planned
  intro refused
  by_cases taken : Collides entity table.rows (entity.toRow record)
  · obtain ⟨violated, refusedInsertion⟩ := apply_insert_of_taken holds member found taken
    rw [Store.commit_singleton_eq_error found refusedInsertion] at refused
    cases refused
  · have committed := Store.commit_singleton_eq_ok.mpr
      ⟨table, _, found, apply_insert_of_free holds member found taken, rfl⟩
    cases committed.symm.trans refused

variable (object : body = .object members)
  (known : ∀ member ∈ members, entity.hasField member.1 = true)
  (decoded : entity.ofPayload clock.now members = .ok record)
include object known decoded

/-- A creation that collides with no row appends the row of its record and answers the record. -/
theorem create_of_free (free : ¬ Collides entity table.rows (entity.toRow record)) :
    create entity store clock body = ⟨.ok record, store.put (table.append (entity.toRow record)),
      [.committed entity.table 1, .created entity.name entity.idSpec]⟩ := by
  have planned := planCreate_eq_ok.mpr ⟨members, record, object, known, decoded, rfl⟩
  have performed := perform_of_applied found (.created entity.name entity.idSpec)
    (apply_insert_of_free holds member found free)
  simp [create, planned, carryOut, performed, Outcome.andThen, Except.bind,
    writtenRecord_toRow member]

/-- A creation that collides with a row is refused, and nothing is written. -/
theorem create_of_taken (taken : Collides entity table.rows (entity.toRow record)) :
    create entity store clock body = .refused store (.alreadyExists entity.name) := by
  have planned := planCreate_eq_ok.mpr ⟨members, record, object, known, decoded, rfl⟩
  obtain ⟨violated, refused⟩ := apply_insert_of_taken holds member found taken
  have performed := perform_of_refused found (.created entity.name entity.idSpec) refused
  simp [create, planned, carryOut, performed, Outcome.andThen, Except.bind, Outcome.refused,
    RequestError.ofStore]

end

/-! ## All creations -/

/-- What refuses a creation is its answer, and nothing is written. -/
theorem create_of_refused (holds : HoldsCatalogue store) (member : entity ∈ catalogue)
    (found : store.find? entity.table = some table) {error : RequestError}
    (refused : CreateRefused entity table clock body error) :
    create entity store clock body = .refused store error := by
  cases refused with
  | notObject other =>
      exact create_of_planCreate_error
        (bind_eq_error.mpr (.inl (payloadMembers_eq_error.mpr (.inl ⟨other, rfl⟩))))
  | unknownField object known unknown =>
      exact create_of_planCreate_error (bind_eq_error.mpr (.inl
        (payloadMembers_eq_error.mpr (.inr ⟨_, _, _, _, object, known, unknown, rfl⟩))))
  | payload object known undecoded =>
      refine create_of_planCreate_error (bind_eq_error.mpr (.inr
        ⟨_, payloadMembers_eq_ok.mpr ⟨object, known⟩, bind_eq_error.mpr (.inl ?_)⟩))
      exact Entity.ofPayload_eq_error.mpr ⟨_, undecoded, rfl⟩
  | collision object known decoded taken =>
      exact create_of_taken holds member found object known decoded taken

/-- A body is refused for one of the reasons, or decodes to a record that collides with no row. -/
theorem createRefused_or_free (entity : Entity) (table : Table) (clock : Clock) (body : Json) :
    (∃ error, CreateRefused entity table clock body error) ∨
      ∃ members record, body = .object members ∧
        (∀ member ∈ members, entity.hasField member.1 = true) ∧
        entity.ofPayload clock.now members = .ok record ∧
        ¬ Collides entity table.rows (entity.toRow record) := by
  cases payload : payloadMembers entity body with
  | error error =>
      rcases payloadMembers_eq_error.mp payload with
        ⟨other, -⟩ | ⟨_, _, _, _, object, known, unknown, -⟩
      · exact .inl ⟨_, .notObject other⟩
      · exact .inl ⟨_, .unknownField object known unknown⟩
  | ok members =>
      obtain ⟨object, known⟩ := payloadMembers_eq_ok.mp payload
      cases decoding : Contents.ofMembers entity.fields clock.now members with
      | error error => exact .inl ⟨_, .payload object known decoding⟩
      | ok record =>
          have decoded := Entity.ofPayload_eq_ok.mpr decoding
          by_cases taken : Collides entity table.rows (entity.toRow record)
          · exact .inl ⟨_, .collision object known decoded taken⟩
          · exact .inr ⟨members, record, object, known, decoded, taken⟩

section

variable (holds : HoldsCatalogue store) (member : entity ∈ catalogue)
  (found : store.find? entity.table = some table)
include holds member found

theorem create_eq_ok : (create entity store clock body).answer = .ok record ↔
    ∃ members, body = .object members ∧
      (∀ member ∈ members, entity.hasField member.1 = true) ∧
      entity.ofPayload clock.now members = .ok record ∧
      ¬ Collides entity table.rows (entity.toRow record) := by
  constructor
  · intro succeeds
    rcases createRefused_or_free entity table clock body with
      ⟨error, refused⟩ | ⟨members, other, object, known, decoded, free⟩
    · rw [create_of_refused holds member found refused] at succeeds
      cases succeeds
    · rw [create_of_free holds member found object known decoded free] at succeeds
      cases succeeds
      exact ⟨members, object, known, decoded, free⟩
  · rintro ⟨members, object, known, decoded, free⟩
    rw [create_of_free holds member found object known decoded free]

theorem create_eq_error {error : RequestError} :
    (create entity store clock body).answer = .error error ↔
      CreateRefused entity table clock body error := by
  constructor
  · intro fails
    rcases createRefused_or_free entity table clock body with
      ⟨other, refused⟩ | ⟨members, record, object, known, decoded, free⟩
    · rw [create_of_refused holds member found refused] at fails
      cases fails
      exact refused
    · rw [create_of_free holds member found object known decoded free] at fails
      cases fails
  · intro refused
    rw [create_of_refused holds member found refused]
    rfl

end

/--
A creation succeeds if and only if all members of its body name fields, the members decode to a
record, and the row of this record collides with no stored one. The table has gained this row at the
end; it holds what the body gives to each field, the record is what it decodes to at any time, and
what is answered. A creation that does not succeed is refused for the first of the reasons, and
changes nothing. The store never refuses a value.
-/
theorem create_appends (reachable : Reachable store) (member : entity ∈ catalogue)
    (found : store.find? entity.table = some table) (clock : Clock) (body : Json) :
    let outcome := create entity store clock body
    (∀ record, outcome.answer = .ok record ↔ ∃ members, body = .object members ∧
        (∀ member ∈ members, entity.hasField member.1 = true) ∧
        entity.ofPayload clock.now members = .ok record ∧
        ¬ Collides entity table.rows (entity.toRow record)) ∧
      (∀ record members, outcome.answer = .ok record → body = .object members →
        store.ChangedTo (table.append (entity.toRow record)) outcome.store ∧
        (∀ now, entity.ofRow now (entity.toRow record) = .ok record) ∧
        ∀ field ∈ entity.fields, field.Filled clock.now
          (members.map fun member => (member.1, Datum.ofJson member.2)) (entity.toRow record)) ∧
      (∀ error, outcome.answer = .error error ↔ CreateRefused entity table clock body error) ∧
      (∀ error, outcome.answer = .error error → outcome.store = store) ∧
      ∀ work, planCreate entity clock body = .ok work → ∀ name column reason,
        store.commit entity.table [work.change] ≠ .error (.invalidValue name column reason) := by
  intro outcome
  have holds := reachable.holdsCatalogue
  have named : table.spec.name = entity.table := Store.name_of_find? found
  refine ⟨fun record => create_eq_ok holds member found,
    fun record members succeeds object => ?_,
    fun error => create_eq_error holds member found, fun error fails => ?_,
    fun work planned => commit_ne_invalidValue holds member found planned⟩
  · obtain ⟨_, sameObject, known, decoded, free⟩ := (create_eq_ok holds member found).mp succeeds
    cases object.symm.trans sameObject
    have left : outcome = _ := create_of_free holds member found object known decoded free
    obtain ⟨_, -, built⟩ := bind_eq_ok.mp (Entity.ofPayload_eq_ok.mp decoded)
    refine ⟨?_, fun now => ofRow_toRow member now record,
      (Contents.build_eq_ok (nodup_fieldNames member)).mp built⟩
    rw [left]
    exact Store.changedTo_put found named
  · have refused := (create_eq_error holds member found).mp fails
    have unchanged : outcome = _ := create_of_refused holds member found refused
    rw [unchanged]
    rfl

/-- A rating is created at the time it is given; of a movie that is rated it is not created. -/
theorem create_appends_rating :
    let row (movie : Int64) (stars : Int) (time : Int64) : Row :=
      [("user", .int64 1), ("movie", .int64 movie), ("rating", .real (.ofInt stars)),
        ("timestamp", .int64 time)]
    let table : Table := ⟨rating.spec, [⟨1, row 2 2 5⟩], 2⟩
    let body (movie : Int) : Json :=
      .object [("user", .int 1), ("movie", .int movie), ("rating", .int 4)]
    let created := create rating (emptyStore.put table) ⟨9, .zero, .zero, 0⟩ (body 3)
    let refused := create rating (emptyStore.put table) ⟨9, .zero, .zero, 0⟩ (body 2)
    created.store.find? "rating" = some ⟨rating.spec, [⟨1, row 2 2 5⟩, ⟨2, row 3 4 9⟩], 3⟩ ∧
      refused.answer = .error (.alreadyExists "Rating") ∧
      refused.store = emptyStore.put table := by
  intro row table body created refused
  have inserted : emptyStore.commit "rating" [.insert (row 2 2 5)] =
      .ok (emptyStore.put table, [row 2 2 5]) :=
    Store.commit_eq_ok.mpr ⟨⟨rating.spec, [], 1⟩, _, rfl, rfl, rfl⟩
  have reachable : Reachable (emptyStore.put table) := .committed .empty inserted
  have member : rating ∈ catalogue := by simp [catalogue]
  have found : (emptyStore.put table).find? rating.table = some table := rfl
  let record (movie : Int64) : rating.Records :=
    ((1 : Int64), movie, Number.Binary64.ofInt 4, (9 : Int64), ())
  have known (movie : Int) : ∀ member ∈ [("user", Json.int 1), ("movie", .int movie),
      ("rating", .int 4)], rating.hasField member.1 = true := by
    simp only [List.forall_mem_cons]
    decide
  have free : ¬ Collides rating table.rows (rating.toRow (record 3)) := by
    rintro ⟨constraint, inSpec, held, inTable, collide⟩
    cases List.mem_singleton.mp inSpec
    cases List.mem_singleton.mp inTable
    have sameMovie := (collide "movie" (by decide)).2.2
    revert sameMovie
    decide
  have taken : Collides rating table.rows (rating.toRow (record 2)) := by
    refine ⟨rating.key, List.mem_cons_self, _, List.mem_cons_self, fun name named => ?_⟩
    obtain rfl | rfl : name = "user" ∨ name = "movie" := by simpa [rating] using named
    · exact ⟨rfl, rfl, rfl⟩
    · exact ⟨rfl, rfl, rfl⟩
  obtain ⟨succeeds, appends, -, -, -⟩ :=
    create_appends reachable member found ⟨9, .zero, .zero, 0⟩ (body 3)
  obtain ⟨-, -, refusal, unchanged, -⟩ :=
    create_appends reachable member found ⟨9, .zero, .zero, 0⟩ (body 2)
  have done : created.answer = .ok (record 3) := (succeeds _).mpr ⟨_, rfl, known 3, rfl, free⟩
  have failed := (refusal _).mpr (.collision rfl (known 2) rfl taken)
  exact ⟨(appends _ _ done rfl).1.here, failed, unchanged _ failed⟩

end MovieCatalogue.Endpoint

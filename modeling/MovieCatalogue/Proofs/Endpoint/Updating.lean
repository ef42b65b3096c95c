import MovieCatalogue.Proofs.Endpoint.Addressing
import MovieCatalogue.Proofs.Endpoint.RacedUpdate

/-!
Contract: what an update does.

Owns: `Addressed`, the body and the row of an update; `UpdateRefused`, the reasons for which an
update is refused, in the order in which they are looked for; that every other update puts a row in
the place of the addressed one, with the values of the body in the fields that the body names and
the values that were stored in all others; and that an empty body changes nothing.
Does not own: commits between the look-up of a row and its replacement; see
`Proofs.Endpoint.RacedUpdate`.
-/

namespace MovieCatalogue.Endpoint

open MovieCatalogue.Record MovieCatalogue.Refusal MovieCatalogue.Selection MovieCatalogue.Storage

/-! ## What is updated -/

/-- A row has what an identifier asks for. -/
def Matches (entity : Entity) (id : String) (row : Row) : Prop :=
  ∃ identifier, Identifier.parse entity.key id = .ok identifier ∧
    satisfies entity.spec identifier.predicates row = true

/-- The members of a body, all of which name fields, and the place of a row with the identifier. -/
structure Addressed (entity : Entity) (table : Table) (id : String) (body : Json)
    (members : Fields Json) (before : List StoredRow) (old : StoredRow) (others : List StoredRow) :
    Prop where
  object : body = .object members
  known : ∀ member ∈ members, entity.hasField member.1 = true
  matched : Matches entity id old.cells
  rows : table.rows = before ++ old :: others

/-- Two rows collide on one of the constraints of an entity. -/
def Collides (entity : Entity) (rows : List StoredRow) (candidate : Row) : Prop :=
  ∃ constraint ∈ entity.spec.constraints, ∃ held ∈ rows, Collide constraint candidate held.cells

theorem collides_iff {entity : Entity} {table : Table} (sameSpec : table.spec = entity.spec)
    {rows : List StoredRow} {candidate : Row} : Collides entity rows candidate ↔
      ∃ constraint ∈ table.spec.constraints, ∃ held ∈ rows, Collide constraint candidate held.cells := by
  rw [Collides, sameSpec]

theorem not_collides_iff {entity : Entity} {table : Table} (sameSpec : table.spec = entity.spec)
    {rows : List StoredRow} {candidate : Row} : ¬ Collides entity rows candidate ↔
      ∀ constraint ∈ table.spec.constraints, ∀ held ∈ rows,
        ¬ Collide constraint candidate held.cells := by
  simp only [collides_iff sameSpec, not_exists, not_and]

/-- Why an update is refused. Each reason says that none of those before it holds: the body is no
object, a member is no field, the identifier does not parse, no row matches it, the merged members
do not decode, or the new row collides with another one. -/
inductive UpdateRefused (entity : Entity) (table : Table) (clock : Clock) (id : String)
    (body : Json) : RequestError → Prop
  | notObject (other : ∀ members, body ≠ .object members) :
      UpdateRefused entity table clock id body
        (.invalid (entity.name ++ " payload must be a JSON object"))
  | unknownField {before others : Fields Json} {name : String} {value : Json}
      (object : body = .object (before ++ (name, value) :: others))
      (known : ∀ earlier ∈ before, entity.hasField earlier.1 = true)
      (unknown : entity.hasField name = false) :
      UpdateRefused entity table clock id body (.unknownField entity.name name)
  | identifier {members : Fields Json} (object : body = .object members)
      (known : ∀ member ∈ members, entity.hasField member.1 = true)
      (unparsed : ∀ identifier, Identifier.parse entity.key id ≠ .ok identifier) :
      UpdateRefused entity table clock id body
        (.invalid ("identifier '" ++ id ++ "' does not match '" ++ entity.idSpec ++ "'"))
  | notFound {members : Fields Json} {identifier : Identifier} (object : body = .object members)
      (known : ∀ member ∈ members, entity.hasField member.1 = true)
      (parsed : Identifier.parse entity.key id = .ok identifier)
      (unmatched : ∀ row ∈ table.rows, ¬ Matches entity id row.cells) :
      UpdateRefused entity table clock id body (.notFound entity.name)
  | payload {members : Fields Json} {before others : List StoredRow} {old : StoredRow}
      {current : entity.Records} {error : DecodeError}
      (addressed : Addressed entity table id body members before old others)
      (stored : entity.toRow current = old.cells)
      (undecoded : Contents.ofMembers entity.fields clock.now
        (Fields.merge (Contents.toMembers entity.fields current) members) = .error error) :
      UpdateRefused entity table clock id body
        (.invalid ("invalid " ++ entity.name ++ " payload: " ++ error.message .payload))
  | collision {members : Fields Json} {before others : List StoredRow} {old : StoredRow}
      {current record : entity.Records}
      (addressed : Addressed entity table id body members before old others)
      (stored : entity.toRow current = old.cells)
      (decoded : entity.ofPayload clock.now
        (Fields.merge (Contents.toMembers entity.fields current) members) = .ok record)
      (taken : Collides entity (before ++ others) (entity.toRow record)) :
      UpdateRefused entity table clock id body (.alreadyExists entity.name)

variable {store : Store} {entity : Entity} {table : Table} {clock : Clock} {id : String} {body : Json}
  {members : Fields Json} {before others : List StoredRow} {old : StoredRow}
  {current record : entity.Records}

/-! ## Refused plans -/

/-- An update whose plan is refused changes nothing. -/
theorem update_of_planUpdate_error {error : RequestError}
    (refused : planUpdate entity store clock id body = .error error) :
    update entity store clock id body = .refused store error := by
  rw [update, refused]
  rfl

theorem planUpdate_of_payload_error {error : RequestError}
    (refused : payloadMembers entity body = .error error) :
    planUpdate entity store clock id body = .error error :=
  bind_eq_error.mpr (.inl refused)

theorem planUpdate_of_findRow_error {error : RequestError} (object : body = .object members)
    (known : ∀ member ∈ members, entity.hasField member.1 = true)
    (refused : findRow entity store id = .error error) :
    planUpdate entity store clock id body = .error error :=
  bind_eq_error.mpr (.inr ⟨members, payloadMembers_eq_ok.mpr ⟨object, known⟩,
    bind_eq_error.mpr (.inl refused)⟩)

/-! ## Made plans -/

/-- An update plans to replace the row that it finds by that of the merged record. -/
theorem planUpdate_of_findRow (member : entity ∈ catalogue) (object : body = .object members)
    (known : ∀ member ∈ members, entity.hasField member.1 = true)
    (looked : findRow entity store id = .ok (entity.toRow current)) (clock : Clock) :
    planUpdate entity store clock id body =
      (entity.ofPayload clock.now
        (Fields.merge (Contents.toMembers entity.fields current) members)).map fun record =>
          ⟨.replace (Key.of entity.spec (entity.toRow current)) (entity.toRow record),
            .updated entity.name id⟩ := by
  have payload := payloadMembers_eq_ok.mpr ⟨object, known⟩
  simp only [planUpdate, payload, looked, ofRow_toRow member, bind, Except.bind]
  cases entity.ofPayload clock.now
    (Fields.merge (Contents.toMembers entity.fields current) members) <;> rfl

/-! ## The row of an update -/

section

variable (holds : HoldsCatalogue store) (member : entity ∈ catalogue)
  (found : store.find? entity.table = some table)
include holds member found

/-- At most one row has what an identifier asks for. -/
theorem not_matches_of_rows (rows : table.rows = before ++ old :: others)
    (matched : Matches entity id old.cells) :
    ∀ other ∈ before ++ others, ¬ Matches entity id other.cells := by
  rintro other elsewhere ⟨identifier, parsed, otherSatisfied⟩
  obtain ⟨_, parsedAgain, satisfied⟩ := matched
  cases parsed.symm.trans parsedAgain
  have inTable : old ∈ table.rows := by simp [rows]
  have here := holds.rowHolds member found inTable
  have otherHolds := holds.rowHolds member found (mem_rows_of_elsewhere rows elsewhere)
  exact key_ne_of_rows holds member found rows other elsewhere
    (Entity.key_eq_of_satisfies (nodup_columnNames member) here (keyed_of_mem member) otherHolds
      parsed satisfied otherSatisfied)

/-- The row that an identifier asks for is found. -/
theorem findRow_of_matches (rows : table.rows = before ++ old :: others)
    (matched : Matches entity id old.cells) : findRow entity store id = .ok old.cells := by
  have alone := not_matches_of_rows holds member found rows matched
  obtain ⟨identifier, parsed, satisfied⟩ := matched
  apply findRow_of_first holds member found parsed rows satisfied
  intro other earlier hit
  exact alone other (List.mem_append_left _ earlier) ⟨identifier, parsed, hit⟩

/-! ## The replacement -/

section

variable (rows : table.rows = before ++ old :: others) {key : Key}
  (sameKey : Key.of entity.spec old.cells = key)
include rows sameKey

/-- The row with a key is replaced in place by one that collides with no other row. -/
theorem perform_replace_of_free (done : Journal.Event)
    (free : ¬ Collides entity (before ++ others) (entity.toRow record)) :
    perform entity store ⟨.replace key (entity.toRow record), done⟩ =
      ⟨.ok [entity.toRow record], store.put { table with
          rows := before ++ { old with cells := entity.toRow record } :: others },
        [.committed entity.table 1, done]⟩ := by
  subst sameKey
  obtain ⟨sameSpec, -⟩ := holds.wellFormed member found
  have apart := (not_collides_iff sameSpec).mp free
  have normal : normalize table.spec (entity.toRow record) = .ok (entity.toRow record) :=
    sameSpec ▸ normalize_toRow member record
  have replaced := Table.replace_eq_ok.mpr ⟨before, old, others, rows,
    firstWith_of_rows holds member found rows, normal, apart, rfl⟩
  exact perform_of_applied found done (by rw [Table.apply, replaced]; rfl)

/-- A replacement that collides with another row is refused. -/
theorem perform_replace_of_taken (done : Journal.Event)
    (taken : Collides entity (before ++ others) (entity.toRow record)) :
    perform entity store ⟨.replace key (entity.toRow record), done⟩ =
      .refused store (.alreadyExists entity.name) := by
  subst sameKey
  obtain ⟨sameSpec, -⟩ := holds.wellFormed member found
  obtain ⟨constraint, inSpec, held, elsewhere, collide⟩ := (collides_iff sameSpec).mp taken
  have normal : normalize table.spec (entity.toRow record) = .ok (entity.toRow record) :=
    sameSpec ▸ normalize_toRow member record
  obtain ⟨violated, refused⟩ := Table.replace_eq_error rows
    (firstWith_of_rows holds member found rows) normal inSpec elsewhere collide
  have refusedChange : table.apply (.replace (Key.of entity.spec old.cells) (entity.toRow record)) =
      .error (.uniqueViolation table.spec.name violated) := by
    rw [Table.apply, refused]
    rfl
  exact perform_of_refused found done refusedChange

variable {looked : Store} {done : Journal.Event}
  (planned : planUpdate entity looked clock id body =
    .ok ⟨.replace key (entity.toRow record), done⟩)
include planned

/-- An update that collides with no row replaces the row with its key and answers the new record. -/
theorem racedUpdate_of_free
    (free : ¬ Collides entity (before ++ others) (entity.toRow record)) :
    racedUpdate entity looked store clock id body =
      ⟨.ok record, store.put { table with
          rows := before ++ { old with cells := entity.toRow record } :: others },
        [.committed entity.table 1, done]⟩ := by
  simp [racedUpdate, planned, carryOut, Outcome.andThen, Except.bind,
    perform_replace_of_free holds member found rows sameKey done free, writtenRecord_toRow member]

/-- An update that collides with another row is refused, and nothing is written. -/
theorem racedUpdate_of_taken
    (taken : Collides entity (before ++ others) (entity.toRow record)) :
    racedUpdate entity looked store clock id body =
      .refused store (.alreadyExists entity.name) := by
  simp [racedUpdate, planned, carryOut, Outcome.andThen, Except.bind, Outcome.refused,
    perform_replace_of_taken holds member found rows sameKey done taken]

end

/-! ## The update of an addressed row -/

variable (addressed : Addressed entity table id body members before old others)
  (stored : entity.toRow current = old.cells)
include addressed stored

/-- The plan of an update is to replace the addressed row by that of the merged record. -/
theorem planUpdate_of_addressed (clock : Clock) : planUpdate entity store clock id body =
    (entity.ofPayload clock.now (Fields.merge (Contents.toMembers entity.fields current) members)).map
      fun record => ⟨.replace (Key.of entity.spec old.cells) (entity.toRow record),
        .updated entity.name id⟩ := by
  obtain ⟨object, known, matched, rows⟩ := addressed
  have looked := findRow_of_matches holds member found rows matched
  rw [← stored] at looked ⊢
  exact planUpdate_of_findRow member object known looked clock

/-- An update that collides with no row replaces the addressed one and answers the new record. -/
theorem update_of_free (decoded : entity.ofPayload clock.now
      (Fields.merge (Contents.toMembers entity.fields current) members) = .ok record)
    (free : ¬ Collides entity (before ++ others) (entity.toRow record)) :
    update entity store clock id body =
      ⟨.ok record, store.put { table with
          rows := before ++ { old with cells := entity.toRow record } :: others },
        [.committed entity.table 1, .updated entity.name id]⟩ := by
  have planned := planUpdate_of_addressed holds member found addressed stored clock
  rw [decoded] at planned
  exact racedUpdate_of_free holds member found addressed.rows rfl planned free

/-- An update that collides with another row is refused, and nothing is written. -/
theorem update_of_taken (decoded : entity.ofPayload clock.now
      (Fields.merge (Contents.toMembers entity.fields current) members) = .ok record)
    (taken : Collides entity (before ++ others) (entity.toRow record)) :
    update entity store clock id body = .refused store (.alreadyExists entity.name) := by
  have planned := planUpdate_of_addressed holds member found addressed stored clock
  rw [decoded] at planned
  exact racedUpdate_of_taken holds member found addressed.rows rfl planned taken

end

/-! ## All updates -/

theorem refused_or_free (clock : Clock)
    (addressed : Addressed entity table id body members before old others)
    (stored : entity.toRow current = old.cells) :
    (∃ error, UpdateRefused entity table clock id body error) ∨
      ∃ record, entity.ofPayload clock.now
          (Fields.merge (Contents.toMembers entity.fields current) members) = .ok record ∧
        ¬ Collides entity (before ++ others) (entity.toRow record) := by
  cases decoding : Contents.ofMembers entity.fields clock.now
    (Fields.merge (Contents.toMembers entity.fields current) members) with
  | error error => exact .inl ⟨_, .payload addressed stored decoding⟩
  | ok record =>
      have decoded := Entity.ofPayload_eq_ok.mpr decoding
      by_cases taken : Collides entity (before ++ others) (entity.toRow record)
      · exact .inl ⟨_, .collision addressed stored decoded taken⟩
      · exact .inr ⟨record, decoded, taken⟩

section

variable (holds : HoldsCatalogue store) (member : entity ∈ catalogue)
  (found : store.find? entity.table = some table)
include holds member found

/-- What refuses an update is its answer, and nothing is written. -/
theorem update_of_refused {error : RequestError}
    (refused : UpdateRefused entity table clock id body error) :
    update entity store clock id body = .refused store error := by
  cases refused with
  | notObject other =>
      exact update_of_planUpdate_error (planUpdate_of_payload_error
        (payloadMembers_eq_error.mpr (.inl ⟨other, rfl⟩)))
  | unknownField object known unknown =>
      exact update_of_planUpdate_error (planUpdate_of_payload_error
        (payloadMembers_eq_error.mpr (.inr ⟨_, _, _, _, object, known, unknown, rfl⟩)))
  | identifier object known unparsed =>
      have refusedIdentifier := Identifier.parse_eq_error.mpr ⟨rfl, unparsed⟩
      refine update_of_planUpdate_error (planUpdate_of_findRow_error object known ?_)
      exact bind_eq_error.mpr (.inl (bind_eq_error.mpr (.inl refusedIdentifier)))
  | notFound object known parsed unmatched =>
      refine update_of_planUpdate_error (planUpdate_of_findRow_error object known ?_)
      apply findRow_of_none holds member found parsed
      intro row inTable hit
      exact unmatched row inTable ⟨_, parsed, hit⟩
  | payload addressed stored undecoded =>
      refine update_of_planUpdate_error ?_
      rw [planUpdate_of_addressed holds member found addressed stored]
      exact map_eq_error.mpr (Entity.ofPayload_eq_error.mpr ⟨_, undecoded, rfl⟩)
  | collision addressed stored decoded taken =>
      exact update_of_taken holds member found addressed stored decoded taken

/-- An update is refused for one of the reasons, or its row is addressed. -/
theorem refused_or_addressed (clock : Clock) (id : String) (body : Json) :
    (∃ error, UpdateRefused entity table clock id body error) ∨
      ∃ members before old others current,
        Addressed entity table id body members before old others ∧
        entity.toRow current = old.cells := by
  cases payload : payloadMembers entity body with
  | error error =>
      rcases payloadMembers_eq_error.mp payload with
        ⟨other, -⟩ | ⟨_, _, _, _, object, known, unknown, -⟩
      · exact .inl ⟨_, .notObject other⟩
      · exact .inl ⟨_, .unknownField object known unknown⟩
  | ok members =>
      obtain ⟨object, known⟩ := payloadMembers_eq_ok.mp payload
      cases parsed : Identifier.parse entity.key id with
      | error error =>
          exact .inl ⟨_, .identifier object known (Identifier.parse_eq_error.mp parsed).2⟩
      | ok identifier =>
          by_cases matching : ∃ row ∈ table.rows, Matches entity id row.cells
          · obtain ⟨old, inTable, matched⟩ := matching
            obtain ⟨before, others, rows⟩ := List.append_of_mem inTable
            obtain ⟨current, stored, -⟩ :=
              exists_record member (holds.rowHolds member found inTable)
            exact .inr ⟨members, before, old, others, current, ⟨object, known, matched, rows⟩, stored⟩
          · have unmatched : ∀ row ∈ table.rows, ¬ Matches entity id row.cells :=
              fun row inTable matched => matching ⟨row, inTable, matched⟩
            exact .inl ⟨_, .notFound object known parsed unmatched⟩

theorem update_eq_ok : (update entity store clock id body).answer = .ok record ↔
    ∃ members before old others current,
      Addressed entity table id body members before old others ∧
      entity.toRow current = old.cells ∧
      entity.ofPayload clock.now
        (Fields.merge (Contents.toMembers entity.fields current) members) = .ok record ∧
      ¬ Collides entity (before ++ others) (entity.toRow record) := by
  constructor
  · intro succeeds
    rcases refused_or_addressed holds member found clock id body with
      ⟨error, refused⟩ | ⟨members, before, old, others, current, addressed, stored⟩
    · rw [update_of_refused holds member found refused] at succeeds
      cases succeeds
    rcases refused_or_free clock addressed stored with ⟨error, refused⟩ | ⟨other, decoded, free⟩
    · rw [update_of_refused holds member found refused] at succeeds
      cases succeeds
    · rw [update_of_free holds member found addressed stored decoded free] at succeeds
      cases succeeds
      exact ⟨members, before, old, others, current, addressed, stored, decoded, free⟩
  · rintro ⟨members, before, old, others, current, addressed, stored, decoded, free⟩
    rw [update_of_free holds member found addressed stored decoded free]

theorem update_eq_error {error : RequestError} :
    (update entity store clock id body).answer = .error error ↔
      UpdateRefused entity table clock id body error := by
  constructor
  · intro fails
    rcases refused_or_addressed holds member found clock id body with
      ⟨other, refused⟩ | ⟨members, before, old, others, current, addressed, stored⟩
    · rw [update_of_refused holds member found refused] at fails
      cases fails
      exact refused
    rcases refused_or_free clock addressed stored with ⟨other, refused⟩ | ⟨record, decoded, free⟩
    · rw [update_of_refused holds member found refused] at fails
      cases fails
      exact refused
    · rw [update_of_free holds member found addressed stored decoded free] at fails
      cases fails
  · intro refused
    rw [update_of_refused holds member found refused]
    rfl

/-! ## What is left -/

variable (finite : store.Finite)
include finite

/-- The addressed row is the stored form of a record with finite numbers. -/
theorem exists_current (addressed : Addressed entity table id body members before old others) :
    ∃ current : entity.Records, entity.toRow current = old.cells ∧
      ∀ name, (valueAt (entity.toRow current) name).Finite := by
  have inTable : old ∈ table.rows := by simp [addressed.rows]
  obtain ⟨current, stored, -⟩ := exists_record member (holds.rowHolds member found inTable)
  refine ⟨current, stored, fun name => ?_⟩
  rw [stored]
  exact Row.Finite.valueAt (finite table (Store.mem_of_find? found) old inTable) name

/-- An update that succeeds puts the row of its record, with all fields overridden, in place. -/
theorem replaced_of_update (addressed : Addressed entity table id body members before old others)
    (succeeds : (update entity store clock id body).answer = .ok record) :
    (update entity store clock id body).store = store.put { table with
        rows := before ++ { old with cells := entity.toRow record } :: others } ∧
      ∀ field ∈ entity.fields, field.Overridden members old.cells (entity.toRow record) := by
  obtain ⟨current, stored, finiteRow⟩ := exists_current holds member found finite addressed
  rcases refused_or_free clock addressed stored with ⟨error, refused⟩ | ⟨other, decoded, free⟩
  · rw [update_of_refused holds member found refused] at succeeds
    cases succeeds
  · rw [update_of_free holds member found addressed stored decoded free] at succeeds ⊢
    cases succeeds
    rw [Entity.ofPayload_eq_ok,
      Contents.ofMembers_merge_eq_ok (nodup_fieldNames member) finiteRow] at decoded
    exact ⟨rfl, stored ▸ decoded⟩

/-- An empty object changes nothing. -/
theorem update_of_empty (addressed : Addressed entity table id body [] before old others) :
    ∃ record, entity.toRow record = old.cells ∧
      (update entity store clock id body).answer = .ok record ∧
      (update entity store clock id body).store = store := by
  obtain ⟨current, stored, finiteRow⟩ := exists_current holds member found finite addressed
  have decoded : entity.ofPayload clock.now
      (Fields.merge (Contents.toMembers entity.fields current) []) = .ok current := by
    rw [Entity.ofPayload_eq_ok, Contents.ofMembers_merge_eq_ok (nodup_fieldNames member) finiteRow]
    exact fun field _ => .unnamed List.not_mem_nil rfl
  obtain ⟨sameSpec, wellFormed⟩ := holds.wellFormed member found
  have free : ¬ Collides entity (before ++ others) (entity.toRow current) := by
    rw [stored, not_collides_iff sameSpec]
    exact wellFormed.apart_of_rows addressed.rows
  refine ⟨current, stored, ?_⟩
  rw [update_of_free holds member found addressed stored decoded free, stored, ← addressed.rows]
  exact ⟨rfl, Store.put_eq_self holds.sound.distinct (Store.mem_of_find? found)⟩

end

/--
An update succeeds if and only if all members of its body name fields, a row matches its identifier,
the record of this row under the members decodes, and the new row collides with no other one. No
other row matches. The new row stands in the place of the old one; it has what the body sets in the
fields that the body names, and the stored values in all others; it is the row of the record that is
answered. An update that does not succeed is refused for the first of the reasons, and changes
nothing; one with an empty object changes nothing either.
-/
theorem update_merges (reachable : Reachable store) (finite : store.Finite)
    (member : entity ∈ catalogue) (found : store.find? entity.table = some table) (clock : Clock)
    (id : String) (body : Json) :
    let outcome := update entity store clock id body
    (∀ record, outcome.answer = .ok record ↔ ∃ members before old others current,
        Addressed entity table id body members before old others ∧
        entity.toRow current = old.cells ∧
        entity.ofPayload clock.now
          (Fields.merge (Contents.toMembers entity.fields current) members) = .ok record ∧
        ¬ Collides entity (before ++ others) (entity.toRow record)) ∧
      (∀ record members before old others, outcome.answer = .ok record →
        Addressed entity table id body members before old others →
        (∀ other ∈ before ++ others, ¬ Matches entity id other.cells) ∧
        outcome.store.find? entity.table = some { table with
          rows := before ++ { old with cells := entity.toRow record } :: others } ∧
        (∀ name, name ≠ entity.table → outcome.store.find? name = store.find? name) ∧
        ∀ field ∈ entity.fields, field.Overridden members old.cells (entity.toRow record)) ∧
      (∀ error, outcome.answer = .error error ↔
        UpdateRefused entity table clock id body error) ∧
      (∀ error, outcome.answer = .error error → outcome.store = store) ∧
      ∀ before old others, Addressed entity table id body [] before old others →
        ∃ record, entity.toRow record = old.cells ∧ outcome.answer = .ok record ∧
          outcome.store = store := by
  intro outcome
  have holds := reachable.holdsCatalogue
  have named : table.spec.name = entity.table := Store.name_of_find? found
  refine ⟨fun record => update_eq_ok holds member found,
    fun record members before old others succeeds addressed => ?_,
    fun error => update_eq_error holds member found, fun error fails => ?_,
    fun before old others addressed => update_of_empty holds member found finite addressed⟩
  · obtain ⟨left, overridden⟩ := replaced_of_update holds member found finite addressed succeeds
    have stored : outcome.store = _ := left
    refine ⟨not_matches_of_rows holds member found addressed.rows addressed.matched, ?_,
      fun name different => ?_, overridden⟩
    · rw [stored]
      exact Store.find?_put_self found named
    · rw [stored]
      exact Store.find?_put_of_ne (named ▸ different)
  · have refused := (update_eq_error holds member found).mp fails
    have unchanged : outcome = _ := update_of_refused holds member found refused
    rw [unchanged]
    rfl

/-- A rating is updated and keeps its time; the update of one that is not there is refused. -/
theorem update_merges_rating :
    let row (stars : Int) : Row :=
      [("user", .int64 1), ("movie", .int64 2), ("rating", .real (.ofInt stars)),
        ("timestamp", .int64 5)]
    let rated (stars : Int) : Table := ⟨rating.spec, [⟨1, row stars⟩], 2⟩
    let body : Json := .object [("rating", .int 3)]
    let updated := update rating (emptyStore.put (rated 2)) ⟨9, .zero, .zero, 0⟩ "1_2" body
    let missed := update rating (emptyStore.put (rated 2)) ⟨9, .zero, .zero, 0⟩ "1_3" body
    (∃ record, updated.answer = .ok record ∧ rating.toRow record = row 3) ∧
      updated.store.find? "rating" = some (rated 3) ∧
      missed.answer = .error (.notFound "Rating") ∧ missed.store = emptyStore.put (rated 2) := by
  intro row rated body updated missed
  have inserted : emptyStore.commit "rating" [.insert (row 2)] =
      .ok (emptyStore.put (rated 2), [row 2]) :=
    Store.commit_eq_ok.mpr ⟨⟨rating.spec, [], 1⟩, _, rfl, rfl, rfl⟩
  have reachable : Reachable (emptyStore.put (rated 2)) := .committed .empty inserted
  have finite : (emptyStore.put (rated 2)).Finite := by
    have start : emptyStore.Finite := Store.finite_clear emptyStore
    have finiteRow : Change.Finite (.insert (row 2)) := by
      have finiteStars : (Number.Binary64.ofInt 2).isFinite = true := by decide
      change ∀ cell ∈ row 2, cell.2.Finite
      simpa [row, Value.Finite] using finiteStars
    exact start.commit (List.forall_mem_singleton.mpr finiteRow) inserted
  have member : rating ∈ catalogue := by simp [catalogue]
  have found : (emptyStore.put (rated 2)).find? rating.table = some (rated 2) := rfl
  obtain ⟨answered, replaced, -, -, -⟩ := update_merges reachable finite member found
    ⟨9, .zero, .zero, 0⟩ "1_2" body
  obtain ⟨-, -, refused, unchanged, -⟩ := update_merges reachable finite member found
    ⟨9, .zero, .zero, 0⟩ "1_3" body
  have known : ∀ member ∈ [("rating", Json.int 3)], rating.hasField member.1 = true := by decide
  have matched : Matches rating "1_2" (row 2) := ⟨[("user", "1"), ("movie", "2")], rfl, rfl⟩
  have addressed : Addressed rating (rated 2) "1_2" body [("rating", .int 3)] [] ⟨1, row 2⟩ [] :=
    ⟨rfl, known, matched, rfl⟩
  have alone (candidate : Row) : ¬ Collides rating ([] ++ []) candidate := by
    rintro ⟨_, -, held, elsewhere, -⟩
    cases elsewhere
  let record (stars : Int) : rating.Records :=
    ((1 : Int64), (2 : Int64), Number.Binary64.ofInt stars, (5 : Int64), ())
  have done : updated.answer = .ok (record 3) :=
    (answered (record 3)).mpr ⟨_, [], _, [], record 2, addressed, rfl, rfl, alone _⟩
  have unmatched : ∀ row ∈ (rated 2).rows, ¬ Matches rating "1_3" row.cells := by
    rintro _ inTable ⟨identifier, parsed, satisfied⟩
    cases List.mem_singleton.mp inTable
    cases parsed
    cases satisfied
  have missing := (refused _).mpr (.notFound rfl known rfl unmatched)
  exact ⟨⟨_, done, rfl⟩, (replaced _ _ _ _ _ done addressed).2.1, missing, unchanged _ missing⟩

end MovieCatalogue.Endpoint

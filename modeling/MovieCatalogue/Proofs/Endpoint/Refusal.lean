import MovieCatalogue.Endpoint.Operation
import MovieCatalogue.Proofs.Record.Identifier
import MovieCatalogue.Proofs.Token.Resolution

/-!
Contract: refusals that a client can cause.

Owns: `NeverInternal`, a step none of whose refusals is a fault of the store, and
that the steps before the store is asked are of this kind: reading parameters,
tokens, identifiers and payloads. Also the queries that they make: over the table of
the entity, and naming its fields only.
Does not own: what the store answers.
-/

namespace MovieCatalogue.Endpoint

open MovieCatalogue.Record MovieCatalogue.Refusal MovieCatalogue.Selection MovieCatalogue.Token

variable {α β : Type}

/-- None of the refusals of a step is internal. -/
def NeverInternal (step : Except RequestError α) : Prop :=
  ∀ error, step = .error error → error.kind ≠ .internal

/-! ## Steps -/

theorem neverInternal_ok (found : α) : NeverInternal (.ok found) :=
  fun _ impossible => nomatch impossible

theorem neverInternal_error {error : RequestError} (client : error.kind ≠ .internal) :
    NeverInternal (.error error : Except RequestError α) := by
  rintro _ ⟨⟩
  exact client

theorem neverInternal_bind {step : Except RequestError α} {next : α → Except RequestError β}
    (first : NeverInternal step) (second : ∀ found, step = .ok found → NeverInternal (next found)) :
    NeverInternal (step >>= next) := by
  cases step with
  | error error => exact neverInternal_error (first error rfl)
  | ok found => exact second found rfl

/-- A step in front of which nothing was refused does not hide a fault of the store. -/
theorem neverInternal_of_exists {step : Except RequestError α} (taken : ∃ found, step = .ok found) :
    NeverInternal step := by
  obtain ⟨found, rfl⟩ := taken
  exact neverInternal_ok found

/-! ## Parameters and payloads -/

theorem neverInternal_ofPairs (pairs : List (String × String)) :
    NeverInternal (ListParams.ofPairs pairs) := by
  have each (params : ListParams) (pair : String × String) : NeverInternal (params.addPair pair) := by
    have integer (name value : String) : NeverInternal (ListParams.integer name value) := by
      unfold ListParams.integer
      split
      · exact neverInternal_ok _
      · exact neverInternal_error nofun
    unfold ListParams.addPair
    split
    · exact neverInternal_bind (integer _ _) fun _ _ => neverInternal_ok _
    · exact neverInternal_bind (integer _ _) fun _ _ => neverInternal_ok _
    · exact neverInternal_ok _
    · exact neverInternal_ok _
    · exact neverInternal_ok _
  have all (params : ListParams) : NeverInternal (pairs.foldlM ListParams.addPair params) := by
    induction pairs generalizing params with
    | nil => exact neverInternal_ok _
    | cons pair pairs inductionHypothesis =>
        exact neverInternal_bind (each params pair) fun next _ => inductionHypothesis next
  exact all {}

theorem neverInternal_resolve (params : ListParams) (limits : PageLimits) :
    NeverInternal (params.resolve limits) := by
  have page : NeverInternal params.resolvePage := by
    unfold ListParams.resolvePage
    split
    · exact neverInternal_ok _
    · exact neverInternal_error (by decide)
  have limit : NeverInternal (params.resolveLimit limits) := by
    unfold ListParams.resolveLimit
    split
    · exact neverInternal_ok _
    · split
      · exact neverInternal_ok _
      · exact neverInternal_error nofun
  exact neverInternal_bind page fun _ _ => neverInternal_bind limit fun _ _ => neverInternal_ok _

theorem payloadMembers_eq_ok {entity : Entity} {body : Json} {members : Fields Json} :
    payloadMembers entity body = .ok members ↔
      body = .object members ∧ ∀ member ∈ members, entity.hasField member.1 = true := by
  unfold payloadMembers
  split
  case h_1 found =>
      rw [bind_eq_ok]
      constructor
      · rintro ⟨passed, checked, same⟩
        cases same
        exact ⟨rfl, fun member inBody => Entity.checkField_eq_ok.mp (forM_eq_ok.mp checked member inBody)⟩
      · rintro ⟨same, known⟩
        cases same
        exact ⟨(), forM_eq_ok.mpr fun member inBody => Entity.checkField_eq_ok.mpr (known member inBody),
          rfl⟩
  case h_2 other => exact ⟨nofun, fun claimed => absurd claimed.1 (other members)⟩

/-- A payload is refused if it is no object, and else for its first member that is no field. -/
theorem payloadMembers_eq_error {entity : Entity} {body : Json} {error : RequestError} :
    payloadMembers entity body = .error error ↔
      ((∀ members, body ≠ .object members) ∧
          error = .invalid (entity.name ++ " payload must be a JSON object")) ∨
        ∃ before name value others, body = .object (before ++ (name, value) :: others) ∧
          (∀ earlier ∈ before, entity.hasField earlier.1 = true) ∧ entity.hasField name = false ∧
          error = .unknownField entity.name name := by
  unfold payloadMembers
  split
  case h_1 members =>
      rw [bind_eq_error]
      constructor
      · rintro (refused | ⟨_, -, impossible⟩)
        · obtain ⟨before, ⟨name, value⟩, others, rfl, known, unknown⟩ := forM_eq_error.mp refused
          obtain ⟨lacks, rfl⟩ := Entity.checkField_eq_error.mp unknown
          exact .inr ⟨before, name, value, others, rfl,
            fun earlier inFront => Entity.checkField_eq_ok.mp (known earlier inFront), lacks, rfl⟩
        · cases impossible
      · rintro (⟨notObject, -⟩ | ⟨before, name, value, others, same, known, lacks, rfl⟩)
        · exact absurd rfl (notObject members)
        · cases same
          exact .inl (forM_eq_error.mpr ⟨before, (name, value), others, rfl,
            fun earlier inFront => Entity.checkField_eq_ok.mpr (known earlier inFront),
            Entity.checkField_eq_error.mpr ⟨lacks, rfl⟩⟩)
  case h_2 other =>
      constructor
      · intro refused
        cases refused
        exact .inl ⟨other, rfl⟩
      · rintro (⟨-, rfl⟩ | ⟨_, _, _, _, same, -⟩)
        · rfl
        · exact absurd same (other _)

theorem neverInternal_payloadMembers (entity : Entity) (body : Json) :
    NeverInternal (payloadMembers entity body) := by
  intro error refused
  rcases payloadMembers_eq_error.mp refused with ⟨-, rfl⟩ | ⟨_, _, _, _, -, -, -, rfl⟩
  · nofun
  · nofun

theorem neverInternal_ofPayload (entity : Entity) (now : Int64) (members : Fields Json) :
    NeverInternal (entity.ofPayload now members) := by
  intro error refused
  obtain ⟨_, -, rfl⟩ := Entity.ofPayload_eq_error.mp refused
  nofun

/-! ## Queries -/

/-- A query over the table of an entity that names its fields only. -/
structure Concerns (query : Query) (entity : Entity) : Prop where
  table : query.table = entity.table
  fields : ∀ field ∈ query.fields, entity.hasField field = true

theorem neverInternal_identifierQuery (entity : Entity) (id : String) :
    NeverInternal (identifierQuery entity id) := by
  refine neverInternal_bind (fun error refused => ?_) fun _ _ => neverInternal_ok _
  obtain ⟨rfl, -⟩ := Identifier.parse_eq_error.mp refused
  nofun

theorem concerns_identifierQuery {entity : Entity} {id : String} {query : Query}
    (keyFields : ∀ name ∈ entity.key, entity.hasField name = true)
    (built : identifierQuery entity id = .ok query) : Concerns query entity := by
  obtain ⟨identifier, parsed, rest⟩ := bind_eq_ok.mp built
  cases rest
  have fromKey : ∀ part ∈ identifier, part.1 ∈ entity.key := by
    intro part inIdentifier
    rw [← Identifier.names_of_parse parsed]
    exact List.mem_map_of_mem inIdentifier
  refine ⟨rfl, fun field member => ?_⟩
  obtain ⟨part, inIdentifier, rfl⟩ : ∃ part ∈ identifier, part.1 = field := by
    simpa [Query.fields, Identifier.predicates, Predicate.field] using member
  exact keyFields part.1 (fromKey part inIdentifier)

theorem neverInternal_resolveAll (parameter : String) (resolve : String → Except RequestError α)
    (tokens : List String) : NeverInternal (resolveAll parameter resolve tokens) := by
  induction tokens with
  | nil => exact neverInternal_ok _
  | cons token tokens inductionHypothesis =>
      refine neverInternal_bind ?_ fun _ _ =>
        neverInternal_bind inductionHypothesis fun _ _ => neverInternal_ok _
      cases resolve token with
      | ok found => exact neverInternal_ok _
      | error error => exact neverInternal_error nofun

theorem neverInternal_buildQuery (entity : Entity) (filters sorts : List String) :
    NeverInternal (buildQuery entity filters sorts) := by
  unfold buildQuery
  dsimp only
  split
  · exact neverInternal_error nofun
  · split
    · exact neverInternal_error nofun
    · exact neverInternal_bind (neverInternal_resolveAll _ _ _) fun _ _ =>
        neverInternal_bind (neverInternal_resolveAll _ _ _) fun _ _ => neverInternal_ok _

theorem concerns_buildQuery {entity : Entity} {filters sorts : List String} {query : Query}
    (built : buildQuery entity filters sorts = .ok query) : Concerns query entity := by
  unfold buildQuery at built
  dsimp only at built
  split at built
  · cases built
  · split at built
    · cases built
    · obtain ⟨predicates, filtersResolved, rest⟩ := bind_eq_ok.mp built
      obtain ⟨order, sortsResolved, rest⟩ := bind_eq_ok.mp rest
      cases rest
      refine ⟨rfl, fun field member => ?_⟩
      rcases List.mem_append.mp member with inPredicates | inOrder
      · obtain ⟨predicate, inQuery, rfl⟩ := List.mem_map.mp inPredicates
        obtain ⟨token, -, resolved⟩ := exists_of_mem_results (resolveAll_eq_ok.mp filtersResolved) inQuery
        exact hasField_of_resolveFilter resolved
      · obtain ⟨term, inQuery, rfl⟩ := List.mem_map.mp inOrder
        obtain ⟨token, -, resolved⟩ := exists_of_mem_results (resolveAll_eq_ok.mp sortsResolved) inQuery
        exact hasField_of_resolveSort resolved

end MovieCatalogue.Endpoint

import MovieCatalogue.Proofs.Endpoint.Refusal
import MovieCatalogue.Proofs.Record.CatalogueTables

/-!
Contract: queries that are made of tokens.

Owns: which tokens make a query, and which one: the resolutions of all filters and of all sorts, in
their order; `BuildRefused`, the reasons for which tokens make none, in the order in which they are
looked for; and that a store with the table of the entity counts and fetches what was built.
Does not own: why a single token does not resolve; see `Proofs.Token.Resolution`.
-/

namespace MovieCatalogue.Endpoint

open MovieCatalogue.Record MovieCatalogue.Refusal MovieCatalogue.Selection MovieCatalogue.Storage
  MovieCatalogue.Token

/-- Why tokens make no query: there are too many filters, or else too many sorts, or else the first
filter that does not resolve, or else the first such sort. -/
inductive BuildRefused (entity : Entity) (filters sorts : List String) : RequestError → Prop
  | tooManyFilters (many : 32 < filters.length) :
      BuildRefused entity filters sorts
        (.invalidParameter "at most 32 filters are allowed" none)
  | tooManySorts (few : filters.length ≤ 32) (many : 8 < sorts.length) :
      BuildRefused entity filters sorts
        (.invalidParameter "at most 8 sort fields are allowed" none)
  | filter {before others : List String} {token : String} {cause : RequestError}
      (few : filters.length ≤ 32) (fewSorts : sorts.length ≤ 8)
      (split : filters = before ++ token :: others)
      (resolved : ∀ earlier ∈ before, ∃ predicate, resolveFilter entity earlier = .ok predicate)
      (refused : resolveFilter entity token = .error cause) :
      BuildRefused entity filters sorts (.invalidToken "filter" token cause)
  | sort {before others : List String} {token : String} {cause : RequestError}
      (few : filters.length ≤ 32) (fewSorts : sorts.length ≤ 8)
      (filtersResolved : ∀ token ∈ filters, ∃ predicate, resolveFilter entity token = .ok predicate)
      (split : sorts = before ++ token :: others)
      (resolved : ∀ earlier ∈ before, ∃ term, resolveSort entity earlier = .ok term)
      (refused : resolveSort entity token = .error cause) :
      BuildRefused entity filters sorts (.invalidToken "sort" token cause)

variable {entity : Entity} {filters sorts : List String} {query : Query}

theorem buildQuery_of_many (many : 32 < filters.length) : buildQuery entity filters sorts =
    .error (.invalidParameter "at most 32 filters are allowed" none) := by
  have bound : Number.natText maxFilters = "32" := by decide +kernel
  have exceeded : filters.length > maxFilters := many
  unfold buildQuery
  rw [if_pos exceeded, bound]
  rfl

theorem buildQuery_of_manySorts (few : filters.length ≤ 32) (many : 8 < sorts.length) :
    buildQuery entity filters sorts =
      .error (.invalidParameter "at most 8 sort fields are allowed" none) := by
  have bound : Number.natText maxSorts = "8" := by decide +kernel
  have kept : ¬ filters.length > maxFilters := Nat.not_lt.mpr few
  have exceeded : sorts.length > maxSorts := many
  unfold buildQuery
  rw [if_neg kept, if_pos exceeded, bound]
  rfl

/-- Within the bounds a query is built of what the tokens resolve to. -/
theorem buildQuery_of_few (few : filters.length ≤ 32) (fewSorts : sorts.length ≤ 8) :
    buildQuery entity filters sorts = do
      let predicates ← resolveAll "filter" (resolveFilter entity) filters
      let order ← resolveAll "sort" (resolveSort entity) sorts
      return ⟨entity.table, predicates, order⟩ := by
  have kept : ¬ filters.length > maxFilters := Nat.not_lt.mpr few
  have keptSorts : ¬ sorts.length > maxSorts := Nat.not_lt.mpr fewSorts
  unfold buildQuery
  rw [if_neg kept, if_neg keptSorts]

theorem buildQuery_eq_ok : buildQuery entity filters sorts = .ok query ↔
    filters.length ≤ 32 ∧ sorts.length ≤ 8 ∧ query.table = entity.table ∧
      List.Forall₂ (fun token predicate => resolveFilter entity token = .ok predicate)
        filters query.predicates ∧
      List.Forall₂ (fun token term => resolveSort entity token = .ok term) sorts query.order := by
  constructor
  · intro built
    rcases Nat.lt_or_ge 32 filters.length with many | few
    · rw [buildQuery_of_many many] at built
      cases built
    rcases Nat.lt_or_ge 8 sorts.length with many | fewSorts
    · rw [buildQuery_of_manySorts few many] at built
      cases built
    rw [buildQuery_of_few few fewSorts] at built
    obtain ⟨predicates, filtersResolved, rest⟩ := bind_eq_ok.mp built
    obtain ⟨order, sortsResolved, rest⟩ := bind_eq_ok.mp rest
    cases rest
    exact ⟨few, fewSorts, rfl, resolveAll_eq_ok.mp filtersResolved,
      resolveAll_eq_ok.mp sortsResolved⟩
  · rintro ⟨few, fewSorts, table, filtersResolved, sortsResolved⟩
    obtain ⟨_, predicates, order⟩ := query
    cases table
    rw [buildQuery_of_few few fewSorts]
    exact bind_eq_ok.mpr ⟨predicates, resolveAll_eq_ok.mpr filtersResolved,
      bind_eq_ok.mpr ⟨order, resolveAll_eq_ok.mpr sortsResolved, rfl⟩⟩

theorem buildQuery_eq_error {error : RequestError} :
    buildQuery entity filters sorts = .error error ↔ BuildRefused entity filters sorts error := by
  constructor
  · intro refused
    rcases Nat.lt_or_ge 32 filters.length with many | few
    · rw [buildQuery_of_many many] at refused
      cases refused
      exact .tooManyFilters many
    rcases Nat.lt_or_ge 8 sorts.length with many | fewSorts
    · rw [buildQuery_of_manySorts few many] at refused
      cases refused
      exact .tooManySorts few many
    rw [buildQuery_of_few few fewSorts] at refused
    rcases bind_eq_error.mp refused with filterRefused | ⟨predicates, filtersResolved, rest⟩
    · obtain ⟨before, token, others, cause, split, resolved, refusedToken, rfl⟩ :=
        resolveAll_eq_error.mp filterRefused
      exact .filter few fewSorts split resolved refusedToken
    rcases bind_eq_error.mp rest with sortRefused | ⟨order, -, impossible⟩
    · obtain ⟨before, token, others, cause, split, resolved, refusedToken, rfl⟩ :=
        resolveAll_eq_error.mp sortRefused
      exact .sort few fewSorts (exists_resolveAll_eq_ok.mp ⟨predicates, filtersResolved⟩) split resolved
        refusedToken
    · cases impossible
  · intro refused
    cases refused with
    | tooManyFilters many => exact buildQuery_of_many many
    | tooManySorts few many => exact buildQuery_of_manySorts few many
    | filter few fewSorts split resolved refused =>
        rw [buildQuery_of_few few fewSorts]
        exact bind_eq_error.mpr (.inl (resolveAll_eq_error.mpr
          ⟨_, _, _, _, split, resolved, refused, rfl⟩))
    | sort few fewSorts filtersResolved split resolved refused =>
        rw [buildQuery_of_few few fewSorts]
        obtain ⟨predicates, allResolved⟩ :=
          exists_resolveAll_eq_ok.mpr filtersResolved
        exact bind_eq_error.mpr (.inr ⟨predicates, allResolved,
          bind_eq_error.mpr (.inl (resolveAll_eq_error.mpr
            ⟨_, _, _, _, split, resolved, refused, rfl⟩))⟩)

/-- A query over the fields of an entity is counted and fetched where its table is. -/
theorem Concerns.answered (concerns : Concerns query entity) {store : Store} {table : Table}
    (found : store.find? entity.table = some table) (sameSpec : table.spec = entity.spec) :
    (∃ total, store.count query = .ok total) ∧
      ∀ offset limit, ∃ rows, store.fetch query offset limit = .ok rows := by
  have known : table.Knows query :=
    fun field named => sameSpec ▸ column?_isSome (concerns.fields field named)
  have here : store.find? query.table = some table := concerns.table ▸ found
  refine ⟨⟨_, Store.count_of_find? here known⟩, fun offset limit => ?_⟩
  obtain ⟨all, part⟩ := Store.fetch_of_find? here known offset
  cases limit with
  | none => exact ⟨_, all⟩
  | some most => exact ⟨_, part most⟩

/--
Tokens make a query if and only if there are at most 32 filters and 8 sorts and all of them
resolve. The query is over the table of the entity, its predicates and order terms are the
resolutions in their order, and a store with this table counts and fetches it without fail. Tokens
that make none are refused without a cause for their number, and else for the first one that does
not resolve, filters before sorts; the cause is what refuses this token alone, for a filter its
form before its operator before its field before its operand.
-/
theorem buildQuery_iff_resolves (entity : Entity) (filters sorts : List String) :
    ((∃ query, buildQuery entity filters sorts = .ok query) ↔
      filters.length ≤ 32 ∧ sorts.length ≤ 8 ∧
        (∀ token ∈ filters, ∃ predicate, resolveFilter entity token = .ok predicate) ∧
        ∀ token ∈ sorts, ∃ term, resolveSort entity token = .ok term) ∧
      (∀ query, buildQuery entity filters sorts = .ok query ↔
        filters.length ≤ 32 ∧ sorts.length ≤ 8 ∧ query.table = entity.table ∧
          List.Forall₂ (fun token predicate => resolveFilter entity token = .ok predicate)
            filters query.predicates ∧
          List.Forall₂ (fun token term => resolveSort entity token = .ok term)
            sorts query.order) ∧
      (∀ query, buildQuery entity filters sorts = .ok query →
        ∀ (store : Store) (table : Table), store.find? entity.table = some table →
          table.spec = entity.spec →
          (∃ total, store.count query = .ok total) ∧
            ∀ offset limit, ∃ rows, store.fetch query offset limit = .ok rows) ∧
      (∀ error, buildQuery entity filters sorts = .error error ↔
        BuildRefused entity filters sorts error) ∧
      ∀ token cause, resolveFilter entity token = .error cause ↔ FilterRefused entity token cause := by
  refine ⟨⟨?_, ?_⟩, fun query => buildQuery_eq_ok, fun query built store table found sameSpec =>
    (concerns_buildQuery built).answered found sameSpec, fun error => buildQuery_eq_error,
    fun token cause => resolveFilter_eq_error⟩
  · rintro ⟨query, built⟩
    obtain ⟨few, fewSorts, -, filtersResolved, sortsResolved⟩ := buildQuery_eq_ok.mp built
    exact ⟨few, fewSorts, exists_mapM_eq_ok.mp ⟨_, mapM_eq_ok.mpr filtersResolved⟩,
      exists_mapM_eq_ok.mp ⟨_, mapM_eq_ok.mpr sortsResolved⟩⟩
  · rintro ⟨few, fewSorts, filtersResolve, sortsResolve⟩
    obtain ⟨predicates, filtersResolved⟩ := exists_mapM_eq_ok.mpr filtersResolve
    obtain ⟨order, sortsResolved⟩ := exists_mapM_eq_ok.mpr sortsResolve
    exact ⟨⟨entity.table, predicates, order⟩, buildQuery_eq_ok.mpr
      ⟨few, fewSorts, rfl, mapM_eq_ok.mp filtersResolved, mapM_eq_ok.mp sortsResolved⟩⟩

/-- The first of two bad filters is told, and a query of good tokens is answered. -/
theorem buildQuery_iff_resolves_movie :
    buildQuery movie ["exact(secret, x)", "like(title, x)"] [] =
        .error (.invalidToken "filter" "exact(secret, x)" (.unknownField "Movie" "secret")) ∧
      ∃ query, buildQuery movie ["partial(title, Alien)"] ["rating.desc"] = .ok query ∧
        query.predicates = [.like "title" ⟨.contains, "Alien"⟩] ∧
        (∃ total, emptyStore.count query = .ok total) ∧
        ∃ rows, emptyStore.fetch query 0 none = .ok rows := by
  obtain ⟨-, -, -, refused, -⟩ :=
    buildQuery_iff_resolves movie ["exact(secret, x)", "like(title, x)"] []
  obtain ⟨-, built, answered, -⟩ :=
    buildQuery_iff_resolves movie ["partial(title, Alien)"] ["rating.desc"]
  have made := (built ⟨"movie", [.like "title" ⟨.contains, "Alien"⟩], [⟨"rating", .descending⟩]⟩).mpr
    ⟨by decide, by decide, rfl, .cons rfl .nil, .cons rfl .nil⟩
  obtain ⟨counted, fetched⟩ := answered _ made emptyStore ⟨movie.spec, [], 1⟩ rfl rfl
  have split : ["exact(secret, x)", "like(title, x)"] =
      [] ++ "exact(secret, x)" :: ["like(title, x)"] := rfl
  have first : BuildRefused movie ["exact(secret, x)", "like(title, x)"] []
      (.invalidToken "filter" "exact(secret, x)" (.unknownField "Movie" "secret")) :=
    .filter (by decide) (by decide) split (by simp) rfl
  exact ⟨(refused _).mpr first, _, made, rfl, counted, fetched 0 none⟩

end MovieCatalogue.Endpoint

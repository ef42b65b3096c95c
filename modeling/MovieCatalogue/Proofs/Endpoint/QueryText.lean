import MovieCatalogue.Proofs.Endpoint.Building
import MovieCatalogue.Proofs.Endpoint.Dispatch
import MovieCatalogue.Proofs.Selection.QueryText

/-!
Contract: queries of tokens that are written alike.

Owns: that such queries of one entity have the same order terms and select the same rows from every
store, unless at one place a text behind a blank stands against the same text at the start of a
word; and that such a pair is written alike and selects different rows.
Does not own: how queries are written; see `Proofs.Selection.QueryText`.
-/

namespace MovieCatalogue.Storage

open MovieCatalogue.Selection

variable {query other : Query}

/-- Queries with the same order terms, and with conditions on the same fields that hold for the same
rows, are answered alike by every store. -/
theorem Store.answers_eq (sameTable : query.table = other.table)
    (sameOrder : query.order = other.order) (sameFields : query.fields = other.fields)
    (agree : List.Forall₂ Predicate.Agrees query.predicates other.predicates) (store : Store) :
    store.count query = store.count other ∧
      ∀ offset limit, store.fetch query offset limit = store.fetch other offset limit := by
  have sameRows (spec : Spec) (row : Row) :
      satisfies spec query.predicates row = satisfies spec other.predicates row := by
    unfold satisfies
    generalize query.predicates = predicates, other.predicates = others at agree
    induction agree with
    | nil => rfl
    | cons first _ inductionHypothesis =>
        rw [List.all_cons, List.all_cons, first spec row, inductionHypothesis]
  have sameHits (table : Table) : table.hits query = table.hits other := by
    rw [Table.hits, Table.hits]
    exact congrArg (List.filter · _) (funext fun row => sameRows _ _)
  have sameChecks (table : Table) : table.checkQuery query = table.checkQuery other := by
    rw [Table.checkQuery, Table.checkQuery, sameFields]
  have sameSelection (table : Table) : table.select query = table.select other := by
    rw [Table.select, Table.select, sameOrder, sameHits]
  constructor
  · simp only [Store.count, sameTable, sameChecks, sameHits]
  · intro offset limit
    simp only [Store.fetch, sameTable, sameChecks, sameSelection]

end MovieCatalogue.Storage

namespace MovieCatalogue.Endpoint

open MovieCatalogue.Record MovieCatalogue.Selection MovieCatalogue.Storage MovieCatalogue.Token

variable {entity : Entity} {query other : Query}

theorem Concerns.blank_not_mem (concerns : Concerns query entity) (member : entity ∈ catalogue) :
    ∀ name ∈ query.fields, ' ' ∉ name.toList :=
  fun name named => blank_not_mem_of_hasField member (concerns.fields name named)

/--
Two queries of tokens for one entity that are written alike have the same order terms and equally
many conditions. At each place the two conditions are on the same field and hold for the same rows,
unless one looks for a text behind a blank and the other one for the same text at the start of a
word. Where there is no such place, the two queries select the same rows from every store.
-/
theorem answers_of_same_text (member : entity ∈ catalogue)
    {filters sorts otherFilters otherSorts : List String}
    (built : buildQuery entity filters sorts = .ok query)
    (otherBuilt : buildQuery entity otherFilters otherSorts = .ok other)
    (same : query.text = other.text) :
    query.order = other.order ∧
      List.Forall₂ Predicate.Resembles query.predicates other.predicates ∧
      (List.Forall₂ (fun predicate other => ¬ predicate.Blurred other)
          query.predicates other.predicates →
        ∀ store : Store, store.count query = store.count other ∧
          ∀ offset limit, store.fetch query offset limit = store.fetch other offset limit) := by
  have concerns := concerns_buildQuery built
  have otherConcerns := concerns_buildQuery otherBuilt
  have sameTable : query.table = other.table := concerns.table.trans otherConcerns.table.symm
  obtain ⟨related, sameOrder⟩ := Query.text_inj sameTable (concerns.blank_not_mem member)
    (otherConcerns.blank_not_mem member) same
  refine ⟨sameOrder, related, fun apart store => ?_⟩
  have sameFields : query.fields = other.fields := by
    rw [Query.fields, Query.fields, sameOrder, List.append_cancel_right_eq, ← List.forall₂_eq_eq_eq,
      List.forall₂_map_left_iff, List.forall₂_map_right_iff]
    exact related.imp fun _ _ both => both.1
  have agree : List.Forall₂ Predicate.Agrees query.predicates other.predicates := by
    generalize query.predicates = predicates, other.predicates = others at related apart
    induction related with
    | nil => exact .nil
    | cons first _ inductionHypothesis =>
        obtain ⟨apartFirst, apartOthers⟩ := List.forall₂_cons.mp apart
        exact .cons (first.2.resolve_right apartFirst) (inductionHypothesis apartOthers)
  exact store.answers_eq sameTable sameOrder sameFields agree

/-- Nothing at the start and nothing at the end are written alike, and all films with a title have
both. -/
theorem answers_of_same_text_empty :
    ∃ query other, buildQuery movie ["start(title, )", "exact(genres, it's)"] [] = .ok query ∧
      buildQuery movie ["end(title, )", "exact(genres, it's)"] [] = .ok other ∧ query ≠ other ∧
      query.text = other.text ∧ ∀ store : Store, store.count query = store.count other := by
  have built : buildQuery movie ["start(title, )", "exact(genres, it's)"] [] =
      .ok ⟨"movie", [.like "title" ⟨.start, ""⟩, .equals "genres" "it's"], []⟩ := rfl
  have otherBuilt : buildQuery movie ["end(title, )", "exact(genres, it's)"] [] =
      .ok ⟨"movie", [.like "title" ⟨.finish, ""⟩, .equals "genres" "it's"], []⟩ := rfl
  have same : Query.text ⟨"movie", [.like "title" ⟨.start, ""⟩, .equals "genres" "it's"], []⟩ =
      Query.text ⟨"movie", [.like "title" ⟨.finish, ""⟩, .equals "genres" "it's"], []⟩ := by
    decide +kernel
  obtain ⟨-, -, answers⟩ := answers_of_same_text (by simp [catalogue]) built otherBuilt same
  have apart : List.Forall₂ (fun predicate other => ¬ Predicate.Blurred predicate other)
      [.like "title" ⟨.start, ""⟩, .equals "genres" "it's"]
      [.like "title" ⟨.finish, ""⟩, .equals "genres" "it's"] := by
    refine .cons ?_ (.cons ?_ .nil)
    · rintro ⟨_, _, _, ⟨⟩, -, _, ⟨⟨⟩, -⟩ | ⟨⟨⟩, -⟩⟩
    · rintro ⟨_, _, _, ⟨⟩, -⟩
  exact ⟨_, _, built, otherBuilt, by decide, same, fun store => (answers apart store).1⟩

/-- A film is found by the start of its title, but not by the same text behind a blank. -/
theorem same_text_of_other_rows : ∃ query other store, Reachable store ∧
    buildQuery movie ["partial(title,  Mars)"] [] = .ok query ∧
    buildQuery movie ["word_start(title, Mars)"] [] = .ok other ∧
    query.text = other.text ∧ store.count query = .ok 0 ∧ store.count other = .ok 1 := by
  let film : Row :=
    [("id", .int64 1), ("title", .text "Mars"), ("imdb_id", .null), ("tmdb_id", .null),
      ("poster_path", .null), ("release_date", .null), ("budget", .null), ("rating", .real .zero),
      ("vote_count", .int64 0), ("genres", .text "")]
  let after := emptyStore.put ⟨movie.spec, [⟨1, film⟩], 2⟩
  have committed : emptyStore.commit "movie" [.insert film] = .ok (after, [film]) := by rfl
  exact ⟨_, _, after, .committed .empty committed, rfl, rfl, by decide +kernel, by decide +kernel,
    by decide +kernel⟩

end MovieCatalogue.Endpoint

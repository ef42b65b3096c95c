import MovieCatalogue.Proofs.Endpoint.Dispatch
import MovieCatalogue.Proofs.Storage.Answering
import MovieCatalogue.Proofs.Token.Membership

/-!
Contract: filters by shown values.

Owns: that the token which asks for the text in which a stored value is shown resolves, and selects
the rows with this value and no others, in every column but those of reals.
Does not own: the tokens of whole keys; see `Proofs.Endpoint.Addressing`.
-/

namespace MovieCatalogue.Endpoint

open MovieCatalogue.Record MovieCatalogue.Selection MovieCatalogue.Storage MovieCatalogue.Token

variable {entity : Entity} {field : String} {column : Column}

/--
The token that asks for the text of a stored value resolves, whatever punctuation the text holds.
What it selects from the table are the rows that store this value, each of them once: the row itself
is among them, and no row without a value or with another one.
-/
theorem shown_value_selects {store : Store} (reachable : Reachable store)
    (member : entity ∈ catalogue) {table : Table} (stored : store.find? entity.table = some table)
    (found : entity.spec.column? field = some column) (notReal : column.kind ≠ .real)
    {row : StoredRow} (inTable : row ∈ table.rows) (present : valueAt row.cells field ≠ .null) :
    ∃ (shown : String) (predicate : Predicate) (answer : List StoredRow),
      Kind.render? (valueAt row.cells field) = some shown ∧
      resolveFilter entity (FilterToken.text ⟨"exact", field, shown⟩) = .ok predicate ∧
      store.count ⟨entity.table, [predicate], []⟩ = .ok answer.length ∧
      store.fetch ⟨entity.table, [predicate], []⟩ 0 none = .ok (answer.map StoredRow.cells) ∧
      answer.Sublist table.rows ∧
      ∀ other, other ∈ answer ↔
        other ∈ table.rows ∧ valueAt other.cells field = valueAt row.cells field := by
  obtain ⟨inSpec, rfl⟩ := Spec.mem_of_column? found
  have holds := reachable.holdsCatalogue
  obtain ⟨sameSpec, -⟩ := holds.wellFormed member stored
  have holdsValue (other : StoredRow) (otherIn : other ∈ table.rows) :
      column.Holds (valueAt other.cells column.name) :=
    (holds.rowHolds member stored otherIn).valueAt (nodup_columnNames member) inSpec
  have form : column.kind.Stores (valueAt row.cells column.name) :=
    (holdsValue row inTable).null_or_stores.resolve_left present
  obtain ⟨shown, isShown, readBack⟩ := Kind.exists_render form notReal
  have resolved := resolveFilter_exact member (hasField_of_column? found) shown
  let query : Query := ⟨entity.table, [.equals column.name shown], []⟩
  have knows : table.Knows query := by
    intro name named
    rw [List.mem_singleton.mp named, sameSpec]
    exact Option.isSome_of_mem found
  have counted : store.count query = .ok (table.hits query).length :=
    Store.length_select table query ▸ Store.count_of_find? stored knows
  refine ⟨shown, _, table.hits query, isShown, resolved, counted,
    (Store.fetch_of_find? stored knows 0).1, List.filter_sublist, fun other => ?_⟩
  rw [Table.mem_hits]
  refine and_congr_right fun otherIn => ?_
  rw [List.forall_mem_singleton, sameSpec, holds_equals_iff found (holdsValue other otherIn),
    readBack, Option.some.injEq, eq_comm]

/-- A genre whose name reads like a set is asked for as it is shown. -/
theorem shown_value_selects_genre :
    let name := "[a, b|c)"
    let first : StoredRow := ⟨1, [("id", .text name)]⟩
    let second : StoredRow := ⟨2, [("id", .text "c")]⟩
    ∃ (store : Store) (predicate : Predicate) (answer : List StoredRow), Reachable store ∧
      resolveFilter genre "exact(id, [a, b|c))" = .ok predicate ∧
      store.fetch ⟨"genre", [predicate], []⟩ 0 none = .ok (answer.map StoredRow.cells) ∧
      first ∈ answer ∧ second ∉ answer := by
  intro name first second
  let after : Store := emptyStore.put ⟨genre.spec, [first, second], 3⟩
  have committed : emptyStore.commit "genre" [.insert first.cells, .insert second.cells] =
      .ok (after, [first.cells, second.cells]) := by
    have applied : Table.applyAll ⟨genre.spec, [], 1⟩ [.insert first.cells, .insert second.cells] =
        .ok (⟨genre.spec, [first, second], 3⟩, [first.cells, second.cells]) := by
      dsimp only [first, second, name]
      with_unfolding_all rfl
    exact Store.commit_eq_ok.mpr ⟨_, _, rfl, applied, rfl⟩
  have reachable : Reachable after := .committed .empty committed
  have stored : after.find? "genre" = some ⟨genre.spec, [first, second], 3⟩ := rfl
  have column : genre.spec.column? "id" = some ⟨"id", .text, false⟩ := rfl
  have member : genre ∈ catalogue := by simp [catalogue]
  have ofFirst : valueAt first.cells "id" = .text name := rfl
  have ofSecond : valueAt second.cells "id" = .text "c" := rfl
  have inTable : first ∈ [first, second] := List.mem_cons_self
  have present : valueAt first.cells "id" ≠ .null := by simp [ofFirst]
  obtain ⟨shown, predicate, answer, isShown, resolved, -, fetched, -, selected⟩ :=
    shown_value_selects reachable member stored column (by decide) inTable present
  rw [ofFirst] at isShown
  have same : name = shown := Option.some.inj isShown
  have written : FilterToken.text ⟨"exact", "id", name⟩ = "exact(id, [a, b|c))" := by
    decide +kernel
  rw [← same, written] at resolved
  refine ⟨after, predicate, answer, reachable, resolved, fetched, (selected _).mpr (by simp), ?_⟩
  rw [selected, ofFirst, ofSecond]
  rintro ⟨-, sameName⟩
  simp [name] at sameName

end MovieCatalogue.Endpoint

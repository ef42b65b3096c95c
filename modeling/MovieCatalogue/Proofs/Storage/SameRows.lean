import MovieCatalogue.Proofs.Storage.Run

/-!
Contract: stores that differ in their row numbers only.

Owns: `Table.SameRows` and `Store.SameRows`, the same declarations and the same rows in
the same order; and that such stores give the same answers, since row numbers grow along
the rows of both.
Does not own: how such stores come about.
-/

namespace MovieCatalogue.Storage

open MovieCatalogue.Selection

/-! ## Tables -/

namespace Table

/-- The same declaration and the same rows in the same order. -/
structure SameRows (first second : Table) : Prop where
  spec : first.spec = second.spec
  cells : first.rows.map StoredRow.cells = second.rows.map StoredRow.cells

/-- Row numbers grow along rows. -/
private def Ordered (rows : List StoredRow) : Prop :=
  rows.Pairwise fun first second => first.rowid < second.rowid

/-- In pairs of rows whose numbers grow along both sides, both sides are in the same order. -/
private theorem compare_rowids {pairs : List (StoredRow × StoredRow)}
    (firstOrdered : Ordered (pairs.map Prod.fst)) (secondOrdered : Ordered (pairs.map Prod.snd)) :
    ∀ pair ∈ pairs, ∀ other ∈ pairs,
      compare pair.1.rowid other.1.rowid = compare pair.2.rowid other.2.rowid := by
  rw [Ordered, List.pairwise_map] at firstOrdered secondOrdered
  have below := firstOrdered.and secondOrdered
  intro pair member other otherMember
  refine List.Pairwise.forall_of_forall_of_flip
    (R := fun pair other : StoredRow × StoredRow =>
      compare pair.1.rowid other.1.rowid = compare pair.2.rowid other.2.rowid)
    ?_ (below.imp ?_) (below.imp ?_) member otherMember
  · intro pair _
    rw [Nat.compare_eq_eq.mpr rfl, Nat.compare_eq_eq.mpr rfl]
  · intro pair other less
    rw [Nat.compare_eq_lt.mpr less.1, Nat.compare_eq_lt.mpr less.2]
  · intro pair other less
    rw [flip, Nat.compare_eq_gt.mpr less.1, Nat.compare_eq_gt.mpr less.2]

/-- Two lists of rows are sorted in the same way if they have the same cells and row numbers grow
along both. -/
private theorem map_cells_mergeSort {first second : List StoredRow} (order : List OrderTerm)
    (same : first.map StoredRow.cells = second.map StoredRow.cells) (firstOrdered : Ordered first)
    (secondOrdered : Ordered second) :
    (first.mergeSort (precedes order)).map StoredRow.cells =
      (second.mergeSort (precedes order)).map StoredRow.cells := by
  have sameLength : first.length = second.length := by
    simpa using congrArg List.length same
  -- The rows are sorted as pairs, which both orders of pairs compare in the same way.
  generalize pairing : first.zip second = pairs
  have firsts : pairs.map Prod.fst = first := by
    rw [← pairing, List.map_fst_zip (Nat.le_of_eq sameLength)]
  have seconds : pairs.map Prod.snd = second := by
    rw [← pairing, List.map_snd_zip (Nat.le_of_eq sameLength.symm)]
  have sameCells : ∀ pair ∈ pairs, pair.1.cells = pair.2.cells := by
    rw [← firsts, ← seconds, List.map_map, List.map_map] at same
    exact List.map_inj_left.mp same
  have sameNumbers := compare_rowids (firsts ▸ firstOrdered) (seconds ▸ secondOrdered)
  have firstSorted := List.map_mergeSort (r := fun pair other => precedes order pair.1 other.1)
    (s := precedes order) (f := Prod.fst) (l := pairs) fun _ _ _ _ => rfl
  have secondSorted := List.map_mergeSort (r := fun pair other => precedes order pair.1 other.1)
    (s := precedes order) (f := Prod.snd) (l := pairs) (by
      intro pair member other otherMember
      rw [precedes, precedes, sameCells pair member, sameCells other otherMember,
        sameNumbers pair member other otherMember])
  rw [firsts] at firstSorted
  rw [seconds] at secondSorted
  rw [← firstSorted, ← secondSorted, List.map_map, List.map_map]
  exact List.map_congr_left fun pair member => sameCells pair (List.mem_mergeSort.mp member)

namespace SameRows

variable {first second : Table}

theorem map_cells_hits (same : first.SameRows second) (query : Query) :
    (first.hits query).map StoredRow.cells = (second.hits query).map StoredRow.cells := by
  have filtered (table : Table) : (table.hits query).map StoredRow.cells =
      (table.rows.map StoredRow.cells).filter (satisfies table.spec query.predicates) := by
    rw [hits, List.filter_map]
    rfl
  rw [filtered, filtered, same.cells, same.spec]

theorem select_eq (same : first.SameRows second) (firstSound : first.Sound)
    (secondSound : second.Sound) (query : Query) : first.select query = second.select query := by
  have sameHits := same.map_cells_hits query
  unfold select
  split
  case isTrue => exact sameHits
  case isFalse =>
      exact map_cells_mergeSort query.order sameHits (firstSound.ordered.filter _)
        (secondSound.ordered.filter _)

theorem checkQuery_eq (same : first.SameRows second) (query : Query) :
    first.checkQuery query = second.checkQuery query := by
  rw [checkQuery, checkQuery, same.spec]

end SameRows

end Table

/-! ## Stores -/

namespace Store

/-- Under every name the same rows, or no table in both. -/
def SameRows (first second : Store) : Prop :=
  ∀ name, Option.Rel Table.SameRows (first.find? name) (second.find? name)

namespace SameRows

variable {first second : Store}

theorem find?_cases (same : first.SameRows second) (name : String) :
    first.find? name = none ∧ second.find? name = none ∨
      ∃ table other, first.find? name = some table ∧ second.find? name = some other ∧
        table.SameRows other := by
  have related := same name
  generalize found : first.find? name = table at related
  generalize foundOther : second.find? name = other at related
  cases related with
  | none => exact .inl ⟨rfl, rfl⟩
  | some sameTable => exact .inr ⟨_, _, rfl, rfl, sameTable⟩

/-- What is looked up in the table of a name is the same if it hangs on nothing but the rows. -/
private theorem get_bind_eq {α : Type} (same : first.SameRows second) (firstSound : first.Sound)
    (secondSound : second.Sound) {look : Table → Except StoreError α} (name : String)
    (alike : ∀ {table other : Table}, table.SameRows other → table.Sound → other.Sound →
      look table = look other) :
    (first.get name >>= look) = (second.get name >>= look) := by
  unfold get
  rcases same.find?_cases name with ⟨none, noneToo⟩ | ⟨table, other, found, foundOther, sameTable⟩
  · rw [none, noneToo]
  · rw [found, foundOther]
    exact alike sameTable (firstSound.tables table (mem_of_find? found))
      (secondSound.tables other (mem_of_find? foundOther))

variable (same : first.SameRows second) (firstSound : first.Sound) (secondSound : second.Sound)
include same firstSound secondSound

theorem rows_eq (name : String) : first.rows name = second.rows name := by
  have asBind (store : Store) : store.rows name =
      store.get name >>= fun table => .ok (table.rows.map StoredRow.cells) := by
    unfold rows
    cases store.get name <;> rfl
  rw [asBind, asBind]
  refine get_bind_eq same firstSound secondSound name fun sameTable _ _ => ?_
  rw [sameTable.cells]

theorem count_eq (query : Query) : first.count query = second.count query := by
  refine get_bind_eq same firstSound secondSound query.table fun sameTable _ _ => ?_
  have sameNumber := congrArg List.length (sameTable.map_cells_hits query)
  rw [List.length_map, List.length_map] at sameNumber
  rw [sameTable.checkQuery_eq, sameNumber]

theorem fetch_eq (query : Query) (offset : Nat) (limit : Option Nat) :
    first.fetch query offset limit = second.fetch query offset limit := by
  refine get_bind_eq same firstSound secondSound query.table
    fun sameTable tableSound otherSound => ?_
  rw [sameTable.checkQuery_eq, sameTable.select_eq tableSound otherSound]

end SameRows

end Store

end MovieCatalogue.Storage

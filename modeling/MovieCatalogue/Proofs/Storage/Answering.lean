import Mathlib.Data.List.Sort
import MovieCatalogue.Proofs.Storage.Run
import MovieCatalogue.Proofs.Storage.StoredOrder

/-!
Contract: what a query is answered with.

Owns: `Table.Answers`, the meaning of a query: every stored row that satisfies all its
predicates, once, in the order of the terms and, where these leave rows tied, in the order
of insertion; that a sound table has exactly one such list; and that a query over known
columns is counted by its length and fetched from it, and any other is refused.
Does not own: pages; see `Proofs.Endpoint.Paging`.
-/

namespace MovieCatalogue.Storage

open MovieCatalogue.Refusal MovieCatalogue.Selection

namespace Table

/-! ## Meaning -/

/-- A row belongs before another one: it is ahead by the terms, or tied with it on all of
them and inserted earlier. -/
def InOrder (table : Table) (order : List OrderTerm) (first second : StoredRow) : Prop :=
  Ahead order first.cells second.cells ∨
    TiedOn order first.cells second.cells ∧ [first, second].Sublist table.rows

/-- A list of rows is what a query asks for. -/
structure Answers (table : Table) (query : Query) (answer : List StoredRow) : Prop where
  once : answer.Nodup
  mem_iff : ∀ row, row ∈ answer ↔
    row ∈ table.rows ∧ ∀ predicate ∈ query.predicates, predicate.holds table.spec row.cells = true
  ordered : answer.Pairwise (table.InOrder query.order)

variable {table : Table} {query : Query} {order : List OrderTerm} {first second : StoredRow}

/-! ## Stored rows -/

theorem Sound.nodup_rowids (sound : table.Sound) : (table.rows.map StoredRow.rowid).Nodup :=
  List.pairwise_map.mpr (sound.ordered.imp fun less => Nat.ne_of_lt less)

theorem Sound.rowid_lt_of_sublist (sound : table.Sound)
    (earlier : [first, second].Sublist table.rows) : first.rowid < second.rowid :=
  List.pairwise_iff_forall_sublist.mp sound.ordered earlier

/-- Of two stored rows the one with the smaller number was inserted earlier. -/
theorem Sound.sublist_of_rowid_lt (sound : table.Sound) (firstMember : first ∈ table.rows)
    (secondMember : second ∈ table.rows) (less : first.rowid < second.rowid) :
    [first, second].Sublist table.rows := by
  have antisymmetric : Std.Antisymm fun first second : StoredRow => first.rowid < second.rowid :=
    ⟨fun _ _ less greater => absurd greater (Nat.lt_asymm less)⟩
  have distinct : [first, second].Nodup :=
    List.pairwise_pair.mpr fun same => Nat.ne_of_lt less (congrArg StoredRow.rowid same)
  have inside : [first, second] ⊆ table.rows := by simp [firstMember, secondMember]
  have ordered : [first, second].Pairwise fun first second => first.rowid < second.rowid :=
    List.pairwise_pair.mpr less
  exact List.sublist_of_subperm_of_pairwise (List.subperm_of_subset distinct inside) ordered
    sound.ordered

/-- Any two stored rows have values of one column under the field of every term. -/
theorem Sound.comparable (sound : table.Sound)
    (known : ∀ term ∈ order, (table.spec.column? term.field).isSome = true)
    (firstMember : first ∈ table.rows) (secondMember : second ∈ table.rows) :
    Comparable order first.cells second.cells := by
  intro term member
  obtain ⟨column, -, -, holds⟩ := exists_column_holds (known term member)
  exact ⟨column, holds (sound.stored first firstMember), holds (sound.stored second secondMember)⟩

/-! ## At most one answer -/

/-- No two rows belong before each other. -/
theorem Sound.inOrder_asymm (sound : table.Sound) (before : table.InOrder order first second) :
    ¬ table.InOrder order second first := by
  intro behind
  rcases before with ahead | ⟨tied, earlier⟩
  · rcases behind with aheadAgain | ⟨tied, -⟩
    · exact ahead.asymm aheadAgain
    · exact ahead.not_tiedOn tied.symm
  · rcases behind with ahead | ⟨-, later⟩
    · exact ahead.not_tiedOn tied.symm
    · have less := sound.rowid_lt_of_sublist earlier
      exact Nat.lt_asymm less (sound.rowid_lt_of_sublist later)

theorem Sound.answers_unique (sound : table.Sound) {answer other : List StoredRow}
    (answers : table.Answers query answer) (othersToo : table.Answers query other) :
    answer = other := by
  have sameRows : answer.Perm other := by
    rw [List.perm_ext_iff_of_nodup answers.once othersToo.once]
    exact fun row => (answers.mem_iff row).trans (othersToo.mem_iff row).symm
  exact sameRows.eq_of_pairwise
    (fun _ _ _ _ before behind => absurd behind (sound.inOrder_asymm before))
    answers.ordered othersToo.ordered

/-! ## The answer -/

/-- The stored rows that a query selects, in their order. -/
def ranked (table : Table) (query : Query) : List StoredRow :=
  if query.order.isEmpty then table.hits query
  else (table.hits query).mergeSort (precedes query.order)

theorem select_eq_map_ranked (table : Table) (query : Query) :
    table.select query = (table.ranked query).map StoredRow.cells := rfl

theorem perm_ranked (table : Table) (query : Query) :
    (table.ranked query).Perm (table.hits query) := by
  unfold ranked
  split
  · exact .refl _
  · exact List.mergeSort_perm _ _

theorem mem_hits {row : StoredRow} : row ∈ table.hits query ↔
    row ∈ table.rows ∧ ∀ predicate ∈ query.predicates, predicate.holds table.spec row.cells = true := by
  rw [hits, List.mem_filter, satisfies, List.all_eq_true]

theorem precedes_eq_true_iff (comparable : Comparable order first.cells second.cells) :
    precedes order first second = true ↔ Ahead order first.cells second.cells ∨
      TiedOn order first.cells second.cells ∧ first.rowid ≤ second.rowid := by
  rw [precedes, ← compareRows_eq_lt_iff comparable, ← compareRows_eq_eq_iff comparable]
  cases compareRows order first.cells second.cells with
  | lt => simp
  | eq => simp [Nat.isLE_compare]
  | gt => simp

variable (sound : table.Sound)
  (known : ∀ term ∈ order, (table.spec.column? term.field).isSome = true)
include sound known

theorem precedes_total (firstMember : first ∈ table.rows) (secondMember : second ∈ table.rows) :
    (precedes order first second || precedes order second first) = true := by
  have comparable := sound.comparable known firstMember secondMember
  rw [Bool.or_eq_true, precedes_eq_true_iff comparable, precedes_eq_true_iff comparable.symm]
  rcases comparable.cases with ahead | tied | behind
  · exact .inl (.inl ahead)
  · rcases Nat.le_total first.rowid second.rowid with least | least
    · exact .inl (.inr ⟨tied, least⟩)
    · exact .inr (.inr ⟨tied.symm, least⟩)
  · exact .inr (.inl behind)

theorem precedes_trans {third : StoredRow} (firstMember : first ∈ table.rows)
    (secondMember : second ∈ table.rows) (thirdMember : third ∈ table.rows)
    (before : precedes order first second = true) (beforeAgain : precedes order second third = true) :
    precedes order first third = true := by
  rw [precedes_eq_true_iff (sound.comparable known firstMember secondMember)] at before
  rw [precedes_eq_true_iff (sound.comparable known secondMember thirdMember)] at beforeAgain
  rw [precedes_eq_true_iff (sound.comparable known firstMember thirdMember)]
  rcases before with ahead | ⟨tied, least⟩
  · rcases beforeAgain with aheadAgain | ⟨tied, -⟩
    · exact .inl (ahead.trans aheadAgain)
    · exact .inl (ahead.congr (fun _ _ => rfl) tied)
  · rcases beforeAgain with ahead | ⟨tiedAgain, leastAgain⟩
    · exact .inl (ahead.congr tied.symm fun _ _ => rfl)
    · exact .inr ⟨tied.trans tiedAgain, Nat.le_trans least leastAgain⟩

/-- Stored rows are sorted, although rows in general are not: the comparison of values is
transitive only on values of one column. -/
theorem pairwise_precedes_mergeSort {rows : List StoredRow} (inTable : rows ⊆ table.rows) :
    (rows.mergeSort (precedes order)).Pairwise fun first second =>
      precedes order first second = true := by
  have sorted := @List.pairwise_mergeSort { row // row ∈ rows }
    (fun first second => precedes order first.1 second.1)
    (fun first second third => precedes_trans sound known (inTable first.2) (inTable second.2)
      (inTable third.2))
    (fun first second => precedes_total sound known (inTable first.2) (inTable second.2))
    rows.attach
  have withoutProofs := List.map_mergeSort
    (r := fun first second : { row // row ∈ rows } => precedes order first.1 second.1)
    (s := precedes order) (f := Subtype.val) (l := rows.attach) fun _ _ _ _ => rfl
  rw [List.attach_map_subtype_val] at withoutProofs
  rw [← withoutProofs]
  exact List.pairwise_map.mpr sorted

omit known in
theorem answers_ranked (known : table.Knows query) : table.Answers query (table.ranked query) := by
  have inTable : table.hits query ⊆ table.rows := fun _ member => (mem_hits.mp member).1
  have distinct : (table.hits query).Nodup := sound.nodup_rowids.of_map.filter _
  have same := perm_ranked table query
  refine ⟨same.nodup_iff.mpr distinct, fun row => same.mem_iff.trans mem_hits, ?_⟩
  unfold ranked
  split
  case isTrue noTerms =>
      rw [List.isEmpty_iff.mp noTerms]
      refine List.pairwise_iff_forall_sublist.mpr fun {first second} part => .inr ⟨?_, ?_⟩
      · exact fun _ member => (nomatch member)
      · exact part.trans List.filter_sublist
  case isFalse =>
      have knownTerms : ∀ term ∈ query.order, (table.spec.column? term.field).isSome = true :=
        fun term member => known term.field (List.mem_append_right _ (List.mem_map_of_mem member))
      have sorted := pairwise_precedes_mergeSort sound knownTerms inTable
      have different := (List.mergeSort_perm (table.hits query) (precedes query.order)).nodup_iff.mpr
        distinct
      refine (sorted.and different).imp_of_mem fun {first second} firstMember secondMember both => ?_
      obtain ⟨before, apart⟩ := both
      have firstStored := inTable (List.mem_mergeSort.mp firstMember)
      have secondStored := inTable (List.mem_mergeSort.mp secondMember)
      rw [precedes_eq_true_iff (sound.comparable knownTerms firstStored secondStored)] at before
      refine before.imp_right fun ⟨tied, least⟩ => ⟨tied, ?_⟩
      refine sound.sublist_of_rowid_lt firstStored secondStored ?_
      exact Nat.lt_of_le_of_ne least fun sameNumber =>
        apart (List.inj_on_of_nodup_map sound.nodup_rowids firstStored secondStored sameNumber)

end Table

/-! ## Stores -/

namespace Store

variable {store : Store} {query : Query} {table : Table}

/-- A query over a table that is not declared is refused. -/
theorem count_fetch_of_find?_eq_none (notFound : store.find? query.table = none) :
    store.count query = .error (.noSuchTable query.table) ∧
      ∀ offset limit, store.fetch query offset limit = .error (.noSuchTable query.table) := by
  have refused : store.get query.table = .error (.noSuchTable query.table) := by
    rw [get, notFound]
  exact ⟨by rw [count, refused]; rfl, fun offset limit => by rw [fetch, refused]; rfl⟩

/-- A query is refused for the first field that is not a column. -/
theorem count_fetch_of_not_knows (found : store.find? query.table = some table)
    (unknown : ¬ table.Knows query) :
    ∃ field ∈ query.fields, table.spec.column? field = none ∧
      store.count query = .error (.noSuchColumn table.spec.name field) ∧
      ∀ offset limit, store.fetch query offset limit =
        .error (.noSuchColumn table.spec.name field) := by
  have taken : store.get query.table = .ok table := get_eq_ok.mpr found
  cases missing : query.fields.find? fun field => (table.spec.column? field).isNone with
  | none =>
      have noneMissing : table.checkQuery query = .ok () := by rw [Table.checkQuery, missing]
      exact absurd (checkQuery_eq_ok.mp noneMissing) unknown
  | some field =>
      have refused : table.checkQuery query = .error (.noSuchColumn table.spec.name field) := by
        rw [Table.checkQuery, missing]
      have notColumn := List.find?_some missing
      refine ⟨field, List.mem_of_find?_eq_some missing, Option.isNone_iff_eq_none.mp notColumn,
        ?_, fun offset limit => ?_⟩
      · simp only [count, taken, refused, bind, Except.bind]
      · simp only [fetch, taken, refused, bind, Except.bind]

/--
Queries mean what they say in every store that can be reached. A query over the columns of
a table has exactly one answer: the rows that satisfy its predicates, in the order of its
terms, tied rows in the order of insertion. Its length is counted, and it is fetched from any
offset on, as far as a limit allows. Any other query is refused, for one reason in both cases.
-/
theorem count_fetch_run (operations : List Operation) (query : Query) :
    let store := empty.run operations
    (∀ {table}, store.find? query.table = some table → table.Knows query →
      ∃ answer, table.Answers query answer ∧
        (∀ other, table.Answers query other → other = answer) ∧
        store.count query = .ok answer.length ∧ ∀ offset,
          store.fetch query offset none = .ok ((answer.drop offset).map StoredRow.cells) ∧
          ∀ limit, store.fetch query offset (some limit) =
            .ok (((answer.drop offset).take limit).map StoredRow.cells)) ∧
    (store.find? query.table = none →
      store.count query = .error (.noSuchTable query.table) ∧
        ∀ offset limit, store.fetch query offset limit = .error (.noSuchTable query.table)) ∧
    ∀ {table}, store.find? query.table = some table → ¬ table.Knows query →
      ∃ field ∈ query.fields, table.spec.column? field = none ∧
        store.count query = .error (.noSuchColumn table.spec.name field) ∧
        ∀ offset limit, store.fetch query offset limit =
          .error (.noSuchColumn table.spec.name field) := by
  intro store
  refine ⟨?_, count_fetch_of_find?_eq_none, count_fetch_of_not_knows⟩
  intro table found known
  have sound : table.Sound := (sound_run operations).tables table (mem_of_find? found)
  have answers := Table.answers_ranked sound known
  have counted := count_of_find? found known
  rw [Table.select_eq_map_ranked, List.length_map] at counted
  refine ⟨table.ranked query, answers, fun _ others => sound.answers_unique others answers,
    counted, fun offset => ?_⟩
  have fetched := fetch_of_find? found known offset
  rw [Table.select_eq_map_ranked, ← List.map_drop] at fetched
  exact ⟨fetched.1, fun limit => by rw [fetched.2, List.map_take]⟩

/-- Films of one year stand in the order of insertion, those without a year first. -/
theorem count_fetch_run_film :
    let spec : Spec := ⟨"film", [⟨"title", .text, false⟩, ⟨"year", .integer, true⟩], ["title"], []⟩
    let film (title : String) (year : Value) : Row := [("title", .text title), ("year", year)]
    let first := film "Otto e mezzo" (.int64 1963)
    let second := film "Il gattopardo" (.int64 1963)
    let third := film "Untitled" .null
    let store := empty.run
      [.declare spec, .commit "film" [.insert first, .insert second, .insert third]]
    let byYear : Query := ⟨"film", [], [⟨"year", .ascending⟩]⟩
    (∃ table answer, store.find? "film" = some table ∧ table.Answers byYear answer ∧
      answer.map StoredRow.cells = [third, first, second] ∧ store.count byYear = .ok 3 ∧
      store.fetch byYear 1 (some 1) = .ok [first]) ∧
    store.count ⟨"actor", [], []⟩ = .error (.noSuchTable "actor") ∧
    store.count ⟨"film", [], [⟨"length", .ascending⟩]⟩ = .error (.noSuchColumn "film" "length") := by
  intro spec film first second third store byYear
  obtain ⟨answered, -, -⟩ := count_fetch_run
    [.declare spec, .commit "film" [.insert first, .insert second, .insert third]] byYear
  obtain ⟨answer, answers, -, counted, fetched⟩ := answered rfl (List.forall_mem_singleton.mpr rfl)
  have sameYear : Table.precedes byYear.order ⟨1, first⟩ ⟨2, second⟩ = true := by decide
  have noYear : Table.precedes byYear.order ⟨1, first⟩ ⟨3, third⟩ = false := by decide
  have all : store.fetch byYear 0 none = .ok [third, first, second] := by
    change Except.ok (([⟨1, first⟩, ⟨2, second⟩, ⟨3, third⟩].mergeSort
      (Table.precedes byYear.order)).map StoredRow.cells) = _
    simp [List.mergeSort, sameYear, noYear]
  have cells : answer.map StoredRow.cells = [third, first, second] := by
    have fetchedAll := (fetched 0).1
    exact (Except.ok.inj (all.symm.trans fetchedAll)).symm
  have fetchedSecond := (fetched 1).2 1
  rw [List.map_take, List.map_drop, cells] at fetchedSecond
  exact ⟨⟨_, answer, rfl, answers, cells, by decide, fetchedSecond⟩, by decide, by decide⟩

end Store

end MovieCatalogue.Storage

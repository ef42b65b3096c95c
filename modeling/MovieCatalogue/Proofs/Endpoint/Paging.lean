import Mathlib.Algebra.Order.Floor.Div
import MovieCatalogue.Endpoint.Listing
import MovieCatalogue.Proofs.Storage.Answering

/-!
Contract: pages and the whole result.

Owns: how many pages a result has, which pages are given, what each of them says and how
many items it has, and that all pages in their order are the whole result, every row once.
Does not own: which rows are the result, and in which order; see `Proofs.Storage.Answering`.
-/

namespace MovieCatalogue.Selection

open MovieCatalogue.Number

variable {α : Type} {total limit page : Nat}

/-! ## The number of pages -/

theorem totalPages_eq (total : Nat) (positive : 1 ≤ limit) :
    totalPages total limit = max 1 (total ⌈/⌉ limit) := by
  rw [totalPages, if_neg (Nat.ne_of_gt positive), ceilDiv, Nat.ceilDiv_eq_add_pred_div,
    Nat.max_comm]

/-- All pages together have room for all items. -/
theorem le_pages_mul (total : Nat) (positive : 1 ≤ limit) :
    total ≤ max 1 (total ⌈/⌉ limit) * limit := by
  rw [Nat.mul_comm, ← ceilDiv_le_iff_le_mul positive]
  exact Nat.le_max_right _ _

/-- Behind a page before the last one there are items left. -/
theorem mul_lt_of_lt_pages (positive : 1 ≤ limit) (first : 1 ≤ page)
    (notLast : page < max 1 (total ⌈/⌉ limit)) : page * limit < total := by
  rw [Nat.mul_comm, ← Nat.not_le, ← ceilDiv_le_iff_le_mul positive]
  omega

/-- A page begins behind fewer rows than a number that is positive and large enough for all. -/
theorem pred_mul_lt {bound : Nat} (positive : 1 ≤ limit) (last : page ≤ max 1 (total ⌈/⌉ limit))
    (large : total ≤ bound) (someRoom : 0 < bound) : (page - 1) * limit < bound := by
  by_cases first : page ≤ 1
  · rwa [Nat.sub_eq_zero_of_le first, Nat.zero_mul]
  · have inside : (page - 1) * limit < total := mul_lt_of_lt_pages positive (by omega) (by omega)
    exact Nat.lt_of_lt_of_le inside large

/-! ## The items of a page -/

/-- The items of a page of a result. -/
def pageItems (items : List α) (limit page : Nat) : List α :=
  (items.drop ((page - 1) * limit)).take limit

/-- The first pages hold the first items. -/
theorem flatMap_pageItems (items : List α) (limit pages : Nat) :
    (List.range' 1 pages).flatMap (pageItems items limit) = items.take (pages * limit) := by
  induction pages with
  | zero => simp
  | succ pages inductionHypothesis =>
      rw [List.range'_1_concat, List.flatMap_append, inductionHypothesis, List.flatMap_singleton,
        pageItems, Nat.add_sub_cancel_left, Nat.succ_mul, List.take_add]

theorem flatMap_pageItems_all (items : List α) (positive : 1 ≤ limit) :
    (List.range' 1 (max 1 (items.length ⌈/⌉ limit))).flatMap (pageItems items limit) = items := by
  rw [flatMap_pageItems]
  exact List.take_of_length_le (le_pages_mul items.length positive)

theorem length_pageItems (items : List α) (limit page : Nat) :
    (pageItems items limit page).length = min limit (items.length - (page - 1) * limit) := by
  rw [pageItems, List.length_take, List.length_drop]

theorem length_pageItems_of_lt {items : List α} (positive : 1 ≤ limit) (first : 1 ≤ page)
    (notLast : page < max 1 (items.length ⌈/⌉ limit)) :
    (pageItems items limit page).length = limit := by
  have inside := mul_lt_of_lt_pages positive first notLast
  have whole : page * limit = (page - 1) * limit + limit := by
    rw [← Nat.succ_mul, Nat.succ_eq_add_one, Nat.sub_add_cancel first]
  rw [length_pageItems]
  omega

theorem length_pageItems_pos {items : List α} (positive : 1 ≤ limit)
    (last : page ≤ max 1 (items.length ⌈/⌉ limit)) (some : 0 < items.length) :
    1 ≤ (pageItems items limit page).length := by
  have inside := pred_mul_lt positive last (Nat.le_refl _) some
  rw [length_pageItems]
  omega

end MovieCatalogue.Selection

namespace MovieCatalogue.Endpoint

open MovieCatalogue.Number MovieCatalogue.Selection MovieCatalogue.Storage

variable {store : Store} {query : Query} {table : Table} {total limit page : Nat}

/-- As long as the items can be counted in a word, no page starts past the largest one. -/
theorem pageOffset_bounds (words : total ≤ maxWord) (positive : 1 ≤ limit)
    (last : page ≤ max 1 (total ⌈/⌉ limit)) :
    (page - 1) * limit < maxWord ∧ pageOffset page limit = (page - 1) * limit := by
  have bounded : (page - 1) * limit < maxWord := pred_mul_lt positive last words (by decide)
  exact ⟨bounded, Nat.min_eq_left (Nat.le_of_lt bounded)⟩

section Pages

variable (found : store.find? query.table = some table) (known : table.Knows query)
  (positive : 1 ≤ limit)
include found known positive

theorem paginate_of_outside
    (outside : page = 0 ∨ max 1 ((table.select query).length ⌈/⌉ limit) < page) :
    paginate store query page limit = .error (.invalid "page number exceeds limits") := by
  have counted := Store.count_of_find? found known
  rw [← totalPages_eq _ positive] at outside
  simp only [paginate, if_neg (Nat.ne_of_gt positive), counted, internally, Except.mapError, bind,
    Except.bind, pure, Except.pure, if_pos outside]
  rfl

theorem paginate_of_inside (words : (table.select query).length ≤ maxWord) (first : 1 ≤ page)
    (last : page ≤ max 1 ((table.select query).length ⌈/⌉ limit)) :
    paginate store query page limit = .ok {
      page := page
      totalPages := max 1 ((table.select query).length ⌈/⌉ limit)
      totalItems := (table.select query).length
      itemsPerPage := limit
      hasNext := page < max 1 ((table.select query).length ⌈/⌉ limit)
      hasPrev := 1 < page
      items := pageItems (table.select query) limit page } := by
  have counted := Store.count_of_find? found known
  obtain ⟨-, fetched⟩ := Store.fetch_of_find? found known ((page - 1) * limit)
  have inside : ¬ (page = 0 ∨ max 1 ((table.select query).length ⌈/⌉ limit) < page) := by omega
  simp only [paginate, if_neg (Nat.ne_of_gt positive), counted, internally, Except.mapError, bind,
    Except.bind, pure, Except.pure, totalPages_eq _ positive, if_neg inside,
    (pageOffset_bounds words positive last).2, fetched]
  rfl

end Pages

/--
The pages of a result are the result. There are as many as are needed for all rows, one at
least, and no page outside of them is given. Each page tells its place; the ones before the
last are full, the last one is empty only if there are no rows; and all of them one after the
other are the rows of the result as they are fetched without a limit. The number of rows is a
word, and the number of rows before a page is below the largest one.
-/
theorem paginate_partition (found : store.find? query.table = some table)
    (known : table.Knows query) (words : ∀ total, store.count query = .ok total → total ≤ maxWord)
    (positive : 1 ≤ limit) :
    ∃ total rows, store.count query = .ok total ∧ store.fetch query 0 none = .ok rows ∧
      rows.length = total ∧
      let pages := max 1 (total ⌈/⌉ limit)
      (∀ page, page = 0 ∨ pages < page →
        paginate store query page limit = .error (.invalid "page number exceeds limits")) ∧
      ∃ itemsOf : Nat → List Row,
        (∀ page, 1 ≤ page → page ≤ pages →
          paginate store query page limit = .ok {
            page := page
            totalPages := pages
            totalItems := total
            itemsPerPage := limit
            hasNext := page < pages
            hasPrev := 1 < page
            items := itemsOf page } ∧
          (page - 1) * limit < maxWord) ∧
        (∀ page, 1 ≤ page → page < pages → (itemsOf page).length = limit) ∧
        (0 < total → 1 ≤ (itemsOf pages).length) ∧
        (List.range' 1 pages).flatMap itemsOf = rows := by
  have counted := Store.count_of_find? found known
  have inWords := words _ counted
  refine ⟨_, table.select query, counted, (Store.fetch_of_find? found known 0).1, rfl, ?_⟩
  intro pages
  refine ⟨fun page => paginate_of_outside found known positive,
    pageItems (table.select query) limit, ?_, ?_, ?_, flatMap_pageItems_all _ positive⟩
  · intro page first last
    exact ⟨paginate_of_inside found known positive inWords first last,
      (pageOffset_bounds inWords positive last).1⟩
  · exact fun page first notLast => length_pageItems_of_lt positive first notLast
  · exact fun some => length_pageItems_pos positive (Nat.le_refl _) some

/-- Three rows, two on a page: the second page is the last one, and there is no third. -/
theorem paginate_partition_country :
    let spec : Spec := ⟨"country", [⟨"code", .text, false⟩], ["code"], []⟩
    let row (code : String) : Row := [("code", .text code)]
    let store := Store.empty.run [.declare spec,
      .commit "country" [.insert (row "IT"), .insert (row "FR"), .insert (row "DE")]]
    let query : Query := ⟨"country", [], []⟩
    paginate store query 3 2 = .error (.invalid "page number exceeds limits") ∧
      ∃ first last : List Row,
        paginate store query 1 2 = .ok ⟨1, 2, 3, 2, true, false, first⟩ ∧
        paginate store query 2 2 = .ok ⟨2, 2, 3, 2, false, true, last⟩ ∧
        first ++ last = [row "IT", row "FR", row "DE"] := by
  intro spec row store query
  have counted : store.count query = .ok 3 := rfl
  have fetched : store.fetch query 0 none = .ok [row "IT", row "FR", row "DE"] := rfl
  have words (total : Nat) (same : store.count query = .ok total) : total ≤ maxWord := by
    cases counted.symm.trans same
    decide
  obtain ⟨total, rows, sameCount, sameRows, -, outside, itemsOf, inside, -, -, whole⟩ :=
    paginate_partition (rfl : store.find? query.table = some _) nofun words (show 1 ≤ 2 by decide)
  cases counted.symm.trans sameCount
  have all := Except.ok.inj (sameRows.symm.trans fetched)
  change itemsOf 1 ++ (itemsOf 2 ++ []) = rows at whole
  refine ⟨outside 3 (.inr (by decide)), itemsOf 1, itemsOf 2, ?_, ?_, ?_⟩
  · exact (inside 1 (by decide) (by decide)).1
  · exact (inside 2 (by decide) (by decide)).1
  · rw [← all, ← whole, List.append_nil]

end MovieCatalogue.Endpoint

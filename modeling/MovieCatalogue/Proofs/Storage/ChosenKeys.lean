import MovieCatalogue.Proofs.Storage.NextKey
import MovieCatalogue.Proofs.Storage.Run

/-!
Contract: the keys that tables choose.

Owns: `Change.chosen`, the keys that a table chose for the rows of a batch; `InsertionRun`, the
commits of a run that only insert rows into a table, with the keys that the table chose in it; that
these increase; and which keys the table of any store chooses.
Does not own: what is stored beside the key; see `Proofs.Storage.StorageForm`.
-/

namespace MovieCatalogue.Storage

open MovieCatalogue.Number MovieCatalogue.Refusal MovieCatalogue.Selection

/-! ## Growing keys -/

/-- Keys grow by chosen ones: none is lost, and the chosen ones are among them in the end. They are
larger than those before, and increase. -/
structure GrowBy (before chosen after : List Int) : Prop where
  kept : before ⊆ after
  held : chosen ⊆ after
  above : ∀ new ∈ chosen, ∀ old ∈ before, old < new
  increasing : chosen.Pairwise (· < ·)

namespace GrowBy

variable {before middle after chosen later : List Int}

theorem of_subset (kept : before ⊆ after) : GrowBy before [] after :=
  ⟨kept, List.nil_subset _, List.forall_mem_nil _, List.Pairwise.nil⟩

theorem of_isLargest {last : Int} (isLargest : IsLargest before last) :
    GrowBy before [last + 1] (before ++ [last + 1]) where
  kept := List.subset_append_left _ _
  held := List.subset_append_right _ _
  above := by
    intro new isNew old inBefore
    cases List.mem_singleton.mp isNew
    exact Int.lt_add_one_of_le (isLargest.bound old inBefore)
  increasing := List.pairwise_singleton _ _

theorem trans (first : GrowBy before chosen middle) (second : GrowBy middle later after) :
    GrowBy before (chosen ++ later) after where
  kept := List.Subset.trans first.kept second.kept
  held := List.append_subset.mpr ⟨List.Subset.trans first.held second.kept, second.held⟩
  above := List.forall_mem_append.mpr
    ⟨first.above, fun new isLater old inBefore => second.above new isLater old (first.kept inBefore)⟩
  increasing := List.pairwise_append.mpr ⟨first.increasing, second.increasing,
    fun old isChosen new isLater => second.above new isLater old (first.held isChosen)⟩

end GrowBy

/-! ## Batches of insertions -/

/-- The change adds a row. -/
def Change.IsInsertion : Change → Prop
  | .insert _ | .insertNextKey _ => True
  | .replace _ _ | .delete _ => False

/-- The key that was chosen for the row which a change wrote. -/
def Change.chosen? (key : String) : Change × Row → Option Int
  | (.insertNextKey _, row) => (valueAt row key).integer?
  | (.insert _, _) | (.replace _ _, _) | (.delete _, _) => none

/-- The keys that were chosen for the rows which a batch of insertions wrote. -/
def Change.chosen (key : String) (changes : List Change) (written : List Row) : List Int :=
  (changes.zip written).filterMap (Change.chosen? key)

namespace Table

/-- Whenever a batch leaves a key open, there is a 64-bit word after the largest one. -/
def HasRoom (key : String) : Table → List Change → Prop
  | _, [] => True
  | table, change :: changes =>
    (∀ row, change = .insertNextKey row → table.largest key < maxInt64) ∧
      ∀ next written, table.apply change = .ok (next, written) → next.HasRoom key changes

variable {table next after : Table} {key : String} {change : Change} {changes : List Change}
  {written : List Row}

/-- One insertion adds a row, and its key if it was chosen. -/
theorem growBy_of_apply (isKey : table.spec.IntegerKey key) (insertion : change.IsInsertion)
    (room : ∀ row, change = .insertNextKey row → table.largest key < maxInt64)
    (applied : table.apply change = .ok (next, written)) :
    ∃ stored, written = [stored] ∧
      GrowBy (table.keys key) (Change.chosen? key (change, stored)).toList (next.keys key) := by
  cases change with
  | insert row =>
      obtain ⟨⟨_, stored⟩, inserted, built⟩ := map_eq_ok.mp applied
      cases built
      obtain ⟨-, -, rfl⟩ := insert_eq_ok.mp inserted
      refine ⟨stored, rfl, .of_subset ?_⟩
      have keys : (table.append stored).keys key = _ := keys_append
      exact keys ▸ List.subset_append_left _ _
  | insertNextKey row =>
      obtain ⟨⟨_, stored⟩, inserted, built⟩ := map_eq_ok.mp applied
      cases built
      obtain ⟨name, isName, inserted⟩ := insertNextKey_eq_ok.mp inserted
      cases isKey.integerKey?_eq.symm.trans isName
      obtain ⟨normal, -, rfl⟩ := insert_eq_ok.mp inserted
      have isLargest : IsLargest (table.keys key) (table.largest key) := largest_eq_iff.mp rfl
      have number := toInt_ofInt_of_largest isLargest (Int.lt_succ _) (room row rfl)
      have inKey : (valueAt stored key).integer? = some (table.largest key + 1) := by
        rw [isKey.valueAt_of_put normal, Value.integer?, number]
      have keys : (table.append stored).keys key = table.keys key ++ [table.largest key + 1] := by
        rw [keys_append, inKey]
        rfl
      refine ⟨stored, rfl, ?_⟩
      rw [Change.chosen?, inKey]
      exact keys ▸ .of_isLargest isLargest
  | replace _ _ => cases insertion
  | delete _ => cases insertion

/-- A batch of insertions adds the keys that were chosen in it. -/
theorem growBy_of_applyAll (isKey : table.spec.IntegerKey key)
    (insertions : ∀ change ∈ changes, change.IsInsertion) (room : table.HasRoom key changes)
    (applied : table.applyAll changes = .ok (after, written)) :
    GrowBy (table.keys key) (Change.chosen key changes written) (after.keys key) := by
  induction changes generalizing table written with
  | nil =>
      cases applied
      exact .of_subset (List.Subset.refl _)
  | cons change changes inductionHypothesis =>
      obtain ⟨⟨next, front⟩, first, rest⟩ := bind_eq_ok.mp applied
      obtain ⟨⟨last, others⟩, appliedRest, built⟩ := bind_eq_ok.mp rest
      cases built
      rw [List.forall_mem_cons] at insertions
      obtain ⟨roomHere, roomLater⟩ := room
      have sameSpec : next.spec = table.spec := (step_of_apply first).spec_eq
      obtain ⟨stored, rfl, here⟩ := growBy_of_apply isKey insertions.1 roomHere first
      have later := inductionHypothesis (sameSpec ▸ isKey) insertions.2 (roomLater _ _ first) appliedRest
      have split : Change.chosen key (change :: changes) ([stored] ++ others) =
          (Change.chosen? key (change, stored)).toList ++ Change.chosen key changes others := by
        rw [List.singleton_append, Change.chosen, List.zip_cons_cons]
        cases chosen : Change.chosen? key (change, stored) with
        | none => simp [chosen, Change.chosen]
        | some number => simp [chosen, Change.chosen]
      rw [split]
      exact here.trans later

end Table

/-! ## Runs of insertions -/

namespace Store

/-- Commits to any tables that follow each other, of which those to the table of a name only insert
rows, with the keys that this table chose. Commits that are refused leave no trace. -/
inductive InsertionRun (name key : String) (start : Store) : Store → List Int → Prop
  | start : InsertionRun name key start start []
  | here {store after : Store} {table : Table} {chosen : List Int} {changes : List Change}
      {written : List Row} (earlier : InsertionRun name key start store chosen)
      (found : store.find? name = some table)
      (insertions : ∀ change ∈ changes, change.IsInsertion) (room : table.HasRoom key changes)
      (committed : store.commit name changes = .ok (after, written)) :
      InsertionRun name key start after (chosen ++ Change.chosen key changes written)
  | elsewhere {store after : Store} {other : String} {chosen : List Int} {changes : List Change}
      {written : List Row} (earlier : InsertionRun name key start store chosen)
      (different : other ≠ name) (committed : store.commit other changes = .ok (after, written)) :
      InsertionRun name key start after chosen

/-- In a run of insertions the keys of the table grow by those that it chose. -/
theorem InsertionRun.growBy {name key : String} {start after : Store} {chosen : List Int}
    (run : InsertionRun name key start after chosen) {table : Table}
    (found : start.find? name = some table) (isKey : table.spec.IntegerKey key) :
    ∃ last, after.find? name = some last ∧ last.spec = table.spec ∧
      GrowBy (table.keys key) chosen (last.keys key) := by
  induction run with
  | start => exact ⟨table, found, rfl, .of_subset (List.Subset.refl _)⟩
  | here earlier foundHere insertions room committed inductionHypothesis =>
      obtain ⟨staged, foundStaged, sameSpec, grown⟩ := inductionHypothesis
      cases foundHere.symm.trans foundStaged
      obtain ⟨held, next, foundHeld, applied, rfl⟩ := commit_eq_ok.mp committed
      cases foundHere.symm.trans foundHeld
      have keptSpec := Table.spec_applyAll applied
      have named : next.spec.name = name := keptSpec.symm ▸ name_of_find? foundHere
      refine ⟨next, find?_put_self foundHere named, keptSpec.trans sameSpec, grown.trans ?_⟩
      exact Table.growBy_of_applyAll (sameSpec.symm ▸ isKey) insertions room applied
  | elsewhere earlier different committed inductionHypothesis =>
      obtain ⟨staged, foundStaged, sameSpec, grown⟩ := inductionHypothesis
      obtain ⟨held, next, foundHeld, applied, rfl⟩ := commit_eq_ok.mp committed
      have named := (Table.spec_applyAll applied).symm ▸ name_of_find? foundHeld
      refine ⟨staged, ?_, sameSpec, grown⟩
      rw [find?_put_of_ne (named ▸ different.symm), foundStaged]

/-! ## Next keys -/

/--
In a table whose primary key is one column of integers, a batch of rows under the next keys violates
no constraint that has the key, as long as the numbers that follow the largest key are 64-bit words.
If the other values of the rows are taken, the rows are stored under these numbers in order, whatever
keys were given; and they are inserted if they do not collide without the key. A table with any other
primary key refuses the batch, and nothing is written. In a run of insertions the keys that are
chosen increase.
-/
theorem next_keys_follow (history : List Operation) {name : String} {table : Table}
    (found : (empty.run history).find? name = some table) :
    let store := empty.run history
    (∀ key last, table.spec.IntegerKey key → IsLargest (table.keys key) last →
      ∀ rows : List Row, last + rows.length ≤ maxInt64 →
        (∀ refused constraint, store.commit name (rows.map .insertNextKey) =
          .error (.uniqueViolation refused constraint) → key ∉ constraint) ∧
        ((∀ row ∈ rows, table.spec.TakesBesides key row) →
          ∃ stored, (Table.numbered key last rows).mapM (normalize table.spec) = .ok stored ∧
            stored.length = rows.length ∧
            (∀ (place : Nat) (row : Row), stored[place]? = some row →
              ∃ n : Int64, valueAt row key = .int64 n ∧ n.toInt = last + 1 + place) ∧
            ((∀ constraint ∈ table.spec.unique, key ∉ constraint →
                stored.Pairwise (fun first second => ¬ Collide constraint first second) ∧
                  ∀ held ∈ table.rows, ∀ row ∈ stored, ¬ Collide constraint row held.cells) →
              store.commit name (rows.map .insertNextKey) =
                .ok (store.put (table.appendAll stored), stored)))) ∧
      ((∀ key, table.spec.primaryKey = [key] → ∀ column, table.spec.column? key = some column →
          column.kind ≠ .integer) →
        ∀ row rows, let changes := (row :: rows).map .insertNextKey
          store.commit name changes = .error (.invalidValue table.spec.name
            (Text.join "_" table.spec.primaryKey) "key is not a single integer column") ∧
          (Operation.commit name changes).apply store = store) ∧
      ∀ key after chosen, table.spec.IntegerKey key → InsertionRun name key store after chosen →
        chosen.Pairwise (· < ·) := by
  intro store
  have sound : table.Sound := (sound_run history).tables table (mem_of_find? found)
  have committed : ∀ changes, store.commit name changes = _ := commit_of_find? found
  refine ⟨fun key last isKey isLargest rows fits => ?_, fun notInteger row rows => ?_,
    fun key after chosen isKey run => ?_⟩
  · have counts : table.Counts key last := ⟨sound, isKey, isLargest⟩
    refine ⟨fun refused constraint violation => ?_, fun takes => ?_⟩
    · rw [committed] at violation
      exact counts.not_mem_of_violation fits (map_eq_error.mp violation)
    · obtain ⟨stored, normal⟩ := Table.exists_mapM_numbered isKey takes last
      have sameLength := (mapM_eq_ok.mp normal).length_eq
      rw [Table.length_numbered] at sameLength
      refine ⟨stored, normal, sameLength.symm,
        fun place row here => counts.exists_number fits normal here, fun free => ?_⟩
      rw [committed, counts.applyAll_insertNextKey_eq_ok fits normal free]
      rfl
  · have noKey := Spec.integerKey?_eq_none_iff.mpr notInteger
    have refused := Table.applyAll_insertNextKey_of_none noKey row rows
    have refusedCommit := (committed _).trans (map_eq_error.mpr refused)
    exact ⟨refusedCommit, by rw [Operation.apply, refusedCommit]⟩
  · obtain ⟨_, -, -, grown⟩ := run.growBy found isKey
    exact grown.increasing

/-- Films are numbered from the largest number on, though one of them was given a text for a number.
Countries, whose keys are texts, are not numbered. -/
theorem next_keys_follow_film :
    let film : Spec :=
      ⟨"film", [⟨"id", .integer, false⟩, ⟨"title", .text, false⟩], ["id"], [["title"]]⟩
    let country : Spec := ⟨"country", [⟨"code", .text, false⟩], ["code"], []⟩
    let row (id : Int64) (title : String) : Row := [("id", .int64 id), ("title", .text title)]
    let store := empty.run [.declare film, .declare country,
      .commit "film" [.insert (row 41 "Alien"), .insert (row (-3) "Brazil")]]
    let batch : List Change := [.insertNextKey [("title", .text "Cube")],
      .insertNextKey [("title", .text "Dune"), ("id", .text "D")]]
    (∃ after, store.commit "film" batch = .ok (after, [row 42 "Cube", row 43 "Dune"])) ∧
      store.commit "country" [.insertNextKey [("code", .text "IT")]] =
        .error (.invalidValue "country" "code" "key is not a single integer column") ∧
      ∃ after, InsertionRun "film" "id" store after [42, 43] ∧
        ([42, 43] : List Int).Pairwise (· < ·) := by
  intro film country row store batch
  let films : Table := ⟨film, [⟨1, row 41 "Alien"⟩, ⟨2, row (-3) "Brazil"⟩], 3⟩
  let rows : List Row :=
    [[("title", .text "Cube")], [("title", .text "Dune"), ("id", .text "D")]]
  have found : store.find? "film" = some films := rfl
  have isKey : film.IntegerKey "id" := ⟨rfl, rfl, by decide⟩
  have isLargest : IsLargest (films.keys "id") 41 := ⟨by decide, .inr (by decide)⟩
  have takes : ∀ row ∈ rows, film.TakesBesides "id" row := by
    have title {row : Row} (title : String) (given : valueAt row "title" = .text title) :
        ∀ column ∈ film.columns, column.name ≠ "id" →
          ∃ cell, normalizeCell film row column = .ok cell := by
      intro column inSpec notKey
      obtain rfl | rfl : column = ⟨"id", .integer, false⟩ ∨ column = ⟨"title", .text, false⟩ := by
        simpa [film] using inSpec
      · exact absurd rfl notKey
      · exact ⟨_, normalizeCell_eq_ok.mpr ⟨rfl, .inr (by rw [given]; exact ⟨rfl, rfl⟩)⟩⟩
    refine List.forall_mem_cons.mpr ⟨⟨by decide, title "Cube" rfl⟩,
      List.forall_mem_singleton.mpr ⟨by decide, title "Dune" rfl⟩⟩
  obtain ⟨follow, -, increase⟩ := next_keys_follow _ found
  obtain ⟨-, follows⟩ := follow "id" 41 isKey isLargest rows (by decide)
  obtain ⟨stored, normal, -, -, taken⟩ := follows takes
  obtain rfl : stored = [row 42 "Cube", row 43 "Dune"] := Except.ok.inj (normal.symm.trans rfl)
  have free : ∀ constraint ∈ film.unique, "id" ∉ constraint →
      [row 42 "Cube", row 43 "Dune"].Pairwise (fun first second => ¬ Collide constraint first second) ∧
        ∀ held ∈ films.rows, ∀ stored ∈ [row 42 "Cube", row 43 "Dune"],
          ¬ Collide constraint stored held.cells := by
    have apart {first second : Row}
        (different : (valueAt first "title").compare (valueAt second "title") ≠ .eq) :
        ¬ Collide ["title"] first second :=
      fun collide => different (collide "title" List.mem_cons_self).2.2
    intro constraint inUnique _
    cases List.mem_singleton.mp inUnique
    refine ⟨List.pairwise_pair.mpr (apart (by decide)), ?_⟩
    simp only [films, List.forall_mem_cons]
    exact ⟨⟨apart (by decide), apart (by decide), nofun⟩,
      ⟨apart (by decide), apart (by decide), nofun⟩, nofun⟩
  have committed := taken free
  have foundCountry : store.find? "country" = some ⟨country, [], 1⟩ := rfl
  have notInteger : ∀ key, country.primaryKey = [key] → ∀ column, country.column? key = some column →
      column.kind ≠ .integer := by
    rintro _ ⟨⟩ _ ⟨⟩
    decide
  obtain ⟨-, refused, -⟩ := next_keys_follow _ foundCountry
  have room : films.HasRoom "id" batch := by
    refine ⟨fun _ _ => by decide, fun next written applied => ?_⟩
    cases (rfl : films.apply (.insertNextKey [("title", .text "Cube")]) =
      .ok (films.append (row 42 "Cube"), [row 42 "Cube"])).symm.trans applied
    exact ⟨fun _ _ => by decide, fun _ _ _ => trivial⟩
  have insertions : ∀ change ∈ batch, change.IsInsertion := by
    simp [batch, Change.IsInsertion]
  have run : InsertionRun "film" "id" store _ [42, 43] :=
    .here .start found insertions room committed
  exact ⟨⟨_, committed⟩, (refused notInteger _ []).1, _, run, increase "id" _ _ isKey run⟩

end Store

end MovieCatalogue.Storage

import MovieCatalogue.Proofs.Storage.Run

/-!
Contract: batches of changes in parts.

Owns: that a batch does what its parts do one after the other, in the table and in the
store; and with it the commit of a batch in two parts: what both of them write, whose
refusal refuses the whole, and what is left as it was.
Does not own: what a single change does; see `Proofs.Storage.Change`.
-/

namespace MovieCatalogue.Storage

open MovieCatalogue.Refusal

/-! ## Tables -/

namespace Table

/-- A batch goes on with its second part where the first part has left the table. -/
theorem applyAll_append (table : Table) (first second : List Change) :
    table.applyAll (first ++ second) = (do
      let (middle, written) ← table.applyAll first
      let (last, others) ← middle.applyAll second
      return (last, written ++ others)) := by
  induction first generalizing table with
  | nil =>
      rw [List.nil_append, applyAll]
      simp only [bind, Except.bind, pure, Except.pure, List.nil_append]
      cases table.applyAll second <;> rfl
  | cons change changes inductionHypothesis =>
      rw [List.cons_append, applyAll, applyAll]
      cases table.apply change with
      | error error => rfl
      | ok stepped =>
          obtain ⟨next, row⟩ := stepped
          simp only [bind, Except.bind, inductionHypothesis]
          cases next.applyAll changes with
          | error error => rfl
          | ok part =>
              obtain ⟨middle, written⟩ := part
              simp only [pure, Except.pure]
              cases middle.applyAll second with
              | error error => rfl
              | ok rest => simp

end Table

/-! ## Stores -/

namespace Store

variable {store : Store} {name : String}

/-- Of two tables that are put under one name the second one stays. -/
theorem put_put {next last : Table} (sameName : next.spec.name = last.spec.name) :
    (store.put next).put last = store.put last := by
  simp only [put, List.map_map, Store.mk.injEq]
  refine List.map_congr_left fun old _ => ?_
  by_cases same : old.spec.name = last.spec.name
  · simp [same, sameName]
  · simp [same, sameName]

/-- A commit in two parts is the commit of both as one batch. -/
theorem commit_append (store : Store) (name : String) (first second : List Change) :
    store.commit name (first ++ second) = (do
      let (middle, written) ← store.commit name first
      let (after, others) ← middle.commit name second
      return (after, written ++ others)) := by
  cases found : store.find? name with
  | none =>
      have refused : store.get name = .error (.noSuchTable name) := by rw [get, found]
      simp [commit, refused, bind, Except.bind]
  | some table =>
      have taken : store.get name = .ok table := by rw [get, found]
      simp only [commit, taken, bind, Except.bind, Table.applyAll_append]
      cases applied : table.applyAll first with
      | error error => rfl
      | ok part =>
          obtain ⟨middle, written⟩ := part
          have named : middle.spec.name = name :=
            (Table.spec_applyAll applied).symm ▸ name_of_find? found
          have takenAgain : (store.put middle).get name = .ok middle :=
            get_eq_ok.mpr (find?_put_self found named)
          simp only [pure, Except.pure, takenAgain]
          cases appliedRest : middle.applyAll second with
          | error error => rfl
          | ok rest =>
              have sameName : middle.spec.name = rest.1.spec.name := by
                rw [Table.spec_applyAll appliedRest]
              simp [put_put sameName]

/-- A commit reaches the table of its name only. -/
theorem find?_apply_commit {other : String} (different : other ≠ name) (changes : List Change) :
    ((Operation.commit name changes).apply store).find? other = store.find? other := by
  rw [Operation.apply]
  split
  case h_1 after written committed =>
      obtain ⟨table, next, found, applied, rfl⟩ := commit_eq_ok.mp committed
      have named : next.spec.name = name :=
        (Table.spec_applyAll applied).symm ▸ name_of_find? found
      exact find?_put_of_ne (named.symm ▸ different)
  case h_2 => rfl

/--
A batch is committed like its two parts one after the other. If both are taken, the batch is
taken, writes what they write in the same order and leaves the store that they leave; if the
first is refused, or the second behind it, the batch is refused for the same reason, and no
table of the store has changed. Other tables never change.
-/
theorem commit_in_parts (store : Store) (name : String) (first second : List Change) :
    (∀ {middle after written others}, store.commit name first = .ok (middle, written) →
      middle.commit name second = .ok (after, others) →
        store.commit name (first ++ second) = .ok (after, written ++ others)) ∧
    (∀ {error}, (store.commit name first = .error error ∨
        ∃ middle written, store.commit name first = .ok (middle, written) ∧
          middle.commit name second = .error error) →
        store.commit name (first ++ second) = .error error ∧
          (Operation.commit name (first ++ second)).apply store = store) ∧
    ∀ {other}, other ≠ name →
      ((Operation.commit name (first ++ second)).apply store).find? other = store.find? other := by
  refine ⟨?_, ?_, fun different => find?_apply_commit different _⟩
  · intro middle after written others committed committedRest
    rw [commit_append, committed]
    simp [bind, Except.bind, committedRest, pure, Except.pure]
  · intro error refusal
    have refused : store.commit name (first ++ second) = .error error := by
      rw [commit_append]
      rcases refusal with early | ⟨middle, written, committed, late⟩
      · simp [bind, Except.bind, early]
      · simp [bind, Except.bind, committed, late]
    refine ⟨refused, ?_⟩
    rw [Operation.apply, refused]

/-- A row that is removed is inserted again in one batch. It cannot be removed twice, nor inserted
while it is there. -/
theorem commit_in_parts_country :
    let spec : Spec := ⟨"country", [⟨"code", .text, false⟩], ["code"], []⟩
    let row : Row := [("code", .text "IT")]
    let removal : List Change := [.delete [.text "IT"]]
    let insertion : List Change := [.insert row]
    let store := empty.run [.declare spec, .commit "country" insertion]
    (∃ after, store.commit "country" (removal ++ insertion) = .ok (after, [row])) ∧
      store.commit "country" (removal ++ removal) = .error (.rowNotFound "country") ∧
      store.commit "country" (insertion ++ removal) = .error (.uniqueViolation "country" ["code"]) ∧
      ((Operation.commit "country" (insertion ++ removal)).apply store).find? "film" = none := by
  intro spec row removal insertion store
  obtain ⟨taken, -, -⟩ := commit_in_parts store "country" removal insertion
  obtain ⟨-, twice, -⟩ := commit_in_parts store "country" removal removal
  obtain ⟨-, present, others⟩ := commit_in_parts store "country" insertion removal
  have absent : "film" ≠ "country" := by decide
  exact ⟨⟨_, taken rfl rfl⟩, (twice (.inr ⟨_, _, rfl, rfl⟩)).1, (present (.inl rfl)).1,
    (others absent).trans rfl⟩

end Store

end MovieCatalogue.Storage

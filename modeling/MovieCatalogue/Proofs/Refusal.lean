import Mathlib.Data.List.Forall2

/-!
Contract: steps that may be refused.

Owns: when a sequence of steps in `Except` succeeds, and what refuses it otherwise. Two
steps succeed if the first does and the second does on what the first gave; a step on
every item of a list succeeds if each of them does. Also `Alike`, two steps that are
refused for the same reason or give related results, which sequences of them keep.
Does not own: which steps are refused.
-/

namespace MovieCatalogue.Refusal

variable {ε ε' α β : Type}

theorem bind_eq_ok {step : Except ε α} {next : α → Except ε β} {result : β} :
    (step >>= next) = .ok result ↔ ∃ found, step = .ok found ∧ next found = .ok result := by
  cases step with
  | error error => simp [bind, Except.bind]
  | ok found => simp [bind, Except.bind]

theorem bind_eq_error {step : Except ε α} {next : α → Except ε β} {error : ε} :
    (step >>= next) = .error error ↔
      step = .error error ∨ ∃ found, step = .ok found ∧ next found = .error error := by
  cases step with
  | error other => simp [bind, Except.bind]
  | ok found => simp [bind, Except.bind]

theorem map_eq_ok {step : Except ε α} {f : α → β} {result : β} :
    step.map f = .ok result ↔ ∃ found, step = .ok found ∧ f found = result := by
  cases step with
  | error error => simp [Except.map]
  | ok found => simp [Except.map]

theorem map_eq_error {step : Except ε α} {f : α → β} {error : ε} :
    step.map f = .error error ↔ step = .error error := by
  cases step with
  | error other => simp [Except.map]
  | ok found => simp [Except.map]

theorem mapError_eq_ok {step : Except ε α} {f : ε → ε'} {result : α} :
    step.mapError f = .ok result ↔ step = .ok result := by
  cases step with
  | error error => simp [Except.mapError]
  | ok found => simp [Except.mapError]

theorem mapError_eq_error {step : Except ε α} {f : ε → ε'} {error : ε'} :
    step.mapError f = .error error ↔ ∃ cause, step = .error cause ∧ f cause = error := by
  cases step with
  | error other => simp [Except.mapError]
  | ok found => simp [Except.mapError]

/-- A step gives at most one result. -/
theorem exists_eq_ok_iff {step : Except ε α} :
    (∃ found, step = .ok found) ↔ ∃! found, step = .ok found := by
  refine ⟨?_, ExistsUnique.exists⟩
  rintro ⟨found, rfl⟩
  exact ⟨found, rfl, fun other same => (Except.ok.inj same).symm⟩

/-- A step that is refused for one reason only is refused if and only if it gives nothing. -/
theorem eq_error_iff {step : Except ε α} {reason : ε}
    (only : ∀ error, step = .error error → error = reason) {error : ε} :
    step = .error error ↔ error = reason ∧ ∀ found, step ≠ .ok found := by
  cases step with
  | error other => simp [only other rfl, eq_comm]
  | ok found => simp

theorem mapM_eq_ok {step : α → Except ε β} {items : List α} {results : List β} :
    items.mapM step = .ok results ↔
      List.Forall₂ (fun item result => step item = .ok result) items results := by
  induction items generalizing results with
  | nil => simp [pure, Except.pure, eq_comm]
  | cons item items inductionHypothesis =>
      rw [List.mapM_cons, bind_eq_ok]
      constructor
      · rintro ⟨first, stepped, rest⟩
        obtain ⟨others, steppedAll, built⟩ := bind_eq_ok.mp rest
        cases built
        exact .cons stepped (inductionHypothesis.mp steppedAll)
      · intro each
        cases each with
        | cons stepped others =>
            exact ⟨_, stepped, bind_eq_ok.mpr ⟨_, inductionHypothesis.mpr others, rfl⟩⟩

theorem mapM_congr {step other : α → Except ε β} {items : List α}
    (same : ∀ item ∈ items, step item = other item) : items.mapM step = items.mapM other := by
  induction items with
  | nil => rfl
  | cons item items inductionHypothesis =>
      rw [List.forall_mem_cons] at same
      rw [List.mapM_cons, List.mapM_cons, same.1, inductionHypothesis same.2]

/-- What refuses a list refuses one of the items. -/
theorem exists_of_mapM_eq_error {step : α → Except ε β} {items : List α} {error : ε}
    (refused : items.mapM step = .error error) : ∃ item ∈ items, step item = .error error := by
  induction items with
  | nil => cases refused
  | cons item items inductionHypothesis =>
      rw [List.mapM_cons] at refused
      rcases bind_eq_error.mp refused with here | ⟨found, -, later⟩
      · exact ⟨item, List.mem_cons_self, here⟩
      · rcases bind_eq_error.mp later with later | ⟨others, -, impossible⟩
        · obtain ⟨other, member, stepped⟩ := inductionHypothesis later
          exact ⟨other, List.mem_cons_of_mem _ member, stepped⟩
        · cases impossible

/-- Every result of a step on a list is the result of one of the items. -/
theorem exists_of_mem_results {R : α → β → Prop} {items : List α} {results : List β}
    (each : List.Forall₂ R items results) {result : β} (member : result ∈ results) :
    ∃ item ∈ items, R item result := by
  induction each with
  | nil => cases member
  | cons first _ inductionHypothesis =>
      rcases List.mem_cons.mp member with rfl | later
      · exact ⟨_, List.mem_cons_self, first⟩
      · obtain ⟨item, inItems, related⟩ := inductionHypothesis later
        exact ⟨item, List.mem_cons_of_mem _ inItems, related⟩

/-- A step on every item of a list succeeds if and only if it does on each of them. -/
theorem exists_mapM_eq_ok {step : α → Except ε β} {items : List α} :
    (∃ results, items.mapM step = .ok results) ↔ ∀ item ∈ items, ∃ result, step item = .ok result := by
  simp only [mapM_eq_ok]
  induction items with
  | nil => simp
  | cons item items inductionHypothesis =>
      rw [List.forall_mem_cons, ← inductionHypothesis]
      constructor
      · rintro ⟨results, each⟩
        cases each with
        | cons stepped others => exact ⟨⟨_, stepped⟩, _, others⟩
      · rintro ⟨⟨result, stepped⟩, results, others⟩
        exact ⟨_, .cons stepped others⟩

theorem forM_eq_ok {step : α → Except ε Unit} {items : List α} {passed : Unit} :
    items.forM step = .ok passed ↔ ∀ item ∈ items, step item = .ok () := by
  induction items with
  | nil => simp [pure, Except.pure]
  | cons item items inductionHypothesis =>
      rw [List.forM, bind_eq_ok, List.forall_mem_cons, inductionHypothesis]
      constructor
      · rintro ⟨⟨⟩, here, rest⟩
        exact ⟨here, rest⟩
      · rintro ⟨here, rest⟩
        exact ⟨(), here, rest⟩

/-- A check of every item is refused for the first item that it refuses. -/
theorem forM_eq_error {step : α → Except ε Unit} {items : List α} {error : ε} :
    items.forM step = .error error ↔ ∃ before item others, items = before ++ item :: others ∧
      (∀ earlier ∈ before, step earlier = .ok ()) ∧ step item = .error error := by
  induction items with
  | nil => simp [pure, Except.pure]
  | cons item items inductionHypothesis =>
      rw [List.forM, bind_eq_error, inductionHypothesis]
      constructor
      · rintro (here | ⟨⟨⟩, passed, before, refused, others, rfl, earlier, later⟩)
        · exact ⟨[], item, items, rfl, List.forall_mem_nil _, here⟩
        · exact ⟨item :: before, refused, others, rfl,
            List.forall_mem_cons.mpr ⟨passed, earlier⟩, later⟩
      · rintro ⟨before, refused, others, split, earlier, here⟩
        cases before with
        | nil =>
            cases split
            exact .inl here
        | cons first before =>
            cases split
            rw [List.forall_mem_cons] at earlier
            exact .inr ⟨(), earlier.1, before, refused, others, rfl, earlier.2, here⟩

/-! ## Steps that are alike -/

/-- Two steps are refused for the same reason, or their results are related. -/
inductive Alike (R : α → β → Prop) : Except ε α → Except ε β → Prop
  | refused (error : ε) : Alike R (.error error) (.error error)
  | taken {found : α} {other : β} (related : R found other) : Alike R (.ok found) (.ok other)

namespace Alike

variable {α' β' : Type} {R : α → β → Prop} {S : α' → β' → Prop} {step : Except ε α}
  {other : Except ε β}

theorem bind {next : α → Except ε α'} {otherNext : β → Except ε β'} (first : Alike R step other)
    (second : ∀ {found otherFound}, R found otherFound → Alike S (next found) (otherNext otherFound)) :
    Alike S (step >>= next) (other >>= otherNext) := by
  cases first with
  | refused error => exact .refused error
  | taken related => exact second related

theorem map {f : α → α'} {g : β → β'} (first : Alike R step other)
    (second : ∀ {found otherFound}, R found otherFound → S (f found) (g otherFound)) :
    Alike S (step.map f) (other.map g) := by
  cases first with
  | refused error => exact .refused error
  | taken related => exact .taken (second related)

theorem of_eq {step other : Except ε α} (same : step = other) : Alike Eq step other := by
  subst same
  cases step with
  | error error => exact .refused error
  | ok found => exact .taken rfl

end Alike

end MovieCatalogue.Refusal

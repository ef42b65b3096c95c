import MovieCatalogue.Proofs.Shell.Serving

/-!
Contract: a process for each command, and one process for all of them.

Owns: `Keeps`, that a data file gives the rows of a store; that a process on such a file
shows what the store shows and leaves such a file; and the same for commands one after the
other.
Does not own: the program, which does more than that; see `Proofs.Shell.Work`.
-/

namespace MovieCatalogue.Shell

open MovieCatalogue.Endpoint MovieCatalogue.Record MovieCatalogue.Refusal MovieCatalogue.Storage

/-! ## Data files -/

/-- A data file from which the rows of a store are loaded. -/
def Keeps (path : String) (file : FileState) (store : Store) : Prop :=
  ∃ loaded count, openedStore path file = .ok (loaded, count) ∧ loaded.SameRows store

theorem openedStore_eq_ok {path : String} {file : FileState} {store : Store} {count : Nat} :
    openedStore path file = .ok (store, count) ↔
      Snapshot.load emptyStore file = (store, .ok count) := by
  unfold openedStore
  split
  case h_1 loaded rows load =>
      rw [load]
      simp
  case h_2 loaded error load =>
      rw [load]
      simp

theorem holdsCatalogue_of_openedStore {path : String} {file : FileState} {store : Store}
    {count : Nat} (opened : openedStore path file = .ok (store, count)) : HoldsCatalogue store := by
  have holds := holdsCatalogue_emptyStore.load file
  rwa [openedStore_eq_ok.mp opened] at holds

/-- The columns of the catalogue have plain names. -/
theorem isPlain_of_holdsCatalogue {store : Store} (holds : HoldsCatalogue store) :
    store.IsPlain := by
  have each : ∀ spec ∈ catalogue.map Entity.spec, ∀ column ∈ spec.columns,
      Value.IsPlain column.name := by decide
  intro table inStore
  exact each table.spec (holds.specs ▸ List.mem_map_of_mem inStore)

/-- A store that is written to the data file is kept by it. -/
theorem keeps_of_holdsCatalogue {store : Store} (holds : HoldsCatalogue store)
    (rereads : ∀ x, store.HasReal x → Value.KeepsReal x) (path : String) :
    Keeps path (.found (Snapshot.ofStore store).text) store := by
  have kept := holds.sound.kept (isPlain_of_holdsCatalogue holds) rereads
  have sameSpecs : (emptyStore.tables.map Table.spec).Perm (store.tables.map Table.spec) := by
    rw [holds.specs, holdsCatalogue_emptyStore.specs]
  obtain ⟨loaded, load, -, same⟩ := Snapshot.load_text holds.sound kept sameSpecs
  exact ⟨loaded, _, openedStore_eq_ok.mpr load, same.symm⟩

theorem Keeps.of_sameRows {path : String} {file : FileState} {store other : Store}
    (keeps : Keeps path file store) (same : store.SameRows other) : Keeps path file other := by
  obtain ⟨loaded, count, opened, sameLoaded⟩ := keeps
  exact ⟨loaded, count, opened, sameLoaded.trans same⟩

theorem Keeps.rows_eq {path : String} {file : FileState} {store : Store}
    (keeps : Keeps path file store) (sound : store.Sound) :
    ∃ loaded count, openedStore path file = .ok (loaded, count) ∧
      ∀ name, loaded.rows name = store.rows name := by
  obtain ⟨loaded, count, opened, same⟩ := keeps
  exact ⟨loaded, count, opened,
    same.rows_eq (holdsCatalogue_of_openedStore opened).sound sound⟩

/-! ## One command -/

theorem invoke_of_run {service : Service} {path : String} {file : FileState} {turn : Turn}
    {store : Store} {count : Nat} (opened : openedStore path file = .ok (store, count))
    {outcome : Except RequestError Execution} (ran :
      turn.command.run service store turn.clock {} ⟨path, file.isPresent⟩ turn.mode = outcome) :
    invoke service path file turn =
      .ok (.ofOutcome outcome, fileAfter service file turn.command outcome) := by
  rw [invoke, opened, ← ran]
  rfl

section

variable {service : Service} (standard : service.registry = .standard) {path : String}
  {file : FileState} {turn : Turn} (served : turn.command.isServed = true)
include standard served

/-- The data file after a process keeps what the command made of the store that was loaded. -/
theorem keeps_fileAfter {loaded : Store} {count : Nat}
    (opened : openedStore path file = .ok (loaded, count)) {outcome : Except RequestError Execution}
    (ran : turn.command.run service loaded turn.clock {} ⟨path, file.isPresent⟩ turn.mode = outcome)
    (rereads : ∀ x, (storeAfter loaded outcome).HasReal x → Value.KeepsReal x) :
    Keeps path (fileAfter service file turn.command outcome) (storeAfter loaded outcome) := by
  have holds := holdsCatalogue_of_openedStore opened
  cases outcome with
  | error error => exact ⟨loaded, count, opened, .refl loaded⟩
  | ok execution =>
      rw [fileAfter]
      split
      case isTrue =>
          have holdsAfter := Command.holdsCatalogue_run served ran holds
          exact keeps_of_holdsCatalogue holdsAfter rereads path
      case isFalse idle =>
          have unchanged : execution.store = loaded :=
            Command.store_run served ran standard holds (Bool.eq_false_iff.mpr idle)
          rw [storeAfter, unchanged]
          exact ⟨loaded, count, opened, .refl loaded⟩

/-- A process on a file that keeps a store shows what the store shows, and leaves a file that
keeps the store as it is then. -/
theorem invoke_of_keeps (dataFile : DataFile) {store : Store} (holds : HoldsCatalogue store)
    (keeps : Keeps path file store)
    (rereads : ∀ x, (serve service dataFile store turn).2.HasReal x → Value.KeepsReal x) :
    ∃ after, invoke service path file turn =
        .ok ((serve service dataFile store turn).1, after) ∧
      Keeps path after (serve service dataFile store turn).2 := by
  obtain ⟨loaded, count, opened, same⟩ := keeps
  have holdsLoaded := holdsCatalogue_of_openedStore opened
  obtain ⟨sameShown, sameStore⟩ := serve_alike served same holdsLoaded.sound
    holds.sound service ⟨path, file.isPresent⟩ dataFile
  have soundAfter : (serve service ⟨path, file.isPresent⟩ loaded turn).2.Sound :=
    (holdsCatalogue_serve holdsLoaded service _ served).sound
  have kept := keeps_fileAfter standard served opened rfl fun x held =>
    rereads x (sameStore.hasReal soundAfter held)
  exact ⟨_, sameShown ▸ invoke_of_run opened rfl, kept.of_sameRows sameStore⟩

end

/-! ## All commands -/

/-- Processes of which the first finds a file that keeps a store show what the store shows, and
leave files that keep it. -/
theorem invokeAll_of_keeps {service : Service} (standard : service.registry = .standard)
    {path : String} (dataFile : DataFile) {turns : List Turn}
    (served : ∀ turn ∈ turns, turn.command.isServed = true) {file : FileState} {store : Store}
    (holds : HoldsCatalogue store) (keeps : Keeps path file store)
    (rereads : ∀ result ∈ serveAll service dataFile store turns,
      ∀ x, result.2.HasReal x → Value.KeepsReal x) :
    ∃ results, invokeAll service path file turns = .ok results ∧
      List.Forall₂ (fun own one => own.1 = one.1 ∧ HoldsCatalogue one.2 ∧ Keeps path own.2 one.2) results
        (serveAll service dataFile store turns) := by
  induction turns generalizing file store with
  | nil => exact ⟨[], rfl, .nil⟩
  | cons turn turns inductionHypothesis =>
      rw [List.forall_mem_cons] at served
      rw [serveAll, List.forall_mem_cons] at rereads
      obtain ⟨after, invoked, keepsAfter⟩ :=
        invoke_of_keeps standard served.1 dataFile holds keeps rereads.1
      have holdsAfter := holdsCatalogue_serve holds service dataFile served.1
      obtain ⟨results, invokedRest, each⟩ :=
        inductionHypothesis served.2 holdsAfter keepsAfter rereads.2
      refine ⟨(_, after) :: results, ?_, .cons ⟨rfl, holdsAfter, keepsAfter⟩ each⟩
      exact bind_eq_ok.mpr ⟨_, invoked, bind_eq_ok.mpr ⟨_, invokedRest, rfl⟩⟩

/--
Commands of which each has a process of its own, which loads the data file and writes it again
when there is reason to, show what they show when one process carries them all out on the store
that it loaded first; and after each of them the data file has the rows of that store in their
order. Requests are recorded in all processes or in none. Clocks show the same times in both runs,
and floating-point numbers in the store are among those that are read as they are written.
-/
theorem invokeAll_eq_serveAll {service : Service} (standard : service.registry = .standard)
    {path : String} {file : FileState} {start : Store} {count : Nat}
    (opened : openedStore path file = .ok (start, count)) (dataFile : DataFile) {turns : List Turn}
    (served : ∀ turn ∈ turns, turn.command.isServed = true)
    (rereads : ∀ result ∈ serveAll service dataFile start turns,
      ∀ x, result.2.HasReal x → Value.KeepsReal x) :
    ∃ results, invokeAll service path file turns = .ok results ∧
      List.Forall₂ (fun own one => own.1 = one.1 ∧
          ∃ loaded rows, openedStore path own.2 = .ok (loaded, rows) ∧
            ∀ name, loaded.rows name = one.2.rows name)
        results (serveAll service dataFile start turns) := by
  obtain ⟨results, invoked, each⟩ := invokeAll_of_keeps standard dataFile served
    (holdsCatalogue_of_openedStore opened) ⟨start, count, opened, .refl start⟩ rereads
  refine ⟨results, invoked, each.imp ?_⟩
  rintro own one ⟨sameShown, holds, keeps⟩
  exact ⟨sameShown, keeps.rows_eq holds.sound⟩

/-- A genre is created and then read, with no data file to begin with. -/
theorem invokeAll_eq_serveAll_genre :
    let clock : Clock := ⟨0, .zero, .zero, 0⟩
    let turns : List Turn := [⟨.create "genres" "\x7b\"id\": \"Drama\"\x7d", clock, .json⟩,
      ⟨.get "genres" "Drama", clock, .json⟩]
    ∃ results, invokeAll {} "catalogue.json" .missing turns = .ok results ∧
      results.map (fun own => own.1.toOption) =
        [some (200, "\x7b\"id\":\"Drama\"\x7d\n"), some (200, "\x7b\"id\":\"Drama\"\x7d\n")] ∧
      ∀ own ∈ results, ∃ loaded rows, openedStore "catalogue.json" own.2 = .ok (loaded, rows) ∧
        (loaded.rows "genre").map List.length = .ok 1 := by
  intro clock turns
  generalize ran : serveAll {} ⟨"catalogue.json", false⟩ emptyStore turns = served
  have shownInOne : served.map (fun one => one.1.toOption) =
      [some (200, "\x7b\"id\":\"Drama\"\x7d\n"), some (200, "\x7b\"id\":\"Drama\"\x7d\n")] := by
    rw [← ran]
    decide +kernel
  have rowsInOne : ∀ one ∈ served, (one.2.rows "genre").map List.length = .ok 1 := by
    rw [← ran]
    decide +kernel
  have noReal : ∀ one ∈ served, ∀ table ∈ one.2.tables, ∀ row ∈ table.rows,
      ∀ cell ∈ row.cells, cell.2.numeric? = none := by
    rw [← ran]
    decide +kernel
  have rereads : ∀ one ∈ served, ∀ x, one.2.HasReal x → Value.KeepsReal x := by
    rintro one member x ⟨table, inStore, row, inTable, name, inRow⟩
    cases noReal one member table inStore row inTable _ inRow
  have opened : openedStore "catalogue.json" .missing = .ok (emptyStore, 0) := rfl
  obtain ⟨results, invoked, each⟩ := invokeAll_eq_serveAll rfl opened
    ⟨"catalogue.json", false⟩ (by decide) (ran ▸ rereads)
  rw [ran] at each
  refine ⟨results, invoked, ?_, ?_⟩
  · rw [← shownInOne, ← List.forall₂_eq_eq_eq, List.forall₂_map_left_iff,
      List.forall₂_map_right_iff]
    exact each.imp fun own one related => congrArg Except.toOption related.1
  · intro own member
    obtain ⟨one, inServed, -, loaded, rows, openedOwn, sameRows⟩ :=
      exists_of_mem_results each.flip member
    exact ⟨loaded, rows, openedOwn, sameRows "genre" ▸ rowsInOne one inServed⟩

end MovieCatalogue.Shell

import MovieCatalogue.Proofs.Shell.LogOpening
import MovieCatalogue.Proofs.Shell.OneProcess

/-!
Contract: the work of a run and its data file.

Owns: worlds in which the data file has what was last written to it; what the steps of a
run do to the data file and the standard output there; that the work of a run with a log
out of sight ends, prints and leaves the data file as `invoke` says, and so does a run
that describes no log; and that runs one after the other show what one store shows that
serves all their commands.
Does not own: command lines and settings, see `Shell.Program`; which logs are out of
sight, see `Proofs.Shell.LogWriting` and `Proofs.Shell.LogOpening`.
-/

namespace MovieCatalogue.Shell

open MovieCatalogue.Endpoint MovieCatalogue.Journal MovieCatalogue.Record MovieCatalogue.Refusal
open MovieCatalogue.Storage

variable {σ Handle α β : Type}

/-- A world that shows the data file at a path as it was written, and changes it only then. -/
structure World.Shows (world : World (StateM σ) Handle) (path : String) (view : View σ) : Prop where
  state : ∀ scene, world.state path scene = (view.file scene, scene)
  isPresent : ∀ scene, world.isPresent path scene = ((view.file scene).isPresent, scene)
  replace : ∀ scene (text : String), ∃ next, world.replace path text.toUTF8 scene = (.ok (), next) ∧
    view.file next = .found text ∧ view.printed next = view.printed scene
  print : ∀ scene text, ∃ next, world.print text scene = ((), next) ∧
    view.file next = view.file scene ∧ view.printed next = view.printed scene ++ text
  complain : ∀ scene text, ∃ next, world.complain text scene = ((), next) ∧
    view.file next = view.file scene ∧ view.printed next = view.printed scene

/-! ## Steps -/

/-- From every scene with one data file, steps give a result, leave another data file, print a text
and keep what is asked of the log. -/
def Does (view : View σ) (Fine : Log Handle → Prop) (steps : Running (StateM σ) Handle α)
    (before : FileState) (result : Except Nat α) (after : FileState) (text : String) : Prop :=
  ∀ log scene, Fine log → view.file scene = before → ∃ later next,
    steps log scene = ((result, later), next) ∧ Fine later ∧
      view.file next = after ∧ view.printed next = view.printed scene ++ text

namespace Does

variable {view : View σ} {Fine : Log Handle → Prop} {before between after : FileState}
  {text rest : String} {steps : Running (StateM σ) Handle α}
  {next : α → Running (StateM σ) Handle β}

theorem pure (value : α) : Does view Fine (Pure.pure value) before (.ok value) before "" :=
  fun log scene fine here => ⟨log, scene, rfl, fine, here, String.append_empty.symm⟩

theorem bind {found : α} {result : Except Nat β}
    (first : Does view Fine steps before (.ok found) between text)
    (second : Does view Fine (next found) between result after rest) :
    Does view Fine (steps >>= next) before result after (text ++ rest) := by
  intro log scene fine here
  obtain ⟨middleLog, middle, ran, fineBetween, fileBetween, said⟩ := first log scene fine here
  obtain ⟨later, last, ranNext, fineLater, fileAfter, saidNext⟩ :=
    second middleLog middle fineBetween fileBetween
  refine ⟨later, last, ?_, fineLater, fileAfter, by rw [saidNext, said, String.append_assoc]⟩
  simp only [Bind.bind, ExceptT.bind, ExceptT.mk, StateT.bind, ExceptT.bindCont, ran]
  exact ranNext

theorem bind_error {code : Nat} (first : Does view Fine steps before (.error code) after text) :
    Does view Fine (steps >>= next) before (.error code) after text := by
  intro log scene fine here
  obtain ⟨later, last, ran, seen⟩ := first log scene fine here
  refine ⟨later, last, ?_, seen⟩
  simp only [Bind.bind, ExceptT.bind, ExceptT.mk, StateT.bind, ExceptT.bindCont, ran]
  rfl

theorem throw (code : Nat) :
    Does view Fine (throw code : Running (StateM σ) Handle α) before (.error code) before "" :=
  fun log scene fine here => ⟨log, scene, rfl, fine, here, String.append_empty.symm⟩

/-- Steps that say nothing do not matter to what is printed. -/
theorem bind_silent {found : α} {result : Except Nat β}
    (first : Does view Fine steps before (.ok found) between "")
    (second : Does view Fine (next found) between result after text) :
    Does view Fine (steps >>= next) before result after text :=
  String.empty_append (s := text) ▸ first.bind second

theorem then_silent {found : α} {result : Except Nat β}
    (first : Does view Fine steps before (.ok found) between text)
    (second : Does view Fine (next found) between result after "") :
    Does view Fine (steps >>= next) before result after text :=
  String.append_empty (s := text) ▸ first.bind second

theorem perform {step : StateM σ α} {value : α}
    (acts : ∀ scene, view.file scene = before → ∃ next, step scene = (value, next) ∧
      view.file next = after ∧ view.printed next = view.printed scene ++ text) :
    Does view Fine (Running.perform step) before (.ok value) after text := by
  intro log scene fine here
  obtain ⟨last, acted, seen⟩ := acts scene here
  refine ⟨log, last, ?_, fine, seen⟩
  simp only [Running.perform, ExceptT.lift, ExceptT.mk, StateT.lift, Functor.map, StateT.map, acted,
    Bind.bind, StateT.bind]
  rfl

/-- Steps out of sight leave the data file and print nothing. -/
theorem of_spares {steps : Running (StateM σ) Handle Unit}
    (spares : Running.Spares view Fine steps fun _ => True) :
    Does view Fine steps before (.ok ()) before "" := by
  intro log scene fine here
  obtain ⟨_, later, next, ran, -, fineLater, sameFile, samePrinted⟩ := spares log scene fine
  exact ⟨later, next, ran, fineLater, sameFile.trans here,
    samePrinted.trans String.append_empty.symm⟩

end Does

/-! ## The steps of a run -/

section

variable {view : View σ} {Fine : Log Handle → Prop} {world : World (StateM σ) Handle} {path : String}
  {file : FileState}

variable (shows : world.Shows path view)
include shows

theorem does_state :
    Does view Fine (Running.perform (world.state path)) file (.ok file) file "" :=
  .perform fun scene here => ⟨scene, by rw [shows.state, here], here, String.append_empty.symm⟩

theorem does_isPresent :
    Does view Fine (Running.perform (world.isPresent path)) file (.ok file.isPresent) file "" :=
  .perform fun scene here => ⟨scene, by rw [shows.isPresent, here], here, String.append_empty.symm⟩

theorem does_replace (text : String) :
    Does view Fine (Running.perform (world.replace path text.toUTF8)) file (.ok (.ok ()))
      (.found text) "" :=
  .perform fun scene _ => by
    obtain ⟨next, replaced, found, silent⟩ := shows.replace scene text
    exact ⟨next, replaced, found, by rw [silent, String.append_empty]⟩

theorem does_print (text : String) :
    Does view Fine (Running.say world .output text) file (.ok ()) file text :=
  .perform fun scene here => by
    obtain ⟨next, printed, sameFile, said⟩ := shows.print scene text
    exact ⟨next, printed, sameFile.trans here, said⟩

theorem does_complain (text : String) :
    Does view Fine (Running.say world .errors text) file (.ok ()) file "" :=
  .perform fun scene here => by
    obtain ⟨next, complained, sameFile, silent⟩ := shows.complain scene text
    exact ⟨next, complained, sameFile.trans here, by rw [silent, String.append_empty]⟩

theorem does_fail (code : Nat) (message : String) :
    Does view Fine (Running.fail world code message : Running (StateM σ) Handle α) file (.error code)
      file "" :=
  (does_complain shows _).bind_silent (.throw code)

end

/-! ## The work of a run -/

namespace Program.Setting

variable {setting : Setting (StateM σ) Handle} {view : View σ} {Fine : Log Handle → Prop}
  {file : FileState} {store : Store} {command : Command String} {mode : OutputMode}

theorem does_payload (command : Command String) :
    Does view Fine (command.given.mapPayload setting.payloadText) file (.ok command) file "" := by
  intro log scene fine here
  refine ⟨log, scene, ?_, fine, here, String.append_empty.symm⟩
  cases command <;> rfl

variable (shows : setting.world.Shows setting.config.dataPath view)
include shows

theorem does_save (store : Store) :
    Does view Fine (setting.save store) file (.ok ()) (.found (Snapshot.ofStore store).text) "" :=
  (does_replace shows _).bind_silent (.pure ())

theorem does_openStore_of_error {message : String}
    (failed : openedStore setting.config.dataPath file = .error message) :
    Does view Fine setting.openStore file (.error 1) file "" := by
  refine (does_state shows).bind_silent ?_
  rw [failed]
  exact (does_fail shows 1 _).bind_error

theorem does_execute_of_error {error : RequestError}
    (refused : command.run (serviceOf setting.config) store
      (.standing setting.given.moment setting.given.elapsed) {}
      ⟨setting.config.dataPath, file.isPresent⟩ mode = .error error) :
    Does view Fine (setting.execute store command mode) file (.error 1) file "" := by
  refine (does_isPresent shows).bind_silent ?_
  dsimp only
  rw [refused]
  exact (does_fail shows 1 _).bind_error

variable (quiet : ∀ lines,
  Running.Spares view Fine (Log.write setting.world setting.present lines) fun _ => True)
include quiet

omit shows in
theorem does_note (events : List Event) :
    Does view Fine (setting.note events) file (.ok ()) file "" :=
  .of_spares (quiet _)

theorem does_openStore {count : Nat}
    (opened : openedStore setting.config.dataPath file = .ok (store, count)) :
    Does view Fine setting.openStore file (.ok store) file "" := by
  refine (does_state shows).bind_silent ?_
  rw [opened]
  exact .bind_silent (.pure (store, count)) ((does_note quiet _).bind_silent (.pure store))

theorem does_execute {execution : Execution} (noFile : execution.createsFile = false)
    (ran : command.run (serviceOf setting.config) store
      (.standing setting.given.moment setting.given.elapsed) {}
      ⟨setting.config.dataPath, file.isPresent⟩ mode = .ok execution) :
    Does view Fine (setting.execute store command mode) file (.ok execution) file
      execution.output := by
  refine (does_isPresent shows).bind_silent ?_
  dsimp only
  rw [ran]
  refine .bind_silent (.pure execution) ?_
  rw [noFile]
  exact (does_note quiet _).bind_silent ((does_print shows _).then_silent (.pure execution))

/-- The end of a run: the store is written to the data file if there is reason to, and a status
that is no success ends the run with code 1. -/
theorem does_close (execution : Execution) :
    Does view Fine (do
      if keepsStore (serviceOf setting.config) command execution.status then
        setting.save execution.store
        setting.note [savedEvent setting.config.dataPath execution.store]
      if !succeeds execution.status then
        setting.note [.commandFinished execution.status]
        throw 1) file (if succeeds execution.status then .ok () else .error 1)
      (fileAfter (serviceOf setting.config) file command (.ok execution)) "" := by
  have status (after : FileState) : Does view Fine (do
      if !succeeds execution.status then
        setting.note [.commandFinished execution.status]
        throw 1) after (if succeeds execution.status then .ok () else .error 1) after "" := by
    cases succeeds execution.status with
    | true => exact .pure ()
    | false => exact (does_note quiet _).bind_silent (.throw 1)
  dsimp only [fileAfter]
  cases keepsStore (serviceOf setting.config) command execution.status with
  | true =>
      refine (does_save shows execution.store).bind_silent ?_
      exact (does_note quiet _).bind_silent (status _)
  | false => exact status file

/-- The work of a run on a command that a store serves is a process for this command. -/
theorem does_work {invocation : Invocation} (served : command.isServed = true)
    (given : invocation.command = command.given) {shown : Shown} {after : FileState}
    (invoked : invoke (serviceOf setting.config) setting.config.dataPath file
      ⟨command, .standing setting.given.moment setting.given.elapsed, invocation.mode⟩ =
        .ok (shown, after)) :
    Does view Fine (setting.work invocation) file shown.code after shown.text := by
  cases opened : openedStore setting.config.dataPath file with
  | error message =>
      rw [invoke, opened] at invoked
      cases invoked
  | ok start =>
      obtain ⟨store, count⟩ := start
      refine (does_openStore shows quiet opened).bind_silent ?_
      rw [given]
      refine (does_payload command).bind_silent ?_
      cases ran : command.run (serviceOf setting.config) store
        (.standing setting.given.moment setting.given.elapsed) {}
        ⟨setting.config.dataPath, file.isPresent⟩ invocation.mode with
      | error error =>
          cases (invoke_of_run opened ran).symm.trans invoked
          exact (does_execute_of_error shows ran).bind_error
      | ok execution =>
          cases (invoke_of_run opened ran).symm.trans invoked
          have noFile := Command.createsFile_run served ran
          exact (does_execute shows quiet noFile ran).then_silent
            (does_close shows quiet execution)

omit quiet in
/-- The work of a run on a file that is no snapshot ends with code 1 and leaves the file. -/
theorem does_work_of_error {invocation : Invocation} {message : String}
    (failed : openedStore setting.config.dataPath file = .error message) :
    Does view Fine (setting.work invocation) file (.error 1) file "" :=
  (does_openStore_of_error shows failed).bind_error

end Program.Setting

/-! ## Run after run -/

namespace Program

/-- A run that is a given turn: it takes the settings of a service, keeps its data at a path, has its
payload on its command line and writes its log within an area. -/
structure Start.Fits (start : Start Handle) (service : Service) (path : String)
    (world : World (StateM σ) Handle) (area : LogArea Handle) (turn : Turn) : Prop where
  config : serviceOf start.config = service
  dataPath : start.config.dataPath = path
  command : start.invocation.command = turn.command.given
  turn : start.turn turn.command = turn
  log : start.log.Within area world (start.setting world).present

section

variable {service : Service} {path : String} {world : World (StateM σ) Handle} {view : View σ}
  {area : LogArea Handle} (shows : world.Shows path view) (spares : world.Spares view area)
include shows spares

/-- The work of a run ends, prints and leaves the data file as the process for its turn does. -/
theorem workFrom_of_invoke {start : Start Handle} {turn : Turn}
    (fits : start.Fits service path world area turn) (served : turn.command.isServed = true)
    {scene : σ} {shown : Shown} {after : FileState}
    (invoked : invoke service path (view.file scene) turn = .ok (shown, after)) :
    ∃ next, workFrom world start scene = (shown.code, next) ∧ view.file next = after ∧
      view.printed next = view.printed scene ++ shown.text := by
  have showsThere : (start.setting world).world.Shows (start.setting world).config.dataPath view := by
    rw [← fits.dataPath] at shows
    exact shows
  rw [← fits.config, ← fits.dataPath, ← fits.turn] at invoked
  obtain ⟨later, next, ran, -, fileAfter, said⟩ := Setting.does_work showsThere
    (Log.spares_write spares) served fits.command invoked start.log scene fits.log rfl
  refine ⟨next, ?_, fileAfter, said⟩
  simp only [workFrom, StateT.run', ExceptT.run, Functor.map, StateT.map, ran]
  rfl

/-- Runs that find a data file that keeps a store end and print as the store shows, and leave one
that keeps the store as it is then. -/
theorem workAll_of_keeps (standard : service.registry = .standard) (dataFile : DataFile)
    {starts : List (Start Handle)} {turns : List Turn}
    (fits : List.Forall₂ (fun start turn => start.Fits service path world area turn) starts turns)
    (served : ∀ turn ∈ turns, turn.command.isServed = true) {scene : σ} {store : Store}
    (holds : HoldsCatalogue store) (keeps : Keeps path (view.file scene) store)
    (rereads : ∀ result ∈ serveAll service dataFile store turns,
      ∀ x, result.2.HasReal x → Value.KeepsReal x) :
    ∃ next, workAll world starts scene =
        ((serveAll service dataFile store turns).map fun result => result.1.code, next) ∧
      view.printed next = view.printed scene ++
        String.join ((serveAll service dataFile store turns).map fun result => result.1.text) ∧
      HoldsCatalogue (storeAfterAll service dataFile store turns) ∧
      Keeps path (view.file next) (storeAfterAll service dataFile store turns) := by
  induction fits generalizing scene store with
  | nil => exact ⟨scene, rfl, String.append_empty.symm, holds, keeps⟩
  | @cons start turn starts turns fitsFirst _ inductionHypothesis =>
      rw [List.forall_mem_cons] at served
      rw [serveAll, List.forall_mem_cons] at rereads
      obtain ⟨after, invoked, keepsAfter⟩ :=
        invoke_of_keeps standard served.1 dataFile holds keeps rereads.1
      obtain ⟨middle, worked, rfl, said⟩ :=
        workFrom_of_invoke shows spares fitsFirst served.1 invoked
      have holdsAfter := holdsCatalogue_serve holds service dataFile served.1
      obtain ⟨next, workedRest, saidRest, holdsLast, keepsLast⟩ :=
        inductionHypothesis served.2 holdsAfter keepsAfter rereads.2
      refine ⟨next, ?_, ?_, holdsLast, keepsLast⟩
      · simp only [workAll, bind, StateT.bind, worked, workedRest]
        rfl
      · rw [saidRest, said, serveAll, List.map_cons, String.join_cons, String.append_assoc]

/--
Runs of the program one after the other, each with a log out of sight of the data file, end with the
codes and print the texts of one store that carries out all their commands; and then the data file
has the rows of that store in their order. The first run finds a snapshot or no file at all.
-/
theorem workAll_eq_serveAll (standard : service.registry = .standard) (dataFile : DataFile)
    {starts : List (Start Handle)} {turns : List Turn}
    (fits : List.Forall₂ (fun start turn => start.Fits service path world area turn) starts turns)
    (served : ∀ turn ∈ turns, turn.command.isServed = true) {scene : σ} {store : Store} {count : Nat}
    (opened : openedStore path (view.file scene) = .ok (store, count))
    (rereads : ∀ result ∈ serveAll service dataFile store turns,
      ∀ x, result.2.HasReal x → Value.KeepsReal x) :
    ∃ next, workAll world starts scene =
        ((serveAll service dataFile store turns).map fun result => result.1.code, next) ∧
      view.printed next = view.printed scene ++
        String.join ((serveAll service dataFile store turns).map fun result => result.1.text) ∧
      ∃ loaded rows, openedStore path (view.file next) = .ok (loaded, rows) ∧
        ∀ name, loaded.rows name = (storeAfterAll service dataFile store turns).rows name := by
  have holds := holdsCatalogue_of_openedStore opened
  obtain ⟨next, worked, said, holdsLast, keeps⟩ := workAll_of_keeps shows spares standard dataFile
    fits served holds ⟨store, count, opened, .refl store⟩ rereads
  exact ⟨next, worked, said, keeps.rows_eq holdsLast.sound⟩

omit shows in
/-- A run that describes no log is a process for its command, if the files of its log are out of sight
of the data file: it ends with the code, prints the text and leaves the data file of this process. -/
theorem runWith_of_invoke {environment : Settings.Environment} {given : Given}
    {invocation : Invocation} {config : Settings.Config} (builtIn : config.log.configFile = none)
    (leads : Log.StandardLeads area world (config.log.directory.getD "") config.log.retention)
    {command : Command String} (served : command.isServed = true)
    (commanded : invocation.command = command.given) (shows : world.Shows config.dataPath view)
    {scene : σ} {shown : Shown} {after : FileState}
    (invoked : invoke (serviceOf config) config.dataPath (view.file scene)
      ⟨command, .standing given.moment given.elapsed, invocation.mode⟩ = .ok (shown, after)) :
    ∃ next, runWith world environment given invocation config scene = (shown.exitCode, next) ∧
      view.file next = after ∧ view.printed next = view.printed scene ++ shown.text := by
  obtain ⟨description, middle, looked, -, sameFile, samePrinted⟩ := spares.lookUp "TZ" scene
  let setting : Setting (StateM σ) Handle :=
    ⟨world, given, Calendar.Zone.ofDescription description, config⟩
  have opens : Does view (Log.Within area world setting.present)
      (Log.openFrom world environment setting.present config.log) (view.file scene) (.ok ())
      (view.file scene) "" :=
    .of_spares (Log.spares_openFrom spares builtIn leads environment setting.present)
  have works : Does view (Log.Within area world setting.present)
      (Log.openFrom world environment setting.present config.log >>= fun _ => setting.work invocation)
      (view.file scene) shown.code after shown.text :=
    opens.bind_silent (setting.does_work shows (Log.spares_write spares) served commanded invoked)
  obtain ⟨later, next, ran, -, fileAfter, said⟩ :=
    works {} middle (Log.within_of_silent rfl) sameFile
  refine ⟨next, ?_, fileAfter, samePrinted ▸ said⟩
  simp only [bind, setting] at ran
  simp only [runWith, bind, StateT.bind, looked, StateT.run', ExceptT.run, Functor.map, StateT.map,
    ran, Shown.exitCode]
  cases shown.code with
  | ok _ => rfl
  | error code => rfl

end

end Program

/-! ## A world of one file -/

namespace World

/-- What is found where a file has these bytes, or cannot be read. -/
private def fileOf : Except Disk.Fault ByteArray → FileState
  | .ok bytes => .ofBytes bytes
  | .error .notFound => .missing
  | .error fault => .unreadable fault.message

/-- A world of one data file, with what was printed. Everything else is written nowhere. -/
def ofFile : World (StateM (Except Disk.Fault ByteArray × String)) Unit where
  lookUp _ := return none
  isPresent _ := return (fileOf (← get).1).isPresent
  isFile _ := return .ok true
  read _ := return (← get).1
  makeDirectories _ := return .ok ()
  openEnd _ := return .ok ()
  openEmpty _ := return .ok ()
  write _ _ := return .ok ()
  size _ := return (← get).1.map ByteArray.size
  move _ _ := return .ok ()
  remove _ := return .ok ()
  replace _ bytes := modifyGet fun scene => (.ok (), .ok bytes, scene.2)
  readInput := return .ok .empty
  print text := modify fun scene => (scene.1, scene.2 ++ text)
  complain _ := return ()

/-- What is seen of a world of one file. -/
def viewOfFile : View (Except Disk.Fault ByteArray × String) where
  file scene := fileOf scene.1
  printed := Prod.snd

/-- A world of one file shows it as it was written. -/
theorem shows_ofFile (path : String) : ofFile.Shows path viewOfFile where
  state := by
    rintro ⟨content, printed⟩
    cases content with
    | ok bytes =>
        have present : (FileState.ofBytes bytes).isPresent = true := FileState.isPresent_ofBytes bytes
        change (ite ((FileState.ofBytes bytes).isPresent = true) _ _ : StateM _ FileState) _ = _
        rw [if_pos present]
        rfl
    | error fault => cases fault <;> rfl
  isPresent _ := rfl
  replace scene text := ⟨(.ok text.toUTF8, scene.2), rfl, FileState.ofBytes_toUTF8 text, rfl⟩
  print scene text := ⟨_, rfl, rfl, rfl⟩
  complain scene text := ⟨scene, rfl, rfl, rfl⟩

/-- The area of all paths and handles: what is logged in a world of one file is written nowhere. -/
def everywhere : LogArea Unit where
  Owns _ := True
  Holds _ := True
  Houses _ := True
  housed _ _ := trivial

/-- Every log is out of sight of it. -/
theorem spares_ofFile : ofFile.Spares viewOfFile everywhere where
  lookUp _ := .pure trivial
  makeDirectories _ _ := .pure trivial
  openEnd _ _ := .pure fun _ _ => trivial
  openEmpty _ _ := .pure fun _ _ => trivial
  write _ _ _ := .pure fun _ _ => trivial
  size _ _ := fun scene => ⟨_, scene, rfl, trivial, .refl _ scene⟩
  move _ _ _ _ := .pure (.inl rfl)
  remove _ _ := .pure trivial
  complain _ := .pure trivial

end World

/-- In a world of one file, every run that describes no log is a process for its command. -/
theorem Program.runWith_ofFile {environment : Settings.Environment} {given : Given}
    {invocation : Invocation} {config : Settings.Config} (builtIn : config.log.configFile = none)
    {command : Command String} (served : command.isServed = true)
    (commanded : invocation.command = command.given) {scene : Except Disk.Fault ByteArray × String}
    {shown : Shown} {after : FileState}
    (invoked : invoke (serviceOf config) config.dataPath (World.viewOfFile.file scene)
      ⟨command, .standing given.moment given.elapsed, invocation.mode⟩ = .ok (shown, after)) :
    ∃ next, runWith World.ofFile environment given invocation config scene =
        (shown.exitCode, next) ∧
      World.viewOfFile.file next = after ∧ next.2 = scene.2 ++ shown.text :=
  runWith_of_invoke World.spares_ofFile builtIn
    ⟨trivial, fun _ _ => trivial, fun _ _ _ _ _ => trivial⟩ served commanded
    (World.shows_ofFile config.dataPath) invoked

end MovieCatalogue.Shell

import MovieCatalogue.Proofs.Shell.LogWriting

/-!
Contract: logs that are opened out of sight of the data file.

Owns: the outlets that are placed in an area; that opening them is not seen, and gives
outlets within the area or none; and that a run which describes no log opens one that
keeps to the area where the files of the built-in log are, or has none at all.
Does not own: logs that a file describes.
-/

namespace MovieCatalogue.Shell

open MovieCatalogue.Disk MovieCatalogue.Journal MovieCatalogue.Settings

variable {σ Handle α β : Type}

/-! ## Places -/

/-- A path that leads into an area, whatever the variables are that it mentions. -/
def World.Leads (world : World (StateM σ) Handle) (area : LogArea Handle) (path : String) : Prop :=
  ∀ scene, area.Holds (expandVariables world path scene).1

/-- When a file is put aside can be told, and older files are in an area. -/
structure LogArea.PlacesOlder (area : LogArea Handle) (world : World (StateM σ) Handle)
    (present : Calendar.LocalMoment) (rotation : Rotation) : Prop where
  timely : ∀ isFirst bytes, rotation.occasion.arises? present isFirst bytes ≠ none
  places : ∀ window, rotation.fate = .numbered window → window.isCountable = true ∧
    ∀ number, world.Leads area (window.place number)

/-- An outlet whose files are in an area, or which is not seen anyway. -/
def LogArea.Places (area : LogArea Handle) (world : World (StateM σ) Handle)
    (present : Calendar.LocalMoment) : Outlet → Prop
  | .file path _ => ∀ scene, ∃ filled,
      expandMoment? present (expandVariables world path scene).1 = some filled ∧ area.Holds filled
  | .rotated path _ rotation =>
      world.Leads area path ∧ area.PlacesOlder world present rotation
  | .stream stream _ => stream = .errors

/-! ## Steps that may be given up -/

namespace Log

/-- Steps out of sight, which give what is expected or are given up. -/
def Opening.Spares (view : View σ) (Fine : Log Handle → Prop)
    (steps : Opening (StateM σ) Handle α) (Expected : α → Prop) : Prop :=
  Running.Spares view Fine steps.run fun outcome => ∀ value, outcome = .ok value → Expected value

namespace Opening

variable {view : View σ} {Fine : Log Handle → Prop} {steps : Opening (StateM σ) Handle α}
  {next : α → Opening (StateM σ) Handle β} {Expected : α → Prop} {Wanted : β → Prop}

theorem Spares.pure {value : α} (expected : Expected value) :
    Spares view Fine (Pure.pure value) Expected := by
  refine Running.Spares.pure ?_
  rintro _ ⟨⟩
  exact expected

theorem Spares.throw (reason : String) :
    Spares view Fine (throw reason : Opening (StateM σ) Handle α) Expected :=
  Running.Spares.pure nofun

theorem Spares.bind (first : Spares view Fine steps Expected)
    (second : ∀ value, Expected value → Spares view Fine (next value) Wanted) :
    Spares view Fine (steps >>= next) Wanted := by
  refine Running.Spares.bind first fun outcome expected => ?_
  cases outcome with
  | ok value => exact second value (expected value rfl)
  | error reason => exact .pure nofun

theorem Spares.perform {step : StateM σ α} (spares : view.Spares step Expected) :
    Spares view Fine (ExceptT.lift (Running.perform step)) Expected := by
  refine Running.Spares.bind (.perform spares) fun value expected => .pure ?_
  rintro _ ⟨⟩
  exact expected

theorem Spares.attempt {step : StateM σ (Except Fault α)}
    (spares : view.Spares step fun outcome => ∀ value, outcome = .ok value → Expected value) :
    Spares view Fine (Log.attempt step) Expected := by
  refine .bind (.perform spares) fun outcome expected => ?_
  cases outcome with
  | ok value => exact .pure (expected value rfl)
  | error fault => exact .throw _

/-- Whatever an attempt gives, it is out of sight. -/
theorem Spares.attempt_any {step : StateM σ (Except Fault α)} (spares : view.Spares step fun _ => True) :
    Spares view Fine (Log.attempt step) fun _ => True :=
  .attempt (spares.imp fun _ _ _ _ => trivial)

theorem Spares.mapM {items : List β} {act : β → Opening (StateM σ) Handle α}
    (each : ∀ item ∈ items, Spares view Fine (act item) Expected) :
    Spares view Fine (items.mapM act) fun values => ∀ value ∈ values, Expected value := by
  induction items with
  | nil => exact .pure (List.forall_mem_nil _)
  | cons item items inductionHypothesis =>
      rw [List.forall_mem_cons] at each
      rw [List.mapM_cons]
      refine .bind each.1 fun value expected => .bind (inductionHypothesis each.2) ?_
      exact fun values others => .pure (List.forall_mem_cons.mpr ⟨expected, others⟩)

end Opening

/-! ## Outlets -/

section

variable {world : World (StateM σ) Handle} {view : View σ} {area : LogArea Handle}
  (spares : world.Spares view area) {present : Calendar.LocalMoment} {Fine : Log Handle → Prop}
include spares

theorem spares_openFile {path : String} (held : area.Holds path) (keeps : Bool) :
    Opening.Spares view Fine (openFile world path keeps) area.Owns := by
  have opens : Opening.Spares view Fine
      (attempt (if keeps then world.openEnd path else world.openEmpty path)) area.Owns := by
    cases keeps with
    | true => exact .attempt (spares.openEnd path held)
    | false => exact .attempt (spares.openEmpty path held)
  unfold openFile
  cases isIn : parent? path with
  | none => exact opens
  | some parent =>
      have housed := area.housed held isIn
      exact .bind (.attempt_any (spares.makeDirectories parent housed)) fun _ _ => opens

theorem spares_openRotated {file : RotatedFile Handle} (within : file.Within area world present) :
    Opening.Spares view Fine (openRotated world file) fun later =>
      later.Within area world present := by
  have opened : RotatedFile.Spares view (RotatedFile.Within area world present)
      (RotatedFile.openFirst world) fun _ => True := by
    refine .bind .get fun file within => ?_
    refine .bind (RotatedFile.spares_makeParent spares within.path) fun _ _ => ?_
    exact .bind (RotatedFile.spares_ensureOpen spares) fun _ _ => .pure trivial
  refine .bind (.perform (opened.run within)) fun ended expected => ?_
  obtain ⟨outcome, later⟩ := ended
  cases outcome with
  | ok _ => exact .pure expected.2
  | error fault =>
      cases fault with
      | failed reason => exact .throw reason
      | broken => exact absurd rfl expected.1

theorem spares_showsColours : view.Spares (showsColours world) fun _ => True := by
  have isWanted (name : String) : view.Spares (isWanted world name) fun _ => True :=
    .bind (spares.lookUp name) fun _ _ => .pure trivial
  refine .bind (isWanted _) fun refused _ => ?_
  split
  case isTrue => exact .pure trivial
  case isFalse => exact isWanted _

theorem spares_openOutlet {outlet : Outlet} (placed : area.Places world present outlet) :
    Opening.Spares view Fine (openOutlet world present outlet) fun opened =>
      opened.Within area world present := by
  cases outlet with
  | file path keeps =>
      have expands : view.Spares (expandVariables world path) fun expanded => ∃ filled,
          expandMoment? present expanded = some filled ∧ area.Holds filled :=
        (spares_expandVariables spares path).of_forall placed
      refine .bind (.perform expands) fun expanded leads => ?_
      obtain ⟨filled, isFilled, held⟩ := leads
      rw [isFilled]
      exact .bind (spares_openFile spares held keeps) fun _ owned => .pure owned
  | rotated path keeps rotation =>
      obtain ⟨leads, timely, places⟩ := placed
      have expands := (spares_expandVariables spares path).of_forall leads
      refine .bind (.perform expands) fun expanded held => ?_
      have within : (RotatedFile.closed expanded keeps rotation).Within area world present :=
        ⟨held, nofun, timely, places⟩
      exact .bind (spares_openRotated spares within) fun _ later => .pure later
  | stream stream terminalOnly =>
      cases placed
      refine .bind (.perform (spares_showsColours spares)) fun coloured _ => .pure ?_
      split
      case isTrue => trivial
      case isFalse => trivial

end

/-! ## The built-in log -/

/-- A line of the built-in log is written as a whole. -/
theorem isWhole_standardPattern (present : Calendar.LocalMoment) (line : Line) :
    (Encoder.write (.pattern standardPattern) present line).isWhole = true := rfl

/-- The files of the built-in log and their directory are in an area. -/
structure StandardLeads (area : LogArea Handle) (world : World (StateM σ) Handle)
    (directory : String) (retention : Nat) : Prop where
  housed : area.Houses directory
  current : ∀ name, world.Leads area (inDirectory directory (name ++ ".log"))
  older : ∀ name window, (Setup.standardRotation directory name retention).fate = .numbered window →
    ∀ number, world.Leads area (window.place number)

variable {area : LogArea Handle} {world : World (StateM σ) Handle} {directory : String}
  {retention : Nat}

theorem placed_standardAppender (leads : StandardLeads area world directory retention)
    (name : String) (present : Calendar.LocalMoment) :
    area.Places world present (Setup.standardAppender directory retention name).outlet := by
  refine ⟨leads.current name, nofun, fun window numbered => ⟨?_, leads.older name window numbered⟩⟩
  cases numbered
  have kept : Setup.keptFiles retention ≤ 2 ^ 32 - 1 := Nat.min_le_right _ _
  simp only [Window.isCountable, decide_eq_true_eq]
  omega

variable {view : View σ} (spares : world.Spares view area) {Fine : Log Handle → Prop}
include spares

theorem spares_openStandard (leads : StandardLeads area world directory retention)
    (present : Calendar.LocalMoment) (verbosity : Verbosity) :
    Opening.Spares view Fine (openStandard world present directory retention verbosity) fun log =>
      log.Within area world present := by
  refine .bind (.attempt_any (spares.makeDirectories directory leads.housed)) fun _ _ => ?_
  refine .bind (.mapM ?_) fun appenders opened => .pure opened
  intro appender member
  obtain ⟨name, -, rfl⟩ := List.mem_map.mp member
  have placed := placed_standardAppender leads name present
  refine .bind (spares_openOutlet spares placed) fun outlet within => .pure ⟨within, ?_⟩
  exact isWhole_standardPattern present

/-- A run that describes no log opens the built-in one out of sight, or has none. -/
theorem spares_openFrom {config : LogConfig} (builtIn : config.configFile = none)
    (leads : StandardLeads area world (config.directory.getD "") config.retention)
    (environment : Environment) (present : Calendar.LocalMoment) :
    Running.Spares view (Within area world present) (openFrom world environment present config)
      fun _ => True := by
  unfold openFrom openBySettings
  rw [builtIn]
  refine .bind (spares_openStandard spares leads present _) fun outcome within => ?_
  cases outcome with
  | ok log => exact .set (within log rfl)
  | error reason => exact .perform (spares.complain _)

end Log

end MovieCatalogue.Shell

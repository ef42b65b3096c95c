import MovieCatalogue.Shell.Turns

/-!
Contract: logs that are written out of sight of the data file.

Owns: `View`, what is seen of a scene; `LogArea`, the handles, paths and directories of log
files, and the worlds in which what is done in such an area is not seen; the logs that keep
to an area; and that writing any lines to such a log changes nothing that is seen, breaks
nothing off and leaves such a log.
Does not own: what a run does besides; see `Proofs.Shell.Work`.
-/

namespace MovieCatalogue.Shell

open MovieCatalogue.Disk MovieCatalogue.Journal MovieCatalogue.Storage

variable {σ Handle α β : Type}

/-! ## Views -/

/-- What is seen of a scene: the data file, and what was printed. -/
structure View (σ : Type) where
  file : σ → FileState
  printed : σ → String

namespace View

variable {view : View σ} {scene middle next : σ}

/-- Two scenes look the same. -/
def Same (view : View σ) (scene next : σ) : Prop :=
  view.file next = view.file scene ∧ view.printed next = view.printed scene

theorem Same.refl (view : View σ) (scene : σ) : view.Same scene scene :=
  ⟨rfl, rfl⟩

theorem Same.trans (first : view.Same scene middle) (second : view.Same middle next) :
    view.Same scene next :=
  ⟨second.1.trans first.1, second.2.trans first.2⟩

/-- A step out of sight, which gives what is expected. -/
def Spares (view : View σ) (step : StateM σ α) (Expected : α → Prop) : Prop :=
  ∀ scene, ∃ value next, step scene = (value, next) ∧ Expected value ∧ view.Same scene next

theorem Spares.pure {value : α} {Expected : α → Prop} (expected : Expected value) :
    view.Spares (Pure.pure value) Expected :=
  fun scene => ⟨value, scene, rfl, expected, .refl view scene⟩

theorem Spares.bind {step : StateM σ α} {further : α → StateM σ β} {Expected : α → Prop}
    {Wanted : β → Prop} (first : view.Spares step Expected)
    (second : ∀ value, Expected value → view.Spares (further value) Wanted) :
    view.Spares (step >>= further) Wanted := by
  intro scene
  obtain ⟨value, middle, ran, expected, same⟩ := first scene
  obtain ⟨found, next, ranNext, wanted, sameToo⟩ := second value expected middle
  refine ⟨found, next, ?_, wanted, same.trans sameToo⟩
  simp only [Bind.bind, StateT.bind, ran]
  exact ranNext

theorem Spares.imp {step : StateM σ α} {Expected Wanted : α → Prop}
    (spares : view.Spares step Expected) (implies : ∀ value, Expected value → Wanted value) :
    view.Spares step Wanted := by
  intro scene
  obtain ⟨value, next, ran, expected, same⟩ := spares scene
  exact ⟨value, next, ran, implies value expected, same⟩

/-- What a step gives in every scene, it gives out of sight. -/
theorem Spares.of_forall {step : StateM σ α} {Expected : α → Prop}
    (spares : view.Spares step fun _ => True) (expected : ∀ scene, Expected (step scene).1) :
    view.Spares step Expected := by
  intro scene
  obtain ⟨value, next, ran, -, same⟩ := spares scene
  have given := expected scene
  rw [ran] at given
  exact ⟨value, next, ran, given, same⟩

theorem Spares.foldlM {items : List β} {act : α → β → StateM σ α}
    (each : ∀ value item, view.Spares (act value item) fun _ => True) (value : α) :
    view.Spares (items.foldlM act value) fun _ => True := by
  induction items generalizing value with
  | nil => exact .pure trivial
  | cons item items inductionHypothesis =>
      exact .bind (each value item) fun found _ => inductionHypothesis found

end View

/-! ## Areas of log files -/

/-- The handles and the paths of log files, and the directories that these are in. -/
structure LogArea (Handle : Type) where
  Owns : Handle → Prop
  Holds : String → Prop
  Houses : String → Prop
  housed : ∀ {path directory}, Holds path → parent? path = some directory → Houses directory

/-- If a file was opened, then with a handle of the area. -/
def LogArea.Opens (area : LogArea Handle) (outcome : Except Fault Handle) : Prop :=
  ∀ handle, outcome = .ok handle → area.Owns handle

/-- A world in which what is done with log files is not seen. A file that there is can be moved
within their area. -/
structure World.Spares (world : World (StateM σ) Handle) (view : View σ) (area : LogArea Handle) :
    Prop where
  lookUp : ∀ name, view.Spares (world.lookUp name) fun _ => True
  makeDirectories : ∀ directory, area.Houses directory →
    view.Spares (world.makeDirectories directory) fun _ => True
  openEnd : ∀ path, area.Holds path → view.Spares (world.openEnd path) area.Opens
  openEmpty : ∀ path, area.Holds path → view.Spares (world.openEmpty path) area.Opens
  write : ∀ handle bytes, area.Owns handle → view.Spares (world.write handle bytes) area.Opens
  size : ∀ path, area.Holds path → view.Spares (world.size path) fun _ => True
  move : ∀ source target, area.Holds source → area.Holds target →
    view.Spares (world.move source target) fun outcome =>
      outcome = .ok () ∨ outcome = .error .notFound
  remove : ∀ path, area.Holds path → view.Spares (world.remove path) fun _ => True
  complain : ∀ text, view.Spares (world.complain text) fun _ => True

/-- A file that is put aside from time to time within an area. The time can always be told. -/
structure RotatedFile.Within (area : LogArea Handle) (world : World (StateM σ) Handle)
    (present : Calendar.LocalMoment) (file : RotatedFile Handle) : Prop where
  path : area.Holds file.path
  handle : ∀ handle bytes, file.current = some (handle, bytes) → area.Owns handle
  timely : ∀ isFirst bytes, file.rotation.occasion.arises? present isFirst bytes ≠ none
  places : ∀ window, file.rotation.fate = .numbered window → window.isCountable = true ∧
    ∀ number scene, area.Holds (expandVariables world (window.place number) scene).1

/-- An outlet within an area, or one that is not seen anyway. -/
def OpenOutlet.Within (area : LogArea Handle) (world : World (StateM σ) Handle)
    (present : Calendar.LocalMoment) : OpenOutlet Handle → Prop
  | .file handle => area.Owns handle
  | .rotated rotating => rotating.Within area world present
  | .stream .errors _ => True
  | .stream .output _ => False
  | .nowhere => True

/-- A log that writes all lines as a whole, and to nothing outside an area. -/
def Log.Within (area : LogArea Handle) (world : World (StateM σ) Handle)
    (present : Calendar.LocalMoment) (log : Log Handle) : Prop :=
  ∀ entry ∈ log.appenders, entry.2.Within area world present ∧
    ∀ line, (entry.1.encoder.write present line).isWhole = true

/-- A log without appenders is within every area. -/
theorem Log.within_of_silent {area : LogArea Handle} {world : World (StateM σ) Handle}
    {present : Calendar.LocalMoment} {log : Log Handle} (silent : log.appenders = []) :
    log.Within area world present := by
  intro entry member
  rw [silent] at member
  cases member

/-! ## Steps on a file -/

namespace RotatedFile

/-- How steps may end: with what is expected, or with a fault that the run survives. -/
def Ends (Expected : α → Prop) : Except RotationFault α → Prop
  | .ok value => Expected value
  | .error fault => fault ≠ .broken

/-- Steps on a file out of sight, which keep what is asked of it. -/
def Spares (view : View σ) (Fine : RotatedFile Handle → Prop)
    (steps : Steps (StateM σ) Handle α) (Expected : α → Prop) : Prop :=
  ∀ file scene, Fine file → ∃ outcome later next, steps file scene = ((outcome, later), next) ∧
    Ends Expected outcome ∧ Fine later ∧ view.Same scene next

section Rules

variable {view : View σ} {Fine : RotatedFile Handle → Prop} {steps : Steps (StateM σ) Handle α}
  {next : α → Steps (StateM σ) Handle β} {Expected : α → Prop} {Wanted : β → Prop}

theorem Spares.pure {value : α} (expected : Expected value) :
    Spares view Fine (Pure.pure value) Expected :=
  fun file scene fine => ⟨.ok value, file, scene, rfl, expected, fine, .refl view scene⟩

theorem Spares.bind (first : Spares view Fine steps Expected)
    (second : ∀ value, Expected value → Spares view Fine (next value) Wanted) :
    Spares view Fine (steps >>= next) Wanted := by
  intro file scene fine
  obtain ⟨outcome, between, middle, ran, ends, fineBetween, same⟩ := first file scene fine
  cases outcome with
  | ok value =>
      obtain ⟨outcome, later, last, ranNext, endsToo, fineLater, sameToo⟩ :=
        second value ends between middle fineBetween
      refine ⟨outcome, later, last, ?_, endsToo, fineLater, same.trans sameToo⟩
      simp only [Bind.bind, ExceptT.bind, ExceptT.mk, StateT.bind, ExceptT.bindCont, ran]
      exact ranNext
  | error fault =>
      refine ⟨.error fault, between, middle, ?_, ends, fineBetween, same⟩
      simp only [Bind.bind, ExceptT.bind, ExceptT.mk, StateT.bind, ExceptT.bindCont, ran]
      rfl

theorem Spares.perform {step : StateM σ α} (spares : view.Spares step Expected) :
    Spares view Fine (RotatedFile.perform step) Expected := by
  intro file scene fine
  obtain ⟨value, next, acted, expected, same⟩ := spares scene
  refine ⟨.ok value, file, next, ?_, expected, fine, same⟩
  simp only [RotatedFile.perform, ExceptT.lift, ExceptT.mk, StateT.lift, Functor.map, StateT.map,
    acted, Bind.bind, StateT.bind]
  rfl

theorem Spares.attempt {step : StateM σ (Except Fault α)}
    (spares : view.Spares step fun outcome => ∀ value, outcome = .ok value → Expected value) :
    Spares view Fine (RotatedFile.attempt step) Expected := by
  refine .bind (.perform spares) fun outcome expected => ?_
  cases outcome with
  | ok value => exact .pure (expected value rfl)
  | error fault =>
      exact fun file scene fine => ⟨_, file, scene, rfl, nofun, fine, .refl view scene⟩

/-- Whatever an attempt gives, it is out of sight. -/
theorem Spares.attempt_any {step : StateM σ (Except Fault α)} (spares : view.Spares step fun _ => True) :
    Spares view Fine (RotatedFile.attempt step) fun _ => True :=
  .attempt (spares.imp fun _ _ _ _ => trivial)

theorem Spares.get : Spares view Fine get Fine :=
  fun file scene fine => ⟨.ok file, file, scene, rfl, fine, fine, .refl view scene⟩

theorem Spares.modify {change : RotatedFile Handle → RotatedFile Handle}
    (keeps : ∀ file, Fine file → Fine (change file)) :
    Spares view Fine (modify change) fun _ => True :=
  fun file scene fine =>
    ⟨.ok (), change file, scene, rfl, trivial, keeps file fine, .refl view scene⟩

theorem Spares.set {file : RotatedFile Handle} (fine : Fine file) :
    Spares view Fine (set file) fun _ => True :=
  fun _ scene _ => ⟨.ok (), file, scene, rfl, trivial, fine, .refl view scene⟩

theorem Spares.forM {items : List β} {act : β → Steps (StateM σ) Handle Unit}
    (each : ∀ item, Spares view Fine (act item) fun _ => True) :
    Spares view Fine (items.forM act) fun _ => True := by
  induction items with
  | nil => exact .pure trivial
  | cons item items inductionHypothesis => exact .bind (each item) fun _ _ => inductionHypothesis

/-- Steps on a file as one step of the world, which gives the outcome and the file. -/
theorem Spares.run (spares : Spares view Fine steps fun _ => True) {file : RotatedFile Handle}
    (fine : Fine file) : view.Spares (StateT.run (ExceptT.run steps) file) fun ended =>
      Ends (fun _ => True) ended.1 ∧ Fine ended.2 := by
  intro scene
  obtain ⟨outcome, later, next, ran, ends, fineLater, same⟩ := spares file scene fine
  exact ⟨(outcome, later), next, ran, ⟨ends, fineLater⟩, same⟩

end Rules

end RotatedFile

/-! ## Putting a file aside -/

section

variable {world : World (StateM σ) Handle} {view : View σ} {area : LogArea Handle}
  (spares : world.Spares view area) {present : Calendar.LocalMoment}
include spares

/-- The variables in a path are looked up out of sight. -/
theorem spares_expandVariables (path : String) :
    view.Spares (expandVariables world path) fun _ => True := by
  refine .bind (.foldlM (fun text name => ?_) _) fun expanded _ => .pure trivial
  refine .bind (spares.lookUp _) fun value _ => ?_
  cases value with
  | none => exact .pure trivial
  | some value => exact .pure trivial

namespace RotatedFile

variable {Fine : RotatedFile Handle → Prop} {window : Window}

theorem spares_makeParent {path : String} (held : area.Holds path) :
    Spares view Fine (makeParent world path) fun _ => True := by
  unfold makeParent
  cases isIn : parent? path with
  | some directory => exact .attempt_any (spares.makeDirectories directory (area.housed held isIn))
  | none => exact .pure trivial

/-- A file within the area is moved, or is not there. -/
theorem moveOver_ok {source target : String} (fromHere : area.Holds source)
    (toThere : area.Holds target) (file : RotatedFile Handle) (scene : σ) :
    ∃ next, moveOver world source target file scene = ((.ok (), file), next) ∧
      view.Same scene next := by
  obtain ⟨outcome, next, moved, taken, same⟩ := spares.move source target fromHere toThere scene
  refine ⟨next, ?_, same⟩
  simp only [moveOver, perform, ExceptT.lift, ExceptT.mk, StateT.lift, Functor.map, StateT.map,
    Bind.bind, ExceptT.bind, StateT.bind, moved, ExceptT.bindCont]
  rcases taken with rfl | rfl <;> rfl

theorem spares_moveOver {source target : String} (fromHere : area.Holds source)
    (toThere : area.Holds target) :
    Spares view Fine (moveOver world source target) fun _ => True := by
  intro file scene fine
  obtain ⟨next, moved, same⟩ := moveOver_ok spares fromHere toThere file scene
  exact ⟨_, file, next, moved, trivial, fine, same⟩

/-- Nothing is printed, because the file can be moved. -/
theorem spares_moveFirst {path first : String} (fromHere : area.Holds path)
    (toThere : area.Holds first) :
    Spares view Fine (moveFirst world path first) fun _ => True := by
  intro file scene fine
  obtain ⟨next, moved, same⟩ := moveOver_ok spares fromHere toThere file scene
  refine ⟨.ok (), file, next, ?_, trivial, fine, same⟩
  simp only [moveFirst, tryCatch, tryCatchThe, MonadExceptOf.tryCatch, ExceptT.tryCatch, ExceptT.mk,
    Bind.bind, StateT.bind, moved]
  rfl

variable (places : ∀ number scene,
  area.Holds (expandVariables world (window.place number) scene).1)
include places

theorem spares_placeOf (number : Nat) :
    Spares view Fine (placeOf world window number) area.Holds :=
  .perform ((spares_expandVariables spares _).of_forall (places number))

theorem spares_moveUp (needsDirectory : Bool) (number : Nat) :
    Spares view Fine (moveUp world window needsDirectory number) fun _ => True := by
  refine .bind (spares_placeOf spares places number) fun source fromHere => ?_
  refine .bind (spares_placeOf spares places (number + 1)) fun target toThere => ?_
  cases needsDirectory with
  | true =>
      exact .bind (spares_makeParent spares toThere) fun _ _ =>
        spares_moveOver spares fromHere toThere
  | false => exact spares_moveOver spares fromHere toThere

omit places in
theorem spares_hasDirectories (first : String) :
    Spares view Fine (hasDirectories world window first) fun _ => True := by
  refine .bind (.perform (spares_expandVariables spares window.pattern)) fun pattern _ => ?_
  split
  case h_1 => exact .pure trivial
  case h_2 => exact .pure trivial

theorem spares_number (countable : window.isCountable = true) {path : String}
    (held : area.Holds path) : Spares view Fine (number world window path) fun _ => True := by
  refine .bind (spares_placeOf spares places window.base) fun first toThere => ?_
  refine .bind (spares_makeParent spares toThere) fun _ _ => ?_
  rw [countable]
  refine .bind (spares_hasDirectories spares first) fun needsDirectory _ => ?_
  refine .bind (.forM (spares_moveUp spares places needsDirectory)) fun _ _ => ?_
  exact spares_moveFirst spares held toThere

end RotatedFile

/-! ## Writing to a file -/

namespace RotatedFile

omit spares in
/-- A file that is closed or open within the area stays within it. -/
theorem Within.withCurrent {file : RotatedFile Handle} (within : file.Within area world present)
    {current : Option (Handle × Nat)}
    (owned : ∀ handle bytes, current = some (handle, bytes) → area.Owns handle) :
    ({ file with current := current } : RotatedFile Handle).Within area world present :=
  ⟨within.path, owned, within.timely, within.places⟩

theorem spares_putAside : Spares view (Within area world present) (putAside world) fun _ => True := by
  refine .bind (.modify fun file within => within.withCurrent nofun) fun _ _ => ?_
  refine .bind .get fun file within => ?_
  have removes : Spares view (Within area world present) (attempt (world.remove file.path))
      fun _ => True :=
    .attempt_any (spares.remove file.path within.path)
  cases fate : file.rotation.fate with
  | removed => exact removes
  | numbered window =>
      dsimp only
      split
      case isTrue => exact removes
      case isFalse =>
          obtain ⟨countable, places⟩ := within.places window fate
          exact spares_number spares places countable within.path

theorem spares_ensureOpen :
    Spares view (Within area world present) (ensureOpen world) fun current =>
      area.Owns current.1 := by
  refine .bind .get fun file within => ?_
  cases open? : file.current with
  | some current => exact .pure (within.handle current.1 current.2 open?)
  | none =>
      -- Both ways to open the file go on in the same way.
      have holds {handle : Handle} (owned : area.Owns handle) (bytes : Nat) :
          Spares view (Within area world present) (do
            modify fun file => { file with current := some (handle, bytes) }
            return (handle, bytes)) fun current => area.Owns current.1 := by
        refine .bind (.modify fun file within => within.withCurrent ?_) fun _ _ => .pure owned
        rintro _ _ ⟨⟩
        exact owned
      cases keeps : file.keeps with
      | true =>
          refine .bind (.attempt (spares.openEnd file.path within.path)) fun handle owned => ?_
          have measured := spares.size file.path within.path
          exact .bind (.attempt_any measured) fun bytes _ => holds owned bytes
      | false =>
          refine .bind (.attempt (spares.openEmpty file.path within.path)) fun handle owned => ?_
          exact holds owned 0

theorem spares_append (bytes : ByteArray) :
    Spares view (Within area world present) (append world bytes) fun _ => True := by
  refine .bind (spares_ensureOpen spares) fun current owned => ?_
  refine .bind (.attempt (spares.write current.1 bytes owned)) fun handle ownedToo => ?_
  refine .modify fun file within => within.withCurrent ?_
  rintro _ _ ⟨⟩
  exact ownedToo

theorem spares_rotate :
    Spares view (Within area world present) (rotate world present) fun _ => True := by
  refine .bind (spares_ensureOpen spares) fun current _ => ?_
  refine .bind .get fun file within => ?_
  refine .bind (.set ⟨within.path, within.handle, within.timely, within.places⟩) fun _ _ => ?_
  have told := within.timely file.isFresh current.2
  cases arises : file.rotation.occasion.arises? present file.isFresh current.2 with
  | none => exact absurd arises told
  | some now =>
      cases now with
      | true => exact spares_putAside spares
      | false => exact .pure trivial

/-- A whole line is written, and the file put aside if there is occasion to. -/
theorem spares_write {draft : Draft} (whole : draft.isWhole = true) :
    Spares view (Within area world present) (write world present draft) fun _ => True := by
  have prepares : Spares view (Within area world present) (prepare world present) fun _ => True := by
    refine .bind .get fun file _ => ?_
    split
    case isTrue => exact spares_rotate spares
    case isFalse => exact .pure trivial
  refine .bind prepares fun _ _ => .bind (spares_append spares draft.bytes) fun _ _ => ?_
  rw [whole]
  refine .bind .get fun file _ => ?_
  split
  case isTrue => exact spares_rotate spares
  case isFalse => exact .pure trivial

end RotatedFile

end

/-! ## Steps of a run -/

namespace Running

/-- Steps of a run out of sight, which keep what is asked of its log and do not end it. -/
def Spares (view : View σ) (Fine : Log Handle → Prop) (steps : Running (StateM σ) Handle α)
    (Expected : α → Prop) : Prop :=
  ∀ log scene, Fine log → ∃ value later next, steps log scene = ((.ok value, later), next) ∧
    Expected value ∧ Fine later ∧ view.Same scene next

section Rules

variable {view : View σ} {Fine : Log Handle → Prop} {steps : Running (StateM σ) Handle α}
  {next : α → Running (StateM σ) Handle β} {Expected : α → Prop} {Wanted : β → Prop}

theorem Spares.pure {value : α} (expected : Expected value) :
    Spares view Fine (Pure.pure value) Expected :=
  fun log scene fine => ⟨value, log, scene, rfl, expected, fine, .refl view scene⟩

theorem Spares.bind (first : Spares view Fine steps Expected)
    (second : ∀ value, Expected value → Spares view Fine (next value) Wanted) :
    Spares view Fine (steps >>= next) Wanted := by
  intro log scene fine
  obtain ⟨value, between, middle, ran, expected, fineBetween, same⟩ := first log scene fine
  obtain ⟨found, later, last, ranNext, wanted, fineLater, sameToo⟩ :=
    second value expected between middle fineBetween
  refine ⟨found, later, last, ?_, wanted, fineLater, same.trans sameToo⟩
  simp only [Bind.bind, ExceptT.bind, ExceptT.mk, StateT.bind, ExceptT.bindCont, ran]
  exact ranNext

theorem Spares.perform {step : StateM σ α} (spares : view.Spares step Expected) :
    Spares view Fine (Running.perform step) Expected := by
  intro log scene fine
  obtain ⟨value, next, acted, expected, same⟩ := spares scene
  refine ⟨value, log, next, ?_, expected, fine, same⟩
  simp only [Running.perform, ExceptT.lift, ExceptT.mk, StateT.lift, Functor.map, StateT.map,
    acted, Bind.bind, StateT.bind]
  rfl

theorem Spares.get : Spares view Fine get Fine :=
  fun log scene fine => ⟨log, log, scene, rfl, fine, fine, .refl view scene⟩

theorem Spares.modify {change : Log Handle → Log Handle} (keeps : ∀ log, Fine log → Fine (change log)) :
    Spares view Fine (modify change) fun _ => True :=
  fun log scene fine => ⟨(), change log, scene, rfl, trivial, keeps log fine, .refl view scene⟩

theorem Spares.set {log : Log Handle} (fine : Fine log) :
    Spares view Fine (set log) fun _ => True :=
  fun _ scene _ => ⟨(), log, scene, rfl, trivial, fine, .refl view scene⟩

theorem Spares.forM {items : List β} {act : β → Running (StateM σ) Handle Unit}
    (each : ∀ item, Spares view Fine (act item) fun _ => True) :
    Spares view Fine (items.forM act) fun _ => True := by
  induction items with
  | nil => exact .pure trivial
  | cons item items inductionHypothesis => exact .bind (each item) fun _ _ => inductionHypothesis

end Rules

end Running

/-! ## Writing to a log -/

namespace Log

section

variable {world : World (StateM σ) Handle} {view : View σ} {area : LogArea Handle}
  (spares : world.Spares view area) {present : Calendar.LocalMoment} {Fine : Log Handle → Prop}
include spares

theorem spares_complain (reason : String) :
    Running.Spares view Fine (complain world reason) fun _ => True :=
  .perform (spares.complain _)

theorem spares_deliverRotated {draft : Draft} (whole : draft.isWhole = true)
    {file : RotatedFile Handle} (within : file.Within area world present) :
    Running.Spares view Fine (deliverRotated world present draft file) fun later =>
      later.Within area world present := by
  refine .bind (.perform ((RotatedFile.spares_write spares whole).run within)) fun ended expected => ?_
  obtain ⟨outcome, later⟩ := ended
  cases outcome with
  | ok _ => exact .pure expected.2
  | error fault =>
      cases fault with
      | failed reason => exact .bind (spares_complain spares reason) fun _ _ => .pure expected.2
      | broken => exact absurd rfl expected.1

theorem spares_deliver {draft : Draft} (whole : draft.isWhole = true) {outlet : OpenOutlet Handle}
    (within : outlet.Within area world present) :
    Running.Spares view Fine (deliver world present draft outlet) fun later =>
      later.Within area world present := by
  have behind : Running.Spares view Fine (breakBehind draft) fun _ => True := by
    rw [breakBehind, whole]
    exact .pure trivial
  cases outlet with
  | file handle =>
      refine .bind (.perform (spares.write handle draft.bytes within)) fun outcome opens => ?_
      cases outcome with
      | ok handle => exact .bind behind fun _ _ => .pure (opens handle rfl)
      | error fault =>
          exact .bind (spares_complain spares fault.message) fun _ _ => .pure within
  | rotated file =>
      exact .bind (spares_deliverRotated spares whole within) fun _ within => .pure within
  | stream stream coloured =>
      cases stream with
      | output => cases within
      | errors =>
          refine .bind (.perform (spares.complain _)) fun _ _ => ?_
          exact .bind behind fun _ _ => .pure trivial
  | nowhere => exact .pure trivial

/-- Lines are written to any of the appenders, and all of them stay within the area. -/
theorem spares_deliverTo (line : Line) (name : String)
    {appenders : List (Appender × OpenOutlet Handle)}
    (within : ∀ entry ∈ appenders, entry.2.Within area world present ∧
      ∀ line, (entry.1.encoder.write present line).isWhole = true) :
    Running.Spares view Fine (deliverTo world present line name appenders) fun later =>
      ∀ entry ∈ later, entry.2.Within area world present ∧
        ∀ line, (entry.1.encoder.write present line).isWhole = true := by
  induction appenders with
  | nil => exact .pure (List.forall_mem_nil _)
  | cons entry others inductionHypothesis =>
      obtain ⟨appender, outlet⟩ := entry
      have others := (List.forall_mem_cons.mp within).2
      obtain ⟨outletWithin, whole⟩ := (List.forall_mem_cons.mp within).1
      unfold deliverTo
      split
      case isTrue =>
          split
          case isTrue =>
              refine .bind (spares_deliver spares (whole line) outletWithin) fun later after => ?_
              exact .pure (List.forall_mem_cons.mpr ⟨⟨after, whole⟩, others⟩)
          case isFalse => exact .pure within
      case isFalse =>
          refine .bind (inductionHypothesis others) fun later after => ?_
          exact .pure (List.forall_mem_cons.mpr ⟨⟨outletWithin, whole⟩, after⟩)

/-- Any lines are written to a log within an area: nothing is seen of it, the run goes on, and the
log stays within the area. -/
theorem spares_write (lines : List Line) :
    Running.Spares view (Within area world present) (write world present lines) fun _ => True := by
  refine .forM fun line => .bind .get fun log _ => .forM fun name => ?_
  refine .bind .get fun log within => ?_
  refine .bind (spares_deliverTo spares line name within) fun appenders after => ?_
  exact .modify fun _ _ => after

end

end Log

end MovieCatalogue.Shell

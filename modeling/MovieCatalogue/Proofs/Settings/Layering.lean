import MovieCatalogue.Proofs.Endpoint.ListBounds
import MovieCatalogue.Settings.Basic

/-!
Contract: the settings that layers add up to.

Owns: `Config.Follows`, settings that take each value from the first of several sources that sets
it; that layers add up to such settings, which are accepted if and only if their page sizes agree;
and that accepted settings bound every page that is listed.
Does not own: which parameters a list accepts; see `Proofs.Endpoint.ListBounds`.
-/

namespace MovieCatalogue.Settings

open MovieCatalogue.Endpoint MovieCatalogue.Record MovieCatalogue.Storage

/-! ## The first source -/

/-- Each setting has the value of the first source that sets it, or its standard value. -/
structure Config.Follows (config : Config) (sources : List Layer) : Prop where
  dataPath : config.dataPath =
    (sources.findSome? Layer.dataPath).getD ({} : Config).dataPath
  defaultPageSize : config.defaultPageSize =
    (sources.findSome? Layer.defaultPageSize).getD ({} : Config).defaultPageSize
  maxPageSize : config.maxPageSize =
    (sources.findSome? Layer.maxPageSize).getD ({} : Config).maxPageSize
  recordRequests : config.recordRequests =
    (sources.findSome? Layer.recordRequests).getD ({} : Config).recordRequests
  slowQueryMs : config.slowQueryMs =
    (sources.findSome? Layer.slowQueryMs).getD ({} : Config).slowQueryMs
  directory : config.log.directory = sources.findSome? fun layer => layer.log.directory
  level : config.log.level =
    (sources.findSome? fun layer => layer.log.level).getD ({} : LogConfig).level
  retention : config.log.retention =
    (sources.findSome? fun layer => layer.log.retention).getD ({} : LogConfig).retention
  configFile : config.log.configFile = sources.findSome? fun layer => layer.log.configFile

theorem getD_findSome?_cons {α : Type} (setting : Layer → Option α) (layer : Layer)
    (sources : List Layer) (standard : α) :
    ((layer :: sources).findSome? setting).getD standard =
      (setting layer).getD ((sources.findSome? setting).getD standard) := by
  rw [List.findSome?_cons]
  cases setting layer <;> rfl

theorem findSome?_cons_eq_or {α : Type} (setting : Layer → Option α) (layer : Layer)
    (sources : List Layer) :
    (layer :: sources).findSome? setting = (setting layer <|> sources.findSome? setting) := by
  rw [List.findSome?_cons]
  cases setting layer <;> rfl

namespace Config

variable {config : Config} {sources : List Layer}

theorem follows_nil : ({} : Config).Follows [] :=
  ⟨rfl, rfl, rfl, rfl, rfl, rfl, rfl, rfl, rfl⟩

/-- A layer that is applied comes before the sources that were applied earlier. -/
theorem Follows.apply (follows : config.Follows sources) (layer : Layer) :
    (config.apply layer).Follows (layer :: sources) where
  dataPath := by rw [getD_findSome?_cons, ← follows.dataPath]; rfl
  defaultPageSize := by rw [getD_findSome?_cons, ← follows.defaultPageSize]; rfl
  maxPageSize := by rw [getD_findSome?_cons, ← follows.maxPageSize]; rfl
  recordRequests := by rw [getD_findSome?_cons, ← follows.recordRequests]; rfl
  slowQueryMs := by rw [getD_findSome?_cons, ← follows.slowQueryMs]; rfl
  directory := by rw [findSome?_cons_eq_or, ← follows.directory]; rfl
  level := by rw [getD_findSome?_cons, ← follows.level]; rfl
  retention := by rw [getD_findSome?_cons, ← follows.retention]; rfl
  configFile := by rw [findSome?_cons_eq_or, ← follows.configFile]; rfl

/-- Only one set of settings follows given sources. -/
theorem Follows.unique {other : Config} (follows : config.Follows sources)
    (otherFollows : other.Follows sources) : config = other := by
  obtain ⟨_, _, _, _, _, ⟨_, _, _, _⟩⟩ := config
  obtain ⟨_, _, _, _, _, ⟨_, _, _, _⟩⟩ := other
  obtain ⟨rfl, rfl, rfl, rfl, rfl, rfl, rfl, rfl, rfl⟩ := follows
  obtain ⟨rfl, rfl, rfl, rfl, rfl, rfl, rfl, rfl, rfl⟩ := otherFollows
  rfl

/-! ## Accepted settings -/

theorem validate_eq_ok {result : Config} : config.validate = .ok result ↔
    result = config ∧ 1 ≤ config.defaultPageSize ∧ config.defaultPageSize ≤ config.maxPageSize := by
  unfold validate
  split
  case isTrue none =>
      simp
      omega
  case isFalse some =>
      split
      case isTrue outside =>
          simp
          omega
      case isFalse within =>
          rw [Except.ok.injEq, eq_comm (a := config)]
          exact ⟨fun same => ⟨same, by omega⟩, And.left⟩

/-- What the layers of a run add up to before the page sizes are looked at. -/
theorem exists_follows (file : Option Layer) (environment overrides : Layer) :
    ∃ config : Config, config.Follows ([overrides, environment] ++ file.toList) ∧
      Config.layered file environment overrides = config.validate := by
  have ofFile : (({} : Config).apply (file.getD {})).Follows file.toList := by
    cases file with
    | none => exact follows_nil
    | some layer => exact follows_nil.apply layer
  exact ⟨_, (ofFile.apply environment).apply overrides, rfl⟩

/-- Under accepted settings every page that is listed has at least one place and not too many. -/
theorem resolve_within {params : ListParams} {page limit : Nat}
    (accepted : 1 ≤ config.defaultPageSize ∧ config.defaultPageSize ≤ config.maxPageSize)
    (resolved : params.resolve config.pageLimits = .ok (page, limit)) :
    1 ≤ page ∧ 1 ≤ limit ∧ limit ≤ config.maxPageSize := by
  obtain ⟨pageResolved, limitResolved⟩ := ListParams.resolve_eq_ok.mp resolved
  obtain ⟨positive, rfl⟩ := ListParams.resolvePage_eq_ok.mp pageResolved
  refine ⟨by omega, ?_⟩
  rcases ListParams.resolveLimit_eq_ok.mp limitResolved with ⟨-, rfl⟩ | ⟨given, -, within, rfl⟩
  · exact accepted
  · simp only [pageLimits] at within
    omega

end Config

/--
The settings of a run take each value from the first of the overrides, the environment and the file
that sets it, and otherwise the standard one, which makes them unique; they are accepted if and only
if the size of a page is at least one and at most the largest one. Under accepted settings the
parameters of a list that resolve name a page from the first on and a size within these bounds; a
page or a size outside of them is refused; and neither a list nor a section is ever refused for a
page size of zero.
-/
theorem layered_bounds_pages (file : Option Layer) (environment overrides : Layer) :
    (∃! config : Config, config.Follows ([overrides, environment] ++ file.toList)) ∧
      (∀ config : Config, Config.layered file environment overrides = .ok config ↔
        config.Follows ([overrides, environment] ++ file.toList) ∧
          1 ≤ config.defaultPageSize ∧ config.defaultPageSize ≤ config.maxPageSize) ∧
      ∀ config, Config.layered file environment overrides = .ok config →
        (∀ params page limit, ListParams.resolve params config.pageLimits = .ok (page, limit) →
          1 ≤ page ∧ 1 ≤ limit ∧ limit ≤ config.maxPageSize) ∧
        (∀ params : ListParams,
          (params.page.toInt ≤ 0 ∨ ∃ given, params.limit = some given ∧
            (given.toInt < 1 ∨ config.maxPageSize < given.toInt)) →
          ∃ message, params.resolve config.pageLimits = .error (.invalid message)) ∧
        (∀ entity store clock params,
          (Endpoint.list entity store config.pageLimits clock params).answer ≠ .error zeroLimit) ∧
        ∀ store clock id pairs,
          (browse store config.pageLimits clock id pairs).answer ≠ .error zeroLimit := by
  obtain ⟨chosen, follows, layered⟩ := Config.exists_follows file environment overrides
  have acceptedIff (config : Config) : Config.layered file environment overrides = .ok config ↔
      config.Follows ([overrides, environment] ++ file.toList) ∧
        1 ≤ config.defaultPageSize ∧ config.defaultPageSize ≤ config.maxPageSize := by
    rw [layered, Config.validate_eq_ok]
    constructor
    · rintro ⟨rfl, bounds⟩
      exact ⟨follows, bounds⟩
    · rintro ⟨otherFollows, bounds⟩
      cases follows.unique otherFollows
      exact ⟨rfl, bounds⟩
  refine ⟨⟨chosen, follows, fun other otherFollows => otherFollows.unique follows⟩, acceptedIff, ?_⟩
  intro config accepted
  obtain ⟨-, bounds⟩ := (acceptedIff config).mp accepted
  have positive (params : ListParams) (page limit : Nat)
      (resolved : params.resolve config.pageLimits = .ok (page, limit)) : 1 ≤ limit :=
    (Config.resolve_within bounds resolved).2.1
  refine ⟨fun params page limit => Config.resolve_within bounds, ?_,
    fun entity store clock params => list_ne_zeroLimit (positive params) clock,
    fun store clock id pairs => browse_ne_zeroLimit positive clock id pairs⟩
  intro params outside
  cases resolved : params.resolve config.pageLimits with
  | error error =>
      rcases ListParams.resolve_eq_error resolved with rfl | rfl
      · exact ⟨_, rfl⟩
      · exact ⟨_, rfl⟩
  | ok found =>
      obtain ⟨pageResolved, limitResolved⟩ := ListParams.resolve_eq_ok.mp resolved
      obtain ⟨positivePage, -⟩ := ListParams.resolvePage_eq_ok.mp pageResolved
      rcases outside with noPage | ⟨given, set, outside⟩
      · omega
      rcases ListParams.resolveLimit_eq_ok.mp limitResolved with
        ⟨unset, -⟩ | ⟨other, same, within, -⟩
      · cases set.symm.trans unset
      · cases set.symm.trans same
        simp only [Config.pageLimits] at within
        omega

/-- A file allows pages of 50, the environment asks for 30, and a list asks for 51. -/
theorem layered_bounds_pages_fifty :
    let file : Layer := { defaultPageSize := some 20, maxPageSize := some 50 }
    let environment : Layer := { defaultPageSize := some 30 }
    ∃ config, Config.layered (some file) environment {} = .ok config ∧
      config.defaultPageSize = 30 ∧ config.maxPageSize = 50 ∧
      ListParams.resolve {} config.pageLimits = .ok (1, 30) ∧ 1 ≤ 30 ∧ 30 ≤ config.maxPageSize ∧
      (∃ message, ListParams.resolve { limit := some 51 } config.pageLimits =
        .error (.invalid message)) ∧
      (Endpoint.list movie emptyStore config.pageLimits ⟨0, .zero, .zero, 0⟩ {}).answer ≠
        .error zeroLimit := by
  intro file environment
  have accepted : Config.layered (some file) environment {} =
      .ok { defaultPageSize := 30, maxPageSize := 50 } := rfl
  obtain ⟨-, -, bounds⟩ := layered_bounds_pages (some file) environment {}
  obtain ⟨within, outside, listed, -⟩ := bounds _ accepted
  obtain ⟨-, least, most⟩ := within {} 1 30 rfl
  exact ⟨_, accepted, rfl, rfl, rfl, least, most,
    outside { limit := some 51 } (.inr ⟨51, rfl, .inr (by decide)⟩), listed movie emptyStore _ {}⟩

end MovieCatalogue.Settings

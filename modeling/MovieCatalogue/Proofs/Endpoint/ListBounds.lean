import MovieCatalogue.Endpoint.Dispatch
import MovieCatalogue.Proofs.Endpoint.Building

/-!
Contract: the bounds of the parameters of a list.

Owns: which parameters are accepted under given page sizes, and that a list whose page sizes are
accepted is never refused for a page size of zero.
Does not own: where the page sizes come from; see `Proofs.Settings.Layering`.
-/

namespace MovieCatalogue.Endpoint

open MovieCatalogue.Number MovieCatalogue.Record MovieCatalogue.Refusal MovieCatalogue.Selection
  MovieCatalogue.Storage MovieCatalogue.Token

/-! ## Accepted parameters -/

namespace ListParams

variable {params : ListParams} {limits : PageLimits} {page limit : Nat}

theorem resolvePage_eq_ok :
    params.resolvePage = .ok page ↔ 1 ≤ params.page.toInt ∧ params.page.toInt.toNat = page := by
  unfold resolvePage
  split
  case isTrue positive => simp; omega
  case isFalse => simp; omega

theorem resolveLimit_eq_ok : params.resolveLimit limits = .ok limit ↔
    params.limit = none ∧ limits.defaultPageSize = limit ∨
      ∃ given, params.limit = some given ∧
        (1 ≤ given.toInt ∧ given.toInt ≤ limits.maxPageSize) ∧ given.toInt.toNat = limit := by
  unfold resolveLimit
  split
  case h_1 unset => simp [unset]
  case h_2 given set =>
      split
      case isTrue within => simp [set, within]
      case isFalse outside => simp [set, outside]

theorem resolve_eq_ok : params.resolve limits = .ok (page, limit) ↔
    params.resolvePage = .ok page ∧ params.resolveLimit limits = .ok limit := by
  unfold resolve
  simp only [bind_eq_ok]
  constructor
  · rintro ⟨_, pageResolved, _, limitResolved, built⟩
    cases built
    exact ⟨pageResolved, limitResolved⟩
  · rintro ⟨pageResolved, limitResolved⟩
    exact ⟨page, pageResolved, limit, limitResolved, rfl⟩

theorem resolve_eq_error {error : RequestError} (refused : params.resolve limits = .error error) :
    error = .invalid "page number exceeds limits" ∨
      error = .invalid ("limit must be between 1 and " ++ natText limits.maxPageSize) := by
  rcases bind_eq_error.mp refused with pageRefused | ⟨page, -, rest⟩
  · unfold resolvePage at pageRefused
    split at pageRefused
    · cases pageRefused
    · exact .inl (Except.error.inj pageRefused).symm
  rcases bind_eq_error.mp rest with limitRefused | ⟨limit, -, impossible⟩
  · unfold resolveLimit at limitRefused
    split at limitRefused
    · cases limitRefused
    · split at limitRefused
      · cases limitRefused
      · exact .inr (Except.error.inj limitRefused).symm
  · cases impossible

theorem integer_eq_error {name value : String} {error : RequestError}
    (refused : integer name value = .error error) :
    error = .invalid (name ++ " must be an integer") := by
  unfold integer at refused
  split at refused
  · cases refused
  · exact (Except.error.inj refused).symm

theorem addPair_eq_error {pair : String × String} {error : RequestError}
    (refused : params.addPair pair = .error error) :
    ∃ name ∈ ["page", "limit"], error = .invalid (name ++ " must be an integer") := by
  unfold addPair at refused
  split at refused
  case h_1 isPage =>
      rcases bind_eq_error.mp refused with notInteger | ⟨_, -, impossible⟩
      · exact ⟨"page", by simp, isPage ▸ integer_eq_error notInteger⟩
      · cases impossible
  case h_2 isLimit =>
      rcases bind_eq_error.mp refused with notInteger | ⟨_, -, impossible⟩
      · exact ⟨"limit", by simp, isLimit ▸ integer_eq_error notInteger⟩
      · cases impossible
  case h_3 => cases refused
  case h_4 => cases refused
  case h_5 => cases refused

/-- Query pairs are refused for a page or a limit that is no integer. -/
theorem ofPairs_eq_error {pairs : List (String × String)} {error : RequestError}
    (refused : ofPairs pairs = .error error) :
    ∃ name ∈ ["page", "limit"], error = .invalid (name ++ " must be an integer") := by
  unfold ofPairs at refused
  generalize ({} : ListParams) = start at refused
  induction pairs generalizing start with
  | nil => cases refused
  | cons pair pairs inductionHypothesis =>
      rcases bind_eq_error.mp refused with here | ⟨next, -, later⟩
      · exact addPair_eq_error here
      · exact inductionHypothesis next later

end ListParams

/-! ## A page size of zero -/

/-- The refusal of a page size of zero. -/
def zeroLimit : RequestError :=
  .invalid "limit must be greater than zero"

variable {entity : Entity} {store : Store} {query : Query} {page limit : Nat}

/-- Nothing but a page size of zero is refused in this way. -/
theorem paginate_eq_zeroLimit : paginate store query page limit = .error zeroLimit ↔ limit = 0 := by
  constructor
  · intro refused
    by_contra positive
    unfold paginate at refused
    simp only [if_neg positive, bind, Except.bind, pure, Except.pure] at refused
    cases counted : store.count query with
    | error fault =>
        rw [counted] at refused
        cases refused
    | ok total =>
        simp only [counted, internally, Except.mapError] at refused
        split at refused
        case isTrue =>
            simp [throw, throwThe, MonadExceptOf.throw, zeroLimit, RequestError.invalid] at refused
        case isFalse =>
            cases fetched : store.fetch query (pageOffset page limit) (some limit) with
            | error fault =>
                rw [fetched] at refused
                cases refused
            | ok rows =>
                rw [fetched] at refused
                cases refused
  · rintro rfl
    rfl

theorem resolve_ne_zeroLimit {limits : PageLimits} {params : ListParams} {error : RequestError}
    (refused : params.resolve limits = .error error) : error ≠ zeroLimit := by
  rcases ListParams.resolve_eq_error refused with rfl | rfl
  · simp [zeroLimit, RequestError.invalid]
  · intro same
    -- The texts part behind their common beginning, at the word "between".
    have sameChar := congrArg (fun text : String => text.toList[14]?)
      (RequestError.invalidParameter.inj same).1
    simp at sameChar

theorem ofPairs_ne_zeroLimit {pairs : List (String × String)} {error : RequestError}
    (refused : ListParams.ofPairs pairs = .error error) : error ≠ zeroLimit := by
  obtain ⟨name, isNumber, rfl⟩ := ListParams.ofPairs_eq_error refused
  have otherText : ∀ name ∈ ["page", "limit"],
      name ++ " must be an integer" ≠ "limit must be greater than zero" := by decide
  intro same
  exact otherText name isNumber (RequestError.invalidParameter.inj same).1

/-- A stored row that does not decode is a fault of the store. -/
theorem ofRow_eq_error {now : Int64} {row : Row} {error : RequestError}
    (refused : entity.ofRow now row = .error error) : ∃ fault, error = .internal fault := by
  unfold Entity.ofRow at refused
  split at refused
  · cases refused
  · exact ⟨_, (Except.error.inj refused).symm⟩

theorem buildRefused_ne_zeroLimit {filters sorts : List String} {error : RequestError}
    (refused : BuildRefused entity filters sorts error) : error ≠ zeroLimit := by
  cases refused with
  | tooManyFilters => simp [zeroLimit, RequestError.invalid]
  | tooManySorts => simp [zeroLimit, RequestError.invalid]
  | filter => simp [zeroLimit, RequestError.invalid, RequestError.invalidToken]
  | sort => simp [zeroLimit, RequestError.invalid, RequestError.invalidToken]

/-- Parameters that resolve to some page size are not refused for a page size of zero. -/
theorem list_ne_zeroLimit {limits : PageLimits} {params : ListParams}
    (positive : ∀ page limit, params.resolve limits = .ok (page, limit) → 1 ≤ limit)
    (clock : Clock) : (list entity store limits clock params).answer ≠ .error zeroLimit := by
  intro refused
  unfold list at refused
  split at refused
  case h_1 error resolved =>
      cases refused
      exact resolve_ne_zeroLimit resolved rfl
  case h_2 page limit resolved =>
      split at refused
      case h_1 error notBuilt =>
          cases refused
          exact buildRefused_ne_zeroLimit (buildQuery_eq_error.mp notBuilt) rfl
      case h_2 query built =>
          split at refused
          case h_1 error notPaged =>
              cases refused
              have isZero := paginate_eq_zeroLimit.mp notPaged
              have isPositive := positive page limit resolved
              omega
          case h_2 rows paged =>
              obtain ⟨row, -, notDecoded⟩ := exists_of_mapM_eq_error (map_eq_error.mp refused)
              obtain ⟨fault, isFault⟩ := ofRow_eq_error notDecoded
              cases isFault

theorem findRow_section_ne_zeroLimit {id : String} {error : RequestError}
    (refused : findRow movieSection store id = .error error) : error ≠ zeroLimit := by
  have asked : identifierQuery movieSection id =
      .ok ⟨"section", [.equals "id" id], []⟩ := rfl
  simp only [findRow, asked, bind, Except.bind] at refused
  cases fetched : store.fetch ⟨"section", [.equals "id" id], []⟩ 0 (some 1) with
  | error fault =>
      rw [fetched] at refused
      cases refused
      nofun
  | ok rows =>
      rw [fetched] at refused
      cases rows with
      | nil =>
          cases refused
          nofun
      | cons => cases refused

/-- Browsing a section is not refused for a page size of zero either. -/
theorem browse_ne_zeroLimit {limits : PageLimits} (positive : ∀ params page limit,
    ListParams.resolve params limits = .ok (page, limit) → 1 ≤ limit) (clock : Clock) (id : String)
    (pairs : List (String × String)) :
    (browse store limits clock id pairs).answer ≠ .error zeroLimit := by
  intro refused
  unfold browse at refused
  split at refused
  case h_1 error notRead =>
      cases refused
      rcases bind_eq_error.mp notRead with notFound | ⟨row, -, notDecoded⟩
      · exact findRow_section_ne_zeroLimit notFound rfl
      · obtain ⟨fault, isFault⟩ := ofRow_eq_error notDecoded
        cases isFault
  case h_2 record _ =>
      split at refused
      case h_1 error notPairs =>
          cases refused
          exact ofPairs_ne_zeroLimit notPairs rfl
      case h_2 params _ => exact list_ne_zeroLimit (positive _) clock refused

end MovieCatalogue.Endpoint

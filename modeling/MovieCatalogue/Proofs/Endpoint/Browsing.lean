import MovieCatalogue.Proofs.Endpoint.Addressing
import MovieCatalogue.Proofs.Token.Grammar

/-!
Contract: movies through the tokens of a section.

Owns: `Lists`, the texts in which a section keeps tokens; that the tokens come back from such a
text; which parameters query pairs are read as; and that browsing a section is answered like a list
of movies with the tokens of the section.
Does not own: what lists are answered with; see `Proofs.Endpoint.Paging`.
-/

namespace MovieCatalogue.Endpoint

open MovieCatalogue.Record MovieCatalogue.Refusal MovieCatalogue.Selection MovieCatalogue.Storage

/-! ## Stored tokens -/

/-- Between semicolons there are tokens with blanks around them, or blanks only. -/
inductive Spaced : List (List Char) → List String → Prop
  | nil : Spaced [] []
  | blank {part : List Char} {parts : List (List Char)} {tokens : List String}
      (blank : ∀ c ∈ part, Text.isBlank c = true) (others : Spaced parts tokens) :
      Spaced (part :: parts) tokens
  | token {before after : List Char} {token : String} {parts : List (List Char)}
      {tokens : List String} (blankBefore : ∀ c ∈ before, Text.isBlank c = true)
      (blankAfter : ∀ c ∈ after, Text.isBlank c = true) (others : Spaced parts tokens) :
      Spaced ((before ++ token.toList ++ after) :: parts) (token :: tokens)

/-- A section keeps tokens, joined by semicolons in one text, or nothing. -/
inductive Lists : Value → List String → Prop
  | nothing : Lists .null []
  | text {parts : List (List Char)} {tokens : List String} (spaced : Spaced parts tokens) :
      Lists (.text (String.ofList (Text.joinWith [';'] parts))) tokens

/-- A token that can be kept between semicolons. -/
structure Keepable (token : String) : Prop where
  nonempty : token.toList ≠ []
  trimmed : Text.Trimmed token.toList
  free : ';' ∉ token.toList

section

variable {parts : List (List Char)} {tokens : List String} (spaced : Spaced parts tokens)
  (keepable : ∀ token ∈ tokens, Keepable token)
include spaced keepable

theorem Spaced.free : ∀ part ∈ parts, ';' ∉ part := by
  have notIn {blanks : List Char} (blank : ∀ c ∈ blanks, Text.isBlank c = true) : ';' ∉ blanks := by
    intro member
    cases blank ';' member
  induction spaced with
  | nil => exact nofun
  | blank blank _ inductionHypothesis =>
      exact List.forall_mem_cons.mpr ⟨notIn blank, inductionHypothesis keepable⟩
  | token blankBefore blankAfter _ inductionHypothesis =>
      rw [List.forall_mem_cons] at keepable ⊢
      refine ⟨?_, inductionHypothesis keepable.2⟩
      simp [notIn blankBefore, notIn blankAfter, keepable.1.free]

/-- The tokens come back from the parts of a text. -/
theorem Spaced.tokens_eq :
    ((parts.map Text.trimBlanks).filter fun token => !token.isEmpty).map String.ofList = tokens := by
  induction spaced with
  | nil => rfl
  | blank blank _ inductionHypothesis =>
      rw [List.map_cons, Text.trimBlanks_of_blanks blank]
      exact inductionHypothesis keepable
  | token blankBefore blankAfter _ inductionHypothesis =>
      rw [List.forall_mem_cons] at keepable
      have trimmed := keepable.1.trimmed.trimBlanks_append blankBefore blankAfter
      rw [List.map_cons, trimmed, List.filter_cons_of_pos (by simp [keepable.1.nonempty]),
        List.map_cons, String.ofList_toList, inductionHypothesis keepable.2]

end

theorem storedTokens_of_lists {content : Option String} {tokens : List String}
    (lists : Lists (Content.toValue .text true content) tokens)
    (keepable : ∀ token ∈ tokens, Keepable token) : storedTokens content = tokens := by
  cases content with
  | none =>
      cases lists
      rfl
  | some text =>
      change Lists (.text text) tokens at lists
      cases lists with
      | @text parts _ spaced =>
          unfold storedTokens
          dsimp only
          rw [String.toList_ofList]
          cases parts with
          | nil =>
              cases spaced
              rfl
          | cons part parts =>
              rw [Text.splitOn_joinWith (List.cons_ne_nil _ _) (spaced.free keepable)]
              exact spaced.tokens_eq keepable

theorem keepable_of_resolveFilter {entity : Entity} {token : String} {predicate : Predicate}
    (resolved : Token.resolveFilter entity token = .ok predicate) (free : ';' ∉ token.toList) :
    Keepable token := by
  obtain ⟨trimmed, nonempty⟩ := Token.trimmed_of_resolveFilter resolved
  exact ⟨nonempty, trimmed, free⟩

theorem keepable_of_resolveSort {entity : Entity} (member : entity ∈ catalogue) {token : String}
    {term : OrderTerm} (resolved : Token.resolveSort entity token = .ok term) : Keepable token where
  nonempty := by
    obtain ⟨found, parsed, -⟩ := bind_eq_ok.mp resolved
    rw [← Token.text_of_parseSort parsed]
    simp [Token.sortText]
  trimmed := by
    apply Text.trimmed_of_no_blanks
    intro c inToken
    have plain := List.all_eq_true.mp (Token.plain_of_resolveSort member resolved) c inToken
    rw [Token.isPlain, Bool.and_eq_true, Bool.not_eq_true'] at plain
    exact plain.1
  free := by
    intro inToken
    cases List.all_eq_true.mp (Token.plain_of_resolveSort member resolved) ';' inToken

/-! ## Query pairs -/

/-- The values of the pairs of one name. -/
def valuesOf (name : String) (pairs : List (String × String)) : List String :=
  (pairs.filter fun pair => pair.1 == name).map Prod.snd

def isNumber (pair : String × String) : Bool :=
  pair.1 == "page" || pair.1 == "limit"

/-- The query of a list with the tokens of a section in front of those of a query, or in the place of
its sorts if it has none. -/
def browseQuery (filters sorts : List String) (query : List (String × String)) :
    List (String × String) :=
  query.filter isNumber ++
    (filters ++ valuesOf "filter" query).map (fun token => ("filter", token)) ++
    (if (valuesOf "sort" query).isEmpty then sorts else valuesOf "sort" query).map fun token =>
      ("sort", token)

/-- Reads the page or the limit that a pair gives. -/
def readNumber (found : Int64 × Option Int64) (pair : String × String) :
    Except RequestError (Int64 × Option Int64) :=
  match pair.1 with
  | "page" => do return (← ListParams.integer pair.1 pair.2, found.2)
  | "limit" => do return (found.1, some (← ListParams.integer pair.1 pair.2))
  | _ => .ok found

theorem readNumber_of_not_isNumber {pair : String × String} (other : isNumber pair = false)
    (found : Int64 × Option Int64) : readNumber found pair = .ok found := by
  unfold readNumber
  split
  case h_1 named => simp [isNumber, named] at other
  case h_2 named => simp [isNumber, named] at other
  case h_3 => rfl

/-- Pages and limits are read on their own, and the tokens are collected. -/
theorem foldlM_addPair (params : ListParams) (pairs : List (String × String)) :
    pairs.foldlM ListParams.addPair params =
      (pairs.foldlM readNumber (params.page, params.limit)).map fun found =>
        ⟨found.1, found.2, params.sort ++ valuesOf "sort" pairs,
          params.filter ++ valuesOf "filter" pairs⟩ := by
  induction pairs generalizing params with
  | nil => simp [valuesOf, pure, Except.pure, Except.map]
  | cons pair pairs inductionHypothesis =>
      obtain ⟨name, value⟩ := pair
      rw [List.foldlM_cons, List.foldlM_cons]
      by_cases isPage : name = "page"
      · subst isPage
        cases read : ListParams.integer "page" value <;>
          simp [ListParams.addPair, readNumber, read, bind, Except.bind, pure, Except.pure,
            Except.map, inductionHypothesis, valuesOf]
      by_cases isLimit : name = "limit"
      · subst isLimit
        cases read : ListParams.integer "limit" value <;>
          simp [ListParams.addPair, readNumber, read, bind, Except.bind, pure, Except.pure,
            Except.map, inductionHypothesis, valuesOf]
      have notNumber : isNumber (name, value) = false := by simp [isNumber, isPage, isLimit]
      rw [readNumber_of_not_isNumber notNumber]
      by_cases isSort : name = "sort"
      · subst isSort
        simp [ListParams.addPair, bind, Except.bind, inductionHypothesis, valuesOf]
      by_cases isFilter : name = "filter"
      · subst isFilter
        simp [ListParams.addPair, bind, Except.bind, inductionHypothesis, valuesOf]
      · simp [ListParams.addPair, isSort, isFilter, bind, Except.bind, inductionHypothesis, valuesOf]

theorem foldlM_readNumber_filter (found : Int64 × Option Int64) (pairs : List (String × String)) :
    (pairs.filter isNumber).foldlM readNumber found = pairs.foldlM readNumber found := by
  induction pairs generalizing found with
  | nil => rfl
  | cons pair pairs inductionHypothesis =>
      cases number : isNumber pair with
      | true =>
          rw [List.filter_cons_of_pos number, List.foldlM_cons, List.foldlM_cons]
          exact congrArg (readNumber found pair >>= ·) (funext inductionHypothesis)
      | false =>
          rw [List.filter_cons_of_neg (by simp [number]), List.foldlM_cons,
            readNumber_of_not_isNumber number]
          exact inductionHypothesis found

theorem foldlM_readNumber_tokens {name : String} (other : ∀ token, isNumber (name, token) = false)
    (found : Int64 × Option Int64) (tokens : List String) :
    (tokens.map fun token => (name, token)).foldlM readNumber found = .ok found := by
  induction tokens with
  | nil => rfl
  | cons token tokens inductionHypothesis =>
      rw [List.map_cons, List.foldlM_cons, readNumber_of_not_isNumber (other token)]
      exact inductionHypothesis

@[simp] theorem valuesOf_append (name : String) (pairs others : List (String × String)) :
    valuesOf name (pairs ++ others) = valuesOf name pairs ++ valuesOf name others := by
  simp [valuesOf]

theorem valuesOf_tokens (name other : String) (tokens : List String) :
    valuesOf name (tokens.map fun token => (other, token)) = if other = name then tokens else [] := by
  by_cases same : other = name <;> simp [valuesOf, List.filter_map, Function.comp_def, same]

theorem valuesOf_numbers {name : String} (other : ∀ value, isNumber (name, value) = false)
    (pairs : List (String × String)) : valuesOf name (pairs.filter isNumber) = [] := by
  rw [valuesOf, List.map_eq_nil_iff, List.filter_filter, List.filter_eq_nil_iff]
  rintro ⟨found, value⟩ _
  by_cases same : found = name
  · simp [same, other]
  · simp [same]

/-- The query of a section is read as the parameters of the other one with the tokens of the section. -/
theorem ofPairs_browseQuery (filters sorts : List String) (query : List (String × String)) :
    ListParams.ofPairs (browseQuery filters sorts query) =
      (ListParams.ofPairs query).map fun params =>
        { params with
          filter := filters ++ params.filter
          sort := if params.sort.isEmpty then sorts else params.sort } := by
  have filterIsToken (token : String) : isNumber ("filter", token) = false := rfl
  have sortIsToken (token : String) : isNumber ("sort", token) = false := rfl
  have numbers (found : Int64 × Option Int64) :
      (browseQuery filters sorts query).foldlM readNumber found = query.foldlM readNumber found := by
    simp only [browseQuery, List.foldlM_append, foldlM_readNumber_filter,
      foldlM_readNumber_tokens filterIsToken, foldlM_readNumber_tokens sortIsToken]
    cases query.foldlM readNumber found <;> rfl
  have filterTokens : valuesOf "filter" (browseQuery filters sorts query) =
      filters ++ valuesOf "filter" query := by
    simp [browseQuery, valuesOf_tokens, valuesOf_numbers filterIsToken]
  have sortTokens : valuesOf "sort" (browseQuery filters sorts query) =
      if (valuesOf "sort" query).isEmpty then sorts else valuesOf "sort" query := by
    simp [browseQuery, valuesOf_tokens, valuesOf_numbers sortIsToken]
  rw [ListParams.ofPairs, ListParams.ofPairs, foldlM_addPair, foldlM_addPair, numbers, filterTokens,
    sortTokens]
  cases query.foldlM readNumber (({} : ListParams).page, ({} : ListParams).limit) <;> rfl

/-! ## Browsing -/

/-- A section of this number is stored, and keeps these tokens. -/
def KeepsSection (store : Store) (number : Int64) (filters sorts : List String) : Prop :=
  ∃ table, store.find? movieSection.table = some table ∧ ∃ row ∈ table.rows,
    valueAt row.cells "id" = .int64 number ∧ Lists (valueAt row.cells "filter") filters ∧
      Lists (valueAt row.cells "sort") sorts

variable {store : Store} {number : Int64} {filters sorts : List String}

/-- The query for the section that a text names. -/
def sectionQuery (text : String) : Query :=
  ⟨movieSection.table, [.equals "id" text], []⟩

/-- Texts that the same number is read from ask for the same rows. -/
theorem hits_sectionQuery {table : Table} (sameSpec : table.spec = movieSection.spec)
    {text other : String}
    (sameNumber : Number.readInt64? (Text.trim text) = Number.readInt64? (Text.trim other)) :
    table.hits (sectionQuery text) = table.hits (sectionQuery other) := by
  have column : movieSection.spec.column? "id" = some ⟨"id", .integer, false⟩ := rfl
  refine List.filter_congr fun row _ => ?_
  simp [sectionQuery, satisfies, Predicate.holds, Predicate.field, sameSpec, column,
    Predicate.accepts, Kind.readLiteral?, sameNumber]

theorem findRow_congr {table : Table} (found : store.find? movieSection.table = some table)
    (sameSpec : table.spec = movieSection.spec) {text other : String}
    (sameHits : table.hits (sectionQuery text) = table.hits (sectionQuery other)) :
    findRow movieSection store text = findRow movieSection store other := by
  have asked (text : String) : identifierQuery movieSection text = .ok (sectionQuery text) := rfl
  have known (text : String) : table.Knows (sectionQuery text) := by
    intro field named
    cases List.mem_singleton.mp named
    rw [sameSpec]
    rfl
  have fetched (text : String) := (Store.fetch_of_find? found (known text) 0).2 1
  have selected (text : String) : table.select (sectionQuery text) =
      (table.hits (sectionQuery text)).map StoredRow.cells := rfl
  simp only [findRow, asked, bind, Except.bind, fetched, selected, sameHits]

/-- A section is found under every text that its number is read from. -/
theorem findRow_of_readInt64? (holds : HoldsCatalogue store) {table : Table}
    (found : store.find? movieSection.table = some table) {row : StoredRow} (inTable : row ∈ table.rows)
    (numbered : valueAt row.cells "id" = .int64 number) {text : String}
    (read : Number.readInt64? (Text.trim text) = some number) :
    findRow movieSection store text = .ok row.cells := by
  have member : movieSection ∈ catalogue := by simp [catalogue]
  obtain ⟨sameSpec, -⟩ := holds.wellFormed member found
  obtain ⟨before, others, rows⟩ := List.append_of_mem inTable
  have identifier : movieSection.identifierOf row.cells = Number.intText number.toInt := by
    have key : Key.of movieSection.spec row.cells = [.int64 number] := congrArg (fun id => [id]) numbered
    rw [Entity.identifierOf, key]
    simp [Text.join, Text.joinWith, keyText, Kind.render?]
  have sameNumber : Number.readInt64? (Text.trim text) =
      Number.readInt64? (Text.trim (movieSection.identifierOf row.cells)) := by
    rw [read, identifier, Number.trim_intText, Number.readInt64?_intText]
  rw [← findRow_identifierOf holds member found rows]
  exact findRow_congr found sameSpec (hits_sectionQuery sameSpec sameNumber)

/-- What browsing a section is answered with. -/
theorem answer_browse (holds : HoldsCatalogue store) (keeps : KeepsSection store number filters sorts)
    (keepableFilters : ∀ token ∈ filters, Keepable token)
    (keepableSorts : ∀ token ∈ sorts, Keepable token) {text : String}
    (read : Number.readInt64? (Text.trim text) = some number) (limits : PageLimits) (clock : Clock)
    (query : List (String × String)) :
    (browse store limits clock text query).answer =
      (ListParams.ofPairs (browseQuery filters sorts query)).bind fun params =>
        (list movie store limits clock params).answer := by
  obtain ⟨table, found, row, inTable, numbered, listsFilters, listsSorts⟩ := keeps
  have member : movieSection ∈ catalogue := by simp [catalogue]
  obtain ⟨record, stored, decodes⟩ := exists_record member (holds.rowHolds member found inTable)
  have looked : Endpoint.read movieSection store clock text = .ok record := by
    rw [Endpoint.read, findRow_of_readInt64? holds found inTable numbered read]
    exact decodes clock.now
  rw [← stored] at listsFilters listsSorts
  have filtersBack : storedTokens (sectionFilter record) = filters :=
    storedTokens_of_lists listsFilters keepableFilters
  have sortsBack : storedTokens (sectionSort record) = sorts :=
    storedTokens_of_lists listsSorts keepableSorts
  rw [ofPairs_browseQuery, browse, looked]
  dsimp only
  cases ListParams.ofPairs query with
  | error error => rfl
  | ok params =>
      simp only [browseParams, filtersBack, sortsBack]
      rfl

/-! ## Responses -/

/-- The response that an answer is sent as. -/
def Response.ofAnswer : Except RequestError Json → Response
  | .ok body => .ok body
  | .error error => .ofError error

theorem response_of_asked {service : Service} {request : Request} {action : Action}
    (asked : Action.of? service.registry request.method (segments request.path) = some action)
    (store : Store) (clock : Clock) : (dispatch service store clock request).response =
      .ofAnswer (action.run service store clock request).answer := by
  rw [response_dispatch]
  simp only [answer, asked]
  cases (action.run service store clock request).answer <;> rfl

theorem answer_run_list (entity : Entity) (service : Service) (store : Store) (clock : Clock)
    (request : Request) : ((Action.list entity).run service store clock request).answer =
      ((ListParams.ofPairs request.query).bind fun params =>
        (list entity store service.limits clock params).answer).bind (pageJson entity) := by
  rw [Action.run]
  cases ListParams.ofPairs request.query <;> rfl

/--
Browsing a section has the response of the list of movies that is asked for with the pages and limits
of the query in their order, the filters of the section in front of those of the query, and the sorts
of the query, or those of the section if it has none. The section may be named by any text that its
number is read from, the list may be asked for at another time, and the response may be a refusal.
-/
theorem browse_section_eq_list (reachable : Reachable store) {service : Service}
    (standard : service.registry = .standard) (keeps : KeepsSection store number filters sorts)
    (filtersResolve : ∀ token ∈ filters,
      ';' ∉ token.toList ∧ ∃ predicate, Token.resolveFilter movie token = .ok predicate)
    (sortsResolve : ∀ token ∈ sorts, ∃ term, Token.resolveSort movie token = .ok term)
    {request other : Request} {segment : String} (browsing : request.method = .get)
    (path : segments request.path = ["sections", segment, "movies"])
    (named : Number.readInt64? (Text.trim (decodeSegment segment)) = some number)
    (listing : other.method = .get) (listPath : segments other.path = ["movies"])
    (query : other.query = browseQuery filters sorts request.query) (clock otherClock : Clock) :
    (dispatch service store clock request).response =
      (dispatch service store otherClock other).response := by
  have holds := reachable.holdsCatalogue
  have member : movie ∈ catalogue := by simp [catalogue]
  have sectionMember : movieSection ∈ catalogue := by simp [catalogue]
  have keepableFilters : ∀ token ∈ filters, Keepable token := by
    intro token inFilters
    obtain ⟨free, predicate, resolved⟩ := filtersResolve token inFilters
    exact keepable_of_resolveFilter resolved free
  have keepableSorts : ∀ token ∈ sorts, Keepable token := by
    intro token inSorts
    obtain ⟨term, resolved⟩ := sortsResolve token inSorts
    exact keepable_of_resolveSort member resolved
  have asked : Action.of? service.registry request.method (segments request.path) =
      some (.browse (decodeSegment segment)) := by
    rw [standard, browsing, path]
    rfl
  have askedList : Action.of? service.registry other.method (segments other.path) =
      some (.list movie) := by
    rw [standard, listing, listPath]
    rfl
  have browsed := answer_browse holds keeps keepableFilters keepableSorts named service.limits clock
    request.query
  rw [response_of_asked asked, response_of_asked askedList, answer_run_list, query]
  refine congrArg Response.ofAnswer (congrArg (Except.bind · (pageJson movie)) (browsed.trans ?_))
  refine congrArg (Except.bind _) (funext fun params => ?_)
  exact answer_list_eq holds member service.limits clock otherClock params

/-- The title of a movie on a page. -/
def shownTitle? (shown : Json) : Option String :=
  match shown.member? "title" with
  | some (.string title) => some title
  | _ => none

/-- The titles of the movies on a page. -/
def shownTitles (page : Json) : List String :=
  match page.member? "items" with
  | some (.array movies) => movies.filterMap shownTitle?
  | _ => []

/-- A section of dramas whose titles start with an H, by their ratings, is asked for those that end
with a t. One of three movies is listed, as in the list with all tokens: one of the others is missed
by a token of the section, and one by the token of the query. -/
theorem browse_section_eq_list_dramas :
    let row : Row := [("id", .int64 7), ("name", .text "Dramas"), ("description", .null),
      ("position", .int64 0), ("filter", .text "exact(genres, Drama) ; start(title, H)"),
      ("sort", .text "rating.desc")]
    let film (number : Int64) (title genres : String) (rating : Number.Binary64) : Row :=
      [("id", .int64 number), ("title", .text title), ("imdb_id", .null), ("tmdb_id", .null),
        ("poster_path", .null), ("release_date", .null), ("budget", .null), ("rating", .real rating),
        ("vote_count", .int64 0), ("genres", .text genres)]
    let heat := film 1 "Heat" "Drama" (.ofInt 8)
    let head := film 2 "Head" "Drama" (.ofInt 9)
    let host := film 3 "Host" "Horror" (.ofInt 7)
    let sections : Table := ⟨movieSection.spec, [⟨1, row⟩], 2⟩
    let movies : Table := ⟨movie.spec, [⟨1, heat⟩, ⟨2, head⟩, ⟨3, host⟩], 4⟩
    let store := (emptyStore.put sections).put movies
    let clock : Clock := ⟨0, .zero, .zero, 0⟩
    let browsing : Request := { method := .get, path := "/sections/+7/movies", query :=
      [("filter", "end(title, t)"), ("page", "1"), ("q", "")] }
    let listing : Request := { method := .get, path := "/movies", query :=
      [("page", "1"), ("filter", "exact(genres, Drama)"), ("filter", "start(title, H)"),
        ("filter", "end(title, t)"), ("sort", "rating.desc")] }
    let response := (dispatch {} store clock browsing).response
    response = (dispatch {} store clock listing).response ∧ response.status = 200 ∧
      shownTitles response.body = ["Heat"] := by
  intro row film heat head host sections movies store clock browsing listing response
  have insertedSection : emptyStore.commit "section" [.insert row] =
      .ok (emptyStore.put sections, [row]) :=
    Store.commit_eq_ok.mpr ⟨⟨movieSection.spec, [], 1⟩, _, rfl, rfl, rfl⟩
  have insertedMovies : (emptyStore.put sections).commit "movie"
      [.insert heat, .insert head, .insert host] = .ok (store, [heat, head, host]) :=
    Store.commit_eq_ok.mpr ⟨⟨movie.spec, [], 1⟩, _, rfl, rfl, rfl⟩
  have reachable : Reachable store := .committed (.committed .empty insertedSection) insertedMovies
  have noBlanks : ∀ c ∈ ([] : List Char), Text.isBlank c = true := nofun
  have oneBlank : ∀ c ∈ [' '], Text.isBlank c = true := List.all_eq_true.mp rfl
  have filters : Spaced
      [[] ++ "exact(genres, Drama)".toList ++ [' '], [' '] ++ "start(title, H)".toList ++ []]
      ["exact(genres, Drama)", "start(title, H)"] :=
    .token noBlanks oneBlank (.token oneBlank noBlanks .nil)
  have sorts : Spaced [[] ++ "rating.desc".toList ++ []] ["rating.desc"] :=
    .token noBlanks noBlanks .nil
  have filterText : valueAt row "filter" = .text (String.ofList (Text.joinWith [';'] _)) :=
    congrArg Value.text (by decide +kernel : "exact(genres, Drama) ; start(title, H)" =
      String.ofList (Text.joinWith [';'] [[] ++ "exact(genres, Drama)".toList ++ [' '],
        [' '] ++ "start(title, H)".toList ++ []]))
  have sortText : valueAt row "sort" = .text (String.ofList (Text.joinWith [';'] _)) :=
    congrArg Value.text (by decide +kernel : "rating.desc" =
      String.ofList (Text.joinWith [';'] [[] ++ "rating.desc".toList ++ []]))
  have keeps : KeepsSection store 7 ["exact(genres, Drama)", "start(title, H)"] ["rating.desc"] :=
    ⟨_, rfl, ⟨1, row⟩, List.mem_singleton.mpr rfl, rfl, filterText ▸ Lists.text filters,
      sortText ▸ Lists.text sorts⟩
  have filtersResolve : ∀ token ∈ ["exact(genres, Drama)", "start(title, H)"],
      ';' ∉ token.toList ∧ ∃ predicate, Token.resolveFilter movie token = .ok predicate := by
    simp only [List.forall_mem_cons]
    exact ⟨⟨by decide, _, rfl⟩, ⟨by decide, _, rfl⟩, nofun⟩
  have sortsResolve : ∀ token ∈ ["rating.desc"], ∃ term, Token.resolveSort movie token = .ok term := by
    simp only [List.forall_mem_cons]
    exact ⟨⟨_, rfl⟩, nofun⟩
  have path : segments browsing.path = ["sections", "+7", "movies"] := by decide +kernel
  have listPath : segments listing.path = ["movies"] := by decide +kernel
  have named : Number.readInt64? (Text.trim (decodeSegment "+7")) = some 7 := by decide +kernel
  have query : listing.query = browseQuery ["exact(genres, Drama)", "start(title, H)"] ["rating.desc"]
      browsing.query := by
    decide +kernel
  have same := browse_section_eq_list reachable (rfl : ({} : Service).registry = .standard) keeps
    filtersResolve sortsResolve rfl path named rfl listPath query clock clock
  exact ⟨same, by decide +kernel, by decide +kernel⟩

end MovieCatalogue.Endpoint

import MovieCatalogue.Proofs.Endpoint.Dispatch
import MovieCatalogue.Proofs.Endpoint.Segment
import MovieCatalogue.Proofs.Number.Written
import MovieCatalogue.Shell.Command

/-!
Contract: commands that reach an operation.

Owns: that the request of a command asks for the operation on the entity of its resource,
with the identifier, the payload and the parameters of the command; and so that dispatching
it comes to carrying out this operation.
Does not own: the empty identifier, under which a command reaches another operation.
-/

namespace MovieCatalogue.Shell

open MovieCatalogue.Endpoint MovieCatalogue.Record MovieCatalogue.Storage

/-! ## Parameters -/

namespace ListOptions

/-- The parameters of a list that options stand for. -/
def params (options : ListOptions) : ListParams where
  page := options.page.getD 1
  limit := options.limit
  sort := options.sort
  filter := options.filter

/-- Tokens under one name are read one after the other. -/
private theorem foldlM_addPair {name : String} (add : ListParams → List String → ListParams)
    (one : ∀ (params : ListParams) (token : String),
      params.addPair (name, token) = .ok (add params [token]))
    (nothing : ∀ params, add params [] = params)
    (more : ∀ params token tokens, add (add params [token]) tokens = add params (token :: tokens))
    (params : ListParams) (tokens : List String) :
    (tokens.map fun token => (name, token)).foldlM ListParams.addPair params =
      .ok (add params tokens) := by
  induction tokens generalizing params with
  | nil =>
      rw [nothing]
      rfl
  | cons token tokens inductionHypothesis =>
      rw [List.map_cons, List.foldlM_cons, one]
      exact (inductionHypothesis _).trans (congrArg Except.ok (more params token tokens))

/-- The query pairs of options are read as the parameters that they stand for. -/
theorem ofPairs_pairs (options : ListOptions) :
    ListParams.ofPairs options.pairs = .ok options.params := by
  obtain ⟨page, limit, sort, filter⟩ := options
  have sorts (params : ListParams) :
      (sort.map fun token => ("sort", token)).foldlM ListParams.addPair params =
        .ok { params with sort := params.sort ++ sort } :=
    foldlM_addPair (fun params tokens => { params with sort := params.sort ++ tokens })
      (fun _ _ => rfl) (by simp) (by simp) params sort
  have filters (params : ListParams) :
      (filter.map fun token => ("filter", token)).foldlM ListParams.addPair params =
        .ok { params with filter := params.filter ++ filter } :=
    foldlM_addPair (fun params tokens => { params with filter := params.filter ++ tokens })
      (fun _ _ => rfl) (by simp) (by simp) params filter
  have pageRead (params : ListParams) (n : Int64) :
      params.addPair ("page", Number.intText n.toInt) = .ok { params with page := n } := by
    simp [ListParams.addPair, ListParams.integer, Number.readInt64?_intText, bind, Except.bind,
      pure, Except.pure]
  have limitRead (params : ListParams) (n : Int64) :
      params.addPair ("limit", Number.intText n.toInt) = .ok { params with limit := some n } := by
    simp [ListParams.addPair, ListParams.integer, Number.readInt64?_intText, bind, Except.bind,
      pure, Except.pure]
  rw [ListParams.ofPairs, pairs, List.foldlM_append, List.foldlM_append, List.foldlM_append]
  cases page <;> cases limit <;>
    simp [pageRead, limitRead, sorts, filters, params, bind, Except.bind, pure, Except.pure]

end ListOptions

/-! ## Commands -/

/-- Dispatching the request of a command comes to an operation with this outcome. -/
def Command.Reaches (command : Command Json) (service : Service) (store : Store) (clock : Clock)
    (outcome : Outcome Json) : Prop :=
  ∃ request, command.task = .send request ∧
    dispatch service store clock request =
      if service.recording then record clock request (outcome.reply request.call)
      else outcome.reply request.call

/-- A command reaches the operation that its request asks for. -/
theorem Command.reaches_of_asked (command : Command Json) {request : Request} {action : Action}
    {service : Service} (standard : service.registry = .standard)
    (task : command.task = .send request)
    (asked : Action.of? .standard request.method (segments request.path) = some action)
    (store : Store) (clock : Clock) :
    command.Reaches service store clock (action.run service store clock request) := by
  rw [← standard] at asked
  exact ⟨request, task, by rw [dispatch, answer_of_asked asked]⟩

section

variable {route : String} {entity : Entity}
  (served : Registry.standard.entity? route = some entity)
include served

theorem of?_resourcePath (method : Method) :
    Action.of? .standard method (segments (resourcePath route)) = Action.onAll entity method := by
  obtain ⟨nonempty, free, -⟩ := plainRoute_of_entity? served
  rw [resourcePath, segments_slash_append nonempty free, Action.of?_route served]

theorem of?_recordPath {id : String} (idNonempty : id ≠ "") (method : Method) :
    Action.of? .standard method (segments (recordPath route id)) =
      Action.onOne entity id method := by
  obtain ⟨nonempty, free, -⟩ := plainRoute_of_entity? served
  have path : segments (recordPath route id) = [route, encodeSegment id] :=
    segments_slash_append_slash_append nonempty free (encodeSegment_ne_empty idNonempty)
      (slash_not_mem_encodeSegment id)
  rw [path, Action.of?_route_segment served, decodeSegment_encodeSegment]

end

/--
Commands reach the operation on the entity of their resource, with exactly their
arguments: a list has the page, one if there is none, the limit, the sorts and the filters
in order; a creation has the payload; and a reading, an update or a deletion has the
identifier, whatever characters it has, unless it is empty.
-/
theorem commands_reach {service : Service} (standard : service.registry = .standard)
    {route : String} {entity : Entity} (served : Registry.standard.entity? route = some entity)
    (store : Store) (clock : Clock) :
    (∀ options, (Command.list route options).Reaches service store clock
        ((list entity store service.limits clock options.params).andThen (pageJson entity))) ∧
      (∀ body, (Command.create route body).Reaches service store clock
        ((create entity store clock body).andThen (recordJson entity))) ∧
      ∀ id, id ≠ "" →
        (Command.get route id).Reaches service store clock
            ⟨(read entity store clock id).bind (recordJson entity), store, []⟩ ∧
          (∀ body, (Command.update route id body).Reaches service store clock
            ((update entity store clock id body).andThen (recordJson entity))) ∧
          (Command.delete route id).Reaches service store clock
            ((delete entity store id).andThen fun _ =>
              .ok (.object [("result", .string "OK")])) := by
  -- Only the parameters of a list are read back; all else is handed on as it is.
  refine ⟨fun options => ?_, fun body => ?_, fun id nonempty => ⟨?_, fun body => ?_, ?_⟩⟩
  · have reached := Command.reaches_of_asked (.list route options) standard rfl
      (of?_resourcePath served .get) store clock
    simpa only [Action.run, options.ofPairs_pairs] using reached
  · have reached := Command.reaches_of_asked (.create route body) standard rfl
      (of?_resourcePath served .post) store clock
    exact reached
  · have reached := Command.reaches_of_asked (.get route id) standard rfl
      (of?_recordPath served nonempty .get) store clock
    exact reached
  · have reached := Command.reaches_of_asked (.update route id body) standard rfl
      (of?_recordPath served nonempty .put) store clock
    exact reached
  · have reached := Command.reaches_of_asked (.delete route id) standard rfl
      (of?_recordPath served nonempty .delete) store clock
    exact reached

/-- A genre whose name would split a path. -/
theorem commands_reach_escaped :
    let clock : Clock := ⟨0, .zero, .zero, 0⟩
    recordPath "genres" "50%/b" = "/genres/50%25%2Fb" ∧
      (Command.get "genres" "50%/b").Reaches {} emptyStore clock
        ⟨(read genre emptyStore clock "50%/b").bind (recordJson genre), emptyStore, []⟩ := by
  intro clock
  have served : Registry.standard.entity? "genres" = some genre := rfl
  have standard : ({} : Service).registry = .standard := rfl
  obtain ⟨-, -, reach⟩ := commands_reach standard served emptyStore clock
  exact ⟨by decide +kernel, (reach "50%/b" (by decide)).1⟩

/-- The genre without a name is read under its identifier, but its command lists all genres. -/
theorem get_empty_not_reaches :
    let clock : Clock := ⟨0, .zero, .zero, 0⟩
    let store : Store := emptyStore.put ⟨genre.spec, [⟨1, [("id", .text "")]⟩], 2⟩
    let outcome : Outcome Json := ⟨(read genre store clock "").bind (recordJson genre), store, []⟩
    Reachable store ∧ outcome.answer = .ok (.object [("id", .string "")]) ∧
      ¬ (Command.get "genres" "").Reaches {} store clock outcome := by
  intro clock store outcome
  have inserted : emptyStore.commit "genre" [.insert [("id", .text "")]] =
      .ok (store, [[("id", .text "")]]) :=
    Store.commit_eq_ok.mpr ⟨⟨genre.spec, [], 1⟩, _, rfl, rfl, rfl⟩
  refine ⟨.committed .empty inserted, rfl, ?_⟩
  rintro ⟨request, task, reached⟩
  cases task
  -- The page of a list has no member of this name.
  have member := congrArg (fun reply : Reply => (reply.response.body.member? "id").isSome) reached
  revert member
  decide +kernel

end MovieCatalogue.Shell

import MovieCatalogue.Proofs.Endpoint.Dispatch
import MovieCatalogue.Proofs.Record.RowDecoding
import MovieCatalogue.Proofs.Storage.FiniteReals
import MovieCatalogue.Record.Catalogue

/-!
Contract: requests do not store infinite numbers.

Owns: that a payload whose numbers are in range makes a record with finite numbers only,
and that the JSON form of a record has numbers in range, whatever the record is; and that
answering a request with such a payload, at times that are finite, keeps the numbers of a
store finite.
Does not own: the texts of payloads; see `Proofs.Json.Range`.
-/

namespace MovieCatalogue.Record

open MovieCatalogue.Number MovieCatalogue.Refusal MovieCatalogue.Storage

/-! ## Contents -/

/-- What a value in range decodes to is finite. -/
theorem Carrier.finite_of_decode {kind : Kind} {json : Json} {content : Carrier kind}
    (inRange : json.InRange) (decoded : Carrier.decode kind (.ofJson json) = .ok content) :
    (Carrier.toValue kind content).Finite := by
  cases kind with
  | real =>
      cases inRange with
      | int bounded =>
          cases decoded
          exact Value.finite_ofInt bounded
      | real finite =>
          cases decoded
          exact finite
      | _ => cases decoded
  | _ => trivial

theorem Carrier.inRange_toJson {kind : Kind} (content : Carrier kind) :
    (Carrier.toJson kind content).InRange := by
  cases kind with
  | integer =>
      have lower := Int64.le_toInt content
      have upper := Int64.toInt_lt content
      exact .int (by rw [maxWord]; omega)
  | real =>
      rw [toJson]
      split
      case isTrue finite => exact .real finite
      case isFalse => exact .null
  | text => exact .string _
  | boolean => exact .bool _
  | date => exact .string _

theorem Content.finite_of_decode {kind : Kind} {nullable : Bool} {json : Json}
    {content : Content kind nullable} (inRange : json.InRange)
    (decoded : Content.decode kind nullable (.ofJson json) = .ok content) :
    (Content.toValue kind nullable content).Finite := by
  cases nullable with
  | false => exact Carrier.finite_of_decode inRange decoded
  | true =>
      by_cases absent : json = .null
      · subst absent
        cases decoded
        trivial
      · have present : decode kind true (.ofJson json) =
            (Carrier.decode kind (.ofJson json)).map some := by
          cases json with
          | null => exact absurd rfl absent
          | _ => rfl
        obtain ⟨carried, decodedAlone, rfl⟩ := map_eq_ok.mp (present.symm.trans decoded)
        exact Carrier.finite_of_decode inRange decodedAlone

theorem Content.inRange_toJson {kind : Kind} {nullable : Bool} (content : Content kind nullable) :
    (Content.toJson kind nullable content).InRange := by
  cases nullable with
  | false => exact Carrier.inRange_toJson content
  | true =>
      cases content with
      | none => exact .null
      | some carried => exact Carrier.inRange_toJson carried

/-! ## Fields -/

/-- What a field holds when it is left out is finite. -/
def Field.FallsBackFinite (field : Field) : Prop :=
  ∀ now content, field.fallback now = some content →
    (Content.toValue field.kind field.nullable content).Finite

namespace Field

theorem fallsBackFinite_required (name : String) (kind : Kind) :
    (required name kind).FallsBackFinite := nofun

theorem fallsBackFinite_optional (name : String) (kind : Kind) :
    (optional name kind).FallsBackFinite := by
  rintro now content ⟨⟩
  trivial

theorem fallsBackFinite_withDefault {name : String} {kind : Kind} {content : Carrier kind}
    (finite : (Carrier.toValue kind content).Finite) :
    (withDefault name kind content).FallsBackFinite := by
  rintro now _ ⟨⟩
  exact finite

theorem fallsBackFinite_stamped (name : String) : (stamped name).FallsBackFinite := by
  rintro now content ⟨⟩
  trivial

end Field

/-- Every field of the catalogue that may be left out holds something finite then. -/
theorem fallsBackFinite_of_mem {entity : Entity} (member : entity ∈ catalogue) :
    ∀ field ∈ entity.fields, field.FallsBackFinite := by
  have each : ∀ entity ∈ catalogue, ∀ field ∈ entity.fields, field.FallsBackFinite := by
    have zero : (Carrier.toValue .real Binary64.zero).Finite := rfl
    have word (n : Int64) : (Carrier.toValue .integer n).Finite := trivial
    have text (s : String) : (Carrier.toValue .text s).Finite := trivial
    have truth (b : Bool) : (Carrier.toValue .boolean b).Finite := trivial
    simp [catalogue, user, movie, rating, tag, review, watchlist, genre, movieSection, requestLog,
      Field.fallsBackFinite_required, Field.fallsBackFinite_optional,
      Field.fallsBackFinite_stamped, Field.fallsBackFinite_withDefault, zero, word, text, truth]
  exact each entity member

/-! ## Records -/

/-- What members in range give is finite. -/
theorem Field.finite_of_gives {field : Field} {now : Int64} {members : Fields Json}
    {content : field.Contents} (fallsBack : field.FallsBackFinite)
    (inRange : ∀ member ∈ members, member.2.InRange)
    (gives : field.Gives now (members.map fun member => (member.1, Datum.ofJson member.2)) content) :
    (Content.toValue field.kind field.nullable content).Finite := by
  unfold Gives at gives
  split at gives
  case h_1 datum given =>
      obtain ⟨member, inMembers, same⟩ := List.mem_map.mp (Fields.mem_of_get?_eq_some given)
      obtain ⟨-, rfl⟩ := Prod.mk.inj same
      exact Content.finite_of_decode (inRange member inMembers) gives
  case h_2 => exact fallsBack now content gives

namespace Contents

theorem finite_of_build {fields : List Field} {now : Int64} {members : Fields Json}
    {record : Contents fields} (fallsBack : ∀ field ∈ fields, field.FallsBackFinite)
    (inRange : ∀ member ∈ members, member.2.InRange)
    (built : build now (members.map fun member => (member.1, Datum.ofJson member.2)) fields =
      .ok record) : (toRow fields record).Finite := by
  induction fields with
  | nil => exact List.forall_mem_nil _
  | cons field fields inductionHypothesis =>
      rw [List.forall_mem_cons] at fallsBack
      obtain ⟨given, builtRest⟩ := build_cons_eq_ok.mp built
      exact List.forall_mem_cons.mpr ⟨Field.finite_of_gives fallsBack.1 inRange given,
        inductionHypothesis fallsBack.2 builtRest⟩

theorem inRange_toMembers {fields : List Field} (record : Contents fields) :
    ∀ member ∈ toMembers fields record, member.2.InRange := by
  induction fields with
  | nil => exact List.forall_mem_nil _
  | cons field fields inductionHypothesis =>
      exact List.forall_mem_cons.mpr
        ⟨Content.inRange_toJson record.1, inductionHypothesis record.2⟩

end Contents

/-- The record of a payload in range has finite numbers. -/
theorem Entity.finite_of_ofPayload {entity : Entity} (member : entity ∈ catalogue) {now : Int64}
    {members : Fields Json} {record : entity.Records}
    (inRange : ∀ member ∈ members, member.2.InRange)
    (decoded : entity.ofPayload now members = .ok record) : (entity.toRow record).Finite := by
  obtain ⟨_, -, built⟩ := bind_eq_ok.mp (Entity.ofPayload_eq_ok.mp decoded)
  exact Contents.finite_of_build (fallsBackFinite_of_mem member) inRange built

end MovieCatalogue.Record

namespace MovieCatalogue.Endpoint

open MovieCatalogue.Record MovieCatalogue.Refusal MovieCatalogue.Storage

/-- The readings of a clock are finite. -/
structure Clock.Finite (clock : Clock) : Prop where
  started : clock.started.isFinite = true
  ended : clock.ended.isFinite = true

variable {store : Store} {entity : Entity} {clock : Clock} {body : Json}

/-! ## Plans -/

theorem inRange_of_payloadMembers {members : Fields Json} (inRange : body.InRange)
    (found : payloadMembers entity body = .ok members) :
    ∀ member ∈ members, member.2.InRange := by
  obtain ⟨rfl, -⟩ := payloadMembers_eq_ok.mp found
  cases inRange with
  | object each => exact each

theorem finite_of_planCreate (member : entity ∈ catalogue) (inRange : body.InRange) {work : Work}
    (planned : planCreate entity clock body = .ok work) : work.change.Finite := by
  obtain ⟨members, found, rest⟩ := bind_eq_ok.mp planned
  obtain ⟨record, decoded, built⟩ := bind_eq_ok.mp rest
  cases built
  exact Entity.finite_of_ofPayload member (inRange_of_payloadMembers inRange found) decoded

theorem finite_of_planUpdate (member : entity ∈ catalogue) (inRange : body.InRange) {id : String}
    {work : Work} (planned : planUpdate entity store clock id body = .ok work) :
    work.change.Finite := by
  obtain ⟨changes, found, rest⟩ := bind_eq_ok.mp planned
  obtain ⟨row, -, rest⟩ := bind_eq_ok.mp rest
  obtain ⟨current, -, rest⟩ := bind_eq_ok.mp rest
  obtain ⟨record, decoded, built⟩ := bind_eq_ok.mp rest
  cases built
  have merged : ∀ member ∈ Fields.merge (Contents.toMembers entity.fields current) changes,
      member.2.InRange := by
    intro member inMerge
    rcases Fields.mem_of_mem_merge inMerge with inCurrent | inChanges
    · exact Contents.inRange_toMembers current member inCurrent
    · exact inRange_of_payloadMembers inRange found member inChanges
  exact Entity.finite_of_ofPayload member merged decoded

theorem finite_of_planDelete {id : String} {work : Work}
    (planned : planDelete entity store id = .ok work) : work.change.Finite := by
  obtain ⟨row, -, built⟩ := bind_eq_ok.mp planned
  cases built
  trivial

theorem finite_carryOut (finite : store.Finite) {plan : Except RequestError Work}
    (finiteChange : ∀ work, plan = .ok work → work.change.Finite) :
    (carryOut entity store plan).store.Finite := by
  rcases store_carryOut_cases entity store plan with same | ⟨work, _, _, planned, committed, same⟩
  · rw [same]
    exact finite
  · have only := List.forall_mem_singleton.mpr (finiteChange work planned)
    rw [same]
    exact finite.commit only committed

/-! ## Requests -/

theorem finite_run (finite : store.Finite) (service : Service) (clock : Clock) {request : Request}
    (inRange : request.payload.InRange) {action : Action}
    (asked : Action.of? .standard request.method (segments request.path) = some action) :
    (action.run service store clock request).store.Finite := by
  rcases Action.of?_cases asked with
    ⟨-, rfl⟩ | ⟨-, id, rfl⟩ | ⟨route, entity, -, served, onAll | ⟨id, onOne⟩⟩
  · exact finite
  · exact (store_browse store service.limits clock id request.query).symm ▸ finite
  · have member := mem_catalogue_of_entity? served
    generalize request.method = method at onAll
    cases method with
    | get =>
        cases onAll
        exact (store_run_list entity service store clock request).symm ▸ finite
    | post =>
        cases onAll
        exact finite_carryOut finite fun work => finite_of_planCreate member inRange
    | put => cases onAll
    | delete => cases onAll
  · have member := mem_catalogue_of_entity? served
    generalize request.method = method at onOne
    cases method with
    | get =>
        cases onOne
        exact finite
    | post => cases onOne
    | put =>
        cases onOne
        exact finite_carryOut finite fun work => finite_of_planUpdate member inRange
    | delete =>
        cases onOne
        exact finite_carryOut finite fun work => finite_of_planDelete

theorem finite_logEntry (finite : clock.Finite) (request : Request) (response : Response) :
    Row.Finite (logEntry clock request response) := by
  intro cell member
  have inRow := (List.mem_filter.mp member).1
  simp only [Entity.toRow, requestLog, Contents.toRow, List.mem_cons, List.not_mem_nil,
    or_false] at inRow
  rcases inRow with rfl | rfl | rfl | rfl | rfl | rfl | rfl
  · trivial
  · trivial
  · trivial
  · trivial
  · exact finite.started
  · exact finite.ended
  · trivial

/-- Answering a request keeps the numbers of a store finite. -/
theorem finite_dispatch (finite : store.Finite) {service : Service}
    (standard : service.registry = .standard) (finiteClock : clock.Finite) {request : Request}
    (inRange : request.payload.InRange) :
    (dispatch service store clock request).store.Finite := by
  have answered : (answer service store clock request).store.Finite := by
    rcases store_answer_cases service store clock request with same | ⟨action, asked, same⟩
    · rw [same]
      exact finite
    · rw [standard] at asked
      rw [same]
      exact finite_run finite service clock inRange asked
  rcases store_dispatch_cases service store clock request with same | ⟨_, _, committed, same⟩
  · rw [same]
    exact answered
  · have entry : Change.Finite (.insertNextKey
        (logEntry clock request (answer service store clock request).response)) :=
      finite_logEntry finiteClock request _
    rw [same]
    exact answered.commit (List.forall_mem_singleton.mpr entry) committed

end MovieCatalogue.Endpoint

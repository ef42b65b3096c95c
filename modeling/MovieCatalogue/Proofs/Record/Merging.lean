import MovieCatalogue.Proofs.Record.RowDecoding
import MovieCatalogue.Proofs.Storage.FiniteReals

/-!
Contract: records under the changes of a payload.

Owns: that a content decodes from its JSON form, unless it is a number that is not finite;
what a field of a record has in its row, in its members and in members merged with changes;
`Field.Filled`, that a row has in a field what some members give it;
that a record which was merged from the members of another one and some changes has
the values of that one in every field that the changes do not name; and
`Field.Overridden`, a field that has what the changes set it to, or else what it had: the
members of a record under some changes decode to exactly the record all of whose fields are
overridden.
Does not own: the row in which the record is stored; see `Proofs.Endpoint.Updating`.
-/

namespace MovieCatalogue

/-- Members are looked up before or after their values are mapped. -/
theorem Fields.get?_map {α β : Type} (f : α → β) (members : Fields α) (name : String) :
    Fields.get? name (members.map fun member => (member.1, f member.2)) =
      (members.get? name).map f := by
  induction members with
  | nil => rfl
  | cons head tail inductionHypothesis =>
      rw [List.map_cons, Fields.get?, Fields.get?, inductionHypothesis]
      split
      · rfl
      · rfl

end MovieCatalogue

namespace MovieCatalogue.Record

open MovieCatalogue.Refusal MovieCatalogue.Selection MovieCatalogue.Storage

/-! ## One content -/

theorem Carrier.stores_toValue {kind : Kind} (content : Carrier kind) :
    kind.Stores (Carrier.toValue kind content) := by
  cases kind with
  | integer => exact .integer content
  | real => exact .real content
  | text => exact .text content
  | boolean => exact .boolean content
  | date => exact .date content

/-- The JSON form of a content and its stored form are read in the same way. -/
theorem Carrier.ofJson_toJson {kind : Kind} {content : Carrier kind}
    (finite : (Carrier.toValue kind content).Finite) :
    Datum.ofJson (Carrier.toJson kind content) = .ofValue (Carrier.toValue kind content) := by
  cases kind with
  | real =>
      have isFinite : Number.Binary64.isFinite content = true := finite
      simp only [Carrier.toJson, isFinite, ↓reduceIte]
      rfl
  | _ => rfl

namespace Content

variable {field : Field}

theorem holds_toValue (content : field.Contents) :
    field.column.Holds (toValue field.kind field.nullable content) := by
  obtain ⟨name, kind, nullable, fallback⟩ := field
  cases nullable with
  | false => exact .stored (Carrier.stores_toValue content)
  | true =>
      cases content with
      | none => exact .absent rfl
      | some carried => exact .stored (Carrier.stores_toValue carried)

theorem ofJson_toJson {content : field.Contents}
    (finite : (toValue field.kind field.nullable content).Finite) :
    Datum.ofJson (toJson field.kind field.nullable content) =
      .ofValue (toValue field.kind field.nullable content) := by
  obtain ⟨name, kind, nullable, fallback⟩ := field
  cases nullable with
  | false => exact Carrier.ofJson_toJson finite
  | true =>
      cases content with
      | none => rfl
      | some carried => exact Carrier.ofJson_toJson finite

theorem decode_toJson {content : field.Contents}
    (finite : (toValue field.kind field.nullable content).Finite) :
    field.decode (.ofJson (toJson field.kind field.nullable content)) = .ok content := by
  obtain ⟨other, decoded, stored⟩ := decode_of_holds (holds_toValue content)
  rw [ofJson_toJson finite, decoded, toValue_injective _ _ stored]

end Content

/-! ## The fields of a record -/

/-- A row has in a field what some members give it. -/
def Field.Filled (field : Field) (now : Int64) (members : Fields Datum) (row : Row) : Prop :=
  ∃ content, field.Gives now members content ∧
    valueAt row field.name = Content.toValue field.kind field.nullable content

theorem Field.filled_iff_of_get? {field : Field} {now : Int64} {members : Fields Datum} {row : Row}
    {datum : Datum} (given : Fields.get? field.name members = some datum) :
    field.Filled now members row ↔ ∃ content, field.decode datum = .ok content ∧
      valueAt row field.name = Content.toValue field.kind field.nullable content := by
  simp only [Filled, Gives, given]

namespace Contents

variable {fields : List Field} {field : Field}

theorem valueAt_toRow_first (record : Contents (field :: fields)) :
    valueAt (toRow (field :: fields) record) field.name =
      Content.toValue field.kind field.nullable record.1 := by
  simp [valueAt, toRow, Fields.get?]

theorem valueAt_toRow_later (record : Contents (field :: fields))
    (distinct : ((field :: fields).map Field.name).Nodup) {other : Field} (later : other ∈ fields) :
    valueAt (toRow (field :: fields) record) other.name =
      valueAt (toRow fields record.2) other.name := by
  rw [List.map_cons, List.nodup_cons] at distinct
  have different : field.name ≠ other.name :=
    fun same => distinct.1 (same ▸ List.mem_map_of_mem later)
  simp [valueAt, toRow, Fields.get?, different]

/-- The content of a field in the row and in the members of a record. -/
theorem exists_content (record : Contents fields) (distinct : (fields.map Field.name).Nodup)
    (inFields : field ∈ fields) :
    ∃ content : field.Contents,
      valueAt (toRow fields record) field.name =
        Content.toValue field.kind field.nullable content ∧
      Fields.get? field.name (toMembers fields record) =
        some (Content.toJson field.kind field.nullable content) := by
  induction fields with
  | nil => cases inFields
  | cons first fields inductionHypothesis =>
      rcases List.mem_cons.mp inFields with rfl | later
      · exact ⟨record.1, valueAt_toRow_first record, by simp [toMembers, Fields.get?]⟩
      · rw [valueAt_toRow_later record distinct later]
        rw [List.map_cons, List.nodup_cons] at distinct
        obtain ⟨content, inRow, inMembers⟩ := inductionHypothesis record.2 distinct.2 later
        have different : first.name ≠ field.name :=
          fun same => distinct.1 (same ▸ List.mem_map_of_mem later)
        exact ⟨content, inRow, by simpa [toMembers, Fields.get?, different] using inMembers⟩

theorem holds_toRow (fields : List Field) (record : Contents fields) :
    List.Forall₂ (fun column cell => cell.1 = column.name ∧ column.Holds cell.2)
      (fields.map Field.column) (toRow fields record) := by
  induction fields with
  | nil => exact .nil
  | cons field fields inductionHypothesis =>
      exact .cons ⟨rfl, Content.holds_toValue record.1⟩ (inductionHypothesis record.2)

/-- A record is made of members if and only if they give the contents that its row has. -/
theorem build_eq_ok {now : Int64} {members : Fields Datum} {record : Contents fields}
    (distinct : (fields.map Field.name).Nodup) :
    build now members fields = .ok record ↔
      ∀ field ∈ fields, field.Filled now members (toRow fields record) := by
  induction fields with
  | nil => simp [build]
  | cons first fields inductionHypothesis =>
      obtain ⟨content, others⟩ := record
      have here : first.Filled now members (toRow (first :: fields) (content, others)) ↔
          first.Gives now members content := by
        rw [Field.Filled, valueAt_toRow_first]
        constructor
        · rintro ⟨found, gives, inRow⟩
          cases Content.toValue_injective _ _ inRow
          exact gives
        · intro gives
          exact ⟨content, gives, rfl⟩
      have later : ∀ field ∈ fields,
          (field.Filled now members (toRow (first :: fields) (content, others)) ↔
            field.Filled now members (toRow fields others)) := by
        intro field inFields
        rw [Field.Filled, Field.Filled, valueAt_toRow_later _ distinct inFields]
      rw [build_cons_eq_ok, inductionHypothesis (List.nodup_cons.mp distinct).2,
        List.forall_mem_cons, here, forall₂_congr later]

/-- Under some changes the member of a field is the last one of its name in the changes, or else the
one of the record. -/
theorem get?_merge_toMembers (current : Contents fields) (distinct : (fields.map Field.name).Nodup)
    (inFields : field ∈ fields) (changes : Fields Json) :
    ∃ content : field.Contents,
      valueAt (toRow fields current) field.name =
        Content.toValue field.kind field.nullable content ∧
      Fields.get? field.name (Fields.merge (toMembers fields current) changes) =
        ((Fields.get? field.name (Fields.collapse changes)).or
          (some (Content.toJson field.kind field.nullable content))) := by
  obtain ⟨content, inRow, inMembers⟩ := exists_content current distinct inFields
  refine ⟨content, inRow, ?_⟩
  rw [Fields.get?_merge, Fields.get?_collapse, inMembers]

end Contents

/-! ## Merged payloads -/

/-- A field that the changes do not name keeps its value. -/
theorem Entity.valueAt_of_merged {entity : Entity} (distinct : (entity.fields.map Field.name).Nodup)
    {now : Int64} {current record : entity.Records} {changes : Fields Json}
    (decoded : entity.ofPayload now
      (Fields.merge (Contents.toMembers entity.fields current) changes) = .ok record)
    {field : Field} (inFields : field ∈ entity.fields) (unnamed : field.name ∉ changes.names)
    (finite : (valueAt (entity.toRow current) field.name).Finite) :
    valueAt (entity.toRow record) field.name = valueAt (entity.toRow current) field.name := by
  obtain ⟨content, inRow, merged⟩ :=
    Contents.get?_merge_toMembers current distinct inFields changes
  have absent : Fields.get? field.name (Fields.collapse changes) = none :=
    Fields.get?_eq_none_iff.mpr (Fields.mem_names_collapse.not.mpr unnamed)
  rw [absent, Option.none_or] at merged
  obtain ⟨_, -, built⟩ := bind_eq_ok.mp (Entity.ofPayload_eq_ok.mp decoded)
  have given : Fields.get? field.name ((Fields.merge (Contents.toMembers entity.fields current)
      changes).map fun member => (member.1, Datum.ofJson member.2)) =
        some (.ofJson (Content.toJson field.kind field.nullable content)) := by
    rw [Fields.get?_map, merged]
    rfl
  obtain ⟨after, decodedAfter, inRecord⟩ :=
    (Field.filled_iff_of_get? given).mp ((Contents.build_eq_ok distinct).mp built field inFields)
  rw [toRow, inRow] at finite
  rw [Content.decode_toJson finite] at decodedAfter
  cases decodedAfter
  rw [toRow, toRow, inRecord, inRow]

/-! ## Fields under changes -/

/-- A field of a new row: what the changes set it to, or what it was in the old row if they do not
name it. -/
inductive Field.Overridden (field : Field) (changes : Fields Json) (old new : Row) : Prop
  | named {json : Json} {content : field.Contents}
      (given : Fields.get? field.name (Fields.collapse changes) = some json)
      (decoded : field.decode (.ofJson json) = .ok content)
      (set : valueAt new field.name = Content.toValue field.kind field.nullable content)
  | unnamed (absent : field.name ∉ Fields.names changes)
      (kept : valueAt new field.name = valueAt old field.name)

namespace Contents

variable {fields : List Field} {field : Field} {now : Int64}

/-! ## Fields of rows and members -/

theorem names_toMembers (fields : List Field) (record : Contents fields) :
    Fields.names (toMembers fields record) = fields.map Field.name := by
  induction fields with
  | nil => rfl
  | cons field fields inductionHypothesis =>
      rw [toMembers, Fields.names_cons, inductionHypothesis, List.map_cons]

/-! ## Decoding field by field -/

/-- Members of different names decode to a record if and only if its row has in every field what they
give it. -/
theorem decode_eq_ok {members : Fields Datum} {record : Contents fields}
    (distinct : (fields.map Field.name).Nodup) (distinctMembers : members.names.Nodup) :
    decode fields now members = .ok record ↔
      ∀ field ∈ fields, field.Filled now members (toRow fields record) := by
  rw [← build_eq_ok distinct]
  constructor
  · intro decoded
    obtain ⟨-, -, built⟩ := bind_eq_ok.mp decoded
    exact built
  · intro built
    have filled := (build_eq_ok distinct).mp built
    have checked : checkMembers fields members = .ok () := by
      refine checkMembers_of_each fun member inMembers => ?_
      unfold checkMember
      split
      case h_1 field found =>
          have named : field.name = member.1 := by simpa using List.find?_some found
          have given : Fields.get? field.name members = some member.2 :=
            named ▸ Fields.get?_eq_some_of_mem distinctMembers inMembers
          obtain ⟨content, decoded, -⟩ := (Field.filled_iff_of_get? given).mp
            (filled field (List.mem_of_find?_eq_some found))
          rw [decoded]
          rfl
      case h_2 => rfl
    exact bind_eq_ok.mpr ⟨(), checked, built⟩

/-! ## Changes over a record -/

/-- The members of a finite record under some changes decode to the record all of whose fields are
overridden, and to no other one. -/
theorem ofMembers_merge_eq_ok {current record : Contents fields} {changes : Fields Json}
    (distinct : (fields.map Field.name).Nodup)
    (finite : ∀ name, (valueAt (toRow fields current) name).Finite) :
    ofMembers fields now (Fields.merge (toMembers fields current) changes) = .ok record ↔
      ∀ field ∈ fields, field.Overridden changes (toRow fields current) (toRow fields record) := by
  have names : Fields.names ((Fields.merge (toMembers fields current) changes).map fun member =>
      (member.1, Datum.ofJson member.2)) =
        Fields.names (Fields.merge (toMembers fields current) changes) := by
    simp [Fields.names, Function.comp_def]
  have startNames := names_toMembers fields current
  have distinctMembers := Fields.nodup_names_merge (startNames ▸ distinct) changes
  rw [ofMembers, decode_eq_ok distinct (names ▸ distinctMembers)]
  refine forall₂_congr fun field inFields => ?_
  obtain ⟨content, inRow, merged⟩ := get?_merge_toMembers current distinct inFields changes
  have finiteHere := inRow ▸ finite field.name
  cases change : Fields.get? field.name (Fields.collapse changes) with
  | some json =>
      rw [change, Option.some_or] at merged
      rw [Field.filled_iff_of_get? (by rw [Fields.get?_map, merged]; rfl)]
      constructor
      · rintro ⟨decodedContent, decoded, stored⟩
        exact .named change decoded stored
      · intro overridden
        cases overridden with
        | named given decoded set =>
            cases change.symm.trans given
            exact ⟨_, decoded, set⟩
        | unnamed absent kept =>
            have unchanged := Fields.get?_eq_none_iff.mpr (Fields.mem_names_collapse.not.mpr absent)
            cases change.symm.trans unchanged
  | none =>
      rw [change, Option.none_or] at merged
      rw [Field.filled_iff_of_get? (by rw [Fields.get?_map, merged]; rfl),
        Content.decode_toJson finiteHere]
      constructor
      · rintro ⟨_, ⟨⟩, stored⟩
        have absent := Fields.get?_eq_none_iff.mp change
        exact .unnamed (Fields.mem_names_collapse.not.mp absent) (stored.trans inRow.symm)
      · intro overridden
        cases overridden with
        | named given decoded set => cases change.symm.trans given
        | unnamed absent kept => exact ⟨content, rfl, kept.trans inRow⟩

end Contents

end MovieCatalogue.Record

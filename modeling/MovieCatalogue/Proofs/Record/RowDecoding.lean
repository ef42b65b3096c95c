import MovieCatalogue.Proofs.Number.Written
import MovieCatalogue.Proofs.Storage.StorageForm
import MovieCatalogue.Record.Entity

/-!
Contract: records from stored rows and from payloads.

Owns: that every row in the form of an entity's table decodes, and to a record that
is stored as that row; that no other record is stored as it; `Field.Gives`, the content
that a field has by some members; and that a payload decodes as its members do.
Does not own: which rows are in that form; see `Proofs.Storage.Soundness`.
-/

namespace MovieCatalogue.Record

open MovieCatalogue.Storage MovieCatalogue.Refusal

/-! ## One value -/

/-- A value in storage form decodes to the content that is stored as it. -/
theorem Carrier.decode_of_stores {kind : Kind} {value : Value} (stores : kind.Stores value) :
    ∃ content, Carrier.decode kind (.ofValue value) = .ok content ∧
      Carrier.toValue kind content = value := by
  cases stores with
  | integer n =>
      exact ⟨n, by simp [Datum.ofValue, Carrier.decode, Number.fitsInt64_toInt], rfl⟩
  | real x => exact ⟨x, rfl, rfl⟩
  | text s => exact ⟨s, rfl, rfl⟩
  | boolean b => exact ⟨b, rfl, rfl⟩
  | date d =>
      exact ⟨d, by simp [Datum.ofValue, Carrier.decode, Calendar.readDate_text, Except.mapError], rfl⟩

/-- Different contents are stored as different values. -/
theorem Carrier.toValue_injective (kind : Kind) : Function.Injective (Carrier.toValue kind) := by
  intro content other same
  cases kind with
  | integer => exact Value.int64.inj same
  | real => exact Value.real.inj same
  | text => exact Value.text.inj same
  | boolean => exact Value.bool.inj same
  | date => exact Calendar.Date.text_injective (Value.text.inj same)

theorem Content.toValue_injective (kind : Kind) (nullable : Bool) :
    Function.Injective (Content.toValue kind nullable) := by
  intro content other same
  have present (carried : Carrier kind) : Carrier.toValue kind carried ≠ .null := by
    cases kind <;> nofun
  cases nullable with
  | false => exact Carrier.toValue_injective kind same
  | true =>
      cases content with
      | none =>
          cases other with
          | none => rfl
          | some carried => exact absurd same.symm (present carried)
      | some carried =>
          cases other with
          | none => exact absurd same (present carried)
          | some otherCarried => exact congrArg some (Carrier.toValue_injective kind same)

/-- A value that the column of a field may hold decodes to the content that is stored as it. -/
theorem Content.decode_of_holds {field : Field} {value : Value}
    (holds : field.column.Holds value) :
    ∃ content, field.decode (.ofValue value) = .ok content ∧
      Content.toValue field.kind field.nullable content = value := by
  obtain ⟨name, kind, nullable, fallback⟩ := field
  cases holds with
  | absent nullableColumn =>
      cases nullableColumn
      exact ⟨none, rfl, rfl⟩
  | stored form =>
      have stores : kind.Stores value := form
      obtain ⟨content, decoded, stored⟩ := Carrier.decode_of_stores stores
      cases nullable with
      | false => exact ⟨content, decoded, stored⟩
      | true =>
          refine ⟨some content, ?_, stored⟩
          -- A stored value is not absent, so it decodes as one of its kind.
          have present : Content.decode kind true (.ofValue value) =
              (Carrier.decode kind (.ofValue value)).map some := by
            cases stores <;> rfl
          exact present.trans (decoded ▸ rfl)

/-! ## All fields -/

namespace Contents

theorem checkMembers_of_each {fields : List Field} {members : Fields Datum}
    (each : ∀ member ∈ members, checkMember fields member.1 member.2 = .ok ()) :
    checkMembers fields members = .ok () := by
  induction members with
  | nil => rfl
  | cons member members inductionHypothesis =>
      rw [List.forall_mem_cons] at each
      exact bind_eq_ok.mpr ⟨(), each.1, inductionHypothesis each.2⟩

/-- The cell of a field's name is one that its column may hold. -/
private theorem holds_of_find? {fields : List Field} {row : Row}
    (holds : List.Forall₂ (fun column cell => cell.1 = column.name ∧ column.Holds cell.2)
      (fields.map Field.column) row)
    (distinct : (Fields.names row).Nodup) {name : String} {value : Value}
    (member : (name, value) ∈ row) {field : Field}
    (found : fields.find? (fun field => field.name == name) = some field) :
    field.column.Holds value := by
  induction fields generalizing row with
  | nil => cases found
  | cons head fields inductionHypothesis =>
      rw [List.map_cons] at holds
      cases holds with
      | cons first others =>
          rename_i cell cells
          obtain ⟨cellName, cellValue⟩ := cell
          obtain ⟨named, held⟩ := first
          rw [Fields.names_cons, List.nodup_cons] at distinct
          by_cases here : head.name = name
          · have isHead : head = field := by simpa [here] using found
            have sameName : cellName = name := named.trans here
            rcases List.mem_cons.mp member with same | later
            · cases same
              exact isHead ▸ held
            · have again : cellName ∈ Fields.names cells :=
                List.mem_map.mpr ⟨_, later, sameName.symm⟩
              exact absurd again distinct.1
          · have different : cellName ≠ name := fun same => here (named.symm.trans same)
            have inCells : (name, value) ∈ cells := by simpa [different.symm] using member
            exact inductionHypothesis others distinct.2 inCells (by simpa [here] using found)

/-- Contents that are found under the names of the fields make a record. -/
private theorem build_of_found {fields : List Field} {row : Row} {members : Fields Datum}
    (now : Int64)
    (holds : List.Forall₂ (fun column cell => cell.1 = column.name ∧ column.Holds cell.2)
      (fields.map Field.column) row)
    (found : ∀ cell ∈ row, Fields.get? cell.1 members = some (.ofValue cell.2)) :
    ∃ record, build now members fields = .ok record ∧ toRow fields record = row := by
  induction fields generalizing row with
  | nil =>
      cases holds
      exact ⟨(), rfl, rfl⟩
  | cons field fields inductionHypothesis =>
      rw [List.map_cons] at holds
      cases holds with
      | cons first others =>
          rename_i cell cells
          obtain ⟨name, value⟩ := cell
          obtain ⟨rfl, held⟩ := first
          rw [List.forall_mem_cons] at found
          obtain ⟨content, decoded, stored⟩ := Content.decode_of_holds held
          obtain ⟨record, built, rest⟩ := inductionHypothesis others found.2
          have here : Fields.get? field.name members = some (.ofValue value) := found.1
          refine ⟨(content, record), ?_, ?_⟩
          · simp [build, here, decoded, built, bind, Except.bind, pure, Except.pure]
          · simp only [toRow, stored, rest]
            rfl

private theorem names_data (row : Row) :
    Fields.names (row.map fun cell => (cell.1, Datum.ofValue cell.2)) = Fields.names row := by
  simp [Fields.names, Function.comp_def]

/-- A row in the form of the fields decodes to the record that is stored as it. -/
theorem ofRow_of_holds {fields : List Field} {row : Row} (now : Int64)
    (distinct : (fields.map Field.name).Nodup)
    (holds : List.Forall₂ (fun column cell => cell.1 = column.name ∧ column.Holds cell.2)
      (fields.map Field.column) row) :
    ∃ record, ofRow fields now row = .ok record ∧ toRow fields record = row := by
  have distinctCells : (Fields.names row).Nodup := by
    rw [names_of_cells holds fun _ _ => And.left, List.map_map]
    exact distinct
  have checked : checkMembers fields (row.map fun cell => (cell.1, Datum.ofValue cell.2)) =
      .ok () := by
    refine checkMembers_of_each fun member inRow => ?_
    obtain ⟨⟨name, value⟩, inCells, rfl⟩ := List.mem_map.mp inRow
    unfold checkMember
    split
    case h_1 field found =>
        obtain ⟨content, decoded, -⟩ :=
          Content.decode_of_holds (holds_of_find? holds distinctCells inCells found)
        rw [decoded]
        rfl
    case h_2 => rfl
  have found : ∀ cell ∈ row, Fields.get? cell.1
      (row.map fun cell => (cell.1, Datum.ofValue cell.2)) = some (.ofValue cell.2) :=
    fun cell inCells => Fields.get?_eq_some_of_mem (names_data row ▸ distinctCells)
      (List.mem_map.mpr ⟨cell, inCells, rfl⟩)
  obtain ⟨record, built, stored⟩ := build_of_found now holds found
  exact ⟨record, bind_eq_ok.mpr ⟨(), checked, built⟩, stored⟩

/-- Different records are stored as different rows. -/
theorem toRow_injective (fields : List Field) : Function.Injective (toRow fields) := by
  intro record other same
  induction fields with
  | nil => rfl
  | cons field fields inductionHypothesis =>
      obtain ⟨first, rest⟩ := List.cons.inj same
      exact Prod.ext (Content.toValue_injective _ _ (Prod.mk.inj first).2)
        (inductionHypothesis rest)

end Contents

/-- A row in the form of an entity's table is the stored form of a record. -/
theorem Entity.ofRow_of_holds {entity : Entity} {row : Row} (now : Int64)
    (distinct : (entity.fields.map Field.name).Nodup) (holds : entity.spec.Holds row) :
    ∃ record, entity.ofRow now row = .ok record ∧ entity.toRow record = row := by
  obtain ⟨record, decoded, stored⟩ := Contents.ofRow_of_holds now distinct holds
  exact ⟨record, by simp [Entity.ofRow, decoded], stored⟩

/-! ## Contents of members -/

/-- The content of a field by some members: what its member decodes to, or what the field holds when
it is left out. -/
def Field.Gives (field : Field) (now : Int64) (members : Fields Datum) (content : field.Contents) :
    Prop :=
  match Fields.get? field.name members with
  | some datum => field.decode datum = .ok content
  | none => field.fallback now = some content

/-- Members make the records whose contents they give to the fields. -/
theorem Contents.build_cons_eq_ok {field : Field} {fields : List Field} {now : Int64}
    {members : Fields Datum} {content : field.Contents} {record : Contents fields} :
    build now members (field :: fields) = .ok (content, record) ↔
      field.Gives now members content ∧ build now members fields = .ok record := by
  -- Behind the first content, whether it was given or left out.
  have onward (found : field.Contents) :
      (do return (found, ← build now members fields)) = Except.ok (content, record) ↔
        found = content ∧ build now members fields = .ok record := by
    rw [bind_eq_ok]
    constructor
    · rintro ⟨others, built, same⟩
      cases same
      exact ⟨rfl, built⟩
    · rintro ⟨rfl, built⟩
      exact ⟨record, built, rfl⟩
  rw [build, Field.Gives]
  cases Fields.get? field.name members with
  | some datum =>
      dsimp only
      rw [bind_eq_ok]
      constructor
      · rintro ⟨found, decoded, rest⟩
        obtain ⟨rfl, built⟩ := (onward found).mp rest
        exact ⟨decoded, built⟩
      · rintro ⟨decoded, built⟩
        exact ⟨content, decoded, (onward content).mpr ⟨rfl, built⟩⟩
  | none =>
      cases field.fallback now with
      | some found => exact (onward found).trans (by simp)
      | none => simp [bind, Except.bind]

/-! ## Payloads -/

theorem Entity.ofPayload_eq_ok {entity : Entity} {now : Int64} {members : Fields Json}
    {record : entity.Records} : entity.ofPayload now members = .ok record ↔
      Contents.ofMembers entity.fields now members = .ok record := by
  unfold ofPayload
  split
  case h_1 decoded => simp [decoded]
  case h_2 refused => simp [refused]

/-- A payload is refused with the message of what keeps its members from being decoded. -/
theorem Entity.ofPayload_eq_error {entity : Entity} {now : Int64} {members : Fields Json}
    {error : RequestError} : entity.ofPayload now members = .error error ↔
      ∃ cause, Contents.ofMembers entity.fields now members = .error cause ∧
        .invalid ("invalid " ++ entity.name ++ " payload: " ++ cause.message .payload) = error := by
  unfold ofPayload
  split
  case h_1 decoded => simp [decoded]
  case h_2 refused => simp [refused]

end MovieCatalogue.Record

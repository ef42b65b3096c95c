import MovieCatalogue.Proofs.Record.CatalogueTables
import MovieCatalogue.Proofs.Selection.Condition
import MovieCatalogue.Proofs.Storage.OwnKey
import MovieCatalogue.Proofs.Text.Cutting
import MovieCatalogue.Record.Identifier

/-!
Contract: the identifiers of stored rows.

Owns: `Entity.identifierOf`, the texts of the key values of a row, joined as an identifier
is written; that it parses into these texts; and that a row of the same entity satisfies
what it asks for if and only if it has the same key, so that an identifier tells rows with
different keys apart. Also which texts parse as identifiers at all, and that parsing and
joining by underscores undo each other, so that no part of a text is lost.
Does not own: the table in which a row is looked up; see `Proofs.Endpoint.Addressing`.
-/

namespace MovieCatalogue.Record

open MovieCatalogue.Refusal MovieCatalogue.Selection MovieCatalogue.Storage

/-! ## Parts -/

/-- Parts that are joined by underscores parse into these parts, if only the last one may hold an
underscore. -/
theorem Identifier.parse_join {fields texts : List String} (nonempty : fields ≠ [])
    (sameLength : texts.length = fields.length)
    (free : ∀ text ∈ texts.dropLast, '_' ∉ text.toList) :
    Identifier.parse fields (Text.join "_" texts) = .ok (fields.zip texts) := by
  have someText : texts ≠ [] := by
    rw [← List.length_pos_iff, sameLength]
    exact List.length_pos_iff.mpr nonempty
  unfold parse
  split
  case h_1 field =>
      obtain ⟨text, rfl⟩ := List.length_eq_one_iff.mp sameLength
      simp [Text.join, Text.joinWith]
  case h_2 =>
      have shape : texts.map String.toList =
          texts.dropLast.map String.toList ++ [(texts.getLast someText).toList] := by
        rw [← List.map_singleton, ← List.map_append, List.dropLast_append_getLast]
      have count : fields.length = (texts.dropLast.map String.toList).length + 1 := by
        rw [← sameLength, ← List.length_map String.toList, shape, List.length_append,
          List.length_singleton]
      have cut : Text.splitAtMost '_' fields.length (Text.join "_" texts).toList =
          texts.map String.toList := by
        rw [Text.join, String.toList_ofList, shape, count]
        refine Text.splitAtMost_joinWith _ _ fun part inFront => ?_
        obtain ⟨text, inTexts, rfl⟩ := List.mem_map.mp inFront
        exact free text inTexts
      simp [cut, sameLength, Function.comp_def]

theorem Identifier.names_of_parse {fields : List String} {id : String} {identifier : Identifier}
    (parsed : Identifier.parse fields id = .ok identifier) : identifier.map Prod.fst = fields := by
  unfold parse at parsed
  split at parsed
  case h_1 field =>
      cases parsed
      rfl
  case h_2 =>
      dsimp only at parsed
      split at parsed
      case isTrue sameLength =>
          cases parsed
          exact List.map_fst_zip (by simp [sameLength])
      case isFalse => cases parsed

theorem Identifier.parse_eq_error {fields : List String} {id : String} {error : RequestError} :
    Identifier.parse fields id = .error error ↔
      error = .invalid ("identifier '" ++ id ++ "' does not match '" ++ Text.join "_" fields ++ "'") ∧
        ∀ identifier, Identifier.parse fields id ≠ .ok identifier := by
  apply eq_error_iff
  intro error refused
  unfold parse at refused
  split at refused
  case h_1 => cases refused
  case h_2 =>
      dsimp only at refused
      split at refused
      case isTrue => cases refused
      case isFalse => exact (Except.error.inj refused).symm

/-! ## Key values -/

/-- The kinds of the columns that make keys. -/
def namingKinds : List Kind :=
  [.integer, .text]

def keyText (value : Value) : String :=
  (Kind.render? value).getD ""

/-- The text of a key value stands for this value in a filter. -/
theorem readLiteral?_keyText {kind : Kind} {value : Value} (naming : kind ∈ namingKinds)
    (stores : kind.Stores value) : kind.readLiteral? (keyText value) = some value := by
  have notReal : kind ≠ .real := by
    rintro rfl
    simp [namingKinds] at naming
  obtain ⟨shown, rendered, read⟩ := Kind.exists_render stores notReal
  rw [keyText, rendered]
  exact read

theorem underscore_not_mem_keyText {value : Value} (stores : Kind.integer.Stores value) :
    '_' ∉ (keyText value).toList := by
  cases stores with
  | integer n =>
      change '_' ∉ (Number.intText n.toInt).toList
      rw [Number.intText, String.toList_ofList]
      intro member
      rcases Number.mem_intChars member with sign | digit
      · cases sign
      · cases digit

/-! ## Keys -/

/-- What the keys of the catalogue have in common: their columns are never absent, hold integers
or texts, and hold integers in front of the last one. -/
structure Entity.Keyed (entity : Entity) : Prop where
  nonempty : entity.key ≠ []
  column : ∀ name ∈ entity.key, ∃ column, entity.spec.column? name = some column ∧
    column.nullable = false ∧ column.kind ∈ namingKinds
  front : ∀ name ∈ entity.key.dropLast, ∃ column, entity.spec.column? name = some column ∧
    column.nullable = false ∧ column.kind = .integer

theorem Entity.Keyed.strictKey {entity : Entity} (keyed : entity.Keyed) : entity.spec.StrictKey := by
  intro name inKey
  obtain ⟨column, found, strict, -⟩ := keyed.column name inKey
  obtain ⟨inSpec, named⟩ := Spec.mem_of_column? found
  exact ⟨column, inSpec, named, strict⟩

theorem Entity.Keyed.notReal {entity : Entity} (keyed : entity.Keyed)
    (distinct : (entity.spec.columns.map Column.name).Nodup) : ∀ column ∈ entity.spec.columns,
      column.name ∈ entity.spec.primaryKey → column.kind ≠ .real := by
  intro column inSpec inKey real
  obtain ⟨other, found, -, naming⟩ := keyed.column column.name inKey
  obtain ⟨otherInSpec, sameName⟩ := Spec.mem_of_column? found
  cases List.inj_on_of_nodup_map distinct otherInSpec inSpec sameName
  rw [real] at naming
  simp [namingKinds] at naming

theorem keyed_of_mem {entity : Entity} (member : entity ∈ catalogue) : entity.Keyed := by
  have each : ∀ entity ∈ catalogue, entity.key ≠ [] ∧
      (∀ name ∈ entity.key, (entity.spec.column? name).any fun column =>
        !column.nullable && namingKinds.contains column.kind) ∧
      (∀ name ∈ entity.key.dropLast, (entity.spec.column? name).any fun column =>
        !column.nullable && column.kind == .integer) := by
    decide
  obtain ⟨nonempty, naming, integers⟩ := each entity member
  refine ⟨nonempty, fun name inKey => ?_, fun name inFront => ?_⟩
  · simpa [Option.any_eq_true] using naming name inKey
  · simpa [Option.any_eq_true] using integers name inFront

namespace Entity

variable {entity : Entity} {row other : Row}

def identifierOf (entity : Entity) (row : Row) : String :=
  Text.join "_" ((Key.of entity.spec row).map keyText)

/-- The query for the rows that have the key of a row. -/
def keyQuery (entity : Entity) (row : Row) : Query where
  table := entity.table
  predicates := entity.key.map fun name => .equals name (keyText (valueAt row name))

section

variable (distinct : (entity.spec.columns.map Column.name).Nodup) (holds : entity.spec.Holds row)
include distinct holds

theorem stores_of_column? {name : String} {column : Column}
    (found : entity.spec.column? name = some column) (strict : column.nullable = false) :
    column.kind.Stores (valueAt row name) := by
  obtain ⟨inSpec, rfl⟩ := Spec.mem_of_column? found
  exact (holds.valueAt distinct inSpec).stores_of_strict strict

variable (keyed : entity.Keyed)
include keyed

theorem parse_identifierOf : Identifier.parse entity.key (entity.identifierOf row) =
    .ok (entity.key.map fun name => (name, keyText (valueAt row name))) := by
  have free : ∀ text ∈ ((Key.of entity.spec row).map keyText).dropLast, '_' ∉ text.toList := by
    intro text inFront
    rw [Key.of, List.map_map, ← List.map_dropLast] at inFront
    obtain ⟨name, inKey, rfl⟩ := List.mem_map.mp inFront
    obtain ⟨column, found, strict, integer⟩ := keyed.front name inKey
    exact underscore_not_mem_keyText (integer ▸ stores_of_column? distinct holds found strict)
  rw [identifierOf, Identifier.parse_join keyed.nonempty (by simp [Key.of, spec]) free]
  have paired : (entity.key.map id).zip (entity.key.map fun name => keyText (valueAt row name)) =
      entity.key.map fun name => (name, keyText (valueAt row name)) := List.zip_map'
  rw [List.map_id] at paired
  rw [Key.of, List.map_map]
  exact congrArg Except.ok paired

variable (otherHolds : entity.spec.Holds other)
include otherHolds

/-- Under a key column two rows have values in the storage form of one kind. -/
theorem exists_keyColumn {name : String} (inKey : name ∈ entity.key) :
    ∃ column, entity.spec.column? name = some column ∧ column.kind ∈ namingKinds ∧
      column.kind.Stores (valueAt row name) ∧ column.kind.Stores (valueAt other name) := by
  obtain ⟨column, found, strict, naming⟩ := keyed.column name inKey
  exact ⟨column, found, naming, stores_of_column? distinct holds found strict,
    stores_of_column? distinct otherHolds found strict⟩

/-- A row has what is asked for if and only if it has the same key. -/
theorem satisfies_keyQuery :
    satisfies entity.spec (entity.keyQuery row).predicates other = true ↔
      Key.of entity.spec other = Key.of entity.spec row := by
  rw [satisfies, keyQuery, List.all_eq_true, List.forall_mem_map, Key.of, Key.of,
    List.map_inj_left]
  refine forall₂_congr fun name inKey => ?_
  obtain ⟨column, found, naming, stores, otherStores⟩ :=
    exists_keyColumn distinct holds keyed otherHolds inKey
  rw [holds_equals_iff found (.stored otherStores), readLiteral?_keyText naming stores,
    Option.some.injEq, eq_comm]

/-- Rows that an identifier asks for have the same key. -/
theorem key_eq_of_satisfies {id : String} {identifier : Identifier}
    (parsed : Identifier.parse entity.key id = .ok identifier)
    (satisfied : satisfies entity.spec identifier.predicates row = true)
    (otherSatisfied : satisfies entity.spec identifier.predicates other = true) :
    Key.of entity.spec other = Key.of entity.spec row := by
  rw [Key.of, Key.of, List.map_inj_left]
  intro name inKey
  obtain ⟨column, found, -, stores, otherStores⟩ :=
    exists_keyColumn distinct holds keyed otherHolds inKey
  obtain ⟨text, part⟩ : ∃ text, (name, text) ∈ identifier := by
    have inNames : name ∈ identifier.map Prod.fst := Identifier.names_of_parse parsed ▸ inKey
    simpa using inNames
  -- Both values are what the text of the part stands for.
  have asked : Predicate.equals name text ∈ identifier.predicates := List.mem_map_of_mem part
  have held := List.all_eq_true.mp satisfied _ asked
  have otherHeld := List.all_eq_true.mp otherSatisfied _ asked
  have read := (holds_equals_iff found (.stored stores)).mp held
  have otherRead := (holds_equals_iff found (.stored otherStores)).mp otherHeld
  exact Option.some.inj (otherRead.symm.trans read)

theorem key_same_iff : (Key.of entity.spec other).same (Key.of entity.spec row) = true ↔
    Key.of entity.spec other = Key.of entity.spec row := by
  have noReals (stored : Row) (storedHolds : entity.spec.Holds stored) :
      (Key.of entity.spec stored).NoReals := by
    intro value inKey
    obtain ⟨name, named, rfl⟩ := List.mem_map.mp inKey
    obtain ⟨column, found, -, -⟩ := keyed.column name named
    obtain ⟨inSpec, rfl⟩ := Spec.mem_of_column? found
    exact ⟨column, storedHolds.valueAt distinct inSpec, keyed.notReal distinct column inSpec named⟩
  exact (noReals row holds).same_iff (noReals other otherHolds)

/-- Rows with different keys have different identifiers. -/
theorem key_eq_of_identifierOf_eq (same : entity.identifierOf other = entity.identifierOf row) :
    Key.of entity.spec other = Key.of entity.spec row := by
  have parsed := parse_identifierOf distinct otherHolds keyed
  rw [same, parse_identifierOf distinct holds keyed] at parsed
  rw [Key.of, Key.of, List.map_inj_left]
  intro name inKey
  have sameText : keyText (valueAt row name) = keyText (valueAt other name) :=
    (Prod.mk.inj (List.map_inj_left.mp (Except.ok.inj parsed) name inKey)).2
  obtain ⟨column, -, naming, stores, otherStores⟩ :=
    exists_keyColumn distinct holds keyed otherHolds inKey
  have read := readLiteral?_keyText naming stores
  rw [sameText, readLiteral?_keyText naming otherStores] at read
  exact Option.some.inj read

end

end Entity

/-! ## Reading -/

namespace Identifier

variable {fields : List String} {id : String} {identifier : Identifier}

theorem single_or_several (nonempty : fields ≠ []) :
    (∃ field, fields = [field]) ∨ 2 ≤ fields.length := by
  have positive := List.length_pos_iff.mpr nonempty
  rw [← List.length_eq_one_iff]
  omega

/-- With several key fields a text parses if and only if it is cut into as many parts. -/
theorem parse_several_eq_ok (several : 2 ≤ fields.length) :
    parse fields id = .ok identifier ↔
      (Text.splitAtMost '_' fields.length id.toList).length = fields.length ∧
        identifier = fields.zip
          ((Text.splitAtMost '_' fields.length id.toList).map String.ofList) := by
  unfold parse
  split
  case h_1 => simp at several
  case h_2 =>
      dsimp only
      split
      case isTrue sameLength => simp [sameLength, eq_comm]
      case isFalse otherLength => simp [otherLength]

/-- A text parses for one field, or if it has an underscore for each field but one. -/
theorem exists_parse_iff (nonempty : fields ≠ []) :
    (∃ identifier, parse fields id = .ok identifier) ↔
      fields.length = 1 ∨ fields.length - 1 ≤ id.toList.count '_' := by
  rcases single_or_several nonempty with ⟨field, rfl⟩ | several
  · exact iff_of_true ⟨_, rfl⟩ (.inl rfl)
  · simp only [parse_several_eq_ok several, exists_and_left, exists_eq, and_true,
      Text.length_splitAtMost]
    omega

/-- The values of an identifier, joined by underscores, are the text that it was parsed from. -/
theorem join_of_parse (nonempty : fields ≠ []) (parsed : parse fields id = .ok identifier) :
    (∀ part ∈ identifier.dropLast, '_' ∉ part.2.toList) ∧
      Text.join "_" (identifier.map Prod.snd) = id := by
  rcases single_or_several nonempty with ⟨field, rfl⟩ | several
  · cases parsed
    simp [Text.join, Text.joinWith]
  · obtain ⟨sameLength, rfl⟩ := (parse_several_eq_ok several).mp parsed
    obtain ⟨most, bound⟩ : ∃ most, fields.length = most + 1 := ⟨fields.length - 1, by omega⟩
    have values : (fields.zip
        ((Text.splitAtMost '_' fields.length id.toList).map String.ofList)).map Prod.snd =
          (Text.splitAtMost '_' (most + 1) id.toList).map String.ofList := by
      rw [List.map_snd_zip (by rw [List.length_map, sameLength]), bound]
    refine ⟨fun part inFront => ?_, ?_⟩
    · have inValues := List.mem_map_of_mem inFront (f := Prod.snd)
      rw [List.map_dropLast, values, ← List.map_dropLast] at inValues
      obtain ⟨value, inParts, same⟩ := List.mem_map.mp inValues
      rw [← same, String.toList_ofList]
      exact Text.not_mem_of_mem_dropLast_splitAtMost value inParts
    · have texts : ((Text.splitAtMost '_' (most + 1) id.toList).map String.ofList).map
          String.toList = Text.splitAtMost '_' (most + 1) id.toList := by
        simp [Function.comp_def]
      have joined := Text.joinWith_splitAtMost '_' most id.toList
      rw [values, Text.join, texts]
      exact (congrArg String.ofList joined).trans String.ofList_toList

/--
For one key field every text is an identifier, and for several ones a text with at least as many
underscores as there are fields behind the first. The identifier names the fields in order; of its
values only the last one may hold an underscore; and joined by underscores they are the text again.
The other way round, values of which only the last one may hold an underscore are what their join
parses into.
-/
theorem parse_lossless (nonempty : fields ≠ []) :
    (∀ id, (∃ identifier, parse fields id = .ok identifier) ↔
      fields.length = 1 ∨ fields.length - 1 ≤ id.toList.count '_') ∧
    (∀ id identifier, parse fields id = .ok identifier →
      identifier.map Prod.fst = fields ∧ (∀ part ∈ identifier.dropLast, '_' ∉ part.2.toList) ∧
        Text.join "_" (identifier.map Prod.snd) = id) ∧
    ∀ values, values.length = fields.length →
      (∀ value ∈ values.dropLast, '_' ∉ value.toList) →
      parse fields (Text.join "_" values) = .ok (fields.zip values) := by
  refine ⟨fun id => exists_parse_iff nonempty, fun id identifier parsed => ?_,
    fun values sameLength free => parse_join nonempty sameLength free⟩
  exact ⟨names_of_parse parsed, join_of_parse nonempty parsed⟩

/-- The key of a tag whose name starts with an underscore; a text with one underscore is no such
key. -/
theorem parse_lossless_tag :
    let fields := ["user", "movie", "name"]
    let identifier : Identifier := [("user", "1"), ("movie", "2"), ("name", "_based_on")]
    parse fields "1_2__based_on" = .ok identifier ∧
      Text.join "_" (identifier.map Prod.snd) = "1_2__based_on" ∧
      ¬ ∃ identifier, parse fields "1_2" = .ok identifier := by
  intro fields identifier
  obtain ⟨parses, joins, undone⟩ := parse_lossless (List.cons_ne_nil _ _ : fields ≠ [])
  have free : ∀ value ∈ ["1", "2", "_based_on"].dropLast, '_' ∉ value.toList := by decide
  have joined : Text.join "_" ["1", "2", "_based_on"] = "1_2__based_on" := by decide +kernel
  have parsed : parse fields "1_2__based_on" = .ok identifier :=
    joined ▸ undone ["1", "2", "_based_on"] rfl free
  have tooFew : ¬ (fields.length = 1 ∨ fields.length - 1 ≤ "1_2".toList.count '_') := by decide
  exact ⟨parsed, (joins _ _ parsed).2.2, (parses "1_2").not.mpr tooFew⟩

end Identifier

end MovieCatalogue.Record

import MovieCatalogue.Proofs.Json.RoundTrip
import MovieCatalogue.Proofs.Members
import MovieCatalogue.Proofs.Number.Finite

/-!
Contract: the numbers of JSON values that were read.

Owns: `InRange`, the values whose integers have at most 64 bits and whose floating-point
numbers are finite; and that every text that is read gives such a value.
Does not own: what the value is; see `Proofs.Json.RoundTrip`.
-/

namespace MovieCatalogue.Json

open MovieCatalogue.Number MovieCatalogue.Refusal

/-- All numbers of a value are ones that a text may stand for. -/
inductive InRange : Json → Prop
  | null : InRange .null
  | bool (b : Bool) : InRange (.bool b)
  | int {n : Int} (bounded : n.natAbs ≤ maxWord) : InRange (.int n)
  | real {x : Binary64} (finite : x.isFinite = true) : InRange (.real x)
  | string (s : String) : InRange (.string s)
  | array {items : List Json} (each : ∀ item ∈ items, InRange item) : InRange (.array items)
  | object {members : Fields Json} (each : ∀ member ∈ members, InRange member.2) :
      InRange (.object members)

/-! ## Numbers -/

theorem value_append_le {start : Nat} (bounded : start ≤ maxWord) (ds : List Char) :
    (Significand.append start ds).value ≤ maxWord := by
  have kept (acc : Significand) (small : acc.value ≤ maxWord) :
      (ds.foldl (fun acc d =>
        let next := acc.value * 10 + digitValue d
        if acc.dropped = 0 ∧ next ≤ maxWord then ⟨next, 0⟩ else ⟨acc.value, acc.dropped + 1⟩)
        acc).value ≤ maxWord := by
    induction ds generalizing acc with
    | nil => exact small
    | cons d ds inductionHypothesis =>
        refine inductionHypothesis _ ?_
        dsimp only
        split
        case isTrue fits => exact fits.2
        case isFalse => exact small
  exact kept ⟨start, 0⟩ bounded

theorem inRange_of_real? {parts : NumberParts} {json : Json} (found : parts.real? = some json) :
    json.InRange := by
  obtain ⟨x, combined, rfl⟩ := Option.map_eq_some_iff.mp found
  have whole := value_append_le (Nat.zero_le _) parts.whole
  exact .real (isFinite_of_fromParts? (value_append_le whole _) combined)

theorem inRange_of_value? {parts : NumberParts} {json : Json} (found : parts.value? = some json) :
    json.InRange := by
  unfold NumberParts.value? at found
  dsimp only at found
  split at found
  · exact inRange_of_real? found
  · split at found
    · exact inRange_of_real? found
    · split at found
      · cases found
        exact .int (by omega)
      · split at found
        · exact inRange_of_real? found
        · cases found
          exact .int (by omega)

theorem inRange_of_readNumber {cs rest : List Char} {json : Json}
    (read : readNumber cs = .ok (json, rest)) : json.InRange := by
  unfold readNumber at read
  split at read
  · cases read
  · split at read
    case h_1 value found =>
        cases read
        exact inRange_of_value? found
    case h_2 => cases read

/-! ## Values -/

/-- What is read with some fuel is in range: values, items and members. -/
structure Reads (fuel : Nat) : Prop where
  value : ∀ {levels : Nat} {cs rest : List Char} {json : Json},
    readValue fuel levels cs = .ok (json, rest) → json.InRange
  items : ∀ {levels : Nat} {cs rest : List Char} {items : List Json},
    readItems fuel levels cs = .ok (items, rest) → ∀ item ∈ items, item.InRange
  members : ∀ {levels : Nat} {cs rest : List Char} {members : Fields Json},
    readMembers fuel levels cs = .ok (members, rest) → ∀ member ∈ members, member.2.InRange

variable {fuel levels : Nat} {cs rest : List Char}

private theorem value_succ (reads : Reads fuel) {json : Json}
    (read : readValue (fuel + 1) levels cs = .ok (json, rest)) : json.InRange := by
  rw [readValue] at read
  split at read
  · cases read
  · exact eq_of_readWord read ▸ .null
  · exact eq_of_readWord read ▸ .bool true
  · exact eq_of_readWord read ▸ .bool false
  · obtain ⟨found, -, built⟩ := map_eq_ok.mp read
    cases built
    exact .string _
  · split at read
    · cases read
    · split at read
      · cases read
        exact .array (by simp)
      · obtain ⟨found, readAll, built⟩ := map_eq_ok.mp read
        cases built
        exact .array (reads.items readAll)
  · split at read
    · cases read
    · split at read
      · cases read
        exact .object (by simp)
      · obtain ⟨found, readAll, built⟩ := map_eq_ok.mp read
        cases built
        exact .object (reads.members readAll)
  · split at read
    · exact inRange_of_readNumber read
    · cases read

private theorem items_succ (reads : Reads fuel) {items : List Json}
    (read : readItems (fuel + 1) levels cs = .ok (items, rest)) : ∀ item ∈ items, item.InRange := by
  rw [readItems] at read
  obtain ⟨⟨item, tail⟩, readFirst, read⟩ := bind_eq_ok.mp read
  have first := reads.value readFirst
  dsimp only at read
  split at read
  · obtain ⟨⟨others, after⟩, readRest, built⟩ := bind_eq_ok.mp read
    cases built
    exact List.forall_mem_cons.mpr ⟨first, reads.items readRest⟩
  · cases read
    exact List.forall_mem_singleton.mpr first
  · cases read
  · cases read

private theorem members_succ (reads : Reads fuel) {members : Fields Json}
    (read : readMembers (fuel + 1) levels cs = .ok (members, rest)) :
    ∀ member ∈ members, member.2.InRange := by
  rw [readMembers] at read
  split at read
  · cases read
  · obtain ⟨⟨name, tail⟩, -, read⟩ := bind_eq_ok.mp read
    dsimp only at read
    split at read
    · obtain ⟨⟨value, tail⟩, readFirst, read⟩ := bind_eq_ok.mp read
      have first := reads.value readFirst
      dsimp only at read
      split at read
      · obtain ⟨⟨others, after⟩, readRest, built⟩ := bind_eq_ok.mp read
        cases built
        exact List.forall_mem_cons.mpr ⟨first, reads.members readRest⟩
      · cases read
        exact List.forall_mem_singleton.mpr first
      · cases read
      · cases read
    · cases read
    · cases read
  · cases read

theorem reads (fuel : Nat) : Reads fuel := by
  induction fuel with
  | zero => exact ⟨nofun, nofun, nofun⟩
  | succ fuel inductionHypothesis =>
      exact ⟨value_succ inductionHypothesis, items_succ inductionHypothesis,
        members_succ inductionHypothesis⟩

/-! ## One member for each name -/

private theorem collapseItems_eq_map (items : List Json) : collapseItems items = items.map collapse := by
  induction items with
  | nil => rfl
  | cons item items inductionHypothesis => rw [collapseItems, inductionHypothesis, List.map_cons]

private theorem collapseMembers_eq_map (members : Fields Json) :
    collapseMembers members = members.map fun member => (member.1, collapse member.2) := by
  induction members with
  | nil => rfl
  | cons member members inductionHypothesis =>
      rw [collapseMembers, inductionHypothesis, List.map_cons]

theorem InRange.collapse {json : Json} (inRange : json.InRange) : json.collapse.InRange := by
  induction inRange with
  | null => exact .null
  | bool b => exact .bool b
  | int bounded => exact .int bounded
  | real finite => exact .real finite
  | string s => exact .string s
  | array _ inductionHypothesis =>
      rw [Json.collapse, collapseItems_eq_map]
      exact .array (List.forall_mem_map.mpr inductionHypothesis)
  | object _ inductionHypothesis =>
      rw [Json.collapse, collapseMembers_eq_map]
      refine .object fun member inCollapse => ?_
      obtain ⟨written, inMembers, rfl⟩ := List.mem_map.mp (Fields.mem_of_mem_collapse inCollapse)
      exact inductionHypothesis written inMembers

/-! ## Texts -/

/-- A text stands for a value in range. -/
theorem inRange_of_ofText {s : String} {json : Json} (read : ofText s = .ok json) : json.InRange := by
  obtain ⟨written, readAll, rfl⟩ := map_eq_ok.mp read
  obtain ⟨⟨value, rest⟩, readValue, atEnd⟩ := bind_eq_ok.mp (mapError_eq_ok.mp readAll)
  dsimp only at atEnd
  split at atEnd
  · cases atEnd
    exact ((reads _).value readValue).collapse
  · cases atEnd

private theorem chosen_inRange {chosen : List String} {members : Fields Json}
    (read : readChosen chosen fuel levels cs = .ok (members, rest)) :
    ∀ member ∈ members, member.2.InRange := by
  induction fuel generalizing cs members with
  | zero => cases read
  | succ fuel inductionHypothesis =>
      rw [readChosen] at read
      split at read
      · cases read
      · obtain ⟨⟨name, tail⟩, -, read⟩ := bind_eq_ok.mp read
        dsimp only at read
        split at read
        · split at read
          case' isTrue =>
            obtain ⟨found, readFirst, read⟩ := bind_eq_ok.mp read
            have first : ∀ member ∈ found.1, member.2.InRange := by
              obtain ⟨value, readValue, rfl⟩ := map_eq_ok.mp readFirst
              exact List.forall_mem_singleton.mpr ((reads fuel).value readValue)
          case' isFalse =>
            obtain ⟨found, skipped, read⟩ := bind_eq_ok.mp read
            have first : ∀ member ∈ found.1, member.2.InRange := by
              obtain ⟨after, -, rfl⟩ := map_eq_ok.mp skipped
              exact List.forall_mem_nil _
          -- What follows is read in the same way behind a chosen member and behind a skipped one.
          all_goals
            split at read
            · obtain ⟨⟨others, after⟩, readRest, built⟩ := bind_eq_ok.mp read
              cases built
              exact List.forall_mem_append.mpr ⟨first, inductionHypothesis readRest⟩
            · cases read
              exact first
            · cases read
            · cases read
        · cases read
        · cases read
      · cases read

/-- The chosen members of a text have values in range. -/
theorem inRange_of_ofTextChoosing {chosen : List String} {s : String} {json : Json}
    (read : ofTextChoosing chosen s = .ok json) : json.InRange := by
  obtain ⟨⟨value, rest⟩, readOutline, atEnd⟩ := bind_eq_ok.mp (mapError_eq_ok.mp read)
  have inRange : value.InRange := by
    unfold Json.readOutline at readOutline
    split at readOutline
    · split at readOutline
      · cases readOutline
        exact .object (by simp)
      · obtain ⟨found, readMembers, built⟩ := map_eq_ok.mp readOutline
        cases built
        exact .object (chosen_inRange readMembers)
    · exact (reads _).value readOutline
  dsimp only at atEnd
  split at atEnd
  · cases atEnd
    exact inRange
  · cases atEnd

end MovieCatalogue.Json

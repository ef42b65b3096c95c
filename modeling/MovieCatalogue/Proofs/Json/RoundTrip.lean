import Mathlib.Data.List.DropRight
import MovieCatalogue.Json.Selection
import MovieCatalogue.Proofs.Json.Escape
import MovieCatalogue.Proofs.Json.Number
import MovieCatalogue.Proofs.Refusal

/-!
Contract: JSON values that are written and read again.

Owns: `Fits`, the values whose pretty form the reader takes: their nesting is allowed,
their integers are words, and their floating-point numbers are among those that are read
as they were written; and that each of them reads back from its pretty form.
Does not own: which floating-point numbers these are.
-/

namespace MovieCatalogue.Json

open MovieCatalogue.Number MovieCatalogue.Refusal

/-- A floating-point number is read from its text. -/
def Rereads (x : Binary64) : Prop :=
  ofText (compact (.real x)) = .ok (.real x)

instance (x : Binary64) : Decidable (Rereads x) :=
  match read : ofText (compact (.real x)) with
  | .ok (.real y) => decidable_of_iff (y = x) (by simp [Rereads, read])
  | .ok .null | .ok (.bool _) | .ok (.int _) | .ok (.string _) | .ok (.array _)
  | .ok (.object _) | .error _ => isFalse (by simp [Rereads, read])

mutual

/-- Whether a value can be read from its written form at `levels` levels of nesting. -/
def Fits (levels : Nat) : Json → Prop
  | .null | .bool _ | .string _ => True
  | .int n => minInt64 ≤ n ∧ n ≤ maxInt64
  | .real x => Rereads x
  | .array items =>
    match levels with
    | 0 => False
    | levels + 1 => FitItems levels items
  | .object members =>
    match levels with
    | 0 => False
    | levels + 1 => FitMembers levels members

/-- Whether all items can be read. -/
def FitItems (levels : Nat) : List Json → Prop
  | [] => True
  | item :: items => Fits levels item ∧ FitItems levels items

/-- Whether the values of all members can be read. -/
def FitMembers (levels : Nat) : List (String × Json) → Prop
  | [] => True
  | (_, value) :: members => Fits levels value ∧ FitMembers levels members

end

theorem fitItems_iff {levels : Nat} {items : List Json} :
    FitItems levels items ↔ ∀ item ∈ items, Fits levels item := by
  induction items with
  | nil => simp [FitItems]
  | cons item others inductionHypothesis =>
      rw [FitItems, inductionHypothesis, List.forall_mem_cons]

theorem fitMembers_iff {levels : Nat} {members : Fields Json} :
    FitMembers levels members ↔ ∀ member ∈ members, Fits levels member.2 := by
  induction members with
  | nil => simp [FitMembers]
  | cons member others inductionHypothesis =>
      rw [FitMembers, inductionHypothesis, List.forall_mem_cons]

/-! ## Gaps -/

theorem skipGap_cons {c : Char} (cs : List Char) (visible : isGap c = false) :
    skipGap (c :: cs) = c :: cs := by
  simp [skipGap, visible]

theorem skipGap_of_gaps {gaps : List Char} (all : ∀ c ∈ gaps, isGap c = true) (cs : List Char) :
    skipGap (gaps ++ cs) = skipGap cs := by
  exact List.dropWhile_append_of_pos all

theorem skipGap_newLine (level : Nat) (cs : List Char) :
    skipGap ((newLine level).toList ++ cs) = skipGap cs := by
  refine skipGap_of_gaps (fun c member => ?_) cs
  rw [newLine, String.toList_ofList] at member
  rcases List.mem_cons.mp member with rfl | blank
  · rfl
  · rw [List.eq_of_mem_replicate blank]
    rfl

theorem isGap_of_skipGap_eq_nil {cs : List Char} (skipped : skipGap cs = []) :
    ∀ c ∈ cs, isGap c = true :=
  List.dropWhile_eq_nil_iff.mp skipped

theorem skipGap_skipGap (cs : List Char) : skipGap (skipGap cs) = skipGap cs :=
  List.dropWhile_idempotent isGap cs

theorem skipGap_append_of_cons {cs tail : List Char} {c : Char} (skipped : skipGap cs = c :: tail)
    (rest : List Char) : skipGap (cs ++ rest) = c :: (tail ++ rest) := by
  unfold skipGap at skipped ⊢
  rw [List.dropWhile_append, skipped]
  rfl

theorem isGap_of_number {c : Char} (number : c = '-' ∨ isDigit c = true) : isGap c = false := by
  rw [← Bool.not_eq_true]
  intro gap
  simp only [isGap, Bool.or_eq_true, beq_iff_eq] at gap
  rcases gap with ((rfl | rfl) | rfl) | rfl <;> exact absurd number (by decide)

/-! ## Values without parts -/

/-- What is read does not hang on the gap in front of it. -/
private theorem readValue_of_skipGap_eq {cs text : List Char} (fuel levels : Nat)
    (same : skipGap cs = skipGap text) :
    readValue (fuel + 1) levels cs = readValue (fuel + 1) levels text := by
  rw [readValue, readValue, same]

/-- A text that starts with a sign or a digit is read as a number. -/
theorem readValue_number {cs tail : List Char} {c : Char} (fuel levels : Nat)
    (skipped : skipGap cs = c :: tail) (number : c = '-' ∨ isDigit c = true) :
    readValue (fuel + 1) levels cs = readNumber (c :: tail) := by
  have different {d : Char} {rest : List Char} (other : ¬ (d = '-' ∨ isDigit d = true))
      (same : c :: tail = d :: rest) : False := by
    cases same
    exact other number
  rw [readValue, skipped]
  split
  case h_1 impossible => cases impossible
  case h_2 same => exact (different (by decide) same).elim
  case h_3 same => exact (different (by decide) same).elim
  case h_4 same => exact (different (by decide) same).elim
  case h_5 same => exact (different (by decide) same).elim
  case h_6 same => exact (different (by decide) same).elim
  case h_7 same => exact (different (by decide) same).elim
  case h_8 same =>
      cases same
      rw [if_pos number]

theorem eq_real_of_collapse {json : Json} {x : Binary64} (collapsed : collapse json = .real x) :
    json = .real x := by
  cases json <;> simp_all [collapse]

theorem eq_of_readWord {word cs after : List Char} {value json : Json}
    (read : readWord word value cs = .ok (json, after)) : json = value := by
  unfold readWord at read
  split at read
  · cases read
    rfl
  · cases read

/-- A text that is read as a floating-point number starts with a sign or a digit. -/
private theorem number_of_readValue {cs after : List Char} {x : Binary64} {fuel levels : Nat}
    (read : readValue fuel levels cs = .ok (.real x, after)) :
    ∃ c tail, skipGap cs = c :: tail ∧ (c = '-' ∨ isDigit c = true) ∧
      readNumber (c :: tail) = .ok (.real x, after) := by
  cases fuel with
  | zero => simp [readValue] at read
  | succ fuel =>
      rw [readValue] at read
      split at read
      case h_1 => cases read
      case h_2 => cases eq_of_readWord read
      case h_3 => cases eq_of_readWord read
      case h_4 => cases eq_of_readWord read
      case h_5 =>
          obtain ⟨_, -, impossible⟩ := map_eq_ok.mp read
          cases impossible
      case h_6 =>
          split at read
          · cases read
          · split at read
            · cases read
            · obtain ⟨_, -, impossible⟩ := map_eq_ok.mp read
              cases impossible
      case h_7 =>
          split at read
          · cases read
          · split at read
            · cases read
            · obtain ⟨_, -, impossible⟩ := map_eq_ok.mp read
              cases impossible
      case h_8 c tail _ _ _ _ _ _ skipped =>
          split at read
          case isTrue number => exact ⟨c, tail, skipped, number, read⟩
          case isFalse => cases read

/-- A floating-point number that is read from its text is read in front of closed text, too. -/
theorem readValue_real {x : Binary64} (rereads : Rereads x) {cs rest : List Char}
    (closed : Closed rest) (fuel levels : Nat)
    (same : skipGap cs = skipGap ((realText x).toList ++ rest)) :
    ∃ after, readValue (fuel + 1) levels cs = .ok (.real x, after) ∧
      skipGap after = skipGap rest := by
  obtain ⟨json, read, collapsed⟩ := map_eq_ok.mp rereads
  cases eq_real_of_collapse collapsed
  obtain ⟨⟨found, gaps⟩, readFirst, atEnd⟩ := bind_eq_ok.mp (mapError_eq_ok.mp read)
  have shape : found = .real x ∧ skipGap gaps = [] := by
    dsimp only at atEnd
    split at atEnd
    case h_1 skipped =>
        cases atEnd
        exact ⟨rfl, skipped⟩
    case h_2 => cases atEnd
  obtain ⟨rfl, onlyGaps⟩ := shape
  obtain ⟨c, tail, skipped, number, readNumber⟩ := number_of_readValue readFirst
  have skippedAll : skipGap cs = c :: (tail ++ rest) :=
    same.trans (skipGap_append_of_cons skipped rest)
  refine ⟨gaps ++ rest, ?_, skipGap_of_gaps (isGap_of_skipGap_eq_nil onlyGaps) rest⟩
  rw [readValue_number fuel levels skippedAll number, ← List.cons_append]
  exact readNumber_append closed (List.cons_ne_nil _ _) readNumber

private theorem exists_intChars_eq_cons (n : Int) :
    ∃ c tail, intChars n = c :: tail ∧ (c = '-' ∨ isDigit c = true) := by
  unfold intChars
  split
  · exact ⟨'-', _, rfl, .inl rfl⟩
  · obtain ⟨c, tail, shape⟩ := List.exists_cons_of_ne_nil (digits_ne_nil n.natAbs)
    refine ⟨c, tail, shape, .inr ?_⟩
    exact List.all_eq_true.mp (all_isDigit_digits n.natAbs) c (shape ▸ List.mem_cons_self)

theorem readValue_int {n : Int} (lower : minInt64 ≤ n) (upper : n ≤ maxInt64)
    {cs rest : List Char} (closed : Closed rest) (fuel levels : Nat)
    (same : skipGap cs = skipGap ((intText n).toList ++ rest)) :
    readValue (fuel + 1) levels cs = .ok (.int n, rest) := by
  rw [intText, String.toList_ofList] at same
  have read := readNumber_intChars lower upper closed
  obtain ⟨c, tail, shape, number⟩ := exists_intChars_eq_cons n
  rw [shape, List.cons_append] at same read
  rw [skipGap_cons _ (isGap_of_number number)] at same
  rw [readValue_number fuel levels same number, read]

private theorem readWord_append (word : List Char) (value : Json) (rest : List Char) :
    readWord word value (word ++ rest) = .ok (value, rest) := by
  rw [readWord, Text.stripStart?_append]

theorem readValue_null {cs rest : List Char} (fuel levels : Nat)
    (same : skipGap cs = skipGap ("null".toList ++ rest)) :
    readValue (fuel + 1) levels cs = .ok (.null, rest) := by
  rw [readValue_of_skipGap_eq fuel levels same]
  exact readWord_append ['u', 'l', 'l'] .null rest

theorem readValue_bool {b : Bool} {cs rest : List Char} (fuel levels : Nat)
    (same : skipGap cs = skipGap ((scalarText (.bool b)).toList ++ rest)) :
    readValue (fuel + 1) levels cs = .ok (.bool b, rest) := by
  rw [readValue_of_skipGap_eq fuel levels same]
  cases b with
  | true => exact readWord_append ['r', 'u', 'e'] (.bool true) rest
  | false => exact readWord_append ['a', 'l', 's', 'e'] (.bool false) rest

theorem readValue_string {s : String} {cs rest : List Char} (fuel levels : Nat)
    (same : skipGap cs = skipGap ((stringText s).toList ++ rest)) :
    readValue (fuel + 1) levels cs = .ok (.string s, rest) := by
  rw [toList_stringText, List.cons_append, List.append_assoc, List.singleton_append] at same
  rw [readValue_of_skipGap_eq fuel levels same]
  refine map_eq_ok.mpr ⟨_, readString_escaped s.toList rest, ?_⟩
  dsimp only
  rw [String.ofList_toList]

/-! ## Items and members -/

section Part

variable {name : String} {value item : Json} {items : List Json} {members : List (String × Json)}
  {fuel levels : Nat} {cs text after others rest : List Char}

private theorem readItems_last (read : readValue fuel levels cs = .ok (item, after))
    (ends : skipGap after = ']' :: rest) :
    readItems (fuel + 1) levels cs = .ok ([item], rest) := by
  refine bind_eq_ok.mpr ⟨(item, after), read, ?_⟩
  dsimp only
  rw [ends]
  rfl

private theorem readItems_more (read : readValue fuel levels cs = .ok (item, after))
    (goesOn : skipGap after = ',' :: others)
    (readOthers : readItems fuel levels others = .ok (items, rest)) :
    readItems (fuel + 1) levels cs = .ok (item :: items, rest) := by
  refine bind_eq_ok.mpr ⟨(item, after), read, ?_⟩
  dsimp only
  rw [goesOn]
  exact bind_eq_ok.mpr ⟨(items, rest), readOthers, rfl⟩

private theorem readMembers_last
    (start : skipGap cs = '"' :: (name.toList.flatMap escapedChar ++ '"' :: ':' :: text))
    (read : readValue fuel levels text = .ok (value, after))
    (ends : skipGap after = '\x7d' :: rest) :
    readMembers (fuel + 1) levels cs = .ok ([(name, value)], rest) := by
  rw [readMembers, start]
  refine bind_eq_ok.mpr ⟨_, readString_escaped name.toList (':' :: text), ?_⟩
  refine bind_eq_ok.mpr ⟨(value, after), read, ?_⟩
  dsimp only
  rw [ends, String.ofList_toList]
  rfl

private theorem readMembers_more
    (start : skipGap cs = '"' :: (name.toList.flatMap escapedChar ++ '"' :: ':' :: text))
    (read : readValue fuel levels text = .ok (value, after))
    (goesOn : skipGap after = ',' :: others)
    (readOthers : readMembers fuel levels others = .ok (members, rest)) :
    readMembers (fuel + 1) levels cs = .ok ((name, value) :: members, rest) := by
  rw [readMembers, start]
  refine bind_eq_ok.mpr ⟨_, readString_escaped name.toList (':' :: text), ?_⟩
  refine bind_eq_ok.mpr ⟨(value, after), read, ?_⟩
  dsimp only
  rw [goesOn, String.ofList_toList]
  exact bind_eq_ok.mpr ⟨(members, rest), readOthers, rfl⟩

/-- No item starts with a closing bracket. -/
private theorem readItems_bracket (fuel levels : Nat) (after : List Char) :
    ∃ fault, readItems fuel levels (']' :: after) = .error fault := by
  match fuel with
  | 0 => exact ⟨⟨.endOfText, ']' :: after⟩, rfl⟩
  | 1 => exact ⟨⟨.endOfText, ']' :: after⟩, rfl⟩
  | fuel + 2 => exact ⟨⟨.expectedValue, ']' :: after⟩, rfl⟩

/-- No member starts with a closing brace. -/
private theorem readMembers_brace (fuel levels : Nat) (after : List Char) :
    ∃ fault, readMembers fuel levels ('\x7d' :: after) = .error fault := by
  cases fuel with
  | zero => exact ⟨⟨.endOfText, '\x7d' :: after⟩, rfl⟩
  | succ fuel => exact ⟨⟨.expectedName, '\x7d' :: after⟩, rfl⟩

private theorem readValue_items (start : skipGap cs = '[' :: text)
    (read : readItems fuel levels (skipGap text) = .ok (items, rest)) :
    readValue (fuel + 1) (levels + 1) cs = .ok (.array items, rest) := by
  rw [readValue, start]
  simp only
  split
  case h_1 after closing =>
      obtain ⟨fault, refused⟩ := readItems_bracket fuel levels after
      rw [closing, refused] at read
      cases read
  case h_2 => exact map_eq_ok.mpr ⟨_, read, rfl⟩

private theorem readValue_members (start : skipGap cs = '\x7b' :: text)
    (read : readMembers fuel levels (skipGap text) = .ok (members, rest)) :
    readValue (fuel + 1) (levels + 1) cs = .ok (.object members, rest) := by
  rw [readValue, start]
  simp only
  split
  case h_1 after closing =>
      obtain ⟨fault, refused⟩ := readMembers_brace fuel levels after
      rw [closing, refused] at read
      cases read
  case h_2 => exact map_eq_ok.mpr ⟨_, read, rfl⟩

end Part

/-! ## All values -/

private theorem closed_newLine (level : Nat) (rest : List Char) :
    Closed ((newLine level).toList ++ rest) := by
  rw [newLine, String.toList_ofList]
  exact closed_cons _ (by decide)

private theorem prettyAt_null (level : Nat) : prettyAt level .null = "null" := rfl

private theorem prettyAt_bool (level : Nat) (b : Bool) :
    prettyAt level (.bool b) = scalarText (.bool b) := rfl

private theorem prettyAt_int (level : Nat) (n : Int) : prettyAt level (.int n) = intText n := rfl

private theorem prettyAt_real (level : Nat) (x : Binary64) :
    prettyAt level (.real x) = realText x := rfl

private theorem prettyAt_string (level : Nat) (s : String) :
    prettyAt level (.string s) = stringText s := rfl

private theorem toList_prettyAt_items (level : Nat) (item : Json) (items : List Json) :
    (prettyAt level (.array (item :: items))).toList =
      '[' :: ((prettyItems (level + 1) (item :: items)).toList ++
        ((newLine level).toList ++ [']'])) := by
  have bracket : "[".toList = ['['] := rfl
  have closing : "]".toList = [']'] := rfl
  simp [prettyAt, bracket, closing]

private theorem toList_prettyAt_members (level : Nat) (member : String × Json)
    (members : List (String × Json)) :
    (prettyAt level (.object (member :: members))).toList =
      '\x7b' :: ((prettyMembers (level + 1) (member :: members)).toList ++
        ((newLine level).toList ++ ['\x7d'])) := by
  have brace : "\x7b".toList = ['\x7b'] := rfl
  have closing : "\x7d".toList = ['\x7d'] := rfl
  simp [prettyAt, brace, closing]

private theorem length_prettyAt_pos {levels : Nat} (level : Nat) {json : Json}
    (fits : Fits levels json) : 0 < (prettyAt level json).toList.length := by
  rw [List.length_pos_iff]
  intro empty
  cases json with
  | null => simp [prettyAt_null] at empty
  | bool b => cases b <;> simp [prettyAt_bool, scalarText] at empty
  | int n =>
      obtain ⟨c, tail, shape, -⟩ := exists_intChars_eq_cons n
      simp [prettyAt_int, intText, shape] at empty
  | real x =>
      rw [prettyAt_real, String.toList_eq_nil_iff] at empty
      have reread : Rereads x := fits
      have written : compact (.real x) = realText x := by simp [compact, scalarText]
      rw [Rereads, written, empty] at reread
      cases reread
  | string s => simp [prettyAt_string, toList_stringText] at empty
  | array items => cases items <;> simp [prettyAt] at empty
  | object members => cases members <;> simp [prettyAt] at empty

private theorem closed_comma (rest : List Char) : Closed (',' :: rest) :=
  closed_cons rest (by decide)

private theorem skipGap_memberStart (name : String) (level : Nat) (text : List Char) :
    skipGap ((newLine level).toList ++ ((stringText name).toList ++ (": ".toList ++ text))) =
      '"' :: (name.toList.flatMap escapedChar ++ '"' :: ':' :: ' ' :: text) := by
  have colon : ": ".toList = [':', ' '] := rfl
  rw [skipGap_newLine, toList_stringText, List.cons_append, skipGap_cons _ (by decide),
    List.append_assoc, colon]
  rfl

/-- A value that fits is read from its pretty form, at any level of indentation. -/
private def ReadsBack (json : Json) : Prop :=
  ∀ (levels level fuel : Nat) (cs rest : List Char), Fits levels json →
    2 * (prettyAt level json).toList.length ≤ fuel → Closed rest →
    skipGap cs = skipGap ((prettyAt level json).toList ++ rest) →
    ∃ after, readValue fuel levels cs = .ok (json, after) ∧ skipGap after = skipGap rest

private theorem readItems_pretty {items : List Json} (each : ∀ item ∈ items, ReadsBack item)
    {levels level fuel : Nat} {cs tail rest : List Char} (nonempty : items ≠ [])
    (fits : FitItems levels items)
    (enough : 2 * (prettyItems level items).toList.length + 1 ≤ fuel) (closed : Closed tail)
    (ends : skipGap tail = ']' :: rest)
    (same : skipGap cs = skipGap ((prettyItems level items).toList ++ tail)) :
    readItems fuel levels cs = .ok (items, rest) := by
  induction items generalizing fuel cs with
  | nil => exact absurd rfl nonempty
  | cons item others inductionHypothesis =>
      obtain ⟨fuel, rfl⟩ : ∃ less, fuel = less + 1 := ⟨fuel - 1, by omega⟩
      rw [List.forall_mem_cons] at each
      cases others with
      | nil =>
          simp only [prettyItems, String.toList_append, List.append_assoc, List.length_append]
            at same enough
          rw [skipGap_newLine] at same
          obtain ⟨after, read, skipped⟩ :=
            each.1 levels level fuel cs tail fits.1 (by omega) closed same
          exact readItems_last read (skipped.trans ends)
      | cons next others =>
          have comma : ",".toList = [','] := rfl
          simp only [prettyItems, String.toList_append, List.append_assoc, List.length_append,
            comma, List.cons_append, List.nil_append, List.length_cons] at same enough
          rw [skipGap_newLine] at same
          obtain ⟨after, read, skipped⟩ :=
            each.1 levels level fuel cs _ fits.1 (by omega) (closed_comma _) same
          rw [skipGap_cons _ (by decide)] at skipped
          exact readItems_more read skipped (inductionHypothesis each.2 (List.cons_ne_nil _ _) fits.2
            (by omega) rfl)

private theorem readMembers_pretty {members : List (String × Json)}
    (each : ∀ member ∈ members, ReadsBack member.2)
    {levels level fuel : Nat} {cs tail rest : List Char} (nonempty : members ≠ [])
    (fits : FitMembers levels members)
    (enough : 2 * (prettyMembers level members).toList.length + 1 ≤ fuel) (closed : Closed tail)
    (ends : skipGap tail = '\x7d' :: rest)
    (same : skipGap cs = skipGap ((prettyMembers level members).toList ++ tail)) :
    readMembers fuel levels cs = .ok (members, rest) := by
  have blank (text : List Char) : skipGap (' ' :: text) = skipGap text := rfl
  induction members generalizing fuel cs with
  | nil => exact absurd rfl nonempty
  | cons member others inductionHypothesis =>
      obtain ⟨name, value⟩ := member
      obtain ⟨fuel, rfl⟩ : ∃ less, fuel = less + 1 := ⟨fuel - 1, by omega⟩
      obtain ⟨valueReads, othersRead⟩ : ReadsBack value ∧ ∀ member ∈ others, ReadsBack member.2 :=
        List.forall_mem_cons.mp each
      cases others with
      | nil =>
          simp only [prettyMembers, String.toList_append, List.append_assoc, List.length_append]
            at same enough
          rw [skipGap_memberStart] at same
          obtain ⟨after, read, skipped⟩ :=
            valueReads levels level fuel _ tail fits.1 (by omega) closed (blank _)
          exact readMembers_last same read (skipped.trans ends)
      | cons next others =>
          have comma : ",".toList = [','] := rfl
          simp only [prettyMembers, String.toList_append, List.append_assoc, List.length_append,
            comma, List.cons_append, List.nil_append, List.length_cons] at same enough
          rw [skipGap_memberStart] at same
          obtain ⟨after, read, skipped⟩ :=
            valueReads levels level fuel _ _ fits.1 (by omega) (closed_comma _) (blank _)
          rw [skipGap_cons _ (by decide)] at skipped
          exact readMembers_more same read skipped (inductionHypothesis othersRead
            (List.cons_ne_nil _ _) fits.2 (by omega) rfl)

private theorem readsBack_array {items : List Json} (each : ∀ item ∈ items, ReadsBack item) :
    ReadsBack (.array items) := by
  intro levels level fuel cs rest fits enough closed same
  have positive := length_prettyAt_pos level fits
  obtain ⟨fuel, rfl⟩ : ∃ less, fuel = less + 1 := ⟨fuel - 1, by omega⟩
  cases levels with
  | zero => exact fits.elim
  | succ levels =>
      cases items with
      | nil =>
          have brackets : "[]".toList = ['[', ']'] := rfl
          rw [prettyAt, brackets, List.cons_append] at same
          refine ⟨rest, ?_, rfl⟩
          rw [readValue_of_skipGap_eq fuel (levels + 1) same]
          rfl
      | cons item items =>
          rw [toList_prettyAt_items] at same enough
          simp only [List.cons_append, List.append_assoc, List.length_cons, List.length_append,
            List.nil_append] at same enough
          rw [skipGap_cons _ (by decide)] at same
          have ends : skipGap ((newLine level).toList ++ ']' :: rest) = ']' :: rest := by
            rw [skipGap_newLine, skipGap_cons _ (by decide)]
          have enoughInside : 2 * (prettyItems (level + 1) (item :: items)).toList.length + 1 ≤ fuel := by
            omega
          have read := readItems_pretty each (List.cons_ne_nil _ _) fits enoughInside
            (closed_newLine level _) ends (skipGap_skipGap _)
          exact ⟨rest, readValue_items same read, rfl⟩

private theorem readsBack_object {members : List (String × Json)}
    (each : ∀ member ∈ members, ReadsBack member.2) : ReadsBack (.object members) := by
  intro levels level fuel cs rest fits enough closed same
  have positive := length_prettyAt_pos level fits
  obtain ⟨fuel, rfl⟩ : ∃ less, fuel = less + 1 := ⟨fuel - 1, by omega⟩
  cases levels with
  | zero => exact fits.elim
  | succ levels =>
      cases members with
      | nil =>
          have braces : "\x7b\x7d".toList = ['\x7b', '\x7d'] := rfl
          rw [prettyAt, braces, List.cons_append] at same
          refine ⟨rest, ?_, rfl⟩
          rw [readValue_of_skipGap_eq fuel (levels + 1) same]
          rfl
      | cons member members =>
          rw [toList_prettyAt_members] at same enough
          simp only [List.cons_append, List.append_assoc, List.length_cons, List.length_append,
            List.nil_append] at same enough
          rw [skipGap_cons _ (by decide)] at same
          have ends : skipGap ((newLine level).toList ++ '\x7d' :: rest) = '\x7d' :: rest := by
            rw [skipGap_newLine, skipGap_cons _ (by decide)]
          have enoughInside :
              2 * (prettyMembers (level + 1) (member :: members)).toList.length + 1 ≤ fuel := by
            omega
          have read := readMembers_pretty each (List.cons_ne_nil _ _) fits enoughInside
            (closed_newLine level _) ends (skipGap_skipGap _)
          exact ⟨rest, readValue_members same read, rfl⟩

private theorem readsBack_scalar {json : Json} {text : String}
    (written : ∀ level, prettyAt level json = text)
    (read : ∀ (levels fuel : Nat) {cs rest : List Char}, Fits levels json → Closed rest →
      skipGap cs = skipGap (text.toList ++ rest) →
      ∃ after, readValue (fuel + 1) levels cs = .ok (json, after) ∧ skipGap after = skipGap rest) :
    ReadsBack json := by
  intro levels level fuel cs rest fits enough closed same
  have positive := length_prettyAt_pos level fits
  obtain ⟨fuel, rfl⟩ : ∃ less, fuel = less + 1 := ⟨fuel - 1, by omega⟩
  rw [written] at same
  exact read levels fuel fits closed same

private theorem readsBack (json : Json) : ReadsBack json :=
  match json with
  | .null => readsBack_scalar prettyAt_null fun levels fuel _ rest _ _ same =>
      ⟨rest, readValue_null fuel levels same, rfl⟩
  | .bool b => readsBack_scalar (fun level => prettyAt_bool level b) fun levels fuel _ rest _ _ same =>
      ⟨rest, readValue_bool fuel levels same, rfl⟩
  | .int n => readsBack_scalar (fun level => prettyAt_int level n)
      fun levels fuel _ rest fits closed same =>
        ⟨rest, readValue_int fits.1 fits.2 closed fuel levels same, rfl⟩
  | .real x => readsBack_scalar (fun level => prettyAt_real level x)
      fun levels fuel _ _ fits closed same => readValue_real fits closed fuel levels same
  | .string s => readsBack_scalar (fun level => prettyAt_string level s)
      fun levels fuel _ rest _ _ same => ⟨rest, readValue_string fuel levels same, rfl⟩
  | .array items => readsBack_array fun item _ => readsBack item
  | .object members => readsBack_object fun member _ => readsBack member.2
termination_by sizeOf json
decreasing_by
  · have smaller := List.sizeOf_lt_of_mem ‹item ∈ items›
    simp only [Json.array.sizeOf_spec]
    omega
  · have smaller := List.sizeOf_lt_of_mem ‹member ∈ members›
    obtain ⟨name, value⟩ := member
    simp only [Json.object.sizeOf_spec, Prod.mk.sizeOf_spec] at smaller ⊢
    omega

/-! ## Texts -/

/-- If every member is chosen, the reader of chosen members reads what the reader of members does. -/
private theorem readChosen_of_readMembers {chosen : List String} {members : List (String × Json)}
    {fuel levels : Nat} {cs after : List Char}
    (read : readMembers fuel levels cs = .ok (members, after))
    (all : ∀ member ∈ members, member.1 ∈ chosen) :
    readChosen chosen fuel levels cs = .ok (members, after) := by
  induction fuel generalizing members cs with
  | zero => simp [readMembers] at read
  | succ fuel inductionHypothesis =>
      rw [readMembers] at read
      split at read
      case h_1 => cases read
      case h_2 quoted =>
          obtain ⟨⟨name, rest⟩, readName, read⟩ := bind_eq_ok.mp read
          dsimp only at read
          split at read
          case h_1 colon =>
              obtain ⟨⟨value, rest⟩, readFirst, read⟩ := bind_eq_ok.mp read
              dsimp only at read
              split at read
              case h_1 comma =>
                  obtain ⟨⟨others, last⟩, readOthers, built⟩ := bind_eq_ok.mp read
                  cases built
                  rw [List.forall_mem_cons] at all
                  have readRest := inductionHypothesis readOthers all.2
                  simp [readChosen, bind, Except.bind, quoted, readName, colon, all.1, readFirst,
                    Except.map, comma, readRest]
                  rfl
              case h_2 closing =>
                  cases read
                  have inChosen := all _ List.mem_cons_self
                  simp [readChosen, bind, Except.bind, quoted, readName, colon, inChosen, readFirst,
                    Except.map, closing]
                  rfl
              case h_3 => cases read
              case h_4 => cases read
          case h_2 => cases read
          case h_3 => cases read
      case h_3 => cases read

private theorem readOutline_members {chosen : List String} {members : List (String × Json)}
    {fuel levels : Nat} {cs text rest : List Char} (start : skipGap cs = '\x7b' :: text)
    (read : readMembers fuel levels (skipGap text) = .ok (members, rest))
    (all : ∀ member ∈ members, member.1 ∈ chosen) :
    readOutline chosen fuel (levels + 1) cs = .ok (.object members, rest) := by
  unfold readOutline
  rw [start]
  simp only
  split
  case h_1 after closing =>
      obtain ⟨fault, refused⟩ := readMembers_brace fuel levels after
      rw [closing, refused] at read
      cases read
  case h_2 => simp only [readChosen_of_readMembers read all, Except.map]

/-- A document that fits, all members of which are chosen, is read from its pretty form. -/
theorem ofTextChoosing_pretty {chosen : List String} {member : String × Json}
    {members : List (String × Json)} (fits : Fits deepest (.object (member :: members)))
    (all : ∀ each ∈ member :: members, each.1 ∈ chosen) :
    ofTextChoosing chosen (pretty (.object (member :: members))) =
      .ok (.object (member :: members)) := by
  have text := toList_prettyAt_members 0 member members
  have ends : skipGap ((newLine 0).toList ++ ['\x7d']) = ['\x7d'] := by
    rw [skipGap_newLine, skipGap_cons _ (by decide)]
  have enough : 2 * (prettyMembers 1 (member :: members)).toList.length + 1 ≤
      2 * (prettyAt 0 (.object (member :: members))).toList.length + 1 := by
    simp only [text, Nat.zero_add, List.length_cons, List.length_append]
    omega
  have read := readMembers_pretty (fun each _ => readsBack each.2) (List.cons_ne_nil _ _) fits enough
    (closed_newLine 0 _) ends (skipGap_skipGap _)
  have start : skipGap (prettyAt 0 (.object (member :: members))).toList =
      '\x7b' :: ((prettyMembers 1 (member :: members)).toList ++ ((newLine 0).toList ++ ['\x7d'])) := by
    rw [text, skipGap_cons _ (by decide)]
  have outline := readOutline_members start read all
  rw [ofTextChoosing, readOutlineAll, pretty, deepest, outline]
  rfl

end MovieCatalogue.Json

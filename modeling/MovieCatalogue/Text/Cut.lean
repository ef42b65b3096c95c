/-!
Contract: cutting, joining and searching texts.

Owns: the functions on character lists that the token grammar, the identifiers
and the path segments are written with: stripping a known beginning or end,
cutting at the first separator, splitting, replacing every occurrence, and
searching. All of them scan from left to right and occurrences never overlap.
Does not own: which separators mean what.
-/

namespace MovieCatalogue.Text

/-- What follows `start` at the beginning of the text. -/
def stripStart? : List Char → List Char → Option (List Char)
  | [], cs => some cs
  | _ :: _, [] => none
  | p :: ps, c :: cs => if p = c then stripStart? ps cs else none

theorem eq_append_of_stripStart? {start cs rest : List Char}
    (stripped : stripStart? start cs = some rest) : cs = start ++ rest := by
  fun_induction stripStart? start cs with
  | case1 => simp_all
  | case2 => simp at stripped
  | case3 p ps cs inductionHypothesis => simp [inductionHypothesis stripped]
  | case4 => simp at stripped

theorem stripStart?_append (start rest : List Char) :
    stripStart? start (start ++ rest) = some rest := by
  induction start with
  | nil => cases rest <;> rfl
  | cons p ps inductionHypothesis => simp [stripStart?, inductionHypothesis]

/-- What precedes `finish` at the end of the text. -/
def stripEnd? (finish cs : List Char) : Option (List Char) :=
  (stripStart? finish.reverse cs.reverse).map List.reverse

/-- The text without a byte order mark at its start. -/
def dropMark : List Char → List Char
  | '\ufeff' :: rest => rest
  | cs => cs

/-- The parts before and after the first occurrence of `separator`. -/
def cutAt? (separator : List Char) (cs : List Char) : Option (List Char × List Char) :=
  match stripStart? separator cs with
  | some rest => some ([], rest)
  | none =>
    match cs with
    | [] => none
    | c :: tail => (cutAt? separator tail).map fun parts => (c :: parts.1, parts.2)

/-- The parts between the occurrences of one character, at least one part. -/
def splitOn (separator : Char) : List Char → List (List Char)
  | [] => [[]]
  | c :: cs =>
    if c = separator then [] :: splitOn separator cs
    else
      match splitOn separator cs with
      | [] => [[c]]
      | part :: parts => (c :: part) :: parts

/-- Like `splitOn`, with at most `most` parts: the last one keeps what is left. -/
def splitAtMost (separator : Char) : Nat → List Char → List (List Char)
  | 0, _ => []
  | 1, cs => [cs]
  | most + 2, cs =>
    match cutAt? [separator] cs with
    | none => [cs]
    | some (part, rest) => part :: splitAtMost separator (most + 1) rest

/-- Puts `separator` between the parts. -/
def joinWith (separator : List Char) (parts : List (List Char)) : List Char :=
  (parts.intersperse separator).flatten

theorem splitOn_ne_nil (separator : Char) (cs : List Char) : splitOn separator cs ≠ [] := by
  cases cs with
  | nil => simp [splitOn]
  | cons c tail =>
      unfold splitOn
      split
      · simp
      · split <;> simp

/-- Splitting loses nothing: the parts, joined by the separator, are the text. -/
theorem joinWith_splitOn (separator : Char) (cs : List Char) :
    joinWith [separator] (splitOn separator cs) = cs := by
  induction cs with
  | nil => rfl
  | cons c tail inductionHypothesis =>
      cases parts : splitOn separator tail with
      | nil => exact absurd parts (splitOn_ne_nil separator tail)
      | cons part others =>
          rw [parts] at inductionHypothesis
          by_cases same : c = separator
          · simpa [splitOn, same, parts, joinWith] using inductionHypothesis
          · cases others <;>
              simpa [splitOn, same, parts, joinWith] using inductionHypothesis

/-- Puts `separator` between the texts. -/
def join (separator : String) (parts : List String) : String :=
  String.ofList (joinWith separator.toList (parts.map String.toList))

/-- Replaces every occurrence of `first :: others`, from left to right. -/
def replaceAll (first : Char) (others replacement : List Char) (cs : List Char) : List Char :=
  match _stripped : stripStart? (first :: others) cs with
  | some rest => replacement ++ replaceAll first others replacement rest
  | none =>
    match cs with
    | [] => []
    | c :: tail => c :: replaceAll first others replacement tail
termination_by cs.length
decreasing_by
  · rw [eq_append_of_stripStart? _stripped]
    simp only [List.length_append, List.length_cons]
    omega
  · simp

/-- Whether `needle` occurs somewhere. -/
def occursIn (needle : List Char) : List Char → Bool
  | [] => needle.isEmpty
  | c :: cs => (stripStart? needle (c :: cs)).isSome || occursIn needle cs

/--
The occurrences of `first :: others`, each given by the character before it
(none at the start of the text). `before` is the character that precedes `cs`.
-/
def precedingChars (first : Char) (others : List Char) (before : Option Char) (cs : List Char) :
    List (Option Char) :=
  match _stripped : stripStart? (first :: others) cs with
  | some rest =>
    before :: precedingChars first others (first :: others).getLast? rest
  | none =>
    match cs with
    | [] => []
    | c :: tail => precedingChars first others (some c) tail
termination_by cs.length
decreasing_by
  · rw [eq_append_of_stripStart? _stripped]
    simp only [List.length_append, List.length_cons]
    omega
  · simp

/-- Upper case of the ASCII letters; every other character stays. -/
def upperAscii (s : String) : String :=
  String.ofList (s.toList.map Char.toUpper)

/-- Lower case of the ASCII letters; every other character stays. -/
def lowerAscii (s : String) : String :=
  String.ofList (s.toList.map Char.toLower)

/-- Texts in the order of their code points, a beginning before what it begins. -/
def compareChars : List Char → List Char → Ordering
  | [], [] => .eq
  | [], _ :: _ => .lt
  | _ :: _, [] => .gt
  | a :: as, b :: bs => (compare a.toNat b.toNat).then (compareChars as bs)

/-- Texts in the order of their code points. -/
def compareTexts (a b : String) : Ordering :=
  compareChars a.toList b.toList

/-- Whether a text comes before another or equals it. -/
def leTexts (a b : String) : Bool :=
  (compareTexts a b).isLE

end MovieCatalogue.Text

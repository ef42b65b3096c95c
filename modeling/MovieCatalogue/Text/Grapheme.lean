import MovieCatalogue.Text.BreakClass

/-!
Contract: grapheme clusters, the characters of a text as its readers see them.

Owns: `Run`, what has to be known of the characters before a place to tell whether a
cluster ends there; and `graphemes`, the clusters of a text. A letter goes with its
marks, a flag is a pair of letters, pictures may be joined, and so may the
consonants of a conjunct. No character of the text is lost.
Does not own: the classes of characters; see `Text.BreakClass`.
-/

namespace MovieCatalogue.Text

/-- How far a conjunct of consonants has come. -/
inductive Conjunct where
  | none
  | consonant
  /-- A consonant and a mark that links it to the next one. -/
  | linked
deriving DecidableEq, Repr

/-- How far a chain of joined pictures has come. -/
inductive Chain where
  | none
  | picture
  /-- A picture and a joiner. -/
  | joined
deriving DecidableEq, Repr

/-- What is known of the characters before a place. -/
structure Run where
  last : BreakClass
  conjunct : Conjunct := .none
  chain : Chain := .none
  /-- Whether a letter of a flag waits for the second one. -/
  halfFlag : Bool := false
deriving DecidableEq, Repr

namespace Run

/-- The run that starts with a character. -/
def start (first : BreakClass) : Run where
  last := first
  conjunct := if first = .consonant then .consonant else .none
  chain := if first = .picture then .picture else .none
  halfFlag := first = .regional

/-- The conjunct with one character more. -/
def nextConjunct (run : Run) (next : BreakClass) : Conjunct :=
  match next, run.conjunct with
  | .consonant, _ => .consonant
  | .linker, .none => .none
  | .linker, _ => .linked
  | .extend, conjunct | .joiner, conjunct => conjunct
  | _, _ => .none

/-- The chain of pictures with one character more. -/
def nextChain (run : Run) (next : BreakClass) : Chain :=
  match next, run.chain with
  | .picture, _ => .picture
  | .joiner, .picture => .joined
  | .extend, .picture | .linker, .picture | .nonJoiner, .picture => .picture
  | _, _ => .none

/-- The run with one character more. -/
def pass (run : Run) (next : BreakClass) : Run where
  last := next
  conjunct := run.nextConjunct next
  chain := run.nextChain next
  halfFlag := next = .regional && !run.halfFlag

/-- Whether a class breaks from everything but a line feed behind a carriage return. -/
def isApart (class_ : BreakClass) : Bool :=
  class_ == .control || class_ == .carriageReturn || class_ == .lineFeed

/-- Whether two letters belong to one Korean syllable. -/
def joinsSyllable (last next : BreakClass) : Bool :=
  match last, next with
  | .leading, .leading | .leading, .vowel | .leading, .openSyllable
  | .leading, .closedSyllable => true
  | .openSyllable, .vowel | .openSyllable, .trailing | .vowel, .vowel | .vowel, .trailing => true
  | .closedSyllable, .trailing | .trailing, .trailing => true
  | _, _ => false

/-- Whether a character goes on with the cluster before it. -/
def goesOn (run : Run) (next : BreakClass) : Bool :=
  if run.last = .carriageReturn && next = .lineFeed then true
  else if isApart run.last || isApart next then false
  else
    match next with
    | .extend | .linker | .nonJoiner | .joiner | .spacing => true
    | _ =>
      run.last = .prepend || joinsSyllable run.last next ||
        (run.conjunct = .linked && next = .consonant) ||
        (run.chain = .joined && next = .picture) || (run.halfFlag && next = .regional)

end Run

/--
The clusters of the text behind a run. The first one is the rest of the cluster
at whose end the run stands, which may be empty.
-/
def clustersAfter (run : Run) : List Char → List Char × List (List Char)
  | [] => ([], [])
  | c :: cs =>
    let next := breakClass c
    let (first, others) := clustersAfter (run.pass next) cs
    if run.goesOn next then (c :: first, others) else ([], (c :: first) :: others)

/-- The clusters of a text, in order. -/
def graphemes : List Char → List (List Char)
  | [] => []
  | c :: cs =>
    let (first, others) := clustersAfter (.start (breakClass c)) cs
    (c :: first) :: others

/-- Nothing is lost behind a run. -/
theorem flatten_clustersAfter (run : Run) (cs : List Char) :
    (clustersAfter run cs).1 ++ (clustersAfter run cs).2.flatten = cs := by
  induction cs generalizing run with
  | nil => rfl
  | cons c cs inductionHypothesis =>
      by_cases same : run.goesOn (breakClass c) = true <;>
        simp [clustersAfter, same, inductionHypothesis]

/-- The clusters of a text, one after the other, are the text. -/
theorem flatten_graphemes (cs : List Char) : (graphemes cs).flatten = cs := by
  cases cs with
  | nil => rfl
  | cons c cs => simp [graphemes, flatten_clustersAfter]

end MovieCatalogue.Text

import MovieCatalogue.Calendar.Template
import MovieCatalogue.Shell.World
import MovieCatalogue.Text.Alphanumeric

/-!
Contract: the paths of log files as they are written in settings.

Owns: the values of variables in the place of their mentions, and the present in
the place of a template for it.
Does not own: opening files; see `Shell.Log`.
-/

namespace MovieCatalogue.Shell

/-! ## Variables in paths -/

/-- What stands before the name of a variable. -/
def mentionStart : List Char := "$ENV\x7b".toList

/-- A character at the start of the name of a variable. -/
def isVariableStart (c : Char) : Bool :=
  Text.isAlphanumeric c || c == '_'

def isVariableChar (c : Char) : Bool :=
  isVariableStart c || c == '.'

/-- The name of the variable mentioned at the start of the text. -/
def mentionedName? (cs : List Char) : Option (List Char) :=
  match Text.stripStart? mentionStart cs with
  | some rest =>
    let name := rest.takeWhile isVariableChar
    match name, rest.dropWhile isVariableChar with
    | first :: _, '\x7d' :: _ => if isVariableStart first then some name else none
    | _, _ => none
  | none => none

/-- The names of all variables mentioned in the text, in order. -/
def mentionedNames (cs : List Char) : List (List Char) :=
  match cs with
  | [] => []
  | c :: rest => (mentionedName? (c :: rest)).toList ++ mentionedNames rest

/-- The text with a value for every mention of a variable. -/
def replaceMentions (name : List Char) (value : String) (text : List Char) : List Char :=
  Text.replaceAll '$' (mentionStart.drop 1 ++ name ++ ['\x7d']) value.toList text

/-- A path with the values of the variables that it mentions; those without value stay. -/
def expandVariables {m : Type → Type} {Handle : Type} [Monad m] (world : World m Handle)
    (path : String) : m String := do
  let expanded ← (mentionedNames path.toList).foldlM
    (fun text name => do
      match ← world.lookUp (String.ofList name) with
      | some value => return replaceMentions name value text
      | none => return text)
    path.toList
  return String.ofList expanded

/-! ## The present in paths -/

def filledTemplates : Nat := 5

/-- The first template of a path, with what stands before and behind it. -/
def firstTemplate? (path : List Char) : Option (List Char × List Char × List Char) := do
  let (before, rest) ← Text.cutAt? "$TIME\x7b".toList path
  let (template, after) ← Text.cutAt? ['\x7d'] rest
  return (before, template, after)

/-- A path with so many templates filled in, one after the other, if all of them can be. -/
def fillTemplates (present : Calendar.LocalMoment) : Nat → List Char → Option (List Char)
  | 0, path => some path
  | count + 1, path =>
    match firstTemplate? path with
    | none => some path
    | some (before, template, after) => do
      let template ← Calendar.Template.ofChars? template
      fillTemplates present count (before ++ present.written template ++ after)

/-- A path with the present in the place of the first templates for it, if they can be filled in. -/
def expandMoment? (present : Calendar.LocalMoment) (path : String) : Option String :=
  (fillTemplates present filledTemplates path.toList).map String.ofList

end MovieCatalogue.Shell

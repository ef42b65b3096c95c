import MovieCatalogue.Toml.Scalar

/-!
Contract: TOML documents from texts.

Owns: the reader of values and statements, with a bound on the nesting of arrays
and of tables in braces. A statement has its key, its equals sign and the start
of its value on one line; in braces, lines may end between them.
Does not own: values without quotes, see `Toml.Scalar`; which keys a document may
have.
-/

namespace MovieCatalogue.Toml

mutual

/--
The value at the start of the text, and what follows it. `levels` is the nesting
that is still allowed.
-/
def readValue (fuel levels : Nat) (cs : List Char) : Option (Toml × List Char) :=
  match fuel with
  | 0 => none
  | fuel + 1 =>
    match cs with
    | '"' :: _ | '\x27' :: _ =>
      (readString cs).map fun (text, after) => (.string (String.ofList text), after)
    | '[' :: rest =>
      match levels with
      | 0 => none
      | levels + 1 =>
        (readItems fuel levels rest).map fun (items, after) => (.array items, after)
    | '\x7b' :: rest =>
      match levels with
      | 0 => none
      | levels + 1 =>
        (readMembers fuel levels [] rest).map fun (members, after) =>
          (.table .inline members, after)
    | _ =>
      let (token, after) := readToken cs
      (scalar? token).map fun value => (value, after)

/-- The items of an array up to its closing bracket. -/
def readItems (fuel levels : Nat) (cs : List Char) : Option (List Toml × List Char) :=
  match fuel with
  | 0 => none
  | fuel + 1 => do
    match ← skipGap false cs with
    | ']' :: after => return ([], after)
    | start =>
      let (item, rest) ← readValue fuel levels start
      match ← skipGap false rest with
      | ',' :: more =>
        let (items, after) ← readItems fuel levels more
        return (item :: items, after)
      | ']' :: after => return ([item], after)
      | _ => none

/-- The members of a table in braces, added to those read before, up to its closing brace. -/
def readMembers (fuel levels : Nat) (members : Fields Toml) (cs : List Char) :
    Option (Fields Toml × List Char) :=
  match fuel with
  | 0 => none
  | fuel + 1 => do
    match ← skipGap false cs with
    | '\x7d' :: after => return (members, after)
    | start =>
      let (keys, rest) ← readKeys deepest start
      match ← skipGap false rest with
      | '=' :: rest =>
        let (value, rest) ← readValue fuel levels (← skipGap false rest)
        let members ← assign value keys members
        match ← skipGap false rest with
        | ',' :: more => readMembers fuel levels members more
        | '\x7d' :: after => return (members, after)
        | _ => none
      | _ => none

end

/-- One statement up to the end of its line. -/
def readStatement (fuel : Nat) (cs : List Char) : Option (Statement × List Char) := do
  match cs with
  | '[' :: '[' :: rest =>
    match ← readKeys deepest (skipBlanks rest) with
    | (path, ']' :: ']' :: after) => return (.openItem path, ← endLine after)
    | _ => none
  | '[' :: rest =>
    match ← readKeys deepest (skipBlanks rest) with
    | (path, ']' :: after) => return (.openTable path, ← endLine after)
    | _ => none
  | _ =>
    match ← readKeys deepest cs with
    | (keys, '=' :: rest) =>
      let (value, after) ← readValue fuel deepest (skipBlanks rest)
      return (.assign keys value, ← endLine after)
    | _ => none

def readStatements (fuel : Nat) (cs : List Char) : Option (List Statement) :=
  match fuel with
  | 0 => none
  | fuel + 1 => do
    match ← skipGap false cs with
    | [] => return []
    | start =>
      let (statement, rest) ← readStatement fuel start
      return statement :: (← readStatements fuel rest)

def ofText? (s : String) : Option (Fields Toml) :=
  let cs := Text.dropMark s.toList
  (readStatements (2 * cs.length + 2) cs).bind ofStatements

end MovieCatalogue.Toml

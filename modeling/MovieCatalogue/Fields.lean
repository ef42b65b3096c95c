/-!
Contract: members under names, in a fixed order.

Owns: `Fields`, the shape that JSON objects and stored rows share, with look-up,
replacement in place and removal. A name is looked up at its first occurrence;
`Fields.put` keeps the position of a name that is present and appends one that
is not, so the order of names shows the order of first arrival.
Does not own: what the values are.
-/

namespace MovieCatalogue

/-- Values under names, in order. -/
abbrev Fields (α : Type) := List (String × α)

namespace Fields

variable {α : Type}

/-- The value of the first member called `name`. -/
def get? (name : String) : Fields α → Option α
  | [] => none
  | (key, value) :: rest => if key = name then some value else get? name rest

/-- Replaces the first member called `name` where it stands, or appends it. -/
def put (name : String) (value : α) : Fields α → Fields α
  | [] => [(name, value)]
  | (key, old) :: rest =>
    if key = name then (key, value) :: rest else (key, old) :: put name value rest

/-- Removes every member called `name`. -/
def erase (name : String) (members : Fields α) : Fields α :=
  members.filter fun member => member.1 != name

/-- Writes the members of `changes` over `members`, in their order. -/
def merge (members changes : Fields α) : Fields α :=
  changes.foldl (fun acc member => acc.put member.1 member.2) members

/-- One member for each name: the last value, at the place of the first. -/
def collapse (members : Fields α) : Fields α :=
  merge [] members

def names (members : Fields α) : List String :=
  members.map Prod.fst

theorem get?_put_self (members : Fields α) (name : String) (value : α) :
    (members.put name value).get? name = some value := by
  induction members with
  | nil => simp [put, get?]
  | cons head tail inductionHypothesis =>
      by_cases same : head.1 = name
      · simp [put, get?, same]
      · simp [put, get?, same, inductionHypothesis]

theorem get?_put_of_ne (members : Fields α) {name other : String} (value : α)
    (different : other ≠ name) :
    (members.put name value).get? other = members.get? other := by
  induction members with
  | nil => simp [put, get?, Ne.symm different]
  | cons head tail inductionHypothesis =>
      by_cases same : head.1 = name
      · simp [put, get?, same, Ne.symm different]
      · simp [put, get?, same, inductionHypothesis]

end Fields

end MovieCatalogue

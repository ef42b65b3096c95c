import MovieCatalogue.Disk.Path
import MovieCatalogue.Journal.Part
import MovieCatalogue.Journal.Rotation

/-!
Contract: rotations from their descriptions.

Owns: the policy of an appender, which has a trigger and a roller; sizes with
units; and intervals with units.
Does not own: what a rotation does; see `Journal.Rotation`.
-/

namespace MovieCatalogue.Journal

open MovieCatalogue.Number MovieCatalogue.Record

/-! ## Amounts with units -/

def refuseText {α : Type} (text expected : String) : Except DecodeError α :=
  .error (.wrongValue (.text text) expected)

/-- The refusal of a number below zero. -/
def refuseNegative {α : Type} (n : Int) : Except DecodeError α :=
  .error (.wrongValue (.integer n) "a non-negative number")

/-- The digits at the start of a text, and the unit after them, if anything follows. -/
def splitAmount (text : String) : String × Option String :=
  let digits := text.toList.takeWhile isDigit
  let rest := text.toList.dropWhile isDigit
  (String.ofList digits,
    if rest.isEmpty then none else some (String.ofList (Text.trimBlanks rest)))

/-- The factors of the units of sizes. -/
def sizeFactor? (unit : String) : Option Nat :=
  match Text.lowerAscii unit with
  | "b" => some 1
  | "kb" | "kib" => some (2 ^ 10)
  | "mb" | "mib" => some (2 ^ 20)
  | "gb" | "gib" => some (2 ^ 30)
  | "tb" | "tib" => some (2 ^ 40)
  | _ => none

/-- The bytes of a size that is written as a text. -/
def sizeOfText (text : String) : Except DecodeError Nat := do
  let (digits, unit) := splitAmount text
  match readWord? digits with
  | none => refuseText digits "a number"
  | some count =>
    match unit with
    | none => return count
    | some unit =>
      match sizeFactor? unit with
      | none => refuseText unit "a valid unit"
      | some factor =>
        if count * factor > maxWord then refuseText text "a byte size" else return count * factor

/-- The bytes of a size. -/
def sizeOf : ContentReading Nat
  | .integer n _ => if n < 0 then refuseNegative n else .ok n.toNat
  | .text text => sizeOfText text
  | content => ContentReading.refuse "a size" content

/-- An interval that is written as a text; without a unit it counts seconds. -/
def intervalOfText (text : String) : Except DecodeError Interval := do
  let (digits, unit) := splitAmount text
  match readInt64? digits with
  | none => refuseText digits "a number"
  | some count =>
    match unit with
    | none => return { unit := .second, count := count.toInt }
    | some name =>
      match IntervalUnit.ofName? name with
      | some unit => return { unit := unit, count := count.toInt }
      | none => refuseText name "a valid unit"

/-- An interval; a number is one of seconds, which are a signed word. -/
def intervalOf : ContentReading Interval
  | .integer n _ =>
    if n < 0 then refuseNegative n else .ok { unit := .second, count := Int.bmod n (2 ^ 64) }
  | .text text => intervalOfText text
  | content => ContentReading.refuse "a time" content

/-! ## Triggers -/

/-- The limit of a size trigger. -/
def sizeMembers : List (Part.Slot (Option Nat)) :=
  [.of "limit" sizeOf fun _ limit => some limit]

/-- The least size of a trigger at the start. -/
def startMembers : List (Part.Slot Nat) :=
  [.of "min_size" (.word 64 "u64") fun _ least => least]

/-- What is written for a time trigger. -/
structure TimeMembers where
  interval : Option Interval := none
  rounded : Bool := false

/-- The members of a time trigger; by how much it may be late makes no difference to a run. -/
def TimeMembers.slots : List (Part.Slot TimeMembers) :=
  [.of "interval" intervalOf fun known interval => { known with interval := some interval },
   .of "modulate" .bool fun known rounded => { known with rounded := rounded },
   .of "max_random_delay" (.word 64 "u64") fun known _ => known]

def occasionOf (trigger : Part) : Attempt Occasion :=
  match trigger.kind with
  | "size" => worded do
    return .size (← requiredMember "limit" (← trigger.read sizeMembers none))
  | "onstartup" => worded do
    return .start (← trigger.read startMembers 1)
  | "time" => worded do
    let members ← trigger.read TimeMembers.slots {}
    let interval ← requiredMember "interval" members.interval
    return .interval { interval with rounded := members.rounded }
  | _ => trigger.unknown "trigger"

/-! ## Rollers -/

/-- Why files cannot be kept under a pattern. -/
def patternFault? (pattern : String) : Option String :=
  if !Text.occursIn Window.numberMark pattern.toList then
    some "pattern does not contain `\x7b\x7d`"
  else
    match Disk.extension? pattern with
    | some "gz" => some "gzip compression requires the `gzip` feature"
    | some "zst" => some "zstd compression requires the `zstd` feature"
    | _ => none

/-- What is written for a window of older files. -/
structure WindowMembers where
  pattern : Option String := none
  base : Option Nat := none
  count : Option Nat := none

def WindowMembers.slots : List (Part.Slot WindowMembers) :=
  [.of "pattern" .text fun known pattern => { known with pattern := some pattern },
   .of "base" (.optional (.word 32 "u32")) fun known base => { known with base := base },
   .of "count" (.word 32 "u32") fun known count => { known with count := some count }]

/-- The fate that a window of older files stands for. -/
def windowFate (roller : Part) : Attempt Fate := do
  let members ← worded (roller.read WindowMembers.slots {})
  let pattern ← worded (requiredMember "pattern" members.pattern)
  let count ← worded (requiredMember "count" members.count)
  match patternFault? pattern with
  | some reason => .error reason
  | none => return .numbered ⟨pattern, members.base.getD 0, count⟩

def fateOf (roller : Part) : Attempt Fate :=
  match roller.kind with
  | "fixed_window" => windowFate roller
  | "delete" => do
    worded (roller.read [] ())
    return .removed
  | _ => roller.unknown "roller"

/-! ## Policies -/

/-- What is written for a policy. -/
structure PolicyMembers where
  trigger : Option Part := none
  roller : Option Part := none

def PolicyMembers.slots : List (Part.Slot PolicyMembers) :=
  [.of "trigger" (Part.ofContent none) fun known trigger => { known with trigger := some trigger },
   .of "roller" (Part.ofContent none) fun known roller => { known with roller := some roller }]

def rotationOf (policy : Part) : Attempt Rotation := do
  if policy.kind ≠ "compound" then policy.unknown "policy"
  let members ← worded (policy.read PolicyMembers.slots {})
  let trigger ← worded (requiredMember "trigger" members.trigger)
  let roller ← worded (requiredMember "roller" members.roller)
  return ⟨← occasionOf trigger, ← fateOf roller⟩

end MovieCatalogue.Journal

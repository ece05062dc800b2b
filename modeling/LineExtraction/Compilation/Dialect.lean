import LineExtraction.Compilation.ConstructionError
import LineExtraction.Extraction.Unit

/-!
# Dialects

In a dialect the pattern of a definition is written piece by piece, and an extraction
unit is made of the whole.  Everything in which dialects differ is a field of theirs;
the functions below are what they have in common.
-/

namespace LineExtraction

/-- How patterns are written and compiled.  `literal` quotes text, `pattern`
checks a pattern and readies it for insertion, `openExpression` and `closeExpression`
write the group of an expression, and `finish` compiles a finished pattern. -/
structure Dialect where
  name : String
  literal : String → String
  pattern : String → Except String String
  openExpression : Nat → String
  closeExpression : String
  finish : Nat → String → Definition → Except ConstructionError ExtractionUnit

namespace Dialect

/-- The name of the group of the expression with an ordinal. -/
def expressionGroup (ordinal : Nat) : String := "_e" ++ toString ordinal

/-- Whether a name is of the kind that expressions' groups have. -/
def isReservedName (name : String) : Bool :=
  match name.toList with
  | '_' :: 'e' :: digits => ¬ digits.isEmpty ∧ digits.all Char.isDigit
  | _ => false

/-- The pattern that matches whole lines only. -/
def anchored (pattern : String) : String := "\\A(?:" ++ pattern ++ ")\\z"

/-- The largest ordinal that a group name can have. -/
def maximalOrdinal : Nat := Nat.pow 2 64 - 1

/-- The number that digits write, with an optional plus in front. -/
def ordinalOfDigits? (text : List Char) : Option Nat :=
  let digits :=
    match text with
    | '+' :: digits => digits
    | digits => digits
  if ¬ digits.isEmpty ∧ digits.all Char.isDigit then
    let value := digits.foldl (fun value digit => 10 * value + (digit.toNat - '0'.toNat)) 0
    if value ≤ maximalOrdinal then some value else none
  else none

/-- The ordinal of the expression whose group has the given name. -/
def ordinalOf? (name : String) : Option Nat :=
  match name.toList with
  | '_' :: 'e' :: digits => ordinalOfDigits? digits
  | _ => none

/-- The last group whose name has an ordinal.  `slot` is the number of the first of
the groups. -/
def groupOf? (ordinal : Nat) (slot : Nat) : List (Option String) → Option Nat
  | [] => none
  | name :: names =>
    match groupOf? ordinal (slot + 1) names with
    | some later => some later
    | none => if name.bind ordinalOf? = some ordinal then some slot else none

/-- The groups of the expressions with the ordinals from `ordinal` on. -/
def groupsFrom (names : List (Option String)) (ordinal : Nat) :
    (count : Nat) → Except String (List Nat)
  | 0 => .ok []
  | count + 1 =>
    match groupOf? ordinal 0 names with
    | none => .error ("no capture group for expression #" ++ toString ordinal)
    | some slot => do return slot :: (← groupsFrom names (ordinal + 1) count)

/-- The groups of the first `count` expressions, given the names of all groups. -/
def groupsOfExpressions (names : List (Option String)) (count : Nat) : Except String (List Nat) :=
  groupsFrom names 0 count

/-- The error of a finished pattern that does not compile. -/
def compositionError (index : Nat) (pattern : String) (definition : Definition) (cause : String) :
    ConstructionError :=
  .composition definition.name index definition.location pattern cause

/-- The unit of a definition whose finished pattern has groups of the given names.
`attempt` matches a line and yields the spans of given groups. -/
def unitOf (index : Nat) (pattern : String) (definition : Definition)
    (names : List (Option String)) (attempt : List Nat → Line → Attempt) :
    Except ConstructionError ExtractionUnit :=
  let fields := definition.fieldNames
  match groupsOfExpressions names fields.length with
  | .error cause => .error (compositionError index pattern definition cause)
  | .ok slots => .ok ⟨index, definition.name, pattern, fields, attempt slots⟩

/-- The span of a group in a match. -/
def spanOf? (line : Line) (slots : Array (Option Nat)) (group : Nat) : Option Span := do
  let start ← (slots[2 * group]?).join
  let stop ← (slots[2 * group + 1]?).join
  return ⟨line.byteOffset start, line.byteOffset stop⟩

end Dialect
end LineExtraction

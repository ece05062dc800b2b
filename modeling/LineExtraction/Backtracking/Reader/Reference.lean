import LineExtraction.Backtracking.Ast
import LineExtraction.Backtracking.SyntaxError
import LineExtraction.Text.Numeral
import LineExtraction.Text.Read
import LineExtraction.Unicode.NameCharacter

/-!
# Reading references to groups

A group is referred to by its name, by its number, or by its distance counted back
from the last group that was opened.
-/

namespace LineExtraction
namespace Backtracking

/-! ## Numbers

Decimal numbers must fit a machine word, and one bit less where a sign may stand
before them. -/

/-- The largest number that may be written by itself. -/
def maximalNumber : Nat := Nat.pow 2 64 - 1

/-- The largest number that may be written where a sign may stand before it. -/
def maximalSigned : Nat := Nat.pow 2 63 - 1

/-- The number that a text of digits writes, when it writes one that fits. -/
def numberOf? (maximal : Nat) (digits : List Char) : Option Nat :=
  if ¬ digits.isEmpty ∧ digits.all Char.isDigit ∧ decimalValue digits ≤ maximal then
    some (decimalValue digits)
  else none

/-- Read the longest run of characters that `accepts` takes. -/
def readWhile (accepts : Char → Bool) (text : List Char) : Read (List Char) text :=
  ⟨text.takeWhile accepts, text.dropWhile accepts, (List.dropWhile_sublist _).length_le⟩

/-- Read a decimal number. -/
def readNumber? (text : List Char) : Option (Read Nat text) :=
  let digits := readWhile Char.isDigit text
  (numberOf? maximalNumber digits.value).map fun number => digits.map fun _ => number

/-! ## References -/

/-- What a reference can refer to: the named groups, latest first, the number of
groups opened so far, and the length of the whole pattern in bytes. -/
structure Scope where
  names : List (List Char × Nat)
  captures : Nat
  patternBytes : Nat
deriving DecidableEq, Repr

/-- Whether `char` may stand in a name. -/
def isNameChar (char : Char) : Bool :=
  Unicode.isAlphabetic char ∨ Unicode.isNumeric char ∨ char = '_'

/-- Read a name and the delimiter that closes it.  Where names may be `relative`, one
that starts with a minus goes on with digits only. -/
def readName (relative : Bool) (close : Char) (text : List Char) :
    Except SyntaxError (Read (List Char) text) :=
  let counted := relative ∧ text.head? = some '-'
  let sign := text.take (if counted then 1 else 0)
  let name := readWhile (if counted then Char.isDigit else isNameChar) (text.drop sign.length)
  have dropped : (text.drop sign.length).length ≤ text.length := by
    simp only [List.length_drop]
    omega
  have shorter := name.shorter
  match _ : name.rest with
  | [] => .error .groupNameInvalid
  | char :: rest =>
    let whole := sign ++ name.value
    if char = close ∧ ¬ whole.isEmpty then
      .ok ⟨whole, rest, by simp_all only [List.length_cons]; omega⟩
    else .error .groupNameInvalid

namespace Scope

/-- The group that a distance back from the last opened group leads to. -/
def relativeGroup? (scope : Scope) (distance : Nat) : Option Nat :=
  if distance ≤ scope.captures + 1 then some (scope.captures + 1 - distance) else none

/-- The group that a written name refers to: that of the name, or else the one that
the name counts as a signed machine word. -/
def group? (scope : Scope) (name : List Char) : Option Nat :=
  match scope.names.lookup name with
  | some group => some group
  | none =>
    match name with
    | '-' :: digits =>
      (numberOf? maximalSigned digits).bind fun distance =>
        if distance = 0 then some 0 else scope.relativeGroup? distance
    | digits => numberOf? maximalSigned digits

end Scope

/-- Read a reference by name from behind the delimiter that opens it. -/
def readNamedReference (scope : Scope) (relative : Bool) (close : Char) (text : List Char) :
    Except SyntaxError (Read Nat text) := do
  let name ← readName relative close text
  match scope.group? name.value with
  | some group => return name.map fun _ => group
  | none => .error (.referenceNameUnknown name.value)

/-- Read a reference by number. -/
def readNumberedReference (scope : Scope) (text : List Char) :
    Except SyntaxError (Read Nat text) :=
  match readNumber? text with
  | some group =>
    if group.value < scope.patternBytes / 2 then .ok group else .error .referenceInvalid
  | none => .error .referenceInvalid

end Backtracking
end LineExtraction

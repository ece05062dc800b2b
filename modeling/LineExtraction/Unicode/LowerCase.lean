import LineExtraction.Unicode.LowerCaseTable
import LineExtraction.Unicode.NameCharacter

/-!
# Lower-case text

Turns text to lower case by the full Unicode mapping.  Two mappings are not one to
one: the capital I with a dot keeps the dot as a combining mark, and the capital
sigma takes its final form at the end of a word.
-/

namespace LineExtraction
namespace Unicode

/-- The mapping of one character, or the character itself. -/
def lowerChar (char : Char) : List Char :=
  if char = 'İ' then ['i', '\u0307']
  else if char.toNat < 0x80 then [char.toLower]
  else
    match LowerCaseTable.mappings.find? (fun mapping => mapping.1 = char.toNat) with
    | some mapping => [Char.ofNat mapping.2]
    | none => [char]

/-- Whether the search for a cased neighbour passes over the character. -/
def isCaseIgnorable (char : Char) : Bool :=
  CodePointRange.anyHolds PropertyTable.caseIgnorable.ranges char ∨
    CodePointRange.anyHolds RecentTable.caseIgnorable char

/-- Whether the character has a letter case.  The latest database version takes its case
from a letter that was small before. -/
def isCased (char : Char) : Bool :=
  char ≠ 'ʕ' ∧
    (CodePointRange.anyHolds PropertyTable.cased.ranges char ∨
      CodePointRange.anyHolds RecentTable.cased char)

/-- Whether the first character that is not case-ignorable is cased. -/
def startsCased : List Char → Bool
  | [] => false
  | char :: rest => if isCaseIgnorable char then startsCased rest else isCased char

/-- Lower case, given the characters before in reverse. -/
def lowerAfter (before : List Char) : List Char → List Char
  | [] => []
  | char :: rest =>
    let mapped :=
      if char = 'Σ' then
        if startsCased before ∧ ¬ startsCased rest then ['ς'] else ['σ']
      else lowerChar char
    mapped ++ lowerAfter (char :: before) rest

/-- The text in lower case. -/
def toLowerCase (text : String) : String :=
  String.ofList (lowerAfter [] text.toList)

end Unicode
end LineExtraction

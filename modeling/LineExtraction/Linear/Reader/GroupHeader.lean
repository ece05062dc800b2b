import LineExtraction.Linear.Ast
import LineExtraction.Linear.Blank
import LineExtraction.Linear.SyntaxError
import LineExtraction.Unicode.NameCharacter

/-!
# Reading group headers

What follows an opening parenthesis says what the group is for: it captures, with
or without a name, or it only groups and sets flags, or it is no group at all but
sets flags for the rest of the group around it.
-/

namespace LineExtraction
namespace Linear

/-- What an opening parenthesis starts. -/
inductive GroupHeader where
  | unnamed
  | named (name : List Char)
  | plain (flags : List FlagItem)
  | directive (flags : List FlagItem)
deriving DecidableEq, Repr

/-! ## Flags -/

/-- The flag of a letter. -/
def flagOf? (letter : Char) : Option Flag :=
  match letter with
  | 'i' => some .caseInsensitive
  | 'm' => some .multiLine
  | 's' => some .dotMatchesNewLine
  | 'U' => some .swapGreed
  | 'u' => some .unicode
  | 'R' => some .crlf
  | 'x' => some .ignoreWhitespace
  | _ => none

/-- Read flags up to the `:` or `)` behind them, with the items already read, last
first.  No flag may come twice, and neither may the negation. -/
def readFlags (items : List FlagItem) :
    (text : List Char) → Except SyntaxError (Read GroupHeader text)
  | [] => .error .flagUnexpectedEnd
  | char :: rest =>
    if char = ':' ∨ char = ')' then
      if items.head? = some .negation then .error .flagDanglingNegation
      else if char = ':' then .ok ⟨.plain items.reverse, rest, Read.took_one rest⟩
      else if items.isEmpty then .error .repetitionMissing
      else .ok ⟨.directive items.reverse, rest, Read.took_one rest⟩
    else if char = '-' then
      if .negation ∈ items then .error .flagRepeatedNegation
      else do
        return (← readFlags (.negation :: items) rest).weaken (Read.took_one rest)
    else
      match flagOf? char with
      | none => .error .flagUnrecognized
      | some flag =>
        if .flag flag ∈ items then .error .flagDuplicate
        else do
          return (← readFlags (.flag flag :: items) rest).weaken (Read.took_one rest)

/-! ## Names -/

/-- Whether `char` may stand in a group name. -/
def isNameChar (first : Bool) (char : Char) : Bool :=
  char = '_' ∨ Unicode.isAlphabetic char ∨
    (¬ first ∧ (char = '.' ∨ char = '[' ∨ char = ']' ∨ Unicode.isNumeric char))

/-- Read the characters of a group name up to its `>`. -/
def readNameChars (first : Bool) :
    (text : List Char) → Except SyntaxError (Read (List Char) text)
  | [] => .error .groupNameUnexpectedEnd
  | char :: rest =>
    if char = '>' then .ok ⟨[], rest, Read.took_one rest⟩
    else if isNameChar first char then do
      let name ← readNameChars false rest
      return (name.map (char :: ·)).weaken (Read.took_one rest)
    else .error .groupNameInvalid

/-- Read a group name from behind its `<`. -/
def readGroupName (text : List Char) : Except SyntaxError (Read (List Char) text) := do
  let name ← readNameChars true text
  if name.value.isEmpty then throw .groupNameEmpty
  return name

/-! ## Headers -/

/-- Read a group header from behind the parenthesis and the blanks after it. -/
def readHeader (text : List Char) : Except SyntaxError (Read GroupHeader text) :=
  match text with
  | '?' :: '=' :: _ => .error .unsupportedLookAround
  | '?' :: '!' :: _ => .error .unsupportedLookAround
  | '?' :: '<' :: '=' :: _ => .error .unsupportedLookAround
  | '?' :: '<' :: '!' :: _ => .error .unsupportedLookAround
  | '?' :: 'P' :: '<' :: rest => do
    return ((← readGroupName rest).map .named).weaken (Read.took_three rest)
  | '?' :: '<' :: rest => do
    return ((← readGroupName rest).map .named).weaken (Read.took_two rest)
  | '?' :: [] => .error .groupUnclosed
  | '?' :: rest => do
    return (← readFlags [] rest).weaken (Read.took_one rest)
  | text => .ok ⟨.unnamed, text, Read.took_none text⟩

/-- Read a group header from behind the parenthesis. -/
def readGroupHeader (verbose : Bool) (text : List Char) :
    Except SyntaxError (Read GroupHeader text) := do
  return (← readHeader (skipBlank verbose text)).weaken (length_skipBlank_le verbose text)

end Linear
end LineExtraction

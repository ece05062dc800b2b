import LineExtraction.Text.Numeral
import LineExtraction.Yaml.Scalar.Gap

/-!
# Scalars in the flow of a line

A plain scalar is a row of words.  It ends in front of a comment, of an indicator, of a
document marker and of a line that is not indented enough.

Between single quotes every character stands for itself, and a quote is written twice.
Between double quotes a backslash escapes characters and the end of a line.
-/

namespace LineExtraction
namespace Yaml

open Decoding (Fault)

/-! ## Plain scalars -/

/-- A plain scalar, and whether there is the end of a line in the gap behind it. -/
structure PlainText where
  content : List Char
  endsLine : Bool
deriving Repr

/-- Whether `char` is an indicator inside flow collections. -/
def isFlowIndicator (char : Char) : Bool :=
  char = ',' ∨ char = '[' ∨ char = ']' ∨ char = '\x7b' ∨ char = '\x7d'

/-- Whether `char` may not stand behind a colon in a word of a flow collection. -/
def isColonTrap (char : Char) : Bool := isFlowIndicator char || char = '?'

/-- Read a word. -/
def readPlainWord (inFlow : Bool) : (text : List Char) → Except Fault (Read (List Char) text)
  | [] => .ok ⟨[], [], Read.left_nothing⟩
  | char :: rest =>
    if isSpacing char then .ok ⟨[], char :: rest, Read.left_one rest⟩
    else if inFlow ∧ char = ':' ∧ rest.head?.any isColonTrap then .error .illFormed
    else if (char = ':' ∧ spacedOrDone rest) ∨ (inFlow ∧ isFlowIndicator char) then
      .ok ⟨[], char :: rest, Read.left_one rest⟩
    else do
      let more ← readPlainWord inFlow rest
      return (more.map (char :: ·)).weaken (Read.took_one rest)

/-- Whether a plain scalar goes on behind a gap. -/
def plainGoesOn (inFlow : Bool) (indent : Nat) (gap : Gap) (behind : List Char) : Bool :=
  match gap with
  | .blanks _ => behind.head? ≠ some '#'
  | .breaks _ column =>
    (inFlow || indent ≤ column) && ! gap.isAtMarker behind && behind.head? ≠ some '#'

/-- Read a plain scalar whose first word starts with `front`, from behind that.  Outside
flow collections its further lines are indented by `indent` at least. -/
def readPlain (inFlow : Bool) (indent : Nat) (front text : List Char) :
    Except Fault (Read PlainText text) := do
  let read ← readPlainWord inFlow text
  let word := front ++ read.value
  match left : read.rest with
  | [] => return read.map fun _ => ⟨word, false⟩
  | char :: rest =>
    if isSpacing char then
      let gap ← readGapBehind indent char rest
      if plainGoesOn inFlow indent gap.value gap.rest then
        let more ← readPlain inFlow indent [] gap.rest
        let plain :=
          if more.value.content.isEmpty then ⟨word, gap.value.isBroken⟩
          else { more.value with content := word ++ gap.value.content ++ more.value.content }
        return ((more.map fun _ => plain).weaken gap.shorter).weaken (read.length_le left)
      else return (gap.map fun gap => ⟨word, gap.isBroken⟩).weaken (read.length_le left)
    else return read.map fun _ => ⟨word, false⟩
termination_by text.length
decreasing_by exact Nat.lt_of_le_of_lt gap.shorter (read.length_lt left)

/-! ## Quoted scalars -/

/-- The character that a letter behind a backslash stands for. -/
def charOfEscape? (letter : Char) : Option Char :=
  match letter with
  | '0' => some '\x00'
  | 'a' => some '\x07'
  | 'b' => some '\x08'
  | 't' => some '\t'
  | '\t' => some '\t'
  | 'n' => some '\n'
  | 'v' => some '\x0B'
  | 'f' => some '\x0C'
  | 'r' => some '\r'
  | 'e' => some '\x1B'
  | ' ' => some ' '
  | '"' => some '"'
  | '/' => some '/'
  | '\\' => some '\\'
  | 'N' => some nextLine
  | '_' => some '\u00A0'
  | 'L' => some '\u2028'
  | 'P' => some '\u2029'
  | _ => none

/-- How many digits a letter behind a backslash asks for. -/
def digitsOfEscape? (letter : Char) : Option Nat :=
  match letter with
  | 'x' => some 2
  | 'u' => some 4
  | 'U' => some 8
  | _ => none

/-- The character with a code, unless there is none. -/
def charOfCode? (code : Nat) : Option Char :=
  if code.isValidChar then some (Char.ofNat code) else none

/-- Read the character that the escape with a letter stands for, from behind that. -/
def readEscape (letter : Char) (text : List Char) : Except Fault (Read Char text) :=
  match charOfEscape? letter, digitsOfEscape? letter with
  | some char, _ => .ok ⟨char, text, Read.took_none text⟩
  | none, none => .error .illFormed
  | none, some count =>
    let digits := text.take count
    if digits.length = count ∧ digits.all isHexDigit then
      match charOfCode? (hexValue digits) with
      | some char => .ok ⟨char, text.drop count, by simp⟩
      | none => .error .illFormed
    else .error .illFormed

/-- Read the gap that starts with `char`.  No document marker may follow it. -/
def readQuotedGap (char : Char) (text : List Char) : Except Fault (Read Gap text) := do
  let gap ← readGapBehind 0 char text
  if gap.value.isAtMarker gap.rest then throw .illFormed
  return gap

/-- Read the gap behind an escaped line break, which itself counts for nothing. -/
def readEscapedGap (char : Char) (text : List Char) :
    Except Fault (Read (List Char) text) := do
  let behind ← readBehindBreak 0 char text
  if (Gap.breaks behind.value.1 behind.value.2).isAtMarker behind.rest then throw .illFormed
  return behind.map fun (content, _) => content

/-- Read the rest of a single-quoted scalar, up to behind the closing quote. -/
def readSingleQuoted (text : List Char) : Except Fault (Read (List Char) text) :=
  match text with
  | [] => .error .illFormed
  | '\'' :: '\'' :: rest => do
    let more ← readSingleQuoted rest
    return (more.map ('\'' :: ·)).weaken (Read.took_two rest)
  | '\'' :: rest => .ok ⟨[], rest, Read.took_one rest⟩
  | char :: rest =>
    if isSpacing char then do
      let gap ← readQuotedGap char rest
      have := gap.shorter
      let more ← readSingleQuoted gap.rest
      return ((more.map (gap.value.content ++ ·)).weaken gap.shorter).weaken (Read.took_one rest)
    else do
      let more ← readSingleQuoted rest
      return (more.map (char :: ·)).weaken (Read.took_one rest)
termination_by text.length
decreasing_by
  all_goals simp only [List.length_cons]
  all_goals omega

/-- Read the rest of a double-quoted scalar, up to behind the closing quote. -/
def readDoubleQuoted (text : List Char) : Except Fault (Read (List Char) text) :=
  match text with
  | [] => .error .illFormed
  | '"' :: rest => .ok ⟨[], rest, Read.took_one rest⟩
  | '\\' :: [] => .error .illFormed
  | '\\' :: char :: rest =>
    if isBreak char then do
      let gap ← readEscapedGap char rest
      have := gap.shorter
      let more ← readDoubleQuoted gap.rest
      return ((more.map (gap.value ++ ·)).weaken gap.shorter).weaken (Read.took_two rest)
    else do
      let escaped ← readEscape char rest
      have := escaped.shorter
      let more ← readDoubleQuoted escaped.rest
      return ((more.map (escaped.value :: ·)).weaken escaped.shorter).weaken (Read.took_two rest)
  | char :: rest =>
    if isSpacing char then do
      let gap ← readQuotedGap char rest
      have := gap.shorter
      let more ← readDoubleQuoted gap.rest
      return ((more.map (gap.value.content ++ ·)).weaken gap.shorter).weaken (Read.took_one rest)
    else do
      let more ← readDoubleQuoted rest
      return (more.map (char :: ·)).weaken (Read.took_one rest)
termination_by text.length
decreasing_by
  all_goals simp only [List.length_cons]
  all_goals omega

end Yaml
end LineExtraction

import LineExtraction.Decoding.DataError
import LineExtraction.Yaml.Character

/-!
# Block scalars

A block scalar is made of the lines below its header that are indented enough.  In a
literal one the line breaks stand for themselves; in a folded one a break between two
lines that do not start with a blank stands for a space.  What becomes of the breaks at
the end is up to the header.
-/

namespace LineExtraction
namespace Yaml

open Decoding (Fault)

/-- What becomes of the line breaks at the end of a block scalar: none, one or all of
them are kept. -/
inductive Chomping where
  | strip
  | clip
  | keep
deriving DecidableEq, Repr

/-- The header of a block scalar: what becomes of breaks at the end, and by how much
its lines are indented if that is told. -/
structure BlockHeader where
  chomping : Chomping
  increment : Option Nat
deriving DecidableEq, Repr

/-- The chomping that a sign asks for. -/
def chompingOf? (char : Char) : Option Chomping :=
  if char = '+' then some .keep else if char = '-' then some .strip else none

/-- Read a sign. -/
def readChomping (text : List Char) : Read (Option Chomping) text :=
  match text with
  | [] => ⟨none, [], Read.left_nothing⟩
  | char :: rest =>
    match chompingOf? char with
    | some chomping => ⟨some chomping, rest, Read.took_one rest⟩
    | none => ⟨none, char :: rest, Read.left_one rest⟩

/-- Read a digit other than zero. -/
def readIncrement (text : List Char) : Except Fault (Read (Option Nat) text) :=
  match text with
  | [] => .ok ⟨none, [], Read.left_nothing⟩
  | char :: rest =>
    if char = '0' then .error .illFormed
    else if char.isDigit then .ok ⟨some (char.toNat - '0'.toNat), rest, Read.took_one rest⟩
    else .ok ⟨none, char :: rest, Read.left_one rest⟩

/-- Read a sign and a digit, in any order. -/
def readIndicators (text : List Char) : Except Fault (Read BlockHeader text) := do
  let first := readChomping text
  let increment ← readIncrement first.rest
  have := first.shorter
  have := increment.shorter
  match first.value with
  | some chomping => return ⟨⟨chomping, increment.value⟩, increment.rest, by omega⟩
  | none =>
    let second := if increment.value.isSome then readChomping increment.rest
      else ⟨none, increment.rest, Nat.le_refl _⟩
    return ⟨⟨second.value.getD .clip, increment.value⟩, second.rest, by
      have := second.shorter
      omega⟩

/-- Pass over blanks and a comment. -/
def skipComment (text : List Char) : List Char :=
  let spaced := text.dropWhile isBlank
  if spaced.head? = some '#' then spaced.dropWhile (! isBreak ·) else spaced

theorem length_skipComment_le (text : List Char) :
    (skipComment text).length ≤ text.length := by
  simp only [skipComment]
  have spaced := (List.dropWhile_sublist isBlank (l := text)).length_le
  split
  · exact Nat.le_trans (List.dropWhile_sublist _).length_le spaced
  · exact spaced

/-- Read the rest of a line that holds nothing but blanks and a comment. -/
def readLineEnd (text : List Char) : Except Fault (Read Unit text) :=
  match skipComment text, length_skipComment_le text with
  | [], bound => .ok ⟨(), [], bound⟩
  | '\r' :: '\n' :: rest, bound =>
    .ok ((⟨(), rest, Read.took_two rest⟩ : Read Unit ('\r' :: '\n' :: rest)).weaken bound)
  | char :: rest, bound =>
    if isBreak char then
      .ok ((⟨(), rest, Read.took_one rest⟩ : Read Unit (char :: rest)).weaken bound)
    else .error .illFormed

/-- Read the header of a block scalar with the end of its line. -/
def readBlockHeader (text : List Char) : Except Fault (Read BlockHeader text) := do
  let header ← readIndicators text
  let behind ← readLineEnd header.rest
  return ⟨header.value, behind.rest, Nat.le_trans behind.shorter header.shorter⟩

/-- Empty lines: their breaks, the column behind them and the largest column on them. -/
structure EmptyLines where
  breaks : List Char
  column : Nat
  widest : Nat
deriving Repr

namespace EmptyLines

/-- Put a break in front. -/
def cons (char : Char) (column : Nat) (lines : EmptyLines) : EmptyLines :=
  { lines with breaks := breakContent char :: lines.breaks, widest := max column lines.widest }

end EmptyLines

/-- Read empty lines and the spaces that indent the next one.  Without an indentation
all spaces are read. -/
def readEmptyLines (indent : Option Nat) (column : Nat) :
    (text : List Char) → Except Fault (Read EmptyLines text)
  | [] => .ok ⟨⟨[], column, column⟩, [], Read.left_nothing⟩
  | '\r' :: '\n' :: rest => do
    let more ← readEmptyLines indent 0 rest
    return (more.map (·.cons '\n' column)).weaken (Read.took_two rest)
  | char :: rest =>
    let inIndentation := indent.all (column < ·)
    if inIndentation ∧ char = ' ' then do
      return (← readEmptyLines indent (column + 1) rest).weaken (Read.took_one rest)
    else if inIndentation ∧ char = '\t' then .error .illFormed
    else if isBreak char then do
      let more ← readEmptyLines indent 0 rest
      return (more.map (·.cons char column)).weaken (Read.took_one rest)
    else .ok ⟨⟨[], column, column⟩, char :: rest, Read.left_one rest⟩

/-- What has been read of a block scalar: its content, the break behind the last line,
the breaks of empty lines behind that, and whether the last line starts with a blank. -/
structure BlockText where
  content : List Char
  lastBreak : List Char
  emptyBreaks : List Char
  startsBlank : Bool
deriving Repr

namespace BlockText

/-- The text in front of the first line. -/
def start (emptyBreaks : List Char) : BlockText := ⟨[], [], emptyBreaks, false⟩

/-- What stands between the last line and the next one. -/
def joint (block : BlockText) (folded startsBlank : Bool) : List Char :=
  if folded ∧ block.lastBreak = ['\n'] ∧ ! block.startsBlank ∧ ! startsBlank then
    if block.emptyBreaks.isEmpty then [' '] else block.emptyBreaks
  else block.lastBreak ++ block.emptyBreaks

/-- Put a line behind the text. -/
def addLine (block : BlockText) (folded : Bool) (line lastBreak emptyBreaks : List Char) :
    BlockText :=
  let startsBlank := line.head?.any isBlank
  ⟨block.content ++ block.joint folded startsBlank ++ line, lastBreak, emptyBreaks, startsBlank⟩

/-- What the scalar stands for. -/
def chomped (block : BlockText) : Chomping → List Char
  | .strip => block.content
  | .clip => block.content ++ block.lastBreak
  | .keep => block.content ++ block.lastBreak ++ block.emptyBreaks

end BlockText

/-- A line break, if one stands here, and what it stands for. -/
def readLineBreak (text : List Char) : Read (List Char) text :=
  match text with
  | [] => ⟨[], [], Read.left_nothing⟩
  | '\r' :: '\n' :: rest => ⟨['\n'], rest, Read.took_two rest⟩
  | char :: rest => ⟨[breakContent char], rest, Read.took_one rest⟩

/-- Read the lines of a block scalar.  `column` is the number of spaces in front of the
text on its line. -/
def readBlockLines (folded : Bool) (indent column : Nat) (block : BlockText)
    (text : List Char) : Except Fault (Read BlockText text) :=
  match text with
  | [] => .ok ⟨block, [], Read.left_nothing⟩
  | char :: rest =>
    if column = indent then do
      let line := char :: rest.takeWhile (! isBreak ·)
      let lineBreak := readLineBreak (rest.dropWhile (! isBreak ·))
      let lines ← readEmptyLines (some indent) 0 lineBreak.rest
      have bound : lines.rest.length ≤ rest.length :=
        Nat.le_trans (Nat.le_trans lines.shorter lineBreak.shorter)
          (List.dropWhile_sublist _).length_le
      let more ← readBlockLines folded indent lines.value.column
        (block.addLine folded line lineBreak.value lines.value.breaks) lines.rest
      return (more.weaken bound).weaken (Read.took_one rest)
    else .ok ⟨block, char :: rest, Read.left_one rest⟩
termination_by text.length
decreasing_by exact Nat.lt_succ_of_le bound

/-- Read a block scalar from behind its indicator.  Its lines are indented by `parent`
at least, and by one column in any case. -/
def readBlock (folded : Bool) (parent : Nat) (text : List Char) :
    Except Fault (Read (List Char) text) := do
  let header ← readBlockHeader text
  let told := header.value.increment.map (parent - 1 + ·)
  let lines ← readEmptyLines told 0 header.rest
  let indent := told.getD (max lines.value.widest (max parent 1))
  let block ← readBlockLines folded indent lines.value.column (.start lines.value.breaks) lines.rest
  return ⟨block.value.chomped header.value.chomping, block.rest,
    Nat.le_trans block.shorter (Nat.le_trans lines.shorter header.shorter)⟩

end Yaml
end LineExtraction

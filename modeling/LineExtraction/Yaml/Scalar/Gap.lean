import LineExtraction.Decoding.DataError
import LineExtraction.Yaml.Character

/-!
# Gaps between words

In plain and quoted scalars words are set apart by blanks and line breaks.  Blanks
alone stand for themselves.  Blanks around line breaks are dropped, and of the breaks
the first one only counts when it is alone: it stands for a space.
-/

namespace LineExtraction
namespace Yaml

open Decoding (Fault)

/-- What stands between two words: blanks, or line breaks with the number of blanks
behind the last one. -/
inductive Gap where
  | blanks (content : List Char)
  | breaks (content : List Char) (column : Nat)
deriving Repr

namespace Gap

/-- What the breaks of a scalar stand for, the first one being at the front. -/
def fold : List Char → List Char
  | [] => []
  | ['\n'] => [' ']
  | '\n' :: more => more
  | content => content

/-- What a gap stands for. -/
def content : Gap → List Char
  | blanks content => content
  | breaks content _ => fold content

/-- Whether a gap goes over the end of a line. -/
def isBroken : Gap → Bool
  | blanks _ => false
  | breaks _ _ => true

/-- Whether a gap ends in front of a document marker. -/
def isAtMarker (gap : Gap) (behind : List Char) : Bool :=
  match gap with
  | blanks _ => false
  | breaks _ column => column = 0 ∧ atDocumentMarker behind

end Gap

/-- Read breaks and blanks behind a break.  `column` is the number of blanks since the
last break, and tabs may not stand in front of the column `tabsFrom`. -/
def readBreaks (tabsFrom column : Nat) :
    (text : List Char) → Except Fault (Read (List Char × Nat) text)
  | [] => .ok ⟨([], column), [], Read.left_nothing⟩
  | '\r' :: '\n' :: rest => do
    let more ← readBreaks tabsFrom 0 rest
    return (more.map fun (breaks, column) => ('\n' :: breaks, column)).weaken
      (Read.took_two rest)
  | char :: rest =>
    if isBlank char then
      if char = '\t' ∧ column < tabsFrom then .error .illFormed
      else do return (← readBreaks tabsFrom (column + 1) rest).weaken (Read.took_one rest)
    else if isBreak char then do
      let more ← readBreaks tabsFrom 0 rest
      return (more.map fun (breaks, column) => (breakContent char :: breaks, column)).weaken
        (Read.took_one rest)
    else .ok ⟨([], column), char :: rest, Read.left_one rest⟩

/-- Read breaks and blanks behind the break `char`. -/
def readBehindBreak (tabsFrom : Nat) (char : Char) (text : List Char) :
    Except Fault (Read (List Char × Nat) text) :=
  match char, text with
  | '\r', '\n' :: rest => do return (← readBreaks tabsFrom 0 rest).weaken (Read.took_one rest)
  | _, text => readBreaks tabsFrom 0 text

/-- Read a gap that starts with the break `char`. -/
def readBrokenGap (tabsFrom : Nat) (char : Char) (text : List Char) :
    Except Fault (Read Gap text) := do
  let behind ← readBehindBreak tabsFrom char text
  return behind.map fun (content, column) => .breaks (breakContent char :: content) column

/-- Read a gap.  `blanks` are the blanks in front of the text. -/
def readGap (tabsFrom : Nat) (blanks : List Char) :
    (text : List Char) → Except Fault (Read Gap text)
  | [] => .ok ⟨.blanks blanks, [], Read.left_nothing⟩
  | char :: rest =>
    if isBlank char then do
      return (← readGap tabsFrom (blanks ++ [char]) rest).weaken (Read.took_one rest)
    else if isBreak char then do
      return (← readBrokenGap tabsFrom char rest).weaken (Read.took_one rest)
    else .ok ⟨.blanks blanks, char :: rest, Read.left_one rest⟩

/-- Read a gap that starts with `char`. -/
def readGapBehind (tabsFrom : Nat) (char : Char) (text : List Char) :
    Except Fault (Read Gap text) :=
  if isBlank char then readGap tabsFrom [char] text else readBrokenGap tabsFrom char text

end Yaml
end LineExtraction

import LineExtraction.Linear.Footprint.SetLayout
import LineExtraction.Linear.Openings

/-!
# The room that a compiled pattern takes

A pattern is refused when an automaton for it would need more room than a limit allows.
There are two automata: one reads a line forward and marks groups, the other reads it
backward and marks none.  A pattern that is no more than a few fixed texts needs no
automaton and has no size.
-/

namespace LineExtraction
namespace Linear

/-! ## Choices between texts

A choice between plain texts is laid out as a tree over their bytes: texts that begin
alike share the states of that beginning, as long as no text that ends in between has a
right to be preferred to the later ones. -/

/-- Cut a list of texts behind each empty one.  The empty ones are left out. -/
def cutAtEnds : List (List UInt8) → List (List (List UInt8))
  | [] => [[]]
  | [] :: texts => [] :: cutAtEnds texts
  | text :: texts =>
    match cutAtEnds texts with
    | [] => [[text]]
    | first :: rest => (text :: first) :: rest

/-- The pieces of a node.  Ends count only once before anything else begins. -/
def trieChunks (texts : List (List UInt8)) : List (List (List UInt8)) :=
  match texts.span (·.isEmpty) with
  | ([], texts) => cutAtEnds texts
  | (_, texts) => [] :: cutAtEnds texts

/-- The first bytes of the texts, without repetition. -/
def firstBytes (texts : List (List UInt8)) : List UInt8 :=
  (texts.filterMap List.head?).eraseDups

/-- What follows a first byte in the texts that begin with it. -/
def textsBehind (byte : UInt8) (texts : List (List UInt8)) : List (List UInt8) :=
  texts.filterMap fun text =>
    match text with
    | first :: rest => if first = byte then some rest else none
    | [] => none

/-- The room of the state of one piece, which reads one of `count` bytes. -/
def chunkRoom (count : Nat) : Room :=
  if count = 0 then .none
  else if count = 1 then .state 0
  else .state (rangeBytes * count)

/-- The room of a node that has texts left, none of them longer than `depth`. -/
def trieRoom : (depth : Nat) → List (List UInt8) → Room
  | 0, _ => .none
  | depth + 1, texts =>
    let chunks := trieChunks texts
    let counts := chunks.map fun chunk => (firstBytes chunk).length
    let targets := (counts.filter (· ≠ 0)).length + (chunks.length - 1)
    let rooms := chunks.flatMap fun chunk =>
      (firstBytes chunk).map fun byte =>
        let rest := textsBehind byte chunk
        if rest.all (·.isEmpty) then .none else trieRoom depth rest
    ((counts.map chunkRoom) ++ rooms).foldl Room.add (.state (targetBytes * targets))

/-- Lay out a choice between texts, with the state that all of them end in. -/
def layOutTexts (texts : List (List UInt8)) : Layout Unit :=
  let depth := (texts.map List.length).foldl max 0
  Layout.take ((Room.state 0).add (trieRoom depth texts))

/-! ## Patterns -/

/-- The limit when none is asked for. -/
def defaultSizeLimit : Nat := 10 * Nat.pow 2 20

namespace Tree

/-- The bytes of a literal, when the tree is one. -/
def literalBytes? : Tree → Option (List UInt8)
  | literal chars => some (chars.flatMap String.utf8EncodeChar)
  | _ => none

/-- Whether the tree holds a set without members. -/
def hasEmptySet : Tree → Bool
  | set members => members.isEmpty
  | repetition _ _ _ body => body.hasEmptySet
  | capture _ _ body => body.hasEmptySet
  | concat first rest => first.hasEmptySet ∨ rest.hasEmptySet
  | alternation first rest => first.hasEmptySet ∨ rest.hasEmptySet
  | _ => false

/-- Whether it is known that every match takes at least one character. -/
def consumes (tree : Tree) : Bool :=
  ¬ tree.hasEmptySet ∧ 0 < tree.minLength

/-- Whether every match begins by holding to an assertion. -/
def opensWith (look : Look) : Tree → Bool
  | .look own => own = look
  | repetition min _ _ body => 0 < min ∧ body.opensWith look
  | capture _ _ body => body.opensWith look
  | concat first rest => first.opensWith look ∨ (first.onlyEmpty ∧ rest.opensWith look)
  | alternation first rest => first.opensWith look ∧ rest.opensWith look
  | _ => false

/-- Whether every match ends by holding to an assertion. -/
def closesWith (look : Look) : Tree → Bool
  | .look own => own = look
  | repetition min _ _ body => 0 < min ∧ body.closesWith look
  | capture _ _ body => body.closesWith look
  | concat first rest => rest.closesWith look ∨ (rest.onlyEmpty ∧ first.closesWith look)
  | alternation first rest => first.closesWith look ∧ rest.closesWith look
  | _ => false

/-- Whether the automaton that reads this way can only start where the line does. -/
def isAnchored (direction : Direction) (tree : Tree) : Bool :=
  match direction with
  | .forward => tree.opensWith .startText
  | .backward => tree.closesWith .endText

end Tree

/-- How an automaton is laid out: the way it reads, and whether it marks groups. -/
structure Shape where
  direction : Direction
  groups : Bool
deriving DecidableEq, Repr

/-- Lay out a repetition of a step.  `consumes` says that a turn takes at least one
character. -/
def layOutRepetition (min : Nat) (max : Option Nat) (consumes : Bool) (turn : Layout Unit) :
    Layout Unit := do
  match max with
  | none =>
    if 0 < min then
      Layout.times min turn
      Layout.newChoice 2
    else if consumes then
      Layout.newChoice 2
      turn
    else
      turn
      Layout.newChoice 2
      Layout.newChoice 2
      Layout.take (.state 0)
  | some max =>
    if min = 0 ∧ max = 1 then
      Layout.newChoice 2
      turn
      Layout.take (.state 0)
    else
      if min = 0 then Layout.take (.state 0) else Layout.times min turn
      if min < max then
        Layout.take (.state 0)
        Layout.times (max - min) do
          Layout.newChoice 2
          turn

namespace Shape

/-- Lay out a choice between texts in the order of reading. -/
def layOutTextChoice (shape : Shape) (texts : List (List UInt8)) : Layout Unit :=
  layOutTexts <| match shape.direction with
    | .forward => texts
    | .backward => texts.map List.reverse

/-- Lay out the two states of a choice between `targets` branches.  None are left to lay
out when there are no targets. -/
def layOutChoice (targets : Nat) : Layout Unit := do
  if targets ≠ 0 then
    Layout.newChoice targets
    Layout.take (.state 0)

mutual

/-- Lay out a tree. -/
def layOut (shape : Shape) : Tree → Layout Unit
  | .empty => Layout.take (.state 0)
  | .literal chars => Layout.take ⟨(chars.map Char.utf8Size).foldr (· + ·) 0, 0⟩
  | .set members => layOutSet shape.direction members
  | .look _ => Layout.take (.state 0)
  | .repetition min max _ body => layOutRepetition min max body.consumes (layOut shape body)
  | .capture _ _ body => do
    if shape.groups then
      Layout.take (.state 0)
      layOut shape body
      Layout.take (.state 0)
    else layOut shape body
  | .concat first rest =>
    match shape.direction with
    | .forward => do
      layOut shape first
      layOut shape rest
    | .backward => do
      layOut shape rest
      layOut shape first
  | .alternation first rest =>
    match (first :: rest.branches).mapM Tree.literalBytes? with
    | some texts => shape.layOutTextChoice texts
    | none => do
      layOut shape first
      layOutRest shape (rest.branches.length + 1) rest
termination_by tree => 2 * tree.size
decreasing_by all_goals grind [Tree.size]

/-- Lay out the branches of a choice behind the first.  The states of the choice itself
come behind the next branch. -/
def layOutRest (shape : Shape) (targets : Nat) : Tree → Layout Unit
  | .alternation first rest => do
    layOut shape first
    layOutChoice targets
    layOutRest shape 0 rest
  | tree => do
    layOut shape tree
    layOutChoice targets
termination_by tree => 2 * tree.size + 1
decreasing_by all_goals grind [Tree.size]

end

/-- Lay out a whole pattern, with the groups that mark it and the state of its match. -/
def layOutPattern (shape : Shape) (tree : Tree) : Layout Unit := do
  if shape.groups then
    Layout.take (.state 0)
    shape.layOut tree
    Layout.take (.state 0)
  else shape.layOut tree
  Layout.take (.state 0)

/-- Lay out what stands before the patterns: unless they are anchored, a loop over any
bytes. -/
def layOutFront (shape : Shape) (trees : List Tree) : Layout Unit := do
  if trees.all (Tree.isAnchored shape.direction) then Layout.take (.state 0)
  else
    Layout.newChoice 2
    Layout.take ⟨2, rangeBytes⟩

/-- Lay out the choice between patterns. -/
def layOutPatterns (shape : Shape) : List Tree → Layout Unit
  | [] => Layout.take (.state 0)
  | [tree] => shape.layOutPattern tree
  | first :: second :: others => do
    shape.layOutPattern first
    shape.layOutPattern second
    layOutChoice (others.length + 2)
    for tree in others do
      shape.layOutPattern tree

/-- Lay out a whole automaton. -/
def layOutAutomaton (shape : Shape) (trees : List Tree) : Layout Unit := do
  shape.layOutFront trees
  shape.layOutPatterns trees

end Shape

/-- Whether the automata of the patterns, taken together, need no more than `limit`
bytes.  With `groups` the one that reads forward marks groups. -/
def fitsWithin (limit : Nat) (groups : Bool) (trees : List Tree) : Bool :=
  (Shape.layOutAutomaton ⟨.forward, groups⟩ trees).fits limit ∧
    (Shape.layOutAutomaton ⟨.backward, false⟩ trees).fits limit

end Linear
end LineExtraction

import LineExtraction.Linear.Footprint
import LineExtraction.Linear.Lowering
import LineExtraction.Linear.Parser
import LineExtraction.Linear.Search

/-!
# Compiled linear patterns

A pattern of the linear dialect ready to run: its tree, its program, and the names
of its groups by number.  Matching takes time linear in the line for a fixed
pattern.
-/

namespace LineExtraction
namespace Linear

/-- Why a pattern cannot be compiled. -/
inductive CompileError where
  | illFormed (cause : SyntaxError)
  | tooBig (limit : Nat)
deriving DecidableEq, Repr

namespace CompileError

/-- The wording of the error. -/
def message : CompileError → String
  | illFormed cause => "regex: " ++ cause.message
  | tooBig limit => "Compiled regex exceeds size limit of " ++ toString limit ++ " bytes."

end CompileError

/-- A compiled pattern. -/
structure Regex where
  tree : Tree
  program : Program
  groupNames : List (Option String)
deriving Repr

/-- The groups of a tree in the order they are compiled, with their names. -/
def Tree.captures : Tree → List (Nat × Option (List Char))
  | capture index name body => (index, name) :: body.captures
  | repetition _ _ _ body => body.captures
  | concat first rest => first.captures ++ rest.captures
  | alternation first rest => first.captures ++ rest.captures
  | _ => []

/-- The names of the groups from 0 on, up to the last group that is left.  A group
under a repetition that never runs is not left. -/
def Tree.groupNames (tree : Tree) : List (Option String) :=
  let captures := tree.captures
  let last := captures.foldl (fun last capture => Nat.max last capture.1) 0
  (List.range (last + 1)).map fun index =>
    ((captures.find? (·.1 = index)).bind (·.2)).map String.ofList

namespace Regex

/-- The compiled pattern of a tree. -/
def ofTree (tree : Tree) : Regex :=
  ⟨tree, .ofTree tree, tree.groupNames⟩

/-- The tree of a pattern's text. -/
def treeOf (pattern : String) : Except SyntaxError Tree := do
  lowerPattern (← parse pattern.toList)

/-- Compile a pattern within a limit on the size of its automaton. -/
def compile (sizeLimit : Nat) (pattern : String) : Except CompileError Regex := do
  let tree ← (treeOf pattern).mapError .illFormed
  if ¬ (tree.isFixedTexts ∨ fitsWithin sizeLimit true [tree]) then throw (.tooBig sizeLimit)
  return ofTree tree

/-- How many slots a match of the pattern has: two for each group. -/
def slotCount (regex : Regex) : Nat := 2 * regex.groupNames.length

/-- The preferred match in a line, if there is one. -/
def search (regex : Regex) (line : Line) : Option Slots :=
  Linear.search regex.program regex.slotCount line

/-- The preferred match that starts at a position, if there is one. -/
def matchAt (regex : Regex) (line : Line) (position : Nat) : Option Slots :=
  Linear.matchAt regex.program regex.slotCount line position

/-- Whether the pattern matches somewhere in a line. -/
def isMatch (regex : Regex) (line : Line) : Bool :=
  (regex.search line).isSome

end Regex
end Linear
end LineExtraction

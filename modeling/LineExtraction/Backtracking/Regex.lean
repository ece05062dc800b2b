import LineExtraction.Backtracking.Machine
import LineExtraction.Backtracking.Parser

/-!
# Compiled backtracking patterns

A pattern of the backtracking dialect ready to run.  A pattern that is not hard as a
whole is handed to the linear engine and never backtracks.
-/

namespace LineExtraction
namespace Backtracking

open Linear (Slots)

/-- What runs a compiled pattern. -/
inductive Engine where
  | linear (regex : Linear.Regex)
  | machine (program : Program) (ast : Ast)
deriving Repr

/-- A compiled pattern: its engine, how many branches a search may take up, and the
names of its groups from 0 on. -/
structure Regex where
  engine : Engine
  backtrackLimit : Nat
  groupNames : List (Option String)
deriving Repr

/-- The names of the groups below `groupCount`.  A name that stands at several groups
names the last of them. -/
def groupNamesOf (groupCount : Nat) (names : List (List Char × Nat)) : List (Option String) :=
  (List.range groupCount).map fun group =>
    (names.find? fun (name, index) => index = group ∧ names.lookup name = some group).map
      fun (name, _) => String.ofList name

namespace Regex

/-- Compile a pattern. -/
def compile (backtrackLimit : Nat) (pattern : String) : Except CompileError Regex := do
  let parsed ← (parse pattern.toList).mapError .illFormed
  if parsed.dangling then throw .invalidReference
  let names := groupNamesOf (parsed.captures + 1) parsed.names
  if parsed.ast.isHard then
    let program ← Program.compile (parsed.captures + 1) parsed.ast
    return ⟨.machine program parsed.ast, backtrackLimit, names⟩
  else
    let text := String.ofList (parsed.ast.toText .loose)
    let regex ← (Linear.Regex.compile Linear.defaultSizeLimit text).mapError .ofLinear
    return ⟨.linear regex, backtrackLimit, names⟩

/-- The preferred match in a line, if there is one, or why the search was given up. -/
def search (regex : Regex) (line : Line) : Except RunError (Option Slots) :=
  match regex.engine with
  | .linear linear => .ok (linear.search line)
  | .machine program ast => Backtracking.search program ast regex.backtrackLimit line

end Regex
end Backtracking
end LineExtraction

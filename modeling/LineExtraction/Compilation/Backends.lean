import LineExtraction.Backtracking.Regex
import LineExtraction.Compilation.Dialect
import LineExtraction.Linear.Regex
import LineExtraction.Pattern.NumberedReference
import LineExtraction.Pattern.Quote
import LineExtraction.Pattern.Wrap

/-!
# The two dialects

Patterns of the linear dialect know neither look-around nor references, and matching
never gives up.  Patterns of the backtracking dialect may look around, commit, and refer
to groups by name.  They may not refer to groups by number, since the numbers change when
pieces are put together.
-/

namespace LineExtraction
namespace Dialect

/-! ## The linear dialect -/

/-- Compile a pattern of the linear dialect. -/
def compileLinear (sizeLimit : Nat) (pattern : String) : Except String Linear.Regex :=
  (Linear.Regex.compile sizeLimit pattern).mapError Linear.CompileError.message

/-- Match a line and yield the spans of groups. -/
def attemptLinear (regex : Linear.Regex) (groups : List Nat) (line : Line) : Attempt :=
  match regex.search line with
  | none => .noMatch
  | some slots => .spans (groups.map (spanOf? line slots))

/-- The dialect for the linear engine, with a limit on the size of each pattern. -/
def linear (sizeLimit : Nat) : Dialect where
  name := "regex"
  literal := Pattern.quoteLinear
  pattern text := do
    let grouped := Pattern.wrap text
    let _ ← compileLinear sizeLimit grouped
    return grouped
  openExpression ordinal := "(?P<" ++ expressionGroup ordinal ++ ">"
  closeExpression := ")"
  finish index pattern definition := do
    let regex ← (compileLinear sizeLimit (anchored pattern)).mapError
      (compositionError index pattern definition)
    unitOf index pattern definition regex.groupNames (attemptLinear regex)

/-! ## The backtracking dialect -/

/-- Compile a pattern of the backtracking dialect. -/
def compileBacktracking (backtrackLimit : Nat) (pattern : String) :
    Except String Backtracking.Regex :=
  (Backtracking.Regex.compile backtrackLimit pattern).mapError Backtracking.CompileError.message

/-- Match a line and yield the spans of groups. -/
def attemptBacktracking (regex : Backtracking.Regex) (groups : List Nat) (line : Line) :
    Attempt :=
  match regex.search line with
  | .error reason => .gaveUp reason.message
  | .ok none => .noMatch
  | .ok (some slots) => .spans (groups.map (spanOf? line slots))

/-- Why a pattern with a numbered reference is refused. -/
def numberedReferenceMessage (reference : String) : String :=
  "numbered group reference `" ++ reference ++
    "` is not supported; name the group and use `\\k<name>`"

/-- The dialect for the backtracking engine, with a limit on the branches that a
search may take up. -/
def backtracking (backtrackLimit : Nat) : Dialect where
  name := "fancy-regex"
  literal := Pattern.quoteBacktracking
  pattern text :=
    match Pattern.numberedReference? text with
    | some reference => .error (numberedReferenceMessage reference)
    | none => do
      let grouped := Pattern.wrap text
      let _ ← compileBacktracking backtrackLimit grouped
      return grouped
  openExpression ordinal := "(?P<" ++ expressionGroup ordinal ++ ">"
  closeExpression := ")"
  finish index pattern definition := do
    let regex ← (compileBacktracking backtrackLimit (anchored pattern)).mapError
      (compositionError index pattern definition)
    unitOf index pattern definition regex.groupNames (attemptBacktracking regex)

end Dialect
end LineExtraction

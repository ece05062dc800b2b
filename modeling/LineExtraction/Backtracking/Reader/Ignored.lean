import LineExtraction.Backtracking.SyntaxError
import LineExtraction.Text.Read

/-!
# Text that patterns ignore

Comments in parentheses may stand between any two tokens.  In verbose mode so may
blanks, and comments from a `#` to the end of their line.
-/

namespace LineExtraction
namespace Backtracking

/-- Where in the ignored text a reader stands. -/
inductive Skipping where
  | outside
  | lineComment
  | groupComment
deriving DecidableEq, Repr

/-- Whether verbose mode ignores the character. -/
def isBlank (char : Char) : Bool :=
  char = ' ' ∨ char = '\r' ∨ char = '\n' ∨ char = '\t'

/-- Pass over ignored text from a given place in it. -/
def skipFrom (verbose : Bool) :
    Skipping → (text : List Char) → Except SyntaxError (Read Unit text)
  | .outside, '(' :: '?' :: '#' :: rest => do
    return (← skipFrom verbose .groupComment rest).weaken (Read.took_three rest)
  | .outside, char :: rest =>
    if verbose ∧ char = '#' then do
      return (← skipFrom verbose .lineComment rest).weaken (Read.took_one rest)
    else if verbose ∧ isBlank char then do
      return (← skipFrom verbose .outside rest).weaken (Read.took_one rest)
    else .ok ⟨(), char :: rest, Read.left_one rest⟩
  | .lineComment, char :: rest => do
    let next := if char = '\n' then .outside else .lineComment
    return (← skipFrom verbose next rest).weaken (Read.took_one rest)
  | .groupComment, ')' :: rest => do
    return (← skipFrom verbose .outside rest).weaken (Read.took_one rest)
  | .groupComment, '\\' :: _ :: rest => do
    return (← skipFrom verbose .groupComment rest).weaken (Read.took_two rest)
  | .groupComment, _ :: rest => do
    return (← skipFrom verbose .groupComment rest).weaken (Read.took_one rest)
  | .groupComment, [] => .error .parenUnclosed
  | _, [] => .ok ⟨(), [], Read.left_nothing⟩

/-- Pass over ignored text. -/
def skipIgnored (verbose : Bool) (text : List Char) : Except SyntaxError (Read Unit text) :=
  skipFrom verbose .outside text

/-- Read the closing parenthesis of a group. -/
def readCloseParen (verbose : Bool) (text : List Char) :
    Except SyntaxError (Read Unit text) := do
  let blank ← skipIgnored verbose text
  have shorter := blank.shorter
  match _ : blank.rest with
  | [] => .error .parenUnclosed
  | ')' :: rest => return ⟨(), rest, by simp_all only [List.length_cons]; omega⟩
  | _ => .error .closeParenExpected

end Backtracking
end LineExtraction

import LineExtraction.Text.Read
import LineExtraction.Unicode.ClassName

/-!
# Blanks in linear patterns

In verbose mode blanks and comments may stand between the characters of most
tokens; `skipBlank` passes over them, and `readRun` reads characters that may have
blanks between them.
-/

namespace LineExtraction
namespace Linear

/-- Pass over white space, and over comments from `#` to the end of their line. -/
def skipComments (inComment : Bool) : List Char → List Char
  | [] => []
  | char :: rest =>
    if inComment then skipComments (char ≠ '\n') rest
    else if Unicode.isWhiteSpace char then skipComments false rest
    else if char = '#' then skipComments true rest
    else char :: rest

theorem length_skipComments_le (inComment : Bool) (text : List Char) :
    (skipComments inComment text).length ≤ text.length := by
  fun_induction skipComments inComment text <;> simp_all <;> omega

/-- Pass over what verbose mode ignores. -/
def skipBlank (verbose : Bool) (text : List Char) : List Char :=
  if verbose then skipComments false text else text

theorem length_skipBlank_le (verbose : Bool) (text : List Char) :
    (skipBlank verbose text).length ≤ text.length := by
  unfold skipBlank
  split
  · exact length_skipComments_le false text
  · exact Nat.le_refl _

theorem length_le_of_skipBlank {verbose : Bool} {text rest : List Char}
    (skipped : skipBlank verbose text = rest) : rest.length ≤ text.length :=
  skipped ▸ length_skipBlank_le verbose text

/-- What stands behind the first character that is no blank is shorter than the text. -/
theorem length_lt_of_skipBlank {verbose : Bool} {text rest : List Char} {first : Char}
    (skipped : skipBlank verbose text = first :: rest) : rest.length < text.length := by
  have bound := length_skipBlank_le verbose text
  rw [skipped, List.length_cons] at bound
  omega

/-- The first character that is neither white space nor a `#`.  Once a `#` has been
passed over, only white space is. -/
def peekPastBlank (inComment : Bool) : List Char → Option Char
  | [] => none
  | char :: rest =>
    if Unicode.isWhiteSpace char then peekPastBlank inComment rest
    else if char = '#' ∧ ¬ inComment then peekPastBlank true rest
    else some char

/-- The character that comes next.  Verbose mode looks past blanks, unless there is
nothing behind them. -/
def peekBlank (verbose : Bool) (text : List Char) : Option Char :=
  if verbose then (peekPastBlank false text).or text.head? else text.head?

/-- Pass over white space in any mode. -/
def skipWhiteSpace (text : List Char) : List Char :=
  text.dropWhile Unicode.isWhiteSpace

theorem length_skipWhiteSpace_le (text : List Char) :
    (skipWhiteSpace text).length ≤ text.length :=
  (List.dropWhile_sublist _).length_le

/-! ## Runs of characters with blanks between them -/

/-- Read characters while `accepts` holds, passing over blanks behind each. -/
def readRun (verbose : Bool) (accepts : Char → Bool) (text : List Char) :
    Read (List Char) text :=
  match text with
  | [] => ⟨[], [], Read.left_nothing⟩
  | char :: rest =>
    if accepts char then
      have shorter := length_skipBlank_le verbose rest
      let run := readRun verbose accepts (skipBlank verbose rest)
      ⟨char :: run.value, run.rest, by
        have := run.shorter
        simp only [List.length_cons]
        omega⟩
    else ⟨[], char :: rest, Read.left_one rest⟩
termination_by text.length
decreasing_by exact Nat.lt_succ_of_le shorter

end Linear
end LineExtraction

import LineExtraction.Linear.Ast
import LineExtraction.Linear.Blank
import LineExtraction.Linear.SyntaxError
import LineExtraction.Text.Numeral

/-!
# Reading quantifiers

A quantifier says how often the pattern before it repeats: `?`, `*`, `+`, or a
count in braces.  A `?` behind it asks for as few repetitions as possible.
-/

namespace LineExtraction
namespace Linear

/-- The largest count that may be written. -/
def maximalCount : Nat := Nat.pow 2 32 - 1

/-- The count that the digits write, or why they write none. -/
def countOf (digits : List Char) : Except SyntaxError Nat :=
  if digits.isEmpty then .error .repetitionCountDecimalEmpty
  else if maximalCount < decimalValue digits then .error .decimalInvalid
  else .ok (decimalValue digits)

/-- Pass over white space behind digits, and over comments that follow it. -/
def skipAround (verbose : Bool) (text : List Char) : List Char :=
  match text with
  | [] => []
  | char :: rest =>
    if Unicode.isWhiteSpace char then skipAround verbose (skipBlank verbose rest)
    else char :: rest
termination_by text.length
decreasing_by
  have := length_skipBlank_le verbose rest
  simp only [List.length_cons]
  omega

theorem length_skipAround_le (verbose : Bool) (text : List Char) :
    (skipAround verbose text).length ≤ text.length := by
  fun_induction skipAround verbose text with
  | case1 => simp
  | case2 char rest blank inductionHypothesis =>
    have := length_skipBlank_le verbose rest
    simp only [List.length_cons]
    omega
  | case3 => simp

/-- Read a count with the white space on both sides of it.  That the count is
faulty matters only where it is needed, so the fault is part of the value. -/
def readCount (verbose : Bool) (text : List Char) :
    Read (Except SyntaxError Nat) text :=
  have leading := length_skipWhiteSpace_le text
  let digits := readRun verbose Char.isDigit (skipWhiteSpace text)
  ⟨countOf digits.value, skipAround verbose digits.rest, by
    have := digits.shorter
    have := length_skipAround_le verbose digits.rest
    omega⟩

/-- Read an optional `?` that makes a quantifier lazy. -/
def readLaziness (text : List Char) : Read Bool text :=
  match text with
  | '?' :: rest => ⟨false, rest, Read.took_one rest⟩
  | text => ⟨true, text, Read.took_none text⟩

/-- The closing brace of a count, and what follows it. -/
def readCountEnd (verbose : Bool) (min : Nat) (max : Option Nat) (text : List Char) :
    Except SyntaxError (Read Repeat text) :=
  match text with
  | '}' :: rest =>
    have skipped := length_skipBlank_le verbose rest
    let greedy := readLaziness (skipBlank verbose rest)
    if max.any (· < min) then .error .repetitionCountInvalid
    else
      .ok ⟨⟨min, max, greedy.value⟩, greedy.rest, by
        have := greedy.shorter
        simp only [List.length_cons]
        omega⟩
  | _ => .error .repetitionCountUnclosed

/-- Read a counted quantifier from behind its opening brace. -/
def readCounted (verbose : Bool) (text : List Char) : Except SyntaxError (Read Repeat text) :=
  have skipped := length_skipBlank_le verbose text
  if (skipBlank verbose text).isEmpty then .error .repetitionCountUnclosed
  else
    let low := readCount verbose (skipBlank verbose text)
    have lowShorter := low.shorter
    match _ : low.rest with
    | [] => .error .repetitionCountUnclosed
    | ',' :: behind =>
      have behindSkipped := length_skipBlank_le verbose behind
      match _ : skipBlank verbose behind with
      | [] => .error .repetitionCountUnclosed
      | '}' :: rest => do
        let min ← low.value
        let read ← readCountEnd verbose min none ('}' :: rest)
        return read.weaken (by simp_all only [List.length_cons]; omega)
      | next :: rest => do
        let min ← low.value
        let high := readCount verbose (next :: rest)
        have highShorter := high.shorter
        let max ← high.value
        let read ← readCountEnd verbose min (some max) high.rest
        return read.weaken (by simp_all only [List.length_cons]; omega)
    | next :: rest => do
      let min ← low.value
      let read ← readCountEnd verbose min (some min) (next :: rest)
      return read.weaken (by simp_all only [List.length_cons]; omega)

/-- Read a quantifier that starts with `first`, when that starts one. -/
def readQuantifier? (verbose : Bool) (first : Char) (text : List Char) :
    Option (Except SyntaxError (Read Repeat text)) :=
  match first with
  | '?' => some (.ok ((readLaziness text).map fun greedy => ⟨0, some 1, greedy⟩))
  | '*' => some (.ok ((readLaziness text).map fun greedy => ⟨0, none, greedy⟩))
  | '+' => some (.ok ((readLaziness text).map fun greedy => ⟨1, none, greedy⟩))
  | '{' => some (readCounted verbose text)
  | _ => none

end Linear
end LineExtraction

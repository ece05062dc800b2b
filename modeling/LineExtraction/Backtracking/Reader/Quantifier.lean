import LineExtraction.Backtracking.Reader.Ignored
import LineExtraction.Backtracking.Reader.Reference

/-!
# Reading quantifiers

A quantifier says how often the pattern before it repeats.  A `?` behind it asks
for as few repetitions as possible, and a `+` behind that commits to the
repetitions once they are made.  Braces that hold no count are no quantifier.
-/

namespace LineExtraction
namespace Backtracking

/-- How often a pattern repeats. -/
structure Quantifier where
  min : Nat
  max : Option Nat
  greedy : Bool
  possessive : Bool
deriving DecidableEq, Repr

/-- The least and the greatest count of a quantifier. -/
abbrev Counts := Nat × Option Nat

/-- The bound that a number stands for.  The largest number is no bound. -/
def boundOf (number : Nat) : Option Nat :=
  if number = maximalNumber then none else some number

/-- Read the least count: a number, or none before a comma. -/
def readLeastCount? (text : List Char) : Option (Read Nat text) :=
  match text with
  | ',' :: rest => some ⟨0, ',' :: rest, Read.left_one rest⟩
  | text => readNumber? text

/-- Read the greatest count behind a comma: a number, or no bound. -/
def readGreatestCount (text : List Char) : Read (Option Nat) text :=
  match readNumber? text with
  | some number => number.map boundOf
  | none => ⟨none, text, Read.took_none text⟩

/-- Read ignored text, or fail. -/
def skipIgnored? (verbose : Bool) (text : List Char) : Option (Read Unit text) :=
  (skipIgnored verbose text).toOption

/-- Read the closing brace of counts. -/
def readBrace? (verbose : Bool) (counts : Counts) (text : List Char) :
    Option (Read Counts text) := do
  let blank ← skipIgnored? verbose text
  have shorter := blank.shorter
  match _ : blank.rest with
  | '}' :: rest => return ⟨counts, rest, by simp_all only [List.length_cons]; omega⟩
  | _ => none

/-- Read counts from behind their opening brace. -/
def readCounts? (verbose : Bool) (text : List Char) : Option (Read Counts text) := do
  let front ← skipIgnored? verbose text
  let least ← readLeastCount? front.rest
  let blank ← skipIgnored? verbose least.rest
  have shorter : blank.rest.length ≤ text.length := by
    have := front.shorter
    have := least.shorter
    have := blank.shorter
    omega
  match _ : blank.rest with
  | '}' :: rest =>
    return ⟨(least.value, boundOf least.value), rest, by
      simp_all only [List.length_cons]
      omega⟩
  | ',' :: rest =>
    let behind ← skipIgnored? verbose rest
    let greatest := readGreatestCount behind.rest
    let counts ← readBrace? verbose (least.value, greatest.value) greatest.rest
    return counts.weaken (by
      have := behind.shorter
      have := greatest.shorter
      simp_all only [List.length_cons]
      omega)
  | _ => none

/-- The counts that a quantifier starts with, when the text starts with one. -/
def readQuantifierHead? (verbose : Bool) (text : List Char) : Option (Read Counts text) :=
  match text with
  | '?' :: rest => some ⟨(0, some 1), rest, Read.took_one rest⟩
  | '*' :: rest => some ⟨(0, none), rest, Read.took_one rest⟩
  | '+' :: rest => some ⟨(1, none), rest, Read.took_one rest⟩
  | '{' :: rest => (readCounts? verbose rest).map (·.weaken (Read.took_one rest))
  | _ => none

/-- Read one character if it is the wanted one. -/
def readMark (wanted : Char) (text : List Char) : Read Bool text :=
  match text with
  | [] => ⟨false, [], Read.left_nothing⟩
  | char :: rest =>
    if char = wanted then ⟨true, rest, Read.took_one rest⟩ else ⟨false, char :: rest, Read.left_one rest⟩

/-- Read a quantifier, if there is one.  Only a repeatable pattern may have one. -/
def readQuantifier (verbose swapGreed repeatable : Bool) (text : List Char) :
    Except SyntaxError (Read (Option Quantifier) text) := do
  let front ← skipIgnored verbose text
  match readQuantifierHead? verbose front.rest with
  | none => return (front.map fun _ => none)
  | some counts =>
    if ¬ repeatable then throw .targetNotRepeatable
    let behind ← skipIgnored verbose counts.rest
    let lazy := readMark '?' behind.rest
    let possessive := readMark '+' lazy.rest
    return ⟨some ⟨counts.value.1, counts.value.2, lazy.value == swapGreed, possessive.value⟩,
      possessive.rest, by
        have := front.shorter
        have := counts.shorter
        have := behind.shorter
        have := lazy.shorter
        have := possessive.shorter
        omega⟩

end Backtracking
end LineExtraction

import LineExtraction.Backtracking.Reader.Escape
import LineExtraction.Pattern.Quote

/-!
# Reading bracket classes

A bracket class is kept as text in the linear dialect: escapes are written out in
that dialect, and everything else stands as it is.
-/

namespace LineExtraction
namespace Backtracking

/-- The text of a class escape in the linear dialect. -/
def Escape.inClass (escape : Escape) : Except SyntaxError (List Char) :=
  match escape.meaning with
  | .literal char _ => .ok (Pattern.quoteWith Pattern.isLinearMeta [char])
  | .charClass text _ => .ok text
  | _ => .error .classInvalid

/-- Read the members of a class up to its closing bracket.  `depth` is the number of
classes in it that have still to close. -/
def readClassMembers (scope : Scope) (fold : Bool) (depth : Nat) (text : List Char) :
    Except SyntaxError (Read (List Char) text) :=
  match text with
  | [] => .error .classInvalid
  | '\\' :: rest => do
    let escape ← readEscape scope fold true rest
    let written ← escape.value.inClass
    have shorter := escape.shorter
    let members ← readClassMembers scope fold depth escape.rest
    return (members.map (written ++ ·)).weaken (by simp only [List.length_cons]; omega)
  | '[' :: rest => do
    let members ← readClassMembers scope fold (depth + 1) rest
    return (members.map ('[' :: ·)).weaken (Read.took_one rest)
  | ']' :: rest =>
    match depth with
    | 0 => .ok ⟨[']'], rest, Read.took_one rest⟩
    | depth + 1 => do
      let members ← readClassMembers scope fold depth rest
      return (members.map (']' :: ·)).weaken (Read.took_one rest)
  | char :: rest => do
    let members ← readClassMembers scope fold depth rest
    return (members.map (char :: ·)).weaken (Read.took_one rest)
termination_by text.length

/-- Read one character off the text if it is the wanted one, as text. -/
def readOptional (wanted : Char) (text : List Char) : Read (List Char) text :=
  match text with
  | [] => ⟨[], [], Read.left_nothing⟩
  | char :: rest =>
    if char = wanted then ⟨[char], rest, Read.took_one rest⟩ else ⟨[], char :: rest, Read.left_one rest⟩

/-- Read a class from behind its opening bracket.  A closing bracket right at the
front is a member. -/
def readBracketClass (scope : Scope) (fold : Bool) (text : List Char) :
    Except SyntaxError (Read (List Char) text) := do
  let caret := readOptional '^' text
  let bracket := readOptional ']' caret.rest
  let members ← readClassMembers scope fold 0 bracket.rest
  return ⟨'[' :: caret.value ++ bracket.value ++ members.value, members.rest, by
    have := caret.shorter
    have := bracket.shorter
    have := members.shorter
    omega⟩

end Backtracking
end LineExtraction

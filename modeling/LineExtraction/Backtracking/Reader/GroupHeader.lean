import LineExtraction.Backtracking.Reader.Ignored
import LineExtraction.Backtracking.Reader.Reference

/-!
# Reading group headers

What follows an opening parenthesis says what the group is for: it captures, looks
around, commits, branches on a condition, refers to another group, or sets flags.
-/

namespace LineExtraction
namespace Backtracking

/-- The flags that patterns are read under. -/
structure Flags where
  fold : Bool
  multiLine : Bool
  dotMatchesNewLine : Bool
  swapGreed : Bool
  verbose : Bool
deriving DecidableEq, Repr

namespace Flags

/-- No flag set. -/
def none : Flags := ⟨false, false, false, false, false⟩

/-- Set the flag of a letter, if it has one. -/
def set? (flags : Flags) (letter : Char) (value : Bool) : Option Flags :=
  match letter with
  | 'i' => some { flags with fold := value }
  | 'm' => some { flags with multiLine := value }
  | 's' => some { flags with dotMatchesNewLine := value }
  | 'U' => some { flags with swapGreed := value }
  | 'x' => some { flags with verbose := value }
  | 'u' => some flags
  | _ => .none

end Flags

/-- What an opening parenthesis starts. -/
inductive GroupHeader where
  | unnamed
  | named (name : List Char)
  | lookAround (kind : LookAround)
  | atomic
  | reference (group : Nat)
  | conditionOn (group : Nat) (numbered : Bool)
  | condition
  | plain (flags : Flags)
  | directive (flags : Flags)
deriving DecidableEq, Repr

/-! ## Flags -/

/-- The part of `whole` that stands before its ending `text`. -/
def readSoFar (whole text : List Char) : List Char :=
  whole.take (whole.length - text.length)

/-- Read the end of a flag header, its first character being `char`.  There must be
something before a closing parenthesis, and more than a minus before either end. -/
def readFlagsEnd (whole text : List Char) (flags : Flags) (negated : Bool) (char : Char)
    (rest : List Char) : Except SyntaxError (Read GroupHeader rest) :=
  let bare := negated ∧ whole.length = text.length + 1
  let unknown := SyntaxError.flagUnknown (readSoFar whole rest)
  if char = ')' then
    if text.length = whole.length ∨ bare then .error unknown
    else .ok ⟨.directive flags, rest, Read.took_none rest⟩
  else if char = ':' then
    if bare then .error unknown else .ok ⟨.plain flags, rest, Read.took_none rest⟩
  else .error unknown

/-- Read flags up to the `:` or `)` behind them.  `whole` is the text that the flags
started at, and `negated` says that the flags are switched off. -/
def readFlags (whole : List Char) (flags : Flags) (negated : Bool) (text : List Char) :
    Except SyntaxError (Read GroupHeader text) := do
  let blank ← skipIgnored flags.verbose text
  have shorter := blank.shorter
  match _ : blank.rest with
  | [] => .error .parenUnclosed
  | char :: rest =>
    have : rest.length < text.length := by simp_all only [List.length_cons]; omega
    if char = 'u' ∧ negated then .error .unicodeRequired
    else
      match flags.set? char (¬ negated) with
      | some flags => do
        return (← readFlags whole flags negated rest).weaken (Nat.le_of_lt this)
      | none =>
        if char = '-' ∧ ¬ negated then do
          return (← readFlags whole flags true rest).weaken (Nat.le_of_lt this)
        else do
          let header ← readFlagsEnd whole blank.rest flags negated char rest
          return header.weaken (Nat.le_of_lt this)
termination_by text.length

/-! ## Conditions -/

/-- Read the closing parenthesis of a condition that asks for a group. -/
def readConditionEnd (verbose numbered : Bool) {text : List Char} (group : Read Nat text) :
    Except SyntaxError (Read GroupHeader text) := do
  let close ← readCloseParen verbose group.rest
  return ⟨.conditionOn group.value numbered, close.rest, by
    have := group.shorter
    have := close.shorter
    omega⟩

/-- Read what a condition starts with, from behind its opening parenthesis. -/
def readCondition (scope : Scope) (verbose : Bool) (text : List Char) :
    Except SyntaxError (Read GroupHeader text) :=
  match text with
  | [] => .error .parenUnclosed
  | '\'' :: rest => do
    let group ← readNamedReference scope true '\'' rest
    readConditionEnd verbose false (group.weaken (Read.took_one rest))
  | '<' :: rest => do
    let group ← readNamedReference scope true '>' rest
    readConditionEnd verbose false (group.weaken (Read.took_one rest))
  | char :: rest =>
    if char.isDigit then do
      readConditionEnd verbose true (← readNumberedReference scope (char :: rest))
    else .ok ⟨.condition, char :: rest, Read.left_one rest⟩

/-! ## Headers -/

/-- Read a group header from behind the parenthesis and what is ignored after it. -/
def readHeader (scope : Scope) (flags : Flags) (text : List Char) :
    Except SyntaxError (Read GroupHeader text) :=
  match text with
  | '?' :: '=' :: rest =>
    .ok ⟨.lookAround ⟨false, false⟩, rest, Read.took_two rest⟩
  | '?' :: '!' :: rest =>
    .ok ⟨.lookAround ⟨false, true⟩, rest, Read.took_two rest⟩
  | '?' :: '<' :: '=' :: rest =>
    .ok ⟨.lookAround ⟨true, false⟩, rest, Read.took_three rest⟩
  | '?' :: '<' :: '!' :: rest =>
    .ok ⟨.lookAround ⟨true, true⟩, rest, Read.took_three rest⟩
  | '?' :: '<' :: rest => do
    return ((← readName false '>' rest).map .named).weaken (Read.took_two rest)
  | '?' :: 'P' :: '<' :: rest => do
    return ((← readName false '>' rest).map .named).weaken (Read.took_three rest)
  | '?' :: 'P' :: '=' :: rest => do
    return ((← readNamedReference scope false ')' rest).map .reference).weaken
      (Read.took_three rest)
  | '?' :: '>' :: rest => .ok ⟨.atomic, rest, Read.took_two rest⟩
  | '?' :: '(' :: rest => do
    return (← readCondition scope flags.verbose rest).weaken (Read.took_two rest)
  | '?' :: rest => do
    return (← readFlags rest flags false rest).weaken (Read.took_one rest)
  | text => .ok ⟨.unnamed, text, Read.took_none text⟩

/-- Read a group header from behind the parenthesis. -/
def readGroupHeader (scope : Scope) (flags : Flags) (text : List Char) :
    Except SyntaxError (Read GroupHeader text) := do
  let blank ← skipIgnored flags.verbose text
  return (← readHeader scope flags blank.rest).weaken blank.shorter

end Backtracking
end LineExtraction

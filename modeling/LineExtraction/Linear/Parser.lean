import LineExtraction.Linear.Reader.BracketClass
import LineExtraction.Linear.Reader.GroupHeader
import LineExtraction.Linear.Reader.Quantifier

/-!
# Parsing linear patterns

The parser reads a pattern from left to right and token by token.  Its state holds
what has been read of the innermost open group and, on a stack, what waits around
that group.  A text has a parse when every group that opens also closes and the
nesting stays within its limit.
-/

namespace LineExtraction
namespace Linear

/-- What has been read on one level: the branches that are finished and the parts
of the current one, all last first. -/
structure Level where
  branches : List Ast
  parts : List Ast
deriving DecidableEq, Repr

namespace Level

/-- Nothing read yet. -/
def start : Level := ⟨[], []⟩

/-- The pattern of everything read on the level. -/
def toAst (level : Level) : Ast :=
  .ofBranches (Ast.ofParts level.parts.reverse :: level.branches).reverse

/-- Add one part to the current branch. -/
def push (level : Level) (part : Ast) : Level :=
  { level with parts := part :: level.parts }

/-- Finish the current branch and start another. -/
def nextBranch (level : Level) : Level :=
  ⟨.ofParts level.parts.reverse :: level.branches, []⟩

end Level

/-- An open group: what it is for, the level it stands on, and whether that level is
read in verbose mode. -/
structure OpenGroup where
  kind : GroupKind
  outer : Level
  verbose : Bool
deriving DecidableEq, Repr

/-- What the parser knows between two tokens. -/
structure ParseState where
  verbose : Bool
  level : Level
  groups : List OpenGroup
  captures : Nat
  names : List (List Char)
deriving DecidableEq, Repr

namespace ParseState

/-- The state before the first token. -/
def start : ParseState := ⟨false, .start, [], 0, []⟩

/-- Add one part to the innermost group. -/
def push (state : ParseState) (part : Ast) : ParseState :=
  { state with level := state.level.push part }

/-- Open a group whose body is read with the flag `verbose`. -/
def openGroup (state : ParseState) (kind : GroupKind) (verbose : Bool) : ParseState :=
  { state with
    verbose, level := .start
    groups := ⟨kind, state.level, state.verbose⟩ :: state.groups }

/-- Open a capturing group. -/
def openCapture (state : ParseState) (name : Option (List Char)) : ParseState :=
  let index := state.captures + 1
  { state.openGroup (.capture index name) state.verbose with
    captures := index, names := name.toList ++ state.names }

/-- Go on behind a group header. -/
def enter (state : ParseState) : GroupHeader → Except SyntaxError ParseState
  | .unnamed => .ok (state.openCapture none)
  | .named name =>
    if name ∈ state.names then .error .groupNameDuplicate
    else .ok (state.openCapture (some name))
  | .plain flags =>
    let verbose := (flagValue? .ignoreWhitespace true flags).getD state.verbose
    .ok (state.openGroup (.plain flags) verbose)
  | .directive flags =>
    let verbose := (flagValue? .ignoreWhitespace true flags).getD state.verbose
    .ok { state.push (.flags flags) with verbose }

/-- Close the innermost group. -/
def leave (state : ParseState) : Except SyntaxError ParseState :=
  match state.groups with
  | [] => .error .groupUnopened
  | group :: groups =>
    .ok { state with
      verbose := group.verbose
      level := group.outer.push (.group group.kind state.level.toAst)
      groups }

/-- Repeat the last part of the current branch.  A directive cannot repeat. -/
def quantify (state : ParseState) (count : Repeat) : ParseState :=
  match state.level.parts with
  | [] => state
  | part :: parts =>
    { state with level := { state.level with parts := .repetition count part :: parts } }

/-- Whether the last part of the current branch can repeat. -/
def canQuantify (state : ParseState) : Bool :=
  match state.level.parts with
  | [] => false
  | .empty :: _ => false
  | .flags _ :: _ => false
  | _ => true

/-- The pattern, when no group is open any more. -/
def finish (state : ParseState) : Except SyntaxError Ast :=
  if state.groups.isEmpty then .ok state.level.toAst else .error .groupUnclosed

end ParseState

/-- The part that an escape adds to a pattern. -/
def Primitive.toAst : Primitive → Ast
  | .literal char => .literal char
  | .assertion kind => .assertion kind
  | .perl negated kind => .perl negated kind
  | .unicode negated query => .unicode negated query

/-- Read a quantifier for the last part of the current branch. -/
def readQuantified (state : ParseState) (text : List Char)
    (quantifier : Except SyntaxError (Read Repeat text)) :
    Except SyntaxError (Read ParseState text) :=
  if state.canQuantify then do
    return (← quantifier).map state.quantify
  else .error .repetitionMissing

/-- Read one token that starts with `first`. -/
def readToken (state : ParseState) (first : Char) (text : List Char) :
    Except SyntaxError (Read ParseState text) :=
  let one (part : Ast) : Except SyntaxError (Read ParseState text) :=
    .ok ⟨state.push part, text, Read.took_none text⟩
  match first with
  | '(' => do
    let header ← readGroupHeader state.verbose text
    return ⟨← state.enter header.value, header.rest, header.shorter⟩
  | ')' => do
    return ⟨← state.leave, text, Read.took_none text⟩
  | '|' => .ok ⟨{ state with level := state.level.nextBranch }, text, Read.took_none text⟩
  | '[' => do
    let read ← readBracketClass state.verbose text
    return read.map fun parsed => state.push (.bracketed parsed.1 parsed.2)
  | '\\' => do
    let read ← readEscape state.verbose text
    return read.map fun primitive => state.push primitive.toAst
  | '.' => one .dot
  | '^' => one (.assertion .startLine)
  | '$' => one (.assertion .endLine)
  | first =>
    match readQuantifier? state.verbose first text with
    | some quantifier => readQuantified state text quantifier
    | none => one (.literal ⟨first, false⟩)

/-- Read tokens up to the end of the text. -/
def readTokens (state : ParseState) (text : List Char) : Except SyntaxError ParseState :=
  match _ : skipBlank state.verbose text with
  | [] => .ok state
  | first :: rest => do
    let token ← readToken state first rest
    readTokens token.value token.rest
termination_by text.length
decreasing_by exact Nat.lt_of_le_of_lt token.shorter (length_lt_of_skipBlank ‹_›)

/-- Parse a pattern. -/
def parse (text : List Char) : Except SyntaxError Ast := do
  let ast ← (← readTokens .start text).finish
  if nestLimit < ast.depth then throw .nestLimitExceeded
  return ast

end Linear
end LineExtraction

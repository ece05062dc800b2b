import LineExtraction.Backtracking.Reader.BracketClass
import LineExtraction.Backtracking.Reader.GroupHeader
import LineExtraction.Backtracking.Reader.Quantifier
import LineExtraction.Text.Line

/-!
# Parsing backtracking patterns

The parser reads a pattern from left to right and atom by atom.  Its state holds
what has been read of the innermost open group and, on a stack, what waits around
that group.  Flags that a group sets last until the group closes only when they
stand in its header; a directive inside a capturing group outlasts it.
-/

namespace LineExtraction
namespace Backtracking

/-- What has been read on one level: the branches that are finished and the parts
of the current one, all last first. -/
structure Level where
  branches : List Ast
  parts : List Ast
deriving Repr

namespace Level

/-- Nothing read yet. -/
def start : Level := ⟨[], []⟩

/-- The current branch. -/
def branch (level : Level) : Ast := .ofParts level.parts.reverse

/-- The pattern of everything read on the level. -/
def toAst (level : Level) : Ast :=
  .ofBranches (level.branch :: level.branches).reverse

/-- Add one part to the current branch, where the empty pattern adds nothing. -/
def push (level : Level) (part : Ast) : Level :=
  if part.isEmpty then level else { level with parts := part :: level.parts }

/-- Finish the current branch and start another. -/
def nextBranch (level : Level) : Level := ⟨level.branch :: level.branches, []⟩

end Level

/-- What an open group is for.  The body of a conditional remembers how much text
was left where it started. -/
inductive GroupKind where
  | capture (index : Nat)
  | lookAround (kind : LookAround)
  | atomic
  | plain (outerFlags : Flags)
  | condition
  | conditional (condition : Ast) (bodyLength : Nat)
deriving Repr

/-- An open group: what it is for, and the level it stands on. -/
structure OpenGroup where
  kind : GroupKind
  outer : Level
deriving Repr

/-- What the parser knows between two atoms.  `numbered` says that some reference was by
number, and `dangling` that some reference is to a group that was not open yet. -/
structure ParseState where
  flags : Flags
  level : Level
  groups : List OpenGroup
  scope : Scope
  numbered : Bool
  dangling : Bool
deriving Repr

namespace ParseState

/-- The state before the first atom of a pattern. -/
def start (patternBytes : Nat) : ParseState :=
  ⟨.none, .start, [], ⟨[], 0, patternBytes⟩, false, false⟩

/-- Open a group. -/
def openGroup (state : ParseState) (kind : GroupKind) : ParseState :=
  { state with level := .start, groups := ⟨kind, state.level⟩ :: state.groups }

/-- Open a capturing group. -/
def openCapture (state : ParseState) (name : Option (List Char)) : ParseState :=
  let index := state.scope.captures + 1
  let names := (name.map (·, index)).toList ++ state.scope.names
  { state.openGroup (.capture index) with scope := { state.scope with captures := index, names } }

/-- Note a reference to a group.  Group 0 is the match that the search is in. -/
def refer (state : ParseState) (group : Nat) (numbered : Bool) : ParseState :=
  { state with
    numbered := state.numbered ∨ numbered
    dangling := state.dangling ∨ state.scope.captures < group }

/-- The pattern of the innermost level.  Numbered and named references do not mix;
that is seen where a level without a choice ends. -/
def endLevel (state : ParseState) : Except SyntaxError Ast :=
  if state.level.branches.isEmpty ∧ state.numbered ∧ ¬ state.scope.names.isEmpty then
    .error .numberedBesideNamed
  else .ok state.level.toAst

/-- The conditional of a condition and a body.  A condition without a body must be a
reference. -/
def conditionalOf (condition body : Ast) (bodyEmpty : Bool) : Except SyntaxError Ast :=
  if bodyEmpty then
    match condition with
    | .backreference group => .ok (.groupMatched group)
    | _ => .error .conditionWithoutBranch
  else .ok (.ofCondition condition body)

/-- Go on inside the branches of a conditional, whose condition has been read. -/
def openConditional (state : ParseState) (condition : Ast) (outer : Level)
    (groups : List OpenGroup) (bodyLength : Nat) : ParseState :=
  { state with level := .start, groups := ⟨.conditional condition bodyLength, outer⟩ :: groups }

end ParseState

/-- What stands behind a token: an atom that a quantifier may follow, or a place
where the next atom starts. -/
inductive Progress where
  | atom (state : ParseState) (atom : Ast)
  | between (state : ParseState)
deriving Repr

namespace ParseState

/-- Go on behind a group header. -/
def enter (state : ParseState) (header : GroupHeader) (rest : List Char) :
    Except SyntaxError Progress :=
  match header with
  | .unnamed => .ok (.between (state.openCapture none))
  | .named name => .ok (.between (state.openCapture (some name)))
  | .lookAround kind => .ok (.between (state.openGroup (.lookAround kind)))
  | .atomic => .ok (.between (state.openGroup .atomic))
  | .reference group => .ok (.atom (state.refer group false) (.backreference group))
  | .conditionOn group numbered =>
    let state := state.refer group numbered
    .ok (.between
      (state.openConditional (.backreference group) state.level state.groups rest.length))
  | .condition => .ok (.between (state.openGroup .condition))
  | .plain flags => .ok (.between { state.openGroup (.plain state.flags) with flags })
  | .directive flags => .ok (.atom { state with flags } .empty)

/-- Close the innermost group.  `text` starts at the closing parenthesis and `rest`
behind it. -/
def leave (state : ParseState) (text rest : List Char) : Except SyntaxError Progress := do
  let body ← state.endLevel
  match state.groups with
  | [] => .error .endNotReached
  | group :: groups =>
    let outer := { state with level := group.outer, groups }
    match group.kind with
    | .capture index => return .atom outer (.capture index body)
    | .lookAround kind => return .atom outer (.lookAround kind body)
    | .atomic => return .atom outer (.atomic body)
    | .plain flags => return .atom { outer with flags } body
    | .condition =>
      return .between (state.openConditional body group.outer groups rest.length)
    | .conditional condition bodyLength =>
      return .atom outer (← conditionalOf condition body (text.length = bodyLength))

/-- The pattern at the end of the text. -/
def finish (state : ParseState) : Except SyntaxError Ast := do
  let body ← state.endLevel
  match state.groups with
  | [] => return body
  | ⟨.conditional condition bodyLength, _⟩ :: _ =>
    let _ ← conditionalOf condition body (bodyLength = 0)
    throw .parenUnclosed
  | _ => throw .parenUnclosed

/-- Add an atom with the quantifier behind it. -/
def quantify (state : ParseState) (atom : Ast) (quantifier : Option Quantifier) : ParseState :=
  let part :=
    match quantifier with
    | none => atom
    | some quantifier =>
      let node := Ast.repetition quantifier.min quantifier.max quantifier.greedy atom
      if quantifier.possessive then .atomic node else node
  { state with level := state.level.push part }

end ParseState

/-- Read one token that starts with `first`. -/
def readToken (state : ParseState) (first : Char) (text : List Char) :
    Except SyntaxError (Read Progress text) :=
  let one (atom : Ast) : Except SyntaxError (Read Progress text) :=
    .ok ⟨.atom state atom, text, Read.took_none text⟩
  match first with
  | '(' => do
    if nestLimit ≤ state.groups.length + 1 then throw .nestLimitExceeded
    let header ← readGroupHeader state.scope state.flags text
    return ⟨← state.enter header.value header.rest, header.rest, header.shorter⟩
  | ')' => do return ⟨← state.leave (')' :: text) text, text, Read.took_none text⟩
  | '|' => .ok ⟨.between { state with level := state.level.nextBranch }, text, Read.took_none text⟩
  | '*' => .error .targetNotRepeatable
  | '+' => .error .targetNotRepeatable
  | '?' => .error .targetNotRepeatable
  | '[' => do
    let members ← readBracketClass state.scope state.flags.fold text
    return members.map fun members => .atom state (.charClass members state.flags.fold)
  | '\\' => do
    let escape ← readEscape state.scope state.flags.fold false text
    return escape.map fun escape =>
      match escape.meaning with
      | .backreference group => .atom (state.refer group escape.numbered) escape.meaning
      | meaning => .atom state meaning
  | '.' => one (.any state.flags.dotMatchesNewLine)
  | '^' => one (.assertion (if state.flags.multiLine then .startLine else .startText))
  | '$' => one (.assertion (if state.flags.multiLine then .endLine else .endText))
  | first => one (.literal first state.flags.fold)

/-- Read the quantifier behind a token, if the token may have one. -/
def readBehind (progress : Progress) (text : List Char) :
    Except SyntaxError (Read ParseState text) :=
  match progress with
  | .between state => .ok ⟨state, text, Read.took_none text⟩
  | .atom state atom => do
    let quantifier ←
      readQuantifier state.flags.verbose state.flags.swapGreed atom.isRepeatable text
    return quantifier.map (state.quantify atom)

/-- Read tokens up to the end of the text. -/
def readTokens (state : ParseState) (text : List Char) : Except SyntaxError ParseState := do
  let blank ← skipIgnored state.flags.verbose text
  match _ : blank.rest with
  | [] => return state
  | first :: rest =>
    let token ← readToken state first rest
    let behind ← readBehind token.value token.rest
    readTokens behind.value behind.rest
termination_by text.length
decreasing_by
  exact Nat.lt_of_le_of_lt (Nat.le_trans behind.shorter token.shorter) (blank.length_lt ‹_›)

/-- A parsed pattern with what is known about its groups. -/
structure Parsed where
  ast : Ast
  captures : Nat
  names : List (List Char × Nat)
  dangling : Bool
deriving Repr

/-- Parse a pattern. -/
def parse (text : List Char) : Except SyntaxError Parsed := do
  let state ← readTokens (.start (Line.byteLength text)) text
  let ast ← state.finish
  return ⟨ast, state.scope.captures, state.scope.names, state.dangling⟩

end Backtracking
end LineExtraction

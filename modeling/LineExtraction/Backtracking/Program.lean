import LineExtraction.Backtracking.Measure
import LineExtraction.Backtracking.Printer
import LineExtraction.Backtracking.SyntaxError
import LineExtraction.Linear.Regex

/-!
# Backtracking programs

A pattern is compiled to instructions that are run one after the other.  Parts that
are not hard become single instructions that run the linear engine, where that
cannot change which match is found: a part whose matches all have one size, or a
part behind which nothing can fail any more.
-/

namespace LineExtraction
namespace Backtracking

open Linear (Look Regex)

/-- Why a parsed pattern cannot be compiled. -/
inductive CompileError where
  | illFormed (cause : SyntaxError)
  | invalidReference
  | lookBehindSize
  | partIllFormed
  | partTooBig
deriving DecidableEq, Repr

namespace CompileError

/-- The wording of the error. -/
def message : CompileError → String
  | illFormed cause => cause.message
  | invalidReference => "Error compiling regex: Invalid back reference"
  | lookBehindSize => "Error compiling regex: Look-behind assertion without constant size"
  | partIllFormed => "Error compiling regex: Regex error: error parsing pattern 0"
  | partTooBig => "Error compiling regex: Regex error: error building NFA"

/-- The error of a part that the linear engine refuses. -/
def ofLinear : Linear.CompileError → CompileError
  | .illFormed _ => partIllFormed
  | .tooBig _ => partTooBig

end CompileError

/-- One instruction.  Targets are the numbers of instructions. -/
inductive Instruction where
  | any (newline : Bool)
  | literal (chars : List Char)
  | assertion (look : Look)
  | split (first second : Nat)
  | jump (target : Nat)
  | save (slot : Nat)
  | clear (slot : Nat)
  | restore (slot : Nat)
  | countedLoop (min : Nat) (max : Option Nat) (greedy : Bool) (next counter : Nat)
  | guardedLoop (min : Nat) (greedy : Bool) (next counter guard : Nat)
  | goBack (count : Nat)
  | failLook
  | backreference (group : Nat)
  | groupMatched (group : Nat)
  | beginAtomic
  | endAtomic
  | linear (regex : Regex) (firstGroup groupCount : Nat)
  | continueMatch
  | accept
deriving Repr

/-- Instructions that stand behind each other from a known place on, and the first
slot that they leave unused. -/
structure Fragment where
  code : Array Instruction
  slots : Nat
deriving Repr

namespace Fragment

/-- One instruction that needs no slot of its own. -/
def one (slots : Nat) (instruction : Instruction) : Fragment := ⟨#[instruction], slots⟩

/-- No instruction. -/
def none (slots : Nat) : Fragment := ⟨#[], slots⟩

end Fragment

/-- What compiles a part: from the place and the first unused slot to a fragment. -/
abbrev Emit := (start slots : Nat) → Except CompileError Fragment

/-- Compile one part behind another. -/
def andThen (first second : Emit) : Emit := fun start slots => do
  let front ← first start slots
  let back ← second (start + front.code.size) front.slots
  return ⟨front.code ++ back.code, back.slots⟩

/-- Compile to one instruction. -/
def emitOne (instruction : Instruction) : Emit := fun _ slots => .ok (.one slots instruction)

/-- Compile to nothing. -/
def emitNone : Emit := fun _ slots => .ok (.none slots)

/-- The instruction that runs the linear engine on a text. -/
def emitLinear (text : List Char) (captures : List Nat) : Emit := fun _ slots => do
  let regex ← (Regex.compile Linear.defaultSizeLimit (String.ofList text)).mapError .ofLinear
  return .one slots (.linear regex (captures.head?.getD 0) captures.length)

/-- Hand a part to the linear engine. -/
def emitEasy (ast : Ast) : Emit :=
  match ast.literalText? with
  | some chars => emitOne (.literal chars)
  | none => emitLinear (ast.toText .branch) ast.captures

/-- Hand a run of parts to the linear engine. -/
def emitEasyParts (parts : List Ast) : Emit :=
  if parts.isEmpty then emitNone
  else
    match Ast.literalTextOf? parts with
    | some chars => emitOne (.literal chars)
    | none =>
      emitLinear (parts.flatMap (Ast.toText .branch)) (Ast.capturesOf parts)

/-- A choice of where to go on, where `greedy` prefers the first target. -/
def prefer (greedy : Bool) (first second : Nat) : Instruction :=
  if greedy then .split first second else .split second first

/-- Compile a choice between a part and a rest. -/
def emitEither (first second : Emit) : Emit := fun start slots => do
  let front ← first (start + 1) slots
  let behind := start + 1 + front.code.size + 1
  let back ← second behind front.slots
  let finish := behind + back.code.size
  return ⟨#[.split (start + 1) behind] ++ front.code ++ #[.jump finish] ++ back.code, back.slots⟩

/-- Compile a part that may be left out. -/
def emitOptional (body : Emit) (greedy : Bool) : Emit := fun start slots => do
  let turn ← body (start + 1) slots
  return ⟨#[prefer greedy (start + 1) (start + 1 + turn.code.size)] ++ turn.code, turn.slots⟩

/-- Compile a loop that may be left before any turn. -/
def emitStar (body : Emit) (greedy : Bool) : Emit := fun start slots => do
  let turn ← body (start + 1) slots
  let behind := start + 1 + turn.code.size + 1
  return ⟨#[prefer greedy (start + 1) behind] ++ turn.code ++ #[.jump start], turn.slots⟩

/-- Compile a loop of one turn or more. -/
def emitPlus (body : Emit) (greedy : Bool) : Emit := fun start slots => do
  let turn ← body start slots
  let behind := start + turn.code.size + 1
  return ⟨turn.code.push (prefer greedy start behind), turn.slots⟩

/-- Compile a loop that counts its turns. -/
def emitCounted (body : Emit) (min : Nat) (max : Option Nat) (greedy : Bool) : Emit :=
  fun start slots => do
    let turn ← body (start + 2) (slots + 1)
    let behind := start + 2 + turn.code.size + 1
    return ⟨#[.clear slots, .countedLoop min max greedy behind slots] ++ turn.code ++
      #[.jump (start + 1)], turn.slots⟩

/-- Compile a loop without an upper bound that counts its turns and leaves when a
turn matches nothing. -/
def emitGuarded (body : Emit) (min : Nat) (greedy : Bool) : Emit := fun start slots => do
  let turn ← body (start + 2) (slots + 2)
  let behind := start + 2 + turn.code.size + 1
  return ⟨#[.clear slots, .guardedLoop min greedy behind slots (slots + 1)] ++ turn.code ++
    #[.jump (start + 1)], turn.slots⟩

/-- Compile a repetition of a body whose matches have at least `minSize` characters. -/
def emitRepetition (body : Emit) (minSize min : Nat) (max : Option Nat) (greedy : Bool) : Emit :=
  if min = 0 ∧ max = some 1 then emitOptional body greedy
  else if max = none ∧ minSize = 0 then emitGuarded body min greedy
  else if min = 0 ∧ max = none then emitStar body greedy
  else if min = 1 ∧ max = none then emitPlus body greedy
  else emitCounted body min max greedy

/-- Compile the inside of a look-around.  One that looks behind first goes back by
the size of its body. -/
def emitLookBody (body : Emit) (behind constSize : Bool) (size : Nat) : Emit :=
  if behind then
    if constSize then andThen (emitOne (.goBack size)) body
    else fun _ _ => .error .lookBehindSize
  else body

/-- Compile a look-around that wants a match. -/
def emitPositiveLook (inner : Emit) : Emit := fun start slots => do
  let body ← inner (start + 1) (slots + 1)
  return ⟨#[.save slots] ++ body.code ++ #[.restore slots], body.slots⟩

/-- Compile a look-around that wants no match. -/
def emitNegativeLook (inner : Emit) : Emit := fun start slots => do
  let body ← inner (start + 1) slots
  let behind := start + 1 + body.code.size + 1
  return ⟨#[.split (start + 1) behind] ++ body.code ++ #[.failLook], body.slots⟩

/-- Compile a look-around of either sign. -/
def emitLook (negative : Bool) (inner : Emit) : Emit :=
  if negative then emitNegativeLook inner else emitPositiveLook inner

/-- Compile a conditional.  Once the condition has matched there is no way back into
it or past it. -/
def emitConditional (condition consequent alternative : Emit) : Emit := fun start slots => do
  let test ← condition (start + 2) slots
  let yes ← consequent (start + 2 + test.code.size + 1) test.slots
  let behind := start + 2 + test.code.size + 1 + yes.code.size + 1
  let no ← alternative behind yes.slots
  let finish := behind + no.code.size
  return ⟨#[.beginAtomic, .split (start + 2) behind] ++ test.code ++ #[.endAtomic] ++ yes.code ++
    #[.jump finish] ++ no.code, no.slots⟩

/-! ## Patterns -/

/-- How many parts at the front are easy and of one size. -/
def easyFront (parts : List Ast) : Nat :=
  (parts.takeWhile fun part => part.isConstSize ∧ ¬ part.isHard).length

/-- How many of the parts at the end are easy.  Where something behind them may fail
they must also be of one size. -/
def easyBack (hard : Bool) (parts : List Ast) : Nat :=
  (parts.reverse.takeWhile fun part =>
    ¬ part.isHard ∧ (¬ hard ∨ part.isConstSize)).length

mutual

/-- Compile a pattern.  `hard` says that something behind it may still fail. -/
def emit (hard : Bool) (ast : Ast) : Emit :=
  if ¬ hard ∧ ¬ ast.isHard then emitEasy ast
  else
    match ast with
    | .empty => emitNone
    | .literal char fold => if fold then emitEasy (.literal char fold) else emitOne (.literal [char])
    | .any newline => emitOne (.any newline)
    | .assertion look => emitOne (.assertion look)
    | .charClass text fold => emitEasy (.charClass text fold)
    | .sequence parts =>
      let front := easyFront parts
      let back := easyBack hard (parts.drop front)
      let middle := parts.length - front - back
      andThen (emitEasyParts (parts.take front))
        (andThen (emitMiddle front middle parts)
          (emitEasyParts (parts.drop (front + middle))))
    | .choice branches => emitBranches hard branches
    | .capture index body =>
      andThen (emitOne (.save (2 * index)))
        (andThen (emit hard body) (emitOne (.save (2 * index + 1))))
    | .lookAround ⟨behind, negative⟩ body =>
      match body with
      | .choice branches =>
        if behind ∧ ¬ (Ast.choice branches).isConstSize then
          if negative then emitEachNegative branches
          else emitEachPositive branches
        else
          emitLook negative
            (emitLookBody
              (if (Ast.choice branches).isHard then
                emitBranches false branches
              else emitEasy (.choice branches))
              behind (Ast.choice branches).isConstSize (Ast.choice branches).minSize)
      | body =>
        emitLook negative
          (emitLookBody (emit false body) behind body.isConstSize body.minSize)
    | .atomic body =>
      andThen (emitOne .beginAtomic)
        (andThen (emit false body) (emitOne .endAtomic))
    | .repetition min max greedy body =>
      let inner :=
        if min = 0 ∧ max = some 1 then emit hard body
        else emit (hard ∨ body.isHard) body
      emitRepetition inner body.minSize min max greedy
    | .backreference group => emitOne (.backreference group)
    | .groupMatched group => emitOne (.groupMatched group)
    | .keepOut => emitOne (.save 0)
    | .continueMatch => emitOne .continueMatch
    | .conditional condition consequent alternative =>
      emitConditional (emit hard condition) (emit hard consequent)
        (emit hard alternative)

/-- Compile the `count` parts behind the first `skip` ones, with something to fail
behind each. -/
def emitMiddle (skip count : Nat) : List Ast → Emit
  | [] => emitNone
  | part :: parts =>
    match skip, count with
    | skip + 1, count => emitMiddle skip count parts
    | 0, 0 => emitNone
    | 0, count + 1 =>
      andThen (emit true part) (emitMiddle 0 count parts)

/-- Compile a choice between branches. -/
def emitBranches (hard : Bool) : List Ast → Emit
  | [] => emitNone
  | [branch] => emit hard branch
  | branch :: branches =>
    emitEither (emit hard branch) (emitBranches hard branches)

/-- Compile a choice between look-arounds that look behind for a branch each. -/
def emitEachPositive : List Ast → Emit
  | [] => emitNone
  | [branch] =>
    emitPositiveLook
      (emitLookBody (emit false branch) true branch.isConstSize branch.minSize)
  | branch :: branches =>
    emitEither
      (emitPositiveLook
        (emitLookBody (emit false branch) true branch.isConstSize branch.minSize))
      (emitEachPositive branches)

/-- Compile look-arounds in a row that want no branch behind. -/
def emitEachNegative : List Ast → Emit
  | [] => emitNone
  | branch :: branches =>
    andThen
      (emitNegativeLook
        (emitLookBody (emit false branch) true branch.isConstSize branch.minSize))
      (emitEachNegative branches)

end

/-- The instructions of a pattern, and how many slots they use. -/
structure Program where
  instructions : Array Instruction
  slots : Nat
deriving Repr

/-- The pattern that finds another one in a line: it passes over as few characters
as it can and captures the match as group 0. -/
def searchFor (ast : Ast) : Ast :=
  .sequence [.repetition 0 none false (.any true), .capture 0 ast]

/-- The program that finds a pattern with the groups below `groupCount`. -/
def Program.compile (groupCount : Nat) (ast : Ast) :
    Except CompileError Program := do
  let fragment ← emit false (searchFor ast) 0 (2 * groupCount)
  return ⟨fragment.code.push .accept, fragment.slots⟩

end Backtracking
end LineExtraction

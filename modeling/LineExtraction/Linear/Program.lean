import LineExtraction.Linear.Tree
import LineExtraction.Text.Line
import LineExtraction.Unicode.ClassName

/-!
# Matching programs

A pattern tree is compiled to a list of instructions that name each other by
number.  A split prefers its first target, so the order in which a program is
explored is the order of preference between matches.  A loop over a body that can
match the empty text is entered through a choice of its own, which keeps that order
right for the turn that matches nothing.
-/

namespace LineExtraction
namespace Linear

open Unicode (CodePointSet)

/-- One instruction of a program. -/
inductive Instruction where
  | char (char : Char) (next : Nat)
  | set (members : CodePointSet) (next : Nat)
  | look (look : Look) (next : Nat)
  | split (first second : Nat)
  | save (slot : Nat) (next : Nat)
  | accept
deriving DecidableEq, Repr

/-- The instructions of a pattern, and the number of the first one. -/
structure Program where
  instructions : Array Instruction
  start : Nat
deriving DecidableEq, Repr

/-! ## Assertions -/

/-- Whether `char` counts as part of a word. -/
def isWordChar (ascii : Bool) (char : Char) : Bool :=
  if char.toNat < 0x80 then char.isAlphanum ∨ char = '_'
  else ¬ ascii ∧ Unicode.wordSet.containsChar char

/-- Whether an assertion holds between the character before and the one behind. -/
def Look.holdsBetween (before after : Option Char) : Look → Bool
  | startText => before.isNone
  | endText => after.isNone
  | startLine => before.isNone ∨ before = some '\n'
  | endLine => after.isNone ∨ after = some '\n'
  | startLineCrlf =>
    before.isNone ∨ before = some '\n' ∨ (before = some '\r' ∧ after ≠ some '\n')
  | endLineCrlf =>
    after.isNone ∨ after = some '\r' ∨ (after = some '\n' ∧ before ≠ some '\r')
  | wordBoundary ascii => before.any (isWordChar ascii) != after.any (isWordChar ascii)
  | notWordBoundary ascii => before.any (isWordChar ascii) == after.any (isWordChar ascii)
  | wordStart ascii => ¬ before.any (isWordChar ascii) ∧ after.any (isWordChar ascii)
  | wordEnd ascii => before.any (isWordChar ascii) ∧ ¬ after.any (isWordChar ascii)
  | wordStartHalf ascii => ¬ before.any (isWordChar ascii)
  | wordEndHalf ascii => ¬ after.any (isWordChar ascii)

/-- Whether an assertion holds at a position of a line. -/
def Look.holdsAt (line : Line) (position : Nat) (look : Look) : Bool :=
  look.holdsBetween (line.before? position) (line.after? position)

/-! ## Compilation -/

namespace Program

/-- Instructions written so far, and the number of the one to start from. -/
structure Fragment where
  code : Array Instruction
  start : Nat

/-- Write one instruction and start from it. -/
def emit (code : Array Instruction) (instruction : Instruction) : Fragment :=
  let number := code.size
  ⟨code.push instruction, number⟩

/-- A choice between `body` and `next` that prefers the body when `greedy`. -/
def choose (greedy : Bool) (body next : Nat) : Instruction :=
  if greedy then .split body next else .split next body

/-- Write the characters of a literal, each leading to the next. -/
def emitChars (code : Array Instruction) (next : Nat) : List Char → Fragment
  | [] => ⟨code, next⟩
  | char :: rest =>
    let tail := emitChars code next rest
    emit tail.code (.char char tail.start)

/-- Write a body `count` times, each turn leading to the next. -/
def emitCopies (body : Array Instruction → Nat → Fragment) :
    (count : Nat) → (code : Array Instruction) → (next : Nat) → Fragment
  | 0, code, next => ⟨code, next⟩
  | count + 1, code, next =>
    let tail := emitCopies body count code next
    body tail.code tail.start

/-- Write a body up to `count` times, with a choice to go on before each turn. -/
def emitOptional (body : Array Instruction → Nat → Fragment) (greedy : Bool)
    (next : Nat) : (count : Nat) → (code : Array Instruction) → Fragment
  | 0, code => ⟨code, next⟩
  | count + 1, code =>
    let inner := emitOptional body greedy next count code
    let turn := body inner.code inner.start
    emit turn.code (choose greedy turn.start next)

/-- Write a loop that is entered at its body: one turn or more. -/
def emitLoop (body : Array Instruction → Nat → Fragment) (greedy : Bool)
    (code : Array Instruction) (next : Nat) : Fragment :=
  let again := code.size
  let turn := body (code.push .accept) again
  ⟨turn.code.set! again (choose greedy turn.start next), turn.start⟩

/-- Write a loop that is entered at the choice before its body. -/
def emitStar (body : Array Instruction → Nat → Fragment) (greedy : Bool)
    (code : Array Instruction) (next : Nat) : Fragment :=
  let number := code.size
  ⟨(emitLoop body greedy code next).code, number⟩

/-- Write a repetition of a body. -/
def emitRepetition (body : Array Instruction → Nat → Fragment) (nullable : Bool)
    (min : Nat) (max : Option Nat) (greedy : Bool)
    (code : Array Instruction) (next : Nat) : Fragment :=
  match max with
  | some max =>
    let tail := emitOptional body greedy next (max - min) code
    emitCopies body min tail.code tail.start
  | none =>
    match min with
    | 0 =>
      if nullable then
        let loop := emitLoop body greedy code next
        emit loop.code (choose greedy loop.start next)
      else emitStar body greedy code next
    | more + 1 =>
      let loop := emitLoop body greedy code next
      emitCopies body more loop.code loop.start

/-- Write a tree so that it leads to the instruction `next`. -/
def emitTree : Tree → Array Instruction → Nat → Fragment
  | .empty, code, next => ⟨code, next⟩
  | .literal chars, code, next => emitChars code next chars
  | .set members, code, next => emit code (.set members next)
  | .look look, code, next => emit code (.look look next)
  | .repetition min max greedy body, code, next =>
    emitRepetition (emitTree body) (body.minLength = 0) min max greedy code next
  | .capture index _ body, code, next =>
    let close := emit code (.save (2 * index + 1) next)
    let inner := emitTree body close.code close.start
    emit inner.code (.save (2 * index) inner.start)
  | .concat first rest, code, next =>
    let tail := emitTree rest code next
    emitTree first tail.code tail.start
  | .alternation first rest, code, next =>
    let second := emitTree rest code next
    let front := emitTree first second.code next
    emit front.code (.split front.start second.start)

/-- The program of a tree.  Group 0 is the whole match. -/
def ofTree (tree : Tree) : Program :=
  let whole := emitTree (.capture 0 none tree) #[.accept] 0
  ⟨whole.code, whole.start⟩

end Program
end Linear
end LineExtraction

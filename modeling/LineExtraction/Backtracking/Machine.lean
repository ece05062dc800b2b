import LineExtraction.Backtracking.Program

/-!
# Running backtracking programs

The machine runs one instruction after the other.  Where a program has a choice it
goes on with the first way and keeps the other on a stack of branches; where it
fails it takes up the branch that was kept last.  The number of branches it may take
up and the number it may keep are limited.
-/

namespace LineExtraction
namespace Backtracking

open Linear (Slots)

/-- Why a search was given up. -/
inductive RunError where
  | backtrackLimit
  | stackOverflow
deriving DecidableEq, Repr

namespace RunError

/-- The wording of the error. -/
def message : RunError → String
  | backtrackLimit => "Error executing regex: Max limit for backtracking count exceeded"
  | stackOverflow =>
    "Error executing regex: Max stack size exceeded for backtracking while executing regex"

end RunError

/-- How many branches may be taken up when no other limit is asked for. -/
def defaultBacktrackLimit : Nat := 1000000

/-- How many branches may be kept at one time. -/
def stackLimit : Nat := 1000000

/-- Where a run stands: the next instruction, the position in the line, what has been
saved, and for each open atomic group how many branches were kept before it. -/
structure State where
  instruction : Nat
  position : Nat
  slots : Slots
  marks : List Nat
deriving Repr

/-- The branches that are kept, the last one at the end. -/
abbrev Branches := Array State

namespace State

/-- Go on at another instruction. -/
def jump (state : State) (target : Nat) : State := { state with instruction := target }

/-- Go on at the next instruction. -/
def next (state : State) : State := state.jump (state.instruction + 1)

/-- Move to another position. -/
def moveTo (state : State) (position : Nat) : State := { state with position }

/-- What a slot holds. -/
def slot? (state : State) (slot : Nat) : Option Nat := (state.slots[slot]?).join

/-- Change what a slot holds. -/
def set (state : State) (slot : Nat) (value : Option Nat) : State :=
  { state with slots := state.slots.set! slot value }

/-- Save the groups that the linear engine matched. -/
def adopt (state : State) (inner : Slots) (firstGroup groupCount : Nat) : State :=
  (List.range (2 * groupCount)).foldl
    (fun state offset => state.set (2 * firstGroup + offset) (inner[offset + 2]?).join) state

end State

/-- What running an instruction comes to. -/
inductive Effect where
  | goOn (state : State) (branches : Branches)
  | fail (branches : Branches)
  | accept (slots : Slots)
  | overflow
deriving Repr

/-- Go on with `state` and keep `other` for later. -/
def keep (branches : Branches) (state other : State) : Effect :=
  if branches.size < stackLimit then .goOn state (branches.push other) else .overflow

/-- Drop branches from the last one on, through the first that goes on at `target`.
`count` bounds how many are dropped. -/
def dropThrough (target : Nat) : (count : Nat) → Branches → Branches
  | 0, branches => branches
  | count + 1, branches =>
    match branches.back? with
    | none => branches
    | some branch =>
      if branch.instruction = target then branches.pop
      else dropThrough target count branches.pop

/-- A loop that counts its turns in a slot. -/
def countTurn (state : State) (branches : Branches) (min : Nat) (max : Option Nat)
    (greedy : Bool) (next counter : Nat) : Effect :=
  let turns := (state.slot? counter).getD 0
  if max = some turns then .goOn (state.jump next) branches
  else
    let turn := state.set counter (some (turns + 1))
    if turns < min then .goOn turn.next branches
    else if greedy then keep branches turn.next (turn.jump next)
    else keep branches (turn.jump next) turn.next

/-- A loop that counts its turns in a slot and fails after a turn that matched
nothing. -/
def guardTurn (state : State) (branches : Branches) (min : Nat) (greedy : Bool)
    (next counter guard : Nat) : Effect :=
  let turns := (state.slot? counter).getD 0
  if min < turns ∧ state.slot? guard = some state.position then .fail branches
  else
    let turn := state.set counter (some (turns + 1))
    if turns < min then .goOn turn.next branches
    else
      let turn := turn.set guard (some state.position)
      if greedy then keep branches turn.next (turn.jump next)
      else keep branches (turn.jump next) turn.next

/-- The groups of a finished match.  The match does not start behind its end. -/
def matchOf (state : State) : Slots :=
  match state.slot? 0, state.slot? 1 with
  | some start, some stop => if stop < start then state.slots.set! 0 (some stop) else state.slots
  | _, _ => state.slots

/-- Run one instruction.  `origin` is the position at which the search started. -/
def Instruction.run (line : Line) (origin : Nat) (state : State) (branches : Branches) :
    Instruction → Effect
  | .any newline =>
    match line.after? state.position with
    | none => .fail branches
    | some char =>
      if newline ∨ char ≠ '\n' then .goOn (state.next.moveTo (state.position + 1)) branches
      else .fail branches
  | .literal chars =>
    if line.startsWithAt state.position chars then
      .goOn (state.next.moveTo (state.position + chars.length)) branches
    else .fail branches
  | .assertion look =>
    if look.holdsAt line state.position then .goOn state.next branches else .fail branches
  | .split first second => keep branches (state.jump first) (state.jump second)
  | .jump target => .goOn (state.jump target) branches
  | .save slot => .goOn (state.next.set slot (some state.position)) branches
  | .clear slot => .goOn (state.next.set slot (some 0)) branches
  | .restore slot =>
    .goOn (state.next.moveTo ((state.slot? slot).getD state.position)) branches
  | .countedLoop min max greedy next counter =>
    countTurn state branches min max greedy next counter
  | .guardedLoop min greedy next counter guard =>
    guardTurn state branches min greedy next counter guard
  | .goBack count =>
    if state.position < count then .fail branches
    else .goOn (state.next.moveTo (state.position - count)) branches
  | .failLook => .fail (dropThrough (state.instruction + 1) branches.size branches)
  | .backreference group =>
    match state.slot? (2 * group), state.slot? (2 * group + 1) with
    | some start, some stop =>
      if line.startsWithAt state.position (line.slice start stop) then
        .goOn (state.next.moveTo (state.position + (stop - start))) branches
      else .fail branches
    | _, _ => .fail branches
  | .groupMatched group =>
    if (state.slot? (2 * group)).isSome then .goOn state.next branches else .fail branches
  | .beginAtomic => .goOn { state.next with marks := branches.size :: state.marks } branches
  | .endAtomic =>
    .goOn { state.next with marks := state.marks.drop 1 }
      (branches.shrink (state.marks.head?.getD branches.size))
  | .linear regex firstGroup groupCount =>
    match regex.matchAt line state.position with
    | none => .fail branches
    | some inner =>
      let stop := ((inner[1]?).join).getD state.position
      .goOn ((state.next.moveTo stop).adopt inner firstGroup groupCount) branches
  | .continueMatch => if origin < state.position then .fail branches else .goOn state.next branches
  | .accept => .accept (matchOf state)

/-- Run instructions until one fails or accepts.  `fuel` bounds their number: a run
that takes more of them is in a loop that matches nothing and only keeps branches. -/
def runOn (program : Program) (line : Line) (origin : Nat) :
    (fuel : Nat) → State → Branches → Effect
  | 0, _, _ => .overflow
  | fuel + 1, state, branches =>
    match program.instructions[state.instruction]? with
    | none => .fail branches
    | some instruction =>
      match instruction.run line origin state branches with
      | .goOn state branches => runOn program line origin fuel state branches
      | effect => effect

/-- Run a program and take up at most `left` branches. -/
def runWithin (program : Program) (line : Line) (origin fuel : Nat) :
    (left : Nat) → State → Branches → Except RunError (Option Slots)
  | left, state, branches =>
    match runOn program line origin fuel state branches with
    | .accept slots => .ok (some slots)
    | .overflow => .error .stackOverflow
    | .goOn _ _ => .error .stackOverflow
    | .fail branches =>
      match branches.back?, left with
      | none, _ => .ok none
      | some _, 0 => .error .backtrackLimit
      | some branch, left + 1 => runWithin program line origin fuel left branch branches.pop

/-! ## How long a run can go without failing -/

namespace Ast

/-- How many turns of a repetition can follow each other in a line when each turn but
those that must be made passes over a character. -/
def turnBound (length min minSize : Nat) (max : Option Nat) : Nat :=
  match max with
  | none => min + length + 2
  | some max => if minSize = 0 then max else Nat.min max (length + 1)

mutual

/-- How many instructions one pass through a pattern takes at most. -/
def stepBound (length : Nat) : Ast → Nat
  | sequence parts => stepBoundOf length parts
  | choice branches => stepBoundOf length branches
  | capture _ body => body.stepBound length + 2
  | lookAround _ body => body.stepBound length + 3
  | atomic body => body.stepBound length + 2
  | repetition min max _ body =>
    turnBound length min body.minSize max * (body.stepBound length + 2) + 2
  | conditional condition consequent alternative =>
    condition.stepBound length + consequent.stepBound length + alternative.stepBound length + 4
  | _ => 1

/-- How many instructions passes through all the patterns take at most. -/
def stepBoundOf (length : Nat) : List Ast → Nat
  | [] => 1
  | part :: parts => part.stepBound length + 5 + stepBoundOf length parts

end

end Ast

/-- The first match of a program for `ast` in a line. -/
def search (program : Program) (ast : Ast) (limit : Nat) (line : Line) :
    Except RunError (Option Slots) :=
  let fuel := (searchFor ast).stepBound line.length + 1
  runWithin program line 0 fuel limit ⟨0, 0, Array.replicate program.slots none, []⟩ #[]

end Backtracking
end LineExtraction

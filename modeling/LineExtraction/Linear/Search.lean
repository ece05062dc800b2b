import LineExtraction.Linear.Program

/-!
# Running matching programs

A program is explored depth first, and no instruction is entered twice at the same
position: what failed there once would fail again.  So a search takes at most as
many steps as there are pairs of instructions and positions, and the first way to
an accepting instruction is the preferred one.
-/

namespace LineExtraction
namespace Linear

/-- The positions that a match has recorded for the bounds of its groups. -/
abbrev Slots := Array (Option Nat)

/-- A place that the exploration has still to visit. -/
structure Thread where
  instruction : Nat
  position : Nat
  slots : Slots
deriving Repr

/-- The pairs of instruction and position that have been visited, one flag each. -/
structure Visited where
  flags : Array Bool
  width : Nat

namespace Visited

/-- Nothing visited, for a program and a line. -/
def none (program : Program) (line : Line) : Visited :=
  let width := line.length + 1
  ⟨Array.replicate (program.instructions.size * width) false, width⟩

/-- Where the flag of a thread is kept. -/
def key (visited : Visited) (thread : Thread) : Nat :=
  thread.instruction * visited.width + thread.position

/-- Whether the place of a thread has been visited. -/
def contains (visited : Visited) (thread : Thread) : Bool :=
  visited.flags.getD (visited.key thread) true

/-- Mark the place of a thread. -/
def mark (visited : Visited) (thread : Thread) : Visited :=
  let key := visited.key thread
  { visited with flags := visited.flags.set! key true }

end Visited

/-- The threads that one instruction leads to, preferred first. -/
def Instruction.successors (line : Line) (thread : Thread) : Instruction → List Thread
  | .char wanted next =>
    if line.after? thread.position = some wanted then
      [{ thread with instruction := next, position := thread.position + 1 }]
    else []
  | .set members next =>
    if (line.after? thread.position).any members.containsChar then
      [{ thread with instruction := next, position := thread.position + 1 }]
    else []
  | .look wanted next =>
    if wanted.holdsAt line thread.position then [{ thread with instruction := next }] else []
  | .split first second =>
    [{ thread with instruction := first }, { thread with instruction := second }]
  | .save slot next =>
    [{ thread with instruction := next, slots := thread.slots.set! slot thread.position }]
  | .accept => []

/-- Explore the threads in order until one accepts.  `fuel` bounds the number of
threads that are taken up. -/
def explore (program : Program) (line : Line) :
    (fuel : Nat) → (visited : Visited) → (threads : List Thread) → Option Slots
  | 0, _, _ => none
  | _, _, [] => none
  | fuel + 1, visited, thread :: threads =>
    if visited.contains thread then explore program line fuel visited threads
    else
      match program.instructions[thread.instruction]? with
      | none => explore program line fuel visited threads
      | some .accept => some thread.slots
      | some instruction =>
        explore program line fuel (visited.mark thread)
          (instruction.successors line thread ++ threads)

/-- How many threads a search takes up at most: two for each place, and those it
starts from. -/
def searchFuel (program : Program) (line : Line) (starts : Nat) : Nat :=
  2 * (program.instructions.size * (line.length + 1)) + starts + 1

/-- The thread that starts a program at a position. -/
def startThread (program : Program) (slotCount position : Nat) : Thread :=
  ⟨program.start, position, Array.replicate slotCount none⟩

/-- The preferred match that starts at a position. -/
def matchAt (program : Program) (slotCount : Nat) (line : Line) (position : Nat) :
    Option Slots :=
  explore program line (searchFuel program line 1) (.none program line)
    [startThread program slotCount position]

/-- The preferred match of those that start first. -/
def search (program : Program) (slotCount : Nat) (line : Line) : Option Slots :=
  let starts := (List.range (line.length + 1)).map (startThread program slotCount)
  explore program line (searchFuel program line starts.length) (.none program line) starts

end Linear
end LineExtraction

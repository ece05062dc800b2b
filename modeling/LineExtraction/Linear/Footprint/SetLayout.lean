import LineExtraction.Unicode.CodePointSet
import Std.Data.HashMap

/-!
# Layout of sets

What an automaton takes is counted while it is laid out: every state takes the same
number of bytes, and some carry a list besides.  Laying out stops as soon as more than
the allowed number of bytes is taken, so that its cost is bounded by the limit.

A set of ASCII characters is one state with a list of ranges.  Any other set is a small
automaton over the bytes of its members.  Read forward, states with the same arcs are
shared; read backward, equal ends of sequences are.  What can be shared is remembered in
a table of fixed size, where a later entry replaces an earlier one in its slot.
-/

namespace LineExtraction
namespace Linear

open Unicode (CodePointSet CodePointRange)

/-! ## Room -/

/-- The bytes that one state takes. -/
def stateBytes : Nat := 32

/-- The bytes that one target in the list of a choice takes. -/
def targetBytes : Nat := 4

/-- The bytes that one range in the list of a set takes, its target included. -/
def rangeBytes : Nat := 8

/-- How many states there are, and how many bytes their lists take. -/
structure Room where
  states : Nat
  listBytes : Nat
deriving DecidableEq, Repr

namespace Room

/-- No room. -/
def none : Room := ⟨0, 0⟩

/-- The room of two automata. -/
def add (left right : Room) : Room :=
  ⟨left.states + right.states, left.listBytes + right.listBytes⟩

/-- The bytes of all states and lists. -/
def bytes (room : Room) : Nat :=
  stateBytes * room.states + room.listBytes

/-- A state with a list of so many bytes. -/
def state (listBytes : Nat) : Room := ⟨1, listBytes⟩

end Room

/-- A step that lays out a part of an automaton, given the most bytes that may be taken.
It fails when they do not suffice. -/
abbrev Layout := ReaderT Nat (StateT Room Option)

namespace Layout

/-- Take more room. -/
def take (needed : Room) : Layout Unit := fun limit room =>
  let taken := room.add needed
  if taken.bytes ≤ limit then some ((), taken) else none

/-- Take a state with a list of so many bytes.  States are numbered from 0. -/
def newState (listBytes : Nat) : Layout Nat := fun limit room => do
  let ((), taken) ← take (.state listBytes) limit room
  return (room.states, taken)

/-- Lay out a choice between so many targets. -/
def newChoice (targets : Nat) : Layout Unit :=
  take (.state (targetBytes * targets))

/-- Repeat a step. -/
def times : (count : Nat) → Layout Unit → Layout Unit
  | 0, _ => pure ()
  | count + 1, step => do
    step
    times count step

/-- Whether the step needs no more than `limit` bytes. -/
def fits (limit : Nat) (layout : Layout Unit) : Bool :=
  (layout limit .none).isSome

end Layout

/-! ## Byte sequences of sets

An automaton reads bytes, so a set of characters is cut into sequences of byte ranges.
Each sequence stands for the characters whose encoding has its bytes in those ranges. -/

/-- The bytes from `first` to `last`. -/
structure ByteRange where
  first : Nat
  last : Nat
deriving DecidableEq, Repr

namespace ByteRange

/-- The bytes behind the leading one. -/
def continuation : ByteRange := ⟨0x80, 0xBF⟩

/-- The sequences of the codes from `first` to `last` that have `groups` groups of six
bits below the leading part.  `mark` is what the leading byte has besides its part of
the code. -/
def sequences (mark : Nat) : (groups : Nat) → (first last : Nat) → List (List ByteRange)
  | 0, first, last => [[⟨mark + first, mark + last⟩]]
  | groups + 1, first, last =>
    let unit := Nat.pow 64 (groups + 1)
    let low := first / unit
    let high := last / unit
    let inside (lead start stop : Nat) : List (List ByteRange) :=
      (sequences continuation.first groups start stop).map (⟨mark + lead, mark + lead⟩ :: ·)
    let whole (start stop : Nat) : List (List ByteRange) :=
      if start ≤ stop then
        [⟨mark + start, mark + stop⟩ :: List.replicate (groups + 1) continuation]
      else []
    let openFront := first % unit ≠ 0
    let openBack := last % unit ≠ unit - 1
    if low = high ∧ (openFront ∨ openBack) then inside low (first % unit) (last % unit)
    else
      (if openFront then inside low (first % unit) (unit - 1) else []) ++
        whole (if openFront then low + 1 else low) (if openBack then high - 1 else high) ++
        (if openBack then inside high 0 (last % unit) else [])

end ByteRange

/-- The codes of one length: how many groups follow the leading byte, and its mark. -/
structure EncodedLength where
  groups : Nat
  mark : Nat
  codes : CodePointRange
deriving DecidableEq, Repr

/-- The lengths, from the shortest. -/
def encodedLengths : List EncodedLength :=
  [⟨0, 0, ⟨0, 0x7F⟩⟩, ⟨1, 0xC0, ⟨0x80, 0x7FF⟩⟩, ⟨2, 0xE0, ⟨0x800, 0xFFFF⟩⟩,
    ⟨3, 0xF0, ⟨0x10000, 0x10FFFF⟩⟩]

/-- The byte sequences of a range. -/
def rangeSequences (range : CodePointRange) : List (List ByteRange) :=
  encodedLengths.flatMap fun length =>
    let first := max range.first length.codes.first
    let last := min range.last length.codes.last
    if first ≤ last then ByteRange.sequences length.mark length.groups first last else []

/-- The byte sequences of a set, in ascending order. -/
def setSequences (members : CodePointSet) : List (List ByteRange) :=
  members.ranges.flatMap rangeSequences

/-! ## Tables of shared states -/

/-- A table of states by slot.  Each entry keeps what the state was made for. -/
abbrev SharedStates (Key : Type) := Std.HashMap Nat (Key × Nat)

/-- Mix a number into a hash. -/
def mixHash (hash : UInt64) (value : Nat) : UInt64 :=
  (hash ^^^ value.toUInt64) * 1099511628211

/-- The slot of a key, given as the numbers that it consists of. -/
def slotOf (slots : Nat) (key : List Nat) : Nat :=
  (key.foldl mixHash 14695981039346656037).toNat % slots

namespace SharedStates

/-- The state for a key: the one that is remembered, or else a new one. -/
def obtain {Key : Type} [DecidableEq Key] (shared : SharedStates Key) (slot : Nat) (key : Key)
    (create : Layout Nat) : Layout (SharedStates Key × Nat) :=
  match shared[slot]? with
  | some (known, state) => if known = key then pure (shared, state) else insertNew
  | none => insertNew
where
  /-- Remember a new state for the key. -/
  insertNew : Layout (SharedStates Key × Nat) := do
    let state ← create
    return (shared.insert slot (key, state), state)

end SharedStates

/-! ## Forward -/

/-- An arc of a state: the bytes that it reads, and the state that it leads to. -/
structure Arc where
  range : ByteRange
  target : Nat
deriving DecidableEq, Repr

/-- How many states are remembered while a set is laid out forward. -/
def forwardSlots : Nat := 10000

/-- The state with the given arcs. -/
def stateWith (shared : SharedStates (Array Arc)) (arcs : Array Arc) :
    Layout (SharedStates (Array Arc) × Nat) :=
  let key := arcs.toList.flatMap fun arc => [arc.range.first, arc.range.last, arc.target]
  shared.obtain (slotOf forwardSlots key) arcs (Layout.newState (rangeBytes * arcs.size))

/-- A state that is not finished: its arcs so far, and the bytes of one more arc whose
target is still open. -/
structure OpenState where
  arcs : Array Arc
  pending : Option ByteRange
deriving Repr

/-- The arcs of a state when the open arc leads to `target`. -/
def OpenState.finished (state : OpenState) (target : Nat) : Array Arc :=
  match state.pending with
  | some range => state.arcs.push ⟨range, target⟩
  | none => state.arcs

/-- Finish the innermost open states, all but the outermost `keep` and one.  The open arc
of that one is settled too. -/
def finishInner (keep : Nat) (target : Nat) (shared : SharedStates (Array Arc)) :
    List OpenState → Layout (SharedStates (Array Arc) × List OpenState)
  | [] => pure (shared, [])
  | state :: outer =>
    if keep < outer.length then do
      let (shared, next) ← stateWith shared (state.finished target)
      finishInner keep next shared outer
    else pure (shared, ⟨state.finished target, none⟩ :: outer)

/-- How many ranges of a sequence the open arcs read already.  The states come
outermost first. -/
def commonFront : List ByteRange → List OpenState → Nat
  | range :: ranges, state :: states =>
    if state.pending = some range then commonFront ranges states + 1 else 0
  | _, _ => 0

/-- Open arcs for the ranges, the first of them at the innermost open state. -/
def openArcs (ranges : List ByteRange) (states : List OpenState) : List OpenState :=
  match ranges, states with
  | first :: rest, state :: outer =>
    (rest.reverse.map fun range => ⟨#[], some range⟩) ++ ⟨state.arcs, some first⟩ :: outer
  | _, states => states

/-- Lay out sequences in ascending order, each leading to `target`. -/
def layOutForward (target : Nat) (shared : SharedStates (Array Arc)) (states : List OpenState) :
    List (List ByteRange) → Layout Unit
  | [] => do
    let (shared, states) ← finishInner 0 target shared states
    match states with
    | root :: _ => discard (stateWith shared root.arcs)
    | [] => pure ()
  | sequence :: sequences => do
    let common := commonFront sequence states.reverse
    let (shared, states) ← finishInner common target shared states
    layOutForward target shared (openArcs (sequence.drop common) states) sequences

/-! ## Backward -/

/-- How many ends of sequences are remembered while a set is laid out backward. -/
def backwardSlots : Nat := 1000

/-- Lay out one sequence from `target` on. -/
def layOutSequence (shared : SharedStates (Nat × ByteRange)) (target : Nat) :
    List ByteRange → Layout (SharedStates (Nat × ByteRange))
  | [] => pure shared
  | range :: ranges => do
    let slot := slotOf backwardSlots [target, range.first, range.last]
    let (shared, state) ← shared.obtain slot (target, range) (Layout.newState 0)
    layOutSequence shared state ranges

/-- Lay out sequences one by one, each a target of a choice. -/
def layOutBackward (target : Nat) (shared : SharedStates (Nat × ByteRange)) :
    List (List ByteRange) → Layout Unit
  | [] => pure ()
  | sequence :: sequences => do
    let shared ← layOutSequence shared target sequence
    Layout.take ⟨0, targetBytes⟩
    layOutBackward target shared sequences

/-! ## Sets -/

/-- Which way an automaton reads a line. -/
inductive Direction where
  | forward
  | backward
deriving DecidableEq, Repr

/-- Lay out a set of characters. -/
def layOutSet (direction : Direction) (members : CodePointSet) : Layout Unit :=
  if members.isAscii then
    Layout.take ⟨2, rangeBytes * members.ranges.length⟩
  else
    match direction with
    | .forward => do
      let target ← Layout.newState 0
      layOutForward target ∅ [⟨#[], none⟩] (setSequences members)
    | .backward => do
      Layout.newChoice 0
      let target ← Layout.newState 0
      layOutBackward target ∅ (setSequences members)

end Linear
end LineExtraction

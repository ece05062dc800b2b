import LineExtraction.Proofs.Backtracking.Soundness
import Mathlib.Data.List.Flatten
import Mathlib.Data.List.TakeWhile

/-!
# Fragments lead where their patterns reach

A fragment of a program is followed from its start: whatever way leads on to acceptance passes
the place behind the fragment, at a position that the fragment's pattern may reach.  Between its
start and that place a fragment changes no slot but those of groups and its own, so that the
counters and the positions that are kept around it are found as they were.
-/

namespace LineExtraction

namespace Linear.Standing

variable {standing : Standing} {slot : Nat}

theorem slot?_put_self
    (room : slot < standing.slots.size)
    (value : Option Nat) :
    (standing.put slot value).slot? slot = value := by
  simp [slot?, put, room]

theorem slot?_put_ne
    {other : Nat}
    (different : slot ≠ other)
    (value : Option Nat) :
    (standing.put slot value).slot? other = standing.slot? other := by
  simp [slot?, put, different]

end Linear.Standing

/-! ## What the linear engine finds -/

namespace Linear

/-- What is found at a position is recorded along a match of the tree that starts there. -/
theorem exists_traces_of_matchAt
    {tree : Tree}
    {slotCount position : Nat}
    {line : Line}
    {slots : Slots}
    (found : matchAt (.ofTree tree) slotCount line position = some slots) :
    ∃ stop, (Tree.capture 0 none tree).Traces line ⟨position, Array.replicate slotCount none⟩ stop ∧
      stop.slots = slots := by
  obtain ⟨thread, listed, reaches⟩ := reaches_of_explore _ _ _ found
  obtain rfl := List.mem_singleton.mp listed
  exact Program.exists_traces_of_reaches line tree reaches

/-- A match at a position ends where the tree may match, and its groups are inside the line. -/
theorem Regex.matches_of_matchAt
    {tree : Tree}
    {line : Line}
    {position : Nat}
    {slots : Slots}
    (inside : position ≤ line.length)
    (found : (ofTree tree).matchAt line position = some slots) :
    (∃ stop ≤ line.length, (slots[1]?).join = some stop ∧ tree.Matches line position stop) ∧
      ∀ slot : Nat, ∀ value ∈ (slots[slot]?).join, value ≤ line.length := by
  obtain ⟨stop, traces, rfl⟩ := exists_traces_of_matchAt found
  have size : stop.slots.size = 2 * tree.groupNames.length :=
    traces.size.trans Array.size_replicate
  refine ⟨⟨stop.position, (traces.forward inside).2, ?_, traces.matches⟩,
    fun slot value holds => ?_⟩
  · have some : 0 < tree.groupNames.length := by
      simp [Tree.groupNames]
    obtain ⟨inmost, traced, rfl⟩ := traces
    rw [Standing.size_record] at size
    exact congrArg Option.join
      (inmost.getElem?_record_self (show 2 * 0 + 1 < inmost.slots.size by omega))
  · have listed : stop.slots[slot]? = some (some value) := Option.join_eq_some_iff.mp holds
    have small := (Array.getElem?_eq_some_iff.mp listed).1
    have room : 2 * (slot / 2) + 1 < stop.slots.size := by omega
    have place : slot = 2 * (slot / 2) ∨ slot = 2 * (slot / 2) + 1 := by omega
    obtain ⟨-, kept | ⟨first, last, recorded, -, ordered, below⟩⟩ :=
      traces.keptOrWithin (slot / 2) (traces.size ▸ room) inside
    · -- Before the match no group is recorded.
      have unrecorded : stop.slots[slot]? =
          (Array.replicate (ofTree tree).slotCount (none : Option Nat))[slot]? := by
        obtain start | stop := place
        · exact start ▸ kept.start
        · exact stop ▸ kept.stop
      rw [listed, Array.getElem?_replicate] at unrecorded
      split at unrecorded <;> cases unrecorded
    · have within := (traces.forward inside).2
      obtain start | stop := place
      · have same := recorded.start
        rw [← start, listed] at same
        obtain rfl := Option.some.inj (Option.some.inj same)
        omega
      · have same := recorded.stop
        rw [← stop, listed] at same
        obtain rfl := Option.some.inj (Option.some.inj same)
        omega

end Linear

namespace Backtracking

open Linear (Standing Turns Tree)

/-! ## Code in programs -/

/-- Whether code stands in a program from a place on. -/
def StandsAt (program code : Array Instruction) (place : Nat) : Prop :=
  ∀ index < code.size, program[place + index]? = code[index]?

namespace StandsAt

variable {program front back : Array Instruction} {place : Nat}

theorem left
    (stands : StandsAt program (front ++ back) place) :
    StandsAt program front place := by
  intro index inside
  rw [stands index (by rw [Array.size_append]; omega), Array.getElem?_append_left inside]

theorem right
    (stands : StandsAt program (front ++ back) place) :
    StandsAt program back (place + front.size) := by
  intro index inside
  rw [Nat.add_assoc, stands (front.size + index) (by rw [Array.size_append]; omega),
    Array.getElem?_append_right (Nat.le_add_right _ _), Nat.add_sub_cancel_left]

theorem only
    {instruction : Instruction}
    (stands : StandsAt program #[instruction] place) :
    program[place]? = some instruction :=
  stands 0 Nat.one_pos

end StandsAt

/-! ## Standings inside a line -/

/-- Whether a run may stand like this: inside the line, with room for all slots, and with the
groups inside the line. -/
structure Inside (line : Line) (groups room : Nat) (standing : Standing) : Prop where
  /-- The position is inside the line. -/
  position : standing.position ≤ line.length
  /-- There is room for all slots. -/
  size : standing.slots.size = room
  /-- The bounds of groups are inside the line. -/
  bounded : ∀ slot < 2 * groups, ∀ value ∈ standing.slot? slot, value ≤ line.length

/-- Whether the slots behind those of the groups and in front of a limit are the same. -/
def Keeps (groups limit : Nat) (before after : Standing) : Prop :=
  ∀ slot, 2 * groups ≤ slot → slot < limit → after.slot? slot = before.slot? slot

section

variable {line : Line} {groups room limit : Nat} {standing before between after : Standing}

namespace Inside

theorem put
    (inside : Inside line groups room standing)
    {slot : Nat}
    {value : Option Nat}
    (fits : slot < 2 * groups → ∀ place ∈ value, place ≤ line.length) :
    Inside line groups room (standing.put slot value) where
  position := inside.position
  size := by
    rw [← inside.size]
    simp [Standing.put]
  bounded other small place holds := by
    by_cases same : slot = other
    · subst same
      by_cases there : slot < standing.slots.size
      · rw [Standing.slot?_put_self there] at holds
        exact fits small place holds
      · have missing : (standing.put slot value).slot? slot = none := by
          simp [Standing.slot?, Standing.put, there]
        rw [missing] at holds
        cases holds
    · rw [Standing.slot?_put_ne same] at holds
      exact inside.bounded other small place holds

theorem moveTo
    (inside : Inside line groups room standing)
    {position : Nat}
    (below : position ≤ line.length) :
    Inside line groups room (standing.moveTo position) :=
  ⟨below, inside.size, inside.bounded⟩

end Inside

namespace Keeps

theorem refl : Keeps groups limit standing standing := fun _ _ _ => rfl

theorem trans
    (first : Keeps groups limit before between)
    (second : Keeps groups limit between after) :
    Keeps groups limit before after :=
  fun slot above below => (second slot above below).trans (first slot above below)

theorem mono
    {lower : Nat}
    (keeps : Keeps groups limit before after)
    (less : lower ≤ limit) :
    Keeps groups lower before after :=
  fun slot above below => keeps slot above (Nat.lt_of_lt_of_le below less)

theorem put
    {slot : Nat}
    (apart : slot < 2 * groups ∨ limit ≤ slot)
    (value : Option Nat) :
    Keeps groups limit standing (standing.put slot value) :=
  fun _ above below => Standing.slot?_put_ne (by omega) value

end Keeps

/-- One standing follows another: by a known meaning inside the line, with the slots in front of
a limit as they were. -/
structure Moves (line : Line) (groups room limit : Nat) (meaning : Nat → Nat → Prop)
    (before after : Standing) : Prop where
  /-- What the positions have to do with each other. -/
  means : meaning before.position after.position
  /-- The second standing is inside the line, too. -/
  inside : Inside line groups room after
  /-- The slots in front of the limit are as they were. -/
  keeps : Keeps groups limit before after

/-- A slot that is no group's may be written to where only those in front of it are kept. -/
theorem Moves.put
    (inside : Inside line groups room standing)
    {slot : Nat}
    (above : 2 * groups ≤ slot)
    (value : Option Nat) :
    Moves line groups room slot (· = ·) standing (standing.put slot value) :=
  ⟨rfl, inside.put fun low => absurd low (Nat.not_lt_of_le above), .put (.inr (Nat.le_refl _)) _⟩

/-- Whether whatever way leads from a place on to acceptance passes another place, with a meaning
for the positions at both. -/
def Passes (line : Line) (groups room : Nat) (program : Array Instruction)
    (limit place next : Nat) (meaning : Nat → Nat → Prop) : Prop :=
  ∀ count before, Inside line groups room before → AcceptsIn program line count place before →
    ∃ fewer ≤ count, ∃ after, Moves line groups room limit meaning before after ∧
      AcceptsIn program line fewer next after

namespace Passes

variable {program : Array Instruction} {place middle next : Nat}
  {meaning other : Nat → Nat → Prop}

theorem refl : Passes line groups room program limit place place (· = ·) :=
  fun count before inside accepts =>
    ⟨count, Nat.le_refl _, before, ⟨rfl, inside, .refl⟩, accepts⟩

theorem mono
    {lower : Nat}
    (passes : Passes line groups room program limit place next meaning)
    (less : lower ≤ limit)
    (implies : ∀ start stop, meaning start stop → other start stop) :
    Passes line groups room program lower place next other := by
  intro count before inside accepts
  obtain ⟨fewer, bound, after, moves, rest⟩ := passes count before inside accepts
  exact ⟨fewer, bound, after, ⟨implies _ _ moves.means, moves.inside, moves.keeps.mono less⟩, rest⟩

theorem trans
    (first : Passes line groups room program limit place middle meaning)
    (second : Passes line groups room program limit middle next other) :
    Passes line groups room program limit place next
      (fun start stop => ∃ between, meaning start between ∧ other between stop) := by
  intro count before inside accepts
  obtain ⟨fewer, bound, between, front, rest⟩ := first count before inside accepts
  obtain ⟨least, tighter, after, back, behind⟩ := second fewer between front.inside rest
  exact ⟨least, Nat.le_trans tighter bound, after, ⟨⟨between.position, front.means, back.means⟩,
    back.inside, front.keeps.trans back.keeps⟩, behind⟩

/-- An instruction is passed where it leads to what stands behind it. -/
theorem one
    {instruction : Instruction}
    (found : program[place]? = some instruction)
    (goesOn : instruction ≠ .accept)
    (leads : ∀ before target, Inside line groups room before →
      instruction.Leads line place before target →
        target.1 = next ∧ Moves line groups room limit meaning before target.2) :
    Passes line groups room program limit place next meaning := by
  intro count before inside accepts
  obtain ⟨fewer, rfl, target, leadsThere, rest⟩ := accepts.firstStep found goesOn
  obtain ⟨rfl, moves⟩ := leads before target inside leadsThere
  exact ⟨fewer, Nat.le_succ fewer, target.2, moves, rest⟩

theorem jump
    (found : program[place]? = some (.jump next)) :
    Passes line groups room program limit place next (· = ·) :=
  one found nofun fun before target inside leads => by
    obtain rfl : target = (next, before) := leads
    exact ⟨rfl, rfl, inside, .refl⟩

end Passes

/-! ## Choices and loops -/

theorem leads_prefer_iff
    {greedy : Bool}
    {first second number : Nat}
    {target : Nat × Standing} :
    (prefer greedy first second).Leads line number standing target ↔
      target = (first, standing) ∨ target = (second, standing) := by
  cases greedy
  · exact or_comm
  · exact Iff.rfl

theorem prefer_ne_accept
    (greedy : Bool)
    (first second : Nat) :
    prefer greedy first second ≠ .accept := by
  cases greedy <;> nofun

namespace Passes

variable {program : Array Instruction} {place first second next : Nat} {greedy : Bool}
  {meaning other : Nat → Nat → Prop}

/-- A choice is passed by one way or the other. -/
theorem choose
    (found : program[place]? = some (prefer greedy first second))
    (left : Passes line groups room program limit first next meaning)
    (right : Passes line groups room program limit second next other) :
    Passes line groups room program limit place next
      (fun start stop => meaning start stop ∨ other start stop) := by
  intro count before inside accepts
  obtain ⟨fewer, rfl, target, leads, rest⟩ := accepts.firstStep found (prefer_ne_accept _ _ _)
  obtain rfl | rfl := leads_prefer_iff.mp leads
  · obtain ⟨least, bound, after, moves, behind⟩ := left fewer before inside rest
    exact ⟨least, Nat.le_succ_of_le bound, after, ⟨.inl moves.means, moves.inside, moves.keeps⟩,
      behind⟩
  · obtain ⟨least, bound, after, moves, behind⟩ := right fewer before inside rest
    exact ⟨least, Nat.le_succ_of_le bound, after, ⟨.inr moves.means, moves.inside, moves.keeps⟩,
      behind⟩

/-- A loop that may be left at any time is passed by any number of turns. -/
theorem turns
    (found : program[place]? = some (prefer greedy first next))
    (body : Passes line groups room program limit first place meaning) :
    Passes line groups room program limit place next
      (fun start stop => ∃ count, Turns meaning count start stop) := by
  intro count
  -- A turn takes steps, so that the rest of the way is shorter.
  induction count using Nat.strongRecOn with
  | ind count inductionHypothesis =>
      intro before inside accepts
      obtain ⟨fewer, rfl, target, leads, rest⟩ := accepts.firstStep found (prefer_ne_accept _ _ _)
      obtain rfl | rfl := leads_prefer_iff.mp leads
      · obtain ⟨less, bound, between, turn, again⟩ := body fewer before inside rest
        obtain ⟨least, tighter, after, ⟨⟨count, turns⟩, stays, keeps⟩, behind⟩ :=
          inductionHypothesis less (Nat.lt_succ_of_le bound) between turn.inside again
        exact ⟨least, by omega, after, ⟨⟨count + 1, between.position, turn.means, turns⟩, stays,
          turn.keeps.trans keeps⟩, behind⟩
      · exact ⟨fewer, Nat.le_succ fewer, before, ⟨⟨0, rfl⟩, inside, .refl⟩, rest⟩

/-- A loop that counts its turns is passed by a number of them within the bounds. -/
theorem countedTurns
    {loop : Instruction}
    (found : program[place]? = some loop)
    (goesOn : loop ≠ .accept)
    {counter min : Nat}
    {max : Option Nat}
    (above : 2 * groups ≤ counter)
    (leads : ∀ before target turns, Inside line groups room before →
      before.slot? counter = some turns → loop.Leads line place before target →
        Moves line groups room counter (· = ·) before target.2 ∧
          (target.1 = next ∧ (min ≤ turns ∨ max = some turns) ∨
            target.1 = first ∧ max ≠ some turns ∧ target.2.slot? counter = some (turns + 1)))
    (body : Passes line groups room program (counter + 1) first place meaning)
    {count turns : Nat}
    (inside : Inside line groups room before)
    (counted : before.slot? counter = some turns)
    (allowed : ∀ bound ∈ max, turns ≤ bound)
    (accepts : AcceptsIn program line count place before) :
    ∃ fewer ≤ count, ∃ after,
      Moves line groups room counter
        (fun start stop => ∃ more, (min ≤ turns + more ∨ max = some (turns + more)) ∧
          (∀ bound ∈ max, turns + more ≤ bound) ∧ Turns meaning more start stop)
        before after ∧
        AcceptsIn program line fewer next after := by
  induction count using Nat.strongRecOn generalizing before turns with
  | ind count inductionHypothesis =>
      obtain ⟨fewer, rfl, target, leadsThere, rest⟩ := accepts.firstStep found goesOn
      obtain ⟨moves, leaves | goes⟩ := leads before target turns inside counted leadsThere
      · obtain ⟨rfl, enough⟩ := leaves
        exact ⟨fewer, Nat.le_succ fewer, target.2,
          ⟨⟨0, enough, allowed, moves.means⟩, moves.inside, moves.keeps⟩, rest⟩
      · obtain ⟨rfl, room, counted⟩ := goes
        obtain ⟨less, bound, between, turn, again⟩ := body fewer target.2 moves.inside rest
        have kept := (turn.keeps counter above (Nat.lt_succ_self counter)).trans counted
        have within : ∀ bound ∈ max, turns + 1 ≤ bound := by
          rintro bound ⟨⟩
          exact Nat.lt_of_le_of_ne (allowed bound rfl) fun same => room (congrArg some same.symm)
        obtain ⟨least, tighter, after, ⟨⟨more, enough, few, others⟩, stays, keeps⟩, behind⟩ :=
          inductionHypothesis less (Nat.lt_succ_of_le bound) turn.inside kept within again
        have order : turns + (more + 1) = turns + 1 + more := by omega
        refine ⟨least, by omega, after, ⟨⟨more + 1, order ▸ enough, order ▸ few, ?_⟩, stays, ?_⟩,
          behind⟩
        · exact ⟨between.position, moves.means ▸ turn.means, others⟩
        · exact (moves.keeps.trans (turn.keeps.mono (Nat.le_succ counter))).trans keeps

end Passes

/-! ## Groups in order -/

/-- Whether groups are numbered in order and there are all of them. -/
structure InOrder (groups : Nat) (captures : List Nat) : Prop where
  /-- Each group has a greater number than those in front of it. -/
  ascending : captures.Pairwise (· < ·)
  /-- Each group is one that there is. -/
  below : ∀ group ∈ captures, group < groups

namespace InOrder

variable {captures others : List Nat}

theorem sublist
    (inOrder : InOrder groups captures)
    (some : others.Sublist captures) :
    InOrder groups others :=
  ⟨inOrder.ascending.sublist some, fun group member => inOrder.below group (some.subset member)⟩

/-- There is room for as many groups as are listed from the first of them on. -/
theorem head_add_length_le
    (inOrder : InOrder groups captures) :
    captures.head?.getD 0 + captures.length ≤ groups := by
  induction captures with
  | nil => exact Nat.zero_le groups
  | cons first captures inductionHypothesis =>
      have others := inductionHypothesis (inOrder.sublist (List.sublist_cons_self first captures))
      have small := inOrder.below first List.mem_cons_self
      cases captures with
      | nil => exact small
      | cons second captures =>
          have less := List.rel_of_pairwise_cons inOrder.ascending List.mem_cons_self
          simp only [List.head?_cons, Option.getD_some, List.length_cons] at others ⊢
          omega

end InOrder

/-- What a match of the linear engine saves are groups inside the line. -/
theorem moves_adopt
    (inside : Inside line groups room standing)
    {inner : Linear.Slots}
    (bounded : ∀ slot : Nat, ∀ value ∈ (inner[slot]?).join, value ≤ line.length)
    {firstGroup : Nat}
    {offsets : List Nat}
    (few : ∀ offset ∈ offsets, 2 * firstGroup + offset < 2 * groups) :
    Moves line groups room limit (· = ·) standing (standing.adopt inner firstGroup offsets) := by
  induction offsets generalizing standing with
  | nil => exact ⟨rfl, inside, .refl⟩
  | cons offset offsets inductionHypothesis =>
      obtain ⟨own, others⟩ := List.forall_mem_cons.mp few
      have put : Inside line groups room
          (standing.put (2 * firstGroup + offset) (inner[offset + 2]?).join) :=
        inside.put fun _ => bounded (offset + 2)
      obtain ⟨same, stays, keeps⟩ := inductionHypothesis put others
      exact ⟨same, stays, (Keeps.put (.inl own) _).trans keeps⟩

/-! ## Fragments -/

/-- Whether a fragment for a place with some slots in use has a meaning in every program that it
stands in. -/
structure Fragment.Realises (line : Line) (groups room start slots : Nat) (fragment : Fragment)
    (meaning : Nat → Nat → Prop) : Prop where
  /-- The slots in use stay in use. -/
  grows : slots ≤ fragment.slots
  /-- Whatever way leads through the fragment has the meaning. -/
  passes : fragment.slots ≤ room → ∀ program, StandsAt program fragment.code start →
    Passes line groups room program slots start (start + fragment.code.size) meaning

/-- Whether whatever is compiled has a meaning. -/
def Emits (line : Line) (groups room : Nat) (compile : Emit) (meaning : Nat → Nat → Prop) : Prop :=
  ∀ start slots fragment, 2 * groups ≤ slots → compile start slots = .ok fragment →
    fragment.Realises line groups room start slots meaning

namespace Emits

variable {compile first second : Emit} {meaning other : Nat → Nat → Prop}

theorem mono
    (emits : Emits line groups room compile meaning)
    (implies : ∀ start stop, meaning start stop → other start stop) :
    Emits line groups room compile other := by
  intro start slots fragment above compiled
  obtain ⟨grows, passes⟩ := emits start slots fragment above compiled
  exact ⟨grows, fun fits program stands =>
    (passes fits program stands).mono (Nat.le_refl _) implies⟩

theorem none : Emits line groups room emitNone (· = ·) := by
  intro start slots fragment above compiled
  obtain rfl := Except.ok.inj compiled
  exact ⟨Nat.le_refl _, fun fits program stands => .refl⟩

theorem one
    {instruction : Instruction}
    (goesOn : instruction ≠ .accept)
    (leads : ∀ limit number before target, Inside line groups room before →
      instruction.Leads line number before target →
        target.1 = number + 1 ∧ Moves line groups room limit meaning before target.2) :
    Emits line groups room (emitOne instruction) meaning := by
  intro start slots fragment above compiled
  obtain rfl := Except.ok.inj compiled
  exact ⟨Nat.le_refl _, fun fits program stands =>
    .one stands.only goesOn (leads slots start)⟩

theorem andThen
    (front : Emits line groups room first meaning)
    (back : Emits line groups room second other) :
    Emits line groups room (andThen first second)
      (fun start stop => ∃ between, meaning start between ∧ other between stop) := by
  intro start slots fragment above compiled
  obtain ⟨left, leftCompiled, compiled⟩ := Except.bind_eq_ok_iff.mp compiled
  obtain ⟨right, rightCompiled, made⟩ := Except.bind_eq_ok_iff.mp compiled
  obtain rfl := Except.ok.inj made
  obtain ⟨leftGrows, leftPasses⟩ := front start slots left above leftCompiled
  obtain ⟨rightGrows, rightPasses⟩ := back _ _ right (Nat.le_trans above leftGrows) rightCompiled
  refine ⟨Nat.le_trans leftGrows rightGrows, fun fits program stands => ?_⟩
  rw [Array.size_append, ← Nat.add_assoc]
  exact (leftPasses (Nat.le_trans rightGrows fits) program stands.left).trans
    ((rightPasses fits program stands.right).mono leftGrows fun _ _ => id)

theorem either
    (front : Emits line groups room first meaning)
    (back : Emits line groups room second other) :
    Emits line groups room (emitEither first second)
      (fun start stop => meaning start stop ∨ other start stop) := by
  intro start slots fragment above compiled
  obtain ⟨left, leftCompiled, compiled⟩ := Except.bind_eq_ok_iff.mp compiled
  obtain ⟨right, rightCompiled, made⟩ := Except.bind_eq_ok_iff.mp compiled
  obtain rfl := Except.ok.inj made
  obtain ⟨leftGrows, leftPasses⟩ := front _ _ left above leftCompiled
  obtain ⟨rightGrows, rightPasses⟩ := back _ _ right (Nat.le_trans above leftGrows) rightCompiled
  refine ⟨Nat.le_trans leftGrows rightGrows, fun fits program stands => ?_⟩
  have leaves := stands.left.right
  have behind := stands.right
  simp only [Array.size_append, ← Nat.add_assoc] at leaves behind ⊢
  have chosen : program[start]? =
      some (prefer true (start + 1) (start + 1 + left.code.size + 1)) :=
    stands.left.left.left.only
  exact .choose chosen
    (((leftPasses (Nat.le_trans rightGrows fits) program stands.left.left.right).trans
      (.jump leaves.only)).mono (Nat.le_refl _) (by rintro _ _ ⟨_, holds, rfl⟩; exact holds))
    ((rightPasses fits program behind).mono leftGrows fun _ _ => id)

/-! ### Repetitions -/

/-- A number of turns within bounds.  Where the bounds are in the wrong order the upper one ends
the turns. -/
def Repeats (meaning : Nat → Nat → Prop) (min : Nat) (max : Option Nat) (start stop : Nat) :
    Prop :=
  ∃ count, (min ≤ count ∨ max = some count) ∧ (∀ bound ∈ max, count ≤ bound) ∧
    Turns meaning count start stop

theorem optional
    (body : Emits line groups room compile meaning)
    (greedy : Bool) :
    Emits line groups room (emitOptional compile greedy) (Repeats meaning 0 (some 1)) := by
  intro start slots fragment above compiled
  obtain ⟨turn, turnCompiled, made⟩ := Except.bind_eq_ok_iff.mp compiled
  obtain rfl := Except.ok.inj made
  obtain ⟨grows, passes⟩ := body _ _ turn above turnCompiled
  refine ⟨grows, fun fits program stands => ?_⟩
  rw [Array.size_append, ← Nat.add_assoc]
  refine (Passes.choose stands.left.only (passes fits program stands.right) .refl).mono
    (Nat.le_refl _) ?_
  rintro from' to' (turned | rfl)
  · exact ⟨1, .inl (Nat.zero_le _), fun bound same => Nat.le_of_eq (Option.some.inj same),
      (Linear.turns_one meaning _ _).mpr turned⟩
  · exact ⟨0, .inl (Nat.le_refl _), fun bound _ => Nat.zero_le bound, rfl⟩

theorem star
    (body : Emits line groups room compile meaning)
    (greedy : Bool) :
    Emits line groups room (emitStar compile greedy) (Repeats meaning 0 .none) := by
  intro start slots fragment above compiled
  obtain ⟨turn, turnCompiled, made⟩ := Except.bind_eq_ok_iff.mp compiled
  obtain rfl := Except.ok.inj made
  obtain ⟨grows, passes⟩ := body _ _ turn above turnCompiled
  refine ⟨grows, fun fits program stands => ?_⟩
  have again := stands.right
  simp only [Array.size_append, ← Nat.add_assoc] at again ⊢
  have round : Passes line groups room program slots (start + 1) start meaning :=
    ((passes fits program stands.left.right).trans (.jump again.only)).mono (Nat.le_refl _)
      (by rintro _ _ ⟨_, holds, rfl⟩; exact holds)
  refine (Passes.turns stands.left.left.only round).mono (Nat.le_refl _) ?_
  rintro from' to' ⟨count, turns⟩
  exact ⟨count, .inl (Nat.zero_le _), nofun, turns⟩

theorem plus
    (body : Emits line groups room compile meaning)
    (greedy : Bool) :
    Emits line groups room (emitPlus compile greedy) (Repeats meaning 1 .none) := by
  intro start slots fragment above compiled
  obtain ⟨turn, turnCompiled, made⟩ := Except.bind_eq_ok_iff.mp compiled
  obtain rfl := Except.ok.inj made
  obtain ⟨grows, passes⟩ := body _ _ turn above turnCompiled
  refine ⟨grows, fun fits program stands => ?_⟩
  rw [Array.push_eq_append] at stands
  rw [Array.size_push, ← Nat.add_assoc]
  have once := passes fits program stands.left
  refine (once.trans (Passes.turns stands.right.only once)).mono (Nat.le_refl _) ?_
  rintro from' to' ⟨between, turned, count, turns⟩
  exact ⟨count + 1, .inl (Nat.le_add_left 1 count), nofun, between, turned, turns⟩

/-- A loop that counts in the first slot which is not in use. -/
theorem loop
    {own : Nat}
    (positive : 0 < own)
    {min : Nat}
    {max : Option Nat}
    (loopOf : (behind counter : Nat) → Instruction)
    (goesOn : ∀ behind counter, loopOf behind counter ≠ .accept)
    (leads : ∀ number behind counter before target turns, 2 * groups ≤ counter →
      counter < room → Inside line groups room before → before.slot? counter = some turns →
        (loopOf behind counter).Leads line number before target →
          Moves line groups room counter (· = ·) before target.2 ∧
            (target.1 = behind ∧ (min ≤ turns ∨ max = some turns) ∨
              target.1 = number + 1 ∧ max ≠ some turns ∧
                target.2.slot? counter = some (turns + 1)))
    (body : Emits line groups room compile meaning) :
    Emits line groups room
      (fun start slots => do
        let turn ← compile (start + 2) (slots + own)
        let behind := start + 2 + turn.code.size + 1
        return ⟨#[.clear slots, loopOf behind slots] ++ turn.code ++ #[.jump (start + 1)],
          turn.slots⟩)
      (Repeats meaning min max) := by
  intro start slots fragment above compiled
  obtain ⟨turn, turnCompiled, made⟩ := Except.bind_eq_ok_iff.mp compiled
  obtain rfl := Except.ok.inj made
  obtain ⟨grows, passes⟩ := body _ _ turn (Nat.le_add_right_of_le above) turnCompiled
  refine ⟨Nat.le_of_add_right_le grows, fun fits program stands => ?_⟩
  have fits : turn.slots ≤ room := fits
  have small : slots < room := by omega
  have again := stands.right
  simp only [Array.size_append, ← Nat.add_assoc] at again ⊢
  have clears : program[start]? = some (.clear slots) :=
    stands.left.left 0 (Nat.zero_lt_succ 1)
  have loops : program[start + 1]? = some (loopOf (start + 2 + turn.code.size + 1) slots) :=
    stands.left.left 1 (Nat.lt_succ_self 1)
  have round : Passes line groups room program (slots + 1) (start + 1 + 1) (start + 1) meaning :=
    ((passes fits program stands.left.right).trans (.jump again.only)).mono
      (Nat.add_le_add_left positive slots) (by rintro _ _ ⟨_, holds, rfl⟩; exact holds)
  intro count before inside accepts
  obtain ⟨fewer, rfl, target, leadsThere, rest⟩ := accepts.firstStep clears nofun
  obtain rfl : target = (start + 1, before.put slots (some 0)) := leadsThere
  have counted : (before.put slots (some 0)).slot? slots = some 0 :=
    Standing.slot?_put_self (inside.size ▸ small) _
  have cleared : Moves line groups room slots (· = ·) before (before.put slots (some 0)) :=
    .put inside above _
  obtain ⟨least, bound, after, ⟨⟨more, enough, few, turns⟩, stays, keeps⟩, behind⟩ :=
    Passes.countedTurns loops (goesOn _ _) above
      (fun before target turns => leads _ _ slots before target turns above small) round
      cleared.inside counted (fun bound _ => Nat.zero_le bound) rest
  rw [Nat.zero_add] at enough few
  exact ⟨least, Nat.le_succ_of_le bound, after,
    ⟨⟨more, enough, few, turns⟩, stays, cleared.keeps.trans keeps⟩, behind⟩

theorem counted
    (body : Emits line groups room compile meaning)
    (min : Nat)
    (max : Option Nat)
    (greedy : Bool) :
    Emits line groups room (emitCounted compile min max greedy) (Repeats meaning min max) := by
  refine loop Nat.one_pos (fun behind counter => .countedLoop min max greedy behind counter)
    (fun _ _ => nofun)
    (fun number behind counter before target turns above small inside is leads => ?_) body
  have turned : Moves line groups room counter (· = ·) before
      (before.put counter (some (turns + 1))) := .put inside above _
  have counts : (before.put counter (some (turns + 1))).slot? counter = some (turns + 1) :=
    Standing.slot?_put_self (inside.size ▸ small) _
  simp only [Instruction.Leads, is, Option.getD_some] at leads
  obtain ⟨full, rfl⟩ | ⟨more, rfl⟩ | ⟨enough, rfl⟩ := leads
  · exact ⟨⟨rfl, inside, .refl⟩, .inl ⟨rfl, .inr full⟩⟩
  · exact ⟨turned, .inr ⟨rfl, more, counts⟩⟩
  · exact ⟨turned, .inl ⟨rfl, .inl enough⟩⟩

theorem guarded
    (body : Emits line groups room compile meaning)
    (min : Nat)
    (greedy : Bool) :
    Emits line groups room (emitGuarded compile min greedy) (Repeats meaning min .none) := by
  refine loop Nat.two_pos
    (fun behind counter => .guardedLoop min greedy behind counter (counter + 1))
    (fun _ _ => nofun)
    (fun number behind counter before target turns above small inside is leads => ?_) body
  have turned : Moves line groups room counter (· = ·) before
      (before.put counter (some (turns + 1))) := .put inside above _
  have guards : Moves line groups room counter (· = ·) before
      ((before.put counter (some (turns + 1))).put (counter + 1) (some before.position)) :=
    ⟨rfl, turned.inside.put fun _ place same => (Option.some.inj same) ▸ inside.position,
      turned.keeps.trans (.put (.inr (Nat.le_succ counter)) _)⟩
  have counts : (before.put counter (some (turns + 1))).slot? counter = some (turns + 1) :=
    Standing.slot?_put_self (inside.size ▸ small) _
  simp only [Instruction.Leads, is, Option.getD_some] at leads
  obtain rfl | rfl | ⟨enough, rfl⟩ := leads
  · exact ⟨turned, .inr ⟨rfl, nofun, counts⟩⟩
  · exact ⟨guards, .inr ⟨rfl, nofun,
      (Standing.slot?_put_ne (Nat.succ_ne_self counter) _).trans counts⟩⟩
  · exact ⟨guards, .inl ⟨rfl, .inl enough⟩⟩

/-- However a repetition is compiled, it takes a number of turns within its bounds. -/
theorem repetition
    (body : Emits line groups room compile meaning)
    (minSize min : Nat)
    (max : Option Nat)
    (greedy : Bool) :
    Emits line groups room (emitRepetition compile minSize min max greedy)
      (Repeats meaning min max) := by
  rw [emitRepetition]
  split
  · next once =>
      obtain ⟨rfl, rfl⟩ := once
      exact body.optional greedy
  split
  · next open' =>
      obtain ⟨rfl, -⟩ := open'
      exact body.guarded min greedy
  split
  · next any =>
      obtain ⟨rfl, rfl⟩ := any
      exact body.star greedy
  split
  · next some =>
      obtain ⟨rfl, rfl⟩ := some
      exact body.plus greedy
  · exact body.counted min max greedy

/-! ### Looking around -/

/-- A look-around that wants a match is left where it was entered. -/
theorem positiveLook
    (inner : Emits line groups room compile meaning) :
    Emits line groups room (emitPositiveLook compile) (· = ·) := by
  intro start slots fragment above compiled
  obtain ⟨body, bodyCompiled, made⟩ := Except.bind_eq_ok_iff.mp compiled
  obtain rfl := Except.ok.inj made
  obtain ⟨grows, passes⟩ := inner _ _ body (Nat.le_succ_of_le above) bodyCompiled
  refine ⟨Nat.le_of_succ_le grows, fun fits program stands => ?_⟩
  have fits : body.slots ≤ room := fits
  have restores := stands.right
  simp only [Array.size_append, ← Nat.add_assoc] at restores ⊢
  intro count before inside accepts
  obtain ⟨fewer, rfl, target, leads, rest⟩ := accepts.firstStep stands.left.left.only nofun
  obtain rfl : target = (start + 1, before.put slots (some before.position)) := leads
  have saved : Moves line groups room slots (· = ·) before
      (before.put slots (some before.position)) := .put inside above _
  obtain ⟨less, bound, between, moves, rest⟩ :=
    passes fits program stands.left.right fewer _ saved.inside rest
  obtain ⟨least, rfl, target, leads, rest⟩ := rest.firstStep restores.only nofun
  have kept : between.slot? slots = some before.position :=
    (moves.keeps slots above (Nat.lt_succ_self slots)).trans
      (Standing.slot?_put_self (by rw [inside.size]; omega) _)
  obtain rfl : target = (start + 1 + body.code.size + 1,
      between.moveTo ((between.slot? slots).getD between.position)) := leads
  rw [kept] at rest
  exact ⟨least, by omega, between.moveTo before.position,
    ⟨rfl, moves.inside.moveTo inside.position,
      saved.keeps.trans (moves.keeps.mono (Nat.le_succ slots))⟩, rest⟩

/-- A look-around that wants no match is left where it was entered: nothing leads on behind a
match of its body. -/
theorem negativeLook
    (inner : Emits line groups room compile meaning) :
    Emits line groups room (emitNegativeLook compile) (· = ·) := by
  intro start slots fragment above compiled
  obtain ⟨body, bodyCompiled, made⟩ := Except.bind_eq_ok_iff.mp compiled
  obtain rfl := Except.ok.inj made
  obtain ⟨grows, passes⟩ := inner _ _ body above bodyCompiled
  refine ⟨grows, fun fits program stands => ?_⟩
  have fails := stands.right
  simp only [Array.size_append, ← Nat.add_assoc] at fails ⊢
  intro count before inside accepts
  obtain ⟨fewer, rfl, target, leads, rest⟩ := accepts.firstStep stands.left.left.only nofun
  obtain rfl | rfl := leads
  · obtain ⟨less, bound, between, moves, rest⟩ :=
      passes fits program stands.left.right fewer before inside rest
    obtain ⟨least, rfl, target, leads, rest⟩ := rest.firstStep fails.only nofun
    exact leads.elim
  · exact ⟨fewer, Nat.le_succ fewer, before, ⟨rfl, inside, .refl⟩, rest⟩

theorem look
    (inner : Emits line groups room compile meaning)
    (negative : Bool) :
    Emits line groups room (emitLook negative compile) (· = ·) := by
  cases negative
  · exact inner.positiveLook
  · exact inner.negativeLook

/-- What a look-around looks for has some meaning. -/
theorem lookBody
    (body : Emits line groups room compile meaning)
    (behind constSize : Bool)
    (size : Nat) :
    ∃ meaning, Emits line groups room (emitLookBody compile behind constSize size) meaning := by
  rw [emitLookBody]
  split
  · split
    · have goesBack : Emits line groups room (emitOne (.goBack size)) fun _ _ => True :=
        one nofun fun limit number before target inside leads => by
          obtain ⟨within, rfl⟩ := leads
          have below := Nat.le_trans (Nat.sub_le before.position size) inside.position
          exact ⟨rfl, trivial, inside.moveTo below, .refl⟩
      exact ⟨_, goesBack.andThen body⟩
    · exact ⟨meaning, nofun⟩
  · exact ⟨meaning, body⟩

/-! ### Single instructions -/

theorem any
    (newline : Bool) :
    Emits line groups room (emitOne (.any newline)) ((Ast.any newline).Reaches line) := by
  refine one nofun fun limit number before target inside leads => ?_
  obtain ⟨⟨char, found, may⟩, rfl⟩ := leads
  have further : before.position + 1 ≤ line.length := (Array.getElem?_eq_some_iff.mp found).1
  exact ⟨rfl, Pattern.Leaf.matches_dot_iff.mpr ⟨char, found, may, rfl⟩, inside.moveTo further,
    .refl⟩

theorem literal
    {chars : List Char}
    (sound : ∀ start, line.startsWithAt start chars → meaning start (start + chars.length)) :
    Emits line groups room (emitOne (.literal chars)) meaning := by
  refine one nofun fun limit number before target inside leads => ?_
  obtain ⟨starts, rfl⟩ := leads
  have further := Linear.length_le_of_startsWithAt inside.position starts
  exact ⟨rfl, sound _ starts, inside.moveTo further, .refl⟩

theorem assertion
    (look : Linear.Look) :
    Emits line groups room (emitOne (.assertion look)) ((Ast.assertion look).Reaches line) := by
  refine one nofun fun limit number before target inside leads => ?_
  obtain ⟨holds, rfl⟩ := leads
  exact ⟨rfl, ⟨holds, rfl⟩, inside, .refl⟩

theorem save
    {slot : Nat}
    (small : slot < 2 * groups) :
    Emits line groups room (emitOne (.save slot)) (· = ·) := by
  refine one nofun fun limit number before target inside leads => ?_
  obtain rfl : target = (number + 1, before.put slot (some before.position)) := leads
  exact ⟨rfl, rfl, inside.put fun _ place same => (Option.some.inj same) ▸ inside.position,
    .put (.inl small) _⟩

/-- What a group matched is inside the line, so a reference to it is, too. -/
theorem backreference
    {group : Nat}
    (small : group < groups) :
    Emits line groups room (emitOne (.backreference group))
      ((Ast.backreference group).Reaches line) := by
  refine one nofun fun limit number before target inside leads => ?_
  obtain ⟨start, stop, ⟨isStart, isStop, starts⟩, rfl⟩ := leads
  have within : stop ≤ line.length := inside.bounded (2 * group + 1) (by omega) stop isStop
  have length : (line.slice start stop).length = stop - start := by
    rw [Line.slice, List.length_take, List.length_drop, Array.length_toList]
    exact Nat.min_eq_left (Nat.sub_le_sub_right within start)
  have further := Linear.length_le_of_startsWithAt inside.position starts
  rw [length] at further
  exact ⟨rfl, ⟨Nat.le_add_right _ _, further⟩, inside.moveTo further, .refl⟩

theorem atomic
    (body : Emits line groups room compile meaning) :
    Emits line groups room
      (Backtracking.andThen (emitOne .beginAtomic)
        (Backtracking.andThen compile (emitOne .endAtomic)))
      meaning := by
  have begins : Emits line groups room (emitOne .beginAtomic) (· = ·) :=
    one nofun fun limit number before target inside leads => by
      obtain rfl : target = (number + 1, before) := leads
      exact ⟨rfl, rfl, inside, .refl⟩
  have ends : Emits line groups room (emitOne .endAtomic) (· = ·) :=
    one nofun fun limit number before target inside leads => by
      obtain rfl : target = (number + 1, before) := leads
      exact ⟨rfl, rfl, inside, .refl⟩
  refine (begins.andThen (body.andThen ends)).mono ?_
  rintro start stop ⟨_, rfl, _, holds, rfl⟩
  exact holds

/-- Where the linear engine runs a tree, what the tree matches is matched. -/
theorem linear
    {tree : Tree}
    (sound : ∀ start stop, tree.Matches line start stop → meaning start stop)
    {firstGroup groupCount : Nat}
    (few : firstGroup + groupCount ≤ groups) :
    Emits line groups room (emitOne (.linear (.ofTree tree) firstGroup groupCount)) meaning := by
  refine one nofun fun limit number before target inside leads => ?_
  obtain ⟨inner, found, rfl⟩ := leads
  obtain ⟨⟨stop, within, ends, matched⟩, bounded⟩ :=
    Linear.Regex.matches_of_matchAt inside.position found
  rw [ends, Option.getD_some]
  obtain ⟨same, stays, keeps⟩ := moves_adopt (inside.moveTo within) bounded
    (fun offset member => by
      have := List.mem_range.mp member
      omega : ∀ offset ∈ List.range (2 * groupCount), 2 * firstGroup + offset < 2 * groups)
  exact ⟨rfl, same ▸ sound _ _ matched, stays, keeps⟩

theorem linearText
    {text : List Char}
    {captures : List Nat}
    (inOrder : InOrder groups captures)
    (sound : ∀ regex, Linear.Regex.compile Linear.defaultSizeLimit (.ofList text) = .ok regex →
      ∃ tree, regex = .ofTree tree ∧
        ∀ start stop, tree.Matches line start stop → meaning start stop) :
    Emits line groups room (emitLinear text captures) meaning := by
  intro start slots fragment above compiled
  obtain ⟨regex, regexCompiled, made⟩ := Except.bind_eq_ok_iff.mp compiled
  obtain ⟨tree, rfl, holds⟩ := sound regex (Except.mapError_eq_ok_iff.mp regexCompiled)
  exact linear holds inOrder.head_add_length_le start slots fragment above made

variable {classOf : List Char → Pattern.Leaf}

theorem easyParts
    {parts : List Ast}
    (plain : Ast.ArePlain classOf parts)
    (inOrder : InOrder groups (Ast.capturesOf parts)) :
    Emits line groups room (emitEasyParts parts) (Ast.ReachThrough line parts) := by
  rw [emitEasyParts]
  split
  · next empty =>
      obtain rfl := List.isEmpty_iff.mp empty
      exact none
  · split
    · next chars written =>
        exact literal fun start => Ast.reachThrough_of_literalTextOf? parts written
    · refine linearText inOrder fun regex compiled => ?_
      obtain ⟨tree, rfl, sound⟩ := Ast.reachThrough_of_compile plain compiled
      exact ⟨tree, rfl, sound line⟩

theorem easy
    {ast : Ast}
    (plain : ast.IsPlain classOf)
    (inOrder : InOrder groups ast.captures) :
    Emits line groups room (emitEasy ast) (ast.Reaches line) := by
  have parts : emitEasy ast = emitEasyParts [ast] := by
    rw [emitEasy, emitEasyParts, if_neg (by simp), Ast.capturesOf, Ast.capturesOf, List.append_nil,
      List.flatMap_singleton, Ast.literalTextOf?, Ast.literalTextOf?]
    cases ast.literalText? <;> simp
  rw [parts]
  have alone : InOrder groups (Ast.capturesOf [ast]) := by
    rwa [Ast.capturesOf, Ast.capturesOf, List.append_nil]
  have single : Ast.ArePlain classOf [ast] := ⟨plain, trivial⟩
  exact (easyParts single alone).mono fun start stop => (Ast.reachThrough_singleton_iff ast).mp

end Emits

/-! ## Patterns -/

section

variable {classOf : List Char → Pattern.Leaf}

open Ast (ReachThrough SomeReaches AreRead ArePlain capturesOf)

/-- Parts that are not hard are printed as phrases. -/
theorem arePlain_of_soft
    {parts some : List Ast}
    (read : AreRead classOf groups parts)
    (sublist : some.Sublist parts)
    (soft : ∀ part ∈ some, part.isHard = false) :
    ArePlain classOf some :=
  Ast.arePlain_iff.mpr fun part member =>
    Ast.isPlain_of_isRead part (Ast.areRead_iff.mp read part (sublist.subset member))
      (soft part member)

theorem holds_of_mem_take_takeWhile
    {holds : Ast → Bool}
    {parts : List Ast}
    {part : Ast}
    (member : part ∈ parts.take (parts.takeWhile holds).length) :
    holds part := by
  rw [← List.prefix_iff_eq_take.mp (List.takeWhile_prefix holds)] at member
  exact List.mem_takeWhile_imp member

theorem soft_of_easyFront
    (parts : List Ast) :
    ∀ part ∈ parts.take (easyFront parts), part.isHard = false := by
  intro part member
  have easy := of_decide_eq_true (holds_of_mem_take_takeWhile member)
  exact Bool.not_eq_true _ ▸ easy.2

theorem soft_of_easyBack
    (hard : Bool)
    (parts : List Ast) :
    ∀ part ∈ parts.drop (parts.length - easyBack hard parts), part.isHard = false := by
  intro part member
  have taken : part ∈ parts.reverse.take (easyBack hard parts) := by
    rwa [List.take_reverse, List.mem_reverse]
  have easy := of_decide_eq_true (holds_of_mem_take_takeWhile taken)
  exact Bool.not_eq_true _ ▸ easy.1

theorem InOrder.parts
    {parts some : List Ast}
    (inOrder : InOrder groups (capturesOf parts))
    (sublist : some.Sublist parts) :
    InOrder groups (capturesOf some) := by
  rw [Ast.capturesOf_eq_flatMap] at inOrder ⊢
  exact inOrder.sublist (sublist.flatMap Ast.captures)

/-- A sequence is passed part by part, whichever of them the linear engine is given. -/
theorem emits_sequence
    {parts : List Ast}
    (read : AreRead classOf groups parts)
    (inOrder : InOrder groups (capturesOf parts))
    (hard : Bool)
    {middle : Emit}
    (inside : let front := easyFront parts
      let back := easyBack hard (parts.drop front)
      Emits line groups room middle
        (ReachThrough line ((parts.drop front).take (parts.length - front - back)))) :
    let front := easyFront parts
    let back := easyBack hard (parts.drop front)
    Emits line groups room
      (andThen (emitEasyParts (parts.take front))
        (andThen middle (emitEasyParts (parts.drop (front + (parts.length - front - back))))))
      (ReachThrough line parts) := by
  intro front back
  have starts : Emits line groups room (emitEasyParts (parts.take front))
      (ReachThrough line (parts.take front)) :=
    .easyParts (arePlain_of_soft read (List.take_sublist _ _) (soft_of_easyFront parts))
      (inOrder.parts (List.take_sublist _ _))
  have last : parts.drop (front + (parts.length - front - back)) =
      (parts.drop front).drop ((parts.drop front).length - back) := by
    rw [List.drop_drop, List.length_drop]
  have ends : Emits line groups room
      (emitEasyParts (parts.drop (front + (parts.length - front - back))))
      (ReachThrough line (parts.drop (front + (parts.length - front - back)))) :=
    .easyParts (arePlain_of_soft read (List.drop_sublist _ _)
      (last ▸ soft_of_easyBack hard (parts.drop front))) (inOrder.parts (List.drop_sublist _ _))
  refine (starts.andThen (inside.andThen ends)).mono ?_
  rintro start stop ⟨_, before, _, between, behind⟩
  rw [← List.drop_drop] at behind
  rw [← List.take_append_drop front parts, Ast.reachThrough_append_iff,
    ← List.take_append_drop (parts.length - front - back) (parts.drop front)]
  exact ⟨_, before, (Ast.reachThrough_append_iff _ _).mpr ⟨_, between, behind⟩⟩

mutual

/-- Whatever a pattern is compiled to leads only where the pattern may reach. -/
theorem emits_emit
    (ast : Ast)
    (read : ast.IsRead classOf groups)
    (inOrder : InOrder groups ast.captures)
    (hard : Bool) :
    Emits line groups room (emit hard ast) (ast.Reaches line) := by
  rw [emit.eq_def]
  split
  · next soft =>
      exact .easy (Ast.isPlain_of_isRead ast read (Bool.not_eq_true _ ▸ soft.2)) inOrder
  cases ast with
  | empty => exact .none
  | any newline => exact .any newline
  | literal char fold =>
      cases fold with
      | true => exact .easy (Ast.isPlain_of_isRead _ read rfl) inOrder
      | false =>
          exact .literal fun start starts =>
            Ast.reaches_of_literalText? (.literal char false) rfl starts
  | assertion look => exact .assertion look
  | charClass text fold => exact .easy (Ast.isPlain_of_isRead _ read rfl) inOrder
  | sequence parts =>
      exact emits_sequence read inOrder hard (emits_emitMiddle parts read inOrder _ _)
  | choice branches => exact emits_emitBranches branches read.1 read.2 inOrder hard
  | capture index body =>
      have small : index < groups := inOrder.below index List.mem_cons_self
      have inner := emits_emit body read (inOrder.sublist (List.sublist_cons_self _ _)) hard
      have opens : Emits line groups room (emitOne (.save (2 * index))) (· = ·) := .save (by omega)
      have closes : Emits line groups room (emitOne (.save (2 * index + 1))) (· = ·) :=
        .save (by omega)
      refine (opens.andThen (inner.andThen closes)).mono ?_
      rintro start stop ⟨_, rfl, _, holds, rfl⟩
      exact holds
  | lookAround kind body =>
      obtain ⟨behind, negative⟩ := kind
      have inside := emits_emit body read inOrder false
      cases body with
      | choice branches =>
          show Emits line groups room (if _ then if _ then _ else _ else _) _
          split
          · split
            · exact emits_emitEachNegative branches read.2 inOrder
            · exact emits_emitEachPositive branches read.2 inOrder
          · have inner : Emits line groups room
                (if (Ast.choice branches).isHard then emitBranches false branches
                else emitEasy (.choice branches)) ((Ast.choice branches).Reaches line) := by
              split
              · exact emits_emitBranches branches read.1 read.2 inOrder false
              · next soft =>
                  exact .easy (Ast.isPlain_of_isRead _ read (Bool.not_eq_true _ ▸ soft)) inOrder
            obtain ⟨meaning, looks⟩ := inner.lookBody behind (Ast.choice branches).isConstSize
              (Ast.choice branches).minSize
            exact looks.look negative
      | _ =>
          obtain ⟨meaning, looks⟩ := inside.lookBody behind _ _
          exact looks.look negative
  | atomic body => exact (emits_emit body read inOrder false).atomic
  | repetition min max greedy body =>
      have inner : Emits line groups room
          (if min = 0 ∧ max = some 1 then emit hard body else emit (hard ∨ body.isHard) body)
          (body.Reaches line) := by
        split
        · exact emits_emit body read.2.2 inOrder hard
        · exact emits_emit body read.2.2 inOrder _
      exact inner.repetition body.minSize min max greedy
  | backreference group => exact .backreference read
  | _ => cases read

theorem emits_emitMiddle
    (parts : List Ast)
    (read : AreRead classOf groups parts)
    (inOrder : InOrder groups (capturesOf parts))
    (skip count : Nat) :
    Emits line groups room (emitMiddle skip count parts)
      (ReachThrough line ((parts.drop skip).take count)) := by
  cases parts with
  | nil =>
      rw [List.drop_nil, List.take_nil]
      exact .none
  | cons part parts =>
      have others := inOrder.parts (List.sublist_cons_self part parts)
      match skip, count with
      | skip + 1, count => exact emits_emitMiddle parts read.2 others skip count
      | 0, 0 => exact .none
      | 0, count + 1 =>
          have own : InOrder groups part.captures :=
            inOrder.sublist (List.sublist_append_left _ _)
          exact (emits_emit part read.1 own true).andThen
            (emits_emitMiddle parts read.2 others 0 count)

theorem emits_emitBranches
    (branches : List Ast)
    (some : branches ≠ [])
    (read : AreRead classOf groups branches)
    (inOrder : InOrder groups (capturesOf branches))
    (hard : Bool) :
    Emits line groups room (emitBranches hard branches) (SomeReaches line branches) := by
  match branches with
  | [] => exact absurd rfl some
  | [branch] =>
      have own : InOrder groups branch.captures := inOrder.sublist (List.sublist_append_left _ _)
      exact (emits_emit branch read.1 own hard).mono fun start stop => .inl
  | branch :: next :: branches =>
      have own : InOrder groups branch.captures := inOrder.sublist (List.sublist_append_left _ _)
      exact (emits_emit branch read.1 own hard).either
        (emits_emitBranches (next :: branches) (List.cons_ne_nil _ _) read.2
          (inOrder.parts (List.sublist_cons_self _ _)) hard)

theorem emits_emitEachPositive
    (branches : List Ast)
    (read : AreRead classOf groups branches)
    (inOrder : InOrder groups (capturesOf branches)) :
    Emits line groups room (emitEachPositive branches) (· = ·) := by
  match branches with
  | [] => exact .none
  | [branch] =>
      have own : InOrder groups branch.captures := inOrder.sublist (List.sublist_append_left _ _)
      obtain ⟨meaning, looks⟩ := (emits_emit branch read.1 own false).lookBody true
        branch.isConstSize branch.minSize
      exact looks.positiveLook
  | branch :: next :: branches =>
      have own : InOrder groups branch.captures := inOrder.sublist (List.sublist_append_left _ _)
      obtain ⟨meaning, looks⟩ := (emits_emit branch read.1 own false).lookBody true
        branch.isConstSize branch.minSize
      have others := emits_emitEachPositive (next :: branches) read.2
        (inOrder.parts (List.sublist_cons_self _ _))
      exact (looks.positiveLook.either others).mono fun start stop => Or.rec id id

theorem emits_emitEachNegative
    (branches : List Ast)
    (read : AreRead classOf groups branches)
    (inOrder : InOrder groups (capturesOf branches)) :
    Emits line groups room (emitEachNegative branches) (· = ·) := by
  cases branches with
  | nil => exact .none
  | cons branch branches =>
      have own : InOrder groups branch.captures := inOrder.sublist (List.sublist_append_left _ _)
      obtain ⟨meaning, looks⟩ := (emits_emit branch read.1 own false).lookBody true
        branch.isConstSize branch.minSize
      have others := emits_emitEachNegative branches read.2
        (inOrder.parts (List.sublist_cons_self _ _))
      refine (looks.negativeLook.andThen others).mono ?_
      rintro start stop ⟨_, rfl, rfl⟩
      rfl

end

end

end

/-! ## Programs -/

section

variable {classOf : List Char → Pattern.Leaf} {ast : Ast} {line : Line} {limit : Nat}
  {slots : Linear.Slots}

/-- Where a program finds a match its pattern may reach from one position to another. -/
theorem exists_reaches_of_search
    {groups : Nat}
    (read : ast.IsRead classOf groups)
    (inOrder : InOrder groups (0 :: ast.captures))
    {program : Program}
    (compiled : Program.compile groups ast = .ok program)
    (found : search program ast limit line = .ok (some slots)) :
    ∃ start ≤ line.length, ∃ stop, ast.Reaches line start stop := by
  obtain ⟨fragment, fragmentCompiled, made⟩ := Except.bind_eq_ok_iff.mp compiled
  obtain rfl := Except.ok.inj made
  have wholeRead : (searchFor ast).IsRead classOf groups :=
    ⟨⟨⟨Nat.zero_le _, nofun⟩, rfl, trivial⟩, read, trivial⟩
  have wholeInOrder : InOrder groups (searchFor ast).captures := by
    have same : (searchFor ast).captures = 0 :: ast.captures :=
      congrArg (0 :: ·) (List.append_nil _)
    rwa [same]
  obtain ⟨-, passes⟩ := emits_emit (searchFor ast) wholeRead wholeInOrder false 0 (2 * groups)
    fragment (Nat.le_refl _) fragmentCompiled
  have stands : StandsAt (fragment.code.push .accept) fragment.code 0 := by
    intro index inside
    rw [Nat.zero_add, Array.getElem?_push_lt inside, Array.getElem?_eq_getElem inside]
  have starts : Inside line groups fragment.slots ⟨0, .replicate fragment.slots none⟩ := by
    refine ⟨Nat.zero_le _, Array.size_replicate, fun slot small value holds => ?_⟩
    rw [Standing.slot?, Array.getElem?_replicate] at holds
    split at holds <;> cases holds
  obtain ⟨count, accepts⟩ := accepts_of_search found
  obtain ⟨-, -, after, moves, -⟩ :=
    passes (Nat.le_refl _) _ stands count _ starts accepts
  obtain ⟨start, ⟨count, -, -, skips⟩, stop, reaches, -⟩ := moves.means
  obtain ⟨-, inside⟩ := skips.within (fun place next _ skip => by
    obtain ⟨char, behind, -, rfl⟩ := Pattern.Leaf.matches_dot_iff.mp skip
    exact ⟨Nat.le_succ place, (Array.getElem?_eq_some_iff.mp behind).1⟩) (Nat.zero_le line.length)
  exact ⟨start, inside, stop, reaches⟩

end

end Backtracking
end LineExtraction

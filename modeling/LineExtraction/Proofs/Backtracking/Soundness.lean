import LineExtraction.Proofs.Backtracking.Reach
import LineExtraction.Proofs.Linear.Spans

/-!
# The backtracking machine is sound

What the machine accepts its pattern may match.  A run is cut down to the numbers of its
instructions and what it stands on between them; the branches that it keeps are led to like the
one it goes on with.  Every fragment is left, if acceptance is to be reached, with a position that
its pattern may reach and with the slots of what stands around it as they were.
-/

namespace LineExtraction

/-! ## Ways through a program -/

namespace Linear.Standing

/-- What a slot holds. -/
def slot? (standing : Standing) (slot : Nat) : Option Nat := (standing.slots[slot]?).join

/-- Change what a slot holds. -/
def put (standing : Standing) (slot : Nat) (value : Option Nat) : Standing :=
  { standing with slots := standing.slots.set! slot value }

/-- Stand at another position. -/
def moveTo (standing : Standing) (position : Nat) : Standing := { standing with position }

/-- Save the groups that a match has, as far as `offsets` go. -/
def adopt (standing : Standing) (inner : Slots) (firstGroup : Nat) (offsets : List Nat) :
    Standing :=
  offsets.foldl
    (fun standing offset => standing.put (2 * firstGroup + offset) (inner[offset + 2]?).join)
    standing

end Linear.Standing

namespace Backtracking

open Linear (Slots Standing)

/-- What a run stands on. -/
def State.standing (state : State) : Standing := ⟨state.position, state.slots⟩

/-- Whether an instruction may lead from where it stands to a place, whichever way it prefers. -/
def Instruction.Leads (line : Line) (number : Nat) (standing : Standing) (target : Nat × Standing) :
    Instruction → Prop
  | .any newline =>
    (∃ char, line.after? standing.position = some char ∧ (newline ∨ char ≠ '\n')) ∧
      target = (number + 1, standing.advance 1)
  | .literal chars =>
    line.startsWithAt standing.position chars ∧
      target = (number + 1, standing.advance chars.length)
  | .assertion look => look.holdsAt line standing.position ∧ target = (number + 1, standing)
  | .split first second => target = (first, standing) ∨ target = (second, standing)
  | .jump place => target = (place, standing)
  | .save slot => target = (number + 1, standing.record slot)
  | .clear slot => target = (number + 1, standing.put slot (some 0))
  | .restore slot =>
    target = (number + 1, standing.moveTo ((standing.slot? slot).getD standing.position))
  | .countedLoop min max _ next counter =>
    let turns := (standing.slot? counter).getD 0
    let turn := standing.put counter (some (turns + 1))
    (max = some turns ∧ target = (next, standing)) ∨
      (max ≠ some turns ∧ target = (number + 1, turn)) ∨ (min ≤ turns ∧ target = (next, turn))
  | .guardedLoop min _ next counter guard =>
    let turns := (standing.slot? counter).getD 0
    let turn := standing.put counter (some (turns + 1))
    let guarded := turn.put guard (some standing.position)
    target = (number + 1, turn) ∨ target = (number + 1, guarded) ∨
      (min ≤ turns ∧ target = (next, guarded))
  | .goBack count =>
    count ≤ standing.position ∧ target = (number + 1, standing.moveTo (standing.position - count))
  | .failLook => False
  | .backreference group =>
    ∃ start stop, (standing.slot? (2 * group) = some start ∧
        standing.slot? (2 * group + 1) = some stop ∧
        line.startsWithAt standing.position (line.slice start stop)) ∧
      target = (number + 1, standing.advance (stop - start))
  | .groupMatched group =>
    (standing.slot? (2 * group)).isSome ∧ target = (number + 1, standing)
  | .beginAtomic => target = (number + 1, standing)
  | .endAtomic => target = (number + 1, standing)
  | .linear regex firstGroup groupCount =>
    ∃ inner, regex.matchAt line standing.position = some inner ∧
      target = (number + 1, (standing.moveTo (((inner[1]?).join).getD standing.position)).adopt
        inner firstGroup (List.range (2 * groupCount)))
  | .continueMatch => target = (number + 1, standing)
  | .accept => False

/-- Whether acceptance can be reached in exactly `count` steps. -/
def AcceptsIn (code : Array Instruction) (line : Line) :
    (count : Nat) → (number : Nat) → (standing : Standing) → Prop
  | 0, number, _ => code[number]? = some .accept
  | count + 1, number, standing =>
    ∃ instruction, code[number]? = some instruction ∧
      ∃ target, instruction.Leads line number standing target ∧
        AcceptsIn code line count target.1 target.2

/-- Whether acceptance can be reached from a state. -/
def Accepts (code : Array Instruction) (line : Line) (state : State) : Prop :=
  ∃ count, AcceptsIn code line count state.instruction state.standing

/-- The first step from a known instruction that does not accept. -/
theorem AcceptsIn.firstStep
    {code : Array Instruction}
    {line : Line}
    {count number : Nat}
    {standing : Standing}
    {instruction : Instruction}
    (found : code[number]? = some instruction)
    (goesOn : instruction ≠ .accept)
    (accepts : AcceptsIn code line count number standing) :
    ∃ fewer, count = fewer + 1 ∧ ∃ target, instruction.Leads line number standing target ∧
      AcceptsIn code line fewer target.1 target.2 := by
  cases count with
  | zero => exact absurd (Option.some.inj (found.symm.trans accepts)) goesOn
  | succ fewer =>
      obtain ⟨other, same, target, leads, rest⟩ := accepts
      obtain rfl := Option.some.inj (found.symm.trans same)
      exact ⟨fewer, rfl, target, leads, rest⟩

/-! ## Runs follow the ways -/

section

variable {line : Line} {origin : Nat} {state : State} {branches : Branches}

/-- What an instruction comes to: it goes on where it leads, keeps no branch but those that it
leads to, and accepts only where it is to. -/
def Effect.Follows (leads : Nat × Standing → Prop) (accepts : Prop) (branches : Branches) :
    Effect → Prop
  | .goOn state kept =>
    leads (state.instruction, state.standing) ∧
      ∀ branch ∈ kept, branch ∈ branches ∨ leads (branch.instruction, branch.standing)
  | .fail kept => ∀ branch ∈ kept, branch ∈ branches
  | .accept _ => accepts
  | .overflow => True

theorem mem_of_mem_pop
    {branch : State}
    (member : branch ∈ branches.pop) :
    branch ∈ branches := by
  rw [← Array.mem_toList_iff, Array.toList_pop] at member
  exact Array.mem_toList_iff.mp (List.dropLast_subset _ member)

theorem mem_of_mem_shrink
    {count : Nat}
    {branch : State}
    (member : branch ∈ branches.shrink count) :
    branch ∈ branches := by
  rw [← Array.mem_toList_iff, Array.toList_shrink] at member
  exact Array.mem_toList_iff.mp (List.mem_of_mem_take member)

theorem follows_keep
    {leads : Nat × Standing → Prop}
    {accepts : Prop}
    {first second : State}
    (firstLeads : leads (first.instruction, first.standing))
    (secondLeads : leads (second.instruction, second.standing)) :
    (keep branches first second).Follows leads accepts branches := by
  rw [keep]
  split
  · refine ⟨firstLeads, fun branch member => ?_⟩
    obtain member | rfl := Array.mem_push.mp member
    · exact .inl member
    · exact .inr secondLeads
  · trivial

theorem standing_adopt
    (state : State)
    (inner : Slots)
    (firstGroup groupCount : Nat) :
    (state.adopt inner firstGroup groupCount).instruction = state.instruction ∧
      (state.adopt inner firstGroup groupCount).standing =
        state.standing.adopt inner firstGroup (List.range (2 * groupCount)) := by
  rw [State.adopt]
  generalize List.range (2 * groupCount) = offsets
  induction offsets generalizing state with
  | nil => exact ⟨rfl, rfl⟩
  | cons offset offsets inductionHypothesis => exact inductionHypothesis _

theorem mem_of_mem_dropThrough
    {target count : Nat}
    {branch : State}
    (member : branch ∈ dropThrough target count branches) :
    branch ∈ branches := by
  induction count generalizing branches with
  | zero => exact member
  | succ count inductionHypothesis =>
      rw [dropThrough] at member
      split at member
      · exact member
      · split at member
        · exact mem_of_mem_pop member
        · exact mem_of_mem_pop (inductionHypothesis member)

/-- Whichever way the machine goes, the instruction leads there. -/
theorem follows_run
    (line : Line)
    (origin : Nat)
    (state : State)
    (branches : Branches)
    (instruction : Instruction) :
    (instruction.run line origin state branches).Follows
      (fun target => instruction.Leads line state.instruction state.standing target)
      (instruction = .accept) branches := by
  have kept {leads : Nat × Standing → Prop} {accepts : Prop} {after : State}
      (goesOn : leads (after.instruction, after.standing)) :
      (Effect.goOn after branches).Follows leads accepts branches :=
    ⟨goesOn, fun _ => .inl⟩
  have fails {leads : Nat × Standing → Prop} {accepts : Prop} :
      (Effect.fail branches).Follows leads accepts branches :=
    fun _ => id
  cases instruction with
  | any newline =>
      simp only [Instruction.run]
      split
      · exact fails
      · next char found =>
          split
          · next may => exact kept ⟨⟨char, found, may⟩, rfl⟩
          · exact fails
  | literal chars =>
      simp only [Instruction.run]
      split
      · next starts => exact kept ⟨starts, rfl⟩
      · exact fails
  | assertion look =>
      simp only [Instruction.run]
      split
      · next holds => exact kept ⟨holds, rfl⟩
      · exact fails
  | split first second => exact follows_keep (.inl rfl) (.inr rfl)
  | countedLoop min max greedy next counter =>
      simp only [Instruction.run, countTurn]
      split
      · next full => exact kept (.inl ⟨full, rfl⟩)
      · next more =>
          split
          · exact kept (.inr (.inl ⟨more, rfl⟩))
          · next enough =>
              split
              · exact follows_keep (.inr (.inl ⟨more, rfl⟩)) (.inr (.inr ⟨Nat.le_of_not_lt enough, rfl⟩))
              · exact follows_keep (.inr (.inr ⟨Nat.le_of_not_lt enough, rfl⟩)) (.inr (.inl ⟨more, rfl⟩))
  | guardedLoop min greedy next counter guard =>
      simp only [Instruction.run, guardTurn]
      split
      · exact fails
      · split
        · exact kept (.inl rfl)
        · next enough =>
            split
            · exact follows_keep (.inr (.inl rfl)) (.inr (.inr ⟨Nat.le_of_not_lt enough, rfl⟩))
            · exact follows_keep (.inr (.inr ⟨Nat.le_of_not_lt enough, rfl⟩)) (.inr (.inl rfl))
  | goBack count =>
      simp only [Instruction.run]
      split
      · exact fails
      · next inside => exact kept ⟨Nat.le_of_not_lt inside, rfl⟩
  | failLook => exact fun _ => mem_of_mem_dropThrough
  | backreference group =>
      simp only [Instruction.run]
      split
      · next start stop isStart isStop =>
          split
          · next starts => exact kept ⟨start, stop, ⟨isStart, isStop, starts⟩, rfl⟩
          · exact fails
      · exact fails
  | groupMatched group =>
      simp only [Instruction.run]
      split
      · next matched => exact kept ⟨matched, rfl⟩
      · exact fails
  | endAtomic => exact ⟨rfl, fun branch member => .inl (mem_of_mem_shrink member)⟩
  | linear regex firstGroup groupCount =>
      simp only [Instruction.run]
      split
      · exact fails
      · next inner found =>
          obtain ⟨same, standing⟩ := standing_adopt (state.next.moveTo
            (((inner[1]?).join).getD state.position)) inner firstGroup groupCount
          exact kept ⟨inner, found, Prod.ext same standing⟩
  | continueMatch =>
      simp only [Instruction.run]
      split
      · exact fails
      · exact kept rfl
  | accept => rfl
  | _ => exact kept rfl

variable {program : Program}

/-- Whether acceptance can be reached from a state or from a branch that is kept. -/
def Hopeful (program : Program) (line : Line) (state : State) (branches : Branches) : Prop :=
  Accepts program.instructions line state ∨
    ∃ branch ∈ branches, Accepts program.instructions line branch

/-- There is no more hope behind an instruction than in front of it. -/
theorem Hopeful.of_run
    {instruction : Instruction}
    (found : program.instructions[state.instruction]? = some instruction)
    {after : State}
    {kept : Branches}
    (run : instruction.run line origin state branches = .goOn after kept)
    (hopeful : Hopeful program line after kept) :
    Hopeful program line state branches := by
  have follows := follows_run line origin state branches instruction
  rw [run] at follows
  obtain ⟨leads, others⟩ := follows
  have step {next : State}
      (leads : instruction.Leads line state.instruction state.standing
        (next.instruction, next.standing))
      (accepts : Accepts program.instructions line next) :
      Accepts program.instructions line state := by
    obtain ⟨count, accepts⟩ := accepts
    exact ⟨count + 1, instruction, found, _, leads, accepts⟩
  obtain accepts | ⟨branch, member, accepts⟩ := hopeful
  · exact .inl (step leads accepts)
  · obtain member | leads := others branch member
    · exact .inr ⟨branch, member, accepts⟩
    · exact .inl (step leads accepts)

/-- A run that accepts could reach acceptance, and one that fails could do so if a branch that it
leaves can. -/
theorem hopeful_of_runOn
    (fuel : Nat)
    (state : State)
    (branches : Branches) :
    (∀ slots, runOn program line origin fuel state branches = .accept slots →
        Hopeful program line state branches) ∧
      ∀ kept, runOn program line origin fuel state branches = .fail kept →
        (∃ branch ∈ kept, Accepts program.instructions line branch) →
          Hopeful program line state branches := by
  induction fuel generalizing state branches with
  | zero => exact ⟨nofun, nofun⟩
  | succ fuel inductionHypothesis =>
      rw [runOn]
      split
      · refine ⟨nofun, ?_⟩
        rintro kept ⟨⟩ some
        exact .inr some
      · next instruction found =>
          have follows := follows_run line origin state branches instruction
          split
          · next after kept run =>
              obtain ⟨accepted, failed⟩ := inductionHypothesis after kept
              exact ⟨fun slots same => (accepted slots same).of_run found run,
                fun left same some => (failed left same some).of_run found run⟩
          · next effect apart =>
              constructor
              · intro slots run
                rw [run] at follows
                exact .inl ⟨0, found.trans (congrArg some follows)⟩
              · rintro kept run ⟨branch, member, accepts⟩
                rw [run] at follows
                exact .inr ⟨branch, follows branch member, accepts⟩

/-- A run with branches to take up finds nothing without hope. -/
theorem hopeful_of_runWithin
    {fuel left : Nat}
    {slots : Slots}
    (found : runWithin program line origin fuel left state branches = .ok (some slots)) :
    Hopeful program line state branches := by
  induction left generalizing state branches with
  | zero =>
      rw [runWithin] at found
      split at found
      · next run => exact (hopeful_of_runOn fuel state branches).1 _ run
      · cases found
      · cases found
      · split at found
        · cases found
        · cases found
        · next same => cases same
  | succ left inductionHypothesis =>
      rw [runWithin] at found
      split at found
      · next run => exact (hopeful_of_runOn fuel state branches).1 _ run
      · cases found
      · cases found
      · next kept run =>
          split at found
          · cases found
          · cases found
          · next branch fewer last same =>
              obtain rfl := Nat.succ.inj same
              refine (hopeful_of_runOn fuel state branches).2 kept run ?_
              have taken : branch ∈ kept := Array.mem_of_back? last
              obtain accepts | ⟨other, member, accepts⟩ := inductionHypothesis found
              · exact ⟨branch, taken, accepts⟩
              · exact ⟨other, mem_of_mem_pop member, accepts⟩

/-- Where a search finds something, acceptance can be reached from the start. -/
theorem accepts_of_search
    {ast : Ast}
    {limit : Nat}
    {slots : Slots}
    (found : search program ast limit line = .ok (some slots)) :
    ∃ count, AcceptsIn program.instructions line count 0 ⟨0, .replicate program.slots none⟩ := by
  obtain accepts | ⟨branch, member, -⟩ := hopeful_of_runWithin found
  · exact accepts
  · cases Array.not_mem_empty branch member

end

end Backtracking
end LineExtraction

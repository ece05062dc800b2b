import LineExtraction.Linear.Regex
import LineExtraction.Proofs.Linear.Emission

/-!
# Exploring a program finds every match

A search goes through the threads of a program and marks the places that it has been
at.  Every marked place leads only to places that are marked or still to be visited, so
a search that ends without a match has marked everything that could be reached, and
nothing of it accepts.  There are only so many places, which is why the fuel of a search
is never used up.  The main statement: a compiled pattern matches a line exactly when
its tree has a match somewhere in the line.
-/

namespace LineExtraction
namespace Linear

/-- Where a thread stands. -/
def Thread.place (thread : Thread) : Nat × Nat := (thread.instruction, thread.position)

/-- The places that one instruction leads to, preferred first. -/
def Instruction.targets (line : Line) (position : Nat) : Instruction → List (Nat × Nat)
  | char wanted next =>
    if line.after? position = some wanted then [(next, position + 1)] else []
  | set members next =>
    if (line.after? position).any members.containsChar then [(next, position + 1)] else []
  | .look wanted next => if wanted.holdsAt line position then [(next, position)] else []
  | split first second => [(first, position), (second, position)]
  | save _ next => [(next, position)]
  | accept => []

/-- What a match records changes nothing about where an instruction leads. -/
theorem Instruction.map_moves
    (line : Line)
    (standing : Standing)
    (instruction : Instruction) :
    (instruction.moves line standing).map (fun target => (target.1, target.2.position)) =
      instruction.targets line standing.position := by
  cases instruction <;> simp only [moves, targets, apply_ite (List.map _)] <;> rfl

theorem Instruction.map_place_successors
    (line : Line)
    (thread : Thread)
    (instruction : Instruction) :
    (instruction.successors line thread).map Thread.place =
      instruction.targets line thread.position := by
  rw [← thread.position_standing, ← map_moves, ← map_successors, List.map_map]
  rfl

namespace Visited

/-- How many places have not been visited. -/
def remaining (visited : Visited) : Nat := visited.flags.toList.count false

theorem remaining_mark
    (visited : Visited)
    (thread : Thread)
    (fresh : visited.contains thread = false) :
    (visited.mark thread).remaining + 1 = visited.remaining := by
  simp only [contains, Array.getD_eq_getD_getElem?] at fresh
  have inside : visited.key thread < visited.flags.size := by
    refine Nat.lt_of_not_le fun outside => ?_
    simp [Array.getElem?_eq_none outside] at fresh
  have inList : visited.key thread < visited.flags.toList.length := by simpa using inside
  have unmarked : visited.flags.toList[visited.key thread] = false := by
    simpa [Array.getElem?_eq_getElem inside] using fresh
  have counted : 0 < visited.flags.toList.count false :=
    List.count_pos_iff.mpr (unmarked ▸ List.getElem_mem _)
  simp only [remaining, mark, Array.set!_eq_setIfInBounds, Array.toList_setIfInBounds]
  rw [List.count_set inList, unmarked]
  simp only [beq_self_eq_true, if_true, Bool.true_beq, Bool.false_eq_true, if_false]
  omega

end Visited

section Search

variable {program : Program} {line : Line}

/-- A search keeps one flag for each place, in rows as wide as the line has positions. -/
structure Sized (program : Program) (line : Line) (visited : Visited) : Prop where
  /-- The width of a row. -/
  width : visited.width = line.length + 1
  /-- The number of flags. -/
  size : visited.flags.size = program.instructions.size * visited.width

/-- Whether a place has been visited. -/
def Marked (visited : Visited) (place : Nat × Nat) : Prop :=
  visited.flags[place.1 * visited.width + place.2]? = some true

/-- Whether a search has dealt with a place or is going to. -/
def Settled
    (program : Program)
    (visited : Visited)
    (threads : List Thread)
    (place : Nat × Nat) : Prop :=
  program.instructions[place.1]? = none ∨ Marked visited place ∨
    ∃ thread ∈ threads, thread.place = place

/-- What every search keeps: marked places do not accept and lead only to settled
places, and threads stay in the line. -/
structure Invariant
    (program : Program)
    (line : Line)
    (visited : Visited)
    (threads : List Thread) : Prop where
  /-- The flags fit the program and the line. -/
  sized : Sized program line visited
  /-- Threads stay in the line. -/
  bounded : ∀ thread ∈ threads, thread.position ≤ line.length
  /-- Marked places do not accept and lead only to settled ones. -/
  closed : ∀ instruction position, position ≤ line.length →
    Marked visited (instruction, position) →
      ∃ current, program.instructions[instruction]? = some current ∧ current ≠ .accept ∧
        ∀ target ∈ current.targets line position, Settled program visited threads target

/-- An instruction leads no further than to the end of the line. -/
theorem Instruction.target_le
    {instruction : Instruction}
    {position : Nat}
    {target : Nat × Nat}
    (bounded : position ≤ line.length)
    (leads : target ∈ instruction.targets line position) :
    target.2 ≤ line.length := by
  have below (char : Char) (found : line.after? position = some char) :
      position < line.length := by
    simp only [Line.after?] at found
    exact (Array.getElem?_eq_some_iff.mp found).1
  cases instruction with
  | char wanted next =>
      simp only [targets] at leads
      split at leads
      · next found =>
          rw [List.mem_singleton.mp leads]
          exact below _ found
      · exact absurd leads List.not_mem_nil
  | set members next =>
      simp only [targets] at leads
      split at leads
      · next found =>
          obtain ⟨char, behind, -⟩ := (Option.any_eq_true _ _).mp found
          rw [List.mem_singleton.mp leads]
          exact below _ behind
      · exact absurd leads List.not_mem_nil
  | look wanted next =>
      simp only [targets] at leads
      split at leads
      · rw [List.mem_singleton.mp leads]
        exact bounded
      · exact absurd leads List.not_mem_nil
  | split first second =>
      simp only [targets, List.mem_cons, List.not_mem_nil, or_false] at leads
      rcases leads with rfl | rfl <;> exact bounded
  | save slot next =>
      rw [List.mem_singleton.mp leads]
      exact bounded
  | accept => exact absurd leads List.not_mem_nil

/-- Where nothing is left to visit, no marked place reaches acceptance. -/
theorem Invariant.not_reachesIn
    {visited : Visited}
    (invariant : Invariant program line visited [])
    (final : Slots)
    (count instruction : Nat)
    (standing : Standing)
    (bounded : standing.position ≤ line.length)
    (marked : Marked visited (instruction, standing.position)) :
    ¬ ReachesIn program.instructions line final count instruction standing := by
  induction count generalizing instruction standing with
  | zero =>
      obtain ⟨current, found, notAccept, -⟩ :=
        invariant.closed instruction standing.position bounded marked
      rintro ⟨accepts, -⟩
      rw [found, Option.some_inj] at accepts
      exact notAccept accepts
  | succ count inductionHypothesis =>
      obtain ⟨current, found, notAccept, leads⟩ :=
        invariant.closed instruction standing.position bounded marked
      intro reaches
      obtain ⟨fewer, same, target, member, rest⟩ := reaches.firstStep found notAccept
      obtain rfl := Nat.succ.inj same
      have placed : (target.1, target.2.position) ∈ current.targets line standing.position := by
        rw [← Instruction.map_moves]
        exact List.mem_map.mpr ⟨target, member, rfl⟩
      rcases leads _ placed with missing | seen | ⟨thread, none, -⟩
      · cases count with
        | zero => exact absurd (missing.symm.trans rest.1) (by simp)
        | succ count =>
            obtain ⟨other, present, -⟩ := rest
            exact absurd (missing.symm.trans present) (by simp)
      · exact inductionHypothesis target.1 target.2
          (Instruction.target_le bounded placed) seen rest
      · exact absurd none List.not_mem_nil

/-! ## What one step of a search keeps -/

/-- A thread whose place counts as visited stands nowhere new. -/
theorem settled_of_contains
    {visited : Visited}
    {thread : Thread}
    (sized : Sized program line visited)
    (bounded : thread.position ≤ line.length)
    (seen : visited.contains thread = true) :
    program.instructions[thread.instruction]? = none ∨ Marked visited thread.place := by
  by_cases inside : visited.key thread < visited.flags.size
  · right
    simp only [Visited.contains, Array.getD_eq_getD_getElem?,
      Array.getElem?_eq_getElem inside, Option.getD_some] at seen
    exact (Array.getElem?_eq_getElem inside).trans (congrArg some seen)
  · left
    refine Array.getElem?_eq_none (Nat.le_of_not_lt fun small => inside ?_)
    rw [sized.size, Visited.key, sized.width]
    have room := Nat.mul_le_mul_right (line.length + 1) (Nat.succ_le_of_lt small)
    rw [Nat.succ_mul] at room
    omega

/-- Marking keeps what was marked before. -/
theorem Marked.mark
    {visited : Visited}
    {place : Nat × Nat}
    (marked : Marked visited place)
    (thread : Thread) :
    Marked (visited.mark thread) place := by
  simp only [Marked, Visited.mark, Array.set!_eq_setIfInBounds] at marked ⊢
  rw [Array.getElem?_setIfInBounds]
  split
  · next same =>
      rw [if_pos]
      rw [same]
      exact (Array.getElem?_eq_some_iff.mp marked).1
  · exact marked

/-- The place of a fresh thread can be marked. -/
theorem marked_mark_self
    {visited : Visited}
    {thread : Thread}
    (fresh : visited.contains thread = false) :
    Marked (visited.mark thread) thread.place := by
  have inside : visited.key thread < visited.flags.size := by
    refine Nat.lt_of_not_le fun outside => ?_
    simp [Visited.contains, Array.getElem?_eq_none outside] at fresh
  simp only [Marked, Visited.mark, Array.set!_eq_setIfInBounds]
  rw [Array.getElem?_setIfInBounds]
  simp only [Thread.place, Visited.key] at inside ⊢
  simp [inside]

/-- Marking a thread's place marks no other place. -/
theorem Marked.of_mark
    {visited : Visited}
    {thread : Thread}
    {instruction position : Nat}
    (sized : Sized program line visited)
    (bounded : thread.position ≤ line.length)
    (inLine : position ≤ line.length)
    (marked : Marked (visited.mark thread) (instruction, position)) :
    (instruction, position) = thread.place ∨ Marked visited (instruction, position) := by
  simp only [Marked, Visited.mark, Array.set!_eq_setIfInBounds] at marked ⊢
  rw [Array.getElem?_setIfInBounds] at marked
  split at marked
  · next same =>
      left
      rw [Visited.key, sized.width] at same
      have samePosition := congrArg (· % (line.length + 1)) same
      have sameInstruction := congrArg (· / (line.length + 1)) same
      simp only [Nat.mul_add_mod_self_right, Nat.mod_eq_of_lt (Nat.lt_succ_of_le bounded),
        Nat.mod_eq_of_lt (Nat.lt_succ_of_le inLine)] at samePosition
      simp only [Nat.mul_comm _ (line.length + 1), Nat.mul_add_div (Nat.succ_pos line.length),
        Nat.div_eq_of_lt (Nat.lt_succ_of_le bounded),
        Nat.div_eq_of_lt (Nat.lt_succ_of_le inLine)] at sameInstruction
      exact Prod.ext sameInstruction.symm samePosition.symm
  · exact Or.inr marked

/-- A thread that stands nowhere new can be dropped. -/
theorem Invariant.skip
    {visited : Visited}
    {thread : Thread}
    {threads : List Thread}
    (invariant : Invariant program line visited (thread :: threads))
    (known : program.instructions[thread.instruction]? = none ∨ Marked visited thread.place) :
    Invariant program line visited threads where
  sized := invariant.sized
  bounded other member := invariant.bounded other (List.mem_cons_of_mem _ member)
  closed instruction position inLine marked := by
    obtain ⟨current, found, notAccept, leads⟩ :=
      invariant.closed instruction position inLine marked
    refine ⟨current, found, notAccept, fun target member => ?_⟩
    rcases leads target member with missing | seen | ⟨other, listed, stands⟩
    · exact .inl missing
    · exact .inr (.inl seen)
    · rcases List.mem_cons.mp listed with rfl | later
      · subst stands
        exact known.elim .inl fun seen => .inr (.inl seen)
      · exact .inr (.inr ⟨other, later, stands⟩)

/-- A fresh thread can be marked and replaced by those that its instruction leads to. -/
theorem Invariant.visit
    {visited : Visited}
    {thread : Thread}
    {threads : List Thread}
    {current : Instruction}
    (invariant : Invariant program line visited (thread :: threads))
    (fresh : visited.contains thread = false)
    (found : program.instructions[thread.instruction]? = some current)
    (notAccept : current ≠ .accept) :
    Invariant program line (visited.mark thread) (current.successors line thread ++ threads) := by
  have inLine := invariant.bounded thread List.mem_cons_self
  have stands (target : Nat × Nat) (leads : target ∈ current.targets line thread.position) :
      ∃ next ∈ current.successors line thread, next.place = target := by
    rw [← Instruction.map_place_successors] at leads
    obtain ⟨next, listed, same⟩ := List.mem_map.mp leads
    exact ⟨next, listed, same⟩
  have led (next : Thread) (listed : next ∈ current.successors line thread) :
      next.place ∈ current.targets line thread.position := by
    rw [← Instruction.map_place_successors]
    exact List.mem_map.mpr ⟨next, listed, rfl⟩
  constructor
  · constructor
    · exact invariant.sized.width
    · simp only [Visited.mark, Array.set!_eq_setIfInBounds, Array.size_setIfInBounds]
      exact invariant.sized.size
  · intro other listed
    rcases List.mem_append.mp listed with new | old
    · exact Instruction.target_le inLine (led other new)
    · exact invariant.bounded other (List.mem_cons_of_mem _ old)
  · intro instruction position bounded marked
    rcases marked.of_mark invariant.sized inLine bounded with same | before
    · obtain ⟨rfl, rfl⟩ := Prod.mk.inj same
      refine ⟨current, found, notAccept, fun target leads => .inr (.inr ?_)⟩
      obtain ⟨next, listed, placed⟩ := stands target leads
      exact ⟨next, List.mem_append_left _ listed, placed⟩
    · obtain ⟨known, present, stays, leads⟩ :=
        invariant.closed instruction position bounded before
      refine ⟨known, present, stays, fun target member => ?_⟩
      rcases leads target member with missing | seen | ⟨other, listed, placed⟩
      · exact .inl missing
      · exact .inr (.inl (seen.mark thread))
      · rcases List.mem_cons.mp listed with rfl | later
        · exact .inr (.inl (placed ▸ marked_mark_self fresh))
        · exact .inr (.inr ⟨other, List.mem_append_right _ later, placed⟩)

/-! ## What a whole search finds -/

theorem Instruction.length_successors_le
    (line : Line)
    (thread : Thread)
    (instruction : Instruction) :
    (instruction.successors line thread).length ≤ 2 := by
  cases instruction <;> simp only [successors] <;> (try split) <;> simp

/-- What a search finds can be reached from where it starts, with the slots that it
returns. -/
theorem reaches_of_explore
    (fuel : Nat)
    (visited : Visited)
    (threads : List Thread)
    {slots : Slots}
    (found : explore program line fuel visited threads = some slots) :
    ∃ thread ∈ threads,
      Reaches program.instructions line slots thread.instruction thread.standing := by
  induction fuel generalizing visited threads with
  | zero => exact absurd found (by simp [explore])
  | succ fuel inductionHypothesis =>
      cases threads with
      | nil => exact absurd found (by simp [explore])
      | cons thread threads =>
          have later (rest : ∃ other ∈ threads,
              Reaches program.instructions line slots other.instruction other.standing) :
              ∃ other ∈ thread :: threads,
                Reaches program.instructions line slots other.instruction other.standing := by
            obtain ⟨other, listed, reaches⟩ := rest
            exact ⟨other, List.mem_cons_of_mem _ listed, reaches⟩
          rw [explore] at found
          split at found
          · exact later (inductionHypothesis _ _ found)
          · split at found
            · exact later (inductionHypothesis _ _ found)
            · next accepts =>
                exact ⟨thread, List.mem_cons_self, 0, accepts, Option.some.inj found⟩
            · next current _ present =>
                obtain ⟨other, listed, reaches⟩ := inductionHypothesis _ _ found
                rcases List.mem_append.mp listed with new | old
                · have leads : (other.instruction, other.standing) ∈
                      current.moves line thread.standing := by
                    rw [← Instruction.map_successors]
                    exact List.mem_map.mpr ⟨other, new, rfl⟩
                  exact ⟨thread, List.mem_cons_self, Reaches.step present leads reaches⟩
                · exact later ⟨other, old, reaches⟩

/-- A search with fuel enough that finds nothing has dealt with all its threads. -/
theorem settled_of_explore
    (fuel : Nat)
    (visited : Visited)
    (threads : List Thread)
    (invariant : Invariant program line visited threads)
    (enough : 2 * visited.remaining + threads.length < fuel)
    (found : explore program line fuel visited threads = none) :
    ∃ final, Invariant program line final [] ∧
      (∀ place, Marked visited place → Marked final place) ∧
      ∀ thread ∈ threads, Settled program final [] thread.place := by
  induction fuel generalizing visited threads with
  | zero => exact absurd enough (Nat.not_lt_zero _)
  | succ fuel inductionHypothesis =>
      cases threads with
      | nil => exact ⟨visited, invariant, fun _ marked => marked, by simp⟩
      | cons thread threads =>
          rw [List.length_cons] at enough
          have dropped
              (known : program.instructions[thread.instruction]? = none ∨
                Marked visited thread.place)
              (nothing : explore program line fuel visited threads = none) :
              ∃ final, Invariant program line final [] ∧
                (∀ place, Marked visited place → Marked final place) ∧
                ∀ other ∈ thread :: threads, Settled program final [] other.place := by
            obtain ⟨final, finished, grows, settled⟩ :=
              inductionHypothesis visited threads (invariant.skip known) (by omega) nothing
            refine ⟨final, finished, grows, fun other listed => ?_⟩
            rcases List.mem_cons.mp listed with rfl | old
            · exact known.elim .inl fun seen => .inr (.inl (grows _ seen))
            · exact settled other old
          rw [explore] at found
          split at found
          · next seen =>
              exact dropped
                (settled_of_contains invariant.sized
                  (invariant.bounded thread List.mem_cons_self) seen) found
          · next unseen =>
              have fresh : visited.contains thread = false := Bool.eq_false_iff.mpr unseen
              split at found
              · next missing => exact dropped (.inl missing) found
              · exact absurd found (by simp)
              · next current notAccept present =>
                  have less := visited.remaining_mark thread fresh
                  have few := Instruction.length_successors_le line thread current
                  obtain ⟨final, finished, grows, settled⟩ :=
                    inductionHypothesis _ _
                      (invariant.visit fresh present notAccept)
                      (by rw [List.length_append]; omega) found
                  refine ⟨final, finished, fun place marked => grows place (marked.mark thread),
                    fun other listed => ?_⟩
                  rcases List.mem_cons.mp listed with rfl | old
                  · exact .inr (.inl (grows _ (marked_mark_self fresh)))
                  · exact settled other (List.mem_append_right _ old)

/-- A search that finds nothing has no thread from which acceptance can be reached. -/
theorem not_reaches_of_explore
    (fuel : Nat)
    (visited : Visited)
    (threads : List Thread)
    (invariant : Invariant program line visited threads)
    (enough : 2 * visited.remaining + threads.length < fuel)
    (found : explore program line fuel visited threads = none)
    (thread : Thread)
    (listed : thread ∈ threads)
    (slots : Slots) :
    ¬ Reaches program.instructions line slots thread.instruction thread.standing := by
  obtain ⟨final, finished, -, settled⟩ :=
    settled_of_explore fuel visited threads invariant enough found
  rintro ⟨count, reaches⟩
  rcases settled thread listed with missing | marked | ⟨other, none, -⟩
  · cases count with
    | zero => exact absurd (missing.symm.trans reaches.1) (by simp)
    | succ count =>
        obtain ⟨current, present, -⟩ := reaches
        exact absurd (missing.symm.trans present) (by simp)
  · exact finished.not_reachesIn slots count _ _ (invariant.bounded thread listed) marked reaches
  · exact absurd none List.not_mem_nil

/-- A search starts with nothing marked. -/
theorem Invariant.start
    (threads : List Thread)
    (bounded : ∀ thread ∈ threads, thread.position ≤ line.length) :
    Invariant program line (.none program line) threads where
  sized := ⟨rfl, by simp [Visited.none]⟩
  bounded := bounded
  closed instruction position _ marked := by
    obtain ⟨inside, flag⟩ := Array.getElem?_eq_some_iff.mp marked
    simp [Visited.none] at flag

/-- What a search returns is recorded along a match of the tree that starts in the line. -/
theorem exists_traces_of_search
    {tree : Tree}
    {slotCount : Nat}
    {slots : Slots}
    (found : search (.ofTree tree) slotCount line = some slots) :
    ∃ start ≤ line.length, ∃ stop,
      (Tree.capture 0 none tree).Traces line ⟨start, Array.replicate slotCount none⟩ stop ∧
        stop.slots = slots := by
  obtain ⟨thread, listed, reaches⟩ := reaches_of_explore _ _ _ found
  obtain ⟨start, inRange, rfl⟩ := List.mem_map.mp listed
  exact ⟨start, Nat.le_of_lt_succ (List.mem_range.mp inRange),
    Program.exists_traces_of_reaches line tree reaches⟩

/-- A search finds a match exactly when a match of the tree starts in the line. -/
theorem isSome_search_iff
    (tree : Tree)
    (slotCount : Nat)
    (line : Line) :
    (search (.ofTree tree) slotCount line).isSome ↔
      ∃ start, start ≤ line.length ∧ ∃ stop, tree.Matches line start stop := by
  have place (start : Nat) (bounded : start ≤ line.length) :
      startThread (.ofTree tree) slotCount start ∈
        (List.range (line.length + 1)).map (startThread (.ofTree tree) slotCount) :=
    List.mem_map.mpr ⟨start, List.mem_range.mpr (Nat.lt_succ_of_le bounded), rfl⟩
  constructor
  · intro found
    obtain ⟨slots, same⟩ := Option.isSome_iff_exists.mp found
    obtain ⟨thread, listed, reaches⟩ := reaches_of_explore _ _ _ same
    obtain ⟨start, inRange, rfl⟩ := List.mem_map.mp listed
    exact ⟨start, Nat.le_of_lt_succ (List.mem_range.mp inRange),
      (Program.exists_reaches_ofTree_iff line tree _).mp ⟨slots, reaches⟩⟩
  · rintro ⟨start, bounded, stop, holds⟩
    rw [Option.isSome_iff_ne_none]
    intro nothing
    obtain ⟨final, reaches⟩ := (Program.exists_reaches_ofTree_iff line tree
      (startThread (.ofTree tree) slotCount start).standing).mpr ⟨stop, holds⟩
    refine not_reaches_of_explore _ _ _ (Invariant.start _ ?_) ?_ nothing _
      (place start bounded) final reaches
    · intro thread listed
      obtain ⟨other, inRange, rfl⟩ := List.mem_map.mp listed
      exact Nat.le_of_lt_succ (List.mem_range.mp inRange)
    · simp [searchFuel, Visited.remaining, Visited.none]

end Search

/-- A compiled pattern matches a line exactly when its tree has a match in the line. -/
theorem Regex.isMatch_ofTree_iff
    (tree : Tree)
    (line : Line) :
    (ofTree tree).isMatch line ↔
      ∃ start, start ≤ line.length ∧ ∃ stop, tree.Matches line start stop :=
  isSome_search_iff tree _ line

end Linear
end LineExtraction

import LineExtraction.Proofs.Linear.Meaning

/-!
# Programs follow their trees

A fragment of a program is followed from its start: whatever way leads on to
acceptance passes the instruction behind the fragment, where a match of the fragment's
tree may stop and with what the match records.  Ways are counted in steps, so that a way
around a loop is always longer than the rest of it behind the turn.
-/

namespace LineExtraction
namespace Linear

open Unicode (CodePointSet)

/-- Where a thread stands. -/
def Thread.standing (thread : Thread) : Standing := ⟨thread.position, thread.slots⟩

@[simp] theorem Thread.position_standing
    (thread : Thread) :
    thread.standing.position = thread.position := rfl

/-- Where one instruction leads: the next instruction and standing, preferred first. -/
def Instruction.moves (line : Line) (standing : Standing) : Instruction → List (Nat × Standing)
  | char wanted next =>
    if line.after? standing.position = some wanted then [(next, standing.advance 1)] else []
  | set members next =>
    if (line.after? standing.position).any members.containsChar then [(next, standing.advance 1)]
    else []
  | .look wanted next =>
    if wanted.holdsAt line standing.position then [(next, standing)] else []
  | split first second => [(first, standing), (second, standing)]
  | save slot next => [(next, standing.record slot)]
  | accept => []

/-- The threads of an instruction stand where the instruction leads. -/
theorem Instruction.map_successors
    (line : Line)
    (thread : Thread)
    (instruction : Instruction) :
    (instruction.successors line thread).map (fun next => (next.instruction, next.standing)) =
      instruction.moves line thread.standing := by
  cases instruction <;>
    simp only [successors, moves, Thread.position_standing, apply_ite (List.map _)] <;> rfl

/-- Whether acceptance is reached in exactly `count` steps, with the given slots. -/
def ReachesIn (code : Array Instruction) (line : Line) (final : Slots) :
    (count : Nat) → (instruction : Nat) → (standing : Standing) → Prop
  | 0, instruction, standing => code[instruction]? = some .accept ∧ standing.slots = final
  | count + 1, instruction, standing =>
    ∃ current, code[instruction]? = some current ∧
      ∃ target ∈ current.moves line standing, ReachesIn code line final count target.1 target.2

/-- Whether acceptance is reached with the given slots. -/
def Reaches (code : Array Instruction) (line : Line) (final : Slots) (instruction : Nat)
    (standing : Standing) : Prop :=
  ∃ count, ReachesIn code line final count instruction standing

theorem Reaches.step
    {code : Array Instruction}
    {line : Line}
    {final : Slots}
    {instruction : Nat}
    {standing : Standing}
    {current : Instruction}
    {target : Nat × Standing}
    (found : code[instruction]? = some current)
    (leads : target ∈ current.moves line standing)
    (reaches : Reaches code line final target.1 target.2) :
    Reaches code line final instruction standing := by
  obtain ⟨count, rest⟩ := reaches
  exact ⟨count + 1, current, found, target, leads, rest⟩

/-- The first step of a way that starts at a known instruction which does not accept. -/
theorem ReachesIn.firstStep
    {code : Array Instruction}
    {line : Line}
    {final : Slots}
    {count instruction : Nat}
    {standing : Standing}
    {current : Instruction}
    (found : code[instruction]? = some current)
    (notAccept : current ≠ .accept)
    (reaches : ReachesIn code line final count instruction standing) :
    ∃ fewer, count = fewer + 1 ∧ ∃ target ∈ current.moves line standing,
      ReachesIn code line final fewer target.1 target.2 := by
  cases count with
  | zero =>
      rw [ReachesIn, found, Option.some_inj] at reaches
      exact absurd reaches.1 notAccept
  | succ fewer =>
      obtain ⟨other, same, target, leads, rest⟩ := reaches
      rw [found, Option.some_inj] at same
      subst same
      exact ⟨fewer, rfl, target, leads, rest⟩

/-- Two programs have the same instructions from a number on, as far as the second is
written. -/
def Agrees (code written : Array Instruction) (first : Nat) : Prop :=
  ∀ index, first ≤ index → index < written.size → code[index]? = written[index]?

namespace Program

/-- A fragment behind the code `before` realises a meaning on the way to `next`. -/
structure Realises
    (line : Line)
    (before : Array Instruction)
    (fragment : Fragment)
    (next : Nat)
    (meaning : Standing → Standing → Prop) : Prop where
  /-- Nothing that was written before is lost. -/
  grows : before.size ≤ fragment.code.size
  /-- Nothing that was written before is changed. -/
  keeps : ∀ index < before.size, fragment.code[index]? = before[index]?
  /-- Every way from the start passes `next` where the meaning says. -/
  sound : ∀ code, Agrees code fragment.code before.size →
    ∀ final count start, ReachesIn code line final count fragment.start start →
      ∃ stop fewer, fewer ≤ count ∧ meaning start stop ∧
        ReachesIn code line final fewer next stop
  /-- Wherever the meaning says, `next` can be passed. -/
  complete : ∀ code, Agrees code fragment.code before.size →
    ∀ final start stop, meaning start stop → Reaches code line final next stop →
      Reaches code line final fragment.start start

namespace Realises

variable {line : Line} {before : Array Instruction} {next : Nat}

/-- A fragment realises whatever is equivalent to a meaning that it realises. -/
theorem congr
    {fragment : Fragment}
    {meaning other : Standing → Standing → Prop}
    (realises : Realises line before fragment next meaning)
    (same : ∀ start stop, meaning start stop ↔ other start stop) :
    Realises line before fragment next other where
  grows := realises.grows
  keeps := realises.keeps
  sound code agrees final count start reaches := by
    obtain ⟨stop, fewer, bound, holds, rest⟩ :=
      realises.sound code agrees final count start reaches
    exact ⟨stop, fewer, bound, (same start stop).mp holds, rest⟩
  complete code agrees final start stop holds :=
    realises.complete code agrees final start stop ((same start stop).mpr holds)

/-- Nothing written leads on from where it stands. -/
theorem nothing :
    Realises line before ⟨before, next⟩ next (fun start stop => start = stop) where
  grows := Nat.le_refl _
  keeps _ _ := rfl
  sound _ _ _ count start reaches := ⟨start, count, Nat.le_refl _, rfl, reaches⟩
  complete _ _ _ _ _ same reaches := same ▸ reaches

/-- A fragment in front of another one realises both meanings in sequence. -/
theorem andThen
    {tail front : Fragment}
    {first second : Standing → Standing → Prop}
    (tailRealises : Realises line before tail next second)
    (frontRealises : Realises line tail.code front tail.start first) :
    Realises line before front next
      (fun start stop => ∃ middle, first start middle ∧ second middle stop) := by
  have agreesTail {code : Array Instruction} (agrees : Agrees code front.code before.size) :
      Agrees code tail.code before.size := by
    intro index low high
    rw [agrees index low (Nat.lt_of_lt_of_le high frontRealises.grows),
      frontRealises.keeps index high]
  have agreesFront {code : Array Instruction} (agrees : Agrees code front.code before.size) :
      Agrees code front.code tail.code.size :=
    fun index low high => agrees index (Nat.le_trans tailRealises.grows low) high
  constructor
  · exact Nat.le_trans tailRealises.grows frontRealises.grows
  · intro index small
    rw [frontRealises.keeps index (Nat.lt_of_lt_of_le small tailRealises.grows),
      tailRealises.keeps index small]
  · intro code agrees final count start reaches
    obtain ⟨middle, between, bound, front, rest⟩ :=
      frontRealises.sound code (agreesFront agrees) final count start reaches
    obtain ⟨stop, fewer, tighter, back, behind⟩ :=
      tailRealises.sound code (agreesTail agrees) final between middle rest
    exact ⟨stop, fewer, Nat.le_trans tighter bound, ⟨middle, front, back⟩, behind⟩
  · rintro code agrees final start stop ⟨middle, front, back⟩ reaches
    exact frontRealises.complete code (agreesFront agrees) final start middle front
      (tailRealises.complete code (agreesTail agrees) final middle stop back reaches)

end Realises

/-! ## Single instructions -/

theorem emit_getElem?_size
    (before : Array Instruction)
    (instruction : Instruction) :
    (emit before instruction).code[before.size]? = some instruction := by
  simp [emit]

theorem emit_keeps
    (before : Array Instruction)
    (instruction : Instruction)
    (index : Nat)
    (small : index < before.size) :
    (emit before instruction).code[index]? = before[index]? := by
  simp [emit, Array.getElem?_push_lt small, small]

/-- The code that agrees with a written instruction has it at its place. -/
theorem emitted_of_agrees
    {code before : Array Instruction}
    {instruction : Instruction}
    (agrees : Agrees code (emit before instruction).code before.size) :
    code[before.size]? = some instruction := by
  rw [agrees before.size (Nat.le_refl _) (by simp [emit]), emit_getElem?_size]

/-- An instruction whose targets all name `next` realises the step that it takes. -/
theorem emit_realises
    {line : Line}
    {next : Nat}
    {instruction : Instruction}
    {meaning : Standing → Standing → Prop}
    (before : Array Instruction)
    (notAccept : instruction ≠ .accept)
    (leads : ∀ start target, target ∈ instruction.moves line start ↔
      target.1 = next ∧ meaning start target.2) :
    Realises line before (emit before instruction) next meaning where
  grows := by simp [emit]
  keeps := emit_keeps before instruction
  sound code agrees final count start reaches := by
    obtain ⟨fewer, rfl, target, member, rest⟩ :=
      reaches.firstStep (emitted_of_agrees agrees) notAccept
    obtain ⟨named, holds⟩ := (leads start target).mp member
    exact ⟨target.2, fewer, Nat.le_succ _, holds, named ▸ rest⟩
  complete code agrees final start stop holds reaches :=
    .step (emitted_of_agrees agrees) ((leads start (next, stop)).mpr ⟨rfl, holds⟩) reaches

theorem emit_char_realises
    {line : Line}
    (before : Array Instruction)
    (wanted : Char)
    (next : Nat) :
    Realises line before (emit before (.char wanted next)) next
      (fun start stop => line.after? start.position = some wanted ∧ stop = start.advance 1) := by
  refine emit_realises before (by simp) ?_
  rintro start ⟨number, standing⟩
  simp only [Instruction.moves]
  split <;> simp_all

theorem emit_set_realises
    {line : Line}
    (before : Array Instruction)
    (members : CodePointSet)
    (next : Nat) :
    Realises line before (emit before (.set members next)) next
      ((Tree.set members).Traces line) := by
  refine emit_realises before (by simp) ?_
  rintro start ⟨number, standing⟩
  simp only [Instruction.moves, Tree.Traces]
  split <;> simp_all

theorem emit_look_realises
    {line : Line}
    (before : Array Instruction)
    (look : Look)
    (next : Nat) :
    Realises line before (emit before (.look look next)) next
      ((Tree.look look).Traces line) := by
  refine emit_realises before (by simp) ?_
  rintro start ⟨number, standing⟩
  simp only [Instruction.moves, Tree.Traces]
  split
  · next holds => simp [holds, Prod.ext_iff, eq_comm (a := start)]
  · next fails => simp [fails]

theorem emit_save_realises
    {line : Line}
    (before : Array Instruction)
    (slot next : Nat) :
    Realises line before (emit before (.save slot next)) next
      (fun start stop => stop = start.record slot) := by
  refine emit_realises before (by simp) ?_
  rintro start ⟨number, standing⟩
  simp [Instruction.moves, eq_comm]

theorem emitChars_realises
    {line : Line}
    (before : Array Instruction)
    (next : Nat)
    (chars : List Char) :
    Realises line before (emitChars before next chars) next
      ((Tree.literal chars).Traces line) := by
  induction chars with
  | nil =>
      refine Realises.nothing.congr fun start stop => ?_
      simp [Tree.Traces, Line.startsWithAt, eq_comm]
  | cons char rest inductionHypothesis =>
      refine (inductionHypothesis.andThen (emit_char_realises _ char _)).congr
        fun start stop => ?_
      simp only [Tree.Traces, Line.startsWithAt, List.length_cons, decide_eq_true_eq,
        Bool.decide_and, Bool.and_eq_true]
      rw [Nat.add_comm rest.length, ← Standing.advance_advance]
      constructor
      · rintro ⟨middle, ⟨found, rfl⟩, behind, rfl⟩
        exact ⟨⟨found, behind⟩, rfl⟩
      · rintro ⟨⟨found, behind⟩, rfl⟩
        exact ⟨start.advance 1, ⟨found, rfl⟩, behind, rfl⟩

/-! ## Choices and repetitions -/

/-- The code that agrees with a choice between two instructions goes to either. -/
theorem mem_moves_choose
    (line : Line)
    (greedy : Bool)
    (body next : Nat)
    (standing : Standing)
    (target : Nat × Standing) :
    target ∈ (choose greedy body next).moves line standing ↔
      target = (body, standing) ∨ target = (next, standing) := by
  cases greedy <;> simp [choose, Instruction.moves, or_comm]

theorem choose_ne_accept
    (greedy : Bool)
    (body next : Nat) :
    choose greedy body next ≠ .accept := by
  cases greedy <;> simp [choose]

/-- What is written for a body: whatever is asked to follow it, it realises the same
meaning on the way there. -/
def BodyRealises
    (line : Line)
    (body : Array Instruction → Nat → Fragment)
    (turn : Standing → Standing → Prop) : Prop :=
  ∀ before next, Realises line before (body before next) next turn

section Repetition

variable {line : Line} {body : Array Instruction → Nat → Fragment} {turn : Standing → Standing → Prop}

theorem emitCopies_realises
    (bodyRealises : BodyRealises line body turn)
    (count : Nat)
    (before : Array Instruction)
    (next : Nat) :
    Realises line before (emitCopies body count before next) next (Turns turn count) := by
  induction count with
  | zero => exact .nothing
  | succ count inductionHypothesis =>
      exact inductionHypothesis.andThen (bodyRealises _ _)

/-- A choice in front of a turn that leads on to more of them. -/
theorem emit_choose_realises
    {before : Array Instruction}
    {inner : Fragment}
    {next : Nat}
    {more : Standing → Standing → Prop}
    (greedy : Bool)
    (innerRealises : Realises line before inner next more) :
    Realises line before (emit inner.code (choose greedy inner.start next)) next
      (fun start stop => start = stop ∨ more start stop) := by
  have agreesInner {code : Array Instruction}
      (agrees : Agrees code (emit inner.code (choose greedy inner.start next)).code
        before.size) :
      Agrees code inner.code before.size := by
    intro index low high
    rw [agrees index low (by simp [emit]; omega), emit_keeps _ _ _ high]
  have chosen {code : Array Instruction}
      (agrees : Agrees code (emit inner.code (choose greedy inner.start next)).code
        before.size) :
      code[inner.code.size]? = some (choose greedy inner.start next) :=
    emitted_of_agrees fun index low high =>
      agrees index (Nat.le_trans innerRealises.grows low) high
  constructor
  · have := innerRealises.grows
    simp only [emit, Array.size_push]
    omega
  · intro index small
    rw [emit_keeps _ _ _ (Nat.lt_of_lt_of_le small innerRealises.grows),
      innerRealises.keeps index small]
  · intro code agrees final count start reaches
    obtain ⟨fewer, rfl, target, member, rest⟩ :=
      reaches.firstStep (chosen agrees) (choose_ne_accept _ _ _)
    rcases (mem_moves_choose line greedy inner.start next start target).mp member
      with rfl | rfl
    · obtain ⟨stop, least, bound, holds, behind⟩ :=
        innerRealises.sound code (agreesInner agrees) final fewer start rest
      exact ⟨stop, least, Nat.le_succ_of_le bound, .inr holds, behind⟩
    · exact ⟨start, fewer, Nat.le_succ _, .inl rfl, rest⟩
  · rintro code agrees final start stop (rfl | holds) reaches
    · exact .step (chosen agrees) ((mem_moves_choose ..).mpr (.inr rfl)) reaches
    · exact .step (chosen agrees) ((mem_moves_choose ..).mpr (.inl rfl))
        (innerRealises.complete code (agreesInner agrees) final start stop holds reaches)

theorem emitOptional_realises
    (bodyRealises : BodyRealises line body turn)
    (greedy : Bool)
    (next count : Nat)
    (before : Array Instruction) :
    Realises line before (emitOptional body greedy next count before) next
      (fun start stop => ∃ extra, extra ≤ count ∧ Turns turn extra start stop) := by
  induction count with
  | zero =>
      refine Realises.nothing.congr fun start stop => ?_
      constructor
      · rintro rfl
        exact ⟨0, Nat.le_refl _, rfl⟩
      · rintro ⟨extra, bound, turns⟩
        obtain rfl := Nat.le_zero.mp bound
        exact turns
  | succ count inductionHypothesis =>
      refine (emit_choose_realises greedy
        (inductionHypothesis.andThen (bodyRealises _ _))).congr fun start stop => ?_
      constructor
      · rintro (rfl | ⟨middle, turned, extra, bound, rest⟩)
        · exact ⟨0, Nat.zero_le _, rfl⟩
        · exact ⟨extra + 1, Nat.succ_le_succ bound, middle, turned, rest⟩
      · rintro ⟨extra, bound, turns⟩
        cases extra with
        | zero => exact .inl turns
        | succ extra =>
            obtain ⟨middle, turned, rest⟩ := turns
            exact .inr ⟨middle, turned, extra, Nat.le_of_succ_le_succ bound, rest⟩

/-! A loop's choice is written before its body and filled in behind it.  The ways of a
loop are followed turn by turn, and every turn shortens what is left of the way. -/

theorem emitLoop_size
    (greedy : Bool)
    (before : Array Instruction)
    (next : Nat) :
    (emitLoop body greedy before next).code.size =
      (body (before.push .accept) before.size).code.size := by
  simp [emitLoop]

theorem emitLoop_keeps
    (bodyRealises : BodyRealises line body turn)
    (greedy : Bool)
    (before : Array Instruction)
    (next index : Nat)
    (small : index < before.size) :
    (emitLoop body greedy before next).code[index]? = before[index]? := by
  have kept := (bodyRealises (before.push .accept) before.size).keeps index
    (by simp only [Array.size_push]; omega)
  simp only [emitLoop, Array.set!_eq_setIfInBounds, Array.getElem?_setIfInBounds]
  rw [if_neg (by omega), kept, Array.getElem?_push_lt small, Array.getElem?_eq_getElem small]

/-- What the code that agrees with a loop has at the place of its choice. -/
theorem loopChoice_of_agrees
    {code : Array Instruction}
    {greedy : Bool}
    {before : Array Instruction}
    {next : Nat}
    (bodyRealises : BodyRealises line body turn)
    (agrees : Agrees code (emitLoop body greedy before next).code before.size) :
    code[before.size]? =
      some (choose greedy (emitLoop body greedy before next).start next) := by
  have grows := (bodyRealises (before.push .accept) before.size).grows
  simp only [Array.size_push] at grows
  rw [agrees before.size (Nat.le_refl _) (by rw [emitLoop_size]; omega)]
  simp only [emitLoop, Array.set!_eq_setIfInBounds, Array.getElem?_setIfInBounds]
  rw [if_pos trivial, if_pos (by omega)]

theorem loopBody_of_agrees
    {code : Array Instruction}
    {greedy : Bool}
    {before : Array Instruction}
    {next : Nat}
    (agrees : Agrees code (emitLoop body greedy before next).code before.size) :
    Agrees code (body (before.push .accept) before.size).code (before.push .accept).size := by
  intro index low high
  simp only [Array.size_push] at low
  rw [agrees index (by omega) (by rw [emitLoop_size]; exact high)]
  simp only [emitLoop, Array.set!_eq_setIfInBounds, Array.getElem?_setIfInBounds]
  rw [if_neg (by omega)]

theorem emitLoop_realises
    (bodyRealises : BodyRealises line body turn)
    (greedy : Bool)
    (before : Array Instruction)
    (next : Nat) :
    Realises line before (emitLoop body greedy before next) next
      (fun start stop => ∃ more, Turns turn (more + 1) start stop) := by
  have bodyHolds := bodyRealises (before.push .accept) before.size
  constructor
  · have := bodyHolds.grows
    rw [emitLoop_size]
    simp only [Array.size_push] at this
    omega
  · exact fun index small => emitLoop_keeps bodyRealises greedy before next index small
  · intro code agrees final count
    -- The way behind one turn is shorter than the whole, so it is followed first.
    induction count using Nat.strongRecOn with
    | ind count inductionHypothesis =>
        intro start reaches
        obtain ⟨middle, between, bound, turned, rest⟩ :=
          bodyHolds.sound code (loopBody_of_agrees agrees) final count start reaches
        obtain ⟨fewer, rfl, target, member, behind⟩ :=
          rest.firstStep (loopChoice_of_agrees bodyRealises agrees) (choose_ne_accept _ _ _)
        rcases (mem_moves_choose line greedy _ next middle target).mp member with rfl | rfl
        · obtain ⟨stop, least, tighter, ⟨more, turns⟩, last⟩ :=
            inductionHypothesis fewer (by omega) middle behind
          exact ⟨stop, least, by omega, ⟨more + 1, middle, turned, turns⟩, last⟩
        · exact ⟨middle, fewer, by omega, ⟨0, (turns_one ..).mpr turned⟩, behind⟩
  · rintro code agrees final start stop ⟨more, turns⟩ reaches
    induction more generalizing start with
    | zero =>
        refine bodyHolds.complete code (loopBody_of_agrees agrees) final start stop
          ((turns_one ..).mp turns) ?_
        exact .step (loopChoice_of_agrees bodyRealises agrees) ((mem_moves_choose ..).mpr (.inr rfl))
          reaches
    | succ more inductionHypothesis =>
        obtain ⟨middle, turned, rest⟩ := turns
        refine bodyHolds.complete code (loopBody_of_agrees agrees) final start middle turned ?_
        exact .step (loopChoice_of_agrees bodyRealises agrees) ((mem_moves_choose ..).mpr (.inl rfl))
          (inductionHypothesis middle rest)

/-- A turn or more, or none, are any number of turns. -/
theorem still_or_turns_iff
    (turn : Standing → Standing → Prop)
    (start stop : Standing) :
    (start = stop ∨ ∃ more, Turns turn (more + 1) start stop) ↔
      ∃ count, Turns turn count start stop := by
  constructor
  · rintro (same | ⟨more, turns⟩)
    · exact ⟨0, same⟩
    · exact ⟨more + 1, turns⟩
  · rintro ⟨count, turns⟩
    cases count with
    | zero => exact .inl turns
    | succ more => exact .inr ⟨more, turns⟩

theorem emitStar_realises
    (bodyRealises : BodyRealises line body turn)
    (greedy : Bool)
    (before : Array Instruction)
    (next : Nat) :
    Realises line before (emitStar body greedy before next) next
      (fun start stop => ∃ count, Turns turn count start stop) := by
  have loop := emitLoop_realises bodyRealises greedy before next
  refine Realises.congr ⟨loop.grows, loop.keeps, ?_, ?_⟩ (still_or_turns_iff turn)
  · intro code agrees final count start reaches
    obtain ⟨fewer, rfl, target, member, behind⟩ :=
      reaches.firstStep (loopChoice_of_agrees bodyRealises agrees) (choose_ne_accept _ _ _)
    rcases (mem_moves_choose line greedy _ next start target).mp member with rfl | rfl
    · obtain ⟨stop, least, bound, turns, last⟩ := loop.sound code agrees final fewer start behind
      exact ⟨stop, least, Nat.le_succ_of_le bound, .inr turns, last⟩
    · exact ⟨start, fewer, Nat.le_succ _, .inl rfl, behind⟩
  · rintro code agrees final start stop (rfl | turns) reaches
    · exact .step (loopChoice_of_agrees bodyRealises agrees)
        ((mem_moves_choose ..).mpr (.inr rfl)) reaches
    · exact .step (loopChoice_of_agrees bodyRealises agrees)
        ((mem_moves_choose ..).mpr (.inl rfl)) (loop.complete code agrees final start stop turns reaches)

theorem emitRepetition_realises
    (bodyRealises : BodyRealises line body turn)
    (nullable : Bool)
    (min : Nat)
    (max : Option Nat)
    (greedy : Bool)
    (before : Array Instruction)
    (next : Nat) :
    Realises line before (emitRepetition body nullable min max greedy before next) next
      (fun start stop => ∃ extra, Allows min max extra ∧ Turns turn (min + extra) start stop) := by
  cases max with
  | some max =>
      refine ((emitOptional_realises bodyRealises greedy next (max - min) before).andThen
        (emitCopies_realises bodyRealises min _ _)).congr fun start stop => ?_
      constructor
      · rintro ⟨middle, front, extra, bound, back⟩
        refine ⟨extra, ?_, (turns_add ..).mpr ⟨middle, front, back⟩⟩
        rintro _ ⟨⟩
        exact bound
      · rintro ⟨extra, allowed, turns⟩
        obtain ⟨middle, front, back⟩ := (turns_add ..).mp turns
        exact ⟨middle, front, extra, allowed max rfl, back⟩
  | none =>
      have free (extra : Nat) : Allows min none extra := fun _ none => nomatch none
      cases min with
      | zero =>
          have any : Realises line before (emitRepetition body nullable 0 none greedy before next)
              next (fun start stop => ∃ count, Turns turn count start stop) := by
            cases nullable with
            | false => exact emitStar_realises bodyRealises greedy before next
            | true =>
                exact (emit_choose_realises greedy
                  (emitLoop_realises bodyRealises greedy before next)).congr
                    (still_or_turns_iff turn)
          refine any.congr fun start stop => ?_
          simp [free]
      | succ more =>
          refine ((emitLoop_realises bodyRealises greedy before next).andThen
            (emitCopies_realises bodyRealises more _ _)).congr fun start stop => ?_
          constructor
          · rintro ⟨middle, front, extra, back⟩
            refine ⟨extra, free extra, ?_⟩
            rw [show more + 1 + extra = more + (extra + 1) by omega]
            exact (turns_add ..).mpr ⟨middle, front, back⟩
          · rintro ⟨extra, -, turns⟩
            rw [show more + 1 + extra = more + (extra + 1) by omega] at turns
            obtain ⟨middle, front, back⟩ := (turns_add ..).mp turns
            exact ⟨middle, front, extra, back⟩

end Repetition

/-! ## Trees -/

/-- Two fragments side by side, of which a split enters either. -/
theorem emit_split_realises
    {line : Line}
    {before : Array Instruction}
    {second front : Fragment}
    {next : Nat}
    {left right : Standing → Standing → Prop}
    (secondRealises : Realises line before second next right)
    (frontRealises : Realises line second.code front next left) :
    Realises line before (emit front.code (.split front.start second.start)) next
      (fun start stop => left start stop ∨ right start stop) := by
  have grows := Nat.le_trans secondRealises.grows frontRealises.grows
  have agreesFront {code : Array Instruction}
      (agrees : Agrees code (emit front.code (.split front.start second.start)).code
        before.size) :
      Agrees code front.code before.size := by
    intro index low high
    rw [agrees index low (by simp [emit]; omega), emit_keeps _ _ _ high]
  have agreesSecond {code : Array Instruction} (agrees : Agrees code front.code before.size) :
      Agrees code second.code before.size := by
    intro index low high
    rw [agrees index low (Nat.lt_of_lt_of_le high frontRealises.grows),
      frontRealises.keeps index high]
  have weaken {code : Array Instruction} (agrees : Agrees code front.code before.size) :
      Agrees code front.code second.code.size :=
    fun index low high => agrees index (Nat.le_trans secondRealises.grows low) high
  have chosen {code : Array Instruction}
      (agrees : Agrees code (emit front.code (.split front.start second.start)).code
        before.size) :
      code[front.code.size]? = some (.split front.start second.start) :=
    emitted_of_agrees fun index low high => agrees index (Nat.le_trans grows low) high
  constructor
  · simp only [emit, Array.size_push]
    omega
  · intro index small
    rw [emit_keeps _ _ _ (Nat.lt_of_lt_of_le small grows),
      frontRealises.keeps index (Nat.lt_of_lt_of_le small secondRealises.grows),
      secondRealises.keeps index small]
  · intro code agrees final count start reaches
    obtain ⟨fewer, rfl, target, member, rest⟩ := reaches.firstStep (chosen agrees) (by simp)
    simp only [Instruction.moves, List.mem_cons, List.not_mem_nil, or_false] at member
    rcases member with rfl | rfl
    · obtain ⟨stop, least, bound, holds, behind⟩ :=
        frontRealises.sound code (weaken (agreesFront agrees)) final fewer start rest
      exact ⟨stop, least, Nat.le_succ_of_le bound, .inl holds, behind⟩
    · obtain ⟨stop, least, bound, holds, behind⟩ :=
        secondRealises.sound code (agreesSecond (agreesFront agrees)) final fewer start rest
      exact ⟨stop, least, Nat.le_succ_of_le bound, .inr holds, behind⟩
  · rintro code agrees final start stop (holds | holds) reaches
    · exact .step (chosen agrees) (.head _)
        (frontRealises.complete code (weaken (agreesFront agrees)) final start stop holds reaches)
    · exact .step (chosen agrees) (.tail _ (.head _))
        (secondRealises.complete code (agreesSecond (agreesFront agrees)) final start stop holds
          reaches)

/-- The fragment written for a tree realises the meaning of the tree. -/
theorem emitTree_realises
    (line : Line)
    (tree : Tree) :
    BodyRealises line (emitTree tree) (tree.Traces line) := by
  induction tree with
  | empty => exact fun before next => .nothing
  | literal chars => exact fun before next => emitChars_realises before next chars
  | set members => exact fun before next => emit_set_realises before members next
  | look look => exact fun before next => emit_look_realises before look next
  | repetition min max greedy body bodyRealises =>
      exact fun before next => emitRepetition_realises bodyRealises _ min max greedy before next
  | capture index name body bodyRealises =>
      intro before next
      refine (((emit_save_realises before (2 * index + 1) next).andThen
        (bodyRealises _ _)).andThen (emit_save_realises _ (2 * index) _)).congr
          fun start stop => ?_
      simp [Tree.Traces]
  | concat first rest firstRealises restRealises =>
      exact fun before next => (restRealises before next).andThen (firstRealises _ _)
  | alternation first rest firstRealises restRealises =>
      exact fun before next =>
        emit_split_realises (restRealises before next) (firstRealises _ next)

section Whole

variable (line : Line) (tree : Tree)

theorem agrees_ofTree :
    Agrees (ofTree tree).instructions (emitTree (.capture 0 none tree) #[.accept] 0).code 1 :=
  fun _ _ _ => rfl

theorem accept_ofTree :
    (ofTree tree).instructions[0]? = some .accept :=
  (emitTree_realises (.ofString "") (.capture 0 none tree) #[.accept] 0).keeps 0 (by simp)

/-- A way from the start of a program to acceptance traces the whole tree. -/
theorem exists_traces_of_reaches
    {start : Standing}
    {final : Slots}
    (reaches : Reaches (ofTree tree).instructions line final (ofTree tree).start start) :
    ∃ stop, (Tree.capture 0 none tree).Traces line start stop ∧ stop.slots = final := by
  have realises := emitTree_realises line (.capture 0 none tree) #[.accept] 0
  obtain ⟨count, reaches⟩ := reaches
  obtain ⟨stop, fewer, -, traces, rest⟩ :=
    realises.sound _ (agrees_ofTree tree) final count start reaches
  refine ⟨stop, traces, ?_⟩
  cases fewer with
  | zero => exact rest.2
  | succ fewer =>
      obtain ⟨current, found, target, leads, -⟩ := rest
      obtain rfl := Option.some.inj ((accept_ofTree tree).symm.trans found)
      cases leads

/-- From its start a program reaches acceptance exactly where a match of its tree may
start. -/
theorem exists_reaches_ofTree_iff
    (start : Standing) :
    (∃ final, Reaches (ofTree tree).instructions line final (ofTree tree).start start) ↔
      ∃ stop, tree.Matches line start.position stop := by
  constructor
  · rintro ⟨final, reaches⟩
    obtain ⟨stop, traces, -⟩ := exists_traces_of_reaches line tree reaches
    exact ⟨stop.position, traces.matches⟩
  · rintro ⟨stop, matched⟩
    have whole : (Tree.capture 0 none tree).Matches line start.position stop := matched
    obtain ⟨recorded, traces⟩ := whole.exists_traces start.slots
    have realises := emitTree_realises line (.capture 0 none tree) #[.accept] 0
    exact ⟨recorded, realises.complete _ (agrees_ofTree tree) recorded start _ traces
      ⟨0, accept_ofTree tree, rfl⟩⟩

end Whole

end Program
end Linear
end LineExtraction

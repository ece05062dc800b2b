import LineExtraction.Linear.Search

/-!
# What pattern trees mean

The meaning of a tree in a line is a relation between positions: where a match may
start and where it may stop.  It is read off the tree and knows nothing of programs,
preferences or captured groups.  A repetition takes its fewest turns and then as many
more as its bounds leave room for.

A match records where its groups start and stop as it goes along.  The traces of a tree
are the matches of the tree together with what they record: leaving the records aside they
are the matches, and every match can be traced whatever was recorded before.
-/

namespace LineExtraction
namespace Linear

/-- From `start` to `stop` in exactly `count` turns. -/
def Turns {α : Type} (turn : α → α → Prop) : (count : Nat) → (start stop : α) → Prop
  | 0, start, stop => start = stop
  | count + 1, start, stop => ∃ middle, turn start middle ∧ Turns turn count middle stop

@[simp] theorem turns_zero
    {α : Type}
    (turn : α → α → Prop)
    (start stop : α) :
    Turns turn 0 start stop ↔ start = stop := Iff.rfl

theorem turns_succ
    {α : Type}
    (turn : α → α → Prop)
    (count : Nat)
    (start stop : α) :
    Turns turn (count + 1) start stop ↔
      ∃ middle, turn start middle ∧ Turns turn count middle stop := Iff.rfl

theorem turns_one
    {α : Type}
    (turn : α → α → Prop)
    (start stop : α) :
    Turns turn 1 start stop ↔ turn start stop := by
  simp [Turns]

theorem turns_add
    {α : Type}
    (turn : α → α → Prop)
    (first second : Nat)
    (start stop : α) :
    Turns turn (first + second) start stop ↔
      ∃ middle, Turns turn first start middle ∧ Turns turn second middle stop := by
  induction first generalizing start with
  | zero => simp
  | succ first inductionHypothesis =>
      rw [Nat.succ_add, turns_succ]
      constructor
      · rintro ⟨next, turned, rest⟩
        obtain ⟨middle, front, back⟩ := (inductionHypothesis next).mp rest
        exact ⟨middle, ⟨next, turned, front⟩, back⟩
      · rintro ⟨middle, ⟨next, turned, front⟩, back⟩
        exact ⟨next, turned, (inductionHypothesis next).mpr ⟨middle, front, back⟩⟩

/-- Turns that can only stand still lead nowhere else. -/
theorem Turns.eq_of_still
    {turn : Nat → Nat → Prop}
    (still : ∀ start stop, turn start stop → start = stop)
    {count start stop : Nat}
    (turns : Turns turn count start stop) :
    start = stop := by
  induction count generalizing start with
  | zero => exact turns
  | succ count inductionHypothesis =>
      obtain ⟨middle, turned, rest⟩ := turns
      exact (still _ _ turned).trans (inductionHypothesis rest)

/-- A turn that stands still can be taken any number of times. -/
theorem turns_of_still
    {turn : Nat → Nat → Prop}
    {position : Nat}
    (turned : turn position position)
    (count : Nat) :
    Turns turn count position position := by
  induction count with
  | zero => rfl
  | succ count inductionHypothesis => exact ⟨position, turned, inductionHypothesis⟩

/-- Whether a number of turns beyond the fewest stays within the bound. -/
def Allows (min : Nat) (max : Option Nat) (extra : Nat) : Prop :=
  ∀ bound ∈ max, extra ≤ bound - min

namespace Tree

/-- Whether a match of the tree in the line may start and stop at the positions. -/
def Matches (line : Line) : Tree → (start stop : Nat) → Prop
  | empty, start, stop => start = stop
  | literal chars, start, stop =>
    line.startsWithAt start chars ∧ stop = start + chars.length
  | set members, start, stop =>
    (line.after? start).any members.containsChar ∧ stop = start + 1
  | .look assertion, start, stop => assertion.holdsAt line start ∧ start = stop
  | repetition min max _ body, start, stop =>
    ∃ extra, Allows min max extra ∧ Turns (body.Matches line) (min + extra) start stop
  | capture _ _ body, start, stop => body.Matches line start stop
  | concat first rest, start, stop =>
    ∃ middle, first.Matches line start middle ∧ rest.Matches line middle stop
  | alternation first rest, start, stop =>
    first.Matches line start stop ∨ rest.Matches line start stop

end Tree

/-! ## Matches stay in the line -/

/-- Turns that go on within a bound stay within it. -/
theorem Turns.within
    {turn : Nat → Nat → Prop}
    {bound count start stop : Nat}
    (goesOn : ∀ start stop, start ≤ bound → turn start stop → start ≤ stop ∧ stop ≤ bound)
    (inside : start ≤ bound)
    (turns : Turns turn count start stop) :
    start ≤ stop ∧ stop ≤ bound := by
  induction count generalizing start with
  | zero =>
      obtain rfl : start = stop := turns
      exact ⟨Nat.le_refl _, inside⟩
  | succ count inductionHypothesis =>
      obtain ⟨middle, turned, rest⟩ := turns
      obtain ⟨forward, middleInside⟩ := goesOn start middle inside turned
      obtain ⟨onward, stopInside⟩ := inductionHypothesis middleInside rest
      exact ⟨Nat.le_trans forward onward, stopInside⟩

theorem length_le_of_startsWithAt
    {line : Line}
    {position : Nat}
    {text : List Char}
    (inside : position ≤ line.length)
    (starts : line.startsWithAt position text) :
    position + text.length ≤ line.length := by
  induction text generalizing position with
  | nil => exact inside
  | cons char rest inductionHypothesis =>
      obtain ⟨found, others⟩ := of_decide_eq_true starts
      have := inductionHypothesis (Array.getElem?_eq_some_iff.mp found).1 others
      rw [List.length_cons]
      omega

/-- A match goes forward and stops in the line. -/
theorem Tree.Matches.within
    {line : Line}
    {tree : Tree}
    {start stop : Nat}
    (inside : start ≤ line.length)
    (matched : tree.Matches line start stop) :
    start ≤ stop ∧ stop ≤ line.length := by
  induction tree generalizing start stop with
  | empty =>
      obtain rfl : start = stop := matched
      exact ⟨Nat.le_refl _, inside⟩
  | literal chars =>
      obtain ⟨starts, rfl⟩ := matched
      exact ⟨Nat.le_add_right _ _, length_le_of_startsWithAt inside starts⟩
  | set members =>
      obtain ⟨found, rfl⟩ := matched
      obtain ⟨char, isChar, -⟩ := (Option.any_eq_true _ _).mp found
      exact ⟨Nat.le_succ _, (Array.getElem?_eq_some_iff.mp isChar).1⟩
  | look look =>
      obtain ⟨-, rfl⟩ := matched
      exact ⟨Nat.le_refl _, inside⟩
  | repetition min max greedy body inductionHypothesis =>
      obtain ⟨extra, -, turns⟩ := matched
      exact turns.within (fun start stop => inductionHypothesis) inside
  | capture index name body inductionHypothesis => exact inductionHypothesis inside matched
  | concat first rest firstHypothesis restHypothesis =>
      obtain ⟨middle, front, back⟩ := matched
      obtain ⟨forward, middleInside⟩ := firstHypothesis inside front
      obtain ⟨onward, stopInside⟩ := restHypothesis middleInside back
      exact ⟨Nat.le_trans forward onward, stopInside⟩
  | alternation first rest firstHypothesis restHypothesis =>
      exact matched.elim (firstHypothesis inside) (restHypothesis inside)

/-! ## The ends of a line -/

theorem Look.holdsAt_startText_iff
    {line : Line}
    {position : Nat}
    (inside : position ≤ line.length) :
    Look.startText.holdsAt line position ↔ position = 0 := by
  cases position with
  | zero => exact iff_of_true rfl rfl
  | succ previous =>
      have found : line.before? (previous + 1) = some line.chars[previous] :=
        Array.getElem?_eq_getElem inside
      simp [Look.holdsAt, Look.holdsBetween, found]

theorem Look.holdsAt_endText_iff
    {line : Line}
    {position : Nat} :
    Look.endText.holdsAt line position ↔ line.length ≤ position := by
  simp [Look.holdsAt, Look.holdsBetween, Line.after?, Line.length]

/-! ## What matches record -/

/-- Where a match stands, and what it has recorded up to there. -/
structure Standing where
  position : Nat
  slots : Slots

namespace Standing

/-- Stand some characters further on. -/
def advance (standing : Standing) (count : Nat) : Standing :=
  { standing with position := standing.position + count }

@[simp] theorem advance_zero
    (standing : Standing) :
    standing.advance 0 = standing := rfl

theorem advance_advance
    (standing : Standing)
    (first second : Nat) :
    (standing.advance first).advance second = standing.advance (first + second) :=
  congrArg (Standing.mk · standing.slots) (Nat.add_assoc _ _ _)

/-- Record in a slot where the match stands. -/
def record (standing : Standing) (slot : Nat) : Standing :=
  { standing with slots := standing.slots.set! slot standing.position }

end Standing

/-- Turns are also turns of whatever is left of the places between them. -/
theorem Turns.map
    {α β : Type}
    {turn : α → α → Prop}
    {other : β → β → Prop}
    (change : α → β)
    (maps : ∀ start stop, turn start stop → other (change start) (change stop))
    {count : Nat}
    {start stop : α}
    (turns : Turns turn count start stop) :
    Turns other count (change start) (change stop) := by
  induction count generalizing start with
  | zero => exact congrArg change turns
  | succ count inductionHypothesis =>
      obtain ⟨middle, turned, rest⟩ := turns
      exact ⟨change middle, maps start middle turned, inductionHypothesis rest⟩

namespace Tree

/-- Whether a match of the tree in the line leads from one standing to another. -/
def Traces (line : Line) : Tree → (start stop : Standing) → Prop
  | empty, start, stop => start = stop
  | literal chars, start, stop =>
    line.startsWithAt start.position chars ∧ stop = start.advance chars.length
  | set members, start, stop =>
    (line.after? start.position).any members.containsChar ∧ stop = start.advance 1
  | .look assertion, start, stop => assertion.holdsAt line start.position ∧ start = stop
  | repetition min max _ body, start, stop =>
    ∃ extra, Allows min max extra ∧ Turns (body.Traces line) (min + extra) start stop
  | capture index _ body, start, stop =>
    ∃ inside, body.Traces line (start.record (2 * index)) inside ∧
      stop = inside.record (2 * index + 1)
  | concat first rest, start, stop =>
    ∃ middle, first.Traces line start middle ∧ rest.Traces line middle stop
  | alternation first rest, start, stop =>
    first.Traces line start stop ∨ rest.Traces line start stop

/-- What is traced is a match. -/
theorem Traces.matches
    {line : Line}
    {tree : Tree}
    {start stop : Standing}
    (traces : tree.Traces line start stop) :
    tree.Matches line start.position stop.position := by
  induction tree generalizing start stop with
  | empty => exact congrArg Standing.position traces
  | literal chars => exact ⟨traces.1, congrArg Standing.position traces.2⟩
  | set members => exact ⟨traces.1, congrArg Standing.position traces.2⟩
  | look look => exact ⟨traces.1, congrArg Standing.position traces.2⟩
  | repetition min max greedy body inductionHypothesis =>
      obtain ⟨extra, allowed, turns⟩ := traces
      exact ⟨extra, allowed,
        turns.map Standing.position fun _ _ traced => inductionHypothesis traced⟩
  | capture index name body inductionHypothesis =>
      obtain ⟨inside, traced, rfl⟩ := traces
      have matched := inductionHypothesis traced
      exact matched
  | concat first rest firstHypothesis restHypothesis =>
      obtain ⟨middle, front, back⟩ := traces
      exact ⟨middle.position, firstHypothesis front, restHypothesis back⟩
  | alternation first rest firstHypothesis restHypothesis =>
      exact traces.imp firstHypothesis restHypothesis

/-- Every match can be traced. -/
theorem Matches.exists_traces
    {line : Line}
    {tree : Tree}
    {start stop : Nat}
    (matched : tree.Matches line start stop)
    (slots : Slots) :
    ∃ recorded, tree.Traces line ⟨start, slots⟩ ⟨stop, recorded⟩ := by
  induction tree generalizing start stop slots with
  | empty =>
      obtain rfl : start = stop := matched
      exact ⟨slots, rfl⟩
  | literal chars =>
      obtain ⟨starts, rfl⟩ := matched
      exact ⟨slots, starts, rfl⟩
  | set members =>
      obtain ⟨found, rfl⟩ := matched
      exact ⟨slots, found, rfl⟩
  | look look =>
      obtain ⟨holds, rfl⟩ := matched
      exact ⟨slots, holds, rfl⟩
  | repetition min max greedy body inductionHypothesis =>
      obtain ⟨extra, allowed, turns⟩ := matched
      have traced : ∀ count start slots, Turns (body.Matches line) count start stop →
          ∃ recorded, Turns (body.Traces line) count ⟨start, slots⟩ ⟨stop, recorded⟩ := by
        intro count
        induction count with
        | zero =>
            rintro start slots rfl
            exact ⟨slots, rfl⟩
        | succ count turnsHypothesis =>
            rintro start slots ⟨middle, turned, rest⟩
            obtain ⟨between, first⟩ := inductionHypothesis turned slots
            obtain ⟨recorded, others⟩ := turnsHypothesis middle between rest
            exact ⟨recorded, _, first, others⟩
      obtain ⟨recorded, turned⟩ := traced _ start slots turns
      exact ⟨recorded, extra, allowed, turned⟩
  | capture index name body inductionHypothesis =>
      obtain ⟨recorded, traced⟩ := inductionHypothesis matched (slots.set! (2 * index) start)
      exact ⟨_, _, traced, rfl⟩
  | concat first rest firstHypothesis restHypothesis =>
      obtain ⟨middle, front, back⟩ := matched
      obtain ⟨between, frontTraced⟩ := firstHypothesis front slots
      obtain ⟨recorded, backTraced⟩ := restHypothesis back between
      exact ⟨recorded, _, frontTraced, backTraced⟩
  | alternation first rest firstHypothesis restHypothesis =>
      rcases matched with front | back
      · obtain ⟨recorded, traced⟩ := firstHypothesis front slots
        exact ⟨recorded, .inl traced⟩
      · obtain ⟨recorded, traced⟩ := restHypothesis back slots
        exact ⟨recorded, .inr traced⟩

end Tree

end Linear
end LineExtraction

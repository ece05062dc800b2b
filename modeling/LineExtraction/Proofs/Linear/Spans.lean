import LineExtraction.Proofs.Linear.Exploration
import LineExtraction.Proofs.Linear.Outline

/-!
# Where groups stand

A match goes forward, so a group that it records starts where it stops or before that.
Groups that stand in sequence are recorded once and never again, one behind the other and
inside each other as their outline says.
-/

namespace LineExtraction
namespace Linear

/-! ## Slots -/

/-- Whether a group is recorded between two positions. -/
structure RecordedAt (slots : Slots) (group start stop : Nat) : Prop where
  /-- The slot for its start. -/
  start : slots[2 * group]? = some (some start)
  /-- The slot for its end. -/
  stop : slots[2 * group + 1]? = some (some stop)

/-- Whether the slots of a group are the same before and after. -/
structure SameAt (before after : Slots) (group : Nat) : Prop where
  /-- The slot for its start. -/
  start : after[2 * group]? = before[2 * group]?
  /-- The slot for its end. -/
  stop : after[2 * group + 1]? = before[2 * group + 1]?

theorem SameAt.trans
    {before between after : Slots}
    {group : Nat}
    (first : SameAt before between group)
    (second : SameAt between after group) :
    SameAt before after group :=
  ⟨second.start.trans first.start, second.stop.trans first.stop⟩

theorem RecordedAt.of_same
    {before after : Slots}
    {group start stop : Nat}
    (recorded : RecordedAt before group start stop)
    (same : SameAt before after group) :
    RecordedAt after group start stop :=
  ⟨same.start.trans recorded.start, same.stop.trans recorded.stop⟩

namespace Standing

theorem getElem?_record_self
    (standing : Standing)
    {slot : Nat}
    (room : slot < standing.slots.size) :
    (standing.record slot).slots[slot]? = some (some standing.position) := by
  simp [record, Array.set!_eq_setIfInBounds, room]

theorem getElem?_record_ne
    (standing : Standing)
    {slot other : Nat}
    (different : slot ≠ other) :
    (standing.record slot).slots[other]? = standing.slots[other]? := by
  simp [record, Array.set!_eq_setIfInBounds, different]

@[simp] theorem size_record
    (standing : Standing)
    (slot : Nat) :
    (standing.record slot).slots.size = standing.slots.size := by
  simp [record, Array.set!_eq_setIfInBounds]

/-- Recording one group leaves the others as they are. -/
theorem sameAt_record
    (standing : Standing)
    {slot group : Nat}
    (other : slot / 2 ≠ group) :
    SameAt standing.slots (standing.record slot).slots group :=
  ⟨getElem?_record_ne standing (by omega), getElem?_record_ne standing (by omega)⟩

end Standing

/-! ## What a trace leaves as it is -/

/-- What every turn keeps is kept by all of them. -/
theorem Turns.keeps
    {α : Type}
    {turn : α → α → Prop}
    (kept : α → α → Prop)
    (refl : ∀ place, kept place place)
    (trans : ∀ start middle stop, kept start middle → kept middle stop → kept start stop)
    (each : ∀ start stop, turn start stop → kept start stop)
    {count : Nat}
    {start stop : α}
    (turns : Turns turn count start stop) :
    kept start stop := by
  induction count generalizing start with
  | zero =>
      obtain rfl : start = stop := turns
      exact refl start
  | succ count inductionHypothesis =>
      obtain ⟨middle, turned, rest⟩ := turns
      exact trans start middle stop (each start middle turned) (inductionHypothesis rest)

namespace Tree

variable {line : Line}

theorem Traces.size
    {tree : Tree}
    {start stop : Standing}
    (traces : tree.Traces line start stop) :
    stop.slots.size = start.slots.size := by
  induction tree generalizing start stop with
  | empty => rw [show start = stop from traces]
  | literal chars =>
      rw [traces.2]
      rfl
  | set members =>
      rw [traces.2]
      rfl
  | look look => rw [traces.2]
  | repetition min max greedy body inductionHypothesis =>
      obtain ⟨extra, -, turns⟩ := traces
      have kept := turns.keeps (fun start stop => stop.slots.size = start.slots.size)
        (fun _ => rfl) (fun start middle stop first second => by rw [second, first])
        (fun start stop traced => inductionHypothesis traced)
      exact kept
  | capture index name body inductionHypothesis =>
      obtain ⟨inside, traced, rfl⟩ := traces
      rw [Standing.size_record, inductionHypothesis traced, Standing.size_record]
  | concat first rest firstHypothesis restHypothesis =>
      obtain ⟨middle, front, back⟩ := traces
      exact (restHypothesis back).trans (firstHypothesis front)
  | alternation first rest firstHypothesis restHypothesis =>
      exact traces.elim firstHypothesis restHypothesis

/-- A tree records none but its own groups. -/
theorem Traces.sameAt
    {tree : Tree}
    {start stop : Standing}
    {group : Nat}
    (traces : tree.Traces line start stop)
    (foreign : ∀ capture ∈ tree.captures, capture.1 ≠ group) :
    SameAt start.slots stop.slots group := by
  induction tree generalizing start stop with
  | empty =>
      obtain rfl : start = stop := traces
      exact ⟨rfl, rfl⟩
  | literal chars =>
      obtain ⟨-, rfl⟩ := traces
      exact ⟨rfl, rfl⟩
  | set members =>
      obtain ⟨-, rfl⟩ := traces
      exact ⟨rfl, rfl⟩
  | look look =>
      obtain ⟨-, rfl⟩ := traces
      exact ⟨rfl, rfl⟩
  | repetition min max greedy body inductionHypothesis =>
      obtain ⟨extra, -, turns⟩ := traces
      have kept := turns.keeps (fun start stop => SameAt start.slots stop.slots group)
        (fun _ => ⟨rfl, rfl⟩) (fun start middle stop first second => by exact first.trans second)
        (fun start stop traced => inductionHypothesis traced foreign)
      exact kept
  | capture index name body inductionHypothesis =>
      obtain ⟨inside, traced, rfl⟩ := traces
      have different : index ≠ group := foreign (index, name) List.mem_cons_self
      have body := inductionHypothesis traced fun capture member =>
        foreign capture (List.mem_cons_of_mem _ member)
      exact ((start.sameAt_record (by omega)).trans body).trans (inside.sameAt_record (by omega))
  | concat first rest firstHypothesis restHypothesis =>
      obtain ⟨middle, front, back⟩ := traces
      exact (firstHypothesis front fun capture member =>
        foreign capture (List.mem_append_left _ member)).trans
          (restHypothesis back fun capture member => foreign capture (List.mem_append_right _ member))
  | alternation first rest firstHypothesis restHypothesis =>
      rcases traces with front | back
      · exact firstHypothesis front fun capture member =>
          foreign capture (List.mem_append_left _ member)
      · exact restHypothesis back fun capture member =>
          foreign capture (List.mem_append_right _ member)

theorem Traces.forward
    {tree : Tree}
    {start stop : Standing}
    (inside : start.position ≤ line.length)
    (traces : tree.Traces line start stop) :
    start.position ≤ stop.position ∧ stop.position ≤ line.length :=
  traces.matches.within inside

/-- Whether a group is left as it is or recorded within the bounds of a match. -/
def KeptOrWithin (group : Nat) (start stop : Standing) : Prop :=
  start.position ≤ stop.position ∧
    (SameAt start.slots stop.slots group ∨
      ∃ first last, RecordedAt stop.slots group first last ∧ start.position ≤ first ∧
        first ≤ last ∧ last ≤ stop.position)

theorem KeptOrWithin.trans
    {group : Nat}
    {start middle stop : Standing}
    (front : KeptOrWithin group start middle)
    (back : KeptOrWithin group middle stop) :
    KeptOrWithin group start stop := by
  obtain ⟨forward, front⟩ := front
  obtain ⟨onward, back⟩ := back
  refine ⟨Nat.le_trans forward onward, ?_⟩
  rcases back with same | ⟨first, last, recorded, above, ordered, below⟩
  · rcases front with sameBefore | ⟨first, last, recorded, above, ordered, below⟩
    · exact .inl (sameBefore.trans same)
    · exact .inr ⟨first, last, recorded.of_same same, above, ordered, Nat.le_trans below onward⟩
  · exact .inr ⟨first, last, recorded, Nat.le_trans forward above, ordered, below⟩

/-- Along a match every group starts where it stops or before that, whichever turn recorded
it last. -/
theorem Traces.keptOrWithin
    {tree : Tree}
    {start stop : Standing}
    (traces : tree.Traces line start stop)
    (group : Nat)
    (room : 2 * group + 1 < start.slots.size)
    (inside : start.position ≤ line.length) :
    KeptOrWithin group start stop := by
  have unrecorded : ∀ {start stop : Standing}, start.position ≤ stop.position →
      stop.slots = start.slots → KeptOrWithin group start stop :=
    fun forward same => ⟨forward, .inl (by rw [same]; exact ⟨rfl, rfl⟩)⟩
  have forward := (traces.forward inside).1
  induction tree generalizing start stop with
  | empty => exact unrecorded forward (by rw [show start = stop from traces])
  | literal chars => exact unrecorded forward (by rw [traces.2]; rfl)
  | set members => exact unrecorded forward (by rw [traces.2]; rfl)
  | look look => exact unrecorded forward (by rw [traces.2])
  | repetition min max greedy body inductionHypothesis =>
      obtain ⟨extra, -, turns⟩ := traces
      have kept := turns.keeps
        (fun start stop => 2 * group + 1 < start.slots.size →
          start.position ≤ line.length → 2 * group + 1 < stop.slots.size ∧
            stop.position ≤ line.length ∧ KeptOrWithin group start stop)
        (fun place room inside => ⟨room, inside, unrecorded (Nat.le_refl _) rfl⟩)
        (fun start middle stop front back room inside => by
          obtain ⟨middleRoom, middleInside, first⟩ := front room inside
          obtain ⟨stopRoom, stopInside, second⟩ := back middleRoom middleInside
          exact ⟨stopRoom, stopInside, first.trans second⟩)
        (fun start stop traced room inside => by
          obtain ⟨onward, stopInside⟩ := traced.forward inside
          exact ⟨traced.size ▸ room, stopInside, inductionHypothesis traced room inside onward⟩)
      exact (kept room inside).2.2
  | capture index name body inductionHypothesis =>
      obtain ⟨inner, traced, rfl⟩ := traces
      have body := inductionHypothesis traced (by simpa using room) inside forward
      by_cases same : index = group
      · subst same
        have innerRoom : 2 * index + 1 < inner.slots.size := by
          rw [traced.size]
          simpa using room
        have stopped := inner.getElem?_record_self innerRoom
        have kept := inner.getElem?_record_ne (show 2 * index + 1 ≠ 2 * index by omega)
        rcases body.2 with unchanged | ⟨first, last, recorded, above, ordered, below⟩
        · have started := start.getElem?_record_self (show 2 * index < start.slots.size by omega)
          exact ⟨forward, .inr ⟨start.position, inner.position,
            ⟨kept.trans (unchanged.start.trans started), stopped⟩, Nat.le_refl _, body.1,
            Nat.le_refl _⟩⟩
        · exact ⟨forward, .inr ⟨first, inner.position, ⟨kept.trans recorded.start, stopped⟩, above,
            Nat.le_trans ordered below, Nat.le_refl _⟩⟩
      · have opened : KeptOrWithin group start (start.record (2 * index)) :=
          ⟨Nat.le_refl _, .inl (start.sameAt_record (by omega))⟩
        have closed : KeptOrWithin group inner (inner.record (2 * index + 1)) :=
          ⟨Nat.le_refl _, .inl (inner.sameAt_record (by omega))⟩
        exact (opened.trans body).trans closed
  | concat first rest firstHypothesis restHypothesis =>
      obtain ⟨middle, front, back⟩ := traces
      obtain ⟨onward, middleInside⟩ := front.forward inside
      exact (firstHypothesis front room inside onward).trans
        (restHypothesis back (front.size ▸ room) middleInside (back.forward middleInside).1)
  | alternation first rest firstHypothesis restHypothesis =>
      rcases traces with front | back
      · exact firstHypothesis front room inside forward
      · exact restHypothesis back room inside forward

end Tree

/-! ## Traces in sequence -/

/-- Whether matches of trees in sequence lead from one standing to another. -/
def SequenceTraces (line : Line) : List Tree → (start stop : Standing) → Prop
  | [], start, stop => start = stop
  | tree :: trees, start, stop =>
    ∃ middle, tree.Traces line start middle ∧ SequenceTraces line trees middle stop

theorem Tree.Traces.parts
    {line : Line}
    {tree : Tree}
    {start stop : Standing}
    (traces : tree.Traces line start stop) :
    SequenceTraces line tree.parts start stop := by
  induction tree generalizing start with
  | empty => exact traces
  | concat first rest _ restHypothesis =>
      obtain ⟨middle, front, back⟩ := traces
      exact ⟨middle, front, restHypothesis back⟩
  | _ => exact ⟨stop, traces, rfl⟩

theorem SequenceTraces.sameAt
    {line : Line}
    {trees : List Tree}
    {start stop : Standing}
    {group : Nat}
    (traces : SequenceTraces line trees start stop)
    (foreign : ∀ capture ∈ trees.flatMap Tree.captures, capture.1 ≠ group) :
    SameAt start.slots stop.slots group := by
  induction trees generalizing start with
  | nil =>
      obtain rfl : start = stop := traces
      exact ⟨rfl, rfl⟩
  | cons tree trees inductionHypothesis =>
      obtain ⟨middle, front, back⟩ := traces
      exact (front.sameAt fun capture member => foreign capture (List.mem_append_left _ member)).trans
        (inductionHypothesis back fun capture member =>
          foreign capture (List.mem_append_right _ member))

/-! ## Spans of outlines -/

namespace Outline

/-- Whether the groups of an outline are recorded one behind the other between two
positions, and the groups inside each of them between its start and its end. -/
def Spans (slots : Slots) : Outline → (start stop : Nat) → Prop
  | nil, start, stop => start ≤ stop
  | group capture inner rest, start, stop =>
    ∃ first last, start ≤ first ∧ RecordedAt slots capture.1 first last ∧
      inner.Spans slots first last ∧ rest.Spans slots last stop

variable {slots : Slots}

theorem Spans.le
    {outline : Outline}
    {start stop : Nat}
    (spans : outline.Spans slots start stop) :
    start ≤ stop := by
  induction outline generalizing start stop with
  | nil => exact spans
  | group capture inner rest innerHypothesis restHypothesis =>
      obtain ⟨first, last, above, -, inside, behind⟩ := spans
      exact Nat.le_trans above (Nat.le_trans (innerHypothesis inside) (restHypothesis behind))

theorem Spans.of_le
    {outline : Outline}
    {earlier start stop : Nat}
    (spans : outline.Spans slots start stop)
    (before : earlier ≤ start) :
    outline.Spans slots earlier stop := by
  cases outline with
  | nil => exact Nat.le_trans before spans
  | group capture inner rest =>
      obtain ⟨first, last, above, others⟩ := spans
      exact ⟨first, last, Nat.le_trans before above, others⟩

theorem Spans.of_same
    {outline : Outline}
    {after : Slots}
    {start stop : Nat}
    (spans : outline.Spans slots start stop)
    (same : ∀ group ∈ outline.numbers, SameAt slots after group) :
    outline.Spans after start stop := by
  induction outline generalizing start stop with
  | nil => exact spans
  | group capture inner rest innerHypothesis restHypothesis =>
      obtain ⟨first, last, above, recorded, inside, behind⟩ := spans
      simp only [numbers, captures, List.map_cons, List.map_append, List.mem_cons,
        List.mem_append] at same
      exact ⟨first, last, above, recorded.of_same (same capture.1 (.inl rfl)),
        innerHypothesis inside fun group member => same group (.inr (.inl member)),
        restHypothesis behind fun group member => same group (.inr (.inr member))⟩

end Outline

/-- Along a match of trees in sequence, the groups of their outline are recorded as they
stand. -/
theorem Shows.spans
    {line : Line}
    {watched : Nat → Prop}
    {trees : List Tree}
    {outline : Outline}
    {start stop : Standing}
    (shows' : Shows watched trees outline)
    (traces : SequenceTraces line trees start stop)
    (distinct : outline.numbers.Nodup)
    (isWatched : ∀ group ∈ outline.numbers, watched group)
    (room : ∀ group ∈ outline.numbers, 2 * group + 1 < start.slots.size)
    (inside : start.position ≤ line.length) :
    outline.Spans stop.slots start.position stop.position := by
  induction shows' generalizing start stop with
  | nil =>
      obtain rfl : start = stop := traces
      exact Nat.le_refl _
  | other unwatched others inductionHypothesis =>
      obtain ⟨middle, front, back⟩ := traces
      obtain ⟨forward, middleInside⟩ := front.forward inside
      exact (inductionHypothesis back distinct isWatched (front.size ▸ room) middleInside).of_le
        forward
  | @group index name body trees inner rest innerShows restShows innerHypothesis restHypothesis =>
      obtain ⟨_, ⟨inmost, traced, rfl⟩, back⟩ := traces
      simp only [Outline.numbers, Outline.captures, List.map_cons, List.map_append,
        List.mem_cons, List.mem_append] at isWatched room
      simp only [Outline.numbers, Outline.captures, List.map_cons, List.map_append,
        List.nodup_cons, List.nodup_append, List.mem_append, not_or] at distinct
      obtain ⟨⟨notInner, notRest⟩, innerDistinct, restDistinct, apart⟩ := distinct
      have indexRoom := room index (.inl rfl)
      have innerRoom : 2 * index + 1 < inmost.slots.size := by
        rw [traced.size]
        simpa using indexRoom
      -- What stands behind the group records none of the groups that have been recorded.
      have leaves : ∀ group, watched group → group ∉ rest.numbers →
          SameAt (inmost.record (2 * index + 1)).slots stop.slots group := by
        intro group groupWatched foreign
        refine back.sameAt fun capture member same => foreign ?_
        subst same
        exact List.mem_map_of_mem (restShows.mem_captures member groupWatched)
      have opened : SameAt (start.record (2 * index)).slots inmost.slots index := by
        refine traced.sameAt fun capture member same => notInner ?_
        subst same
        rw [← Tree.captures_parts] at member
        exact List.mem_map_of_mem (innerShows.mem_captures member (isWatched _ (.inl rfl)))
      have recorded : RecordedAt (inmost.record (2 * index + 1)).slots index start.position
          inmost.position := by
        refine ⟨?_, inmost.getElem?_record_self innerRoom⟩
        rw [inmost.getElem?_record_ne (by omega), opened.start]
        exact start.getElem?_record_self (by omega)
      have started : (start.record (2 * index)).position ≤ line.length := inside
      have innerSpans := innerHypothesis traced.parts innerDistinct
        (fun group member => isWatched group (.inr (.inl member)))
        (fun group member => by simpa using room group (.inr (.inl member))) started
      obtain ⟨-, innerInside⟩ := traced.forward started
      have restSpans := restHypothesis back restDistinct
        (fun group member => isWatched group (.inr (.inr member)))
        (fun group member => by
          simpa [traced.size] using room group (.inr (.inr member))) innerInside
      refine ⟨start.position, inmost.position, Nat.le_refl _,
        recorded.of_same (leaves index (isWatched index (.inl rfl)) notRest),
        innerSpans.of_same fun group member => ?_, restSpans⟩
      have different : index ≠ group := by
        rintro rfl
        exact notInner member
      exact (inmost.sameAt_record (by omega)).trans
        (leaves group (isWatched group (.inr (.inl member)))
          fun inRest => apart group member group inRest rfl)

/-! ## What a search returns -/

section

variable {line : Line} {tree : Tree} {slotCount : Nat} {slots : Slots}

/-- A group that a search returns starts where it stops or before that, inside the line. -/
theorem ordered_of_search
    {group first last : Nat}
    (found : search (.ofTree tree) slotCount line = some slots)
    (recorded : RecordedAt slots group first last) :
    first ≤ last ∧ last ≤ line.length := by
  obtain ⟨start, inside, stop, traces, rfl⟩ := exists_traces_of_search found
  have room : 2 * group + 1 < (Array.replicate slotCount (none : Option Nat)).size := by
    rw [← traces.size]
    exact (Array.getElem?_eq_some_iff.mp recorded.stop).1
  obtain ⟨-, kept | ⟨from', to', within, -, ordered, below⟩⟩ :=
    traces.keptOrWithin group room inside
  · have unrecorded := kept.stop.symm.trans recorded.stop
    rw [Array.getElem?_eq_getElem room, Array.getElem_replicate] at unrecorded
    cases Option.some.inj unrecorded
  · obtain rfl := Option.some.inj (Option.some.inj (within.start.symm.trans recorded.start))
    obtain rfl := Option.some.inj (Option.some.inj (within.stop.symm.trans recorded.stop))
    exact ⟨ordered, Nat.le_trans below (traces.forward inside).2⟩

/-- A search returns the groups of an outline as they stand. -/
theorem exists_spans_of_search
    {watched : Nat → Prop}
    {outline : Outline}
    (found : search (.ofTree tree) slotCount line = some slots)
    (shows' : Shows watched tree.parts outline)
    (distinct : outline.numbers.Nodup)
    (isWatched : ∀ group ∈ outline.numbers, watched group)
    (positive : ∀ group ∈ outline.numbers, 0 < group)
    (room : ∀ group ∈ outline.numbers, 2 * group + 1 < slotCount) :
    ∃ start stop, outline.Spans slots start stop := by
  obtain ⟨start, inside, _, ⟨inmost, traces, rfl⟩, rfl⟩ := exists_traces_of_search found
  have spans := shows'.spans traces.parts distinct isWatched
    (fun group member => by simpa using room group member) inside
  refine ⟨_, _, spans.of_same fun group member => inmost.sameAt_record ?_⟩
  have := positive group member
  omega

end

end Linear
end LineExtraction

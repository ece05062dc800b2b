import LineExtraction.Proofs.Extraction.Groups
import LineExtraction.Proofs.Linear.Spans

/-!
# How expressions stand towards each other

One expression of a definition stands inside another one, or closes before another one
opens.  The groups that are opened for them are recorded in the same way.
-/

namespace LineExtraction

open Linear

/-! ## How expressions stand -/

namespace Piece

/-- The names of the expressions in pieces in the order in which they open. -/
def fieldNamesOf (pieces : List Piece) : List String :=
  (expressionsOf pieces).map (·.1)

mutual

/-- Whether one expression in a piece stands inside another one. -/
def Encloses (outer inner : String) : Piece → Prop
  | text _ _ => False
  | pattern _ _ => False
  | expression name parts _ =>
    (name = outer ∧ inner ∈ fieldNamesOf parts) ∨ EnclosesIn outer inner parts

/-- Whether one expression in pieces stands inside another one. -/
def EnclosesIn (outer inner : String) : List Piece → Prop
  | [] => False
  | piece :: pieces => piece.Encloses outer inner ∨ EnclosesIn outer inner pieces

end

mutual

/-- Whether one expression in a piece closes before another one opens. -/
def Precedes (first second : String) : Piece → Prop
  | text _ _ => False
  | pattern _ _ => False
  | expression _ parts _ => PrecedesIn first second parts

/-- Whether one expression in pieces closes before another one opens. -/
def PrecedesIn (first second : String) : List Piece → Prop
  | [] => False
  | piece :: pieces =>
    piece.Precedes first second ∨
      (first ∈ fieldNamesOf [piece] ∧ second ∈ fieldNamesOf pieces) ∨
      PrecedesIn first second pieces

end

/-! ## Where expressions are recorded -/

/-- The expressions of a piece with the numbers of the groups that are opened for them. -/
def entries (backend : Backend) (ordinal before : Nat) (piece : Piece) : List (String × Nat) :=
  (piece.expressions.map (·.1)).zip (piece.outline (.extraction backend) ordinal before).numbers

/-- The expressions of pieces with the numbers of the groups that are opened for them. -/
def entriesOf (backend : Backend) (ordinal before : Nat) (pieces : List Piece) :
    List (String × Nat) :=
  (fieldNamesOf pieces).zip (outlineOf (.extraction backend) ordinal before pieces).numbers

theorem length_numbers_outline
    (backend : Backend)
    (ordinal before : Nat)
    (piece : Piece) :
    (piece.outline (.extraction backend) ordinal before).numbers.length =
      piece.expressions.length := by
  have names := congrArg List.length (names_outline backend ordinal before piece)
  simpa [Outline.numbers] using names

theorem entriesOf_cons
    (backend : Backend)
    (ordinal before : Nat)
    (piece : Piece)
    (pieces : List Piece) :
    entriesOf backend ordinal before (piece :: pieces) =
      piece.entries backend ordinal before ++
        entriesOf backend (ordinal + piece.expressions.length)
          ((piece.passage (.extraction backend) ordinal before).captures + before) pieces := by
  rw [entriesOf, fieldNamesOf, expressionsOf, List.map_append, outlineOf, Outline.numbers_append,
    List.zip_append]
  · rfl
  · rw [List.length_map, length_numbers_outline]

theorem entries_expression
    (backend : Backend)
    (ordinal before : Nat)
    (name : String)
    (parts : List Piece)
    (location : Location) :
    (expression name parts location).entries backend ordinal before =
      (name, before + 1) :: entriesOf backend (ordinal + 1) (1 + before) parts := by
  simp only [entries, expressions, outline, Writing.captures, Outline.numbers, Outline.captures,
    List.append_nil, List.map_cons, List.zip_cons_cons]
  rfl

end Piece

/-- Whether an expression is recorded between two positions, where `entries` are the numbers
of the expressions' groups. -/
def Placed (slots : Slots) (entries : List (String × Nat)) (name : String) (start stop : Nat) :
    Prop :=
  ∃ group, (name, group) ∈ entries ∧ RecordedAt slots group start stop

theorem Placed.mono
    {slots : Slots}
    {entries more : List (String × Nat)}
    {name : String}
    {start stop : Nat}
    (placed : Placed slots entries name start stop)
    (among : entries ⊆ more) :
    Placed slots more name start stop := by
  obtain ⟨group, member, recorded⟩ := placed
  exact ⟨group, among member, recorded⟩

/-- A group of an outline is recorded between the ends of the outline. -/
theorem Linear.Outline.Spans.exists_recordedAt
    {slots : Slots}
    {outline : Outline}
    {start stop group : Nat}
    (spans : outline.Spans slots start stop)
    (member : group ∈ outline.numbers) :
    ∃ first last, RecordedAt slots group first last ∧ start ≤ first ∧ last ≤ stop := by
  induction outline generalizing start stop with
  | nil => exact absurd member List.not_mem_nil
  | group capture inner rest innerHypothesis restHypothesis =>
      obtain ⟨first, last, above, recorded, inside, behind⟩ := spans
      simp only [numbers, captures, List.map_cons, List.map_append, List.mem_cons,
        List.mem_append] at member
      rcases member with rfl | inInner | inRest
      · exact ⟨first, last, recorded, above, behind.le⟩
      · obtain ⟨opens, closes, found, after, before⟩ := innerHypothesis inside inInner
        exact ⟨opens, closes, found, Nat.le_trans above after, Nat.le_trans before behind.le⟩
      · obtain ⟨opens, closes, found, after, before⟩ := restHypothesis behind inRest
        exact ⟨opens, closes, found,
          Nat.le_trans above (Nat.le_trans inside.le after), before⟩

theorem Linear.Outline.spans_append_iff
    {slots : Slots}
    {front back : Outline}
    {start stop : Nat} :
    (front.append back).Spans slots start stop ↔
      ∃ middle, front.Spans slots start middle ∧ back.Spans slots middle stop := by
  constructor
  · intro spans
    induction front generalizing start with
    | nil => exact ⟨start, Nat.le_refl start, spans⟩
    | group capture inner rest _ restHypothesis =>
        obtain ⟨first, last, above, recorded, inside, behind⟩ := spans
        obtain ⟨middle, restSpans, backSpans⟩ := restHypothesis behind
        exact ⟨middle, ⟨first, last, above, recorded, inside, restSpans⟩, backSpans⟩
  · rintro ⟨middle, frontSpans, backSpans⟩
    induction front generalizing start with
    | nil => exact backSpans.of_le frontSpans
    | group capture inner rest _ restHypothesis =>
        obtain ⟨first, last, above, recorded, inside, behind⟩ := frontSpans
        exact ⟨first, last, above, recorded, inside, restHypothesis behind⟩

namespace Piece

section

variable {backend : Backend} {slots : Slots}

/-- Every expression of an outline is recorded between the ends of the outline. -/
theorem exists_placed
    {names : List String}
    {outline : Outline}
    {name : String}
    {start stop : Nat}
    (fits : names.length = outline.numbers.length)
    (spans : outline.Spans slots start stop)
    (member : name ∈ names) :
    ∃ first last, Placed slots (names.zip outline.numbers) name first last ∧
      start ≤ first ∧ last ≤ stop := by
  obtain ⟨index, inside, rfl⟩ := List.getElem_of_mem member
  have listed : (names[index], outline.numbers[index]) ∈ names.zip outline.numbers := by
    rw [← List.getElem_zip (h := by rw [List.length_zip]; omega)]
    exact List.getElem_mem _
  obtain ⟨first, last, recorded, above, below⟩ :=
    spans.exists_recordedAt (List.getElem_mem (fits ▸ inside))
  exact ⟨first, last, ⟨_, listed, recorded⟩, above, below⟩

theorem exists_placed_entriesOf
    {ordinal before start stop : Nat}
    {pieces : List Piece}
    {name : String}
    (spans : (outlineOf (.extraction backend) ordinal before pieces).Spans slots start stop)
    (member : name ∈ fieldNamesOf pieces) :
    ∃ first last, Placed slots (entriesOf backend ordinal before pieces) name first last ∧
      start ≤ first ∧ last ≤ stop :=
  exists_placed (by rw [fieldNamesOf, List.length_map, length_numbers_outlineOf]) spans member

mutual

theorem placed_of_encloses
    {outer inner : String}
    {ordinal before start stop : Nat}
    (piece : Piece)
    (encloses : piece.Encloses outer inner)
    (spans : (piece.outline (.extraction backend) ordinal before).Spans slots start stop) :
    ∃ outerFirst outerLast innerFirst innerLast,
      Placed slots (piece.entries backend ordinal before) outer outerFirst outerLast ∧
      Placed slots (piece.entries backend ordinal before) inner innerFirst innerLast ∧
      outerFirst ≤ innerFirst ∧ innerLast ≤ outerLast := by
  cases piece with
  | text content location => exact encloses.elim
  | pattern source location => exact encloses.elim
  | expression name parts location =>
      rw [entries_expression]
      obtain ⟨first, last, -, recorded, inside, -⟩ := spans
      rcases encloses with ⟨rfl, member⟩ | deeper
      · obtain ⟨innerFirst, innerLast, placed, above, below⟩ :=
          exists_placed_entriesOf inside member
        exact ⟨first, last, innerFirst, innerLast, ⟨_, List.mem_cons_self, recorded⟩,
          placed.mono (List.subset_cons_self _ _), above, below⟩
      · obtain ⟨_, _, _, _, outerPlaced, innerPlaced, ordered⟩ :=
          placed_of_enclosesIn parts deeper inside
        exact ⟨_, _, _, _, outerPlaced.mono (List.subset_cons_self _ _),
          innerPlaced.mono (List.subset_cons_self _ _), ordered⟩

/-- An expression that stands inside another one is recorded inside it. -/
theorem placed_of_enclosesIn
    {outer inner : String}
    {ordinal before start stop : Nat}
    (pieces : List Piece)
    (encloses : EnclosesIn outer inner pieces)
    (spans : (outlineOf (.extraction backend) ordinal before pieces).Spans slots start stop) :
    ∃ outerFirst outerLast innerFirst innerLast,
      Placed slots (entriesOf backend ordinal before pieces) outer outerFirst outerLast ∧
      Placed slots (entriesOf backend ordinal before pieces) inner innerFirst innerLast ∧
      outerFirst ≤ innerFirst ∧ innerLast ≤ outerLast := by
  cases pieces with
  | nil => exact encloses.elim
  | cons piece pieces =>
      rw [entriesOf_cons]
      rw [outlineOf] at spans
      obtain ⟨middle, firstSpans, othersSpan⟩ := Outline.spans_append_iff.mp spans
      rcases encloses with inFirst | inOthers
      · obtain ⟨_, _, _, _, outerPlaced, innerPlaced, ordered⟩ :=
          placed_of_encloses piece inFirst firstSpans
        exact ⟨_, _, _, _, outerPlaced.mono (List.subset_append_left _ _),
          innerPlaced.mono (List.subset_append_left _ _), ordered⟩
      · obtain ⟨_, _, _, _, outerPlaced, innerPlaced, ordered⟩ :=
          placed_of_enclosesIn pieces inOthers othersSpan
        exact ⟨_, _, _, _, outerPlaced.mono (List.subset_append_right _ _),
          innerPlaced.mono (List.subset_append_right _ _), ordered⟩

end

mutual

theorem placed_of_precedes
    {first second : String}
    {ordinal before start stop : Nat}
    (piece : Piece)
    (precedes : piece.Precedes first second)
    (spans : (piece.outline (.extraction backend) ordinal before).Spans slots start stop) :
    ∃ firstStart firstStop secondStart secondStop,
      Placed slots (piece.entries backend ordinal before) first firstStart firstStop ∧
      Placed slots (piece.entries backend ordinal before) second secondStart secondStop ∧
      firstStop ≤ secondStart := by
  cases piece with
  | text content location => exact precedes.elim
  | pattern source location => exact precedes.elim
  | expression name parts location =>
      rw [entries_expression]
      obtain ⟨_, _, -, -, inside, -⟩ := spans
      obtain ⟨_, _, _, _, firstPlaced, secondPlaced, ordered⟩ :=
        placed_of_precedesIn parts precedes inside
      exact ⟨_, _, _, _, firstPlaced.mono (List.subset_cons_self _ _),
        secondPlaced.mono (List.subset_cons_self _ _), ordered⟩

/-- An expression that closes before another one opens is recorded in front of it. -/
theorem placed_of_precedesIn
    {first second : String}
    {ordinal before start stop : Nat}
    (pieces : List Piece)
    (precedes : PrecedesIn first second pieces)
    (spans : (outlineOf (.extraction backend) ordinal before pieces).Spans slots start stop) :
    ∃ firstStart firstStop secondStart secondStop,
      Placed slots (entriesOf backend ordinal before pieces) first firstStart firstStop ∧
      Placed slots (entriesOf backend ordinal before pieces) second secondStart secondStop ∧
      firstStop ≤ secondStart := by
  cases pieces with
  | nil => exact precedes.elim
  | cons piece pieces =>
      rw [entriesOf_cons]
      rw [outlineOf] at spans
      obtain ⟨middle, firstSpans, othersSpan⟩ := Outline.spans_append_iff.mp spans
      rcases precedes with inFirst | ⟨inFirst, inOthers⟩ | inOthers
      · obtain ⟨_, _, _, _, firstPlaced, secondPlaced, ordered⟩ :=
          placed_of_precedes piece inFirst firstSpans
        exact ⟨_, _, _, _, firstPlaced.mono (List.subset_append_left _ _),
          secondPlaced.mono (List.subset_append_left _ _), ordered⟩
      · rw [fieldNamesOf, expressionsOf, expressionsOf, List.append_nil] at inFirst
        obtain ⟨_, _, firstPlaced, -, below⟩ :=
          exists_placed (by rw [List.length_map, length_numbers_outline]) firstSpans inFirst
        obtain ⟨_, _, secondPlaced, above, -⟩ := exists_placed_entriesOf othersSpan inOthers
        exact ⟨_, _, _, _, firstPlaced.mono (List.subset_append_left _ _),
          secondPlaced.mono (List.subset_append_right _ _), Nat.le_trans below above⟩
      · obtain ⟨_, _, _, _, firstPlaced, secondPlaced, ordered⟩ :=
          placed_of_precedesIn pieces inOthers othersSpan
        exact ⟨_, _, _, _, firstPlaced.mono (List.subset_append_right _ _),
          secondPlaced.mono (List.subset_append_right _ _), ordered⟩

end

end

end Piece

end LineExtraction

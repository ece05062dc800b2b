import LineExtraction.Proofs.Extraction.Composition
import LineExtraction.Proofs.Extraction.Dispatch

/-!
# Lines cut into segments

A line is cut as pieces when it is made of consecutive segments, one for each piece in
order, and the segment of an expression is itself cut among its parts.  Where the
fragments of a definition have parses of their own, its anchored pattern matches exactly
the lines that are cut in this way, with each pattern matching its segment wrapped but on
its own.
-/

namespace LineExtraction

open Linear
open Pattern (isLinearMeta wrapChars)

/-- Whether a pattern on its own matches from one place of a line to another. -/
def Linear.MatchesAlone (pattern : List Char) (line : Line) (start stop : Nat) : Prop :=
  ∃ tree, Regex.treeOf (String.ofList pattern) = .ok tree ∧ tree.Matches line start stop

/-- A pattern with a parse matches what the parse is lowered to. -/
theorem Linear.matchesAlone_iff_of_parse
    {pattern : List Char}
    {ast : Ast}
    (parsed : parse pattern = .ok ast)
    (line : Line)
    (start stop : Nat) :
    MatchesAlone pattern line start stop ↔
      ∃ lowered, lower .default ast = .ok lowered ∧ Sequence line lowered.parts start stop := by
  have bounded := bounded_parse parsed
  have parsed : parse (String.ofList pattern).toList = .ok ast :=
    String.toList_ofList.symm ▸ parsed
  constructor
  · rintro ⟨tree, found, matched⟩
    obtain ⟨_, sameParsed, found⟩ := Except.bind_eq_ok_iff.mp found
    obtain rfl := Except.ok.inj (parsed.symm.trans sameParsed)
    obtain ⟨lowered, loweredFound, made⟩ := Except.bind_eq_ok_iff.mp found
    obtain rfl := Except.ok.inj made
    have sound := sound_lower bounded loweredFound
    exact ⟨lowered, loweredFound, (sound.agrees ..).mpr ((sound.matches_tree ..).mp matched)⟩
  · rintro ⟨lowered, loweredFound, matched⟩
    have sound := sound_lower bounded loweredFound
    exact ⟨lowered.tree, Except.bind_eq_ok_iff.mpr
      ⟨ast, parsed, Except.bind_eq_ok_iff.mpr ⟨lowered, loweredFound, rfl⟩⟩,
      (sound.matches_tree ..).mpr ((sound.agrees ..).mp matched)⟩

/-- A pattern that is parsed as a plain group between the two ends of the line has a match in a
line exactly when what stands in the group matches the whole line. -/
theorem Linear.hasMatch_iff_of_parse
    {pattern : String}
    {body : Ast}
    {tree : Tree}
    (parsed : parse pattern.toList = .ok (.ofParts
      [.assertion .startText, .group (.plain []) body, .assertion .endText]))
    (found : Regex.treeOf pattern = .ok tree) :
    ∃ inner, lower .default body = .ok inner ∧
      ∀ line, HasMatch pattern line ↔ Sequence line inner.parts 0 line.length := by
  obtain ⟨ast, sameParsed, lowers⟩ := Except.bind_eq_ok_iff.mp found
  obtain rfl := Except.ok.inj (parsed.symm.trans sameParsed)
  obtain ⟨lowered, loweredFound, made⟩ := Except.bind_eq_ok_iff.mp lowers
  obtain rfl := Except.ok.inj made
  have bounded := bounded_parse parsed
  have bodyBounded : body.Bounded := bounded.2.1
  have sound := sound_lower bounded loweredFound
  obtain ⟨_, rest, ⟨⟩, restFound, -, agrees⟩ := lower_ofParts_cons loweredFound
  obtain ⟨group, last, groupFound, lastFound, -, restAgrees⟩ := lower_ofParts_cons restFound
  obtain ⟨inner, innerFound, flags, groupAgrees⟩ :=
    lower_group (show (GroupKind.plain []).SetsNothing from rfl) bodyBounded groupFound
  obtain rfl := Except.ok.inj lastFound
  have means : ∀ line start stop, lowered.tree.Matches line start stop ↔
      Look.startText.holdsAt line start ∧ Sequence line inner.parts start stop ∧
        Look.endText.holdsAt line stop := by
    intro line start stop
    rw [sound.matches_tree, ← sound.agrees, agrees, sequence_append]
    simp only [restAgrees, sequence_append, groupAgrees, Lowered.single, sequence_singleton,
      Tree.Matches, lookOf]
    constructor
    · rintro ⟨_, ⟨starts, rfl⟩, _, isInside, ends, rfl⟩
      exact ⟨starts, isInside, ends⟩
    · rintro ⟨starts, isInside, ends⟩
      exact ⟨start, ⟨starts, rfl⟩, stop, isInside, ends, rfl⟩
  refine ⟨inner, innerFound, fun line => ⟨?_, fun isInside => ?_⟩⟩
  · rintro ⟨other, sameFound, start, inside, stop, matched⟩
    obtain rfl := Except.ok.inj (found.symm.trans sameFound)
    obtain ⟨starts, isInside, ends⟩ := (means line start stop).mp matched
    obtain rfl := (Look.holdsAt_startText_iff inside).mp starts
    obtain rfl := Nat.le_antisymm (Look.holdsAt_endText_iff.mp ends) (matched.within inside).2
    exact isInside
  · exact ⟨lowered.tree, found, 0, Nat.zero_le _, line.length,
      (means line 0 line.length).mpr ⟨rfl, isInside, Look.holdsAt_endText_iff.mpr (Nat.le_refl _)⟩⟩

namespace Piece

/-- What patterns match: from a pattern to the segments of a line. -/
abbrev Fits := String → Line → Nat → Nat → Prop

mutual

/-- Whether a segment of a line is cut as a piece, if patterns match as `fits` says. -/
def Cuts (fits : Fits) (line : Line) : Piece → (start stop : Nat) → Prop
  | text content _, start, stop =>
    line.startsWithAt start content.toList ∧ stop = start + content.toList.length
  | pattern source _, start, stop => fits source line start stop
  | expression _ parts _, start, stop => CutsAll fits line parts start stop

/-- Whether a segment of a line is cut as pieces, one behind the other. -/
def CutsAll (fits : Fits) (line : Line) : List Piece → (start stop : Nat) → Prop
  | [], start, stop => start = stop
  | piece :: pieces, start, stop =>
    ∃ middle, piece.Cuts fits line start middle ∧ CutsAll fits line pieces middle stop

end

mutual

theorem cuts_congr
    {fits other : Fits}
    {line : Line}
    (piece : Piece)
    (same : ∀ source ∈ piece.patterns, ∀ start stop,
      fits source.1 line start stop ↔ other source.1 line start stop)
    (start stop : Nat) :
    piece.Cuts fits line start stop ↔ piece.Cuts other line start stop := by
  cases piece with
  | text content location => exact Iff.rfl
  | pattern source location => exact same (source, location) List.mem_cons_self start stop
  | expression label parts location => exact cutsAll_congr parts same start stop

/-- Patterns that match the same segments cut in the same way. -/
theorem cutsAll_congr
    {fits other : Fits}
    {line : Line}
    (pieces : List Piece)
    (same : ∀ source ∈ patternsOf pieces, ∀ start stop,
      fits source.1 line start stop ↔ other source.1 line start stop)
    (start stop : Nat) :
    CutsAll fits line pieces start stop ↔ CutsAll other line pieces start stop := by
  cases pieces with
  | nil => exact Iff.rfl
  | cons piece pieces =>
      have first := cuts_congr piece (fun source member => same source (List.mem_append_left _ member))
      have others := cutsAll_congr pieces
        (fun source member => same source (List.mem_append_right _ member))
      simp only [CutsAll, first, others]

end

mutual

theorem exists_fits_of_cuts
    {fits : Fits}
    {line : Line}
    {start stop : Nat}
    (piece : Piece)
    (cuts : piece.Cuts fits line start stop) :
    ∀ source ∈ piece.patterns, ∃ start stop, fits source.1 line start stop := by
  cases piece with
  | text content location => exact nofun
  | pattern source location =>
      intro other member
      obtain rfl : other = (source, location) := List.mem_singleton.mp member
      exact ⟨start, stop, cuts⟩
  | expression label parts location => exact exists_fits_of_cutsAll parts cuts

/-- Where a segment is cut as pieces, every pattern among them matches somewhere. -/
theorem exists_fits_of_cutsAll
    {fits : Fits}
    {line : Line}
    {start stop : Nat}
    (pieces : List Piece)
    (cuts : CutsAll fits line pieces start stop) :
    ∀ source ∈ patternsOf pieces, ∃ start stop, fits source.1 line start stop := by
  cases pieces with
  | nil => exact nofun
  | cons piece pieces =>
      obtain ⟨middle, first, others⟩ := cuts
      intro source member
      rcases List.mem_append.mp member with inFirst | inOthers
      · exact exists_fits_of_cuts piece first source inFirst
      · exact exists_fits_of_cutsAll pieces others source inOthers

end

/-! ## What the parts of a composed pattern match -/

/-- What a wrapped fragment matches on its own. -/
def wrappedFits (writing : Writing) : Fits := fun source =>
  MatchesAlone (wrapChars (writing.fragment source))

/-- A fragment that stands as a group in a longer pattern matches there what it matches
wrapped on its own. -/
theorem sequence_of_wrapped
    {fragment : List Char}
    {offset : Nat}
    {body : Ast}
    {lowered : Lowered}
    (parsed : parse (wrapChars fragment) = .ok (.group (.plain []) body))
    (bounded : (body.shift offset).Bounded)
    (found : lower .default (.group (.plain []) (body.shift offset)) = .ok lowered) :
    lowered.flags = .default ∧
      ∀ line start stop, Sequence line lowered.parts start stop ↔
        MatchesAlone (wrapChars fragment) line start stop := by
  have ownBounded := bounded_parse parsed
  have placedBounded : (Ast.group (.plain []) (body.shift offset)).Bounded := bounded
  have same : (Ast.group (.plain []) (body.shift offset)).erase =
      (Ast.group (.plain []) body).erase := by
    rw [Ast.erase, Ast.erase, Ast.erase_shift]
  obtain ⟨own, ownFound, alike⟩ := lower_of_erase_eq same placedBounded ownBounded found
  obtain ⟨-, -, flags, -⟩ :=
    lower_group (show (GroupKind.plain []).SetsNothing from rfl) bounded found
  refine ⟨flags, fun line start stop => ?_⟩
  rw [matchesAlone_iff_of_parse parsed, (sound_lower placedBounded found).agrees,
    ← alike.branches, ← (sound_lower ownBounded ownFound).agrees]
  constructor
  · exact fun matched => ⟨own, ownFound, matched⟩
  · rintro ⟨other, sameFound, matched⟩
    obtain rfl := Except.ok.inj (ownFound.symm.trans sameFound)
    exact matched

mutual

/-- What a piece is read as matches the segments that are cut as the piece. -/
theorem sequence_of_passage
    {writing : Writing}
    {ordinal captures : Nat}
    {lowered : Lowered}
    (piece : Piece)
    (alone : StandAlone writing piece.patterns)
    (bounded : ∀ part ∈ (piece.passage writing ordinal captures).parts, part.Bounded)
    (found : lower .default (.ofParts (piece.passage writing ordinal captures).parts) =
      .ok lowered) :
    lowered.flags = .default ∧
      ∀ line start stop, Sequence line lowered.parts start stop ↔
        piece.Cuts (wrappedFits writing) line start stop := by
  cases piece with
  | text content location => exact lower_literals found
  | pattern source location =>
      obtain ⟨⟨ast, parsed⟩, whole, wrapped⟩ := alone (source, location) List.mem_cons_self
      obtain ⟨inner, read, rfl, -, -⟩ := parse_wrapped parsed wrapped
      rw [passage, ofFragment_eq read] at found bounded
      exact sequence_of_wrapped wrapped
        (bounded (.group (.plain []) (inner.level.toAst.shift captures)) List.mem_cons_self) found
  | expression label inner location =>
      rw [passage] at found bounded
      have bodyBounded :
          (Ast.ofParts (passageOf writing (ordinal + 1) (writing.captures + captures) inner).parts
            ).Bounded :=
        bounded (.group (writing.kind ordinal captures) _) List.mem_cons_self
      obtain ⟨innerLowered, innerFound, flags, agrees⟩ :=
        lower_group (writing.setsNothing_kind ordinal captures) bodyBounded found
      obtain ⟨-, cuts⟩ := sequence_of_passageOf inner alone
        ((Ast.bounded_ofParts_iff _).mp bodyBounded) innerFound
      exact ⟨flags, fun line start stop => (agrees line start stop).trans (cuts line start stop)⟩

/-- What pieces are read as matches the segments that are cut as the pieces. -/
theorem sequence_of_passageOf
    {writing : Writing}
    {ordinal captures : Nat}
    {lowered : Lowered}
    (pieces : List Piece)
    (alone : StandAlone writing (patternsOf pieces))
    (bounded : ∀ part ∈ (passageOf writing ordinal captures pieces).parts, part.Bounded)
    (found : lower .default (.ofParts (passageOf writing ordinal captures pieces).parts) =
      .ok lowered) :
    lowered.flags = .default ∧
      ∀ line start stop, Sequence line lowered.parts start stop ↔
        CutsAll (wrappedFits writing) line pieces start stop := by
  cases pieces with
  | nil =>
      obtain rfl := Except.ok.inj found
      exact ⟨rfl, fun line start stop => sequence_singleton _⟩
  | cons piece pieces =>
      obtain ⟨first, second, firstFound, secondFound, flags, agrees⟩ := lower_ofParts_append found
      obtain ⟨firstFlags, firstCuts⟩ := sequence_of_passage piece
        (fun source member => alone source (List.mem_append_left _ member))
        (fun part member => bounded part (List.mem_append_left _ member)) firstFound
      rw [firstFlags] at secondFound
      obtain ⟨secondFlags, secondCuts⟩ := sequence_of_passageOf pieces
        (fun source member => alone source (List.mem_append_right _ member))
        (fun part member => bounded part (List.mem_append_right _ member)) secondFound
      refine ⟨flags.trans secondFlags, fun line start stop => ?_⟩
      rw [agrees, sequence_append]
      simp only [firstCuts, secondCuts, CutsAll]

end

/-! ## Whole patterns -/

/-- An anchored pattern whose fragments have parses of their own has a match in a line
exactly when the whole line is cut as its pieces. -/
theorem hasMatch_anchored_iff
    {writing : Writing}
    (quotes : writing.isMeta = isLinearMeta)
    {pieces : List Piece}
    {pattern : String}
    {tree : Tree}
    (alone : StandAlone writing (patternsOf pieces))
    (isWritten : pattern.toList = spelledAll writing 0 pieces)
    (found : Regex.treeOf (Dialect.anchored pattern) = .ok tree)
    (line : Line) :
    HasMatch (Dialect.anchored pattern) line ↔
      CutsAll (wrappedFits writing) line pieces 0 line.length := by
  obtain ⟨ast, parsed, -⟩ := Except.bind_eq_ok_iff.mp found
  have bounded := bounded_parse parsed
  obtain rfl := eq_anchoredAst_of_parse quotes alone isWritten parsed
  have partsBounded : (Ast.ofParts (passageOf writing 0 0 pieces).parts).Bounded := bounded.2.1
  obtain ⟨inner, innerFound, hasMatch⟩ := hasMatch_iff_of_parse parsed found
  obtain ⟨-, cuts⟩ := sequence_of_passageOf pieces alone
    ((Ast.bounded_ofParts_iff _).mp partsBounded) innerFound
  exact (hasMatch line).trans (cuts line 0 line.length)

end Piece
end LineExtraction

import LineExtraction.Proofs.Extraction.Composition
import LineExtraction.Proofs.Linear.Outline

/-!
# Groups that are opened for expressions

What the pieces of a definition are read as is lowered piece by piece, and the groups that
are opened for expressions come out of it as they went in: one behind the other and inside
each other, as the expressions are.
-/

namespace LineExtraction

open Linear
open Pattern (isLinearMeta wrapChars)

namespace Piece

/-! ## Numbers of groups -/

/-- What reading a wrapped fragment with a parse of its own makes of it. -/
theorem captures_ofFragment
    {fragment : List Char}
    {ast whole : Ast}
    (alone : parse fragment = .ok ast)
    (wrapped : parse (wrapChars fragment) = .ok whole)
    (before : Nat) :
    ∀ capture ∈ (Passage.ofFragment before fragment).parts.flatMap Ast.captures,
      before < capture.1 ∧ capture.1 ≤ (Passage.ofFragment before fragment).captures + before ∧
        ∀ name ∈ capture.2, name ∈ (Passage.ofFragment before fragment).names := by
  obtain ⟨inner, read, -, -, -⟩ := parse_wrapped alone wrapped
  obtain ⟨rest, reads, -⟩ := readTokens_eq_ok_iff.mp read
  obtain ⟨numbered, -⟩ := ParseState.numbered_start.reads reads
  rw [ofFragment_eq read]
  intro capture member
  simp only [List.flatMap_cons, List.flatMap_nil, List.append_nil, Ast.captures,
    Ast.captures_shift] at member
  obtain ⟨⟨index, name⟩, inBody, rfl⟩ := List.mem_map.mp member
  have held : (ParseState.start.around inner).Holds (index, name) := by
    refine .inl (.inr ⟨_, List.mem_cons_self, ?_⟩)
    simpa [Ast.captures, Ast.captures_shift, ParseState.start] using inBody
  have below := numbered.below _ held
  have positive := numbered.positive _ held
  have named := numbered.named _ held
  simp only [ParseState.around, ParseState.start, Nat.add_zero, List.append_nil] at below named
  exact ⟨by simpa using positive, Nat.add_le_add_right below before, named⟩

mutual

theorem captures_passage
    {writing : Writing}
    (ordinal before : Nat)
    (piece : Piece)
    (alone : StandAlone writing piece.patterns) :
    ∀ capture ∈ (piece.passage writing ordinal before).parts.flatMap Ast.captures,
      before < capture.1 ∧ capture.1 ≤ (piece.passage writing ordinal before).captures + before ∧
        ∀ name ∈ capture.2, name ∈ (piece.passage writing ordinal before).names := by
  cases piece with
  | text content location =>
      intro capture member
      simp [passage, literals, List.flatMap_map, Ast.captures] at member
  | pattern source location =>
      obtain ⟨⟨ast, parsed⟩, whole, wrapped⟩ := alone (source, location) List.mem_cons_self
      exact captures_ofFragment parsed wrapped before
  | expression label inner location =>
      have inside := captures_passageOf (ordinal + 1) (writing.captures + before) inner alone
      intro capture member
      simp only [passage, Writing.enclose, List.flatMap_cons, List.flatMap_nil,
        List.append_nil] at member ⊢
      rcases (mem_captures_group_iff _ _ capture).mp member with opened | inBody
      · cases writing with
        | discriminator => cases opened
        | extraction backend =>
            obtain ⟨index, given⟩ := capture
            have opened : GroupKind.capture (before + 1) (some (expressionName ordinal)) =
                .capture index given := opened
            obtain ⟨rfl, rfl⟩ := GroupKind.capture.inj opened
            simp only [Writing.captures, Writing.names]
            refine ⟨Nat.lt_succ_self before, by omega, fun name isName => ?_⟩
            obtain rfl := Option.some.inj isName
            exact List.mem_append_right _ List.mem_cons_self
      · rw [Ast.captures_ofParts] at inBody
        obtain ⟨above, below, named⟩ := inside capture inBody
        exact ⟨by omega, by omega, fun name isName => List.mem_append_left _ (named name isName)⟩

/-- The groups of pieces are numbered as they open, and their names are known. -/
theorem captures_passageOf
    {writing : Writing}
    (ordinal before : Nat)
    (pieces : List Piece)
    (alone : StandAlone writing (patternsOf pieces)) :
    ∀ capture ∈ (passageOf writing ordinal before pieces).parts.flatMap Ast.captures,
      before < capture.1 ∧
        capture.1 ≤ (passageOf writing ordinal before pieces).captures + before ∧
        ∀ name ∈ capture.2, name ∈ (passageOf writing ordinal before pieces).names := by
  cases pieces with
  | nil => exact List.forall_mem_nil _
  | cons piece pieces =>
      have first := captures_passage ordinal before piece
        fun source member => alone source (List.mem_append_left _ member)
      have others := captures_passageOf (ordinal + piece.expressions.length)
        ((piece.passage writing ordinal before).captures + before) pieces
        fun source member => alone source (List.mem_append_right _ member)
      intro capture member
      simp only [passageOf, Passage.append, List.flatMap_append] at member ⊢
      rcases List.mem_append.mp member with inFirst | inOthers
      · obtain ⟨above, below, named⟩ := first capture inFirst
        exact ⟨above, by omega, fun name isName => List.mem_append_right _ (named name isName)⟩
      · obtain ⟨above, below, named⟩ := others capture inOthers
        exact ⟨by omega, by omega, fun name isName => List.mem_append_left _ (named name isName)⟩

end

/-! ## Outlines of expressions -/

mutual

/-- The groups that are opened for the expressions in a piece. -/
def outline (writing : Writing) (ordinal before : Nat) : Piece → Outline
  | text _ _ => .nil
  | pattern _ _ => .nil
  | expression _ parts _ =>
    match writing with
    | .discriminator => .nil
    | .extraction _ =>
      .group (before + 1, some (expressionName ordinal))
        (outlineOf writing (ordinal + 1) (writing.captures + before) parts) .nil

/-- The groups that are opened for the expressions in pieces. -/
def outlineOf (writing : Writing) (ordinal before : Nat) : List Piece → Outline
  | [] => .nil
  | piece :: pieces =>
    (piece.outline writing ordinal before).append
      (outlineOf writing (ordinal + piece.expressions.length)
        ((piece.passage writing ordinal before).captures + before) pieces)

end

mutual

theorem captures_outline_subset
    (writing : Writing)
    (ordinal before : Nat)
    (piece : Piece) :
    (piece.outline writing ordinal before).captures ⊆
      (piece.passage writing ordinal before).parts.flatMap Ast.captures := by
  cases piece with
  | text content location => exact List.nil_subset _
  | pattern source location => exact List.nil_subset _
  | expression label inner location =>
      have inside := captures_outlineOf_subset writing (ordinal + 1) (writing.captures + before) inner
      cases writing with
      | discriminator => exact List.nil_subset _
      | extraction backend =>
          rw [← Ast.captures_ofParts] at inside
          simp only [outline, passage, Writing.enclose, Writing.kind, Outline.captures,
            List.append_nil, List.flatMap_cons, List.flatMap_nil, Ast.captures]
          exact List.cons_subset_cons _ inside

/-- The groups that are opened for expressions are among those that are read. -/
theorem captures_outlineOf_subset
    (writing : Writing)
    (ordinal before : Nat)
    (pieces : List Piece) :
    (outlineOf writing ordinal before pieces).captures ⊆
      (passageOf writing ordinal before pieces).parts.flatMap Ast.captures := by
  cases pieces with
  | nil => exact List.nil_subset _
  | cons piece pieces =>
      rw [outlineOf, passageOf, Outline.captures_append, Passage.append, List.flatMap_append]
      exact List.append_subset.mpr
        ⟨List.subset_append_of_subset_left _ (captures_outline_subset writing ordinal before piece),
          List.subset_append_of_subset_right _ (captures_outlineOf_subset writing _ _ pieces)⟩

end

mutual

theorem names_outline
    (backend : Backend)
    (ordinal before : Nat)
    (piece : Piece) :
    (piece.outline (.extraction backend) ordinal before).captures.map Prod.snd =
      (List.range' ordinal piece.expressions.length).map (some ∘ expressionName) := by
  cases piece with
  | text content location => rfl
  | pattern source location => rfl
  | expression label inner location =>
      have inside := names_outlineOf backend (ordinal + 1) (1 + before) inner
      simp only [outline, Writing.captures, Outline.captures, List.append_nil, List.map_cons,
        inside, expressions, List.length_cons, List.range'_succ]
      rfl

/-- The groups of an outline are named as the expressions open. -/
theorem names_outlineOf
    (backend : Backend)
    (ordinal before : Nat)
    (pieces : List Piece) :
    (outlineOf (.extraction backend) ordinal before pieces).captures.map Prod.snd =
      (List.range' ordinal (expressionsOf pieces).length).map (some ∘ expressionName) := by
  cases pieces with
  | nil => rfl
  | cons piece pieces =>
      rw [outlineOf, Outline.captures_append, List.map_append, names_outline backend, names_outlineOf,
        expressionsOf, List.length_append, ← List.map_append, List.range'_append_1]

end

/-- There is one group for each expression. -/
theorem length_numbers_outlineOf
    (backend : Backend)
    (ordinal before : Nat)
    (pieces : List Piece) :
    (outlineOf (.extraction backend) ordinal before pieces).numbers.length =
      (expressionsOf pieces).length := by
  have names := congrArg List.length (names_outlineOf backend ordinal before pieces)
  simpa [Outline.numbers] using names

/-- The group of an expression stands in the outline where the expression stands. -/
theorem getElem?_captures_outlineOf
    (backend : Backend)
    (ordinal before : Nat)
    (pieces : List Piece)
    {offset : Nat}
    (inside : offset < (expressionsOf pieces).length) :
    ∃ index, (outlineOf (.extraction backend) ordinal before pieces).captures[offset]? =
      some (index, some (expressionName (ordinal + offset))) := by
  have names := congrArg (·[offset]?) (names_outlineOf backend ordinal before pieces)
  simp only [List.getElem?_map, List.getElem?_range' inside, Option.map_some] at names
  obtain ⟨⟨index, name⟩, found, rfl⟩ := Option.map_eq_some_iff.mp names
  exact ⟨index, by simpa using found⟩

mutual

theorem nodup_numbers_outline
    {writing : Writing}
    (ordinal before : Nat)
    (piece : Piece)
    (alone : StandAlone writing piece.patterns) :
    (piece.outline writing ordinal before).numbers.Nodup := by
  cases piece with
  | text content location => exact List.nodup_nil
  | pattern source location => exact List.nodup_nil
  | expression label inner location =>
      cases writing with
      | discriminator => exact List.nodup_nil
      | extraction backend =>
          have inside := nodup_numbers_outlineOf (ordinal + 1) (1 + before) inner alone
          simp only [outline, Writing.captures, Outline.numbers, Outline.captures, List.append_nil,
            List.map_cons]
          refine List.nodup_cons.mpr ⟨fun member => ?_, inside⟩
          obtain ⟨capture, inInner, same⟩ := List.mem_map.mp member
          have above := (captures_passageOf _ _ inner alone _
            (captures_outlineOf_subset _ _ _ inner inInner)).1
          omega

/-- No two groups of an outline have the same number. -/
theorem nodup_numbers_outlineOf
    {writing : Writing}
    (ordinal before : Nat)
    (pieces : List Piece)
    (alone : StandAlone writing (patternsOf pieces)) :
    (outlineOf writing ordinal before pieces).numbers.Nodup := by
  cases pieces with
  | nil => exact List.nodup_nil
  | cons piece pieces =>
      have firstAlone : StandAlone writing piece.patterns :=
        fun source member => alone source (List.mem_append_left _ member)
      have othersAlone : StandAlone writing (patternsOf pieces) :=
        fun source member => alone source (List.mem_append_right _ member)
      rw [outlineOf, Outline.numbers_append]
      refine List.nodup_append.mpr ⟨nodup_numbers_outline ordinal before piece firstAlone,
        nodup_numbers_outlineOf _ _ pieces othersAlone, ?_⟩
      rintro _ inFirst _ inOthers rfl
      obtain ⟨first, firstMember, rfl⟩ := List.mem_map.mp inFirst
      obtain ⟨other, otherMember, same⟩ := List.mem_map.mp inOthers
      have below := (captures_passage _ _ piece firstAlone _
        (captures_outline_subset _ _ _ piece firstMember)).2.1
      have above := (captures_passageOf _ _ pieces othersAlone _
        (captures_outlineOf_subset _ _ _ pieces otherMember)).1
      omega

end

/-! ## Lowering pieces -/

/-- Whether the wrapped fragments of patterns have trees. -/
def Lowers (writing : Writing) (sources : List (String × Location)) : Prop :=
  ∀ source ∈ sources, ∃ tree,
    Regex.treeOf (String.ofList (wrapChars (writing.fragment source.1))) = .ok tree

/-- A wrapped fragment is lowered where it stands as it is on its own. -/
theorem exists_lower_ofFragment
    {fragment : List Char}
    {ast whole : Ast}
    {tree : Tree}
    (alone : parse fragment = .ok ast)
    (wrapped : parse (wrapChars fragment) = .ok whole)
    (lowers : Regex.treeOf (String.ofList (wrapChars fragment)) = .ok tree)
    (before : Nat) :
    ∃ tree, lower .default (.ofParts (Passage.ofFragment before fragment).parts) =
      .ok (.single tree .default) := by
  obtain ⟨inner, read, rfl, -, -⟩ := parse_wrapped alone wrapped
  obtain ⟨own, ownFound, lowers⟩ := Except.bind_eq_ok_iff.mp lowers
  rw [String.toList_ofList] at ownFound
  obtain rfl := Except.ok.inj (wrapped.symm.trans ownFound)
  obtain ⟨lowered, loweredFound, -⟩ := Except.bind_eq_ok_iff.mp lowers
  have bounded := bounded_parse wrapped
  have same : (Ast.group (.plain []) inner.level.toAst).erase =
      (Ast.group (.plain []) (inner.level.toAst.shift before)).erase := by
    rw [Ast.erase, Ast.erase, Ast.erase_shift]
  obtain ⟨placed, placedFound, -⟩ :=
    lower_of_erase_eq same bounded ((show inner.level.toAst.Bounded from bounded).shift before)
      loweredFound
  rw [ofFragment_eq read]
  obtain ⟨body, bodyFound, made⟩ := Except.bind_eq_ok_iff.mp placedFound
  exact ⟨body.tree, Except.bind_eq_ok_iff.mpr ⟨body, bodyFound, rfl⟩⟩

theorem exists_lower_literals
    (watched : Nat → Prop)
    (text : List Char) :
    ∃ lowered, lower .default (.ofParts (literals text)) = .ok lowered ∧
      lowered.flags = .default ∧ lowered.Shows watched .nil := by
  induction text with
  | nil => exact ⟨_, rfl, rfl, Lowered.shows_single_unwatched (List.forall_mem_nil _)⟩
  | cons char text inductionHypothesis =>
      obtain ⟨others, othersFound, flags, othersShow⟩ := inductionHypothesis
      have first : lower .default (.ofParts [.literal ⟨char, false⟩]) =
          .ok (.single (.literal [char]) .default) := rfl
      obtain ⟨lowered, found, sameFlags, shows'⟩ := shows_lower_append first
        (Lowered.shows_single_unwatched (List.forall_mem_nil _)) othersFound othersShow
      exact ⟨lowered, found, sameFlags.trans flags, shows'⟩

/-- Whether no group with a number that is watched is opened by a text but those of an
outline. -/
def Watches (watched : Nat → Prop) (passage : Passage) (outline : Outline) : Prop :=
  ∀ capture ∈ passage.parts.flatMap Ast.captures, watched capture.1 → capture ∈ outline.captures

theorem Watches.split
    {watched : Nat → Prop}
    {front back : Passage}
    {first second : Outline}
    {bound : Nat}
    (watches : Watches watched (front.append back) (first.append second))
    (firstInside : first.captures ⊆ front.parts.flatMap Ast.captures)
    (secondInside : second.captures ⊆ back.parts.flatMap Ast.captures)
    (below : ∀ capture ∈ front.parts.flatMap Ast.captures, capture.1 ≤ bound)
    (above : ∀ capture ∈ back.parts.flatMap Ast.captures, bound < capture.1) :
    Watches watched front first ∧ Watches watched back second := by
  have listed : ∀ capture, capture ∈ (front.append back).parts.flatMap Ast.captures ↔
      capture ∈ front.parts.flatMap Ast.captures ∨ capture ∈ back.parts.flatMap Ast.captures := by
    intro capture
    rw [Passage.append, List.flatMap_append, List.mem_append]
  have shown : ∀ capture ∈ (front.append back).parts.flatMap Ast.captures, watched capture.1 →
      capture ∈ first.captures ∨ capture ∈ second.captures := by
    intro capture member isWatched
    rw [← List.mem_append, ← Outline.captures_append]
    exact watches capture member isWatched
  constructor
  · intro capture member isWatched
    refine (shown capture ((listed capture).mpr (.inl member)) isWatched).resolve_right ?_
    exact fun inSecond => absurd (below capture member)
      (Nat.not_le.mpr (above capture (secondInside inSecond)))
  · intro capture member isWatched
    refine (shown capture ((listed capture).mpr (.inr member)) isWatched).resolve_left ?_
    exact fun inFirst => absurd (below capture (firstInside inFirst))
      (Nat.not_le.mpr (above capture member))

mutual

theorem exists_lower_passage
    {writing : Writing}
    (watched : Nat → Prop)
    {ordinal before : Nat}
    (piece : Piece)
    (alone : StandAlone writing piece.patterns)
    (lowers : Lowers writing piece.patterns)
    (watches : Watches watched (piece.passage writing ordinal before)
      (piece.outline writing ordinal before)) :
    ∃ lowered, lower .default (.ofParts (piece.passage writing ordinal before).parts) =
        .ok lowered ∧
      lowered.flags = .default ∧ lowered.Shows watched (piece.outline writing ordinal before) := by
  cases piece with
  | text content location => exact exists_lower_literals watched content.toList
  | pattern source location =>
      obtain ⟨⟨ast, parsed⟩, whole, wrapped⟩ := alone (source, location) List.mem_cons_self
      obtain ⟨tree, treeFound⟩ := lowers (source, location) List.mem_cons_self
      obtain ⟨placed, found⟩ := exists_lower_ofFragment parsed wrapped treeFound before
      refine ⟨_, found, rfl, Lowered.shows_single_unwatched fun capture captured isWatched => ?_⟩
      have inside := (within_lower found).parts (List.mem_flatMap.mpr
        ⟨placed, List.mem_cons_self, captured⟩)
      rw [Ast.captures_ofParts] at inside
      exact absurd (watches capture inside isWatched) List.not_mem_nil
  | expression label inner location =>
      have range := captures_passageOf (ordinal + 1) (writing.captures + before) inner alone
      cases writing with
      | discriminator =>
          have unwatched : ∀ capture ∈ (passageOf .discriminator (ordinal + 1) (0 + before)
              inner).parts.flatMap Ast.captures, ¬ watched capture.1 := by
            intro capture member isWatched
            refine absurd (watches capture ?_ isWatched) List.not_mem_nil
            rw [← Ast.captures_ofParts] at member
            exact List.mem_append_left _ member
          obtain ⟨lowered, found, -, -⟩ := exists_lower_passageOf watched inner alone
            lowers fun capture member isWatched => absurd isWatched (unwatched capture member)
          refine ⟨_, Except.bind_eq_ok_iff.mpr ⟨lowered, found, rfl⟩, rfl,
            Lowered.shows_single_unwatched fun capture captured => unwatched capture ?_⟩
          rw [← Ast.captures_ofParts]
          exact (within_lower found).tree captured
      | extraction backend =>
          have innerWatches : Watches watched
              (passageOf (.extraction backend) (ordinal + 1) (1 + before) inner)
              (outlineOf (.extraction backend) (ordinal + 1) (1 + before) inner) := by
            intro capture member isWatched
            have above := (range capture member).1
            rw [← Ast.captures_ofParts] at member
            rcases List.mem_cons.mp (watches capture
              (List.mem_append_left _ (List.mem_cons_of_mem _ member)) isWatched) with rfl | shown
            · exact absurd above (Nat.not_lt.mpr (Nat.le_of_eq (Nat.add_comm before 1)))
            · exact (List.mem_append.mp shown).resolve_right List.not_mem_nil
          obtain ⟨lowered, found, -, shows'⟩ := exists_lower_passageOf watched inner alone lowers
            innerWatches
          exact ⟨_, Except.bind_eq_ok_iff.mpr ⟨lowered, found, rfl⟩, rfl,
            shows'.single_capture _ _⟩

/-- What pieces are read as is lowered to a sequence with the groups that are opened for
their expressions. -/
theorem exists_lower_passageOf
    {writing : Writing}
    (watched : Nat → Prop)
    {ordinal before : Nat}
    (pieces : List Piece)
    (alone : StandAlone writing (patternsOf pieces))
    (lowers : Lowers writing (patternsOf pieces))
    (watches : Watches watched (passageOf writing ordinal before pieces)
      (outlineOf writing ordinal before pieces)) :
    ∃ lowered, lower .default (.ofParts (passageOf writing ordinal before pieces).parts) =
        .ok lowered ∧
      lowered.flags = .default ∧
      lowered.Shows watched (outlineOf writing ordinal before pieces) := by
  cases pieces with
  | nil => exact ⟨_, rfl, rfl, Lowered.shows_single_unwatched (List.forall_mem_nil _)⟩
  | cons piece pieces =>
      have firstAlone : StandAlone writing piece.patterns :=
        fun source member => alone source (List.mem_append_left _ member)
      have othersAlone : StandAlone writing (patternsOf pieces) :=
        fun source member => alone source (List.mem_append_right _ member)
      obtain ⟨firstWatches, othersWatches⟩ := watches.split
        (captures_outline_subset writing ordinal before piece)
        (captures_outlineOf_subset writing _ _ pieces)
        (fun capture member => (captures_passage ordinal before piece firstAlone capture member).2.1)
        (fun capture member => (captures_passageOf _ _ pieces othersAlone capture member).1)
      obtain ⟨first, firstFound, firstFlags, firstShows⟩ := exists_lower_passage watched piece firstAlone
        (fun source member => lowers source (List.mem_append_left _ member)) firstWatches
      obtain ⟨others, othersFound, othersFlags, othersShow⟩ := exists_lower_passageOf watched pieces
        othersAlone (fun source member => lowers source (List.mem_append_right _ member))
        othersWatches
      rw [← firstFlags] at othersFound
      obtain ⟨lowered, found, flags, shows'⟩ :=
        shows_lower_append firstFound firstShows othersFound othersShow
      exact ⟨lowered, found, flags.trans othersFlags, shows'⟩

end

/-- A whole anchored pattern is lowered to a tree with the groups that are opened for its
expressions. -/
theorem exists_lower_anchoredAst
    {writing : Writing}
    (watched : Nat → Prop)
    (pieces : List Piece)
    (alone : StandAlone writing (patternsOf pieces))
    (lowers : Lowers writing (patternsOf pieces))
    (watches : Watches watched (passageOf writing 0 0 pieces) (outlineOf writing 0 0 pieces)) :
    ∃ tree, lowerPattern (anchoredAst writing pieces) = .ok tree ∧
      Shows watched tree.parts (outlineOf writing 0 0 pieces) := by
  obtain ⟨inner, innerFound, -, innerShows⟩ := exists_lower_passageOf watched pieces alone lowers watches
  have group : lower .default (.ofParts [.group (.plain [])
      (.ofParts (passageOf writing 0 0 pieces).parts)]) = .ok (.single inner.tree .default) :=
    Except.bind_eq_ok_iff.mpr ⟨inner, innerFound, rfl⟩
  have look : ∀ kind, ∃ look, lower .default (.ofParts [.assertion kind]) =
      .ok (.single look .default) ∧ (Lowered.single look .default).Shows watched .nil :=
    fun kind => ⟨_, rfl, Lowered.shows_single_unwatched (List.forall_mem_nil _)⟩
  obtain ⟨start, startFound, startShows⟩ := look .startText
  obtain ⟨stop, stopFound, stopShows⟩ := look .endText
  obtain ⟨rest, restFound, restFlags, restShows⟩ :=
    shows_lower_append group (Lowered.shows_single innerShows.tree) stopFound stopShows
  obtain ⟨lowered, found, -, shows'⟩ :=
    shows_lower_append startFound startShows restFound restShows
  refine ⟨lowered.tree, Except.bind_eq_ok_iff.mpr ⟨lowered, found, rfl⟩, ?_⟩
  simpa [Outline.append] using shows'.tree

end Piece
end LineExtraction

import LineExtraction.Proofs.Linear.Composition

/-!
# How composed patterns are read

The pieces of a definition are written one behind the other.  Where every fragment among
them has a parse of its own, alone and wrapped, the whole is read piece by piece: text as
its characters, a fragment as one group, an expression as a group around its parts.
-/

namespace LineExtraction

open Linear
open Pattern (isLinearMeta quoteWith wrapChars)

namespace Linear

/-- The state behind a text that is read on its own. -/
def ParseState.behind (text : List Char) : ParseState :=
  (readTokens .start text).toOption.getD .start

theorem ParseState.behind_eq
    {text : List Char}
    {last : ParseState}
    (read : readTokens .start text = .ok last) :
    behind text = last := by
  rw [behind, read]
  rfl

/-- What a fragment is read as, wrapped, where `captures` groups stand in
front of them. -/
def Passage.ofFragment (captures : Nat) (fragment : List Char) : Passage :=
  let single := ParseState.behind (wrapChars fragment)
  ⟨single.level.parts.map (Ast.shift captures), single.captures, single.names⟩

end Linear

/-! ## The groups of expressions -/

namespace Writing

/-- How many captures the header of an expression opens. -/
def captures : Writing → Nat
  | discriminator => 0
  | extraction _ => 1

/-- The names that the header of an expression gives. -/
def names : Writing → Nat → List (List Char)
  | discriminator, _ => []
  | extraction _, ordinal => [expressionName ordinal]

/-- What the group of an expression is for, behind `before` captures. -/
def kind : Writing → (ordinal before : Nat) → GroupKind
  | discriminator, _, _ => .plain []
  | extraction _, ordinal, before => .capture (before + 1) (some (expressionName ordinal))

/-- The group of an expression around what its parts are read as. -/
def enclose (writing : Writing) (ordinal before : Nat) (inner : Passage) : Passage where
  parts := [.group (writing.kind ordinal before) (.ofParts inner.parts)]
  captures := inner.captures + writing.captures
  names := inner.names ++ writing.names ordinal

theorem setsNothing_kind
    (writing : Writing)
    (ordinal before : Nat) :
    (writing.kind ordinal before).SetsNothing := by
  cases writing with
  | discriminator => rfl
  | extraction backend => trivial

/-- The state behind the header of an expression. -/
def opened (writing : Writing) (ordinal : Nat) (state : ParseState) : ParseState :=
  { state.openGroup (writing.kind ordinal state.captures) false with
    captures := writing.captures + state.captures
    names := writing.names ordinal ++ state.names }

theorem arrives_header
    (writing : Writing)
    (ordinal : Nat)
    {state : ParseState}
    (plain : state.verbose = false)
    (distinct : state.names.Nodup)
    (more : List Char) :
    state.Arrives (writing.header ordinal ++ more) (writing.opened ordinal state) more := by
  cases writing with
  | discriminator =>
      have same : opened discriminator ordinal state = state.inside := by
        simp [opened, captures, names, kind, ParseState.inside, ParseState.openGroup]
      rw [same]
      exact ParseState.arrives_of_reads distinct (reads_plainHeader plain more)
  | extraction backend =>
      have same : opened (extraction backend) ordinal state =
          state.openCapture (some (expressionName ordinal)) := by
        simp [opened, captures, names, kind, ParseState.openCapture, ParseState.openGroup, plain,
          Nat.add_comm]
      rw [same]
      exact arrives_captureHeader distinct ordinal more

/-- The group of an expression is passed over where what stands in it is. -/
theorem arrives_enclose
    (writing : Writing)
    {ordinal : Nat}
    {outer : ParseState}
    {text more : List Char}
    {inner : Passage}
    (plain : outer.verbose = false)
    (distinct : outer.names.Nodup)
    (arrives : (writing.opened ordinal outer).names.Nodup →
      (writing.opened ordinal outer).Arrives (text ++ (')' :: more))
        ((writing.opened ordinal outer).pass inner) (')' :: more)) :
    outer.Arrives (writing.header ordinal ++ (text ++ ')' :: more))
      (outer.pass (writing.enclose ordinal outer.captures inner)) more := by
  have body : ((writing.opened ordinal outer).pass inner).level.toAst = .ofParts inner.parts := by
    simp [ParseState.pass, opened, ParseState.openGroup, Level.start, Level.toAst, Ast.ofBranches]
  have closed : Reads ((writing.opened ordinal outer).pass inner) _ _ more :=
    reads_close rfl rfl more
  have same : outer.pass (writing.enclose ordinal outer.captures inner) =
      { (writing.opened ordinal outer).pass inner with
        verbose := outer.verbose
        level := outer.level.push (.group (writing.kind ordinal outer.captures)
          ((writing.opened ordinal outer).pass inner).level.toAst)
        groups := outer.groups } := by
    rw [body]
    simp [ParseState.pass, enclose, opened, ParseState.openGroup, Level.push, Nat.add_assoc]
  have first := (writing.arrives_header ordinal plain distinct _).trans arrives
    (List.suffix_append _ _)
  refine first.trans (fun apart => ?_) ?_
  · rw [same]
    exact ParseState.arrives_of_reads apart closed
  · exact congrArg ParseState.names same ▸ List.suffix_rfl

end Writing

/-! ## Pieces -/

namespace Piece

mutual

/-- What a piece is read as.  `ordinal` is the number of the first expression that opens in
it, and `captures` groups stand in front of it. -/
def passage (writing : Writing) (ordinal captures : Nat) : Piece → Passage
  | text content _ => ⟨literals content.toList, 0, []⟩
  | pattern source _ => .ofFragment captures (writing.fragment source)
  | expression _ parts _ =>
    writing.enclose ordinal captures
      (passageOf writing (ordinal + 1) (writing.captures + captures) parts)

/-- What pieces that stand behind each other are read as. -/
def passageOf (writing : Writing) (ordinal captures : Nat) : List Piece → Passage
  | [] => ⟨[], 0, []⟩
  | piece :: pieces =>
    let front := piece.passage writing ordinal captures
    front.append (passageOf writing (ordinal + piece.expressions.length)
      (front.captures + captures) pieces)

end

/-- Whether the fragments of patterns have parses of their own, alone and wrapped. -/
def StandAlone (writing : Writing) (sources : List (String × Location)) : Prop :=
  ∀ source ∈ sources, (∃ ast, parse (writing.fragment source.1) = .ok ast) ∧
    ∃ ast, parse (wrapChars (writing.fragment source.1)) = .ok ast

/-- A wrapped fragment with a parse of its own is read as one group. -/
theorem ofFragment_eq
    {fragment : List Char}
    {inner : ParseState}
    (read : readTokens .start (wrapChars fragment) = .ok (ParseState.start.around inner))
    (captures : Nat) :
    Passage.ofFragment captures fragment =
      ⟨[.group (.plain []) (inner.level.toAst.shift captures)], inner.captures, inner.names⟩ := by
  rw [Passage.ofFragment, ParseState.behind_eq read]
  simp [ParseState.around, ParseState.push, Level.push, ParseState.start, Level.start, Ast.shift]

/-- A wrapped fragment with a parse of its own is passed over as one group. -/
theorem arrives_fragment
    {fragment : List Char}
    {ast whole : Ast}
    (alone : parse fragment = .ok ast)
    (wrapped : parse (wrapChars fragment) = .ok whole)
    {outer : ParseState}
    (plain : outer.verbose = false)
    (distinct : outer.names.Nodup)
    (more : List Char) :
    outer.Arrives (wrapChars fragment ++ more)
      (outer.pass (.ofFragment outer.captures fragment)) more := by
  obtain ⟨inner, read, -, -, arrives⟩ := parse_wrapped alone wrapped
  rw [ofFragment_eq read, ← ParseState.around_eq_pass]
  exact arrives outer more plain distinct

mutual

/-- The parser passes over a piece, unless a group name would stand twice. -/
theorem arrives_spelled
    {writing : Writing}
    (quotes : writing.isMeta = isLinearMeta)
    (ordinal : Nat)
    (outer : ParseState)
    (piece : Piece)
    (alone : StandAlone writing piece.patterns)
    (plain : outer.verbose = false)
    (distinct : outer.names.Nodup)
    (more : List Char) :
    outer.Arrives (piece.spelled writing ordinal ++ more)
      (outer.pass (piece.passage writing ordinal outer.captures)) more := by
  cases piece with
  | text content location =>
      rw [spelled, quotes, passage]
      exact ParseState.arrives_of_reads (by simpa [ParseState.pass] using distinct)
        (reads_quoted quotes_linear outer plain content.toList more)
  | pattern source location =>
      obtain ⟨⟨ast, parsed⟩, whole, wrapped⟩ := alone (source, location) List.mem_cons_self
      exact arrives_fragment parsed wrapped plain distinct more
  | expression label inner location =>
      rw [spelled, passage, List.append_assoc, List.append_assoc]
      refine writing.arrives_enclose plain distinct fun apart => ?_
      exact arrives_spelledAll quotes _ _ inner alone rfl apart (')' :: more)

/-- The parser passes over pieces, unless a group name would stand twice. -/
theorem arrives_spelledAll
    {writing : Writing}
    (quotes : writing.isMeta = isLinearMeta)
    (ordinal : Nat)
    (outer : ParseState)
    (pieces : List Piece)
    (alone : StandAlone writing (patternsOf pieces))
    (plain : outer.verbose = false)
    (distinct : outer.names.Nodup)
    (more : List Char) :
    outer.Arrives (spelledAll writing ordinal pieces ++ more)
      (outer.pass (passageOf writing ordinal outer.captures pieces)) more := by
  cases pieces with
  | nil =>
      rw [passageOf, ParseState.pass_nothing]
      exact ParseState.arrives_of_reads distinct (.refl outer more)
  | cons piece pieces =>
      rw [spelledAll, passageOf, ParseState.pass_append, List.append_assoc]
      have first := arrives_spelled quotes ordinal outer piece
        (fun source member => alone source (List.mem_append_left _ member)) plain distinct
        (spelledAll writing (ordinal + piece.expressions.length) pieces ++ more)
      refine first.trans (fun apart => ?_) (List.suffix_append _ _)
      exact arrives_spelledAll quotes _ (outer.pass (piece.passage writing ordinal outer.captures))
        pieces (fun source member => alone source (List.mem_append_right _ member)) plain
        apart more

end

/-! ## Whole patterns -/

/-- What the anchored pattern of pieces is read as. -/
def anchoredAst (writing : Writing) (pieces : List Piece) : Ast :=
  .ofParts [.assertion .startText,
    .group (.plain []) (.ofParts (passageOf writing 0 0 pieces).parts), .assertion .endText]

/-- An anchored pattern is read as what its pieces are read as, between the two ends of the
line, unless a group name stands twice or the whole nests too deep. -/
theorem parse_anchored
    {writing : Writing}
    (quotes : writing.isMeta = isLinearMeta)
    {pieces : List Piece}
    {pattern : String}
    (alone : StandAlone writing (patternsOf pieces))
    (isWritten : pattern.toList = spelledAll writing 0 pieces) :
    parse (Dialect.anchored pattern).toList =
      if (passageOf writing 0 0 pieces).names.Nodup then
        if nestLimit < (anchoredAst writing pieces).depth then .error .nestLimitExceeded
        else .ok (anchoredAst writing pieces)
      else .error .groupNameDuplicate := by
  rw [Dialect.toList_anchored, isWritten]
  have front : Reads .start
      ('\\' :: 'A' :: '(' :: '?' :: ':' :: (spelledAll writing 0 pieces ++ [')', '\\', 'z']))
      (ParseState.start.push (.assertion .startText)).inside
      (spelledAll writing 0 pieces ++ [')', '\\', 'z']) :=
    .token rfl rfl rfl (reads_plainHeader rfl _)
  let inside := (ParseState.start.push (.assertion .startText)).inside
  have opened : ParseState.start.Arrives _ inside _ :=
    ParseState.arrives_of_reads List.nodup_nil front
  have arrives := opened.trans (fun apart => arrives_spelledAll quotes 0 inside
    pieces alone rfl apart [')', '\\', 'z']) (List.suffix_append _ _)
  have names : (inside.pass (passageOf writing 0 0 pieces)).names =
      (passageOf writing 0 0 pieces).names := List.append_nil _
  have body : (inside.pass (passageOf writing 0 0 pieces)).level.toAst =
      .ofParts (passageOf writing 0 0 pieces).parts := by
    simp [inside, ParseState.pass, ParseState.inside, ParseState.openGroup, Level.start,
      Level.toAst, Ast.ofBranches]
  unfold ParseState.Arrives at arrives
  rw [show inside.captures = 0 from rfl, names] at arrives
  split at arrives
  · next distinct =>
      have closed := arrives.trans (reads_close rfl rfl ['\\', 'z'])
      have ended := closed.trans (.token rfl rfl rfl (.refl _ []))
      have read := ended.readTokens_eq.trans ((readTokens_eq_ok_iff_of_blank rfl).mpr rfl)
      rw [if_pos distinct, parse_of_readTokens read rfl, body]
      rfl
  · next shared =>
      rw [if_neg shared, parse, arrives]
      rfl

/-- If the anchored pattern has a parse, it is this one. -/
theorem eq_anchoredAst_of_parse
    {writing : Writing}
    (quotes : writing.isMeta = isLinearMeta)
    {pieces : List Piece}
    {pattern : String}
    {ast : Ast}
    (alone : StandAlone writing (patternsOf pieces))
    (isWritten : pattern.toList = spelledAll writing 0 pieces)
    (found : parse (Dialect.anchored pattern).toList = .ok ast) :
    ast = anchoredAst writing pieces := by
  rw [parse_anchored quotes alone isWritten] at found
  split at found
  · split at found
    · cases found
    · exact (Except.ok.inj found).symm
  · cases found

end Piece
end LineExtraction

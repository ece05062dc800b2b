import LineExtraction.Proofs.Extraction.Writing
import LineExtraction.Proofs.Linear.Parts
import LineExtraction.Proofs.Pattern.Phrase

/-!
# Reading what patterns are composed of

A composed pattern is made of quoted text, of groups for expressions and of wrapped
fragments.  The parser passes over each of them and stands behind it as it stood before,
with the parts that were written added to the branch that it reads.
-/

namespace LineExtraction
namespace Linear

open Pattern (isLinearMeta isBacktrackingMeta outsideSpecial quoteWith wrapChars endsInsideComment)

/-- What a run of tokens adds to the state of the parser: parts of the branch that it reads,
captures and group names, the last name first. -/
structure Passage where
  parts : List Ast
  captures : Nat
  names : List (List Char)

/-- What one run of tokens and another behind it add. -/
def Passage.append (front back : Passage) : Passage :=
  ⟨front.parts ++ back.parts, back.captures + front.captures, back.names ++ front.names⟩

namespace ParseState

/-- The state behind a run of tokens that opens no group that it does not close. -/
def pass (state : ParseState) (passage : Passage) : ParseState :=
  { state with
    level := ⟨state.level.branches, passage.parts.reverse ++ state.level.parts⟩
    captures := passage.captures + state.captures
    names := passage.names ++ state.names }

theorem pass_nothing
    (state : ParseState) :
    state.pass ⟨[], 0, []⟩ = state := by
  simp [pass]

theorem pass_append
    (state : ParseState)
    (front back : Passage) :
    state.pass (front.append back) = (state.pass front).pass back := by
  simp [pass, Passage.append, Nat.add_assoc]

theorem around_eq_pass
    (outer inner : ParseState) :
    outer.around inner = outer.pass
      ⟨[.group (.plain []) (inner.level.toAst.shift outer.captures)], inner.captures,
        inner.names⟩ := rfl

end ParseState

/-! ## Quoted text -/

theorem readLexeme_quoted
    {char : Char}
    (special : isLinearMeta char)
    (rest : List Char) :
    ∃ lexeme, readLexeme false '\\' (char :: rest) = .ok lexeme ∧
      lexeme.value = .part (.literal ⟨char, false⟩) ∧ lexeme.rest = rest := by
  have escapes : ['\\', '.', '+', '*', '?', '(', ')', '|', '[', ']', '\x7b', '\x7d', '^', '$',
      '#', '&', '-', '~'].all fun char => ¬ char.isDigit ∧ char ≠ 'x' ∧ char ≠ 'u' ∧ char ≠ 'U' ∧
        ¬ (char = 'p' ∨ char = 'P') ∧ char ≠ 'b' ∧
        escapeOf? char = some (.literal ⟨char, false⟩) := by
    decide
  obtain ⟨digit, byte, short, long, property, boundary, escape⟩ :=
    of_decide_eq_true (List.all_eq_true.mp escapes char (of_decide_eq_true special))
  have read : readEscape false (char :: rest) =
      .ok ⟨.literal ⟨char, false⟩, rest, Nat.le_succ _⟩ := by
    simp only [readEscape]
    rw [if_neg digit, if_neg byte, if_neg short, if_neg long, if_neg property, if_neg boundary,
      escape]
  exact ⟨_, Except.bind_eq_ok_iff.mpr ⟨_, read, rfl⟩, rfl, rfl⟩

/-- A character without a meaning outside of classes is read as itself. -/
theorem readLexeme_plain
    {char : Char}
    (plain : char ∉ outsideSpecial)
    (rest : List Char) :
    readLexeme false char rest = .ok ⟨.part (.literal ⟨char, false⟩), rest, Nat.le_refl _⟩ := by
  have other : ∀ special ∈ outsideSpecial, char ≠ special := by
    rintro special known rfl
    exact plain known
  have none : readQuantifier? false char rest = none := by
    rw [readQuantifier?]
    · exact other '?' (by decide)
    · exact other '*' (by decide)
    · exact other '+' (by decide)
    · exact other '\x7b' (by decide)
  rw [readLexeme]
  · rw [none]
  · exact other '(' (by decide)
  · exact other ')' (by decide)
  · exact other '|' (by decide)
  · exact other '[' (by decide)
  · exact other '\\' (by decide)
  · exact other '.' (by decide)
  · exact other '^' (by decide)
  · exact other '$' (by decide)

/-- Quoting that spares no character with a meaning outside of classes, and none but those
that may be escaped. -/
structure Quotes (isMeta : Char → Bool) : Prop where
  /-- What means something outside of classes is quoted. -/
  least : ∀ char, isBacktrackingMeta char → isMeta char
  /-- What is quoted may be escaped. -/
  most : ∀ char, isMeta char → isLinearMeta char

theorem quotes_linear : Quotes isLinearMeta where
  least char special := by
    have member := of_decide_eq_true special
    exact decide_eq_true (List.Subset.trans (by decide) (List.Subset.refl _) member)
  most _ special := special

theorem quotes_backtracking : Quotes isBacktrackingMeta where
  least _ special := special
  most := quotes_linear.least

/-- Text quoted for either dialect is read character by character. -/
theorem reads_quoted
    {isMeta : Char → Bool}
    (quotes : Quotes isMeta)
    (state : ParseState)
    (plain : state.verbose = false)
    (text more : List Char) :
    Reads state (quoteWith isMeta text ++ more) (state.pass ⟨literals text, 0, []⟩) more := by
  induction text generalizing state with
  | nil =>
      rw [show literals [] = [] from rfl, ParseState.pass_nothing]
      exact .refl state more
  | cons char rest inductionHypothesis =>
      have others := inductionHypothesis (state.push (.literal ⟨char, false⟩)) plain
      have same : (state.push (.literal ⟨char, false⟩)).pass ⟨literals rest, 0, []⟩ =
          state.pass ⟨literals (char :: rest), 0, []⟩ := by
        simp [ParseState.pass, ParseState.push, Level.push, literals]
      rw [same] at others
      obtain ⟨verbose, level, groups, captures, names⟩ := state
      obtain rfl : verbose = false := plain
      rw [quoteWith]
      split
      · next special =>
          obtain ⟨lexeme, read, value, behind⟩ :=
            readLexeme_quoted (quotes.most char special) (quoteWith isMeta rest ++ more)
          exact .token rfl read (by rw [value]; rfl) (behind ▸ others)
      · next ordinary =>
          have apart : char ∉ outsideSpecial := fun special =>
            ordinary (quotes.least char (decide_eq_true
              (List.Subset.trans (by decide) (List.Subset.refl _) special)))
          exact .token rfl (readLexeme_plain apart _) rfl others

/-! ## Groups of expressions -/

/-- The name of an expression's group is a name. -/
theorem readGroupName_expressionName
    (ordinal : Nat)
    (rest : List Char) :
    ∃ shorter, readGroupName (expressionName ordinal ++ '>' :: rest) =
      .ok ⟨expressionName ordinal, rest, shorter⟩ := by
  have listed : ['e', '0', '1', '2', '3', '4', '5', '6', '7', '8', '9'].all fun char =>
      char.toNat < 128 ∧ (char.isAlpha ∨ char.isDigit) := by
    decide
  have isName (char : Char)
      (member : char ∈ ['e', '0', '1', '2', '3', '4', '5', '6', '7', '8', '9']) :
      isNameChar false char := by
    obtain ⟨ascii, kind⟩ := of_decide_eq_true (List.all_eq_true.mp listed char member)
    refine (isNameChar_iff_of_ascii ascii false).mpr (.inr ?_)
    exact kind.imp_right fun digit => ⟨rfl, .inr (.inr (.inr digit))⟩
  have named : ('e' :: (toString ordinal).toList).all (isNameChar false) := by
    rw [List.all_cons, Bool.and_eq_true]
    refine ⟨isName 'e' List.mem_cons_self, List.all_eq_true.mpr fun char member => ?_⟩
    exact isName char
      (List.mem_cons_of_mem _ (mem_digits_of_isDigit (isDigit_of_mem_toString member)))
  rw [expressionName_eq]
  exact yields_readGroupName (by decide) named rest

/-- Nothing is passed over in front of a group header. -/
theorem skipBlank_header
    (verbose : Bool)
    {char : Char}
    (header : char ∈ ['(', '?'])
    (text : List Char) :
    skipBlank verbose (char :: text) = char :: text := by
  have checked : ['(', '?'].all fun char => ¬ Unicode.isWhiteSpace char ∧ char ≠ '#' := by
    decide
  obtain ⟨visible, noComment⟩ := of_decide_eq_true (List.all_eq_true.mp checked char header)
  cases verbose with
  | false => rfl
  | true =>
      show skipComments false (char :: text) = _
      rw [skipComments, if_neg Bool.false_ne_true, if_neg visible, if_neg noComment]

/-- A question mark is no blank, so a header that starts with one is read alike in both
modes. -/
theorem readGroupHeader_questionMark
    (verbose : Bool)
    {text : List Char}
    {header : Read GroupHeader ('?' :: text)}
    (found : readHeader ('?' :: text) = .ok header) :
    readGroupHeader verbose ('?' :: text) = .ok header := by
  have reads : ∀ (skipped : List Char) (bound : skipped.length ≤ ('?' :: text).length),
      skipped = '?' :: text →
      (do return (← readHeader skipped).weaken bound) = Except.ok header := by
    rintro _ bound rfl
    exact Except.bind_eq_ok_iff.mpr ⟨header, found, rfl⟩
  exact reads _ _ (skipBlank_header verbose (List.mem_cons_of_mem _ List.mem_cons_self) text)

theorem captureHeader_append
    (ordinal : Nat)
    (more : List Char) :
    captureHeader ordinal ++ more =
      '(' :: '?' :: 'P' :: '<' :: (expressionName ordinal ++ '>' :: more) := by
  simp [captureHeader]

theorem readLexeme_captureHeader
    (verbose : Bool)
    (ordinal : Nat)
    (rest : List Char) :
    ∃ shorter, readLexeme verbose '('
        ('?' :: 'P' :: '<' :: (expressionName ordinal ++ '>' :: rest)) =
      .ok ⟨.opens (.named (expressionName ordinal)), rest, shorter⟩ := by
  obtain ⟨shorter, found⟩ := readGroupName_expressionName ordinal rest
  have bound : rest.length ≤
      ('?' :: 'P' :: '<' :: (expressionName ordinal ++ '>' :: rest)).length :=
    Nat.le_succ_of_le (Nat.le_succ_of_le (Nat.le_succ_of_le shorter))
  have header : readHeader ('?' :: 'P' :: '<' :: (expressionName ordinal ++ '>' :: rest)) =
      .ok ⟨.named (expressionName ordinal), rest, bound⟩ := by
    show (readGroupName _ >>= _) = _
    rw [found]
    rfl
  refine ⟨bound, ?_⟩
  show readGroupHeader verbose _ >>= _ = _
  rw [readGroupHeader_questionMark verbose header]
  rfl

/-- In any mode the header of an expression opens a capture under the name of the
expression, if the name is new. -/
theorem reads_captureHeader_of_fresh
    {state : ParseState}
    {ordinal : Nat}
    (fresh : expressionName ordinal ∉ state.names)
    (more : List Char) :
    Reads state (captureHeader ordinal ++ more)
      (state.openCapture (some (expressionName ordinal))) more := by
  obtain ⟨shorter, read⟩ := readLexeme_captureHeader state.verbose ordinal more
  rw [captureHeader_append]
  exact .token (skipBlank_header state.verbose List.mem_cons_self _) read
    (if_neg fresh) (.refl _ more)

/-- A name that is known already is refused. -/
theorem readTokens_captureHeader_of_mem
    {state : ParseState}
    {ordinal : Nat}
    (known : expressionName ordinal ∈ state.names)
    (more : List Char) :
    readTokens state (captureHeader ordinal ++ more) = .error .groupNameDuplicate := by
  obtain ⟨shorter, read⟩ := readLexeme_captureHeader state.verbose ordinal more
  have refused : state.take (.opens (.named (expressionName ordinal))) =
      .error .groupNameDuplicate := if_pos known
  rw [captureHeader_append, readTokens_of_lexeme
    (skipBlank_header state.verbose List.mem_cons_self _) read, refused]
  rfl

theorem arrives_captureHeader
    {state : ParseState}
    (distinct : state.names.Nodup)
    (ordinal : Nat)
    (more : List Char) :
    state.Arrives (captureHeader ordinal ++ more)
      (state.openCapture (some (expressionName ordinal))) more := by
  have fresh : (state.openCapture (some (expressionName ordinal))).names.Nodup ↔
      expressionName ordinal ∉ state.names :=
    List.nodup_cons.trans (and_iff_left distinct)
  unfold ParseState.Arrives
  split
  · next apart => exact reads_captureHeader_of_fresh (fresh.mp apart) more
  · next shared =>
      exact readTokens_captureHeader_of_mem (Decidable.of_not_not (mt fresh.mpr shared)) more

theorem reads_captureHeader
    {state complete : ParseState}
    {ordinal : Nat}
    {more : List Char}
    (found : readTokens state (captureHeader ordinal ++ more) = .ok complete) :
    Reads state (captureHeader ordinal ++ more)
      (state.openCapture (some (expressionName ordinal))) more := by
  refine reads_captureHeader_of_fresh (fun known => ?_) more
  cases found.symm.trans (readTokens_captureHeader_of_mem known more)

/-! ## Plain groups -/

/-- The header of a plain group. -/
theorem reads_plainHeader
    {state : ParseState}
    (plain : state.verbose = false)
    (more : List Char) :
    Reads state ('(' :: '?' :: ':' :: more) state.inside more := by
  obtain ⟨verbose, level, groups, captures, names⟩ := state
  obtain rfl : verbose = false := plain
  exact .token rfl rfl rfl (.refl _ more)

/-- The parenthesis that closes the innermost group. -/
theorem reads_close
    {state : ParseState}
    {group : OpenGroup}
    {groups : List OpenGroup}
    (plain : state.verbose = false)
    (opened : state.groups = group :: groups)
    (more : List Char) :
    Reads state (')' :: more)
      { state with
        verbose := group.verbose
        level := group.outer.push (.group group.kind state.level.toAst)
        groups } more := by
  obtain ⟨verbose, level, others, captures, names⟩ := state
  obtain rfl : verbose = false := plain
  obtain rfl : others = group :: groups := opened
  exact .token rfl rfl rfl (.refl _ more)

/-! ## Wrapped fragments -/

/-- A wrapped fragment is passed over as one part, if the fragment has a parse of its own
and its wrapping has one too. -/
theorem arrives_wrapped
    {fragment : List Char}
    {last single : ParseState}
    (alone : readTokens .start fragment = .ok last)
    (closed : last.groups = [])
    (wrapped : readTokens .start (wrapChars fragment) = .ok single)
    (singleClosed : single.groups = []) :
    ∃ inner : ParseState, single = ParseState.start.around inner ∧
      (inner = last ∨ endsInsideComment fragment ∧ last.verbose = false ∧
        inner = last.push (.literal ⟨'\n', false⟩)) ∧
      ∀ (outer : ParseState) (more : List Char), outer.verbose = false → outer.names.Nodup →
        outer.Arrives (wrapChars fragment ++ more) (outer.around inner) more := by
  obtain ⟨end', reads, blank⟩ := readTokens_eq_ok_iff.mp alone
  obtain ⟨closing, closes, same, broken⟩ : ∃ closing, IsClosing closing ∧
      wrapChars fragment = '(' :: '?' :: ':' :: (fragment ++ closing) ∧
      (closing = ['\n', ')'] → endsInsideComment fragment) := by
    rw [wrapChars]
    split
    · next comment => exact ⟨_, .inr rfl, rfl, fun _ => comment⟩
    · exact ⟨_, .inl rfl, rfl, nofun⟩
  rw [same] at wrapped ⊢
  have body := (@reads_plainHeader .start rfl (fragment ++ closing)).readTokens_eq_ok.mp
    wrapped
  rw [← ParseState.inside_within_start] at body
  obtain ⟨inner, -, singleSame, final, -, goesOn⟩ :=
    arrives_around reads closed blank closes (behind_append closing fragment) .nil body
      singleClosed
  refine ⟨inner, singleSame, final.imp_right fun ⟨lineBreak, plain, pushed⟩ =>
    ⟨broken lineBreak, plain, pushed⟩, fun outer more plain distinct => ?_⟩
  have header := reads_plainHeader plain (fragment ++ closing ++ more)
  have inside := goesOn outer more distinct
  rw [ParseState.inside_within_start] at inside
  have opened : outer.Arrives ('(' :: '?' :: ':' :: (fragment ++ closing ++ more)) outer.inside
      (fragment ++ closing ++ more) :=
    ParseState.arrives_of_reads distinct header
  exact opened.trans (fun _ => inside) (List.suffix_append _ _)

/-- What a wrapped fragment with a parse of its own is parsed as. -/
theorem parse_wrapped
    {fragment : List Char}
    {ast whole : Ast}
    (alone : parse fragment = .ok ast)
    (wrapped : parse (wrapChars fragment) = .ok whole) :
    ∃ inner : ParseState, readTokens .start (wrapChars fragment) = .ok (ParseState.start.around inner) ∧
      whole = .group (.plain []) inner.level.toAst ∧
      (¬ endsInsideComment fragment → inner.level.toAst = ast) ∧
      ∀ (outer : ParseState) (more : List Char), outer.verbose = false → outer.names.Nodup →
        outer.Arrives (wrapChars fragment ++ more) (outer.around inner) more := by
  obtain ⟨last, aloneRead, closed, rfl, -⟩ := parse_eq_ok_iff.mp alone
  obtain ⟨single, wrappedRead, singleClosed, rfl, -⟩ := parse_eq_ok_iff.mp wrapped
  obtain ⟨inner, rfl, final, goesOn⟩ := arrives_wrapped aloneRead closed wrappedRead singleClosed
  refine ⟨inner, wrappedRead, ?_, ?_, goesOn⟩
  · show Ast.group (.plain []) (inner.level.toAst.shift 0) = _
    rw [Ast.shift_zero]
  · intro noComment
    obtain rfl | ⟨comment, -⟩ := final
    · rfl
    · exact absurd comment noComment

end Linear
end LineExtraction

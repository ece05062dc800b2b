import LineExtraction.Proofs.Linear.Composition
import LineExtraction.Proofs.Linear.Naming

/-!
# Patterns with the end of a group behind them

A pattern that is put in a group has the end of the group behind it, a parenthesis with or
without a line break in front of it.  The parser reads the pattern as it does alone.  What it
makes of the rest depends on where it is at the end of the pattern: in a comment it overlooks the
parenthesis, in verbose mode it passes over the line break, and otherwise it takes the line break
for a character.
-/

namespace LineExtraction
namespace Linear

open Pattern (wrapChars endsInsideComment)

/-! ## Tokens in front of a closing -/

/-- A header with a question mark is read up to its own end. -/
theorem rest_of_query
    {verbose : Bool}
    {text suffix : List Char}
    {header : Read GroupHeader text}
    {more : Read GroupHeader (text ++ suffix)}
    (read : readGroupHeader verbose text = .ok header)
    (query : (skipBlank verbose text).head? = some '?')
    (longer : readGroupHeader verbose (text ++ suffix) = .ok more) :
    more.rest = header.rest ++ suffix := by
  obtain ⟨short, shortFound, made⟩ := Except.bind_eq_ok_iff.mp read
  obtain rfl := Except.ok.inj made
  obtain ⟨long, longFound, made⟩ := Except.bind_eq_ok_iff.mp longer
  obtain rfl := Except.ok.inj made
  obtain ⟨rest, skipped⟩ := List.head?_eq_some_iff.mp query
  have extend : Extends suffix (readHeader (skipBlank verbose text))
      (readHeader (skipBlank verbose (text ++ suffix))) := by
    rw [skipped, skipBlank_append suffix skipped]
    exact extends_readHeader rest suffix
  obtain ⟨other, otherFound, -, same⟩ := extend short shortFound
  obtain rfl := Except.ok.inj (otherFound.symm.trans longFound)
  exact same

/-- A header without a question mark names nothing and sets nothing. -/
theorem unnamed_of_readGroupHeader
    {verbose : Bool}
    {text : List Char}
    {header : Read GroupHeader text}
    (read : readGroupHeader verbose text = .ok header)
    (bare : (skipBlank verbose text).head? ≠ some '?') :
    header.value = .unnamed ∧ header.rest = skipBlank verbose text := by
  obtain ⟨found, foundRead, made⟩ := Except.bind_eq_ok_iff.mp read
  obtain rfl := Except.ok.inj made
  rw [readHeader_unnamed bare] at foundRead
  obtain rfl := Except.ok.inj foundRead
  exact ⟨rfl, rfl⟩

/-- Whether a lexeme leaves the mode of the parser and the open groups as they are. -/
def Lexeme.KeepsMode (lexeme : Lexeme) : Prop :=
  ∀ state next, ParseState.take state lexeme = .ok next →
    next.verbose = state.verbose ∧ next.groups = state.groups

theorem keepsMode_part
    (part : Ast) :
    (Lexeme.part part).KeepsMode := by
  rintro state _ ⟨⟩
  exact ⟨rfl, rfl⟩

theorem keepsMode_branches :
    Lexeme.branches.KeepsMode := by
  rintro state _ ⟨⟩
  exact ⟨rfl, rfl⟩

theorem keepsMode_repeats
    (count : Repeat) :
    (Lexeme.repeats count).KeepsMode := by
  intro state next taken
  simp only [ParseState.take] at taken
  split at taken
  · obtain rfl := Except.ok.inj taken
    rw [ParseState.quantify]
    split <;> exact ⟨rfl, rfl⟩
  · cases taken

/-- Only parentheses change the mode. -/
theorem keepsMode_readLexeme
    {verbose : Bool}
    {first : Char}
    {text : List Char}
    {lexeme : Read Lexeme text}
    (read : readLexeme verbose first text = .ok lexeme)
    (other : first ≠ '(' ∧ first ≠ ')') :
    lexeme.value.KeepsMode := by
  have mapped {α : Type} {reader : Except SyntaxError (Read α text)} {change : α → Lexeme}
      (same : ∀ value, (change value).KeepsMode)
      (found : (do return (← reader).map change) = .ok lexeme) : lexeme.value.KeepsMode := by
    obtain ⟨inner, -, found⟩ := Except.bind_eq_ok_iff.mp found
    obtain rfl := Except.ok.inj found
    exact same inner.value
  unfold readLexeme at read
  split at read
  · exact absurd rfl other.1
  · exact absurd rfl other.2
  · obtain rfl := Except.ok.inj read
    exact keepsMode_branches
  · exact mapped (fun _ => keepsMode_part _) read
  · exact mapped (fun _ => keepsMode_part _) read
  · obtain rfl := Except.ok.inj read
    exact keepsMode_part _
  · obtain rfl := Except.ok.inj read
    exact keepsMode_part _
  · obtain rfl := Except.ok.inj read
    exact keepsMode_part _
  · split at read
    · exact mapped keepsMode_repeats read
    · obtain rfl := Except.ok.inj read
      exact keepsMode_part _

/-- What a token leaves in front of a closing, seen from the state behind the token.  Only a
token that keeps the mode passes over blanks behind itself, or one that opens a group. -/
theorem behind_of_take
    {state next : ParseState}
    {first : Char}
    {text suffix : List Char}
    {lexeme : Read Lexeme text}
    {more : Read Lexeme (text ++ suffix)}
    (read : readLexeme state.verbose first text = .ok lexeme)
    (taken : state.take lexeme.value = .ok next)
    (closed : next.groups = [])
    (longer : readLexeme state.verbose first (text ++ suffix) = .ok more)
    (behind : Behind state.verbose suffix lexeme.rest more.rest) :
    Behind next.verbose suffix lexeme.rest more.rest := by
  by_cases opens : first = '('
  · subst opens
    obtain ⟨header, headerFound, made⟩ := Except.bind_eq_ok_iff.mp read
    obtain rfl := Except.ok.inj made
    obtain ⟨long, longFound, made⟩ := Except.bind_eq_ok_iff.mp longer
    obtain rfl := Except.ok.inj made
    replace taken : state.enter header.value = .ok next := taken
    cases value : header.value with
    | directive flags =>
        have query : (skipBlank state.verbose text).head? = some '?' := by
          refine Decidable.byContradiction fun bare => ?_
          cases (unnamed_of_readGroupHeader headerFound bare).1.symm.trans value
        exact .inl (rest_of_query headerFound query longFound)
    | named name =>
        rw [value, ParseState.enter] at taken
        split at taken
        · cases taken
        · obtain rfl := Except.ok.inj taken
          cases closed
    | _ =>
        rw [value] at taken
        obtain rfl := Except.ok.inj taken
        cases closed
  by_cases closes : first = ')'
  · subst closes
    obtain rfl := Except.ok.inj read
    obtain rfl := Except.ok.inj longer
    exact behind_append suffix text
  · rw [(keepsMode_readLexeme read ⟨opens, closes⟩ state next taken).1]
    exact behind

/-! ## Runs in front of a closing -/

/-- No token is read off nothing. -/
theorem Reads.eq_of_nil
    {state last : ParseState}
    {rest : List Char}
    (reads : Reads state [] last rest) :
    last = state ∧ rest = [] := by
  cases reads with
  | refl => exact ⟨rfl, rfl⟩
  | token skipped _ _ _ => cases (skipBlank_nil state.verbose).symm.trans skipped

/-- The parser reads a pattern in front of a closing as it reads it alone. -/
theorem Reads.exists_of_closing
    {state last : ParseState}
    {text rest suffix longer : List Char}
    (reads : Reads state text last rest)
    (closed : last.groups = [])
    (closing : Closing suffix)
    (behind : Behind state.verbose suffix text longer) :
    ∃ left, Reads state longer last left ∧ Behind last.verbose suffix rest left := by
  induction reads generalizing longer with
  | refl state text => exact ⟨longer, .refl state longer, behind⟩
  | @token state next last text behindFirst rest first lexeme skipped read taken others
      inductionHypothesis =>
      have same : longer = text ++ suffix := by
        refine behind.eq_append ?_
        rintro rfl
        cases (skipBlank_nil state.verbose).symm.trans skipped
      subst same
      obtain ⟨more, longerRead, value, left⟩ :=
        continues_readLexeme state.verbose first behindFirst suffix lexeme read (.inr closing)
      have behindNext : Behind next.verbose suffix lexeme.rest more.rest := by
        by_cases ended : lexeme.rest = []
        · have last := others
          rw [ended] at last
          obtain ⟨rfl, -⟩ := last.eq_of_nil
          exact behind_of_take read taken closed longerRead left
        · exact .inl (left.eq_append ended)
      obtain ⟨end', othersLonger, behindLast⟩ := inductionHypothesis closed behindNext
      rw [← value] at taken
      exact ⟨end', .token (skipBlank_append suffix skipped) longerRead taken othersLonger, behindLast⟩

theorem skipComments_skipComments
    (inComment : Bool)
    (text : List Char) :
    skipComments false (skipComments inComment text) = skipComments inComment text := by
  fun_induction skipComments inComment text with
  | case1 => rfl
  | case2 _ _ inductionHypothesis => exact inductionHypothesis
  | case3 _ _ _ _ _ inductionHypothesis => exact inductionHypothesis
  | case4 _ _ _ _ inductionHypothesis => exact inductionHypothesis
  | case5 _ _ _ notComment notBlank notHash =>
      rw [skipComments, if_neg Bool.false_ne_true, if_neg notBlank, if_neg notHash]

/-- What is left of a closing behind nothing but blanks. -/
theorem Behind.skipBlank
    {verbose : Bool}
    {suffix rest left : List Char}
    (behind : Behind verbose suffix rest left)
    (blank : Linear.skipBlank verbose rest = []) :
    Behind verbose suffix [] (Linear.skipBlank verbose left) := by
  obtain rfl | ⟨rfl, -, inComment, rfl⟩ := behind
  · have passed := behind_skipBlank verbose rest suffix
    rwa [blank] at passed
  · exact .inr ⟨rfl, rfl, inComment, skipComments_skipComments inComment suffix⟩

/-- What is left of a parenthesis behind nothing: it is overlooked only in a comment. -/
theorem Behind.parenthesis_cases
    {verbose : Bool}
    {left : List Char}
    (behind : Behind verbose [')'] [] left) :
    left = [')'] ∨ verbose ∧ left = [] := by
  obtain rfl | ⟨rfl, -, inComment, rfl⟩ := behind
  · exact .inl rfl
  · cases inComment with
    | false => exact .inl (by decide)
    | true => exact .inr ⟨rfl, by decide⟩

/-- What is left of a line break and more behind nothing: verbose mode passes over the line break,
which ends a comment if there is one. -/
theorem Behind.lineBreak
    {verbose : Bool}
    {more left : List Char}
    (behind : Behind verbose ('\n' :: more) [] (Linear.skipBlank verbose left)) :
    Linear.skipBlank verbose left = Linear.skipBlank verbose ('\n' :: more) := by
  have blank : Unicode.isWhiteSpace '\n' := by decide
  cases verbose with
  | false => exact behind.eq_append_of_terse
  | true =>
      obtain whole | ⟨-, -, inComment, ended⟩ := behind
      · exact absurd blank (head_ne_of_skipBlank whole)
      · rw [ended, Linear.skipBlank, if_pos rfl, skipComments, skipComments, if_pos blank]
        cases inComment <;> rfl

/-! ## Runs inside a group -/

/-- What the parser does outside of groups it does inside of one. -/
theorem Reads.inside
    {outer state last : ParseState}
    {text rest : List Char}
    (unnamed : outer.names = [])
    (reads : Reads state text last rest)
    (numbered : state.Numbered) :
    Reads (outer.inside.within state) text (outer.inside.within last) rest := by
  induction reads with
  | refl state text => exact .refl _ _
  | @token state next last text behind rest first lexeme skipped read taken others
      inductionHypothesis =>
      have bare := bare_readLexeme read
      have nextNumbered := numbered.take bare taken
      have own (state : ParseState) : state.names ++ outer.inside.names = state.names :=
        (congrArg (state.names ++ ·) unnamed).trans (List.append_nil state.names)
      obtain ⟨-, takes⟩ := ParseState.take_within outer.inside bare
        (by rw [own]; exact numbered.apart) taken
      rw [if_pos (by rw [own]; exact nextNumbered.apart)] at takes
      exact .token skipped read takes (inductionHypothesis nextNumbered)

section

variable {pattern : List Char} {last : ParseState}

/-- A pattern in front of a closing inside a group. -/
theorem reads_inside_closing
    (outer : ParseState)
    (terse : outer.verbose = false)
    (unnamed : outer.names = [])
    (read : readTokens .start pattern = .ok last)
    (closed : last.groups = [])
    {suffix : List Char}
    (closing : Closing suffix) :
    ∃ left, Reads .start (pattern ++ suffix) last left ∧
      Reads outer ('(' :: '?' :: ':' :: (pattern ++ suffix)) (outer.inside.within last) left ∧
      Behind last.verbose suffix [] (skipBlank last.verbose left) := by
  obtain ⟨rest, reads, blank⟩ := readTokens_eq_ok_iff.mp read
  obtain ⟨left, alone, behind⟩ := reads.exists_of_closing closed closing (behind_append suffix pattern)
  refine ⟨left, alone, ?_, behind.skipBlank blank⟩
  have header := reads_plainHeader terse (pattern ++ suffix)
  rw [← ParseState.inside_within_start] at header
  exact header.trans (alone.inside unnamed ParseState.numbered_start)

/-- The parse of a group around what a state has read, if that is not too deep. -/
def ParseState.grouped (inner : ParseState) : Except SyntaxError Ast :=
  if nestLimit < (Ast.group (.plain []) inner.level.toAst).depth then .error .nestLimitExceeded
  else .ok (.group (.plain []) inner.level.toAst)

/-- A group that is not too deep is what it is parsed as, and what stands in it is not too deep
either. -/
theorem parse_of_grouped
    {text : List Char}
    {inner : ParseState}
    (grouped : parse text = inner.grouped)
    (shallow : parse text ≠ .error .nestLimitExceeded) :
    parse text = .ok (.group (.plain []) inner.level.toAst) ∧
      inner.level.toAst.depth ≤ nestLimit := by
  rw [grouped, ParseState.grouped] at shallow ⊢
  split at shallow
  · exact absurd rfl shallow
  next within =>
    have deeper : (Ast.group (.plain []) inner.level.toAst).depth =
        inner.level.toAst.depth + 1 := rfl
    exact ⟨if_neg within, by omega⟩

/-- What the parser makes of a group around a pattern, if it sees the parenthesis. -/
theorem parse_group
    {text left : List Char}
    {inner : ParseState}
    (reads : Reads .start text (ParseState.start.inside.within inner) left)
    (closed : inner.groups = [])
    (seen : skipBlank inner.verbose left = [')']) :
    parse text = inner.grouped := by
  have around := reads.trans (reads_closing .start closed seen)
  have read : readTokens .start text = .ok (ParseState.start.around inner) :=
    readTokens_eq_ok_iff.mpr ⟨[], around, skipBlank_nil _⟩
  have same : (ParseState.start.around inner).level.toAst =
      .group (.plain []) inner.level.toAst := by
    show Ast.group (.plain []) (inner.level.toAst.shift 0) = _
    rw [Ast.shift_zero]
  rw [parse_of_readTokens read rfl, same]
  rfl

/-- Whether the parser is in a comment at the end of a pattern: it overlooks a parenthesis that
stands there. -/
def EndsInComment (text : List Char) : Prop :=
  ∃ last, readTokens .start text = .ok last ∧ readTokens .start (text ++ [')']) = .ok last

/-- What the parser has read behind a line break, which is a character outside of verbose mode. -/
def ParseState.withLineBreak (state : ParseState) : ParseState :=
  if state.verbose then state else state.push (.literal ⟨'\n', false⟩)

theorem closing_parenthesis : Closing [')'] :=
  closing_of_forall_mem (by simp)

theorem closing_lineBreak : Closing ['\n', ')'] :=
  closing_of_forall_mem (by simp)

/-- Outside of groups a parenthesis that is seen is refused. -/
theorem readTokens_parenthesis
    {left : List Char}
    (closed : last.groups = [])
    (seen : skipBlank last.verbose left = [')']) :
    readTokens last left = .error .groupUnopened := by
  have refused : last.take .closes = .error .groupUnopened := by
    rw [ParseState.take, ParseState.leave, closed]
  rw [readTokens_of_lexeme seen (show readLexeme last.verbose ')' [] = .ok _ from rfl), refused]
  rfl

/-- A parenthesis behind a pattern is seen, or the pattern ends in a comment. -/
theorem parenthesis_cases
    (read : readTokens .start pattern = .ok last)
    (closed : last.groups = []) :
    ∃ left,
      Reads .start ('(' :: '?' :: ':' :: (pattern ++ [')']))
        (ParseState.start.inside.within last) left ∧
      (skipBlank last.verbose left = [')'] ∧ ¬ EndsInComment pattern ∨
        skipBlank last.verbose left = [] ∧ EndsInComment pattern ∧ last.verbose) := by
  obtain ⟨left, alone, inside, behind⟩ := reads_inside_closing .start rfl rfl read closed closing_parenthesis
  refine ⟨left, inside, behind.parenthesis_cases.imp ?_ ?_⟩
  · intro seen
    refine ⟨seen, ?_⟩
    rintro ⟨other, found, longer⟩
    obtain rfl := Except.ok.inj (read.symm.trans found)
    have refused := readTokens_parenthesis closed seen
    cases (alone.readTokens_eq.symm.trans longer).symm.trans refused
  · rintro ⟨verbose, ended⟩
    exact ⟨ended, ⟨last, read, readTokens_eq_ok_iff.mpr ⟨left, alone, ended⟩⟩, verbose⟩

/-- A pattern ends in a comment only in verbose mode. -/
theorem EndsInComment.verbose
    (comment : EndsInComment pattern)
    (read : readTokens .start pattern = .ok last)
    (closed : last.groups = []) :
    last.verbose := by
  obtain ⟨left, -, ⟨-, noComment⟩ | ⟨-, -, verbose⟩⟩ := parenthesis_cases read closed
  · exact absurd comment noComment
  · exact verbose

/-- What a pattern with a line break behind it is read as. -/
theorem readTokens_lineBreak
    (read : readTokens .start pattern = .ok last)
    (closed : last.groups = []) :
    readTokens .start (pattern ++ ['\n']) = .ok last.withLineBreak := by
  obtain ⟨left, alone, -, behind⟩ :=
    reads_inside_closing .start rfl rfl read closed (closing_of_forall_mem (by simp) : Closing ['\n'])
  have seen := behind.lineBreak
  rw [ParseState.withLineBreak]
  split
  · next verbose =>
      rw [verbose] at seen
      exact readTokens_eq_ok_iff.mpr ⟨left, alone, by rw [verbose, seen]; decide⟩
  · next terse =>
      replace terse := Bool.eq_false_iff.mpr terse
      rw [terse] at seen
      have skipped : skipBlank last.verbose left = ['\n'] := by
        rw [terse]
        exact seen
      have found : readLexeme last.verbose '\n' [] =
          .ok ⟨.part (.literal ⟨'\n', false⟩), [], Nat.le_refl _⟩ := rfl
      have taken : Reads last left (last.push (.literal ⟨'\n', false⟩)) [] :=
        .token skipped found rfl (.refl _ [])
      exact readTokens_eq_ok_iff.mpr ⟨[], alone.trans taken, skipBlank_nil _⟩

/-- What a pattern in its wrapping is parsed as. -/
theorem parse_wrapChars
    (read : readTokens .start pattern = .ok last)
    (closed : last.groups = []) :
    (endsInsideComment pattern → parse (wrapChars pattern) = last.withLineBreak.grouped) ∧
    (¬ endsInsideComment pattern → EndsInComment pattern →
      parse (wrapChars pattern) = .error .groupUnclosed) ∧
    (¬ endsInsideComment pattern → ¬ EndsInComment pattern →
      parse (wrapChars pattern) = last.grouped) := by
  have broken (comment : endsInsideComment pattern) :
      wrapChars pattern = '(' :: '?' :: ':' :: (pattern ++ ['\n', ')']) := by
    simp [wrapChars, comment]
  have whole (quiet : ¬ endsInsideComment pattern) :
      wrapChars pattern = '(' :: '?' :: ':' :: (pattern ++ [')']) := by
    simp [wrapChars, quiet]
  obtain ⟨left, -, inside, behind⟩ := reads_inside_closing .start rfl rfl read closed closing_lineBreak
  have seen := behind.lineBreak
  obtain ⟨rest, overlooked, cases⟩ := parenthesis_cases read closed
  refine ⟨fun comment => ?_, fun quiet comment => ?_, fun quiet noComment => ?_⟩
  · rw [broken comment, ParseState.withLineBreak]
    split
    · next verbose =>
        rw [verbose] at seen
        exact parse_group inside closed (by rw [verbose, seen]; decide)
    · next terse =>
        replace terse := Bool.eq_false_iff.mpr terse
        rw [terse] at seen
        obtain rfl : left = ['\n', ')'] := seen
        refine parse_group (inside.trans (reads_lineBreak .start terse [')'])) closed ?_
        show skipBlank last.verbose [')'] = [')']
        rw [terse]
        rfl
  · obtain ⟨-, noComment⟩ | ⟨ended, -, -⟩ := cases
    · exact absurd comment noComment
    · have read : readTokens .start ('(' :: '?' :: ':' :: (pattern ++ [')'])) =
          .ok (ParseState.start.inside.within last) :=
        readTokens_eq_ok_iff.mpr ⟨rest, overlooked, ended⟩
      have unfinished : (ParseState.start.inside.within last).finish = .error .groupUnclosed := by
        rw [ParseState.finish, if_neg]
        rw [List.isEmpty_iff]
        exact ParseState.groups_inside_within .start last
      rw [whole quiet, parse, read]
      show ((ParseState.start.inside.within last).finish >>= _) = _
      rw [unfinished]
      rfl
  · obtain ⟨seen, -⟩ | ⟨-, comment, -⟩ := cases
    · rw [whole quiet]
      exact parse_group overlooked closed seen
    · exact absurd comment noComment

end

end Linear
end LineExtraction

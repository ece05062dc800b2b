import LineExtraction.Proofs.Extraction.Isolation
import LineExtraction.Proofs.Linear.Comments
import LineExtraction.Proofs.Linear.PhraseTrees

/-!
# What wrapping keeps

A pattern that is accepted is wrapped so that it stays accepted and matches what it matches
alone.  The scan that looks for a comment at its end decides whether a line break stands in
front of the closing parenthesis.  Where the scan goes right, wrapping keeps the meaning; where
it misses a comment, the parenthesis is lost in it, and where it sees one that there is not, the
line break becomes a part of the pattern.
-/

namespace LineExtraction

open Linear
open Pattern (wrapChars endsInsideComment)

namespace Linear

/-! ## Trees -/

theorem Regex.compile_congr
    {pattern other : String}
    (same : treeOf pattern = treeOf other)
    (sizeLimit : Nat) :
    compile sizeLimit pattern = compile sizeLimit other := by
  rw [compile, compile, same]

theorem Regex.treeOf_eq_of_parse
    {pattern : String}
    {ast : Ast}
    (parsed : parse pattern.toList = .ok ast) :
    treeOf pattern = lowerPattern ast := by
  rw [treeOf, parsed]
  rfl

/-- A plain group is lowered to the tree of what stands in it. -/
theorem lowerPattern_group
    (ast : Ast) :
    lowerPattern (.group (.plain []) ast) = lowerPattern ast := by
  have inside : lower .default (.group (.plain []) ast) = do
      let lowered ← lower .default ast
      return .single lowered.tree .default := rfl
  rw [lowerPattern, lowerPattern, inside]
  cases found : lower .default ast with
  | error cause => rfl
  | ok lowered => exact congrArg Except.ok (canonical_lower found).tree.ofBranches_singleton

/-- What is accepted has been read to its end, and its classes are known. -/
theorem Regex.exists_read_of_compile
    {sizeLimit : Nat}
    {pattern : String}
    {regex : Regex}
    (accepted : compile sizeLimit pattern = .ok regex) :
    ∃ last tree, readTokens .start pattern.toList = .ok last ∧ last.groups = [] ∧ last.IsPlain ∧
      parse pattern.toList = .ok last.level.toAst ∧ treeOf pattern = .ok tree ∧
      regex = .ofTree tree := by
  obtain ⟨tree, found, made⟩ := treeOf_of_compile accepted
  obtain ⟨last, read, closed, plain, parsed⟩ := exists_read_of_treeOf found
  exact ⟨last, tree, read, closed, plain, parsed, found, made⟩

/-- A pattern with a line break behind it has the tree of what is read of it. -/
theorem Regex.treeOf_lineBreak
    {pattern : String}
    {last : ParseState}
    (read : readTokens .start pattern.toList = .ok last)
    (closed : last.groups = [])
    (within : last.withLineBreak.level.toAst.depth ≤ nestLimit) :
    treeOf (pattern ++ "\n") = lowerPattern last.withLineBreak.level.toAst := by
  have same : (pattern ++ "\n").toList = pattern.toList ++ ['\n'] := String.toList_append
  have closedToo : last.withLineBreak.groups = [] := by
    rw [ParseState.withLineBreak]
    split <;> exact closed
  refine treeOf_eq_of_parse ?_
  rw [same, parse_of_readTokens (readTokens_lineBreak read closed) closedToo,
    if_neg (Nat.not_lt_of_le within)]

/-! ## The anchored form -/

theorem lower_anchored
    {body : Ast}
    {inner : Lowered}
    (found : lower .default body = .ok inner) :
    ∃ lowered, lower .default (.ofParts [.assertion .startText, .group (.plain []) body,
      .assertion .endText]) = .ok lowered := by
  have around : lower .default (.group (.plain []) body) = .ok (.single inner.tree .default) :=
    Except.bind_eq_ok_iff.mpr ⟨inner, found, rfl⟩
  exact ⟨_, Except.bind_eq_ok_iff.mpr ⟨_, rfl, Except.bind_eq_ok_iff.mpr ⟨_,
    Except.bind_eq_ok_iff.mpr ⟨_, around, Except.bind_eq_ok_iff.mpr ⟨_, rfl, rfl⟩⟩, rfl⟩⟩⟩

section

variable {source : String} {tree : Tree}

theorem spelledAll_pattern
    (source : String) :
    (Pattern.wrap source).toList =
      Piece.spelledAll (.extraction .linear) 0 [.pattern source .unknown] := by
  rw [Pattern.wrap, String.toList_ofList]
  exact (List.append_nil _).symm

theorem Isolated.standAlone
    (isolated : Isolated source) :
    Piece.StandAlone (.extraction .linear) (Piece.patternsOf [.pattern source .unknown]) := by
  obtain ⟨ast, parsed, wrapped⟩ := isolated
  intro other member
  obtain rfl : other = (source, .unknown) := List.mem_singleton.mp member
  exact ⟨⟨ast, parsed⟩, _, wrapped⟩

/-- The anchored form of a pattern that its wrapping keeps together is accepted, unless it nests
too deep. -/
theorem Isolated.exists_treeOf_anchored
    (isolated : Isolated source)
    (found : Regex.treeOf source = .ok tree)
    (shallow : parse (Dialect.anchored (Pattern.wrap source)).toList ≠
      .error .nestLimitExceeded) :
    ∃ whole, Regex.treeOf (Dialect.anchored (Pattern.wrap source)) = .ok whole := by
  have alone := isolated.standAlone
  obtain ⟨ast, parsed, wrapped⟩ := isolated
  obtain ⟨inner, read, same, -⟩ := parse_wrapped parsed wrapped
  obtain rfl : ast = inner.level.toAst := by simpa using same
  have passage : Piece.passageOf (.extraction .linear) 0 0 [.pattern source .unknown] =
      ⟨[.group (.plain []) inner.level.toAst], inner.captures, inner.names⟩ := by
    have single : Passage.ofFragment 0 source.toList = _ := Piece.ofFragment_eq read 0
    rw [Ast.shift_zero] at single
    show (Passage.ofFragment 0 source.toList).append ⟨[], 0, []⟩ = _
    rw [single]
    simp [Passage.append]
  have distinct : inner.names.Nodup := by
    obtain ⟨rest, reads, -⟩ := readTokens_eq_ok_iff.mp read
    have numbered := (ParseState.numbered_start.reads reads).1
    simpa [ParseState.around, ParseState.start] using numbered.apart
  have anchored := Piece.parse_anchored rfl alone (spelledAll_pattern source)
  rw [passage, if_pos distinct] at anchored
  split at anchored
  · exact absurd anchored shallow
  rw [Piece.anchoredAst, passage] at anchored
  obtain ⟨_, sameParsed, lowers⟩ := Except.bind_eq_ok_iff.mp found
  obtain rfl := Except.ok.inj (parsed.symm.trans sameParsed)
  obtain ⟨lowered, loweredFound, -⟩ := Except.bind_eq_ok_iff.mp lowers
  obtain ⟨whole, wholeFound⟩ := lower_anchored
    (show lower .default (.ofParts [.group (.plain []) inner.level.toAst]) = .ok _ from
      Except.bind_eq_ok_iff.mpr ⟨lowered, loweredFound, rfl⟩)
  exact ⟨whole.tree, Except.bind_eq_ok_iff.mpr
    ⟨_, anchored, Except.bind_eq_ok_iff.mpr ⟨whole, wholeFound, rfl⟩⟩⟩

/-- The anchored form of a pattern that its wrapping keeps together matches the lines that the
pattern matches from start to end. -/
theorem Isolated.isMatch_anchored_iff
    {whole : Tree}
    (isolated : Isolated source)
    (found : Regex.treeOf source = .ok tree)
    (wholeFound : Regex.treeOf (Dialect.anchored (Pattern.wrap source)) = .ok whole)
    (line : Line) :
    (Regex.ofTree whole).isMatch line ↔ tree.Matches line 0 line.length := by
  have alike : (Regex.ofTree whole).isMatch line ↔
      HasMatch (Dialect.anchored (Pattern.wrap source)) line := by
    rw [Regex.isMatch_ofTree_iff]
    constructor
    · exact fun matched => ⟨whole, wholeFound, matched⟩
    · rintro ⟨other, sameTree, matched⟩
      obtain rfl := Except.ok.inj (wholeFound.symm.trans sameTree)
      exact matched
  have own : MatchesAlone source.toList line 0 line.length ↔ tree.Matches line 0 line.length := by
    rw [MatchesAlone, String.ofList_toList, found]
    simp
  rw [alike, Piece.hasMatch_anchored_iff rfl isolated.standAlone (spelledAll_pattern source)
    wholeFound, ← own, ← isolated.matchesAlone_iff]
  simp [Piece.CutsAll, Piece.Cuts, Piece.wrappedFits, Writing.fragment]

end

end Linear

/-! ## Wrapped patterns -/

/-- Wrapping keeps the meaning of an accepted pattern, unless it nests too deep in its wrapping,
if the scan for comments can follow the tokens of the pattern.  It does so whenever the scan finds
a comment at the end exactly if the parser is in one: the wrapped pattern is compiled to the same,
and anchored it matches the lines that the pattern matches from start to end.  A comment that the
scan misses hides the closing parenthesis, and a line break that it sets counts as a part of the
pattern. -/
theorem Linear.compile_wrap
    (sizeLimit : Nat)
    (pattern : String)
    (regex : Regex)
    (accepted : Regex.compile sizeLimit pattern = .ok regex)
    (shallow : parse (Pattern.wrap pattern).toList ≠ .error .nestLimitExceeded) :
    (isLegible pattern.toList →
      (endsInsideComment pattern.toList ↔ EndsInComment pattern.toList)) ∧
    ((endsInsideComment pattern.toList ↔ EndsInComment pattern.toList) →
      Regex.compile sizeLimit (Pattern.wrap pattern) = .ok regex ∧
      (parse (Dialect.anchored (Pattern.wrap pattern)).toList ≠ .error .nestLimitExceeded →
        ∃ whole, Regex.treeOf (Dialect.anchored (Pattern.wrap pattern)) = .ok whole ∧
          ∀ line, (Regex.ofTree whole).isMatch line ↔ regex.tree.Matches line 0 line.length)) ∧
    (¬ endsInsideComment pattern.toList → EndsInComment pattern.toList →
      Regex.compile sizeLimit (Pattern.wrap pattern) = .error (.illFormed .groupUnclosed)) ∧
    (endsInsideComment pattern.toList →
      Regex.compile sizeLimit (Pattern.wrap pattern) =
        Regex.compile sizeLimit (pattern ++ "\n")) := by
  obtain ⟨last, tree, read, closed, plain, parsed, found, rfl⟩ :=
    Regex.exists_read_of_compile accepted
  obtain ⟨broken, hidden, seen⟩ := parse_wrapChars read closed
  have chars : (Pattern.wrap pattern).toList = wrapChars pattern.toList := String.toList_ofList
  rw [← chars] at broken hidden seen
  refine ⟨endsInsideComment_iff read closed plain, fun agrees => ?_, fun quiet comment => ?_,
    fun comment => ?_⟩
  · have grouped : parse (Pattern.wrap pattern).toList = last.grouped := by
      by_cases comment : EndsInComment pattern.toList
      · have same : last.withLineBreak = last := if_pos (comment.verbose read closed)
        exact same ▸ broken (agrees.mpr comment)
      · exact seen (fun sees => comment (agrees.mp sees)) comment
    have wrapped := (parse_of_grouped grouped shallow).1
    have isolated : Isolated pattern := ⟨_, parsed, chars ▸ wrapped⟩
    have same : Regex.treeOf (Pattern.wrap pattern) = Regex.treeOf pattern := by
      rw [Regex.treeOf_eq_of_parse wrapped, lowerPattern_group, Regex.treeOf_eq_of_parse parsed]
    refine ⟨(Regex.compile_congr same sizeLimit).trans accepted, fun anchoredShallow => ?_⟩
    obtain ⟨whole, wholeFound⟩ := isolated.exists_treeOf_anchored found anchoredShallow
    exact ⟨whole, wholeFound, isolated.isMatch_anchored_iff found wholeFound⟩
  · have refused : Regex.treeOf (Pattern.wrap pattern) = .error .groupUnclosed := by
      rw [Regex.treeOf, hidden quiet comment]
      rfl
    rw [Regex.compile, refused]
    rfl
  · obtain ⟨wrapped, within⟩ := parse_of_grouped (broken comment) shallow
    refine Regex.compile_congr ?_ sizeLimit
    rw [Regex.treeOf_eq_of_parse wrapped, lowerPattern_group,
      Regex.treeOf_lineBreak read closed within]

/-- A repetition in verbose mode, with a bracket in the comment at its end. -/
def remarkedRun : String := "(?x)(a b)+ #[c"

theorem Linear.compile_wrap_remarkedRun :
    ∃ regex, Regex.compile defaultSizeLimit remarkedRun = .ok regex ∧
      Regex.compile defaultSizeLimit (Pattern.wrap remarkedRun) = .ok regex ∧
      EndsInComment remarkedRun.toList ∧
      ∃ whole, Regex.treeOf (Dialect.anchored (Pattern.wrap remarkedRun)) = .ok whole ∧
        ∀ line, (Regex.ofTree whole).isMatch line ↔ regex.tree.Matches line 0 line.length := by
  obtain ⟨regex, accepted, -⟩ :
      ∃ regex, Regex.compile defaultSizeLimit remarkedRun = .ok regex ∧ true :=
    Except.exists_ok_of_decide (by decide +kernel)
  obtain ⟨wrapped, wrappedParsed, -⟩ :
      ∃ wrapped, parse (Pattern.wrap remarkedRun).toList = .ok wrapped ∧ true :=
    Except.exists_ok_of_decide (by decide +kernel)
  obtain ⟨whole, wholeParsed, -⟩ :
      ∃ whole, parse (Dialect.anchored (Pattern.wrap remarkedRun)).toList = .ok whole ∧ true :=
    Except.exists_ok_of_decide (by decide +kernel)
  obtain ⟨agrees, keeps, -, -⟩ := Linear.compile_wrap defaultSizeLimit remarkedRun regex accepted
    (by rw [wrappedParsed]; exact nofun)
  have same := agrees (by decide +kernel)
  obtain ⟨compiled, anchored⟩ := keeps same
  exact ⟨regex, accepted, compiled, same.mp (by decide +kernel),
    anchored (by rw [wholeParsed]; exact nofun)⟩

/-- A class with a class in it that starts with a bracket, and what would be a flag and the start
of a comment behind it. -/
def looseClass : String := "[[]](?x)#]"

/-- The members of the class. -/
def looseMembers : Unicode.CodePointSet :=
  ⟨[⟨35, 35⟩, ⟨40, 41⟩, ⟨63, 63⟩, ⟨93, 93⟩, ⟨120, 120⟩]⟩

theorem treeOf_looseClass :
    Regex.treeOf looseClass = .ok (.set looseMembers) ∧
      Regex.treeOf (Dialect.anchored (Pattern.wrap looseClass)) =
        .ok (.concat (.look .startText) (.concat (.set looseMembers)
          (.concat (.literal ['\n']) (.look .endText)))) := by
  let members : ClassSet := .ofItems
    (.bracketed false (.literal ⟨']', false⟩) ::
      ['(', '?', 'x', ')', '#'].map fun char => .literal ⟨char, false⟩)
  have parsed : (parse looseClass.toList).toOption = some (.bracketed false members) := by
    decide +kernel
  have anchoredParsed :
      (parse (Dialect.anchored (Pattern.wrap looseClass)).toList).toOption =
        some (.ofParts [.assertion .startText,
          .group (.plain []) (.group (.plain [])
            (.concat (.bracketed false members) (.literal ⟨'\n', false⟩))),
          .assertion .endText]) := by
    decide +kernel
  constructor
  · exact Except.bind_eq_ok_iff.mpr ⟨_, Except.toOption_eq_some_iff.mp parsed, by cbv⟩
  · exact Except.bind_eq_ok_iff.mpr ⟨_, Except.toOption_eq_some_iff.mp anchoredParsed, by cbv⟩

/-- The scan takes the first bracket behind the inner class for its end, reads on behind the
class, and finds a comment.  With the line break that it sets, the wrapped pattern no longer
matches what the pattern matches. -/
theorem Linear.compile_wrap_looseClass :
    ∃ regex whole, Regex.compile defaultSizeLimit looseClass = .ok regex ∧
      Regex.compile defaultSizeLimit (Dialect.anchored (Pattern.wrap looseClass)) = .ok whole ∧
      endsInsideComment looseClass.toList ∧ ¬ EndsInComment looseClass.toList ∧
      regex.tree.Matches (Line.ofString "x") 0 1 ∧ ¬ whole.isMatch (Line.ofString "x") := by
  refine ⟨_, _, Regex.compile_of_fitsWithin treeOf_looseClass.1 (by decide +kernel),
    Regex.compile_of_fitsWithin treeOf_looseClass.2 (by decide +kernel), by decide +kernel, ?_, ?_,
    by decide +kernel⟩
  · rintro ⟨last, -, overlooked⟩
    have refused : (readTokens .start (looseClass.toList ++ [')'])).toOption.isSome = false := by
      decide +kernel
    rw [overlooked] at refused
    cases refused
  · exact ⟨by decide +kernel, rfl⟩

end LineExtraction

import LineExtraction.Proofs.Extraction.Segments
import LineExtraction.Proofs.Linear.Closing

/-!
# Which patterns a discriminator reports

A discriminator runs each pattern as a group between the two ends of the line, which is done by
writing the group and the ends around the text of the pattern.  The parser reads such a text as it
looks: a pattern with a parse of its own is what stands in the group, whatever its alternatives,
flags and comments are, unless it ends in a comment.  Then the comment goes on behind it, over the
parenthesis and the end of the line, and the group is never closed.  So a discriminator that could
be built reports a pattern exactly when the pattern alone matches the whole line, and what one
pattern matches says nothing about another.
-/

namespace LineExtraction

open Linear

namespace Linear

/-! ## Patterns between the ends of the line -/

/-- What stands behind a pattern between the ends of the line. -/
theorem closing_ending : Closing [')', '\\', 'z'] := by
  rintro left (rfl | ⟨-, -, inComment, rfl⟩) char head
  · exact .inl (Option.some.inj head).symm
  · cases inComment with
    | false => exact .inl (Option.some.inj head).symm
    | true => cases head

/-- The ending behind nothing is seen, or it is overlooked as a whole. -/
theorem Behind.ending_cases
    {verbose : Bool}
    {left : List Char}
    (behind : Behind verbose [')', '\\', 'z'] [] left) :
    left = [')', '\\', 'z'] ∨ left = [] := by
  obtain rfl | ⟨-, -, inComment, rfl⟩ := behind
  · exact .inl rfl
  · cases inComment with
    | false => exact .inl (by decide)
    | true => exact .inr (by decide)

/-- A pattern that has a parse is read between the ends of the line as what it is alone, if the
whole has a parse too. -/
theorem eq_of_parse_anchored
    {pattern : String}
    {ast whole : Ast}
    (alone : parse pattern.toList = .ok ast)
    (anchored : parse (Dialect.anchored pattern).toList = .ok whole) :
    whole = .ofParts [.assertion .startText, .group (.plain []) ast, .assertion .endText] := by
  obtain ⟨last, read, closed, rfl, -⟩ := parse_eq_ok_iff.mp alone
  obtain ⟨final, wholeRead, finalClosed, rfl, -⟩ := parse_eq_ok_iff.mp anchored
  let outer := ParseState.start.push (.assertion .startText)
  obtain ⟨left, -, inside, behind⟩ := reads_inside_closing outer rfl rfl read closed closing_ending
  have front : Reads .start (Dialect.anchored pattern).toList (outer.inside.within last) left := by
    rw [Dialect.toList_anchored]
    exact .token rfl rfl rfl inside
  obtain seen | overlooked := behind.ending_cases
  · have around := front.trans (reads_closing outer closed seen)
    have ended : Reads .start (Dialect.anchored pattern).toList
        ((outer.around last).push (.assertion .endText)) [] :=
      around.trans (.token rfl rfl rfl (.refl _ []))
    obtain rfl : (outer.around last).push (.assertion .endText) = final :=
      (readTokens_eq_ok_iff_of_blank rfl).mp (ended.readTokens_eq_ok.mp wholeRead)
    show Ast.ofParts [.assertion .startText, .group (.plain []) (last.level.toAst.shift 0),
      .assertion .endText] = _
    rw [Ast.shift_zero]
  · -- The parenthesis is lost in a comment, so the group around the pattern stays open.
    have blank : skipBlank (outer.inside.within last).verbose left = [] := overlooked
    obtain rfl : outer.inside.within last = final :=
      (readTokens_eq_ok_iff_of_blank blank).mp (front.readTokens_eq_ok.mp wholeRead)
    exact absurd finalClosed (ParseState.groups_inside_within outer last)

/-- A pattern has a match between the ends of a line exactly when it matches the whole line. -/
theorem hasMatch_anchored_iff_matchesAlone
    {pattern : String}
    {tree anchoredTree : Tree}
    (alone : Regex.treeOf pattern = .ok tree)
    (anchored : Regex.treeOf (Dialect.anchored pattern) = .ok anchoredTree)
    (line : Line) :
    HasMatch (Dialect.anchored pattern) line ↔ MatchesAlone pattern.toList line 0 line.length := by
  obtain ⟨ast, parsed, -⟩ := Except.bind_eq_ok_iff.mp alone
  obtain ⟨whole, anchoredParsed, -⟩ := Except.bind_eq_ok_iff.mp anchored
  obtain rfl := eq_of_parse_anchored parsed anchoredParsed
  obtain ⟨inner, innerFound, hasMatch⟩ := hasMatch_iff_of_parse anchoredParsed anchored
  rw [hasMatch, matchesAlone_iff_of_parse parsed]
  constructor
  · exact fun isInside => ⟨inner, innerFound, isInside⟩
  · rintro ⟨other, sameFound, isInside⟩
    obtain rfl := Except.ok.inj (innerFound.symm.trans sameFound)
    exact isInside

end Linear

/-! ## Discriminators over patterns -/

namespace Discriminator

/-- A discriminator over patterns that are accepted alone counts its patterns, and for each line
it reports in ascending order the numbers of exactly those patterns that alone match the line from
its first to its last byte. -/
theorem candidates_of_builder_matchesAlone
    {sizeLimit : Nat}
    {patterns : List String}
    {discriminator : Discriminator}
    (valid : ∀ pattern ∈ patterns, ∃ tree, Regex.treeOf pattern = .ok tree)
    (built : (builder sizeLimit patterns).value = .ok discriminator) :
    discriminator.size = patterns.length ∧
      ∀ line, (discriminator.candidates line).Pairwise (· < ·) ∧
        ∀ number, number ∈ discriminator.candidates line ↔
          ∃ pattern, patterns[number]? = some pattern ∧
            MatchesAlone pattern.toList line 0 line.length := by
  obtain ⟨trees, treeCount, same, treeAt⟩ := trees_of_builder built
  refine ⟨?_, fun line => ?_⟩
  · rw [same]
    exact (List.length_map _).trans treeCount
  · obtain ⟨ascending, reported⟩ := candidates_of_builder built line
    refine ⟨ascending, fun number => (reported number).trans ?_⟩
    refine exists_congr fun pattern => and_congr_right fun found => ?_
    obtain ⟨tree, alone⟩ := valid pattern (List.mem_of_getElem? found)
    obtain ⟨anchoredTree, -, anchored⟩ := treeAt number pattern found
    exact hasMatch_anchored_iff_matchesAlone alone anchored line

/-- Patterns with alternatives, with a flag and with a comment. -/
def variedPatterns : List String := ["a|ab", "(?U)[a-z]+", "(?x) a b # both\n", "a|bc"]

theorem candidates_of_builder_matchesAlone_variedPatterns :
    ∃ discriminator, (builder 10000 variedPatterns).value = .ok discriminator ∧
      (∀ pattern ∈ variedPatterns, ∃ tree, Regex.treeOf pattern = .ok tree) ∧
      discriminator.candidates (Line.ofString "ab") = [0, 1, 2] ∧
      MatchesAlone "a|ab".toList (Line.ofString "ab") 0 (Line.ofString "ab").length := by
  obtain ⟨discriminator, built, reports⟩ :
      ∃ discriminator, (builder 10000 variedPatterns).value = .ok discriminator ∧
        decide (discriminator.candidates (Line.ofString "ab") = [0, 1, 2]) :=
    Except.exists_ok_of_decide (by decide +kernel)
  have valid : ∀ pattern ∈ variedPatterns, ∃ tree, Regex.treeOf pattern = .ok tree := by
    have checked : ∀ pattern ∈ variedPatterns, (Regex.treeOf pattern).toOption.isSome := by
      decide +kernel
    intro pattern member
    obtain ⟨tree, found⟩ := Option.isSome_iff_exists.mp (checked pattern member)
    exact ⟨tree, Except.toOption_eq_some_iff.mp found⟩
  replace reports := of_decide_eq_true reports
  obtain ⟨-, members⟩ := candidates_of_builder_matchesAlone valid built
  obtain ⟨pattern, found, matched⟩ := ((members (Line.ofString "ab")).2 0).mp (by simp [reports])
  obtain rfl := Option.some.inj found
  exact ⟨discriminator, built, valid, reports, matched⟩

end Discriminator
end LineExtraction

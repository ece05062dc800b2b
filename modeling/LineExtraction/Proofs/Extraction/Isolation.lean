import LineExtraction.Proofs.Extraction.Segments

/-!
# When pieces keep to themselves

A unit of the linear dialect should accept the lines that are cut as its pieces, each
pattern matching its segment on its own.  A pattern is only checked in its wrapping, and
the wrapping is written by a scan of the text, so this does not hold of every pattern that
is let through; the statements here say when it does.
-/

namespace LineExtraction

open Linear Piece
open Pattern (wrapChars)

/-- What a pattern matches on its own. -/
def ownFits : Fits := fun source => MatchesAlone source.toList

/-- Whether a pattern has a parse of its own. -/
def Linear.Parses (source : String) : Prop :=
  ∃ ast, parse source.toList = .ok ast

/-- Whether a wrapped pattern is parsed as a group around the parse of the pattern. -/
def Linear.Isolated (source : String) : Prop :=
  ∃ ast, parse source.toList = .ok ast ∧
    parse (wrapChars source.toList) = .ok (.group (.plain []) ast)

/-- A pattern that the wrapping keeps together matches wrapped what it matches alone. -/
theorem Linear.Isolated.matchesAlone_iff
    {source : String}
    (isolated : Isolated source)
    (line : Line)
    (start stop : Nat) :
    MatchesAlone (wrapChars source.toList) line start stop ↔
      MatchesAlone source.toList line start stop := by
  obtain ⟨ast, parsed, wrapped⟩ := isolated
  have bounded := bounded_parse parsed
  rw [matchesAlone_iff_of_parse wrapped, matchesAlone_iff_of_parse parsed]
  constructor
  · rintro ⟨lowered, found, matched⟩
    obtain ⟨inner, innerFound, -, agrees⟩ :=
      lower_group (show (GroupKind.plain []).SetsNothing from rfl) bounded found
    exact ⟨inner, innerFound, (agrees ..).mp matched⟩
  · rintro ⟨inner, innerFound, matched⟩
    have found : lower .default (.group (.plain []) ast) =
        .ok (.single inner.tree .default) :=
      Except.bind_eq_ok_iff.mpr ⟨inner, innerFound, rfl⟩
    obtain ⟨same, sameFound, -, agrees⟩ :=
      lower_group (show (GroupKind.plain []).SetsNothing from rfl) bounded found
    obtain rfl := Except.ok.inj (innerFound.symm.trans sameFound)
    exact ⟨_, found, (agrees ..).mpr matched⟩

section

variable {sizeLimit number : Nat} {definition : Definition} {compiled : CompiledPieces}
  {unit : ExtractionUnit}

/-- Every pattern of a definition that compiles has a parse in its wrapping. -/
theorem parse_wrapChars_of_compile
    (compiles : definition.compile (Dialect.linear sizeLimit) = .ok compiled) :
    ∀ source ∈ definition.patterns, ∃ whole, parse (wrapChars source.1.toList) = .ok whole := by
  intro source member
  have writes := Options.dialect_writes ⟨.linear, some sizeLimit, none, none, false⟩
  obtain ⟨extraction, found⟩ :=
    (Definition.compiles_of_compile writes compiles).fragments source member
  obtain ⟨regex, regexFound, -⟩ := Except.bind_eq_ok_iff.mp found
  obtain ⟨tree, treeFound, -⟩ := Dialect.treeOf_of_compileLinear regexFound
  obtain ⟨whole, parsed, -⟩ := Except.bind_eq_ok_iff.mp treeFound
  rw [Pattern.wrap, String.toList_ofList] at parsed
  exact ⟨whole, parsed⟩

/-- Where every pattern has a parse of its own, a unit accepts the lines that are cut as
its pieces with every pattern matching in its wrapping. -/
theorem isSome_extract_iff_cutsAll_wrapped
    (compiles : definition.compile (Dialect.linear sizeLimit) = .ok compiled)
    (finished : (Dialect.linear sizeLimit).finish number compiled.extraction definition = .ok unit)
    (parses : ∀ source ∈ definition.patterns, Parses source.1)
    (line : Line) :
    (unit.extract line).isSome ↔
      CutsAll (wrappedFits (.extraction .linear)) line definition.pieces 0 line.length := by
  have writes := Options.dialect_writes ⟨.linear, some sizeLimit, none, none, false⟩
  have isWritten := (Definition.compiles_of_compile writes compiles).extraction
  obtain ⟨regex, regexFound, -⟩ := Except.bind_eq_ok_iff.mp finished
  obtain ⟨tree, treeFound, -⟩ :=
    Dialect.treeOf_of_compileLinear (Except.mapError_eq_ok_iff.mp regexFound)
  rw [Dialect.isSome_extract_iff finished]
  have alone : StandAlone (.extraction .linear) definition.patterns := fun source member =>
    ⟨parses source member, parse_wrapChars_of_compile compiles source member⟩
  exact hasMatch_anchored_iff rfl alone isWritten treeFound line

/-- Where every pattern is kept together by its wrapping, a unit accepts the lines that
are cut as its pieces with every pattern matching on its own. -/
theorem isSome_extract_iff_cutsAll_own
    (compiles : definition.compile (Dialect.linear sizeLimit) = .ok compiled)
    (finished : (Dialect.linear sizeLimit).finish number compiled.extraction definition = .ok unit)
    (isolated : ∀ source ∈ definition.patterns, Isolated source.1)
    (line : Line) :
    (unit.extract line).isSome ↔ CutsAll ownFits line definition.pieces 0 line.length := by
  have parses : ∀ source ∈ definition.patterns, Parses source.1 := fun source member =>
    (isolated source member).imp fun _ both => both.1
  rw [isSome_extract_iff_cutsAll_wrapped compiles finished parses]
  exact cutsAll_congr definition.pieces
    (fun source member => (isolated source member).matchesAlone_iff line) 0 line.length

/-- No line is cut as pieces among which a pattern has no parse of its own. -/
theorem not_cutsAll_own
    {pieces : List Piece}
    {line : Line}
    {start stop : Nat}
    {source : String × Location}
    (member : source ∈ patternsOf pieces)
    (noParse : ¬ Parses source.1) :
    ¬ CutsAll ownFits line pieces start stop := by
  intro cuts
  obtain ⟨start, stop, tree, found, -⟩ := exists_fits_of_cutsAll pieces cuts source member
  obtain ⟨ast, parsed, -⟩ := Except.bind_eq_ok_iff.mp found
  rw [String.toList_ofList] at parsed
  exact noParse ⟨ast, parsed⟩

end

/-- A unit of the linear dialect accepts exactly the lines that are cut as its pieces, if
every pattern is kept together by its wrapping.  In general it does so at a line exactly
when either all patterns have parses of their own, and it makes no difference to the line
whether they are wrapped, or one of them has none, and the line is refused. -/
theorem isSome_extract_iff_cutsAll_iff
    (sizeLimit number : Nat)
    (definition : Definition)
    (compiled : CompiledPieces)
    (unit : ExtractionUnit)
    (compiles : definition.compile (Dialect.linear sizeLimit) = .ok compiled)
    (finished :
      (Dialect.linear sizeLimit).finish number compiled.extraction definition = .ok unit) :
    ((∀ source ∈ definition.patterns, Isolated source.1) →
      ∀ line, (unit.extract line).isSome ↔
        CutsAll ownFits line definition.pieces 0 line.length) ∧
    ∀ line,
      ((unit.extract line).isSome ↔ CutsAll ownFits line definition.pieces 0 line.length) ↔
        ((∀ source ∈ definition.patterns, Parses source.1) →
          (CutsAll (wrappedFits (.extraction .linear)) line definition.pieces 0 line.length ↔
            CutsAll ownFits line definition.pieces 0 line.length)) ∧
        ((∃ source ∈ definition.patterns, ¬ Parses source.1) → unit.extract line = none) := by
  refine ⟨isSome_extract_iff_cutsAll_own compiles finished, fun line => ?_⟩
  by_cases parses : ∀ source ∈ definition.patterns, Parses source.1
  · have wrapped := isSome_extract_iff_cutsAll_wrapped compiles finished parses line
    rw [wrapped]
    constructor
    · intro same
      refine ⟨fun _ => same, ?_⟩
      rintro ⟨source, member, noParse⟩
      exact absurd (parses source member) noParse
    · exact fun both => both.1 parses
  · have noParse : ∃ source ∈ definition.patterns, ¬ Parses source.1 := by
      simpa using parses
    obtain ⟨source, member, refuses⟩ := noParse
    have never : ¬ CutsAll ownFits line definition.pieces 0 line.length :=
      not_cutsAll_own member refuses
    constructor
    · intro same
      refine ⟨fun all => absurd all parses, fun _ => ?_⟩
      exact Option.not_isSome_iff_eq_none.mp fun accepts => never (same.mp accepts)
    · intro both
      have none := both.2 ⟨source, member, refuses⟩
      exact iff_of_false (Option.not_isSome_iff_eq_none.mpr none) never

/-- A definition whose pattern piece closes its wrapping and opens another group. -/
def leakedChoice : Definition :=
  ⟨"choice", [.text "x" .unknown, .pattern "ab)|(?:c" .unknown, .text "y" .unknown], .unknown⟩

theorem isSome_extract_iff_cutsAll_iff_leakedChoice :
    ∃ compiled, leakedChoice.compile (Dialect.linear Linear.defaultSizeLimit) = .ok compiled ∧
    ∃ unit, (Dialect.linear Linear.defaultSizeLimit).finish 0 compiled.extraction leakedChoice =
        .ok unit ∧
      ((∀ source ∈ leakedChoice.patterns, Isolated source.1) →
        ∀ line, (unit.extract line).isSome ↔
          CutsAll ownFits line leakedChoice.pieces 0 line.length) ∧
      ∀ line,
        ((unit.extract line).isSome ↔ CutsAll ownFits line leakedChoice.pieces 0 line.length) ↔
          ((∀ source ∈ leakedChoice.patterns, Parses source.1) →
            (CutsAll (wrappedFits (.extraction .linear)) line leakedChoice.pieces 0 line.length ↔
              CutsAll ownFits line leakedChoice.pieces 0 line.length)) ∧
          ((∃ source ∈ leakedChoice.patterns, ¬ Parses source.1) → unit.extract line = none) := by
  obtain ⟨compiled, compiles, finishes⟩ :
      ∃ compiled, leakedChoice.compile (Dialect.linear Linear.defaultSizeLimit) = .ok compiled ∧
        ((Dialect.linear Linear.defaultSizeLimit).finish 0 compiled.extraction
          leakedChoice).toOption.any fun _ => true :=
    Except.exists_ok_of_decide (by decide +kernel)
  obtain ⟨unit, finished, -⟩ := Except.exists_ok_of_decide finishes
  exact ⟨compiled, compiles, unit, finished,
    isSome_extract_iff_cutsAll_iff _ _ _ _ _ compiles finished⟩

/-- The choice between the two groups splits the whole definition, so a line is accepted
that does not even end in the text of the last piece. -/
theorem isSome_extract_leakedChoice :
    ∃ compiled, leakedChoice.compile (Dialect.linear Linear.defaultSizeLimit) = .ok compiled ∧
    ∃ unit, (Dialect.linear Linear.defaultSizeLimit).finish 0 compiled.extraction leakedChoice =
        .ok unit ∧
      (unit.extract (Line.ofString "xab")).isSome ∧
      ¬ CutsAll ownFits (Line.ofString "xab") leakedChoice.pieces 0
        (Line.ofString "xab").length := by
  obtain ⟨compiled, compiles, finishes⟩ :
      ∃ compiled, leakedChoice.compile (Dialect.linear Linear.defaultSizeLimit) = .ok compiled ∧
        ((Dialect.linear Linear.defaultSizeLimit).finish 0 compiled.extraction
          leakedChoice).toOption.any fun unit => (unit.extract (Line.ofString "xab")).isSome :=
    Except.exists_ok_of_decide (by decide +kernel)
  obtain ⟨unit, finished, accepts⟩ := Except.exists_ok_of_decide finishes
  refine ⟨compiled, compiles, unit, finished, accepts, ?_⟩
  have unparsed : (parse "ab)|(?:c".toList).toOption.isSome = false := by decide +kernel
  have member : ("ab)|(?:c", Location.unknown) ∈ patternsOf leakedChoice.pieces :=
    List.mem_cons_self
  refine not_cutsAll_own member ?_
  rintro ⟨ast, parsed⟩
  rw [parsed] at unparsed
  cases unparsed

end LineExtraction

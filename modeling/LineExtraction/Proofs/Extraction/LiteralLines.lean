import LineExtraction.Proofs.Backtracking.Quoting
import LineExtraction.Proofs.Extraction.Segments
import Mathlib.Data.List.Sort

/-!
# Lines of fixed text

A definition that is made of text only stands for one line: its texts one after the other.
Quoting is undone by the parser of either dialect, so the unit of such a definition accepts
that line and no other, and so does the discriminator.
-/

namespace LineExtraction

open Linear
open Pattern (isBacktrackingMeta quoteWith)

/-! ## Lines that are a text -/

namespace Line

theorem startsWithAt_iff
    (line : Line)
    (position : Nat)
    (text : List Char) :
    line.startsWithAt position text ↔ text <+: line.chars.toList.drop position := by
  induction text generalizing position with
  | nil => simp [startsWithAt]
  | cons char rest inductionHypothesis =>
      have head : line.after? position = (line.chars.toList.drop position).head? := by
        rw [List.head?_drop, after?, Array.getElem?_toList]
      have tail : line.chars.toList.drop (position + 1) =
          (line.chars.toList.drop position).tail := by
        rw [List.tail_drop]
      rw [startsWithAt, decide_eq_true_eq, inductionHypothesis, head, tail]
      cases line.chars.toList.drop position with
      | nil => simp
      | cons first others => simp [List.cons_prefix_cons, eq_comm]

/-- A line is a text when the text stands at its start and is as long. -/
theorem startsWithAt_zero_iff
    (line : Line)
    (text : List Char) :
    line.startsWithAt 0 text ∧ line.length = 0 + text.length ↔ line.chars.toList = text := by
  rw [startsWithAt_iff, List.drop_zero, Nat.zero_add, length, ← Array.length_toList]
  constructor
  · rintro ⟨starts, same⟩
    exact (starts.eq_of_length same.symm).symm
  · rintro rfl
    exact ⟨List.prefix_refl _, rfl⟩

end Line

/-! ## What the backtracking dialect hands to the linear engine -/

namespace Backtracking

theorem readTokens_quotedBody
    (text : List Char) :
    ∃ (last : Linear.ParseState) (middle : List Linear.Ast),
      Linear.readTokens .start ('^' :: (quotedBody text ++ ['$'])) = .ok last ∧
      last.groups = [] ∧
      last.level.toAst =
        .ofParts (.assertion .startLine :: (middle ++ [.assertion .endLine])) ∧
      (middle = Linear.literals text ∨
        middle = [.group (.plain []) (.ofParts (Linear.literals text))]) := by
  let front := Linear.ParseState.start.push (.assertion .startLine)
  let whole (middle : List Linear.Ast) : Linear.ParseState :=
    (front.pass ⟨middle, 0, []⟩).push (.assertion .endLine)
  have starts (text : List Char) : Linear.Reads .start ('^' :: text) front text :=
    .token rfl rfl rfl (.refl _ text)
  have ends (middle : List Linear.Ast) :
      Linear.readTokens (front.pass ⟨middle, 0, []⟩) ['$'] = .ok (whole middle) := by
    have token : Linear.Reads (front.pass ⟨middle, 0, []⟩) ['$'] (whole middle) [] :=
      .token rfl rfl rfl (.refl _ [])
    exact token.readTokens_eq.trans ((Linear.readTokens_eq_ok_iff_of_blank rfl).mpr rfl)
  have means (middle : List Linear.Ast) : (whole middle).level.toAst =
      .ofParts (.assertion .startLine :: (middle ++ [.assertion .endLine])) := by
    simp [whole, front, Linear.ParseState.pass, Linear.ParseState.push, Linear.Level.push,
      Linear.Level.toAst, Linear.ParseState.start, Linear.Level.start, Linear.Ast.ofBranches]
  unfold quotedBody
  split
  · refine ⟨whole [.group (.plain []) (.ofParts (Linear.literals text))], _, ?_, rfl, means _,
      .inr rfl⟩
    have opened : Linear.Reads front (grouped (quoteWith isBacktrackingMeta text) ++ ['$'])
        front.inside (quoteWith isBacktrackingMeta text ++ [')', '$']) := by
      rw [show grouped (quoteWith isBacktrackingMeta text) ++ ['$'] =
        '(' :: '?' :: ':' :: (quoteWith isBacktrackingMeta text ++ [')', '$']) by simp [grouped]]
      exact Linear.reads_plainHeader rfl _
    have read := Linear.reads_quoted Linear.quotes_backtracking front.inside rfl text [')', '$']
    have body : (front.inside.pass ⟨Linear.literals text, 0, []⟩).level.toAst =
        .ofParts (Linear.literals text) := by
      simp [front, Linear.ParseState.pass, Linear.ParseState.inside, Linear.ParseState.openGroup,
        Linear.Level.start, Linear.Level.toAst, Linear.Ast.ofBranches]
    have closed : Linear.Reads (front.inside.pass ⟨Linear.literals text, 0, []⟩) [')', '$']
        (front.pass ⟨[.group (.plain []) (.ofParts (Linear.literals text))], 0, []⟩) ['$'] := by
      have opens : (front.inside.pass ⟨Linear.literals text, 0, []⟩).groups =
          [⟨.plain [], front.level, false⟩] := rfl
      have closes := Linear.reads_close rfl opens ['$']
      rw [body] at closes
      exact closes
    exact ((((starts _).trans opened).trans read).trans closed).readTokens_eq.trans (ends _)
  · refine ⟨whole (Linear.literals text), _, ?_, rfl, means _, .inl rfl⟩
    have reads := (starts _).trans
      (Linear.reads_quoted Linear.quotes_backtracking front rfl text ['$'])
    exact reads.readTokens_eq.trans (ends _)

theorem lower_quotedBody
    {text : List Char}
    {middle : List Linear.Ast}
    {lowered : Lowered}
    (read : middle = Linear.literals text ∨
      middle = [.group (.plain []) (.ofParts (Linear.literals text))])
    (found : lower .default (.ofParts middle) = .ok lowered) :
    lowered.flags = .default ∧
      ∀ line start stop, Sequence line lowered.parts start stop ↔
        (Tree.literal text).Matches line start stop := by
  rcases read with rfl | rfl
  · exact lower_literals found
  · have bounded : (Linear.Ast.ofParts (Linear.literals text)).Bounded := by
      rw [Linear.Ast.bounded_ofParts_iff]
      intro part member
      obtain ⟨char, -, rfl⟩ := List.mem_map.mp member
      trivial
    obtain ⟨inner, innerFound, flags, agrees⟩ :=
      lower_group (show (Linear.GroupKind.plain []).SetsNothing from rfl) bounded found
    exact ⟨flags, fun line start stop =>
      (agrees line start stop).trans ((lower_literals innerFound).2 line start stop)⟩

/-- What the linear engine is given matches the lines that are the text. -/
theorem matches_quotedBody_iff
    {text : List Char}
    {tree : Tree}
    (found : Linear.Regex.treeOf (String.ofList ('^' :: (quotedBody text ++ ['$']))) = .ok tree)
    (line : Line) :
    (∃ start, start ≤ line.length ∧ ∃ stop, tree.Matches line start stop) ↔
      line.chars.toList = text := by
  obtain ⟨ast, parsed, lowers⟩ := Except.bind_eq_ok_iff.mp found
  obtain ⟨lowered, loweredFound, made⟩ := Except.bind_eq_ok_iff.mp lowers
  obtain rfl := Except.ok.inj made
  have sound := sound_lower (bounded_parse parsed) loweredFound
  obtain ⟨last, middle, read, closed, whole, either⟩ := readTokens_quotedBody text
  obtain ⟨same, sameRead, -, rfl, -⟩ := parse_eq_ok_iff.mp parsed
  rw [String.toList_ofList] at sameRead
  obtain rfl := Except.ok.inj (read.symm.trans sameRead)
  rw [whole] at loweredFound
  obtain ⟨_, rest, ⟨⟩, restFound, -, agrees⟩ := lower_ofParts_cons loweredFound
  obtain ⟨front, end', frontFound, endFound, -, restAgrees⟩ := lower_ofParts_append restFound
  obtain ⟨flags, means⟩ := lower_quotedBody either frontFound
  rw [flags] at endFound
  obtain rfl := Except.ok.inj endFound
  have matches' : ∀ start stop, lowered.tree.Matches line start stop ↔
      Look.startText.holdsAt line start ∧ (Tree.literal text).Matches line start stop ∧
        Look.endText.holdsAt line stop := by
    intro start stop
    rw [sound.matches_tree, ← sound.agrees, agrees, sequence_append]
    simp only [restAgrees, sequence_append, means, Lowered.single, sequence_singleton]
    constructor
    · rintro ⟨_, ⟨starts, rfl⟩, _, isText, ends, rfl⟩
      exact ⟨starts, isText, ends⟩
    · rintro ⟨starts, isText, ends⟩
      exact ⟨start, ⟨starts, rfl⟩, stop, isText, ends, rfl⟩
  rw [← Line.startsWithAt_zero_iff]
  constructor
  · rintro ⟨start, inside, stop, matched⟩
    obtain ⟨starts, isText, ends⟩ := (matches' start stop).mp matched
    obtain rfl := (Look.holdsAt_startText_iff inside).mp starts
    obtain rfl := Nat.le_antisymm (Look.holdsAt_endText_iff.mp ends) (matched.within inside).2
    exact isText
  · intro isText
    exact ⟨0, Nat.zero_le _, line.length,
      (matches' 0 line.length).mpr ⟨rfl, isText, Look.holdsAt_endText_iff.mpr (Nat.le_refl _)⟩⟩

end Backtracking
/-! ## Definitions that are text -/

namespace Piece

/-- The text of a piece that is text. -/
def content? : Piece → Option String
  | text content _ => some content
  | _ => none

/-- The texts among the pieces, one after the other. -/
def literalText (pieces : List Piece) : String :=
  (pieces.filterMap content?).foldr (· ++ ·) ""

/-- Whether all pieces are text. -/
def AreText (pieces : List Piece) : Prop := ∀ piece ∈ pieces, piece.content?.isSome

theorem exists_text_of_content?
    {piece : Piece}
    (isText : piece.content?.isSome) :
    ∃ content location, piece = .text content location := by
  cases piece with
  | text content location => exact ⟨content, location, rfl⟩
  | pattern source location => cases isText
  | expression name parts location => cases isText

namespace AreText

theorem patternsOf_eq
    {pieces : List Piece}
    (areText : AreText pieces) :
    patternsOf pieces = [] := by
  induction pieces with
  | nil => rfl
  | cons piece pieces inductionHypothesis =>
      obtain ⟨first, others⟩ := List.forall_mem_cons.mp areText
      obtain ⟨content, location, rfl⟩ := exists_text_of_content? first
      exact inductionHypothesis others

theorem expressionsOf_eq
    {pieces : List Piece}
    (areText : AreText pieces) :
    expressionsOf pieces = [] := by
  induction pieces with
  | nil => rfl
  | cons piece pieces inductionHypothesis =>
      obtain ⟨first, others⟩ := List.forall_mem_cons.mp areText
      obtain ⟨content, location, rfl⟩ := exists_text_of_content? first
      exact inductionHypothesis others

/-- Text pieces are written as their quoted text. -/
theorem spelledAll_eq
    {pieces : List Piece}
    (areText : AreText pieces)
    (writing : Writing)
    (ordinal : Nat) :
    spelledAll writing ordinal pieces =
      Pattern.quoteWith writing.isMeta (literalText pieces).toList := by
  induction pieces generalizing ordinal with
  | nil => rfl
  | cons piece pieces inductionHypothesis =>
      obtain ⟨first, others⟩ := List.forall_mem_cons.mp areText
      obtain ⟨content, location, rfl⟩ := exists_text_of_content? first
      have whole : literalText (.text content location :: pieces) =
          content ++ literalText pieces := rfl
      rw [spelledAll, inductionHypothesis others, whole, String.toList_append,
        Pattern.quoteWith_append]
      rfl

/-- A segment is cut as text pieces exactly when it is their text. -/
theorem cutsAll_iff
    {pieces : List Piece}
    (areText : AreText pieces)
    (fits : Fits)
    (line : Line)
    (start stop : Nat) :
    CutsAll fits line pieces start stop ↔
      line.startsWithAt start (literalText pieces).toList ∧
        stop = start + (literalText pieces).toList.length := by
  induction pieces generalizing start with
  | nil => simp [CutsAll, literalText, Line.startsWithAt, eq_comm]
  | cons piece pieces inductionHypothesis =>
      obtain ⟨first, others⟩ := List.forall_mem_cons.mp areText
      obtain ⟨content, location, rfl⟩ := exists_text_of_content? first
      have whole : literalText (.text content location :: pieces) =
          content ++ literalText pieces := rfl
      simp only [CutsAll, Cuts, inductionHypothesis others, whole, String.toList_append,
        startsWithAt_append, List.length_append]
      constructor
      · rintro ⟨_, ⟨starts, rfl⟩, goesOn, rfl⟩
        exact ⟨⟨starts, goesOn⟩, Nat.add_assoc _ _ _⟩
      · rintro ⟨⟨starts, goesOn⟩, rfl⟩
        exact ⟨_, ⟨starts, rfl⟩, goesOn, (Nat.add_assoc _ _ _).symm⟩

/-- An anchored pattern written of text pieces for the linear engine has a match in their
text and in no other line. -/
theorem hasMatch_iff
    {pieces : List Piece}
    (areText : AreText pieces)
    {writing : Writing}
    (quotes : writing.isMeta = Pattern.isLinearMeta)
    {pattern : String}
    {tree : Tree}
    (isWritten : pattern.toList = spelledAll writing 0 pieces)
    (found : Linear.Regex.treeOf (Dialect.anchored pattern) = .ok tree)
    (input : String) :
    HasMatch (Dialect.anchored pattern) (Line.ofString input) ↔ input = literalText pieces := by
  have alone : StandAlone writing (patternsOf pieces) := by
    rw [areText.patternsOf_eq]
    exact nofun
  rw [hasMatch_anchored_iff quotes alone isWritten found, areText.cutsAll_iff,
    Line.startsWithAt_zero_iff]
  exact String.toList_inj

end AreText
end Piece

/-! ## Units of text -/

namespace Backtracking

/-- A compiled pattern of quoted text is run by the linear engine, on its text written out
again. -/
theorem engine_of_quoted
    {limit : Nat}
    {pattern : String}
    {text : List Char}
    {regex : Regex}
    (isWritten : pattern.toList = quoteWith isBacktrackingMeta text)
    (compiled : Regex.compile limit (Dialect.anchored pattern) = .ok regex) :
    ∃ tree, Linear.Regex.treeOf (String.ofList ('^' :: (quotedBody text ++ ['$']))) = .ok tree ∧
      regex.engine = .linear (.ofTree tree) := by
  obtain ⟨parsed, parsedFound, compiled⟩ := Except.bind_eq_ok_iff.mp compiled
  have parsedFound := Except.mapError_eq_ok_iff.mp parsedFound
  rw [Dialect.toList_anchored, isWritten, parse_anchored_quoted] at parsedFound
  obtain rfl := Except.ok.inj parsedFound
  simp only [isHard_anchoredLiterals, toText_anchoredLiterals, Bool.false_eq_true,
    if_false] at compiled
  obtain ⟨linear, linearFound, made⟩ := Except.bind_eq_ok_iff.mp compiled
  obtain rfl := Except.ok.inj made
  have sized : Dialect.compileLinear Linear.defaultSizeLimit
      (String.ofList ('^' :: (quotedBody text ++ ['$']))) = .ok linear := by
    rw [Dialect.compileLinear, Except.mapError_eq_ok_iff]
    exact Except.mapError_eq_ok_iff.mp linearFound
  obtain ⟨tree, found, rfl⟩ := Dialect.treeOf_of_compileLinear sized
  exact ⟨tree, found, rfl⟩

/-- A unit of the backtracking dialect whose pattern is quoted text accepts that text and
nothing else. -/
theorem isSome_extract_iff_of_quoted
    {limit number : Nat}
    {pattern text : String}
    {definition : Definition}
    {unit : ExtractionUnit}
    (isWritten : pattern.toList = quoteWith isBacktrackingMeta text.toList)
    (finished : (Dialect.backtracking limit).finish number pattern definition = .ok unit)
    (input : String) :
    (unit.extract (Line.ofString input)).isSome ↔ input = text := by
  obtain ⟨regex, compiled, made⟩ := Except.bind_eq_ok_iff.mp finished
  obtain ⟨tree, parses, engine⟩ := engine_of_quoted isWritten
    (Except.mapError_eq_ok_iff.mp (Except.mapError_eq_ok_iff.mp compiled))
  obtain ⟨-, groups, -, attempts⟩ := Dialect.spec_of_unitOf made
  have accepts : (unit.extract (Line.ofString input)).isSome =
      (Linear.Regex.ofTree tree).isMatch (Line.ofString input) := by
    rw [ExtractionUnit.extract, attempts, Dialect.attemptBacktracking, Regex.search, engine,
      Linear.Regex.isMatch]
    cases found : (Linear.Regex.ofTree tree).search (Line.ofString input) <;> simp [found]
  rw [accepts, Linear.Regex.isMatch_ofTree_iff, matches_quotedBody_iff parses]
  exact String.toList_inj

end Backtracking

namespace Definition

/-- Whether the definition is made of text only. -/
def IsText (definition : Definition) : Prop := Piece.AreText definition.pieces

/-- The text of the definition. -/
def literalText (definition : Definition) : String := Piece.literalText definition.pieces

variable {options : Options} {definition : Definition}

/-- The discriminator pattern of a definition that is text matches the text and nothing
else. -/
theorem IsText.mayMatch_iff
    (isText : definition.IsText)
    {compiled : CompiledPieces}
    {tree : Tree}
    (compiles : definition.compile options.dialect = .ok compiled)
    (found : Linear.Regex.treeOf (Dialect.anchored compiled.discriminator) = .ok tree)
    (input : String) :
    definition.MayMatch options.dialect (Line.ofString input) ↔
      input = definition.literalText := by
  have written := (compiles_of_compile options.dialect_writes compiles).discriminator
  refine Iff.trans ?_ (isText.hasMatch_iff rfl written found input)
  constructor
  · rintro ⟨other, sameCompiles, matched⟩
    obtain rfl := Except.ok.inj (compiles.symm.trans sameCompiles)
    exact matched
  · exact fun matched => ⟨compiled, compiles, matched⟩

/-- The unit of a definition that is text accepts the text and nothing else. -/
theorem IsText.isSome_extract_iff
    (isText : definition.IsText)
    {number : Nat}
    {compiled : CompiledPieces}
    {unit : ExtractionUnit}
    (compiles : definition.compile options.dialect = .ok compiled)
    (finished : options.dialect.finish number compiled.extraction definition = .ok unit)
    (input : String) :
    (unit.extract (Line.ofString input)).isSome ↔ input = definition.literalText := by
  have written := (compiles_of_compile options.dialect_writes compiles).extraction
  cases backend : options.backend with
  | linear =>
      have dialect : options.dialect = .linear options.effectiveSizeLimit := by
        rw [Options.dialect, backend]
      rw [backend] at written
      rw [dialect] at finished
      obtain ⟨regex, compiled, -⟩ := Except.bind_eq_ok_iff.mp finished
      obtain ⟨tree, parses, -⟩ :=
        Dialect.treeOf_of_compileLinear (Except.mapError_eq_ok_iff.mp compiled)
      rw [Dialect.isSome_extract_iff finished, isText.hasMatch_iff rfl written parses]
      rfl
  | backtracking =>
      have dialect : options.dialect = .backtracking
          (options.backtrackLimit.getD Backtracking.defaultBacktrackLimit) := by
        rw [Options.dialect, backend]
      rw [backend, isText.spelledAll_eq] at written
      rw [dialect] at finished
      exact Backtracking.isSome_extract_iff_of_quoted written finished input

end Definition

/-! ## Extractors of text -/

/-- The record of a definition without fields names the definition. -/
theorem Options.record_of_finish
    {options : Options}
    {number : Nat}
    {pattern : String}
    {definition : Definition}
    {unit : ExtractionUnit}
    {line : Line}
    {record : Record}
    (finished : options.dialect.finish number pattern definition = .ok unit)
    (bare : definition.fieldNames = [])
    (extracted : unit.extract line = some record) :
    record = ⟨number, definition.name, []⟩ := by
  have made : unit.index = number ∧ unit.name = definition.name ∧ unit.fields = [] := by
    rw [dialect] at finished
    split at finished
    all_goals
      obtain ⟨regex, -, made⟩ := Except.bind_eq_ok_iff.mp finished
      rw [Dialect.unitOf] at made
      split at made
      · cases made
      · obtain rfl := Except.ok.inj made
        exact ⟨rfl, rfl, bare⟩
  obtain ⟨index, name, fields⟩ := made
  rw [ExtractionUnit.extract] at extracted
  split at extracted
  · obtain rfl := Option.some.inj extracted
    rw [index, name, fields]
    rfl
  · cases extracted

section

variable {options : Options} {definitions : List Definition} {extractor : Extractor}
variable (areText : ∀ definition ∈ definitions, definition.IsText)
variable (built : (options.build definitions).value = .ok extractor)
include areText built

/-- The record of the unit of a text. -/
theorem Options.recordAt?_of_isText
    {number : Nat}
    {definition : Definition}
    (found : definitions[number]? = some definition)
    (input : String) :
    Extractor.recordAt? extractor.units (Line.ofString input) number =
      if definition.literalText = input then some ⟨number, definition.name, []⟩ else none := by
  have isText := areText definition (List.mem_of_getElem? found)
  obtain ⟨compiled, unit, compiles, unitFound, finished⟩ :=
    (Options.built_of_build built).finished number definition found
  have accepts := isText.isSome_extract_iff compiles finished input
  have bare : definition.fieldNames = [] := by
    rw [Definition.fieldNames, Definition.expressions, isText.expressionsOf_eq, List.map_nil]
  rw [Extractor.recordAt?, unitFound, Option.bind_some]
  split
  · next same =>
      obtain ⟨record, extracted⟩ := Option.isSome_iff_exists.mp (accepts.mpr same.symm)
      rw [extracted, Options.record_of_finish finished bare extracted]
  · next other =>
      exact Option.not_isSome_iff_eq_none.mp fun accepted => other (accepts.mp accepted).symm

/-- The candidates for a line are the texts that it is. -/
theorem Options.candidates_of_isText
    (input : String) :
    extractor.discriminator.candidates (Line.ofString input) =
      (List.range definitions.length).filter fun number =>
        definitions[number]?.any (·.literalText = input) := by
  have sound := Options.built_of_build built
  refine (sound.ascending _).eq_of_mem_iff
    (List.pairwise_lt_range.filter _) fun number => ?_
  rw [sound.reported, List.mem_filter, List.mem_range]
  have means (definition : Definition) (found : definitions[number]? = some definition) :
      definition.MayMatch options.dialect (Line.ofString input) ↔
        input = definition.literalText := by
    obtain ⟨compiled, -, compiles, -, -⟩ := sound.finished number definition found
    obtain ⟨tree, parses⟩ := Options.treeOf_discriminator_of_build built found compiles
    exact (areText definition (List.mem_of_getElem? found)).mayMatch_iff compiles parses input
  constructor
  · rintro ⟨definition, found, may⟩
    refine ⟨(List.getElem?_eq_some_iff.mp found).1, ?_⟩
    rw [found]
    exact decide_eq_true ((means definition found).mp may).symm
  · rintro ⟨inside, matched⟩
    have found := List.getElem?_eq_getElem inside
    rw [found] at matched
    exact ⟨_, found, (means _ found).mpr (of_decide_eq_true matched).symm⟩

/-- No candidate is refused, so the first one is extracted in either mode. -/
theorem Options.extract_of_isText
    (mode : ExtractionMode)
    (input : String) :
    extractor.extract mode input =
      .ok ((extractor.discriminator.candidates (Line.ofString input)).findSome?
        (Extractor.recordAt? extractor.units (Line.ofString input))) := by
  cases mode with
  | permissive => exact Extractor.extractFrom_permissive input _
  | strict =>
      refine (Extractor.extractFrom_strict_eq_iff input
        ((Options.built_of_build built).candidates_subset _)).mpr fun number first => ?_
      have member := List.mem_of_mem_head? first
      rw [Options.candidates_of_isText areText built, List.mem_filter, List.mem_range] at member
      obtain ⟨inside, same⟩ := member
      have found := List.getElem?_eq_getElem inside
      rw [found] at same
      rw [Options.recordAt?_of_isText areText built found, if_pos (of_decide_eq_true same)]
      rfl

/-- The first candidate that is extracted is the first definition whose text the line is. -/
theorem Options.findSome?_of_isText
    (input : String) :
    (extractor.discriminator.candidates (Line.ofString input)).findSome?
        (Extractor.recordAt? extractor.units (Line.ofString input)) =
      (definitions.findIdx? (·.literalText = input)).bind fun number =>
        definitions[number]?.map fun definition => ⟨number, definition.name, []⟩ := by
  have candidates := Options.candidates_of_isText areText built input
  cases first : definitions.findIdx? (·.literalText = input) with
  | none =>
      have none : extractor.discriminator.candidates (Line.ofString input) = [] := by
        rw [candidates, List.filter_eq_nil_iff]
        intro number inside
        have found := List.getElem?_eq_getElem (List.mem_range.mp inside)
        rw [found]
        exact Bool.not_eq_true _ ▸ List.findIdx?_eq_none_iff.mp first _ (List.getElem_mem _)
      rw [none]
      rfl
  | some number =>
      obtain ⟨inside, same, before⟩ := List.findIdx?_eq_some_iff_getElem.mp first
      have found := List.getElem?_eq_getElem inside
      rw [Option.bind_some, found, Option.map_some,
        findSome?_eq_some_iff_of_ascending ((Options.built_of_build built).ascending _)]
      refine ⟨number, ?_, ?_, fun earlier _ less => ?_⟩
      · rw [candidates, List.mem_filter, List.mem_range, found]
        exact ⟨inside, same⟩
      · rw [Options.recordAt?_of_isText areText built found, if_pos (of_decide_eq_true same)]
      · rw [Options.recordAt?_of_isText areText built
          (List.getElem?_eq_getElem (Nat.lt_trans less inside)), if_neg]
        exact fun equal => before earlier less (decide_eq_true equal)

end

/-- Where all definitions are text, a unit accepts the text of its definition and nothing
else, the candidates for a line are the definitions whose text it is, and both modes of
extraction yield the first of them without fields, and never an error. -/
theorem extract_eq_of_isText
    (options : Options)
    (definitions : List Definition)
    (extractor : Extractor)
    (input : String)
    (areText : ∀ definition ∈ definitions, definition.IsText)
    (built : (options.build definitions).value = .ok extractor) :
    (∀ (number : Nat) (definition : Definition), definitions[number]? = some definition →
      ∃ unit, extractor.units[number]? = some unit ∧
        ((unit.extract (Line.ofString input)).isSome ↔ input = definition.literalText)) ∧
    extractor.discriminator.candidates (Line.ofString input) =
      ((List.range definitions.length).filter fun number =>
        definitions[number]?.any (·.literalText = input)) ∧
    ∀ mode, extractor.extract mode input =
      .ok ((definitions.findIdx? (·.literalText = input)).bind fun number =>
        definitions[number]?.map fun definition => ⟨number, definition.name, []⟩) := by
  have sound := Options.built_of_build built
  have candidates := Options.candidates_of_isText areText built input
  refine ⟨fun number definition found => ?_, candidates, fun mode => ?_⟩
  · obtain ⟨compiled, unit, compiles, unitFound, finished⟩ := sound.finished number definition found
    exact ⟨unit, unitFound, (areText definition (List.mem_of_getElem? found)).isSome_extract_iff
      compiles finished input⟩
  · rw [Options.extract_of_isText areText built, Options.findSome?_of_isText areText built]

/-- Two definitions of one text, the second one cut into pieces, and the empty definition. -/
def fixedLines : List Definition :=
  [⟨"price", [.text "a.b" .unknown, .text "~-&" .unknown], .unknown⟩,
    ⟨"cut", [.text "a" .unknown, .text ".b~" .unknown, .text "-&" .unknown], .unknown⟩,
    ⟨"blank", [], .unknown⟩]

theorem extract_eq_of_isText_fixedLines :
    (∀ definition ∈ fixedLines, definition.IsText) ∧
    ∃ extractor,
      ({ Options.default with backend := .backtracking }.build fixedLines).value =
        .ok extractor ∧
      (∀ (number : Nat) (definition : Definition), fixedLines[number]? = some definition →
        ∃ unit, extractor.units[number]? = some unit ∧
          ((unit.extract (Line.ofString "a.b~-&")).isSome ↔
            "a.b~-&" = definition.literalText)) ∧
      extractor.discriminator.candidates (Line.ofString "a.b~-&") =
        ((List.range fixedLines.length).filter fun number =>
          fixedLines[number]?.any (·.literalText = "a.b~-&")) ∧
      ∀ mode, extractor.extract mode "a.b~-&" =
        .ok ((fixedLines.findIdx? (·.literalText = "a.b~-&")).bind fun number =>
          fixedLines[number]?.map fun definition => ⟨number, definition.name, []⟩) := by
  have areText : ∀ definition ∈ fixedLines, definition.IsText := by
    unfold Definition.IsText Piece.AreText
    decide
  obtain ⟨extractor, built, -⟩ :
      ∃ extractor, ({ Options.default with backend := .backtracking }.build fixedLines).value =
        .ok extractor ∧ true :=
    Except.exists_ok_of_decide (by decide +kernel)
  exact ⟨areText, extractor, built, extract_eq_of_isText _ fixedLines extractor _ areText built⟩

end LineExtraction

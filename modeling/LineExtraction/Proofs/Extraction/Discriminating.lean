import Mathlib.Tactic.Choose
import LineExtraction.Proofs.Extraction.Dispatch
import LineExtraction.Proofs.Extraction.Phrasing
import LineExtraction.Proofs.Extraction.Precedence
import LineExtraction.Proofs.Linear.PhraseRelaxing

/-!
# Building the discriminator

Once every definition compiles, a list of definitions with distinct names can only fail where
the discriminator is built: because a discriminator pattern is ill-formed, or because all of
them together are too big.  Relaxing is made for phrases, and from these it makes no ill-formed
pattern.
-/

namespace LineExtraction

open Linear (CompileError SyntaxError Regex)
open Pattern (Phrase)

/-! ## Patterns of a discriminator -/

/-- A run of readings succeeds when each of them does. -/
theorem Except.exists_mapM_iff
    {ε α β : Type}
    {change : α → Except ε β}
    {given : List α} :
    (∃ results, given.mapM change = .ok results) ↔
      ∀ element ∈ given, ∃ result, change element = .ok result := by
  induction given with
  | nil => exact ⟨fun _ => nofun, fun _ => ⟨[], List.mapM_nil⟩⟩
  | cons element rest inductionHypothesis =>
      rw [List.forall_mem_cons, ← inductionHypothesis]
      simp only [List.mapM_cons, Except.bind_eq_ok_iff]
      constructor
      · rintro ⟨_, first, firstChanged, others, othersChanged, -⟩
        exact ⟨⟨first, firstChanged⟩, others, othersChanged⟩
      · rintro ⟨⟨first, firstChanged⟩, others, othersChanged⟩
        exact ⟨first :: others, first, firstChanged, others, othersChanged, rfl⟩

namespace Discriminator

/-- Compiling patterns together ends in success or for lack of room when each of them is
well-formed, and otherwise with a fault of one of them. -/
theorem compileAll_cases
    (sizeLimit : Nat)
    (patterns : List String) :
    ((∀ pattern ∈ patterns, ∃ tree, Regex.treeOf pattern = .ok tree) ∧
        ((∃ regexes, compileAll sizeLimit patterns = .ok regexes) ∨
          compileAll sizeLimit patterns = .error (.tooBig sizeLimit))) ∨
      (¬ ∀ pattern ∈ patterns, ∃ tree, Regex.treeOf pattern = .ok tree) ∧
        ∃ fault, compileAll sizeLimit patterns = .error (.illFormed fault) := by
  have parsed : (∀ pattern ∈ patterns, ∃ tree, Regex.treeOf pattern = .ok tree) →
      ∃ asts, patterns.mapM (fun pattern => Linear.parse pattern.toList) = .ok asts := by
    intro wellFormed
    refine Except.exists_mapM_iff.mpr fun pattern member => ?_
    obtain ⟨tree, found⟩ := wellFormed pattern member
    obtain ⟨ast, parses, -⟩ := Except.bind_eq_ok_iff.mp found
    exact ⟨ast, parses⟩
  rw [compileAll]
  cases parses : patterns.mapM fun pattern => Linear.parse pattern.toList with
  | error fault =>
      refine .inr ⟨fun wellFormed => ?_, fault, rfl⟩
      obtain ⟨asts, found⟩ := parsed wellFormed
      cases parses.symm.trans found
  | ok asts =>
      obtain ⟨sameLength, parsesAt⟩ := Except.getElem?_of_mapM_eq_ok parses
      have lowers : (∀ pattern ∈ patterns, ∃ tree, Regex.treeOf pattern = .ok tree) ↔
          ∀ ast ∈ asts, ∃ tree, Linear.lowerPattern ast = .ok tree := by
        constructor
        · intro wellFormed ast member
          obtain ⟨number, found⟩ := List.mem_iff_getElem?.mp member
          have inside : number < patterns.length :=
            sameLength ▸ (List.getElem?_eq_some_iff.mp found).1
          obtain ⟨same, sameFound, read⟩ := parsesAt number _ (List.getElem?_eq_getElem inside)
          obtain rfl := Option.some.inj (found.symm.trans sameFound)
          obtain ⟨tree, treeFound⟩ := wellFormed _ (List.getElem_mem inside)
          obtain ⟨other, otherRead, lowered⟩ := Except.bind_eq_ok_iff.mp treeFound
          obtain rfl := Except.ok.inj (read.symm.trans otherRead)
          exact ⟨tree, lowered⟩
        · intro lowered pattern member
          obtain ⟨number, found⟩ := List.mem_iff_getElem?.mp member
          obtain ⟨ast, astFound, read⟩ := parsesAt number pattern found
          obtain ⟨tree, treeFound⟩ := lowered ast (List.mem_of_getElem? astFound)
          exact ⟨tree, Except.bind_eq_ok_iff.mpr ⟨ast, read, treeFound⟩⟩
      cases lowered : asts.mapM Linear.lowerPattern with
      | error fault =>
          refine .inr ⟨fun wellFormed => ?_, fault, by
            simp [Except.mapError, lowered, bind, Except.bind]⟩
          obtain ⟨trees, found⟩ := Except.exists_mapM_iff.mpr (lowers.mp wellFormed)
          cases lowered.symm.trans found
      | ok trees =>
          refine .inl ⟨lowers.mpr (Except.exists_mapM_iff.mp ⟨trees, lowered⟩), ?_⟩
          by_cases fits : Linear.fitsWithin sizeLimit false trees
          · refine .inl ⟨trees.map Regex.ofTree, ?_⟩
            simp [Except.mapError, lowered, bind, Except.bind, fits, pure, Except.pure]
          · refine .inr ?_
            simp [Except.mapError, lowered, bind, Except.bind, fits, throw, throwThe, MonadExceptOf.throw]

theorem message_ne
    (fault : SyntaxError)
    (limit : Nat) :
    (CompileError.illFormed fault).message ≠ (CompileError.tooBig limit).message := by
  have first {front : String} {char : Char} (starts : front.toList.head? = some char)
      (back : String) : (front ++ back).toList.head? = some char := by
    rw [String.toList_append, List.head?_append, starts]
    rfl
  intro same
  have left : (CompileError.illFormed fault).message.toList.head? = some 'r' :=
    first (by decide) fault.message
  have right : (CompileError.tooBig limit).message.toList.head? = some 'C' :=
    first (first (by decide) (toString limit)) " bytes."
  rw [same, right] at left
  exact absurd (Option.some.inj left) (by decide)

/-- The discriminator can be built, or is too big, exactly when its patterns are well-formed. -/
theorem builder_iff
    (sizeLimit : Nat)
    (patterns : List String) :
    (∀ pattern ∈ patterns, ∃ tree, Regex.treeOf (Dialect.anchored pattern) = .ok tree) ↔
      (∃ discriminator, (builder sizeLimit patterns).value = .ok discriminator) ∨
        (builder sizeLimit patterns).value = .error (CompileError.tooBig sizeLimit).message := by
  have anchored : (∀ pattern ∈ patterns, ∃ tree, Regex.treeOf (Dialect.anchored pattern) = .ok tree) ↔
      ∀ pattern ∈ patterns.map Dialect.anchored, ∃ tree, Regex.treeOf pattern = .ok tree := by
    rw [List.forall_mem_map]
  rw [anchored]
  obtain ⟨wellFormed, ⟨regexes, made⟩ | made⟩ | ⟨illFormed, fault, made⟩ :=
    compileAll_cases sizeLimit (patterns.map Dialect.anchored)
  · have built : ofPatterns sizeLimit patterns = .ok _ :=
      Except.bind_eq_ok_iff.mpr ⟨regexes, Except.mapError_eq_ok_iff.mpr made, rfl⟩
    have succeeds : ∃ discriminator, (builder sizeLimit patterns).value = .ok discriminator := by
      rw [builder, built]
      exact ⟨_, rfl⟩
    exact iff_of_true wellFormed (.inl succeeds)
  · have failed : ofPatterns sizeLimit patterns = .error (CompileError.tooBig sizeLimit).message := by
      rw [ofPatterns, made]
      rfl
    refine iff_of_true wellFormed (.inr ?_)
    rw [builder, failed]
    rfl
  · have failed : (builder sizeLimit patterns).value =
        .error (CompileError.illFormed fault).message := by
      have refused : ofPatterns sizeLimit patterns =
          .error (CompileError.illFormed fault).message := by
        rw [ofPatterns, made]
        rfl
      rw [builder, refused]
      rfl
    refine iff_of_false illFormed ?_
    rintro (⟨discriminator, built⟩ | tooBig)
    · cases failed.symm.trans built
    · exact message_ne fault sizeLimit (Except.error.inj (failed.symm.trans tooBig))

end Discriminator

theorem Extractor.compile_of_compileAt
    {dialect : Dialect}
    {number : Nat}
    {definition : Definition}
    {entry : String × ExtractionUnit}
    (made : compileAt dialect number definition = .ok entry) :
    ∃ pieces, definition.compile dialect = .ok pieces ∧ pieces.discriminator = entry.1 := by
  obtain ⟨pieces, written, finishes⟩ := Except.bind_eq_ok_iff.mp made
  obtain ⟨unit, -, paired⟩ := Except.bind_eq_ok_iff.mp finishes
  obtain rfl := Except.ok.inj paired
  exact ⟨pieces, written, rfl⟩

/-- When every definition compiles, construction ends as the discriminator does. -/
theorem Extractor.construct_of_compileAt
    {dialect : Dialect}
    (builder : DiscriminatorBuilder)
    {definitions : List Definition}
    (distinct : (definitions.map (·.name)).Nodup)
    (compiles : ∀ number definition, definitions[number]? = some definition →
      ∃ entry, compileAt dialect number definition = .ok entry) :
    ∃ compiled, CompiledTo dialect definitions compiled ∧
      (construct dialect builder definitions).value =
        match (builder (compiled.map (·.1))).value with
        | .error cause => .error (.discriminator cause)
        | .ok discriminator => .ok ⟨discriminator, compiled.map (·.2)⟩ := by
  have construction := construction_construct dialect builder definitions
  generalize (construct dialect builder definitions).value = result at construction
  cases construction with
  | repeatedName originalAt repeatedAt inFront sameName _ =>
      exact absurd distinct (not_nodup_of_repetition originalAt repeatedAt inFront sameName)
  | failingDefinition _ definitionAt fails _ =>
      obtain ⟨entry, compiled⟩ := compiles _ _ definitionAt
      exact nomatch fails.symm.trans compiled
  | failingDiscriminator _ compiledTo fails => exact ⟨_, compiledTo, by rw [fails]⟩
  | ready _ compiledTo discriminated => exact ⟨_, compiledTo, by rw [discriminated]⟩

/-! ## Definitions made of phrases -/

namespace Definition

/-- The discriminator pattern of the definition is well-formed. -/
def HasDiscriminator (dialect : Dialect) (definition : Definition) : Prop :=
  ∀ compiled, definition.compile dialect = .ok compiled →
    ∃ tree, Regex.treeOf (Dialect.anchored compiled.discriminator) = .ok tree

/-- Every pattern of the definition is a phrase that both dialects know. -/
def IsPhrased (definition : Definition) : Prop :=
  ∀ source ∈ definition.patterns, ∃ phrase : Phrase,
    phrase.isValid ∧ phrase.isCommon ∧ phrase.text = source.1.toList

/-- Phrases of some kind are given for all patterns of a definition, if there is one for each. -/
theorem exists_given
    {definition : Definition}
    {holds : Phrase → Prop}
    (phrased : ∀ source ∈ definition.patterns, ∃ phrase : Phrase,
      phrase.isValid ∧ holds phrase ∧ phrase.text = source.1.toList) :
    ∃ given, Piece.Given given definition.patterns ∧
      ∀ source ∈ definition.patterns, holds (given source.1) := by
  have chosen (text : String) : ∃ phrase : Phrase, text ∈ definition.patterns.map (·.1) →
      phrase.isValid ∧ holds phrase ∧ phrase.text = text.toList := by
    by_cases used : text ∈ definition.patterns.map (·.1)
    · obtain ⟨source, member, rfl⟩ := List.mem_map.mp used
      obtain ⟨phrase, spec⟩ := phrased source member
      exact ⟨phrase, fun _ => spec⟩
    · exact ⟨.done, fun taken => absurd taken used⟩
  choose given spec using chosen
  have specOf (source : String × Location) (member : source ∈ definition.patterns) :=
    spec source.1 (List.mem_map_of_mem member)
  exact ⟨given, ⟨fun source member => (specOf source member).1,
    fun source member => (specOf source member).2.2⟩, fun source member => (specOf source member).2.1⟩

/-- A definition made of phrases whose extraction pattern is well-formed has a discriminator. -/
theorem hasDiscriminator_of_isPhrased
    {options : Options}
    (linear : options.backend = .linear)
    {definition : Definition}
    (phrased : definition.IsPhrased)
    {compiled : CompiledPieces}
    (compiles : definition.compile options.dialect = .ok compiled)
    {tree : Linear.Tree}
    (wellFormed : Regex.treeOf (Dialect.anchored compiled.extraction) = .ok tree) :
    definition.HasDiscriminator options.dialect := by
  intro again compilesAgain
  obtain rfl := Except.ok.inj (compiles.symm.trans compilesAgain)
  have written := definition.compiles_of_compile options.dialect_writes compiles
  rw [linear] at written
  obtain ⟨given, isGiven, common⟩ := exists_given phrased
  let phrase := Piece.phraseOf (.extraction .linear) given 0 definition.pieces
  have valid : phrase.anchored.isValid :=
    Phrase.isValid_anchored (Piece.isValid_phraseOf _ 0 isGiven)
  have anchoredCommon : phrase.anchored.isCommon :=
    Phrase.isCommon_anchored (Piece.isCommon_phraseOf 0 common)
  have text : (Dialect.anchored compiled.extraction).toList = phrase.anchored.text := by
    rw [Dialect.toList_anchored, Phrase.text_anchored, Piece.text_phraseOf _ 0 _ isGiven,
      written.extraction]
  have relaxedText : (Dialect.anchored compiled.discriminator).toList =
      phrase.anchored.relaxed.text := by
    rw [Dialect.toList_anchored, Phrase.relaxed_anchored, Phrase.text_anchored,
      Piece.relaxed_phraseOf, Piece.text_phraseOf _ 0 _ isGiven, written.discriminator]
  exact Linear.exists_treeOf_relaxed valid anchoredCommon text relaxedText wellFormed

end Definition

/-- Definitions with distinct names each of which compiles are built, or their discriminator is
too big, exactly when every discriminator pattern is well-formed; and that is so when all
patterns are phrases. -/
theorem Options.build_iff_hasDiscriminator
    {options : Options}
    (linear : options.backend = .linear)
    {definitions : List Definition}
    (distinct : (definitions.map (·.name)).Nodup)
    (cooks : ∀ number definition, definitions[number]? = some definition →
      ∃ compiled unit, definition.compile options.dialect = .ok compiled ∧
        options.dialect.finish number compiled.extraction definition = .ok unit) :
    ((∀ definition ∈ definitions, definition.HasDiscriminator options.dialect) ↔
      (∃ extractor, (options.build definitions).value = .ok extractor) ∨
        (options.build definitions).value =
          .error (.discriminator (CompileError.tooBig options.effectiveSizeLimit).message)) ∧
      ((∀ definition ∈ definitions, definition.IsPhrased) →
        ∀ definition ∈ definitions, definition.HasDiscriminator options.dialect) := by
  constructor
  · have compiles (number : Nat) (definition : Definition)
        (found : definitions[number]? = some definition) :
        ∃ entry, Extractor.compileAt options.dialect number definition = .ok entry := by
      obtain ⟨compiled, unit, written, finished⟩ := cooks number definition found
      exact ⟨(compiled.discriminator, unit), Except.bind_eq_ok_iff.mpr ⟨compiled, written,
        Except.bind_eq_ok_iff.mpr ⟨unit, finished, rfl⟩⟩⟩
    obtain ⟨compiled, ⟨sameLength, compiledAt⟩, built⟩ :=
      Extractor.construct_of_compileAt options.discriminatorBuilder distinct compiles
    have patterns : (∀ definition ∈ definitions, definition.HasDiscriminator options.dialect) ↔
        ∀ pattern ∈ compiled.map (·.1), ∃ tree, Regex.treeOf (Dialect.anchored pattern) = .ok tree := by
      constructor
      · intro discriminates pattern member
        obtain ⟨number, found⟩ := List.mem_iff_getElem?.mp member
        rw [List.getElem?_map] at found
        obtain ⟨entry, entryAt, rfl⟩ := Option.map_eq_some_iff.mp found
        have inside : number < definitions.length :=
          sameLength ▸ (List.getElem?_eq_some_iff.mp entryAt).1
        have definitionAt := List.getElem?_eq_getElem inside
        obtain ⟨same, sameAt, made⟩ := compiledAt number _ definitionAt
        obtain rfl := Option.some.inj (entryAt.symm.trans sameAt)
        obtain ⟨pieces, written, isDiscriminator⟩ := Extractor.compile_of_compileAt made
        rw [← isDiscriminator]
        exact discriminates _ (List.getElem_mem inside) pieces written
      · intro wellFormed definition member pieces written
        obtain ⟨number, definitionAt⟩ := List.mem_iff_getElem?.mp member
        obtain ⟨entry, entryAt, made⟩ := compiledAt number definition definitionAt
        obtain ⟨same, sameWritten, isDiscriminator⟩ := Extractor.compile_of_compileAt made
        obtain rfl := Except.ok.inj (written.symm.trans sameWritten)
        rw [isDiscriminator]
        exact wellFormed entry.1 (List.mem_map_of_mem (List.mem_of_getElem? entryAt))
    have ends := Discriminator.builder_iff options.effectiveSizeLimit (compiled.map (·.1))
    rw [patterns, ends, Options.build, built, Options.discriminatorBuilder]
    cases (Discriminator.builder options.effectiveSizeLimit (compiled.map (·.1))).value with
    | error cause => simp
    | ok discriminator => simp
  · intro phrased definition member
    obtain ⟨number, found⟩ := List.mem_iff_getElem?.mp member
    obtain ⟨compiled, unit, compiles, finished⟩ := cooks number definition found
    rw [Options.dialect, linear] at finished
    obtain ⟨regex, made, -⟩ := Except.bind_eq_ok_iff.mp finished
    obtain ⟨tree, wellFormed, -⟩ :=
      Dialect.treeOf_of_compileLinear (Except.mapError_eq_ok_iff.mp made)
    exact definition.hasDiscriminator_of_isPhrased linear (phrased definition member) compiles
      wellFormed

/-- A definition of an expression and a pattern, with groups, a class and a name. -/
def setting : Definition :=
  ⟨"setting", [.expression "key" [.pattern "(?P<word>[a-z]+?|\\x2d)" .unknown] .unknown,
    .text "=" .unknown, .pattern "(on|o(?:ff)){1,2}" .unknown], .unknown⟩

theorem setting_isPhrased : setting.IsPhrased := by
  let letters : Pattern.Bracket := ⟨false, false, ['a', '-', 'z'].map fun char => .char (.plain char)⟩
  let key : Phrase :=
    .group (.named true "word".toList)
      (.leaf (.bracket letters) (some ⟨.plus, true, false⟩)
        (.bar (.leaf (.char (.code 'x' ['2', 'd'])) none .done))) none .done
  let value : Phrase :=
    .group .capture
      (.leaf (.char (.plain 'o')) none (.leaf (.char (.plain 'n')) none
        (.bar (.leaf (.char (.plain 'o')) none
          (.group .plain (.leaf (.char (.plain 'f')) none (.leaf (.char (.plain 'f')) none .done))
            none .done)))))
      (some ⟨.between ['1'] ['2'], false, false⟩) .done
  intro source member
  obtain rfl | rfl : source = ("(?P<word>[a-z]+?|\\x2d)", .unknown) ∨
      source = ("(on|o(?:ff)){1,2}", .unknown) := by
    simpa [Definition.patterns, setting, Piece.patternsOf, Piece.patterns] using member
  · exact ⟨key, by decide, by decide, by decide⟩
  · exact ⟨value, by decide, by decide, by decide⟩

theorem Options.build_iff_hasDiscriminator_setting :
    Options.default.backend = .linear ∧ ([setting].map (·.name)).Nodup ∧
      (∀ number definition, [setting][number]? = some definition →
        ∃ compiled unit, definition.compile Options.default.dialect = .ok compiled ∧
          Options.default.dialect.finish number compiled.extraction definition = .ok unit) ∧
      ((∃ extractor, (Options.default.build [setting]).value = .ok extractor) ∨
        (Options.default.build [setting]).value = .error (.discriminator
          (CompileError.tooBig Options.default.effectiveSizeLimit).message)) := by
  have cooks (number : Nat) (definition : Definition)
      (found : [setting][number]? = some definition) :
      ∃ compiled unit, definition.compile Options.default.dialect = .ok compiled ∧
        Options.default.dialect.finish number compiled.extraction definition = .ok unit := by
    obtain ⟨entry, made, -⟩ :
        ∃ entry, Extractor.compileAt Options.default.dialect 0 setting = .ok entry ∧ true :=
      Except.exists_ok_of_decide (by decide +kernel)
    obtain ⟨compiled, written, finishes⟩ := Except.bind_eq_ok_iff.mp made
    obtain ⟨unit, finished, -⟩ := Except.bind_eq_ok_iff.mp finishes
    cases number with
    | zero =>
        obtain rfl := Option.some.inj found
        exact ⟨compiled, unit, written, finished⟩
    | succ number => simp at found
  have distinct : ([setting].map (·.name)).Nodup := by decide
  obtain ⟨discriminates, phrased⟩ := Options.build_iff_hasDiscriminator rfl distinct cooks
  refine ⟨rfl, distinct, cooks, discriminates.mp (phrased ?_)⟩
  rintro _ member
  rw [List.mem_singleton.mp member]
  exact setting_isPhrased

/-- A definition with a class in whose nested class a closing bracket stands first. -/
def stray : Definition := ⟨"stray", [.pattern "[[]!-~](?=]" .unknown], .unknown⟩

/-- What the definition is compiled to.  Relaxing ends the class behind the nested class and
finds a look-ahead in the rest. -/
def strayPieces : CompiledPieces := ⟨"(?:[[]!-~](?:))", "(?:[[]!-~](?=])", []⟩

/-- The graphic characters of ASCII. -/
def graphic : Unicode.CodePointSet := ⟨[⟨33, 126⟩]⟩

theorem treeOf_stray :
    Regex.treeOf strayPieces.extraction = .ok (.set graphic) ∧
      Regex.treeOf (Dialect.anchored strayPieces.extraction) =
        .ok (.concat (.look .startText) (.concat (.set graphic) (.look .endText))) := by
  let members : Linear.ClassSet := .ofItems
    [.bracketed false (.ofItems [.literal ⟨']', false⟩, .range ⟨'!', false⟩ ⟨'~', false⟩]),
      .literal ⟨'(', false⟩, .literal ⟨'?', false⟩, .literal ⟨'=', false⟩]
  let fragment : Linear.Ast := .group (.plain []) (.bracketed false members)
  have parsed : (Linear.parse strayPieces.extraction.toList).toOption = some fragment := by
    decide +kernel
  have anchoredParsed : (Linear.parse (Dialect.anchored strayPieces.extraction).toList).toOption =
      some (.ofParts [.assertion .startText, .group (.plain []) fragment, .assertion .endText]) := by
    decide +kernel
  constructor
  · exact Except.bind_eq_ok_iff.mpr ⟨_, Except.toOption_eq_some_iff.mp parsed, by cbv⟩
  · exact Except.bind_eq_ok_iff.mpr ⟨_, Except.toOption_eq_some_iff.mp anchoredParsed, by cbv⟩

theorem Dialect.compileLinear_of_fitsWithin
    {sizeLimit : Nat}
    {pattern : String}
    {tree : Linear.Tree}
    (found : Regex.treeOf pattern = .ok tree)
    (fits : Linear.fitsWithin sizeLimit true [tree]) :
    compileLinear sizeLimit pattern = .ok (.ofTree tree) :=
  Except.mapError_eq_ok_iff.mpr (Regex.compile_of_fitsWithin found fits)

theorem compile_stray :
    stray.compile Options.default.dialect = .ok strayPieces := by
  have compiled := Dialect.compileLinear_of_fitsWithin treeOf_stray.1
    (show Linear.fitsWithin Linear.defaultSizeLimit true [.set graphic] by decide +kernel)
  have wraps : Pattern.wrap "[[]!-~](?=]" = strayPieces.extraction := by decide +kernel
  have passes : Options.default.dialect.pattern "[[]!-~](?=]" = .ok strayPieces.extraction :=
    Except.bind_eq_ok_iff.mpr ⟨_, wraps.symm ▸ compiled, congrArg Except.ok wraps⟩
  have relaxes : Pattern.relax "[[]!-~](?=]" = strayPieces.discriminator := by decide +kernel
  have piece : Piece.compile Options.default.dialect "stray" 0 (.pattern "[[]!-~](?=]" .unknown) =
      .ok strayPieces := by
    rw [Piece.compile, passes, relaxes]
    rfl
  have pieces : Piece.compileAll Options.default.dialect "stray" 0 stray.pieces = .ok strayPieces :=
    Except.bind_eq_ok_iff.mpr ⟨strayPieces, piece, Except.bind_eq_ok_iff.mpr ⟨.empty, rfl, rfl⟩⟩
  have groups : stray.checkGroups = .ok () := Except.toOption_eq_some_iff.mp (by decide +kernel)
  exact Except.bind_eq_ok_iff.mpr ⟨(), rfl, Except.bind_eq_ok_iff.mpr ⟨(), groups, pieces⟩⟩

/-- What is left of the class is never closed, so the discriminator cannot be built, although
the definition compiles. -/
theorem Options.build_stray :
    (∃ compiled unit, stray.compile Options.default.dialect = .ok compiled ∧
      Options.default.dialect.finish 0 compiled.extraction stray = .ok unit) ∧
      (Options.default.build [stray]).value =
        .error (.discriminator (CompileError.illFormed .classUnclosed).message) := by
  have compiled := Dialect.compileLinear_of_fitsWithin treeOf_stray.2
    (show Linear.fitsWithin Linear.defaultSizeLimit true
      [.concat (.look .startText) (.concat (.set graphic) (.look .endText))] by decide +kernel)
  obtain ⟨unit, finished⟩ :
      ∃ unit, Options.default.dialect.finish 0 strayPieces.extraction stray = .ok unit :=
    ⟨_, Except.bind_eq_ok_iff.mpr ⟨_, Except.mapError_eq_ok_iff.mpr compiled, rfl⟩⟩
  refine ⟨⟨strayPieces, unit, compile_stray, finished⟩, ?_⟩
  have entry : Extractor.compileAt Options.default.dialect 0 stray =
      .ok (strayPieces.discriminator, unit) :=
    Except.bind_eq_ok_iff.mpr ⟨strayPieces, compile_stray,
      Except.bind_eq_ok_iff.mpr ⟨unit, finished, rfl⟩⟩
  have fails : (Discriminator.builder Linear.defaultSizeLimit [strayPieces.discriminator]).value =
      .error (CompileError.illFormed .classUnclosed).message :=
    Except.eq_error_of_cause? (by decide +kernel)
  have checked : Extractor.checkNames [] [stray] = .ok () := rfl
  have builds : (Options.default.discriminatorBuilder [strayPieces.discriminator]).value = _ := fails
  simp [Options.build, Extractor.construct, checked, Extractor.compileFrom, entry,
    Extractor.assemble, builds, Except.map]

end LineExtraction

import LineExtraction.Proofs.Backtracking.PhraseNumbers
import LineExtraction.Proofs.Extraction.Discriminating
import LineExtraction.Proofs.Extraction.Finishing
import LineExtraction.Proofs.Pattern.NameScan
import Mathlib.Data.List.Sort

/-!
# The two backends on common patterns

When all fragments of a definition are phrases that both dialects know, the definition is
written as one phrase up to the spelling of its text.  The backtracking engine hands what it
reads of this phrase to the linear engine, so both backends find the same match.  They look
for the groups of expressions under the same names, and these stand at the same numbers.
-/

namespace LineExtraction

open Linear (Tree)
open Pattern (Phrase GroupSign quoteWith)

/-! ## One phrase in two spellings -/

/-- Text has the same trees whatever is escaped in it. -/
theorem Pattern.Phrase.alike_quoted
    (isMeta isOther : Char → Bool)
    (text : List Char) :
    (quoted isMeta text).Alike (quoted isOther text) := by
  induction text with
  | nil => exact .done
  | cons char text inductionHypothesis =>
      refine .leaf (fun mode => ?_) inductionHypothesis
      rw [Leaf.tree?_char, Leaf.tree?_char]
      split <;> split <;> rfl

theorem Pattern.Phrase.Alike.anchored
    {left right : Phrase}
    (alike : left.Alike right) :
    left.anchored.Alike right.anchored :=
  .leaf (fun _ => rfl) (.group alike (.refl _))

namespace Piece

mutual

theorem alike_phrase
    (left right : Backend)
    (given : String → Phrase)
    (ordinal : Nat)
    (piece : Piece) :
    (piece.phrase (.extraction left) given ordinal).Alike
      (piece.phrase (.extraction right) given ordinal) := by
  cases piece with
  | text content location => exact Phrase.alike_quoted _ _ content.toList
  | pattern source location => exact .group (.refl _) .done
  | expression label parts location =>
      exact .group (alike_phraseOf left right given (ordinal + 1) parts) .done

/-- Pieces are written for both backends as one phrase, up to its spelling. -/
theorem alike_phraseOf
    (left right : Backend)
    (given : String → Phrase)
    (ordinal : Nat)
    (pieces : List Piece) :
    (phraseOf (.extraction left) given ordinal pieces).Alike
      (phraseOf (.extraction right) given ordinal pieces) := by
  cases pieces with
  | nil => exact .done
  | cons piece pieces =>
      exact (alike_phrase left right given ordinal piece).append
        (alike_phraseOf left right given _ pieces)

end

end Piece

/-! ## Names of expressions -/

/-- The names of a well-formed phrase are well-formed. -/
theorem Pattern.Phrase.isGroupName_of_mem_names
    {phrase : Phrase}
    (valid : phrase.isValid)
    {name : List Char}
    (member : name ∈ phrase.names) :
    isGroupName name := by
  induction phrase with
  | done => cases member
  | leaf atom quantifier rest inductionHypothesis =>
      exact inductionHypothesis (allOf_leaf_iff.mp valid).2 member
  | group sign body quantifier rest bodyHypothesis restHypothesis =>
      obtain ⟨own, inside, behind⟩ := allOf_group_iff.mp valid
      obtain later | member := List.mem_append.mp member
      · exact restHypothesis behind later
      obtain inner | here := List.mem_append.mp member
      · exact bodyHypothesis inside inner
      · cases sign with
        | named long given =>
            rw [List.mem_singleton.mp here]
            exact (of_decide_eq_true own).1
        | _ => cases here
  | bar rest inductionHypothesis => exact inductionHypothesis valid member

namespace Piece

mutual

theorem origin_of_mem_names
    {backend : Backend}
    {given : String → Phrase}
    (ordinal : Nat)
    (piece : Piece)
    {name : List Char}
    (member : name ∈ (piece.phrase (.extraction backend) given ordinal).names) :
    (∃ source ∈ piece.patterns, name ∈ (given source.1).names) ∨
      ∃ number, name = expressionName number := by
  cases piece with
  | text content location =>
      have nameless (text : List Char) :
          (Phrase.quoted (Writing.extraction backend).isMeta text).names = [] := by
        induction text with
        | nil => rfl
        | cons char text inductionHypothesis => exact inductionHypothesis
      rw [phrase, nameless] at member
      cases member
  | pattern source location =>
      exact .inl ⟨(source, location), List.mem_cons_self, by simpa [phrase, Phrase.names,
        GroupSign.names, Writing.phrase] using member⟩
  | expression label parts location =>
      obtain inner | here := List.mem_append.mp (show name ∈ _ ++ [expressionName ordinal] from member)
      · exact origin_of_mem_namesOf (ordinal + 1) parts inner
      · exact .inr ⟨ordinal, List.mem_singleton.mp here⟩

/-- A name in the phrase of pieces stands in a fragment, or it is that of an expression. -/
theorem origin_of_mem_namesOf
    {backend : Backend}
    {given : String → Phrase}
    (ordinal : Nat)
    (pieces : List Piece)
    {name : List Char}
    (member : name ∈ (phraseOf (.extraction backend) given ordinal pieces).names) :
    (∃ source ∈ patternsOf pieces, name ∈ (given source.1).names) ∨
      ∃ number, name = expressionName number := by
  cases pieces with
  | nil => cases member
  | cons piece pieces =>
      rw [phraseOf, Phrase.names_append] at member
      obtain later | here := List.mem_append.mp member
      · refine (origin_of_mem_namesOf _ pieces later).imp_left ?_
        rintro ⟨source, listed, named⟩
        exact ⟨source, List.mem_append_right _ listed, named⟩
      · refine (origin_of_mem_names ordinal piece here).imp_left ?_
        rintro ⟨source, listed, named⟩
        exact ⟨source, List.mem_append_left _ listed, named⟩

end

end Piece

/-- The name of an expression's group writes down no other ordinal. -/
theorem Dialect.eq_of_ordinalOf?_expressionName
    {number ordinal : Nat}
    (found : ordinalOf? (String.ofList (expressionName number)) = some ordinal) :
    number = ordinal := by
  by_cases small : number ≤ maximalOrdinal
  · rw [expressionName, String.ofList_toList, ordinalOf?_expressionGroup small] at found
    exact Option.some.inj found
  · have digits (char : Char) (member : char ∈ (toString number).toList) : char.isDigit :=
      isDigit_of_mem_toString member
    rw [ordinalOf?, String.toList_ofList, expressionName_eq] at found
    have found : ordinalOfDigits? (toString number).toList = some ordinal := found
    rw [ordinalOfDigits?] at found
    · split at found
      · have found : (if decimalValue (toString number).toList ≤ maximalOrdinal then
            some (decimalValue (toString number).toList) else none) = some ordinal := found
        rw [decimalValue_toString, if_neg small] at found
        cases found
      · cases found
    · intro rest same
      cases digits '+' (same ▸ List.mem_cons_self)

/-- A name that the fragments may not have is that of an expression. -/
theorem Definition.eq_expressionName_of_mem_names
    {backend : Backend}
    {definition : Definition}
    {given : String → Phrase}
    (isGiven : Piece.Given given definition.patterns)
    (admits : Admits [] (definition.patterns.flatMap fun source => Pattern.groupNames source.1))
    {name : List Char}
    (member : name ∈ (Piece.phraseOf (.extraction backend) given 0 definition.pieces).names)
    {ordinal : Nat}
    (writes : Dialect.ordinalOf? (String.ofList name) = some ordinal) :
    name = expressionName ordinal := by
  obtain ⟨source, listed, named⟩ | ⟨number, rfl⟩ := Piece.origin_of_mem_namesOf 0 _ member
  · have isName := Phrase.isGroupName_of_mem_names (isGiven.valid source listed) named
    have seen := Pattern.mem_groupNames_of_text (isGiven.valid source listed)
      (isGiven.text source listed) named
    have unsigned : '+' ∉ (String.ofList name).toList := by
      intro taken
      rw [String.toList_ofList] at taken
      have isNameChar := Pattern.isNameChar_of_isGroupName isName '+' taken
      rw [Backtracking.isNameChar_iff_of_ascii (by decide)] at isNameChar
      exact absurd isNameChar (by decide)
    exact absurd (Dialect.isReservedName_of_ordinalOf? writes unsigned)
      (admits.free _ (List.mem_flatMap.mpr ⟨source, listed, seen⟩))
  · rw [Dialect.eq_of_ordinalOf?_expressionName writes]

/-! ## Groups of expressions -/

/-- Expressions get the same groups from two lists of names, if in both of them each ordinal
is written down at the same group at most. -/
theorem Dialect.groupsOfExpressions_unique
    {names others : List (Option String)}
    {count : Nat}
    {groups otherGroups : List Nat}
    (found : groupsOfExpressions names count = .ok groups)
    (otherFound : groupsOfExpressions others count = .ok otherGroups)
    (same : ∀ ordinal left right, NamesOrdinal names ordinal left →
      NamesOrdinal others ordinal right → left = right) :
    groups = otherGroups := by
  obtain ⟨size, lastNamed⟩ := getElem?_groupsFrom found
  obtain ⟨otherSize, otherLastNamed⟩ := getElem?_groupsFrom otherFound
  refine List.ext_getElem (size.trans otherSize.symm) fun offset inside otherInside => ?_
  have left := (lastNamed offset (size ▸ inside) _).mp (List.getElem?_eq_getElem inside)
  have right := (otherLastNamed offset (size ▸ inside) _).mp (List.getElem?_eq_getElem otherInside)
  exact same _ _ _ left.named right.named

/-- The names of a phrase that is anchored are those of the phrase. -/
theorem Pattern.Phrase.names_anchored
    (phrase : Phrase) :
    phrase.anchored.names = phrase.names := by
  simp [anchored, names, GroupSign.names]

namespace Definition

/-- Every pattern of the definition is a phrase that both dialects know and that asks for no
edge of a word. -/
def IsCommon (definition : Definition) : Prop :=
  ∀ source ∈ definition.patterns, ∃ phrase : Phrase,
    phrase.isValid ∧ (phrase.isCommon ∧ phrase.isEdgeless) ∧ phrase.text = source.1.toList

/-- What a definition is written as for a backend is a phrase that both dialects know. -/
structure Spelled (given : String → Phrase) (definition : Definition) (backend : Backend)
    (pattern : String) (phrase : Phrase) : Prop where
  /-- It is the phrase of the pieces, anchored. -/
  whole : phrase = (Piece.phraseOf (.extraction backend) given 0 definition.pieces).anchored
  /-- It is well-formed. -/
  valid : phrase.isValid
  /-- Both dialects know it. -/
  common : phrase.isCommon
  /-- It asks for no edge of a word. -/
  edgeless : phrase.isEdgeless
  /-- Its text is the anchored pattern. -/
  text : (Dialect.anchored pattern).toList = phrase.text

section

variable {definition : Definition} {given : String → Phrase}
variable (isGiven : Piece.Given given definition.patterns)
variable (shared : ∀ source ∈ definition.patterns,
  (given source.1).isCommon ∧ (given source.1).isEdgeless)
include isGiven shared

theorem exists_spelled
    {options : Options}
    {pieces : CompiledPieces}
    (compiles : definition.compile options.dialect = .ok pieces) :
    ∃ phrase, Spelled given definition options.backend pieces.extraction phrase := by
  have written := definition.compiles_of_compile options.dialect_writes compiles
  have adds : (Writing.extraction options.backend).Adds (fun atom _ => ¬ atom.isWordEdge)
      (fun _ _ => true) := ⟨fun _ _ => rfl, fun _ _ => rfl, rfl, fun _ => rfl⟩
  have edgeless := Piece.allOf_phraseOf adds 0 definition.pieces fun source member =>
    (shared source member).2
  refine ⟨_, rfl, Phrase.isValid_anchored (Piece.isValid_phraseOf _ 0 isGiven),
    Phrase.isCommon_anchored (Piece.isCommon_phraseOf 0 fun source member =>
      (shared source member).1), ?_, ?_⟩
  · exact Phrase.allOf_leaf_iff.mpr ⟨rfl, Phrase.allOf_group_iff.mpr ⟨rfl, edgeless,
      Phrase.allOf_leaf_iff.mpr ⟨rfl, rfl⟩⟩⟩
  · rw [Dialect.toList_anchored, Phrase.text_anchored, Piece.text_phraseOf _ 0 _ isGiven,
      written.extraction]

end

/-- A name in a definition's phrase that writes down an ordinal is that of the expression. -/
theorem Spelled.eq_expressionName
    {given : String → Phrase}
    {definition : Definition}
    {backend : Backend}
    {pattern : String}
    {phrase : Phrase}
    (spelled : Spelled given definition backend pattern phrase)
    (isGiven : Piece.Given given definition.patterns)
    (admits : Admits [] (definition.patterns.flatMap fun source => Pattern.groupNames source.1))
    {name : List Char}
    {group : Nat}
    (member : (name, group) ∈ phrase.numbered 0)
    {ordinal : Nat}
    (writes : Dialect.ordinalOf? (String.ofList name) = some ordinal) :
    name = expressionName ordinal := by
  have named := List.mem_map_of_mem (f := Prod.fst) member
  rw [Phrase.map_fst_numbered, spelled.whole, Phrase.names_anchored] at named
  exact eq_expressionName_of_mem_names isGiven admits named writes

end Definition

/-! ## Units of phrases -/

/-- A unit that runs the tree of a phrase and finds the groups of expressions under names
that the phrase gives. -/
inductive ExtractionUnit.Runs (definition : Definition) (number : Nat) (pattern : String)
    (phrase : Phrase) : ExtractionUnit → Prop
  | intro {tree : Tree} {names : List (Option String)} {groups : List Nat}
      (known : phrase.tree? = some tree)
      (numbered : ∀ group name, names[group]? = some (some name) →
        (name.toList, group) ∈ phrase.numbered 0)
      (found : Dialect.groupsOfExpressions names definition.fieldNames.length = .ok groups) :
      Runs definition number pattern phrase
        ⟨number, definition.name, pattern, definition.fieldNames,
          Dialect.attemptLinear (.ofTree tree) groups⟩

section

variable {given : String → Phrase} {definition : Definition} {number : Nat} {pattern : String}
  {phrase : Phrase} {unit : ExtractionUnit}

/-- The linear backend runs the phrase that a definition is written as, and finds that no name
stands twice. -/
theorem Definition.Spelled.runs_linear
    (spelled : Spelled given definition .linear pattern phrase)
    {sizeLimit : Nat}
    (finished : (Dialect.linear sizeLimit).finish number pattern definition = .ok unit) :
    phrase.names.Nodup ∧ unit.Runs definition number pattern phrase := by
  obtain ⟨regex, compiled, made⟩ := Except.bind_eq_ok_iff.mp finished
  obtain ⟨tree, parses, rfl⟩ :=
    Dialect.treeOf_of_compileLinear (Except.mapError_eq_ok_iff.mp compiled)
  obtain ⟨names, named, numbered⟩ := phrase.exists_namedBy 0
  obtain ⟨distinct, nameless, known, rfl⟩ :=
    Phrase.tree_of_treeOf spelled.valid spelled.common named spelled.text parses
  obtain ⟨groups, found, rfl⟩ := Dialect.eq_of_unitOf made
  have attempt : Dialect.attemptLinear (.ofTree (nameless.named names)) groups =
      Dialect.attemptLinear (.ofTree nameless) groups := by
    funext line
    rw [Dialect.attemptLinear, Linear.search_ofTree_named, Dialect.attemptLinear]
  rw [attempt]
  refine ⟨distinct, .intro known (fun group name isNamed => ?_) found⟩
  have captured := Linear.mem_captures_of_groupNames isNamed
  rw [Linear.Tree.captures_named] at captured
  obtain ⟨capture, -, same⟩ := List.mem_map.mp captured
  obtain ⟨rfl, isName⟩ := Prod.mk.inj same
  exact numbered _ _ isName

/-- The backtracking backend runs the phrase that a definition is written as, if it has a
tree. -/
theorem Definition.Spelled.runs_backtracking
    (spelled : Spelled given definition .backtracking pattern phrase)
    {tree : Tree}
    (known : phrase.tree? = some tree)
    {limit : Nat}
    (finished : (Dialect.backtracking limit).finish number pattern definition = .ok unit) :
    unit.Runs definition number pattern phrase := by
  obtain ⟨regex, compiled, made⟩ := Except.bind_eq_ok_iff.mp finished
  have compiled := Except.mapError_eq_ok_iff.mp (Except.mapError_eq_ok_iff.mp compiled)
  have search := Backtracking.Regex.search_of_compile spelled.valid spelled.common
    spelled.edgeless known spelled.text compiled
  obtain ⟨parsed, parses, names⟩ := Backtracking.names_of_compile compiled
  rw [spelled.text] at parses
  obtain ⟨_, -, rfl⟩ := Backtracking.parse_phrase spelled.valid parses
  obtain ⟨groups, found, rfl⟩ := Dialect.eq_of_unitOf made
  have attempt : Dialect.attemptBacktracking regex groups =
      Dialect.attemptLinear (.ofTree tree) groups := by
    funext line
    rw [Dialect.attemptBacktracking, search, Dialect.attemptLinear]
    cases (Linear.Regex.ofTree tree).search line <;> rfl
  rw [attempt]
  refine .intro known (fun group name isNamed => ?_) found
  rw [names] at isNamed
  exact Backtracking.mem_of_groupNamesOf isNamed

end

/-- Two units that do the same and show different patterns. -/
def ExtractionUnit.Agrees (unit other : ExtractionUnit) : Prop :=
  other = { unit with pattern := other.pattern }

/-- The units of a definition agree, and neither gives up. -/
theorem Definition.agrees_of_finish
    {options others : Options}
    (linear : options.backend = .linear)
    (backtracking : others.backend = .backtracking)
    {definition : Definition}
    (common : definition.IsCommon)
    {number : Nat}
    {pieces otherPieces : CompiledPieces}
    (compiles : definition.compile options.dialect = .ok pieces)
    (otherCompiles : definition.compile others.dialect = .ok otherPieces)
    {unit other : ExtractionUnit}
    (finished : options.dialect.finish number pieces.extraction definition = .ok unit)
    (otherFinished : others.dialect.finish number otherPieces.extraction definition = .ok other) :
    unit.Agrees other ∧ ∀ line reason, other.attempt line ≠ .gaveUp reason := by
  obtain ⟨given, isGiven, shared⟩ := exists_given common
  obtain ⟨phrase, spelled⟩ := exists_spelled isGiven shared compiles
  obtain ⟨otherPhrase, otherSpelled⟩ := exists_spelled isGiven shared otherCompiles
  rw [linear] at spelled
  rw [backtracking] at otherSpelled
  rw [Options.dialect, linear] at finished
  rw [Options.dialect, backtracking] at otherFinished
  have alike : phrase.Alike otherPhrase := by
    rw [spelled.whole, otherSpelled.whole]
    exact (Piece.alike_phraseOf _ _ given 0 definition.pieces).anchored
  obtain ⟨distinct, runs⟩ := spelled.runs_linear finished
  cases runs with
  | @intro tree names groups known numbered found =>
  have sameTree : otherPhrase.tree? = some tree := by
    rw [Phrase.tree?, ← alike.trees, ← Phrase.tree?, known]
  cases otherSpelled.runs_backtracking sameTree otherFinished with
  | @intro otherTree otherNames otherGroups otherKnown otherNumbered otherFound =>
  obtain rfl := Option.some.inj (sameTree.symm.trans otherKnown)
  have admits := admits_of_compile compiles
  have sameGroups : groups = otherGroups := by
    refine Dialect.groupsOfExpressions_unique found otherFound fun ordinal left right => ?_
    rintro ⟨leftName, leftNamed, leftWrites⟩ ⟨rightName, rightNamed, rightWrites⟩
    have leftMember := numbered left leftName leftNamed
    have rightMember := otherNumbered right rightName rightNamed
    rw [← alike.numbered] at rightMember
    rw [← String.ofList_toList (s := leftName)] at leftWrites
    rw [← String.ofList_toList (s := rightName)] at rightWrites
    rw [spelled.eq_expressionName isGiven admits leftMember leftWrites] at leftMember
    rw [spelled.eq_expressionName isGiven admits rightMember rightWrites] at rightMember
    exact Phrase.number_unique distinct leftMember rightMember
  subst sameGroups
  refine ⟨rfl, fun line reason => ?_⟩
  show Dialect.attemptLinear _ _ _ ≠ _
  rw [Dialect.attemptLinear]
  split <;> intro given <;> cases given

/-- Both dialects write the same pattern for the discriminator. -/
theorem Definition.mayMatch_iff
    {options others : Options}
    {definition : Definition}
    {pieces otherPieces : CompiledPieces}
    (compiles : definition.compile options.dialect = .ok pieces)
    (otherCompiles : definition.compile others.dialect = .ok otherPieces)
    (line : Line) :
    definition.MayMatch options.dialect line ↔ definition.MayMatch others.dialect line := by
  have written := definition.compiles_of_compile options.dialect_writes compiles
  have otherWritten := definition.compiles_of_compile others.dialect_writes otherCompiles
  have same : pieces.discriminator = otherPieces.discriminator :=
    String.toList_injective (written.discriminator.trans otherWritten.discriminator.symm)
  rw [MayMatch, MayMatch, compiles, otherCompiles]
  simp only [Except.ok.injEq, exists_eq_left', same]

/-! ## Outcomes -/

/-- Two outcomes that differ at most in the pattern of a disagreement. -/
def Outcome.Agree : Outcome → Outcome → Prop
  | .ok record, .ok other => record = other
  | .error disagreement, .error other => other = { disagreement with pattern := other.pattern }
  | _, _ => False

namespace Extractor

/-- Units that agree make the same of a line. -/
theorem agree_extractFrom
    {units others : List ExtractionUnit}
    (size : units.length = others.length)
    (agrees : ∀ (number : Nat) (unit other : ExtractionUnit), units[number]? = some unit →
      others[number]? = some other → unit.Agrees other)
    (mode : ExtractionMode)
    (input : String)
    (line : Line)
    (candidates : List Nat) :
    Outcome.Agree (extractFrom units mode input line candidates).value
      (extractFrom others mode input line candidates).value := by
  induction candidates with
  | nil => exact rfl
  | cons number candidates inductionHypothesis =>
      rw [extractFrom, extractFrom]
      cases found : units[number]? with
      | none =>
          have missing : others[number]? = none := by
            rw [List.getElem?_eq_none_iff] at found ⊢
            exact size ▸ found
          rw [missing]
          exact inductionHypothesis
      | some unit =>
          have inside := size ▸ (List.getElem?_eq_some_iff.mp found).1
          have otherFound := List.getElem?_eq_getElem inside
          have agrees := agrees number unit _ found otherFound
          have same : others[number].extract line = unit.extract line := by
            rw [agrees]
            rfl
          rw [otherFound]
          simp only [Logged.value_bind, ExtractionUnit.extractLogged_value, same]
          cases unit.extract line with
          | some record => exact rfl
          | none =>
              cases mode with
              | strict =>
                  show Disagreement.ofUnit input number others[number] = _
                  rw [agrees]
                  rfl
              | permissive => exact inductionHypothesis

end Extractor

/-- Where all patterns are phrases that both dialects know and that ask for no edge of a word,
the extractors of the two backends have the same candidates and make the same of every line
in either mode, but for the pattern that a disagreement shows; and no search is given up. -/
theorem Options.agree_of_isCommon
    {options others : Options}
    (linear : options.backend = .linear)
    (backtracking : others.backend = .backtracking)
    {definitions : List Definition}
    (common : ∀ definition ∈ definitions, definition.IsCommon)
    {extractor other : Extractor}
    (built : (options.build definitions).value = .ok extractor)
    (otherBuilt : (others.build definitions).value = .ok other)
    (input : String) :
    extractor.discriminator.candidates (Line.ofString input) =
        other.discriminator.candidates (Line.ofString input) ∧
      (∀ mode, Outcome.Agree (extractor.extract mode input) (other.extract mode input)) ∧
      extractor.extractPermissive input = other.extractPermissive input ∧
      ∀ unit ∈ other.units, ∀ reason, unit.attempt (Line.ofString input) ≠ .gaveUp reason := by
  have sound := built_of_build built
  have otherSound := built_of_build otherBuilt
  have size : extractor.units.length = other.units.length := sound.size.trans otherSound.size.symm
  have agrees (number : Nat) (unit otherUnit : ExtractionUnit)
      (found : extractor.units[number]? = some unit)
      (otherFound : other.units[number]? = some otherUnit) :
      unit.Agrees otherUnit ∧ ∀ line reason, otherUnit.attempt line ≠ .gaveUp reason := by
    have inside : number < definitions.length :=
      sound.size ▸ (List.getElem?_eq_some_iff.mp found).1
    have definitionFound := List.getElem?_eq_getElem inside
    obtain ⟨pieces, _, compiles, same, finished⟩ := sound.finished number _ definitionFound
    obtain rfl := Option.some.inj (found.symm.trans same)
    obtain ⟨otherPieces, _, otherCompiles, same, otherFinished⟩ :=
      otherSound.finished number _ definitionFound
    obtain rfl := Option.some.inj (otherFound.symm.trans same)
    exact Definition.agrees_of_finish linear backtracking (common _ (List.getElem_mem inside))
      compiles otherCompiles finished otherFinished
  have candidates : extractor.discriminator.candidates (Line.ofString input) =
      other.discriminator.candidates (Line.ofString input) := by
    refine (sound.ascending _).eq_of_mem_iff (otherSound.ascending _) fun number => ?_
    rw [sound.reported, otherSound.reported]
    refine exists_congr fun definition => and_congr_right fun found => ?_
    obtain ⟨pieces, _, compiles, -, -⟩ := sound.finished number definition found
    obtain ⟨otherPieces, _, otherCompiles, -, -⟩ := otherSound.finished number definition found
    exact definition.mayMatch_iff compiles otherCompiles _
  have outcomes (mode : ExtractionMode) :
      Outcome.Agree (extractor.extract mode input) (other.extract mode input) := by
    rw [Extractor.extract, Extractor.extract, Extractor.extractLogged, Extractor.extractLogged,
      candidates]
    exact Extractor.agree_extractFrom size
      (fun number unit otherUnit found otherFound =>
        (agrees number unit otherUnit found otherFound).1) mode input _ _
  refine ⟨candidates, outcomes, ?_, fun unit member => ?_⟩
  · have permissive := outcomes .permissive
    rw [Extractor.extractPermissive, Extractor.extractPermissive]
    revert permissive
    cases extractor.extract .permissive input <;> cases other.extract .permissive input
    · exact fun _ => rfl
    · exact False.elim
    · exact False.elim
    · exact id
  · obtain ⟨number, found⟩ := List.mem_iff_getElem?.mp member
    have inside := size ▸ (List.getElem?_eq_some_iff.mp found).1
    exact (agrees number _ unit (List.getElem?_eq_getElem inside) found).2 _

/-- A definition whose fields can be cut in several ways, with text that only one of the
dialects escapes. -/
def twofold : Definition :=
  ⟨"twofold", [.expression "key" [.pattern "(a|a[b-d])(?:b??)" .unknown] .unknown,
    .text "~" .unknown, .expression "rest" [.pattern "\\x2d{1,2}?[!-~]*" .unknown] .unknown], .unknown⟩

theorem twofold_isCommon : twofold.IsCommon := by
  let letters : Pattern.Bracket := ⟨false, false, ['b', '-', 'd'].map fun char => .char (.plain char)⟩
  let marks : Pattern.Bracket := ⟨false, false, ['!', '-', '~'].map fun char => .char (.plain char)⟩
  let key : Phrase :=
    .group .capture
      (.leaf (.char (.plain 'a')) none
        (.bar (.leaf (.char (.plain 'a')) none (.leaf (.bracket letters) none .done)))) none
      (.group .plain (.leaf (.char (.plain 'b')) (some ⟨.optional, true, false⟩) .done) none .done)
  let rest : Phrase :=
    .leaf (.char (.code 'x' ['2', 'd'])) (some ⟨.between ['1'] ['2'], true, false⟩)
      (.leaf (.bracket marks) (some ⟨.star, false, false⟩) .done)
  intro source member
  obtain rfl | rfl : source = ("(a|a[b-d])(?:b??)", .unknown) ∨
      source = ("\\x2d{1,2}?[!-~]*", .unknown) := by
    simpa [Definition.patterns, twofold, Piece.patternsOf, Piece.patterns] using member
  · exact ⟨key, by decide, by decide, by decide⟩
  · exact ⟨rest, by decide, by decide, by decide⟩

theorem Options.agree_of_isCommon_twofold :
    Options.default.backend = .linear ∧
      { Options.default with backend := .backtracking }.backend = .backtracking ∧
      (∀ definition ∈ [twofold], definition.IsCommon) ∧
      ∃ extractor other, (Options.default.build [twofold]).value = .ok extractor ∧
        ({ Options.default with backend := .backtracking }.build [twofold]).value = .ok other ∧
        extractor.discriminator.candidates (Line.ofString "abb~--x") =
          other.discriminator.candidates (Line.ofString "abb~--x") ∧
        (∀ mode, Outcome.Agree (extractor.extract mode "abb~--x") (other.extract mode "abb~--x")) ∧
        extractor.extractPermissive "abb~--x" = other.extractPermissive "abb~--x" ∧
        ∀ unit ∈ other.units, ∀ reason, unit.attempt (Line.ofString "abb~--x") ≠ .gaveUp reason := by
  have common : ∀ definition ∈ [twofold], definition.IsCommon := by
    rintro _ member
    rw [List.mem_singleton.mp member]
    exact twofold_isCommon
  obtain ⟨extractor, built, -⟩ :
      ∃ extractor, (Options.default.build [twofold]).value = .ok extractor ∧ true :=
    Except.exists_ok_of_decide (by decide +kernel)
  obtain ⟨other, otherBuilt, -⟩ :
      ∃ other, ({ Options.default with backend := .backtracking }.build [twofold]).value =
        .ok other ∧ true :=
    Except.exists_ok_of_decide (by decide +kernel)
  exact ⟨rfl, rfl, common, extractor, other, built, otherBuilt,
    Options.agree_of_isCommon rfl rfl common built otherBuilt "abb~--x"⟩

end LineExtraction

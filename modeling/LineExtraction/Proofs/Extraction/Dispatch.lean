import LineExtraction.Proofs.Extraction.Construction
import LineExtraction.Proofs.Linear.Exploration

/-!
# Which units a line is offered to

Extraction offers a line to the units that the discriminator reports, lowest number
first.  Offering it to all of them would give the same record exactly when the first
unit that accepts the line is reported, and no unit that is reported first refuses the
line exactly when strict and permissive extraction agree.
-/

namespace LineExtraction

/-! ## The first of several numbers -/

section Ascending

variable {α : Type} {choose : Nat → Option α} {numbers : List Nat}

/-- In an ascending list the first success is the one with the lowest number. -/
theorem findSome?_eq_some_iff_of_ascending
    (ascending : numbers.Pairwise (· < ·))
    (found : α) :
    numbers.findSome? choose = some found ↔
      ∃ number ∈ numbers, choose number = some found ∧
        ∀ earlier ∈ numbers, earlier < number → choose earlier = none := by
  induction numbers with
  | nil => simp
  | cons first rest inductionHypothesis =>
      obtain ⟨above, restAscending⟩ := List.pairwise_cons.mp ascending
      rw [List.findSome?_cons]
      cases chosen : choose first with
      | some other =>
          constructor
          · intro same
            refine ⟨first, List.mem_cons_self, chosen.trans same, fun earlier member less => ?_⟩
            rcases List.mem_cons.mp member with rfl | later
            · exact absurd less (Nat.lt_irrefl _)
            · exact absurd (above earlier later) (Nat.lt_asymm less)
          · rintro ⟨number, member, isFound, before⟩
            rcases List.mem_cons.mp member with rfl | later
            · exact chosen.symm.trans isFound
            · have none := before first List.mem_cons_self (above number later)
              exact absurd (none.symm.trans chosen) nofun
      | none =>
          refine (inductionHypothesis restAscending).trans ⟨?_, ?_⟩
          · rintro ⟨number, member, isFound, before⟩
            refine ⟨number, List.mem_cons_of_mem _ member, isFound, fun earlier listed less => ?_⟩
            rcases List.mem_cons.mp listed with rfl | later
            · exact chosen
            · exact before earlier later less
          · rintro ⟨number, member, isFound, before⟩
            rcases List.mem_cons.mp member with rfl | later
            · exact absurd (chosen.symm.trans isFound) nofun
            · exact ⟨number, later, isFound, fun earlier listed =>
                before earlier (List.mem_cons_of_mem _ listed)⟩

end Ascending

/-! ## The candidates -/

/-- Whether a pattern has a match that starts in the line. -/
def Linear.HasMatch (pattern : String) (line : Line) : Prop :=
  ∃ tree, Linear.Regex.treeOf pattern = .ok tree ∧
    ∃ start, start ≤ line.length ∧ ∃ stop, tree.Matches line start stop

namespace Discriminator

theorem mem_matching_iff
    (line : Line)
    (first : Nat)
    (regexes : List Linear.Regex)
    (number : Nat) :
    number ∈ matching line first regexes ↔
      ∃ offset, number = first + offset ∧
        ∃ regex, regexes[offset]? = some regex ∧ regex.isMatch line := by
  induction regexes generalizing first with
  | nil => simp [matching]
  | cons regex regexes inductionHypothesis =>
      have later :
          number ∈ matching line (first + 1) regexes ↔
            ∃ offset, number = first + (offset + 1) ∧
              ∃ other, regexes[offset]? = some other ∧ other.isMatch line := by
        rw [inductionHypothesis]
        simp only [Nat.add_assoc, Nat.add_comm 1]
      rw [matching]
      constructor
      · intro member
        split at member
        · next isMatch =>
            rcases List.mem_cons.mp member with rfl | member
            · exact ⟨0, rfl, regex, rfl, isMatch⟩
            · obtain ⟨offset, same, found⟩ := later.mp member
              exact ⟨offset + 1, same, found⟩
        · obtain ⟨offset, same, found⟩ := later.mp member
          exact ⟨offset + 1, same, found⟩
      · rintro ⟨offset, same, other, found, isMatch⟩
        cases offset with
        | zero =>
            obtain rfl : regex = other := Option.some.inj found
            rw [if_pos isMatch, same]
            exact List.mem_cons_self
        | succ offset =>
            have member := later.mpr ⟨offset, same, other, found, isMatch⟩
            split
            · exact List.mem_cons_of_mem _ member
            · exact member

theorem matching_ascending
    (line : Line)
    (first : Nat)
    (regexes : List Linear.Regex) :
    (matching line first regexes).Pairwise (· < ·) := by
  induction regexes generalizing first with
  | nil => exact List.Pairwise.nil
  | cons regex regexes inductionHypothesis =>
      rw [matching]
      split
      · refine List.pairwise_cons.mpr ⟨fun number member => ?_, inductionHypothesis (first + 1)⟩
        obtain ⟨offset, rfl, -⟩ := (mem_matching_iff line (first + 1) regexes number).mp member
        omega
      · exact inductionHypothesis (first + 1)

/-- The discriminator runs the trees of the anchored patterns. -/
theorem trees_of_builder
    {sizeLimit : Nat}
    {patterns : List String}
    {discriminator : Discriminator}
    (built : (builder sizeLimit patterns).value = .ok discriminator) :
    ∃ trees : List Linear.Tree, trees.length = patterns.length ∧
      discriminator = ⟨(trees.map Linear.Regex.ofTree).length,
        fun line => matching line 0 (trees.map Linear.Regex.ofTree)⟩ ∧
      ∀ (number : Nat) (pattern : String), patterns[number]? = some pattern →
        ∃ tree, trees[number]? = some tree ∧
          Linear.Regex.treeOf (Dialect.anchored pattern) = .ok tree := by
  have made : ofPatterns sizeLimit patterns = .ok discriminator := by
    rw [builder] at built
    split at built
    · exact nomatch built
    · next found => exact found.trans built
  obtain ⟨regexes, compiled, rfl⟩ :
      ∃ regexes, compileAll sizeLimit (patterns.map Dialect.anchored) = .ok regexes ∧
        ⟨regexes.length, fun line => matching line 0 regexes⟩ = discriminator := by
    rw [ofPatterns] at made
    obtain ⟨regexes, compiled, same⟩ := Except.bind_eq_ok_iff.mp made
    exact ⟨regexes, Except.mapError_eq_ok_iff.mp compiled, Except.ok.inj same⟩
  rw [compileAll] at compiled
  obtain ⟨asts, parsed, compiled⟩ := Except.bind_eq_ok_iff.mp compiled
  obtain ⟨trees, lowered, compiled⟩ := Except.bind_eq_ok_iff.mp compiled
  obtain rfl : trees.map Linear.Regex.ofTree = regexes := by
    dsimp only at compiled
    split at compiled
    · exact nomatch compiled
    · exact Except.ok.inj compiled
  obtain ⟨astCount, parsedAt⟩ := Except.getElem?_of_mapM_eq_ok (Except.mapError_eq_ok_iff.mp parsed)
  obtain ⟨treeCount, loweredAt⟩ :=
    Except.getElem?_of_mapM_eq_ok (Except.mapError_eq_ok_iff.mp lowered)
  rw [List.length_map] at astCount
  refine ⟨trees, treeCount.trans astCount, rfl, fun number pattern found => ?_⟩
  obtain ⟨ast, astFound, parses⟩ := parsedAt number (Dialect.anchored pattern) (by simp [found])
  obtain ⟨tree, treeFound, lowers⟩ := loweredAt number ast astFound
  exact ⟨tree, treeFound, Except.bind_eq_ok_iff.mpr ⟨ast, parses, lowers⟩⟩

/-- The candidates for a line come in ascending order, and they are the numbers of the
patterns that have a match in the line as a whole. -/
theorem candidates_of_builder
    {sizeLimit : Nat}
    {patterns : List String}
    {discriminator : Discriminator}
    (built : (builder sizeLimit patterns).value = .ok discriminator)
    (line : Line) :
    (discriminator.candidates line).Pairwise (· < ·) ∧
      ∀ number, number ∈ discriminator.candidates line ↔
        ∃ pattern, patterns[number]? = some pattern ∧
          Linear.HasMatch (Dialect.anchored pattern) line := by
  obtain ⟨trees, treeCount, rfl, treeAt⟩ := trees_of_builder built
  refine ⟨matching_ascending line 0 _, fun number => ?_⟩
  rw [mem_matching_iff]
  simp only [Nat.zero_add, List.getElem?_map]
  constructor
  · rintro ⟨_, rfl, regex, found, isMatch⟩
    obtain ⟨tree, treeFound, rfl⟩ := Option.map_eq_some_iff.mp found
    have inside : number < patterns.length := by
      have := (List.getElem?_eq_some_iff.mp treeFound).1
      omega
    have patternFound := List.getElem?_eq_getElem inside
    obtain ⟨same, sameFound, parses⟩ := treeAt number _ patternFound
    obtain rfl : tree = same := Option.some.inj (treeFound.symm.trans sameFound)
    exact ⟨_, patternFound, tree, parses, (Linear.Regex.isMatch_ofTree_iff tree line).mp isMatch⟩
  · rintro ⟨pattern, found, tree, parses, matched⟩
    obtain ⟨same, sameFound, sameParses⟩ := treeAt number pattern found
    obtain rfl : tree = same := Except.ok.inj (parses.symm.trans sameParses)
    exact ⟨number, rfl, .ofTree tree, by rw [sameFound]; rfl,
      (Linear.Regex.isMatch_ofTree_iff tree line).mpr matched⟩

end Discriminator
/-! ## What extraction makes of the candidates -/

namespace Extractor

variable {units : List ExtractionUnit} {line : Line}

/-- The record that the unit with a number makes of a line. -/
def recordAt? (units : List ExtractionUnit) (line : Line) (number : Nat) : Option Record :=
  units[number]?.bind (·.extract line)

/-- Permissive extraction takes the first record that a candidate's unit makes. -/
theorem extractFrom_permissive
    (input : String)
    (candidates : List Nat) :
    (extractFrom units .permissive input line candidates).value =
      .ok (candidates.findSome? (recordAt? units line)) := by
  induction candidates with
  | nil => rfl
  | cons number candidates inductionHypothesis =>
      rw [extractFrom, List.findSome?_cons, recordAt?]
      cases units[number]? with
      | none => exact inductionHypothesis
      | some unit =>
          rw [Option.bind_some, Logged.value_bind, unit.extractLogged_value]
          cases unit.extract line with
          | none => exact inductionHypothesis
          | some record => rfl

/-- Strict extraction agrees with permissive extraction unless the unit of the first
candidate refuses the line. -/
theorem extractFrom_strict_eq_iff
    (input : String)
    {candidates : List Nat}
    (known : ∀ number ∈ candidates, number < units.length) :
    (extractFrom units .strict input line candidates).value =
        .ok (candidates.findSome? (recordAt? units line)) ↔
      ∀ number ∈ candidates.head?, (recordAt? units line number).isSome := by
  cases candidates with
  | nil => exact ⟨fun _ _ => nofun, fun _ => rfl⟩
  | cons number candidates =>
      have inside := known number List.mem_cons_self
      have found := List.getElem?_eq_getElem inside
      rw [extractFrom, List.findSome?_cons, List.head?_cons, found, recordAt?, found]
      simp only [Option.bind_some, Logged.value_bind, ExtractionUnit.extractLogged_value,
        Option.mem_some_iff, forall_eq', recordAt?, found]
      cases units[number].extract line with
      | none => exact ⟨nofun, nofun⟩
      | some record => exact ⟨fun _ => rfl, fun _ => rfl⟩

theorem extractPermissive_eq
    (extractor : Extractor)
    (input : String) :
    extractor.extractPermissive input =
      (extractor.discriminator.candidates (Line.ofString input)).findSome?
        (recordAt? extractor.units (Line.ofString input)) := by
  rw [extractPermissive, extract, extractLogged, extractFrom_permissive]

end Extractor
/-! ## What a built extractor is -/

/-- Whether the discriminator pattern of a definition, anchored, has a match in a line. -/
def Definition.MayMatch (dialect : Dialect) (definition : Definition) (line : Line) : Prop :=
  ∃ compiled, definition.compile dialect = .ok compiled ∧
    Linear.HasMatch (Dialect.anchored compiled.discriminator) line

/-- The unit of a definition looks for the groups of its expressions. -/
theorem Dialect.eq_of_unitOf
    {index : Nat}
    {pattern : String}
    {definition : Definition}
    {names : List (Option String)}
    {attempt : List Nat → Line → Attempt}
    {unit : ExtractionUnit}
    (made : unitOf index pattern definition names attempt = .ok unit) :
    ∃ groups, groupsOfExpressions names definition.fieldNames.length = .ok groups ∧
      unit = ⟨index, definition.name, pattern, definition.fieldNames, attempt groups⟩ := by
  rw [unitOf] at made
  split at made
  · exact nomatch made
  · next groups found => exact ⟨groups, found, (Except.ok.inj made).symm⟩

/-- The unit of a definition carries its number. -/
theorem Dialect.spec_of_unitOf
    {index : Nat}
    {pattern : String}
    {definition : Definition}
    {names : List (Option String)}
    {attempt : List Nat → Line → Attempt}
    {unit : ExtractionUnit}
    (made : unitOf index pattern definition names attempt = .ok unit) :
    unit.index = index ∧
      ∃ groups, groupsOfExpressions names definition.fieldNames.length = .ok groups ∧
        unit.attempt = attempt groups := by
  obtain ⟨groups, found, rfl⟩ := eq_of_unitOf made
  exact ⟨rfl, groups, found, rfl⟩

namespace Options

/-- What construction guarantees of an extractor. -/
structure Built (options : Options) (definitions : List Definition) (extractor : Extractor) :
    Prop where
  /-- There is one unit for each definition. -/
  size : extractor.units.length = definitions.length
  /-- Each unit is finished from the extraction pattern of its definition. -/
  finished : ∀ number definition, definitions[number]? = some definition →
    ∃ compiled unit, definition.compile options.dialect = .ok compiled ∧
      extractor.units[number]? = some unit ∧
      options.dialect.finish number compiled.extraction definition = .ok unit
  /-- The candidates for a line come in ascending order. -/
  ascending : ∀ line, (extractor.discriminator.candidates line).Pairwise (· < ·)
  /-- The candidates are the definitions whose discriminator pattern matches. -/
  reported : ∀ line number, number ∈ extractor.discriminator.candidates line ↔
    ∃ definition, definitions[number]? = some definition ∧
      definition.MayMatch options.dialect line

variable {options : Options} {definitions : List Definition} {extractor : Extractor}

theorem built_of_build
    (built : (options.build definitions).value = .ok extractor) :
    options.Built definitions extractor := by
  obtain ⟨compiled, front, discriminated, units⟩ := Extractor.compiled_of_construct built
  obtain ⟨sameLength, pointwise⟩ := Extractor.getElem?_of_compileFrom front
  have entry (number : Nat) (definition : Definition)
      (found : definitions[number]? = some definition) :
      ∃ pieces unit, compiled[number]? = some (pieces.discriminator, unit) ∧
        definition.compile options.dialect = .ok pieces ∧
        options.dialect.finish number pieces.extraction definition = .ok unit := by
    obtain ⟨pair, pairFound, made⟩ := pointwise number definition found
    rw [Nat.zero_add, Extractor.compileAt] at made
    obtain ⟨pieces, compiles, made⟩ := Except.bind_eq_ok_iff.mp made
    obtain ⟨unit, finishes, made⟩ := Except.bind_eq_ok_iff.mp made
    obtain rfl := Except.ok.inj made
    exact ⟨pieces, unit, pairFound, compiles, finishes⟩
  constructor
  · rw [units, List.length_map, sameLength]
  · intro number definition found
    obtain ⟨pieces, unit, pairFound, compiles, finishes⟩ := entry number definition found
    exact ⟨pieces, unit, compiles, by simp [units, pairFound], finishes⟩
  · exact fun line => (Discriminator.candidates_of_builder discriminated line).1
  · intro line number
    rw [(Discriminator.candidates_of_builder discriminated line).2 number]
    constructor
    · rintro ⟨pattern, found, matched⟩
      rw [List.getElem?_map] at found
      obtain ⟨pair, pairFound, rfl⟩ := Option.map_eq_some_iff.mp found
      have inside : number < definitions.length :=
        sameLength ▸ (List.getElem?_eq_some_iff.mp pairFound).1
      have definitionFound := List.getElem?_eq_getElem inside
      obtain ⟨pieces, unit, sameFound, compiles, -⟩ := entry number _ definitionFound
      obtain rfl := Option.some.inj (pairFound.symm.trans sameFound)
      exact ⟨_, definitionFound, pieces, compiles, matched⟩
    · rintro ⟨definition, found, pieces, compiles, matched⟩
      obtain ⟨others, unit, pairFound, sameCompiles, -⟩ := entry number definition found
      obtain rfl := Except.ok.inj (compiles.symm.trans sameCompiles)
      exact ⟨pieces.discriminator, by simp [pairFound], matched⟩

/-- Every discriminator pattern of a built extractor has a tree. -/
theorem treeOf_discriminator_of_build
    (built : (options.build definitions).value = .ok extractor)
    {number : Nat}
    {definition : Definition}
    {pieces : CompiledPieces}
    (found : definitions[number]? = some definition)
    (compiles : definition.compile options.dialect = .ok pieces) :
    ∃ tree, Linear.Regex.treeOf (Dialect.anchored pieces.discriminator) = .ok tree := by
  obtain ⟨compiled, front, discriminated, -⟩ := Extractor.compiled_of_construct built
  obtain ⟨-, pointwise⟩ := Extractor.getElem?_of_compileFrom front
  obtain ⟨_, -, -, treeAt⟩ := Discriminator.trees_of_builder discriminated
  obtain ⟨pair, pairFound, made⟩ := pointwise number definition found
  rw [Extractor.compileAt] at made
  obtain ⟨same, sameCompiles, made⟩ := Except.bind_eq_ok_iff.mp made
  obtain ⟨unit, -, made⟩ := Except.bind_eq_ok_iff.mp made
  obtain rfl := Except.ok.inj made
  obtain rfl := Except.ok.inj (compiles.symm.trans sameCompiles)
  obtain ⟨tree, -, parses⟩ := treeAt number pieces.discriminator (by simp [pairFound])
  exact ⟨tree, parses⟩

/-- A finished unit carries the number that it was finished under. -/
theorem index_of_finish
    {number : Nat}
    {pattern : String}
    {definition : Definition}
    {unit : ExtractionUnit}
    (finished : options.dialect.finish number pattern definition = .ok unit) :
    unit.index = number := by
  rw [dialect] at finished
  split at finished
  all_goals
    obtain ⟨regex, -, made⟩ := Except.bind_eq_ok_iff.mp finished
    exact (Dialect.spec_of_unitOf made).1

namespace Built

variable (built : options.Built definitions extractor)
include built

theorem candidates_subset
    (line : Line) :
    ∀ number ∈ extractor.discriminator.candidates line, number < extractor.units.length := by
  intro number member
  obtain ⟨definition, found, -⟩ := (built.reported line number).mp member
  exact built.size ▸ (List.getElem?_eq_some_iff.mp found).1

/-- The record of a unit names the unit. -/
theorem index_of_recordAt?
    {line : Line}
    {number : Nat}
    {record : Record}
    (found : Extractor.recordAt? extractor.units line number = some record) :
    record.index = number := by
  obtain ⟨unit, unitFound, extracted⟩ := Option.bind_eq_some_iff.mp found
  have inside : number < definitions.length :=
    built.size ▸ (List.getElem?_eq_some_iff.mp unitFound).1
  obtain ⟨compiled, same, -, sameFound, finished⟩ :=
    built.finished number _ (List.getElem?_eq_getElem inside)
  obtain rfl := Option.some.inj (unitFound.symm.trans sameFound)
  rw [ExtractionUnit.extract] at extracted
  split at extracted
  · rw [← Option.some.inj extracted]
    exact index_of_finish finished
  · exact nomatch extracted

end Built
end Options
/-! ## What units of the linear dialect accept -/

/-- A compiled pattern is the compiled pattern of its text's tree. -/
theorem Linear.Regex.treeOf_of_compile
    {sizeLimit : Nat}
    {pattern : String}
    {regex : Regex}
    (compiled : compile sizeLimit pattern = .ok regex) :
    ∃ tree, treeOf pattern = .ok tree ∧ regex = .ofTree tree := by
  rw [compile] at compiled
  obtain ⟨tree, found, compiled⟩ := Except.bind_eq_ok_iff.mp compiled
  refine ⟨tree, Except.mapError_eq_ok_iff.mp found, ?_⟩
  dsimp only at compiled
  split at compiled
  · exact nomatch compiled
  · exact (Except.ok.inj compiled).symm

theorem Linear.Regex.compile_of_fitsWithin
    {sizeLimit : Nat}
    {pattern : String}
    {tree : Tree}
    (found : treeOf pattern = .ok tree)
    (fits : fitsWithin sizeLimit true [tree]) :
    compile sizeLimit pattern = .ok (.ofTree tree) :=
  Except.bind_eq_ok_iff.mpr
    ⟨tree, Except.mapError_eq_ok_iff.mpr found, if_neg fun exceeds => exceeds (.inr fits)⟩

theorem Dialect.treeOf_of_compileLinear
    {sizeLimit : Nat}
    {pattern : String}
    {regex : Linear.Regex}
    (compiled : compileLinear sizeLimit pattern = .ok regex) :
    ∃ tree, Linear.Regex.treeOf pattern = .ok tree ∧ regex = .ofTree tree :=
  Linear.Regex.treeOf_of_compile (Except.mapError_eq_ok_iff.mp compiled)

/-- A finished unit of the linear dialect accepts a line exactly when its anchored
pattern has a match in the line. -/
theorem Dialect.isSome_extract_iff
    {sizeLimit number : Nat}
    {pattern : String}
    {definition : Definition}
    {unit : ExtractionUnit}
    (finished : (Dialect.linear sizeLimit).finish number pattern definition = .ok unit)
    (line : Line) :
    (unit.extract line).isSome ↔ Linear.HasMatch (anchored pattern) line := by
  obtain ⟨regex, compiled, made⟩ := Except.bind_eq_ok_iff.mp finished
  obtain ⟨tree, parses, rfl⟩ := treeOf_of_compileLinear (Except.mapError_eq_ok_iff.mp compiled)
  obtain ⟨-, groups, -, attempts⟩ := spec_of_unitOf made
  have accepts : (unit.extract line).isSome = (Linear.Regex.ofTree tree).isMatch line := by
    rw [ExtractionUnit.extract, attempts, attemptLinear, Linear.Regex.isMatch]
    cases (Linear.Regex.ofTree tree).search line <;> rfl
  rw [accepts, Linear.Regex.isMatch_ofTree_iff]
  constructor
  · exact fun matched => ⟨tree, parses, matched⟩
  · rintro ⟨other, sameParses, matched⟩
    obtain rfl : tree = other := Except.ok.inj (parses.symm.trans sameParses)
    exact matched

end LineExtraction

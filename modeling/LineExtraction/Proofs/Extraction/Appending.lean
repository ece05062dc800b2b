import LineExtraction.Proofs.Extraction.Dispatch

/-!
# More definitions behind the others

Each definition is compiled under its own number and without regard to the others, so an
extractor of more definitions starts with the units and with the candidates of an
extractor of the first of them.  Extraction decides at the first candidate that it can
decide at: what the shorter extractor has to say about a line stands, and the definitions
behind it are asked only about lines that it knows nothing of.
-/

namespace LineExtraction

/-! ## Units and candidates -/

namespace Extractor

/-- Compiling two lists, the one behind the other, compiles each of them. -/
theorem compileFrom_append
    {dialect : Dialect}
    {index : Nat}
    {earlier later : List Definition}
    {compiled : List (String × ExtractionUnit)}
    (built : (compileFrom dialect index (earlier ++ later)).value = .ok compiled) :
    ∃ front back, compiled = front ++ back ∧
      (compileFrom dialect index earlier).value = .ok front ∧
      (compileFrom dialect (index + earlier.length) later).value = .ok back := by
  induction earlier generalizing index compiled with
  | nil => exact ⟨[], compiled, rfl, rfl, built⟩
  | cons definition earlier inductionHypothesis =>
      rw [List.cons_append, compileFrom] at built
      cases first : compileAt dialect index definition with
      | error cause =>
          rw [first] at built
          cases built
      | ok entry =>
          rw [first] at built
          cases others : (compileFrom dialect (index + 1) (earlier ++ later)).value with
          | error cause => simp [others, Except.map] at built
          | ok rest =>
              obtain rfl : entry :: rest = compiled := by simpa [others, Except.map] using built
              obtain ⟨front, back, rfl, frontBuilt, backBuilt⟩ := inductionHypothesis others
              refine ⟨entry :: front, back, rfl, ?_, ?_⟩
              · simp [compileFrom, first, frontBuilt, Except.map]
              · rwa [List.length_cons, Nat.add_comm earlier.length, ← Nat.add_assoc]

end Extractor

namespace Discriminator

theorem matching_append
    (line : Line)
    (index : Nat)
    (front back : List Linear.Regex) :
    matching line index (front ++ back) =
      matching line index front ++ matching line (index + front.length) back := by
  induction front generalizing index with
  | nil => rfl
  | cons regex front inductionHypothesis =>
      rw [List.cons_append, matching, matching, inductionHypothesis, List.length_cons,
        Nat.add_comm front.length, ← Nat.add_assoc]
      split
      · rw [List.cons_append]
      · rfl

/-- With more patterns behind the others, a discriminator reports the same candidates and
perhaps some more behind them. -/
theorem candidates_append
    {frontLimit limit : Nat}
    {front back : List String}
    {short long : Discriminator}
    (shortBuilt : (builder frontLimit front).value = .ok short)
    (longBuilt : (builder limit (front ++ back)).value = .ok long)
    (line : Line) :
    ∃ more, long.candidates line = short.candidates line ++ more ∧
      ∀ number ∈ more, front.length ≤ number := by
  obtain ⟨trees, treeCount, rfl, treeAt⟩ := trees_of_builder shortBuilt
  obtain ⟨allTrees, allCount, rfl, allAt⟩ := trees_of_builder longBuilt
  have starts : allTrees.take trees.length = trees := by
    apply List.ext_getElem?
    intro number
    by_cases inside : number < trees.length
    · have found := List.getElem?_eq_getElem (treeCount ▸ inside)
      obtain ⟨tree, treeFound, parses⟩ := treeAt number _ found
      obtain ⟨other, otherFound, otherParses⟩ :=
        allAt number _ ((List.getElem?_append_left (treeCount ▸ inside)).trans found)
      rw [List.getElem?_take_of_lt inside, otherFound, treeFound,
        Except.ok.inj (otherParses.symm.trans parses)]
    · have outside := Nat.le_of_not_lt inside
      rw [List.getElem?_eq_none outside,
        List.getElem?_eq_none (Nat.le_trans (List.length_take_le _ _) outside)]
  obtain ⟨rest, rfl⟩ : ∃ rest, allTrees = trees ++ rest :=
    ⟨_, (List.take_append_drop trees.length allTrees).symm.trans (by rw [starts])⟩
  refine ⟨matching line front.length (rest.map Linear.Regex.ofTree), ?_, ?_⟩
  · dsimp only
    rw [List.map_append, matching_append, List.length_map, treeCount, Nat.zero_add]
  · intro number member
    obtain ⟨offset, rfl, -⟩ := (mem_matching_iff line _ _ number).mp member
    exact Nat.le_add_right _ _

end Discriminator

/-! ## Decisions -/

/-- The number of the definition that an outcome is about. -/
def Outcome.index? : Outcome → Option Nat
  | .ok none => none
  | .ok (some record) => some record.index
  | .error disagreement => some disagreement.index

namespace Extractor

variable {units : List ExtractionUnit} {mode : ExtractionMode} {input : String} {line : Line}

/-- What extraction decides at a candidate, if it does not go on to the next one. -/
def decisionAt?
    (units : List ExtractionUnit)
    (mode : ExtractionMode)
    (input : String)
    (line : Line)
    (number : Nat) : Option Outcome :=
  units[number]?.bind fun unit =>
    match unit.extract line, mode with
    | some record, _ => some (.ok (some record))
    | none, .strict => some (.error (Disagreement.ofUnit input number unit))
    | none, .permissive => none

/-- Extraction decides at the first candidate that it can decide at. -/
theorem value_extractFrom
    (candidates : List Nat) :
    (extractFrom units mode input line candidates).value =
      (candidates.findSome? (decisionAt? units mode input line)).getD (.ok none) := by
  induction candidates with
  | nil => rfl
  | cons number candidates inductionHypothesis =>
      rw [extractFrom, List.findSome?_cons, decisionAt?]
      cases units[number]? with
      | none => exact inductionHypothesis
      | some unit =>
          rw [Logged.value_bind, unit.extractLogged_value, Option.bind_some]
          cases unit.extract line with
          | some record => rfl
          | none =>
              cases mode with
              | strict => rfl
              | permissive => exact inductionHypothesis

/-- A decision is about the candidate. -/
theorem index?_of_decisionAt?
    {number : Nat}
    {outcome : Outcome}
    (labelled : ∀ unit, units[number]? = some unit → unit.index = number)
    (decided : decisionAt? units mode input line number = some outcome) :
    outcome.index? = some number := by
  obtain ⟨unit, found, decided⟩ := Option.bind_eq_some_iff.mp decided
  cases extracted : unit.extract line with
  | some record =>
      rw [extracted] at decided
      obtain rfl := Option.some.inj decided
      rw [ExtractionUnit.extract] at extracted
      split at extracted
      · rw [← Option.some.inj extracted]
        exact congrArg some (labelled unit found)
      · cases extracted
  | none =>
      rw [extracted] at decided
      cases mode with
      | strict =>
          obtain rfl := Option.some.inj decided
          rfl
      | permissive => cases decided

/-- The first units decide in the same way whatever units stand behind them. -/
theorem findSome?_decisionAt?_append
    {candidates : List Nat}
    (known : ∀ number ∈ candidates, number < units.length)
    (more : List ExtractionUnit) :
    candidates.findSome? (decisionAt? (units ++ more) mode input line) =
      candidates.findSome? (decisionAt? units mode input line) := by
  induction candidates with
  | nil => rfl
  | cons number candidates inductionHypothesis =>
      obtain ⟨inside, others⟩ := List.forall_mem_cons.mp known
      rw [List.findSome?_cons, List.findSome?_cons, inductionHypothesis others, decisionAt?,
        decisionAt?, List.getElem?_append_left inside]

/-! ## Extraction with more definitions -/

section

variable {options : Options} {sizeLimit longSizeLimit : Nat} {earlier later : List Definition}
variable {short long : Extractor}

/-- The units of an extractor carry their numbers. -/
theorem index_of_construct
    {builder : DiscriminatorBuilder}
    (built : (construct options.dialect builder earlier).value = .ok short)
    {number : Nat}
    {unit : ExtractionUnit}
    (found : short.units[number]? = some unit) :
    unit.index = number := by
  obtain ⟨compiled, front, -, units⟩ := compiled_of_construct built
  obtain ⟨sameLength, pointwise⟩ := getElem?_of_compileFrom front
  rw [units, List.getElem?_map] at found
  obtain ⟨entry, entryFound, rfl⟩ := Option.map_eq_some_iff.mp found
  have inside : number < earlier.length :=
    sameLength ▸ (List.getElem?_eq_some_iff.mp entryFound).1
  obtain ⟨same, sameFound, made⟩ := pointwise number _ (List.getElem?_eq_getElem inside)
  obtain rfl := Option.some.inj (entryFound.symm.trans sameFound)
  rw [Nat.zero_add, compileAt] at made
  obtain ⟨pieces, -, made⟩ := Except.bind_eq_ok_iff.mp made
  obtain ⟨finished, finishes, made⟩ := Except.bind_eq_ok_iff.mp made
  obtain rfl := Except.ok.inj made
  exact Options.index_of_finish finishes

variable (shortBuilt : (construct options.dialect (Discriminator.builder sizeLimit)
  earlier).value = .ok short)
variable (longBuilt : (construct options.dialect (Discriminator.builder longSizeLimit)
  (earlier ++ later)).value = .ok long)
include shortBuilt longBuilt

/-- With more definitions behind the others, an extractor starts with the same units, and
each line has the same candidates among them in front of any others. -/
theorem starts_of_construct_append :
    (∃ more, long.units = short.units ++ more) ∧
      ∀ line, (∀ number ∈ short.discriminator.candidates line, number < short.units.length) ∧
        ∃ more, long.discriminator.candidates line = short.discriminator.candidates line ++ more ∧
          ∀ number ∈ more, earlier.length ≤ number := by
  obtain ⟨front, frontBuilt, shortDiscriminated, shortUnits⟩ := compiled_of_construct shortBuilt
  obtain ⟨compiled, wholeBuilt, longDiscriminated, longUnits⟩ := compiled_of_construct longBuilt
  obtain ⟨same, back, rfl, sameBuilt, -⟩ := compileFrom_append wholeBuilt
  obtain rfl : front = same := Except.ok.inj (frontBuilt.symm.trans sameBuilt)
  rw [List.map_append] at longDiscriminated longUnits
  refine ⟨⟨_, shortUnits ▸ longUnits⟩, fun line => ⟨fun number member => ?_, ?_⟩⟩
  -- The patterns of the discriminator are those of the definitions, so it knows no other numbers.
  · obtain ⟨pattern, found, -⟩ :=
      ((Discriminator.candidates_of_builder shortDiscriminated line).2 number).mp member
    have inside := (List.getElem?_eq_some_iff.mp found).1
    rwa [List.length_map, ← List.length_map Prod.snd, ← shortUnits] at inside
  · obtain ⟨more, appended, behind⟩ :=
      Discriminator.candidates_append shortDiscriminated longDiscriminated line
    refine ⟨more, appended, fun number member => ?_⟩
    have bound := behind number member
    rwa [List.length_map, (getElem?_of_compileFrom frontBuilt).1] at bound

/-- What an extractor has to say about a line, a record or a disagreement, it says with
more definitions behind its own as well; and about a line that it knows nothing of, only
the definitions behind its own have anything to say. -/
theorem extract_of_construct_append
    (mode : ExtractionMode)
    (input : String) :
    (short.extract mode input ≠ .ok none →
        long.extract mode input = short.extract mode input) ∧
      (short.extract mode input = .ok none →
        ∀ index ∈ (long.extract mode input).index?, earlier.length ≤ index) := by
  obtain ⟨⟨moreUnits, units⟩, candidates⟩ := starts_of_construct_append shortBuilt longBuilt
  obtain ⟨known, more, appended, behind⟩ := candidates (Line.ofString input)
  have shortExtract : short.extract mode input =
      ((short.discriminator.candidates (Line.ofString input)).findSome?
        (decisionAt? short.units mode input (Line.ofString input))).getD (.ok none) :=
    value_extractFrom _
  have longExtract : long.extract mode input =
      (((short.discriminator.candidates (Line.ofString input)).findSome?
          (decisionAt? short.units mode input (Line.ofString input))).or
        (more.findSome? (decisionAt? long.units mode input (Line.ofString input)))).getD
          (.ok none) := by
    rw [← findSome?_decisionAt?_append known moreUnits, ← units, ← List.findSome?_append, ← appended]
    exact value_extractFrom _
  rw [shortExtract, longExtract]
  cases first : (short.discriminator.candidates (Line.ofString input)).findSome?
      (decisionAt? short.units mode input (Line.ofString input)) with
  | some outcome =>
      refine ⟨fun _ => rfl, fun undecided => ?_⟩
      -- A decision is about some definition, and the empty outcome is about none.
      obtain ⟨number, -, decided⟩ := List.exists_of_findSome?_eq_some first
      have about := index?_of_decisionAt? (fun _ => index_of_construct shortBuilt) decided
      rw [show outcome = .ok none from undecided] at about
      cases about
  | none =>
      refine ⟨fun decided => absurd rfl decided, fun _ index about => ?_⟩
      rw [Option.none_or] at about
      cases second : more.findSome? (decisionAt? long.units mode input (Line.ofString input)) with
      | none =>
          rw [second] at about
          cases about
      | some outcome =>
          obtain ⟨number, member, decided⟩ := List.exists_of_findSome?_eq_some second
          have aboutNumber := index?_of_decisionAt? (fun _ => index_of_construct longBuilt) decided
          rw [second, Option.getD_some, aboutNumber] at about
          exact Option.mem_some_iff.mp about ▸ behind number member

end

/-- The lines that consist of one word. -/
def singleWord : Definition :=
  ⟨"word", [.expression "text" [.pattern "[a-z]+" .unknown] .unknown], .unknown⟩

/-- The lines of printable ASCII. -/
def asciiLine : Definition := ⟨"line", [.pattern "[ -~]*" .unknown], .unknown⟩

theorem extract_of_construct_append_singleWord :
    ∃ short long,
      (construct Options.default.dialect (Discriminator.builder 10000) [singleWord]).value =
          .ok short ∧
        (construct Options.default.dialect (Discriminator.builder 10000)
          ([singleWord] ++ [asciiLine])).value = .ok long ∧
        (short.extract .strict "hi" ≠ .ok none ∧
          long.extract .strict "hi" = short.extract .strict "hi") ∧
        short.extract .permissive "hi!" = .ok none ∧
          (∀ index ∈ (long.extract .permissive "hi!").index?, 1 ≤ index) ∧
          (long.extract .permissive "hi!").index? = some 1 := by
  obtain ⟨short, shortBuilt, decided⟩ :
      ∃ short, (construct Options.default.dialect (Discriminator.builder 10000)
          [singleWord]).value = .ok short ∧
        ((short.extract .strict "hi").index? = some 0 ∧
          (short.extract .permissive "hi!").toOption = some none : Bool) :=
    Except.exists_ok_of_decide (by decide +kernel)
  obtain ⟨long, longBuilt, later⟩ :
      ∃ long, (construct Options.default.dialect (Discriminator.builder 10000)
          ([singleWord] ++ [asciiLine])).value = .ok long ∧
        decide ((long.extract .permissive "hi!").index? = some 1) :=
    Except.exists_ok_of_decide (by decide +kernel)
  obtain ⟨accepted, undecided⟩ := of_decide_eq_true decided
  have undecided := Except.toOption_eq_some_iff.mp undecided
  have accepts : short.extract .strict "hi" ≠ .ok none := by
    intro none
    rw [none] at accepted
    cases accepted
  exact ⟨short, long, shortBuilt, longBuilt,
    ⟨accepts, (extract_of_construct_append shortBuilt longBuilt .strict "hi").1 accepts⟩,
    undecided, (extract_of_construct_append shortBuilt longBuilt .permissive "hi!").2 undecided,
    of_decide_eq_true later⟩

end Extractor
end LineExtraction

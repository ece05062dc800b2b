import LineExtraction.CommandLine.Run
import LineExtraction.Proofs.Catalogue.Sources
import LineExtraction.Proofs.Decoding.NumberSizes
import LineExtraction.Proofs.Extraction.Dispatch
import Mathlib.Data.List.Forall2

/-!
# Lines of a run

A run answers for every line of its inputs once, in the order of the inputs and of their lines:
with a record, with an error, or, if only lines that match are wanted, with nothing.  What it
writes is made of these answers, and whether there are errors among them decides its exit code.
-/

namespace LineExtraction

/-! ## Numbered lines -/

/-- A line of an input: the name of the input, the number of the line, and what it says. -/
structure NumberedLine where
  source : String
  number : Nat
  text : String
deriving DecidableEq, Repr

/-- The lines of an input, numbered from 1. -/
def Input.numbered (input : Input) : List NumberedLine :=
  (input.lines.zipIdx 1).map fun (text, number) => ⟨input.source, number, text⟩

/-! ## Answers -/

namespace LineReport

/-- A report answers for a line: with the record of what was extracted, with the error that a
strict extraction ended in, or, where only lines that match are wanted, with nothing for a line
that does not. -/
inductive Answers
    (extractor : Extractor)
    (mode : ExtractionMode)
    (matchedOnly : Bool)
    (line : NumberedLine) : LineReport → Prop
  | record
      {extracted : Option Record}
      (outcome : extractor.extract mode line.text = .ok extracted)
      (wanted : matchedOnly = true → extracted.isSome) :
      Answers extractor mode matchedOnly line
        (.record (object line.source line.number extracted).render)
  | error
      {disagreement : Disagreement}
      (outcome : extractor.extract mode line.text = .error disagreement)
      (strict : mode = .strict) :
      Answers extractor mode matchedOnly line
        (.error ("error: " ++ line.source ++ ":" ++ toString line.number ++ ": " ++
          disagreement.message))
  | omitted
      (outcome : extractor.extract mode line.text = .ok none)
      (filtered : matchedOnly = true) :
      Answers extractor mode matchedOnly line .omitted

variable {extractor : Extractor} {mode : ExtractionMode} {matchedOnly : Bool}

/-- The report of a run about a line. -/
def ofLine
    (extractor : Extractor)
    (mode : ExtractionMode)
    (matchedOnly : Bool)
    (line : NumberedLine) : LineReport :=
  ofOutcome line.source matchedOnly line.number (extractor.extract mode line.text)

theorem answers_ofLine
    (line : NumberedLine) :
    Answers extractor mode matchedOnly line (ofLine extractor mode matchedOnly line) := by
  rw [ofLine]
  cases outcome : extractor.extract mode line.text with
  | error disagreement =>
      have strict : mode = .strict := by
        cases mode with
        | strict => rfl
        | permissive =>
            rw [Extractor.extract, Extractor.extractLogged, Extractor.extractFrom_permissive]
              at outcome
            cases outcome
      exact .error outcome strict
  | ok extracted =>
      rw [ofOutcome]
      split
      · next unwanted =>
          obtain rfl := Option.isNone_iff_eq_none.mp unwanted.2
          exact .omitted outcome unwanted.1
      · next wanted =>
          refine .record outcome fun filtered => Option.isSome_iff_ne_none.mpr fun nothing => ?_
          exact wanted ⟨filtered, Option.isNone_iff_eq_none.mpr nothing⟩

theorem ofOutcomes_map
    {outcomeOf : String → Outcome}
    (source : String)
    (number : Nat)
    (texts : List String) :
    ofOutcomes source matchedOnly number (texts.map outcomeOf) =
      (texts.zipIdx number).map fun (text, number) =>
        ofOutcome source matchedOnly number (outcomeOf text) := by
  induction texts generalizing number with
  | nil => rfl
  | cons text texts inductionHypothesis =>
      rw [List.map_cons, ofOutcomes, inductionHypothesis, List.zipIdx_cons, List.map_cons]

/-- Errors are the same whatever lines are wanted. -/
theorem errorOutput_comp_ofLine
    (extractor : Extractor)
    (mode : ExtractionMode)
    (matchedOnly : Bool) :
    errorOutput ∘ ofLine extractor mode matchedOnly =
      errorOutput ∘ ofLine extractor mode false := by
  funext line
  rw [Function.comp_apply, Function.comp_apply, ofLine, ofLine]
  cases extractor.extract mode line.text with
  | error disagreement => rfl
  | ok extracted =>
      rw [ofOutcome, ofOutcome]
      split <;> rfl

theorem isError_comp_ofLine
    (extractor : Extractor)
    (mode : ExtractionMode)
    (matchedOnly : Bool) :
    isError ∘ ofLine extractor mode matchedOnly = isError ∘ ofLine extractor mode false := by
  funext line
  rw [Function.comp_apply, Function.comp_apply, ofLine, ofLine]
  cases extractor.extract mode line.text with
  | error disagreement => rfl
  | ok extracted =>
      rw [ofOutcome, ofOutcome]
      split <;> rfl

/-- There are no errors where disagreements are passed over. -/
theorem isError_eq_false_of_answers
    {line : NumberedLine}
    {report : LineReport}
    (answers : Answers extractor .permissive matchedOnly line report) :
    report.isError = false := by
  cases answers with
  | record outcome wanted => rfl
  | error outcome strict => cases strict
  | omitted outcome filtered => rfl

end LineReport

theorem Logged.value_mapM
    {α β : Type}
    (next : α → Logged β)
    (values : List α) :
    (values.mapM next).value = values.map fun value => (next value).value := by
  have loop (before : List β) :
      (List.mapM.loop next values before).value =
        before.reverse ++ values.map fun value => (next value).value := by
    induction values generalizing before with
    | nil => exact (List.append_nil _).symm
    | cons value values inductionHypothesis =>
        rw [List.mapM.loop, Logged.value_bind, inductionHypothesis, List.reverse_cons,
          List.append_assoc, List.map_cons]
        rfl
  exact loop []

/-- The reports about an input are those about its lines. -/
theorem Input.ofOutcomes_outcomes
    (input : Input)
    (extractor : Extractor)
    (mode : ExtractionMode)
    (matchedOnly : Bool) :
    LineReport.ofOutcomes input.source matchedOnly 1 (input.outcomes extractor mode).value =
      input.numbered.map (LineReport.ofLine extractor mode matchedOnly) := by
  rw [outcomes, Logged.value_mapM, LineReport.ofOutcomes_map, numbered, List.map_map]
  rfl

/-! ## Records -/

/-- The lines that end in no error, each with the record of what was extracted, if anything
was. -/
def Extractor.answered
    (extractor : Extractor)
    (mode : ExtractionMode)
    (lines : List NumberedLine) : List (NumberedLine × Option Record) :=
  lines.filterMap fun line => (extractor.extract mode line.text).toOption.map (line, ·)

/-- The text of the record of a line. -/
def recordLine (answer : NumberedLine × Option Record) : String :=
  (LineReport.object answer.1.source answer.1.number answer.2).render ++ "\n"

/-- The records that are written are those of the answered lines that are wanted. -/
theorem join_output_ofLine
    (extractor : Extractor)
    (mode : ExtractionMode)
    (matchedOnly : Bool)
    (lines : List NumberedLine) :
    String.join ((lines.map (LineReport.ofLine extractor mode matchedOnly)).map
        LineReport.output) =
      String.join (((extractor.answered mode lines).filter fun answer =>
        !matchedOnly || answer.2.isSome).map recordLine) := by
  rw [Extractor.answered]
  induction lines with
  | nil => rfl
  | cons line lines inductionHypothesis =>
      rw [List.map_cons, List.map_cons, String.join_cons, inductionHypothesis,
        List.filterMap_cons, LineReport.ofLine]
      cases extractor.extract mode line.text with
      | error disagreement => exact String.empty_append
      | ok extracted =>
          have kept : LineReport.output (if matchedOnly = true ∧ extracted.isNone = true
              then .omitted
              else .record (LineReport.object line.source line.number extracted).render) =
                if !matchedOnly || extracted.isSome then recordLine (line, extracted) else "" := by
            cases matchedOnly <;> cases extracted <;> rfl
          simp only [Except.toOption, Option.map_some, LineReport.ofOutcome, kept,
            List.filter_cons]
          split
          · rw [List.map_cons, String.join_cons]
          · rw [String.empty_append]

/-! ## Runs -/

namespace CommandLine

/-- The inputs are the files that the arguments name, in their order, or else the standard
input. -/
def Arguments.Reads
    (arguments : Arguments)
    (surroundings : Surroundings Id)
    (inputs : List Input) : Prop :=
  if arguments.inputs = [] then
    ∃ text, surroundings.readInput = .ok text ∧ inputs = [⟨standardInputName, linesOf text⟩]
  else
    List.Forall₂
      (fun path input =>
        ∃ text, surroundings.readFile path = .ok text ∧ input = ⟨path, linesOf text⟩)
      arguments.inputs inputs

theorem forall₂_of_readInputs
    {surroundings : Surroundings Id}
    {paths : List String}
    {inputs : List Input}
    (read : readInputs surroundings paths = .ok inputs) :
    List.Forall₂
      (fun path input =>
        ∃ text, surroundings.readFile path = .ok text ∧ input = ⟨path, linesOf text⟩)
      paths inputs := by
  induction paths generalizing inputs with
  | nil =>
      obtain rfl := Except.ok.inj (show Except.ok [] = Except.ok inputs from read)
      exact .nil
  | cons path paths inductionHypothesis =>
      change (match surroundings.readFile path with
        | .error error => Except.error (RunError.input path error)
        | .ok text => (match readInputs surroundings paths with
          | .error error => Except.error error
          | .ok inputs => Except.ok (Input.mk path (linesOf text) :: inputs))) = _ at read
      cases found : surroundings.readFile path with
      | error error =>
          rw [found] at read
          cases read
      | ok text =>
          rw [found] at read
          cases others : readInputs surroundings paths with
          | error error =>
              rw [others] at read
              cases read
          | ok rest =>
              rw [others] at read
              obtain rfl := Except.ok.inj read
              exact .cons ⟨text, found, rfl⟩ (inductionHypothesis others)

theorem Arguments.reads_of_readInputs
    {arguments : Arguments}
    {surroundings : Surroundings Id}
    {inputs : List Input}
    (read : arguments.readInputs surroundings = .ok inputs) :
    arguments.Reads surroundings inputs := by
  rw [Reads]
  split
  · next unnamed =>
      rw [Arguments.readInputs, unnamed] at read
      change (match surroundings.readInput with
        | .error error => Except.error (RunError.standardInput error)
        | .ok text => Except.ok [Input.mk standardInputName (linesOf text)]) = _ at read
      cases found : surroundings.readInput with
      | error error =>
          rw [found] at read
          cases read
      | ok text =>
          rw [found] at read
          exact ⟨text, rfl, (Except.ok.inj read).symm⟩
  · next named =>
      rw [Arguments.readInputs, if_neg (by simpa using named)] at read
      exact forall₂_of_readInputs read

/-- The exit code tells whether there are errors. -/
theorem sum_countP_eq_zero_iff
    (reports : Input → List LineReport)
    (inputs : List Input) :
    (inputs.map fun input => (reports input).countP LineReport.isError).foldr (· + ·) 0 = 0 ↔
      ¬ (inputs.flatMap reports).any LineReport.isError := by
  induction inputs with
  | nil => simp
  | cons input inputs inductionHypothesis =>
      have first : (reports input).countP LineReport.isError = 0 ↔
          ¬ (reports input).any LineReport.isError := by
        simp
      rw [List.map_cons, List.foldr_cons, Nat.add_eq_zero_iff, inductionHypothesis, first,
        List.flatMap_cons, List.any_append, Bool.or_eq_true, not_or]

theorem join_flatMap
    (write : LineReport → String)
    (reports : Input → List LineReport)
    (inputs : List Input) :
    String.join ((inputs.flatMap reports).map write) =
      String.join (inputs.map fun input => String.join ((reports input).map write)) := by
  induction inputs with
  | nil => rfl
  | cons input inputs inductionHypothesis =>
      rw [List.flatMap_cons, List.map_append, String.join_append, inductionHypothesis,
        List.map_cons, String.join_cons]

section

variable
  {arguments : Arguments}
  {surroundings : Surroundings Id}
  {file : DefinitionFile}
  {extractor : Extractor}
  {inputs : List Input}

/-- A run writes what it reports about its inputs. -/
theorem Arguments.run_eq
    (loaded : DefinitionFile.load surroundings.readFile arguments.definitions = .ok file)
    (built : ((arguments.override file.options).build file.definitions).value = .ok extractor)
    (read : arguments.readInputs surroundings = .ok inputs)
    (unlisted : arguments.list = false) :
    arguments.run surroundings =
      outcomeOf
        (shownLog arguments.debug
          ((arguments.override file.options).build file.definitions).entries)
        (inputs.map (arguments.report extractor)) := by
  change (match DefinitionFile.load surroundings.readFile arguments.definitions with
    | .error error => _
    | .ok file => _) = _
  rw [loaded]
  dsimp only
  rw [built]
  dsimp only
  rw [unlisted]
  change (match arguments.readInputs surroundings with
    | .error error => _
    | .ok inputs => _) = _
  rw [read]
  rfl

/-- What is reported about each line makes up the whole outcome of a run. -/
theorem Arguments.run_eq_of_lines
    (arguments : Arguments)
    (loaded : DefinitionFile.load surroundings.readFile arguments.definitions = .ok file)
    (built : ((arguments.override file.options).build file.definitions).value = .ok extractor)
    (read : arguments.readInputs surroundings = .ok inputs)
    (unlisted : arguments.list = false)
    {reports : Input → List LineReport}
    (made : reports = fun input =>
      input.numbered.map (LineReport.ofLine extractor arguments.mode arguments.matchedOnly)) :
    arguments.run surroundings =
      ⟨String.join ((inputs.flatMap reports).map LineReport.output),
        shownLog arguments.debug
            ((arguments.override file.options).build file.definitions).entries ++
          String.join (inputs.map fun input =>
            shownLog arguments.debug (input.outcomes extractor arguments.mode).entries ++
              String.join ((reports input).map LineReport.errorOutput)),
        .ok (if (inputs.flatMap reports).any LineReport.isError then 1 else 0)⟩ := by
  have report (input : Input) :
      arguments.report extractor input =
        ⟨String.join ((reports input).map LineReport.output),
          shownLog arguments.debug (input.outcomes extractor arguments.mode).entries ++
            String.join ((reports input).map LineReport.errorOutput),
          (reports input).countP LineReport.isError⟩ := by
    rw [Arguments.report, InputReport.ofOutcomes, input.ofOutcomes_outcomes, made]
    rfl
  rw [run_eq loaded built read unlisted, outcomeOf, join_flatMap]
  simp only [List.map_map, Function.comp_def, report, sum_countP_eq_zero_iff, ite_not]

/-- Which lines are wanted matters only for the records. -/
theorem Arguments.run_eq_of_answers
    (loaded : DefinitionFile.load surroundings.readFile arguments.definitions = .ok file)
    (built : ((arguments.override file.options).build file.definitions).value = .ok extractor)
    (read : arguments.readInputs surroundings = .ok inputs)
    (unlisted : arguments.list = false)
    (matchedOnly : Bool) :
    Arguments.run { arguments with matchedOnly } surroundings =
      ⟨String.join (((extractor.answered arguments.mode (inputs.flatMap Input.numbered)).filter
          fun answer => !matchedOnly || answer.2.isSome).map recordLine),
        shownLog arguments.debug
            ((arguments.override file.options).build file.definitions).entries ++
          String.join (inputs.map fun input =>
            shownLog arguments.debug (input.outcomes extractor arguments.mode).entries ++
              String.join (input.numbered.map
                (LineReport.errorOutput ∘ LineReport.ofLine extractor arguments.mode false))),
        .ok (if (inputs.flatMap Input.numbered).any
            (LineReport.isError ∘ LineReport.ofLine extractor arguments.mode false)
          then 1 else 0)⟩ := by
  have flat :
      (inputs.flatMap Input.numbered).map
          (LineReport.ofLine extractor arguments.mode matchedOnly) =
        inputs.flatMap fun input =>
          input.numbered.map (LineReport.ofLine extractor arguments.mode matchedOnly) :=
    List.map_flatMap
  rw [← join_output_ofLine, ← LineReport.errorOutput_comp_ofLine _ _ matchedOnly,
    ← LineReport.isError_comp_ofLine _ _ matchedOnly, ← List.any_map, flat]
  simp only [← List.map_map]
  exact run_eq_of_lines { arguments with matchedOnly } loaded built read unlisted rfl

/-- Every line of the inputs is accounted for once.  The inputs are what the arguments name, or
the standard input.  Each of their lines has one answer, which carries the name of the input and
the number of the line, and the records and the errors that a run writes are those of the answers
in order.  The exit code is 1 just if one of them is an error, which takes strict extraction.  To
ask for lines that match drops the records without an extraction and changes nothing else. -/
theorem Arguments.run_accounts_for_lines
    (loaded : DefinitionFile.load surroundings.readFile arguments.definitions = .ok file)
    (built : ((arguments.override file.options).build file.definitions).value = .ok extractor)
    (read : arguments.readInputs surroundings = .ok inputs)
    (unlisted : arguments.list = false) :
    arguments.Reads surroundings inputs ∧
    (∃ reports : Input → List LineReport,
      (∀ input,
        List.Forall₂ (LineReport.Answers extractor arguments.mode arguments.matchedOnly)
          input.numbered (reports input)) ∧
      (arguments.run surroundings).output =
        String.join ((inputs.flatMap reports).map LineReport.output) ∧
      (arguments.run surroundings).errorOutput =
        shownLog arguments.debug
            ((arguments.override file.options).build file.definitions).entries ++
          String.join (inputs.map fun input =>
            shownLog arguments.debug (input.outcomes extractor arguments.mode).entries ++
              String.join ((reports input).map LineReport.errorOutput)) ∧
      (arguments.run surroundings).result =
        .ok (if (inputs.flatMap reports).any LineReport.isError then 1 else 0)) ∧
    (arguments.safe = true → (arguments.run surroundings).result = .ok 0) ∧
    let answers := extractor.answered arguments.mode (inputs.flatMap Input.numbered)
    let all := Arguments.run { arguments with matchedOnly := false } surroundings
    let matched := Arguments.run { arguments with matchedOnly := true } surroundings
    all.output = String.join (answers.map recordLine) ∧
      matched.output =
        String.join ((answers.filter fun answer => answer.2.isSome).map recordLine) ∧
      matched.errorOutput = all.errorOutput ∧
      matched.result = all.result := by
  have answered (input : Input) :
      List.Forall₂ (LineReport.Answers extractor arguments.mode arguments.matchedOnly)
        input.numbered
        (input.numbered.map
          (LineReport.ofLine extractor arguments.mode arguments.matchedOnly)) := by
    rw [List.forall₂_map_right_iff]
    exact List.forall₂_same.mpr fun line _ => LineReport.answers_ofLine line
  have outcome := run_eq_of_lines arguments loaded built read unlisted rfl
  refine ⟨reads_of_readInputs read, ⟨_, answered, congrArg RunOutcome.output outcome,
    congrArg RunOutcome.errorOutput outcome, congrArg RunOutcome.result outcome⟩, ?_, ?_⟩
  · intro safe
    have permissive : arguments.mode = .permissive := if_pos safe
    have faultless : ¬ (inputs.flatMap fun input => input.numbered.map
        (LineReport.ofLine extractor arguments.mode arguments.matchedOnly)).any
          LineReport.isError := by
      rw [List.any_eq_true]
      rintro ⟨report, member, isError⟩
      obtain ⟨input, -, member⟩ := List.mem_flatMap.mp member
      obtain ⟨line, -, rfl⟩ := List.mem_map.mp member
      rw [permissive, LineReport.isError_eq_false_of_answers (LineReport.answers_ofLine line)]
        at isError
      cases isError
    rw [outcome, if_neg faultless]
  · have filtered := run_eq_of_answers loaded built read unlisted
    intro answers all matched
    refine ⟨?_, congrArg RunOutcome.output (filtered true), ?_, ?_⟩
    · refine (congrArg RunOutcome.output (filtered false)).trans ?_
      simp only [Bool.not_false, Bool.true_or, List.filter_true]
      rfl
    · exact (congrArg RunOutcome.errorOutput (filtered true)).trans
        (congrArg RunOutcome.errorOutput (filtered false)).symm
    · exact (congrArg RunOutcome.result (filtered true)).trans
        (congrArg RunOutcome.result (filtered false)).symm

end

/-- A file with a definition that its discriminator reports for lines that it is not made of. -/
def misreadCommentFile : DefinitionFile where
  options := .default
  definitions := [⟨"note", [.pattern "(?x)a#(?=\nb#)\nc" .unknown], .unknown⟩]

/-- Arguments that name one input. -/
def oneInput : Arguments := ⟨["log"], "a.json", false, none, false, false, false, false⟩

/-- Surroundings with the definition file and an input of two lines. -/
def twoFiles : Surroundings Id where
  readFile path := if path = "log" then .ok "ac\nx\n" else .ok misreadCommentFile.render
  readInput := .ok ""

theorem Arguments.run_accounts_for_lines_misreadCommentFile :
    ∃ file extractor,
      DefinitionFile.load twoFiles.readFile oneInput.definitions = .ok file ∧
      ((oneInput.override file.options).build file.definitions).value = .ok extractor ∧
      oneInput.readInputs twoFiles = .ok [⟨"log", ["ac", "x"]⟩] ∧
      (oneInput.run twoFiles).result = .ok 1 := by
  have plain : misreadCommentFile.written.IsPlain := by
    simp [misreadCommentFile, DefinitionFile.written, Options.written, Options.default,
      Definition.written, Piece.written, Location.written, Location.unknown,
      Json.Value.IsPlain, Json.Value.ArePlain, Json.Value.HasPlainEntries, Json.Value.ofOption,
      Decoding.isPlain_ofNat_iff, Json.maximalInteger]
  have loaded : DefinitionFile.load twoFiles.readFile oneInput.definitions =
      .ok (misreadCommentFile.nameSource "a.json") :=
    DefinitionFile.load_render DefinitionFile.ofPath_json rfl plain (by decide)
  obtain ⟨extractor, built, refused⟩ :
      ∃ extractor,
        ((oneInput.override (misreadCommentFile.nameSource "a.json").options).build
          (misreadCommentFile.nameSource "a.json").definitions).value = .ok extractor ∧
        ((extractor.extract .strict "ac").toOption.isNone : Bool) :=
    Except.exists_ok_of_decide (by decide +kernel)
  have lines : linesOf "ac\nx\n" = ["ac", "x"] := by
    have split : "ac\nx\n".splitOn "\n" = ["ac", "x", ""] := splitOn_singleton '\n' "ac\nx\n"
    have first : "ac".endsWith "\r" = false := by decide +kernel
    have second : "x".endsWith "\r" = false := by decide +kernel
    simp [linesOf, split, first, second]
  have read : oneInput.readInputs twoFiles = .ok [⟨"log", ["ac", "x"]⟩] := by
    rw [← lines]
    rfl
  obtain ⟨-, ⟨reports, answered, -, -, result⟩, -⟩ := run_accounts_for_lines loaded built read rfl
  refine ⟨_, extractor, loaded, built, read, result.trans (congrArg Except.ok (if_pos ?_))⟩
  have pair : List.Forall₂ (LineReport.Answers extractor .strict false)
      [⟨"log", 1, "ac"⟩, ⟨"log", 2, "x"⟩] (reports ⟨"log", ["ac", "x"]⟩) :=
    answered ⟨"log", ["ac", "x"]⟩
  rw [List.flatMap_singleton]
  generalize reports ⟨"log", ["ac", "x"]⟩ = both at pair
  cases pair with
  | cons first others =>
      cases first with
      | record outcome wanted => simp [outcome, Except.toOption] at refused
      | error outcome strict => rfl
      | omitted outcome filtered => simp [outcome, Except.toOption] at refused

end CommandLine
end LineExtraction

import LineExtraction.Catalogue.Load
import LineExtraction.CommandLine.Arguments
import LineExtraction.Report.LineReport

/-!
# Runs

What the program does: it loads definitions, compiles them, and lists them or extracts
the lines of its inputs.  Everything that a run writes is part of its outcome; only
reading files and the standard input is left to the surroundings.
-/

namespace LineExtraction
namespace CommandLine

open Files (FileError)

/-- Where a run reads from. -/
structure Surroundings (m : Type → Type) where
  readFile : String → m (Except FileError String)
  readInput : m (Except FileError String)

/-- Why a run ended early. -/
inductive RunError where
  | definitions (error : LoadError)
  | construction (path : String) (error : ConstructionError)
  | input (path : String) (error : FileError)
  | standardInput (error : FileError)
deriving Repr

/-- What a run wrote, and its exit code or why it ended early. -/
structure RunOutcome where
  output : String
  errorOutput : String
  result : Except RunError Nat

namespace RunError

/-- The wording of the error.  Why a definition file is malformed is told where the data
is at fault. -/
def message : RunError → String
  | definitions (.unreadable path error) =>
    "failed to read definitions " ++ path ++ ": " ++ error.message
  | definitions (.malformed path _ error) =>
    "failed to parse definitions " ++ path ++ ": " ++ error.message?.getD "malformed document"
  | construction path error => "failed to compile " ++ path ++ ": " ++ error.message
  | input path error => "failed to read " ++ path ++ ": " ++ error.message
  | standardInput error => "failed to read stdin: " ++ error.message

end RunError

/-- The lines of a text.  A carriage return in front of the end of a line belongs to that. -/
def linesOf (text : String) : List String :=
  let lines := (text.splitOn "\n").dropLast.map fun line =>
    if line.endsWith "\r" then (line.dropEnd 1).copy else line
  let last := (text.splitOn "\n").getLast?.getD ""
  if last.isEmpty then lines else lines ++ [last]

/-- The name of the standard input in reports. -/
def standardInputName : String := "<stdin>"

/-- The lines of log entries that are shown. -/
def shownLog (debug : Bool) (entries : List LogEntry) : String :=
  String.join ((entries.filter (·.isShown debug)).map fun entry => entry.render ++ "\n")

/-- The options of a definition file with what the arguments say about them. -/
def Arguments.override (arguments : Arguments) (options : Options) : Options :=
  { options with
    backend := arguments.backend.getD options.backend
    parallel := options.parallel || arguments.parallel }

/-- The line that lists a compiled definition. -/
def listing (unit : ExtractionUnit) : String :=
  toString unit.index ++ "\t" ++ unit.name ++ "\t" ++ unit.pattern ++ "\n"

section

variable {m : Type → Type} [Monad m]

/-- Read the inputs in order, up to the first that cannot be read. -/
def readInputs (surroundings : Surroundings m) :
    List String → m (Except RunError (List Input))
  | [] => return .ok []
  | path :: paths => do
    match ← surroundings.readFile path with
    | .error error => return .error (.input path error)
    | .ok text => do
      match ← readInputs surroundings paths with
      | .error error => return .error error
      | .ok inputs => return .ok (⟨path, linesOf text⟩ :: inputs)

/-- Read the inputs that the arguments name, or else the standard input. -/
def Arguments.readInputs (arguments : Arguments) (surroundings : Surroundings m) :
    m (Except RunError (List Input)) := do
  if arguments.inputs.isEmpty then
    match ← surroundings.readInput with
    | .error error => return .error (.standardInput error)
    | .ok text => return .ok [⟨standardInputName, linesOf text⟩]
  else CommandLine.readInputs surroundings arguments.inputs

/-- What is written about one input, and how many errors there are. -/
def Arguments.report (arguments : Arguments) (extractor : Extractor) (input : Input) :
    InputReport :=
  let logged := input.outcomes extractor arguments.mode
  let report := InputReport.ofOutcomes input.source arguments.matchedOnly logged.value
  { report with errorOutput := shownLog arguments.debug logged.entries ++ report.errorOutput }

/-- The outcome of a run with given reports.  It fails if there are errors. -/
def outcomeOf (shown : String) (reports : List InputReport) : RunOutcome :=
  ⟨String.join (reports.map (·.output)),
    shown ++ String.join (reports.map (·.errorOutput)),
    .ok (if (reports.map (·.errorCount)).foldr (· + ·) 0 = 0 then 0 else 1)⟩

/-- Run with arguments. -/
def Arguments.run (arguments : Arguments) (surroundings : Surroundings m) : m RunOutcome := do
  match ← DefinitionFile.load surroundings.readFile arguments.definitions with
  | .error error => return ⟨"", "", .error (.definitions error)⟩
  | .ok file =>
    let built := (arguments.override file.options).build file.definitions
    let shown := shownLog arguments.debug built.entries
    match built.value with
    | .error error => return ⟨"", shown, .error (.construction arguments.definitions error)⟩
    | .ok extractor =>
      if arguments.list then
        return ⟨String.join (extractor.units.map listing), shown, .ok 0⟩
      else
        match ← arguments.readInputs surroundings with
        | .error error => return ⟨"", shown, .error error⟩
        | .ok inputs => return outcomeOf shown (inputs.map (arguments.report extractor))

end
end CommandLine
end LineExtraction

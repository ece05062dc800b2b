import LineExtraction.Extraction.Extractor
import LineExtraction.Json.Value

/-!
# Line reports

What is reported about a line of input: a JSON object with its place and its fields,
or an error, or nothing when only lines that match are wanted.
-/

namespace LineExtraction

/-- The lines of one input, with the name that it has in reports. -/
structure Input where
  source : String
  lines : List String
deriving DecidableEq, Repr

/-- What is reported about a line. -/
inductive LineReport where
  | record (text : String)
  | error (text : String)
  | omitted
deriving DecidableEq, Repr

namespace LineReport

/-- The object that describes a line and what was extracted from it. -/
def object (source : String) (line : Nat) (extracted : Option Record) : Json.Value :=
  let fields := (extracted.map Record.toMap).getD []
  .map
    [("source", .text source),
      ("line", .ofNat line),
      ("extraction", .ofOption (fun found => .text found.name) extracted),
      ("fields", .map (fields.map fun (name, value) => (name, .text value)))]

/-- The report about the line with a number. -/
def ofOutcome (source : String) (matchedOnly : Bool) (line : Nat) : Outcome → LineReport
  | .error disagreement =>
    .error ("error: " ++ source ++ ":" ++ toString line ++ ": " ++ disagreement.message)
  | .ok extracted =>
    if matchedOnly ∧ extracted.isNone then .omitted
    else .record (object source line extracted).render

/-- The reports about lines numbered from `line` on. -/
def ofOutcomes (source : String) (matchedOnly : Bool) (line : Nat) :
    List Outcome → List LineReport
  | [] => []
  | outcome :: outcomes =>
    ofOutcome source matchedOnly line outcome ::
      ofOutcomes source matchedOnly (line + 1) outcomes

/-- What the report adds to the records. -/
def output : LineReport → String
  | record text => text ++ "\n"
  | _ => ""

/-- What the report adds to the errors. -/
def errorOutput : LineReport → String
  | error text => text ++ "\n"
  | _ => ""

/-- Whether the report is an error. -/
def isError : LineReport → Bool
  | error _ => true
  | _ => false

end LineReport

/-- All reports about one input: what is written for records and for errors, and how
many errors there are. -/
structure InputReport where
  output : String
  errorOutput : String
  errorCount : Nat
deriving DecidableEq, Repr

namespace InputReport

/-- Put reports together. -/
def ofLines (reports : List LineReport) : InputReport :=
  ⟨String.join (reports.map LineReport.output), String.join (reports.map LineReport.errorOutput),
    reports.countP LineReport.isError⟩

/-- The reports about an input with given outcomes. -/
def ofOutcomes (source : String) (matchedOnly : Bool) (outcomes : List Outcome) : InputReport :=
  ofLines (LineReport.ofOutcomes source matchedOnly 1 outcomes)

end InputReport

namespace Input

/-- The outcomes of all lines, in order. -/
def outcomes (extractor : Extractor) (mode : ExtractionMode) (input : Input) :
    Logged (List Outcome) :=
  input.lines.mapM fun line => extractor.extractLogged mode line

end Input
end LineExtraction

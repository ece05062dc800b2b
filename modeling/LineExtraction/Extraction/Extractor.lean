import LineExtraction.Compilation.Discriminator
import LineExtraction.Compilation.Pieces

/-!
# Extractors

An extractor is the discriminator over a list of definitions together with one unit
for each of them.  For a line it takes the candidates in order; the first one whose
unit extracts the line gives the record.  A candidate whose unit does not is a
disagreement between the two: strict extraction reports it, permissive extraction
goes on with the next candidate.
-/

namespace LineExtraction

/-- What to do about a candidate that does not extract the line. -/
inductive ExtractionMode where
  | strict
  | permissive
deriving DecidableEq, Repr

/-- The report that the first candidate did not extract the line. -/
structure Disagreement where
  input : String
  index : Nat
  name : String
  pattern : String
deriving DecidableEq, Repr

namespace Disagreement

/-- The disagreement about a line that a unit does not extract. -/
def ofUnit (input : String) (index : Nat) (unit : ExtractionUnit) : Disagreement :=
  ⟨input, index, unit.name, unit.pattern⟩

/-- The wording of the report. -/
def message (disagreement : Disagreement) : String :=
  "internal error: high-level match for extraction #" ++ toString disagreement.index ++ " (" ++
    disagreement.name ++ ") failed to match generated pattern: " ++ disagreement.pattern

end Disagreement

/-- What extraction makes of a line: a record, nothing, or an error. -/
abbrev Outcome := Except Disagreement (Option Record)

/-- A compiled list of definitions. -/
structure Extractor where
  discriminator : Discriminator
  units : List ExtractionUnit

namespace Extractor

/-! ## Construction -/

/-- The index of the first definition of a list with the given name.  `index` is the
index of the first definition of the list. -/
def firstNamed? (name : String) (index : Nat) : List Definition → Option Nat
  | [] => none
  | definition :: definitions =>
    if definition.name = name then some index else firstNamed? name (index + 1) definitions

/-- Check that no definition has a name that stands in `before` or in front of it. -/
def checkNames (before : List Definition) : List Definition → Except ConstructionError Unit
  | [] => .ok ()
  | definition :: definitions =>
    match firstNamed? definition.name 0 before with
    | some first => .error (.duplicateDefinition definition.name first definition.location)
    | none => checkNames (before ++ [definition]) definitions

/-- Compile one definition to its discriminator pattern and its unit. -/
def compileAt (dialect : Dialect) (index : Nat) (definition : Definition) :
    Except ConstructionError (String × ExtractionUnit) := do
  let compiled ← definition.compile dialect
  let unit ← dialect.finish index compiled.extraction definition
  return (compiled.discriminator, unit)

/-- Note that a unit has been compiled. -/
def noteCompiled (unit : ExtractionUnit) : LogEntry :=
  ⟨.debug, "compiled extraction #" ++ toString unit.index ++ " (" ++ unit.name ++ "): " ++
    unit.pattern⟩

/-- Compile definitions in order, up to the first that fails.  `index` is the index of
the first one. -/
def compileFrom (dialect : Dialect) (index : Nat) :
    List Definition → Logged (Except ConstructionError (List (String × ExtractionUnit)))
  | [] => .silent (.ok [])
  | definition :: definitions =>
    match compileAt dialect index definition with
    | .error error => .silent (.error error)
    | .ok (pattern, unit) =>
      let rest := compileFrom dialect (index + 1) definitions
      ⟨noteCompiled unit :: rest.entries, rest.value.map ((pattern, unit) :: ·)⟩

/-- Put the units and the discriminator over them together. -/
def assemble (dialect : Dialect) (builder : DiscriminatorBuilder)
    (compiled : List (String × ExtractionUnit)) :
    Logged (Except ConstructionError Extractor) := do
  match ← builder (compiled.map (·.1)) with
  | .error cause => return .error (.discriminator cause)
  | .ok discriminator =>
    Logged.write .debug
      ("extractor ready: " ++ toString compiled.length ++ " definitions, cooker " ++ dialect.name)
    return .ok ⟨discriminator, compiled.map (·.2)⟩

/-- Compile a list of definitions. -/
def construct (dialect : Dialect) (builder : DiscriminatorBuilder)
    (definitions : List Definition) : Logged (Except ConstructionError Extractor) :=
  match checkNames [] definitions with
  | .error error => .silent (.error error)
  | .ok () => do
    match ← compileFrom dialect 0 definitions with
    | .error error => return .error error
    | .ok compiled => assemble dialect builder compiled

/-! ## Schedules

No definition has to wait for another to be compiled, so they can be compiled in any
order.  A schedule is a list of their indices.  The first definition of the schedule
that fails decides the error, and what the others are compiled to is put back into the
order of the list. -/

/-- Compile the definitions with the given indices in the order in which these stand, up
to the first that fails, and keep each result with its index. -/
def compileIn (dialect : Dialect) (definitions : List Definition) :
    List Nat → Logged (Except ConstructionError (List (Nat × (String × ExtractionUnit))))
  | [] => .silent (.ok [])
  | index :: schedule =>
    match definitions[index]? with
    | none => compileIn dialect definitions schedule
    | some definition =>
      match compileAt dialect index definition with
      | .error error => .silent (.error error)
      | .ok entry =>
        let rest := compileIn dialect definitions schedule
        ⟨noteCompiled entry.2 :: rest.entries, rest.value.map ((index, entry) :: ·)⟩

/-- The results with the indices below `count`, in the order of these. -/
def inOrder {α : Type} (count : Nat) (results : List (Nat × α)) : List α :=
  (List.range count).filterMap (results.lookup ·)

/-- Compile a list of definitions as a schedule says. -/
def constructIn (dialect : Dialect) (builder : DiscriminatorBuilder)
    (definitions : List Definition) (schedule : List Nat) :
    Logged (Except ConstructionError Extractor) :=
  match checkNames [] definitions with
  | .error error => .silent (.error error)
  | .ok () => do
    match ← compileIn dialect definitions schedule with
    | .error error => return .error error
    | .ok results => assemble dialect builder (inOrder definitions.length results)

/-! ## Extraction -/

/-- Note that a candidate was passed over. -/
def noteRejected (index : Nat) (unit : ExtractionUnit) : LogEntry :=
  ⟨.debug, "candidate #" ++ toString index ++ " (" ++ unit.name ++
    ") rejected input, trying next"⟩

/-- Try candidates in order.  Candidates without a unit are passed over. -/
def extractFrom (units : List ExtractionUnit) (mode : ExtractionMode) (input : String)
    (line : Line) : List Nat → Logged Outcome
  | [] => .silent (.ok none)
  | index :: candidates =>
    match units[index]? with
    | none => extractFrom units mode input line candidates
    | some unit => do
      match ← unit.extractLogged line with
      | some record => return .ok (some record)
      | none =>
        match mode with
        | .strict => return .error (Disagreement.ofUnit input index unit)
        | .permissive =>
          let rest := extractFrom units mode input line candidates
          ⟨noteRejected index unit :: rest.entries, rest.value⟩

/-- Extract a line, with what there is to say about it. -/
def extractLogged (extractor : Extractor) (mode : ExtractionMode) (input : String) :
    Logged Outcome :=
  let line := Line.ofString input
  extractFrom extractor.units mode input line (extractor.discriminator.candidates line)

/-- Extract a line. -/
def extract (extractor : Extractor) (mode : ExtractionMode) (input : String) : Outcome :=
  (extractor.extractLogged mode input).value

/-- Extract a line and pass over disagreements. -/
def extractPermissive (extractor : Extractor) (input : String) : Option Record :=
  match extractor.extract .permissive input with
  | .ok record => record
  | .error _ => none

/-- How many definitions the extractor has. -/
def size (extractor : Extractor) : Nat := extractor.units.length

end Extractor

end LineExtraction

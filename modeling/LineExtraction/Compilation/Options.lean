import LineExtraction.Compilation.Backends
import LineExtraction.Extraction.Extractor
import LineExtraction.Unicode.LowerCase

/-!
# Construction options

Which engine the extraction patterns are for, how much room and time they may take,
and whether the work is spread over several threads, which no result depends on.  A
definitions file holds options together with the definitions to compile.
-/

namespace LineExtraction

/-- The engine that extraction patterns are written for. -/
inductive Backend where
  | linear
  | backtracking
deriving DecidableEq, Repr

namespace Backend

/-- The name of the engine. -/
def name : Backend → String
  | linear => "regex"
  | backtracking => "fancy"

/-- The engine with the given name in any case, or why there is none. -/
def ofName (name : String) : Except String Backend :=
  let lower := Unicode.toLowerCase name
  if lower = "regex" then .ok .linear
  else if lower = "fancy" ∨ lower = "fancy-regex" then .ok .backtracking
  else .error ("unknown backend '" ++ lower ++ "' (expected regex or fancy)")

end Backend

/-- The options of a construction.  A limit that is not given has a default. -/
structure Options where
  backend : Backend
  sizeLimit : Option Nat
  dfaSizeLimit : Option Nat
  backtrackLimit : Option Nat
  parallel : Bool
deriving DecidableEq, Repr

namespace Options

/-- The options when none are given. -/
def default : Options := ⟨.linear, none, none, none, false⟩

/-- The limit on the size of patterns. -/
def effectiveSizeLimit (options : Options) : Nat :=
  options.sizeLimit.getD Linear.defaultSizeLimit

/-- The dialect for the chosen engine. -/
def dialect (options : Options) : Dialect :=
  match options.backend with
  | .linear => .linear options.effectiveSizeLimit
  | .backtracking =>
    .backtracking (options.backtrackLimit.getD Backtracking.defaultBacktrackLimit)

/-- The builder of the discriminator.  How large its cache may grow changes no answer. -/
def discriminatorBuilder (options : Options) : DiscriminatorBuilder :=
  Discriminator.builder options.effectiveSizeLimit

/-- Compile a list of definitions. -/
def build (options : Options) (definitions : List Definition) :
    Logged (Except ConstructionError Extractor) :=
  Extractor.construct options.dialect options.discriminatorBuilder definitions

end Options

/-! ## Definition files -/

/-- The contents of a definitions file. -/
structure DefinitionFile where
  options : Options
  definitions : List Definition
deriving Repr

namespace DefinitionFile

/-- The contents of a file that says nothing. -/
def empty : DefinitionFile := ⟨.default, []⟩

/-- Name the source of all definitions, where it is not named. -/
def nameSource (source : String) (file : DefinitionFile) : DefinitionFile :=
  { file with definitions := file.definitions.map (Definition.nameSource source) }

end DefinitionFile
end LineExtraction

import LineExtraction.Files.Tree
import LineExtraction.Json.Source
import LineExtraction.Yaml.Source

/-!
# Loading definition files

A definition file is JSON if its name says so, and YAML otherwise.  Locations without a
source are in the file itself.
-/

namespace LineExtraction

open Decoding (ReadError)
open Files (FileError Path)

/-- The formats of definition files. -/
inductive DocumentFormat where
  | json
  | yaml
deriving DecidableEq, Repr

/-- Why a definition file could not be loaded. -/
inductive LoadError where
  | unreadable (path : String) (error : FileError)
  | malformed (path : String) (format : DocumentFormat) (error : ReadError)
deriving DecidableEq, Repr

namespace DocumentFormat

/-- The format of the file at a path. -/
def ofPath (path : String) : DocumentFormat :=
  match (Path.ofText path).extension? with
  | some extension => if extension.map Char.toLower = "json" then json else yaml
  | none => yaml

/-- Read a definition file from its text. -/
def read : DocumentFormat → String → Except ReadError DefinitionFile
  | json, text => Json.readDefinitionFile text
  | yaml, text => Yaml.readDefinitionFile text

end DocumentFormat

namespace DefinitionFile

/-- Load the definition file at a path whose text was read. -/
def ofText (path text : String) : Except LoadError DefinitionFile :=
  let format := DocumentFormat.ofPath path
  match format.read text with
  | .error error => .error (.malformed path format error)
  | .ok file => .ok (file.nameSource path)

/-- Load the definition file at a path. -/
def load {m : Type → Type} [Monad m] (readText : String → m (Except FileError String))
    (path : String) : m (Except LoadError DefinitionFile) := do
  match ← readText path with
  | .error error => return .error (.unreadable path error)
  | .ok text => return ofText path text

end DefinitionFile
end LineExtraction

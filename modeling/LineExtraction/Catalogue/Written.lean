import LineExtraction.Compilation.Options
import LineExtraction.Json.Value

/-!
# Written definitions

The JSON object that stands for each part of a definitions file, and the text of a
whole file.  Every key is written, also where reading would supply the same value by
default, so a written file says everything that was understood.
-/

namespace LineExtraction

open Json (Value)

/-- The object of a location. -/
def Location.written (location : Location) : Value :=
  .map
    [("source", .ofOption .text location.source),
      ("line", .ofNat location.line),
      ("column", .ofNat location.column)]

namespace Piece

mutual

/-- The object of a piece, which names its kind first. -/
def written : Piece → Value
  | text value location =>
    .map [("type", .text "text"), ("text", .text value), ("location", location.written)]
  | pattern value location =>
    .map [("type", .text "pattern"), ("pattern", .text value), ("location", location.written)]
  | expression name parts location =>
    .map
      [("type", .text "expression"),
        ("name", .text name),
        ("parts", .list (writtenAll parts)),
        ("location", location.written)]

/-- The objects of a list of pieces. -/
def writtenAll : List Piece → List Value
  | [] => []
  | piece :: pieces => piece.written :: writtenAll pieces

end

theorem writtenAll_eq_map (pieces : List Piece) : writtenAll pieces = pieces.map written := by
  induction pieces with
  | nil => rfl
  | cons piece pieces inductionHypothesis =>
    simp only [writtenAll, List.map_cons, inductionHypothesis]

end Piece

/-- The object of a definition. -/
def Definition.written (definition : Definition) : Value :=
  .map
    [("name", .text definition.name),
      ("pieces", .list (definition.pieces.map Piece.written)),
      ("location", definition.location.written)]

/-- The object of construction options. -/
def Options.written (options : Options) : Value :=
  .map
    [("backend", .text options.backend.name),
      ("size_limit", .ofOption .ofNat options.sizeLimit),
      ("dfa_size_limit", .ofOption .ofNat options.dfaSizeLimit),
      ("backtrack_limit", .ofOption .ofNat options.backtrackLimit),
      ("parallel", .bool options.parallel)]

namespace DefinitionFile

/-- The object of a definitions file. -/
def written (file : DefinitionFile) : Value :=
  .map
    [("options", file.options.written),
      ("extractions", .list (file.definitions.map Definition.written))]

/-- The text of a definitions file. -/
def render (file : DefinitionFile) : String := file.written.render

end DefinitionFile
end LineExtraction

/-!
# Definitions

A definition names a kind of line and says what such a line is made of: text that stands for
itself, patterns, and named expressions that are themselves made of pieces.  Everything is
listed in the order in which it opens, a whole before its parts.  The expressions are the
fields that a line of the kind has.
-/

namespace LineExtraction

/-! ## Locations

Where a definition or one of its pieces comes from: a source name, if it is known,
with a line and a column counted from 1.  Line 0 means that no place is known. -/

/-- A place in a source. -/
structure Location where
  source : Option String
  line : Nat
  column : Nat
deriving DecidableEq, Repr

namespace Location

/-- No place at all. -/
def unknown : Location := ⟨none, 0, 0⟩

/-- The location as it stands in messages. -/
def text (location : Location) : String :=
  let source := location.source.getD "<input>"
  if location.line = 0 then source
  else source ++ ":" ++ toString location.line ++ ":" ++ toString location.column

/-- Name the source, unless it is named already. -/
def nameSource (source : String) (location : Location) : Location :=
  { location with source := location.source.or (some source) }

@[simp]
theorem nameSource_line (source : String) (location : Location) :
    (location.nameSource source).line = location.line := rfl

@[simp]
theorem nameSource_column (source : String) (location : Location) :
    (location.nameSource source).column = location.column := rfl

end Location

/-! ## Pieces -/

/-- One element of a definition. -/
inductive Piece where
  | text (text : String) (location : Location)
  | pattern (pattern : String) (location : Location)
  | expression (name : String) (parts : List Piece) (location : Location)
deriving Repr

namespace Piece

/-- Where the piece comes from. -/
def location : Piece → Location
  | text _ location => location
  | pattern _ location => location
  | expression _ _ location => location

mutual

/-- The names and locations of the expressions in a piece. -/
def expressions : Piece → List (String × Location)
  | text _ _ => []
  | pattern _ _ => []
  | expression name parts location => (name, location) :: expressionsOf parts

/-- The names and locations of the expressions in a list of pieces. -/
def expressionsOf : List Piece → List (String × Location)
  | [] => []
  | piece :: pieces => piece.expressions ++ expressionsOf pieces

end

mutual

/-- The patterns in a piece, with their locations. -/
def patterns : Piece → List (String × Location)
  | text _ _ => []
  | pattern value location => [(value, location)]
  | expression _ parts _ => patternsOf parts

/-- The patterns in a list of pieces, with their locations. -/
def patternsOf : List Piece → List (String × Location)
  | [] => []
  | piece :: pieces => piece.patterns ++ patternsOf pieces

end

mutual

/-- Name the source of the piece and of every piece in it, where it is not named. -/
def nameSource (source : String) : Piece → Piece
  | text value location => .text value (location.nameSource source)
  | pattern value location => .pattern value (location.nameSource source)
  | expression name parts location =>
    .expression name (nameSources source parts) (location.nameSource source)

/-- Name the source of every piece of a list, where it is not named. -/
def nameSources (source : String) : List Piece → List Piece
  | [] => []
  | piece :: pieces => piece.nameSource source :: nameSources source pieces

end

end Piece

/-! ## Kinds of lines -/

/-- A kind of line: its name, its pieces in order, and where it comes from. -/
structure Definition where
  name : String
  pieces : List Piece
  location : Location
deriving Repr

namespace Definition

/-- The expressions of the definition in the order in which they open. -/
def expressions (definition : Definition) : List (String × Location) :=
  Piece.expressionsOf definition.pieces

/-- The patterns of the definition in order. -/
def patterns (definition : Definition) : List (String × Location) :=
  Piece.patternsOf definition.pieces

/-- The names of the fields in the order in which they open. -/
def fieldNames (definition : Definition) : List String :=
  definition.expressions.map (·.1)

/-- The first entry whose name stands in `seen` or in front of it. -/
def firstRepeated (seen : List String) : List (String × Location) → Option (String × Location)
  | [] => none
  | (name, location) :: rest =>
    if name ∈ seen then some (name, location) else firstRepeated (name :: seen) rest

/-- The first expression whose name another one in front of it has. -/
def repeatedField? (definition : Definition) : Option (String × Location) :=
  firstRepeated [] definition.expressions

/-- Name the source of the definition and of its pieces, where it is not named. -/
def nameSource (source : String) (definition : Definition) : Definition :=
  { definition with
    pieces := Piece.nameSources source definition.pieces
    location := definition.location.nameSource source }

end Definition

end LineExtraction

import LineExtraction.Compilation.Options
import LineExtraction.Decoding.Buffered
import LineExtraction.Decoding.Struct

/-!
# Decoding definitions

How locations, pieces, definitions, options and whole definition files are read from
data of any format.  The type of a piece may stand anywhere among its fields, so the
fields are kept until all of them have been read.
-/

namespace LineExtraction
namespace Decoding

variable {α : Type} [Format α]

/-! ## Locations -/

/-- Read a value that may be absent. -/
def readOptional {β : Type} (read : α → Decode β) (content : α) :
    Decode (Option β) := do
  match ← Format.optional content with
  | none => return none
  | some content => return some (← read content)

/-- How a location is read. -/
def locationSpec : StructSpec α Location where
  expected := "struct SourceLocation"
  fields := ["source", "line", "column"]
  required := []
  denyUnknown := false
  start := .unknown
  set field content location := do
    match field with
    | 0 => return { location with source := ← readOptional Format.text content }
    | 1 => return { location with line := ← Format.natural content }
    | _ => return { location with column := ← Format.natural content }

/-- Read a location. -/
def readLocation (content : α) : Decode Location := locationSpec.read content

/-! ## Pieces -/

/-- The types of pieces. -/
inductive PieceType where
  | text
  | pattern
  | expression
deriving DecidableEq, Repr

/-- The names of the types of pieces. -/
def pieceTypeNames : List String := ["text", "pattern", "expression"]

/-- The type of piece with a name or number. -/
def pieceType : Identifier → Decode PieceType
  | .name name =>
    if name = "text" then pure .text
    else if name = "pattern" then pure .pattern
    else if name = "expression" then pure .expression
    else throw (.data (.unknownVariant name pieceTypeNames))
  | .number 0 => pure .text
  | .number 1 => pure .pattern
  | .number 2 => pure .expression
  | .number number =>
    throw (.data (.invalidValue (.integer number) "variant index 0 <= i < 3"))

/-- Read the type of a piece. -/
def readPieceType (content : α) : Decode PieceType := do
  pieceType (← Format.identifier "variant identifier" content)

/-- The name of the field that holds the type of a piece. -/
def typeField : String := "type"

/-- What a piece is called in errors. -/
def pieceExpected : String := "internally tagged enum Piece"

/-- What a key of a piece is called in errors. -/
def typeKeyExpected : String := "a type tag `type` or any other value"

/-- A piece whose fields are kept until they are wanted. -/
structure TypedContent where
  type : PieceType
  content : Datum
deriving Repr

/-- Whether a key is the name of the field that holds the type. -/
def isTypeKey : Datum → Bool
  | .text name => name = typeField
  | _ => false

/-- Read the entries of a piece.  `kept` are the ones before, last first. -/
def readTypedEntries (type : Option PieceType) (kept : List (Datum × Datum)) :
    Stream (α × α) → Decode TypedContent
  | .broken fault => throw (.fault fault)
  | .done =>
    match type with
    | none => throw (.data (.missingField typeField))
    | some type => pure ⟨type, .map kept.reverse⟩
  | .next (key, content) rest => do
    let key ← Format.keep typeKeyExpected key
    if isTypeKey key then
      if type.isSome then throw (.data (.duplicateField typeField))
      readTypedEntries (some (← readPieceType content)) kept rest
    else
      readTypedEntries type ((key, ← Format.keep keptExpected content) :: kept) rest

/-- Read the type of a piece and keep its other fields. -/
def readTypedContent (content : α) : Decode TypedContent := do
  match ← Format.any pieceExpected content with
  | .map entries => readTypedEntries none [] entries
  | .list .done => throw (.data (.missingField typeField))
  | .list (.broken fault) => throw (.fault fault)
  | .list (.next head tail) =>
    let type ← readPieceType head
    return ⟨type, .list (← tail.mapM (Format.keep keptExpected))⟩
  | .scalar found => throw (.invalidType found pieceExpected)
  | .tagged => throw (.invalidType .variant pieceExpected)

/-- How the fields of a text piece are read. -/
def textSpec : StructSpec Buffered (String × Location) where
  expected := "struct variant Piece::Text"
  fields := ["text", "location"]
  required := [0]
  denyUnknown := false
  start := ("", .unknown)
  set field content value := do
    match field with
    | 0 => return (← Format.text content, value.2)
    | _ => return (value.1, ← readLocation content)

/-- How the fields of a pattern piece are read. -/
def patternSpec : StructSpec Buffered (String × Location) :=
  { textSpec with expected := "struct variant Piece::Pattern", fields := ["pattern", "location"] }

/-- The name, parts and location of an expression. -/
structure ExpressionFields where
  name : String
  parts : List Piece
  location : Location

/-- How the fields of an expression are read, given how its parts are. -/
def expressionSpec (readPiece : Buffered → Decode Piece) :
    StructSpec Buffered ExpressionFields where
  expected := "struct variant Piece::Expression"
  fields := ["name", "parts", "location"]
  required := [0]
  denyUnknown := false
  start := ⟨"", [], .unknown⟩
  set field content value := do
    match field with
    | 0 => return { value with name := ← Format.text content }
    | 1 => return { value with parts := ← (← Format.list content).mapM readPiece }
    | _ => return { value with location := ← readLocation content }

/-- Read the fields of a piece of a given type, given how its parts are read. -/
def readTyped (readPiece : Buffered → Decode Piece) (type : PieceType)
    (content : Buffered) : Decode Piece := do
  match type with
  | .text =>
    let (text, location) ← textSpec.read content
    return .text text location
  | .pattern =>
    let (pattern, location) ← patternSpec.read content
    return .pattern pattern location
  | .expression =>
    let fields ← (expressionSpec readPiece).read content
    return .expression fields.name fields.parts fields.location

mutual

/-- How many lists and maps stand inside each other in the data. -/
def Datum.depth : Datum → Nat
  | .list items => depthOfItems items + 1
  | .map entries => depthOfEntries entries + 1
  | _ => 0

/-- How deep the deepest item is. -/
def depthOfItems : List Datum → Nat
  | [] => 0
  | item :: items => Nat.max item.depth (depthOfItems items)

/-- How deep the deepest key or value is. -/
def depthOfEntries : List (Datum × Datum) → Nat
  | [] => 0
  | (key, value) :: entries =>
    Nat.max (Nat.max key.depth value.depth) (depthOfEntries entries)

end

/-- Read a kept piece that is at most `fuel` levels deep. -/
def readKeptPiece : (fuel : Nat) → Buffered → Decode Piece
  | 0, buffered => buffered.refuse pieceExpected
  | fuel + 1, buffered => do
    let typed ← readTypedContent buffered
    readTyped (readKeptPiece fuel) typed.type (buffered.withDatum typed.content)

/-- Read a piece. -/
def readPiece (content : α) : Decode Piece := do
  let typed ← readTypedContent content
  readTyped (readKeptPiece typed.content.depth) typed.type
    ⟨typed.content, Format.nothingShown content⟩

/-! ## Definitions -/

/-- How a definition is read. -/
def definitionSpec : StructSpec α Definition where
  expected := "struct FlattenedExtraction"
  fields := ["name", "pieces", "location"]
  required := [0]
  denyUnknown := false
  start := ⟨"", [], .unknown⟩
  set field content definition := do
    match field with
    | 0 => return { definition with name := ← Format.text content }
    | 1 => return { definition with pieces := ← (← Format.list content).mapM readPiece }
    | _ => return { definition with location := ← readLocation content }

/-- Read a definition. -/
def readDefinition (content : α) : Decode Definition := definitionSpec.read content

/-- Read a list of definitions. -/
def readDefinitions (content : α) : Decode (List Definition) := do
  (← Format.list content).mapM readDefinition

/-! ## Options -/

/-- The names of the engines in data. -/
def backendNames : List String := ["regex", "fancy", "fancy-regex"]

/-- The engine with a name or number. -/
def backendOf : Identifier → Decode Backend
  | .name name =>
    if name = "regex" then pure .linear
    else if name = "fancy" ∨ name = "fancy-regex" then pure .backtracking
    else throw (.data (.unknownVariant name backendNames))
  | .number 0 => pure .linear
  | .number 1 => pure .backtracking
  | .number number =>
    throw (.data (.invalidValue (.integer number) "variant index 0 <= i < 2"))

/-- How options are read. -/
def optionsSpec : StructSpec α Options where
  expected := "struct ExtractorOptions"
  fields := ["backend", "size_limit", "dfa_size_limit", "backtrack_limit", "parallel"]
  required := []
  denyUnknown := true
  start := .default
  set field content options := do
    match field with
    | 0 => return { options with backend := ← Format.unitVariant backendOf content }
    | 1 => return { options with sizeLimit := ← readOptional Format.natural content }
    | 2 => return { options with dfaSizeLimit := ← readOptional Format.natural content }
    | 3 => return { options with backtrackLimit := ← readOptional Format.natural content }
    | _ => return { options with parallel := ← Format.flag content }

/-- Read options. -/
def readOptions (content : α) : Decode Options := optionsSpec.read content

/-! ## Files -/

/-- How a definition file is read. -/
def fileSpec : StructSpec α DefinitionFile where
  expected := "struct DefinitionsFile"
  fields := ["options", "extractions"]
  required := []
  denyUnknown := false
  start := .empty
  set field content file := do
    match field with
    | 0 => return { file with options := ← readOptions content }
    | _ => return { file with definitions := ← readDefinitions content }

/-- Read a definition file. -/
def readFile (content : α) : Decode DefinitionFile := fileSpec.read content

end Decoding
end LineExtraction

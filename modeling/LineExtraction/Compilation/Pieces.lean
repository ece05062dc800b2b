import LineExtraction.Compilation.Dialect
import LineExtraction.Pattern.GroupNames
import LineExtraction.Pattern.Quote
import LineExtraction.Pattern.Relax

/-!
# Compiling pieces

One walk over the pieces of a definition writes two patterns: the discriminator
pattern, which tells quickly which definitions may match a line, and the extraction
pattern, which finds the fields.  The expressions are numbered in the order in which
they open.
-/

namespace LineExtraction

/-- What a piece, or a run of pieces, is compiled to. -/
structure CompiledPieces where
  discriminator : String
  extraction : String
  fields : List String
deriving DecidableEq, Repr

namespace CompiledPieces

/-- What no piece is compiled to. -/
def empty : CompiledPieces := ⟨"", "", []⟩

/-- What one run of pieces and another behind it are compiled to. -/
def append (front back : CompiledPieces) : CompiledPieces :=
  ⟨front.discriminator ++ back.discriminator, front.extraction ++ back.extraction,
    front.fields ++ back.fields⟩

/-- What an expression is compiled to, given what its parts are compiled to. -/
def enclose (dialect : Dialect) (ordinal : Nat) (name : String) (inner : CompiledPieces) :
    CompiledPieces :=
  ⟨"(?:" ++ inner.discriminator ++ ")",
    dialect.openExpression ordinal ++ inner.extraction ++ dialect.closeExpression,
    name :: inner.fields⟩

end CompiledPieces

namespace Piece

mutual

/-- Compile a piece of the named definition.  `ordinal` is the number of the first
expression that opens in it. -/
def compile (dialect : Dialect) (definition : String) (ordinal : Nat) :
    Piece → Except ConstructionError CompiledPieces
  | text content _ => .ok ⟨Pattern.quoteLinear content, dialect.literal content, []⟩
  | pattern source location =>
    match dialect.pattern source with
    | .error cause => .error (.invalidPattern definition source location cause)
    | .ok extraction => .ok ⟨Pattern.relax source, extraction, []⟩
  | expression name parts _ => do
    return (← compileAll dialect definition (ordinal + 1) parts).enclose dialect ordinal name

/-- Compile pieces that stand behind each other. -/
def compileAll (dialect : Dialect) (definition : String) (ordinal : Nat) :
    List Piece → Except ConstructionError CompiledPieces
  | [] => .ok .empty
  | piece :: pieces => do
    let front ← compile dialect definition ordinal piece
    let back ← compileAll dialect definition (ordinal + front.fields.length) pieces
    return front.append back

end

end Piece

namespace Definition

/-- Why a group name cannot stand where it does, if it cannot. -/
def groupNameFault? (seen : List String) (name : String) : Option String :=
  if Dialect.isReservedName name then
    some ("group name `" ++ name ++ "` is reserved for expression captures")
  else if name ∈ seen then
    some ("group name `" ++ name ++ "` is already used earlier in this definition")
  else none

/-- The first fault among group names, given the names that stand before them. -/
def firstGroupNameFault (seen : List String) : List String → Except String (List String)
  | [] => .ok seen
  | name :: names =>
    match groupNameFault? seen name with
    | some fault => .error fault
    | none => firstGroupNameFault (name :: seen) names

/-- Check the group names of patterns, given the names that stand before them. -/
def checkPatterns (definition : String) (seen : List String) :
    List (String × Location) → Except ConstructionError Unit
  | [] => .ok ()
  | (pattern, location) :: patterns =>
    match firstGroupNameFault seen (Pattern.groupNames pattern) with
    | .error cause => .error (.invalidPattern definition pattern location cause)
    | .ok seen => checkPatterns definition seen patterns

/-- Check that no group name is reserved and none stands twice in the definition. -/
def checkGroups (definition : Definition) : Except ConstructionError Unit :=
  checkPatterns definition.name [] definition.patterns

/-- Check that no two expressions have the same name. -/
def checkFieldNames (definition : Definition) : Except ConstructionError Unit :=
  match definition.repeatedField? with
  | some (field, location) => .error (.duplicateField definition.name field location)
  | none => .ok ()

/-- Compile a definition. -/
def compile (dialect : Dialect) (definition : Definition) :
    Except ConstructionError CompiledPieces := do
  definition.checkFieldNames
  definition.checkGroups
  Piece.compileAll dialect definition.name 0 definition.pieces

end Definition
end LineExtraction

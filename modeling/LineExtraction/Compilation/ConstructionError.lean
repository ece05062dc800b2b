import LineExtraction.Catalogue.Definition

/-!
# Construction errors

Why a list of definitions cannot be compiled.  An error names the definition and the
place that it comes from, unless it concerns all definitions together.
-/

namespace LineExtraction

/-- Why compilation failed. -/
inductive ConstructionError where
  | invalidPattern (definition pattern : String) (location : Location) (cause : String)
  | duplicateDefinition (name : String) (firstIndex : Nat) (location : Location)
  | duplicateField (definition field : String) (location : Location)
  | composition (definition : String) (index : Nat) (location : Location) (pattern cause : String)
  | discriminator (cause : String)
deriving DecidableEq, Repr

namespace ConstructionError

/-- The wording of the error. -/
def message : ConstructionError → String
  | invalidPattern definition _ location cause =>
    location.text ++ ": invalid pattern definition in '" ++ definition ++ "': " ++ cause
  | duplicateDefinition name firstIndex location =>
    location.text ++ ": duplicate extraction name '" ++ name ++ "' (first declared as #" ++
      toString firstIndex ++ ")"
  | duplicateField definition field location =>
    location.text ++ ": duplicate field name '" ++ field ++ "' in extraction '" ++ definition ++
      "'"
  | composition definition index location _ cause =>
    location.text ++ ": internal problem: invalid composed pattern for extraction #" ++
      toString index ++ " ('" ++ definition ++ "'): " ++ cause
  | discriminator cause =>
    "internal error: problem with multi-matcher construction: " ++ cause

/-- The place that the error comes from. -/
def location? : ConstructionError → Option Location
  | invalidPattern _ _ location _ => some location
  | duplicateDefinition _ _ location => some location
  | duplicateField _ _ location => some location
  | composition _ _ location _ _ => some location
  | discriminator _ => none

/-- The definition that the error concerns. -/
def definition? : ConstructionError → Option String
  | invalidPattern definition _ _ _ => some definition
  | duplicateDefinition name _ _ => some name
  | duplicateField definition _ _ => some definition
  | composition definition _ _ _ _ => some definition
  | discriminator _ => none

end ConstructionError
end LineExtraction

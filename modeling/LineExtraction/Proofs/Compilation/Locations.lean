import LineExtraction.Proofs.Catalogue.Sources
import LineExtraction.Proofs.Compilation.Marks
import Mathlib.Data.List.Forall2

/-!
# Naming the source of a definition

Naming the source of a definition gives a source to those of its locations that have none, and
leaves everything else as it is.  Compilation looks at no location: it makes the same of the
definition before and after, or fails with the same error, which only says where it comes from.
-/

namespace LineExtraction

/-! ## Locations -/

/-- A location with a source is left alone; another one gets the source. -/
theorem Location.nameSource_eq_ite
    (source : String)
    (location : Location) :
    location.nameSource source =
      if location.source.isSome then location else ⟨some source, location.line, location.column⟩ := by
  obtain ⟨own, line, column⟩ := location
  cases own <;> rfl

theorem Location.nameSource_nameSource
    (source other : String)
    (location : Location) :
    (location.nameSource source).nameSource other = location.nameSource source := by
  obtain ⟨own, line, column⟩ := location
  cases own <;> rfl

/-! ## Pieces -/

namespace Piece

mutual

theorem marks_nameSource
    (source : String)
    (piece : Piece) :
    (piece.nameSource source).marks = piece.marks := by
  cases piece with
  | text content location => rfl
  | pattern pattern location => rfl
  | expression name parts location => rw [nameSource, marks, marks, marksOf_nameSources source parts]

/-- Names, texts, patterns and the shape of the pieces stay. -/
theorem marksOf_nameSources
    (source : String)
    (pieces : List Piece) :
    marksOf (nameSources source pieces) = marksOf pieces := by
  cases pieces with
  | nil => rfl
  | cons piece pieces =>
      rw [nameSources, marksOf, marksOf, marks_nameSource source piece,
        marksOf_nameSources source pieces]

end

mutual

theorem nameSource_nameSource
    (source other : String)
    (piece : Piece) :
    (piece.nameSource source).nameSource other = piece.nameSource source := by
  cases piece with
  | text content location => simp only [nameSource, Location.nameSource_nameSource]
  | pattern pattern location => simp only [nameSource, Location.nameSource_nameSource]
  | expression name parts location =>
      simp only [nameSource, Location.nameSource_nameSource,
        nameSources_nameSources source other parts]

/-- A second source changes nothing. -/
theorem nameSources_nameSources
    (source other : String)
    (pieces : List Piece) :
    nameSources other (nameSources source pieces) = nameSources source pieces := by
  cases pieces with
  | nil => rfl
  | cons piece pieces =>
      simp only [nameSources, nameSource_nameSource source other piece,
        nameSources_nameSources source other pieces]

end

end Piece

/-! ## Errors -/

/-- Name the source of the location in an error, where it is not named. -/
def ConstructionError.nameSource (source : String) : ConstructionError → ConstructionError
  | invalidPattern definition pattern location cause =>
    .invalidPattern definition pattern (location.nameSource source) cause
  | duplicateDefinition name firstIndex location =>
    .duplicateDefinition name firstIndex (location.nameSource source)
  | duplicateField definition field location =>
    .duplicateField definition field (location.nameSource source)
  | composition definition index location pattern cause =>
    .composition definition index (location.nameSource source) pattern cause
  | discriminator cause => .discriminator cause

theorem Except.mapError_bind
    {ε δ α β : Type}
    (change : ε → δ)
    (value : Except ε α)
    (next : α → Except ε β) :
    (value >>= next).mapError change =
      value.mapError change >>= fun found => (next found).mapError change := by
  cases value <;> rfl

/-! ## Compilation -/

namespace Definition

theorem firstRepeated_nameEntry
    (source : String)
    (seen : List String)
    (entries : List (String × Location)) :
    firstRepeated seen (entries.map (nameEntry source)) =
      (firstRepeated seen entries).map (nameEntry source) := by
  induction entries generalizing seen with
  | nil => rfl
  | cons entry entries inductionHypothesis =>
      rw [List.map_cons, nameEntry, firstRepeated, firstRepeated, inductionHypothesis]
      split <;> rfl

theorem checkFieldNames_nameSource
    (source : String)
    (definition : Definition) :
    (definition.nameSource source).checkFieldNames =
      definition.checkFieldNames.mapError (ConstructionError.nameSource source) := by
  rw [checkFieldNames, repeatedField?, expressions, nameSource, Piece.expressionsOf_nameSources,
    firstRepeated_nameEntry, checkFieldNames, repeatedField?, expressions]
  cases firstRepeated [] (Piece.expressionsOf definition.pieces) <;> rfl

theorem checkPatterns_nameEntry
    (source name : String)
    (seen : List String)
    (patterns : List (String × Location)) :
    checkPatterns name seen (patterns.map (nameEntry source)) =
      (checkPatterns name seen patterns).mapError (ConstructionError.nameSource source) := by
  induction patterns generalizing seen with
  | nil => rfl
  | cons entry patterns inductionHypothesis =>
      rw [List.map_cons, nameEntry, checkPatterns, checkPatterns]
      cases firstGroupNameFault seen (Pattern.groupNames entry.1) with
      | error cause => rfl
      | ok later => exact inductionHypothesis later

theorem checkGroups_nameSource
    (source : String)
    (definition : Definition) :
    (definition.nameSource source).checkGroups =
      definition.checkGroups.mapError (ConstructionError.nameSource source) := by
  rw [checkGroups, patterns, nameSource, Piece.patternsOf_nameSources, checkPatterns_nameEntry]
  rfl

end Definition

namespace Piece

variable {dialect : Dialect} {definition : String}

mutual

theorem compile_nameSource
    (source : String)
    (first : Nat)
    (piece : Piece) :
    (piece.nameSource source).compile dialect definition first =
      (piece.compile dialect definition first).mapError (ConstructionError.nameSource source) := by
  cases piece with
  | text content location => rfl
  | pattern pattern location =>
      rw [nameSource, compile, compile]
      cases dialect.pattern pattern <;> rfl
  | expression name parts location =>
      rw [nameSource, compile, compile, compileAll_nameSources source (first + 1) parts,
        Except.mapError_bind]
      rfl

/-- Pieces compile to the same wherever they come from. -/
theorem compileAll_nameSources
    (source : String)
    (first : Nat)
    (pieces : List Piece) :
    compileAll dialect definition first (nameSources source pieces) =
      (compileAll dialect definition first pieces).mapError
        (ConstructionError.nameSource source) := by
  cases pieces with
  | nil => rfl
  | cons piece pieces =>
      rw [nameSources, compileAll, compileAll, compile_nameSource source first piece,
        Except.mapError_bind]
      congr 1
      funext front
      rw [compileAll_nameSources source _ pieces, Except.mapError_bind]
      rfl

end

end Piece

/-- Naming the source of a definition keeps its name, and the names, texts and patterns of its
pieces with their order and shape.  Of its locations, at any depth, it changes those without a
source, and in these nothing but the source.  Naming another source then changes nothing.  In any
dialect the definition compiles to the same as before, or fails with the same error, whose location
gets the source too if it has none. -/
theorem Definition.nameSource_keeps
    (definition : Definition)
    (source : String) :
    (definition.nameSource source).name = definition.name ∧
    (definition.nameSource source).marks = definition.marks ∧
    List.Forall₂
      (fun before after : Location =>
        after =
          if before.source.isSome then before else ⟨some source, before.line, before.column⟩)
      definition.locations (definition.nameSource source).locations ∧
    (∀ other, (definition.nameSource source).nameSource other = definition.nameSource source) ∧
    ∀ dialect : Dialect,
      (definition.nameSource source).compile dialect =
        (definition.compile dialect).mapError (ConstructionError.nameSource source) := by
  refine ⟨rfl, Piece.marksOf_nameSources source definition.pieces, ?_, fun other => ?_,
    fun dialect => ?_⟩
  · rw [locations_nameSource, List.forall₂_map_right_iff]
    exact List.forall₂_same.mpr fun location _ => location.nameSource_eq_ite source
  · simp only [nameSource, Piece.nameSources_nameSources, Location.nameSource_nameSource]
  · rw [compile, checkFieldNames_nameSource, checkGroups_nameSource, compile, Except.mapError_bind]
    congr 1
    funext _
    rw [Except.mapError_bind]
    congr 1
    funext _
    exact Piece.compileAll_nameSources source 0 definition.pieces

end LineExtraction

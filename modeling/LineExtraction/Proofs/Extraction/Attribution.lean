import LineExtraction.Extraction.Extractor
import LineExtraction.Proofs.Catalogue.Sources
import LineExtraction.Proofs.Decoding.NumberSizes
import LineExtraction.Proofs.Extraction.Construction

/-!
# What construction errors are about

Whichever step of a construction fails, its error is about one definition of the list: it has
the name of that definition, and its location is that of the definition itself, or of one of
the expressions or patterns in it.  Only the discriminator, which is built from all of them,
can fail without a definition to blame.
-/

namespace LineExtraction

/-! ## Definitions to blame -/

/-- An error is about a definition or about something in it. -/
inductive ConstructionError.Concerns (definition : Definition) : ConstructionError → Prop
  | pattern
      {pattern : String}
      {location : Location}
      (member : (pattern, location) ∈ definition.patterns)
      (cause : String) :
      Concerns definition (.invalidPattern definition.name pattern location cause)
  | field
      {field : String}
      {location : Location}
      (member : (field, location) ∈ definition.expressions) :
      Concerns definition (.duplicateField definition.name field location)
  | name
      (firstIndex : Nat) :
      Concerns definition (.duplicateDefinition definition.name firstIndex definition.location)
  | composition
      (index : Nat)
      (pattern cause : String) :
      Concerns definition (Dialect.compositionError index pattern definition cause)

namespace ConstructionError.Concerns

variable {definition : Definition} {error : ConstructionError}

theorem definition?_eq
    (concerns : error.Concerns definition) :
    error.definition? = some definition.name := by
  cases concerns <;> rfl

/-- The error is located where the definition can be wrong. -/
theorem exists_location?_eq
    (concerns : error.Concerns definition) :
    ∃ place ∈ definition.places, error.location? = some place := by
  have inside {entry : String × Location}
      (member : entry ∈ definition.expressions ++ definition.patterns) :
      entry.2 ∈ definition.places :=
    List.mem_cons_of_mem _ (List.mem_map_of_mem member)
  cases concerns with
  | pattern member cause => exact ⟨_, inside (List.mem_append_right _ member), rfl⟩
  | field member => exact ⟨_, inside (List.mem_append_left _ member), rfl⟩
  | name firstIndex => exact ⟨_, List.mem_cons_self, rfl⟩
  | composition index pattern cause => exact ⟨_, List.mem_cons_self, rfl⟩

end ConstructionError.Concerns

/-- An error is about one of a list of definitions. -/
def ConstructionError.ConcernsOneOf
    (definitions : List Definition)
    (error : ConstructionError) : Prop :=
  ∃ (index : Nat) (definition : Definition),
    definitions[index]? = some definition ∧ error.Concerns definition

/-- An error refuses one of the patterns of a definition. -/
def ConstructionError.Refuses
    (definition : String)
    (patterns : List (String × Location))
    (error : ConstructionError) : Prop :=
  ∃ entry ∈ patterns, ∃ cause, error = .invalidPattern definition entry.1 entry.2 cause

theorem ConstructionError.Refuses.mono
    {definition : String}
    {patterns others : List (String × Location)}
    {error : ConstructionError}
    (refuses : error.Refuses definition patterns)
    (included : patterns ⊆ others) :
    error.Refuses definition others := by
  obtain ⟨entry, member, cause, same⟩ := refuses
  exact ⟨entry, included member, cause, same⟩

theorem ConstructionError.Refuses.concerns
    {definition : Definition}
    {error : ConstructionError}
    (refuses : error.Refuses definition.name definition.patterns) :
    error.Concerns definition := by
  obtain ⟨entry, member, cause, rfl⟩ := refuses
  exact .pattern member cause

/-! ## Compiling one definition -/

namespace Definition

theorem mem_of_firstRepeated
    {seen : List String}
    {entries : List (String × Location)}
    {entry : String × Location}
    (found : firstRepeated seen entries = some entry) :
    entry ∈ entries := by
  induction entries generalizing seen with
  | nil => cases found
  | cons first entries inductionHypothesis =>
      rw [firstRepeated] at found
      split at found
      · obtain rfl := Option.some.inj found
        exact List.mem_cons_self
      · exact List.mem_cons_of_mem _ (inductionHypothesis found)

theorem concerns_of_checkFieldNames
    {definition : Definition}
    {error : ConstructionError}
    (failed : definition.checkFieldNames = .error error) :
    error.Concerns definition := by
  rw [checkFieldNames] at failed
  split at failed
  · next field location found =>
      obtain rfl := Except.error.inj failed
      exact .field (mem_of_firstRepeated found)
  · cases failed

theorem refuses_of_checkPatterns
    {name : String}
    {seen : List String}
    {patterns : List (String × Location)}
    {error : ConstructionError}
    (failed : checkPatterns name seen patterns = .error error) :
    error.Refuses name patterns := by
  induction patterns generalizing seen with
  | nil => cases failed
  | cons entry patterns inductionHypothesis =>
      rw [checkPatterns] at failed
      split at failed
      · next cause found =>
          obtain rfl := Except.error.inj failed
          exact ⟨entry, List.mem_cons_self, cause, rfl⟩
      · exact (inductionHypothesis failed).mono (List.subset_cons_self _ _)

end Definition

namespace Piece

mutual

/-- A piece is not compiled only because of a pattern in it. -/
theorem refuses_of_compile
    {dialect : Dialect}
    {name : String}
    {ordinal : Nat}
    {piece : Piece}
    {error : ConstructionError}
    (failed : piece.compile dialect name ordinal = .error error) :
    error.Refuses name piece.patterns := by
  cases piece with
  | text text location =>
      rw [compile] at failed
      cases failed
  | pattern source location =>
      rw [compile] at failed
      split at failed
      · next cause refused =>
          obtain rfl := Except.error.inj failed
          exact ⟨(source, location), List.mem_cons_self, cause, rfl⟩
      · cases failed
  | expression field parts location =>
      rw [compile] at failed
      rcases Except.bind_eq_error_iff.mp failed with failed | ⟨inner, -, failed⟩
      · rw [patterns]
        exact refuses_of_compileAll failed
      · cases failed

theorem refuses_of_compileAll
    {dialect : Dialect}
    {name : String}
    {ordinal : Nat}
    {pieces : List Piece}
    {error : ConstructionError}
    (failed : compileAll dialect name ordinal pieces = .error error) :
    error.Refuses name (patternsOf pieces) := by
  cases pieces with
  | nil => cases failed
  | cons piece pieces =>
      rw [compileAll] at failed
      rw [patternsOf]
      rcases Except.bind_eq_error_iff.mp failed with failed | ⟨front, -, failed⟩
      · exact (refuses_of_compile failed).mono (List.subset_append_left _ _)
      · rcases Except.bind_eq_error_iff.mp failed with failed | ⟨back, -, failed⟩
        · exact (refuses_of_compileAll failed).mono (List.subset_append_right _ _)
        · cases failed

end

end Piece

theorem Definition.concerns_of_compile
    {dialect : Dialect}
    {definition : Definition}
    {error : ConstructionError}
    (failed : definition.compile dialect = .error error) :
    error.Concerns definition := by
  rw [compile] at failed
  rcases Except.bind_eq_error_iff.mp failed with failed | ⟨-, -, failed⟩
  · exact concerns_of_checkFieldNames failed
  · rcases Except.bind_eq_error_iff.mp failed with failed | ⟨-, -, failed⟩
    · exact (refuses_of_checkPatterns failed).concerns
    · exact (Piece.refuses_of_compileAll failed).concerns

/-- What both engines do with a finished pattern fails only for the definition as a whole. -/
theorem Options.concerns_of_finish
    {options : Options}
    {index : Nat}
    {pattern : String}
    {definition : Definition}
    {error : ConstructionError}
    (failed : options.dialect.finish index pattern definition = .error error) :
    error.Concerns definition := by
  have unit {names : List (Option String)} {attempt : List Nat → Line → Attempt}
      (failed : Dialect.unitOf index pattern definition names attempt = .error error) :
      error.Concerns definition := by
    rw [Dialect.unitOf] at failed
    split at failed
    · obtain rfl := Except.error.inj failed
      exact .composition index pattern _
    · cases failed
  have composed {α : Type} {compiled : Except String α}
      (failed : compiled.mapError (Dialect.compositionError index pattern definition) =
        .error error) :
      error.Concerns definition := by
    obtain ⟨cause, -, rfl⟩ := Except.mapError_eq_error_iff.mp failed
    exact .composition index pattern cause
  rw [Options.dialect] at failed
  split at failed
  · rcases Except.bind_eq_error_iff.mp failed with failed | ⟨regex, -, failed⟩
    · exact composed failed
    · exact unit failed
  · rcases Except.bind_eq_error_iff.mp failed with failed | ⟨regex, -, failed⟩
    · exact composed failed
    · exact unit failed

namespace Extractor

theorem concerns_of_compileAt
    {options : Options}
    {index : Nat}
    {definition : Definition}
    {error : ConstructionError}
    (failed : compileAt options.dialect index definition = .error error) :
    error.Concerns definition := by
  rw [compileAt] at failed
  rcases Except.bind_eq_error_iff.mp failed with failed | ⟨compiled, -, failed⟩
  · exact Definition.concerns_of_compile failed
  · rcases Except.bind_eq_error_iff.mp failed with failed | ⟨unit, -, failed⟩
    · exact Options.concerns_of_finish failed
    · cases failed

/-! ## Compiling a list of definitions -/

theorem concernsOneOf_of_checkNames
    {before definitions : List Definition}
    {error : ConstructionError}
    (failed : checkNames before definitions = .error error) :
    error.ConcernsOneOf definitions := by
  induction definitions generalizing before with
  | nil => cases failed
  | cons definition definitions inductionHypothesis =>
      rw [checkNames] at failed
      split at failed
      · next first found =>
          obtain rfl := Except.error.inj failed
          exact ⟨0, definition, rfl, .name first⟩
      · obtain ⟨index, other, found, concerns⟩ := inductionHypothesis failed
        exact ⟨index + 1, other, found, concerns⟩

variable {options : Options} {error : ConstructionError}

theorem concernsOneOf_of_compileFrom
    {index : Nat}
    {definitions : List Definition}
    (failed : (compileFrom options.dialect index definitions).value = .error error) :
    error.ConcernsOneOf definitions := by
  induction definitions generalizing index with
  | nil => cases failed
  | cons definition definitions inductionHypothesis =>
      rw [compileFrom] at failed
      split at failed
      · next cause refused =>
          obtain rfl := Except.error.inj failed
          exact ⟨0, definition, rfl, concerns_of_compileAt refused⟩
      · cases others : (compileFrom options.dialect (index + 1) definitions).value with
        | error cause =>
            simp only [others] at failed
            obtain rfl := Except.error.inj failed
            obtain ⟨position, other, found, concerns⟩ := inductionHypothesis others
            exact ⟨position + 1, other, found, concerns⟩
        | ok rest =>
            simp only [others] at failed
            cases failed

/-- Compiling fails because of one of the definitions, whatever the schedule. -/
theorem concernsOneOf_of_compileIn
    {definitions : List Definition}
    {schedule : List Nat}
    (failed : (compileIn options.dialect definitions schedule).value = .error error) :
    error.ConcernsOneOf definitions := by
  induction schedule with
  | nil => cases failed
  | cons index schedule inductionHypothesis =>
      rw [compileIn] at failed
      split at failed
      · exact inductionHypothesis failed
      · next definition found =>
          split at failed
          · next cause refused =>
              obtain rfl := Except.error.inj failed
              exact ⟨index, definition, found, concerns_of_compileAt refused⟩
          · cases others : (compileIn options.dialect definitions schedule).value with
            | error cause =>
                simp only [others] at failed
                obtain rfl := Except.error.inj failed
                exact inductionHypothesis others
            | ok rest =>
                simp only [others] at failed
                cases failed

theorem exists_discriminator_of_assemble
    {dialect : Dialect}
    {builder : DiscriminatorBuilder}
    {compiled : List (String × ExtractionUnit)}
    (failed : (assemble dialect builder compiled).value = .error error) :
    ∃ cause, error = .discriminator cause := by
  rw [assemble, Logged.value_bind] at failed
  split at failed
  · next cause refused => exact ⟨cause, (Except.error.inj failed).symm⟩
  · cases failed

/-- A construction fails because of the discriminator or because of one of the definitions. -/
theorem concernsOneOf_of_construct
    {builder : DiscriminatorBuilder}
    {definitions : List Definition}
    (failed : (construct options.dialect builder definitions).value = .error error) :
    (∃ cause, error = .discriminator cause) ∨ error.ConcernsOneOf definitions := by
  rw [construct] at failed
  split at failed
  · next cause repeated =>
      obtain rfl := Except.error.inj failed
      exact .inr (concernsOneOf_of_checkNames repeated)
  · rw [Logged.value_bind] at failed
    split at failed
    · next cause refused =>
        obtain rfl := Except.error.inj failed
        exact .inr (concernsOneOf_of_compileFrom refused)
    · exact .inl (exists_discriminator_of_assemble failed)

/-- A construction in any order fails because of the same things. -/
theorem concernsOneOf_of_constructIn
    {builder : DiscriminatorBuilder}
    {definitions : List Definition}
    {schedule : List Nat}
    (failed : (constructIn options.dialect builder definitions schedule).value = .error error) :
    (∃ cause, error = .discriminator cause) ∨ error.ConcernsOneOf definitions := by
  rw [constructIn] at failed
  split at failed
  · next cause repeated =>
      obtain rfl := Except.error.inj failed
      exact .inr (concernsOneOf_of_checkNames repeated)
  · rw [Logged.value_bind] at failed
    split at failed
    · next cause refused =>
        obtain rfl := Except.error.inj failed
        exact .inr (concernsOneOf_of_compileIn refused)
    · exact .inl (exists_discriminator_of_assemble failed)

end Extractor

/-! ## Loaded files -/

namespace DefinitionFile

/-- All locations of a loaded file have a source, and an error of a construction of its
definitions, in one go or in any order, other than one of the discriminator, names a definition
of the file and a location in that definition: in the source that the file gave for it, or else
in the file itself. -/
theorem locates_errors_of_load
    {readText : String → Id (Except Files.FileError String)}
    {path : String}
    {file : DefinitionFile}
    (loaded : load readText path = .ok file) :
    (∀ location ∈ file.locations, location.source.isSome) ∧
    ∃ text parsed,
      readText path = .ok text ∧
      (DocumentFormat.ofPath path).read text = .ok parsed ∧
      file = parsed.nameSource path ∧
      ∀ error : ConstructionError,
        ((file.options.build file.definitions).value = .error error ∨
          ∃ schedule,
            (Extractor.constructIn file.options.dialect file.options.discriminatorBuilder
              file.definitions schedule).value = .error error) →
        (∀ cause, error ≠ .discriminator cause) →
        ∃ (index : Nat) (definition : Definition),
          parsed.definitions[index]? = some definition ∧
          error.definition? = some definition.name ∧
          ∃ place ∈ definition.places,
            error.location? = some ⟨some (place.source.getD path), place.line, place.column⟩ := by
  obtain ⟨text, parsed, found, read, rfl⟩ := exists_read_of_load loaded
  refine ⟨fun location member => isSome_source_of_mem_locations member, text, parsed, found, read,
    rfl, fun error failed attributable => ?_⟩
  have blamed : error.ConcernsOneOf (parsed.nameSource path).definitions := by
    have either : (∃ cause, error = .discriminator cause) ∨
        error.ConcernsOneOf (parsed.nameSource path).definitions := by
      rcases failed with failed | ⟨schedule, failed⟩
      · exact Extractor.concernsOneOf_of_construct failed
      · exact Extractor.concernsOneOf_of_constructIn failed
    exact either.resolve_left fun ⟨cause, same⟩ => attributable cause same
  obtain ⟨index, named, present, concerns⟩ := blamed
  rw [nameSource, List.getElem?_map, Option.map_eq_some_iff] at present
  obtain ⟨definition, present, rfl⟩ := present
  obtain ⟨named, member, located⟩ := concerns.exists_location?_eq
  rw [Definition.places_nameSource] at member
  obtain ⟨place, stands, rfl⟩ := List.mem_map.mp member
  rw [Location.nameSource_eq] at located
  exact ⟨index, definition, present, concerns.definition?_eq, place, stands, located⟩

/-- A file in which an expression has the name of the one around it. -/
def repeatedFieldFile : DefinitionFile where
  options := .default
  definitions :=
    [⟨"nested",
        [.expression "field"
          [.text "=" .unknown, .expression "field" [.pattern "[a-z]+" .unknown] ⟨none, 7, 5⟩]
          ⟨some "other.json", 7, 1⟩],
        ⟨none, 6, 1⟩⟩,
      ⟨"plain", [], .unknown⟩]

theorem locates_errors_of_load_repeatedFieldFile :
    ∃ file,
      load (m := Id) (fun _ => pure (.ok repeatedFieldFile.render)) "a.json" = .ok file ∧
      (∀ location ∈ file.locations, location.source.isSome) ∧
      (file.options.build file.definitions).value =
        .error (.duplicateField "nested" "field" ⟨some "a.json", 7, 5⟩) ∧
      ∃ definition ∈ repeatedFieldFile.definitions,
        definition.name = "nested" ∧
        ∃ place ∈ definition.places,
          place.source.getD "a.json" = "a.json" ∧ place.line = 7 ∧ place.column = 5 := by
  have plain : repeatedFieldFile.written.IsPlain := by
    simp [repeatedFieldFile, DefinitionFile.written, Options.written, Options.default,
      Definition.written, Piece.written, Piece.writtenAll, Location.written, Location.unknown,
      Json.Value.IsPlain, Json.Value.ArePlain, Json.Value.HasPlainEntries, Json.Value.ofOption,
      Decoding.isPlain_ofNat_iff, Json.maximalInteger]
  have shallow : repeatedFieldFile.written.depth < Json.nestLimit := by decide
  have loaded : load (m := Id) (fun _ => pure (.ok repeatedFieldFile.render)) "a.json" =
      .ok (repeatedFieldFile.nameSource "a.json") :=
    load_render ofPath_json rfl plain shallow
  have failed : ((repeatedFieldFile.nameSource "a.json").options.build
      (repeatedFieldFile.nameSource "a.json").definitions).value =
        .error (.duplicateField "nested" "field" ⟨some "a.json", 7, 5⟩) :=
    Except.eq_error_of_cause? (by decide)
  obtain ⟨named, text, parsed, given, parses, -, located⟩ := locates_errors_of_load loaded
  obtain rfl := Except.ok.inj given
  rw [ofPath_json, DocumentFormat.read, Json.readDefinitionFile_render plain shallow] at parses
  obtain rfl := Except.ok.inj parses
  obtain ⟨index, definition, present, sameName, place, stands, sameLocation⟩ :=
    located _ (.inl failed) (fun cause same => by cases same)
  obtain ⟨source, line, column⟩ := Location.mk.inj (Option.some.inj sameLocation)
  exact ⟨_, loaded, named, failed, definition, List.mem_of_getElem? present,
    (Option.some.inj sameName).symm, place, stands, (Option.some.inj source).symm, line.symm,
    column.symm⟩

end DefinitionFile
end LineExtraction

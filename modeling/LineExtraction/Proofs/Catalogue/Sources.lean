import LineExtraction.Catalogue.Load
import LineExtraction.Proofs.Decoding.WrittenFiles
import Mathlib.Data.String.Basic

/-!
# Where the parts of a file come from

All locations of a definition file, down to the innermost pieces.  Loading a file names the
source of every one of them and touches nothing else, so each of its definitions has the
expressions and patterns that it had, at the places where they were.
-/

namespace LineExtraction

/-! ## Texts that are split -/

/-- Splitting goes on from a word that has been begun. -/
theorem splitOnAux_singleton
    (separator : Char)
    (front word rest : List Char)
    (before : List String) :
    String.splitOnAux (.ofList (front ++ word ++ rest)) (.singleton separator)
        ⟨String.utf8Len front⟩ ⟨String.utf8Len (front ++ word)⟩ 0 before =
      before.reverse ++
        (List.splitOnPPrepend (· == separator) rest word.reverse).map String.ofList := by
  have single : (String.singleton separator) = .ofList ([] ++ [separator]) := rfl
  have given : (0 : String.Pos.Raw).get (.singleton separator) = separator := by
    rw [single]
    exact String.get_of_valid [] [separator]
  have passed : (0 : String.Pos.Raw).next (.singleton separator) = ⟨separator.utf8Size⟩ := by
    rw [single]
    simpa using String.next_of_valid [] separator []
  have ended : (⟨separator.utf8Size⟩ : String.Pos.Raw).atEnd (.singleton separator) := by
    have after := (String.atEnd_of_valid [separator] []).mpr rfl
    simpa using after
  have unmoved (position : String.Pos.Raw) : position.unoffsetBy 0 = position := rfl
  induction rest generalizing front word before with
  | nil =>
      have atEnd := (String.atEnd_of_valid (front ++ word) []).mpr rfl
      have extracted := String.extract_of_valid front word []
      rw [← String.utf8Len_append] at extracted
      rw [String.splitOnAux, if_pos atEnd, extracted]
      simp
  | cons first rest inductionHypothesis =>
      have atEnd : ¬ (⟨String.utf8Len (front ++ word)⟩ : String.Pos.Raw).atEnd
          (.ofList (front ++ word ++ first :: rest)) :=
        fun ended => List.cons_ne_nil _ _ ((String.atEnd_of_valid _ _).mp ended)
      have found := String.get_of_valid (front ++ word) (first :: rest)
      have moved := String.next_of_valid (front ++ word) first rest
      have extracted := String.extract_of_valid front word (first :: rest)
      rw [← String.utf8Len_append] at extracted
      rw [String.splitOnAux, if_neg atEnd, found, given, List.headD_cons,
        List.splitOnPPrepend_cons_eq_if]
      by_cases same : first = separator
      · subst same
        have back : (⟨String.utf8Len (front ++ word) + first.utf8Size⟩ :
            String.Pos.Raw).unoffsetBy ⟨first.utf8Size⟩ = ⟨String.utf8Len (front ++ word)⟩ := by
          simp [String.Pos.Raw.unoffsetBy]
        have later := inductionHypothesis (front ++ word ++ [first]) [] (.ofList word :: before)
        rw [if_pos (beq_self_eq_true first), if_pos (beq_self_eq_true first), moved, passed]
        dsimp only
        rw [if_pos ended, back, extracted]
        simpa [Nat.add_assoc, -String.ofList_append] using later
      · have later := inductionHypothesis front (word ++ [first]) before
        rw [if_neg (by simpa using same), if_neg (by simpa using same), unmoved, moved]
        simpa [Nat.add_assoc, -String.ofList_append] using later

/-- A text is split at a character. -/
theorem splitOn_singleton
    (separator : Char)
    (text : String) :
    text.splitOn (.singleton separator) =
      (text.toList.splitOn separator).map String.ofList := by
  have whole := splitOnAux_singleton separator [] [] text.toList []
  rw [String.splitOn, if_neg (by simp), List.splitOn_eq_splitOnP]
  rw [List.nil_append, List.nil_append, String.ofList_toList] at whole
  exact whole

/-! ## Locations -/

theorem Location.nameSource_eq
    (source : String)
    (location : Location) :
    location.nameSource source =
      ⟨some (location.source.getD source), location.line, location.column⟩ := by
  obtain ⟨own, line, column⟩ := location
  cases own <;> rfl

theorem Location.isSome_source_nameSource
    (source : String)
    (location : Location) :
    (location.nameSource source).source.isSome := by
  rw [nameSource_eq]
  rfl

/-- An entry with its location in a source. -/
def nameEntry (source : String) (entry : String × Location) : String × Location :=
  (entry.1, entry.2.nameSource source)

namespace Piece

mutual

/-- The locations of a piece and of everything in it. -/
def locations : Piece → List Location
  | text _ location => [location]
  | pattern _ location => [location]
  | expression _ parts location => location :: locationsOf parts

/-- The locations of pieces and of everything in them. -/
def locationsOf : List Piece → List Location
  | [] => []
  | piece :: pieces => piece.locations ++ locationsOf pieces

end

mutual

theorem locations_nameSource
    (source : String)
    (piece : Piece) :
    (piece.nameSource source).locations = piece.locations.map (Location.nameSource source) := by
  cases piece with
  | text text location => rfl
  | pattern pattern location => rfl
  | expression name parts location =>
      simp only [nameSource, locations, List.map_cons, locationsOf_nameSources source parts]

theorem locationsOf_nameSources
    (source : String)
    (pieces : List Piece) :
    locationsOf (nameSources source pieces) =
      (locationsOf pieces).map (Location.nameSource source) := by
  cases pieces with
  | nil => rfl
  | cons piece pieces =>
      simp only [nameSources, locationsOf, List.map_append, locations_nameSource source piece,
        locationsOf_nameSources source pieces]

end

mutual

theorem expressions_nameSource
    (source : String)
    (piece : Piece) :
    (piece.nameSource source).expressions = piece.expressions.map (nameEntry source) := by
  cases piece with
  | text text location => rfl
  | pattern pattern location => rfl
  | expression name parts location =>
      simp only [nameSource, expressions, List.map_cons, nameEntry,
        expressionsOf_nameSources source parts]

theorem expressionsOf_nameSources
    (source : String)
    (pieces : List Piece) :
    expressionsOf (nameSources source pieces) =
      (expressionsOf pieces).map (nameEntry source) := by
  cases pieces with
  | nil => rfl
  | cons piece pieces =>
      simp only [nameSources, expressionsOf, List.map_append, expressions_nameSource source piece,
        expressionsOf_nameSources source pieces]

end

mutual

theorem patterns_nameSource
    (source : String)
    (piece : Piece) :
    (piece.nameSource source).patterns = piece.patterns.map (nameEntry source) := by
  cases piece with
  | text text location => rfl
  | pattern pattern location => rfl
  | expression name parts location =>
      simp only [nameSource, patterns, patternsOf_nameSources source parts]

theorem patternsOf_nameSources
    (source : String)
    (pieces : List Piece) :
    patternsOf (nameSources source pieces) = (patternsOf pieces).map (nameEntry source) := by
  cases pieces with
  | nil => rfl
  | cons piece pieces =>
      simp only [nameSources, patternsOf, List.map_append, patterns_nameSource source piece,
        patternsOf_nameSources source pieces]

end

end Piece

namespace Definition

/-- The locations of a definition and of everything in it. -/
def locations (definition : Definition) : List Location :=
  definition.location :: Piece.locationsOf definition.pieces

/-- Where a definition can be wrong: the definition itself, its expressions and its patterns. -/
def places (definition : Definition) : List Location :=
  definition.location :: (definition.expressions ++ definition.patterns).map (·.2)

theorem locations_nameSource
    (source : String)
    (definition : Definition) :
    (definition.nameSource source).locations =
      definition.locations.map (Location.nameSource source) := by
  simp only [locations, nameSource, List.map_cons, Piece.locationsOf_nameSources]

theorem places_nameSource
    (source : String)
    (definition : Definition) :
    (definition.nameSource source).places =
      definition.places.map (Location.nameSource source) := by
  simp only [places, nameSource, expressions, patterns, Piece.expressionsOf_nameSources,
    Piece.patternsOf_nameSources, List.map_cons, ← List.map_append, List.map_map]
  rfl

end Definition

namespace DefinitionFile

/-- All locations in a definition file. -/
def locations (file : DefinitionFile) : List Location :=
  file.definitions.flatMap Definition.locations

/-- Every location of a file gets a source. -/
theorem isSome_source_of_mem_locations
    {source : String}
    {file : DefinitionFile}
    {location : Location}
    (member : location ∈ (file.nameSource source).locations) :
    location.source.isSome := by
  obtain ⟨named, present, member⟩ := List.mem_flatMap.mp member
  obtain ⟨definition, -, rfl⟩ := List.mem_map.mp present
  rw [Definition.locations_nameSource] at member
  obtain ⟨own, -, rfl⟩ := List.mem_map.mp member
  exact Location.isSome_source_nameSource source own

/-- A file that was loaded is what its text says, with its path for a source. -/
theorem exists_read_of_load
    {readText : String → Id (Except Files.FileError String)}
    {path : String}
    {file : DefinitionFile}
    (loaded : load readText path = .ok file) :
    ∃ text parsed,
      readText path = .ok text ∧
      (DocumentFormat.ofPath path).read text = .ok parsed ∧
      file = parsed.nameSource path := by
  change (match readText path with
    | .error error => Except.error (LoadError.unreadable path error)
    | .ok text => ofText path text) = _ at loaded
  cases found : readText path with
  | error error =>
      rw [found] at loaded
      cases loaded
  | ok text =>
      rw [found] at loaded
      change ofText path text = _ at loaded
      rw [ofText] at loaded
      cases parsed : (DocumentFormat.ofPath path).read text with
      | error error =>
          rw [parsed] at loaded
          cases loaded
      | ok own =>
          rw [parsed] at loaded
          exact ⟨text, own, rfl, parsed, (Except.ok.inj loaded).symm⟩

/-- A file that was written to a path for documents is loaded from there. -/
theorem load_render
    {readText : String → Id (Except Files.FileError String)}
    {path : String}
    (format : DocumentFormat.ofPath path = .json)
    {file : DefinitionFile}
    (found : readText path = .ok file.render)
    (plain : file.written.IsPlain)
    (shallow : file.written.depth < Json.nestLimit) :
    load readText path = .ok (file.nameSource path) := by
  change (match readText path with
    | .error error => Except.error (LoadError.unreadable path error)
    | .ok text => ofText path text) = _
  rw [found]
  dsimp only
  rw [ofText, format]
  simp only [DocumentFormat.read, Json.readDefinitionFile_render plain shallow]

/-- A path that ends in a dot and the name of the format is one for documents. -/
theorem ofPath_json : DocumentFormat.ofPath "a.json" = .json := by
  have slash : "a.json".splitOn "/" = ["a.json"] := splitOn_singleton '/' "a.json"
  have dot : "a.json".splitOn "." = ["a", "json"] := splitOn_singleton '.' "a.json"
  have named : (Files.Path.ofText "a.json").fileName? = some "a.json" := by
    simp [Files.Path.fileName?, Files.Path.steps, Files.Path.ofText, slash, Files.Component.ofText]
  have extension : (Files.Path.ofText "a.json").extension? = some "json" := by
    simp [Files.Path.extension?, named, Files.Path.extensionOf?, dot]
  have lower : "json".map Char.toLower = "json" := by
    rw [← String.toList_inj, String.toList_map]
    decide
  rw [DocumentFormat.ofPath, extension]
  exact if_pos lower

end DefinitionFile
end LineExtraction

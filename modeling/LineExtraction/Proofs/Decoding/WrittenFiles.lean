import LineExtraction.Catalogue.Written
import LineExtraction.Proofs.Decoding.Representation

/-!
# Reading what was written

Every part of a definition file is read back from content that shows its object: the
location, the piece at whatever depth, the definition, the options and the file as a whole.
Of the two formats that pieces are read from, the document and what was kept of it, neither
is mentioned here.
-/

namespace LineExtraction
namespace Decoding

open Json (Value)

variable {α σ : Type} [Format α]

/-! ## Structures -/

namespace StructSpec

/-- Reading the fields from one on, off content that shows the given values, turns the
structure read so far into another. -/
inductive Sets (spec : StructSpec α σ) : Nat → σ → List Value → σ → Prop
  | done
      {field : Nat}
      {value : σ} :
      Sets spec field value [] value
  | next
      {field : Nat}
      {value changed final : σ}
      {item : Value}
      {items : List Value}
      (read : ∀ content, Shows content item → spec.set field content value = pure changed)
      (others : Sets spec (field + 1) changed items final) :
      Sets spec field value (item :: items) final

variable {spec : StructSpec α σ}

omit [Format α] in
theorem fieldOf?_getElem
    (distinct : spec.fields.Nodup)
    {field : Nat}
    (known : field < spec.fields.length) :
    spec.fieldOf? (.name spec.fields[field]) = some field := by
  simp only [fieldOf?, distinct.idxOf_getElem field known, if_pos known]

/-- Fields that stand in their order are read one after the other. -/
theorem readKeyed_of_sets
    (distinct : spec.fields.Nodup)
    (required : ∀ field ∈ spec.required, field < spec.fields.length)
    {seen : List Nat}
    {field : Nat}
    (before : ∀ other, other ∈ seen ↔ other < field)
    {value final : σ}
    {items : List Value}
    (complete : field + items.length = spec.fields.length)
    (sets : spec.Sets field value items final)
    {parts : Stream (α × α)}
    (shown : ShowsEntries parts ((spec.fields.drop field).zip items)) :
    spec.readKeyed seen value parts = pure final := by
  induction sets generalizing seen parts with
  | @done field value =>
      rw [List.zip_nil_right] at shown
      cases shown
      have present : spec.required.find? (· ∉ seen) = none := by
        rw [List.find?_eq_none]
        intro other member
        have less : other < field := Nat.lt_of_lt_of_eq (required other member) complete.symm
        simpa [before] using less
      rw [readKeyed, present]
  | @next field value changed final item items read others inductionHypothesis =>
      rw [List.length_cons] at complete
      have known : field < spec.fields.length := by omega
      rw [List.drop_eq_getElem_cons known, List.zip_cons_cons] at shown
      cases shown with
      | next named first shown =>
          have fresh : field ∉ seen := fun member => absurd ((before field).mp member) (by omega)
          cases named with
          | text kept present text identified resolved =>
              rw [readKeyed, identified, pure_bind]
              simp only [fieldOf?_getElem distinct known, if_neg fresh, read _ first, pure_bind]
              refine inductionHypothesis (fun other => ?_) (by omega) shown
              rw [List.mem_cons, before]
              omega

/-- A structure is read from an object with all its fields in their order. -/
theorem read_of_sets
    (distinct : spec.fields.Nodup)
    (required : ∀ field ∈ spec.required, field < spec.fields.length)
    {final : σ}
    {items : List Value}
    (complete : items.length = spec.fields.length)
    {content : α}
    (shown : Shows content (.map (spec.fields.zip items)))
    (sets : spec.Sets 0 spec.start items final) :
    spec.read content = pure final := by
  cases shown with
  | map kept read any shown =>
      rw [StructSpec.read, read, pure_bind]
      exact readKeyed_of_sets distinct required (fun other => by simp)
        (by rw [Nat.zero_add, complete]) sets shown

end StructSpec

theorem readOptional_of_shows
    {β : Type}
    {toValue : β → Value}
    {read : α → Decode β}
    {content : α}
    {value : Option β}
    (shown : Shows content (.ofOption toValue value))
    (reads : ∀ found, Shows content (toValue found) →
      Format.optional content = pure (some content) ∧ read content = pure found) :
    readOptional read content = pure value := by
  cases value with
  | none =>
      cases shown with
      | null kept absent => rw [readOptional, absent, pure_bind]
  | some found =>
      obtain ⟨present, read⟩ := reads found shown
      simp only [readOptional, present, pure_bind, read]

theorem text_of_shows
    {content : α}
    {text : String}
    (shown : Shows content (.text text)) :
    Format.optional content = pure (some content) ∧ Format.text content = pure text := by
  cases shown with
  | text kept present read => exact ⟨present, read⟩

theorem natural_of_shows
    {content : α}
    {number : Nat}
    (shown : Shows content (.ofNat number)) :
    Format.optional content = pure (some content) ∧ Format.natural content = pure number := by
  cases shown with
  | natural kept present read => exact ⟨present, read⟩

theorem readOptional_natural_of_shows
    {content : α}
    {number : Option Nat}
    (shown : Shows content (.ofOption .ofNat number)) :
    readOptional Format.natural content = pure number :=
  readOptional_of_shows shown fun _ => natural_of_shows

theorem mapM_of_shows
    {β : Type}
    {read : α → Decode β}
    {toValue : β → Value}
    {elements : List β}
    {parts : Stream α}
    (shown : ShowsItems parts (elements.map toValue))
    (reads : ∀ element ∈ elements, ∀ content, Shows content (toValue element) →
      read content = pure element) :
    parts.mapM read = pure elements := by
  induction elements generalizing parts with
  | nil =>
      cases shown
      rfl
  | cons element elements inductionHypothesis =>
      obtain ⟨firstReads, othersRead⟩ := List.forall_mem_cons.mp reads
      cases shown with
      | next first others =>
          simp only [Stream.mapM, firstReads _ first, pure_bind,
            inductionHypothesis others othersRead]

/-- A list is read item by item. -/
theorem readList_of_shows
    {β : Type}
    {read : α → Decode β}
    {toValue : β → Value}
    {elements : List β}
    {content : α}
    (shown : Shows content (.list (elements.map toValue)))
    (reads : ∀ element ∈ elements, ∀ content, Shows content (toValue element) →
      read content = pure element) :
    ∃ parts, Format.list content = pure parts ∧ parts.mapM read = pure elements := by
  cases shown with
  | list kept given shown => exact ⟨_, given, mapM_of_shows shown reads⟩

/-! ## Locations -/

theorem readLocation_of_shows
    {location : Location}
    {content : α}
    (shown : Shows content location.written) :
    readLocation content = pure location := by
  obtain ⟨source, line, column⟩ := location
  have first (content : α) (shown : Shows content (.ofOption .text source)) :
      locationSpec.set 0 content .unknown = pure ⟨source, 0, 0⟩ := by
    have read := readOptional_of_shows shown fun _ => text_of_shows
    simp only [locationSpec, read, pure_bind, Location.unknown]
  have second (content : α) (shown : Shows content (.ofNat line)) :
      locationSpec.set 1 content ⟨source, 0, 0⟩ = pure ⟨source, line, 0⟩ := by
    simp only [locationSpec, (natural_of_shows shown).2, pure_bind]
  have third (content : α) (shown : Shows content (.ofNat column)) :
      locationSpec.set 2 content ⟨source, line, 0⟩ = pure ⟨source, line, column⟩ := by
    simp only [locationSpec, (natural_of_shows shown).2, pure_bind]
  have fields : Shows content (.map (["source", "line", "column"].zip
      [.ofOption .text source, .ofNat line, .ofNat column])) := shown
  exact StructSpec.read_of_sets (by simp [locationSpec]) (by simp [locationSpec]) rfl fields
    (.next first (.next second (.next third .done)))

/-! ## Pieces -/

/-- The type of a piece. -/
def typeOf : Piece → PieceType
  | .text _ _ => .text
  | .pattern _ _ => .pattern
  | .expression _ _ _ => .expression

/-- The name of the type of a piece. -/
def PieceType.name : PieceType → String
  | text => "text"
  | pattern => "pattern"
  | expression => "expression"

/-- The entries of the object of a piece behind its type. -/
def fieldsOf : Piece → List (String × Value)
  | .text text location => [("text", .text text), ("location", location.written)]
  | .pattern pattern location => [("pattern", .text pattern), ("location", location.written)]
  | .expression name parts location =>
    [("name", .text name), ("parts", .list (Piece.writtenAll parts)),
      ("location", location.written)]

theorem written_eq
    (piece : Piece) :
    piece.written = .map (("type", .text (typeOf piece).name) :: fieldsOf piece) := by
  cases piece <;> rfl

theorem readPieceType_of_shows
    {type : PieceType}
    {content : α}
    (shown : Shows content (.text type.name)) :
    readPieceType content = pure type := by
  cases shown with
  | text kept present read identified resolved =>
      rw [readPieceType, identified, pure_bind]
      cases type <;> rfl

/-- Behind the type of a piece all entries are kept. -/
theorem readTypedEntries_of_shows
    {type : PieceType}
    {kept : List (Datum × Datum)}
    {parts : Stream (α × α)}
    {entries : List (String × Value)}
    (shown : ShowsEntries parts entries)
    (untyped : ∀ entry ∈ entries, entry.1 ≠ typeField) :
    readTypedEntries (some type) kept parts =
      pure ⟨type, .map (kept.reverse ++ Value.keepEntries entries)⟩ := by
  induction entries generalizing kept parts with
  | nil =>
      cases shown
      rw [Value.keepEntries, List.append_nil]
      rfl
  | cons entry entries inductionHypothesis =>
      cases shown with
      | @next key content tail name value _ named first others =>
          obtain ⟨apart, otherwise⟩ := List.forall_mem_cons.mp untyped
          have noType : isTypeKey (.text name) = false := decide_eq_false apart
          rw [readTypedEntries, named.keep_eq, pure_bind]
          simp only [Value.keep, noType, first.keep_eq, pure_bind]
          simp [inductionHypothesis others otherwise, Value.keepEntries]

theorem readTypedContent_of_shows
    {piece : Piece}
    {content : α}
    (shown : Shows content piece.written) :
    readTypedContent content = pure ⟨typeOf piece, .map (Value.keepEntries (fieldsOf piece))⟩ := by
  rw [written_eq] at shown
  cases shown with
  | map kept read any shown =>
      cases shown with
      | next named first others =>
          have untyped : ∀ entry ∈ fieldsOf piece, entry.1 ≠ typeField := by
            cases piece <;> simp [fieldsOf, typeField]
          have isType : isTypeKey (Value.keep (.text "type")) = true := rfl
          rw [readTypedContent, any, pure_bind]
          simp only [readTypedEntries, named.keep_eq, pure_bind, isType,
            readPieceType_of_shows first, readTypedEntries_of_shows others untyped]
          rfl

/-- A piece without parts is read back. -/
theorem readLeaf_of_shows
    {expected field : String}
    (apart : field ≠ "location")
    {content : Buffered}
    {text : String}
    {location : Location}
    (shown : Shows content (.map [(field, .text text), ("location", location.written)])) :
    StructSpec.read { textSpec with expected, fields := [field, "location"] } content =
      pure (text, location) := by
  have first (content : Buffered) (shown : Shows content (.text text)) :
      textSpec.set 0 content ("", .unknown) = pure (text, .unknown) := by
    simp only [textSpec, (text_of_shows shown).2, pure_bind]
  have second (content : Buffered) (shown : Shows content location.written) :
      textSpec.set 1 content (text, .unknown) = pure (text, location) := by
    simp only [textSpec, readLocation_of_shows shown, pure_bind]
  have fields : Shows content (.map ([field, "location"].zip [.text text, location.written])) :=
    shown
  exact StructSpec.read_of_sets (by simp [apart]) (by simp [textSpec]) rfl fields
    (.next first (.next second .done))

/-- The fields of a piece are read back, if its parts are. -/
theorem readTyped_of_shows
    {readPart : Buffered → Decode Piece}
    {piece : Piece}
    {content : Buffered}
    (shown : Shows content (.map (fieldsOf piece)))
    (reads : ∀ name parts location, piece = .expression name parts location →
      ∀ part ∈ parts, ∀ content, Shows content part.written → readPart content = pure part) :
    readTyped readPart (typeOf piece) content = pure piece := by
  cases piece with
  | text text location =>
      have read : textSpec.read content = pure (text, location) :=
        readLeaf_of_shows (by decide) shown
      simp only [readTyped, typeOf, read, pure_bind]
  | pattern pattern location =>
      have read : patternSpec.read content = pure (pattern, location) :=
        readLeaf_of_shows (by decide) shown
      simp only [readTyped, typeOf, read, pure_bind]
  | expression name parts location =>
      have first (content : Buffered) (shown : Shows content (.text name)) :
          (expressionSpec readPart).set 0 content ⟨"", [], .unknown⟩ =
            pure ⟨name, [], .unknown⟩ := by
        simp only [expressionSpec, (text_of_shows shown).2, pure_bind]
      have second (content : Buffered) (shown : Shows content (.list (Piece.writtenAll parts))) :
          (expressionSpec readPart).set 1 content ⟨name, [], .unknown⟩ =
            pure ⟨name, parts, .unknown⟩ := by
        rw [Piece.writtenAll_eq_map] at shown
        obtain ⟨given, listed, mapped⟩ := readList_of_shows shown (reads name parts location rfl)
        simp only [expressionSpec, listed, pure_bind, mapped]
      have third (content : Buffered) (shown : Shows content location.written) :
          (expressionSpec readPart).set 2 content ⟨name, parts, .unknown⟩ =
            pure ⟨name, parts, location⟩ := by
        simp only [expressionSpec, readLocation_of_shows shown, pure_bind]
      have fields : Shows content (.map (["name", "parts", "location"].zip
          [.text name, .list (Piece.writtenAll parts), location.written])) := shown
      have read : (expressionSpec readPart).read content = pure ⟨name, parts, location⟩ :=
        StructSpec.read_of_sets (by simp [expressionSpec]) (by simp [expressionSpec]) rfl fields
          (.next first (.next second (.next third .done)))
      simp only [readTyped, typeOf, read, pure_bind]

theorem depth_le_of_mem
    {parts : List Piece}
    {part : Piece}
    (member : part ∈ parts) :
    part.written.keep.depth ≤ depthOfItems (Value.keepItems (Piece.writtenAll parts)) := by
  induction parts with
  | nil => cases member
  | cons first parts inductionHypothesis =>
      rw [Piece.writtenAll, Value.keepItems, depthOfItems]
      rcases List.mem_cons.mp member with rfl | later
      · exact Nat.le_max_left _ _
      · exact Nat.le_trans (inductionHypothesis later) (Nat.le_max_right _ _)

/-- The type of a piece adds nothing to its depth. -/
theorem depth_keep_written
    (piece : Piece) :
    piece.written.keep.depth = (Datum.map (Value.keepEntries (fieldsOf piece))).depth := by
  simp only [written_eq, Value.keep, Value.keepEntries, Datum.depth, depthOfEntries]
  grind

/-- What is kept of a piece is deeper than what is kept of its parts. -/
theorem depth_lt_of_mem_parts
    (name : String)
    {parts : List Piece}
    (location : Location)
    {part : Piece}
    (member : part ∈ parts) :
    part.written.keep.depth <
      (Datum.map (Value.keepEntries (fieldsOf (.expression name parts location)))).depth := by
  have inside := depth_le_of_mem member
  simp only [fieldsOf, Value.keepEntries, Value.keep, Datum.depth, depthOfEntries]
  grind

/-- The parts of a plain expression are plain. -/
theorem isPlain_of_mem_parts
    {name : String}
    {parts : List Piece}
    {location : Location}
    (plain : (Piece.expression name parts location).written.IsPlain)
    {part : Piece}
    (member : part ∈ parts) :
    part.written.IsPlain := by
  obtain ⟨-, -, listed, -⟩ := plain
  rw [Piece.writtenAll_eq_map] at listed
  exact Value.isPlain_of_mem listed _ (List.mem_map_of_mem member)

theorem hasPlainEntries_fieldsOf
    {piece : Piece}
    (plain : piece.written.IsPlain) :
    (Value.map (fieldsOf piece)).IsPlain := by
  rw [written_eq] at plain
  exact plain.2

/-- A kept piece is read back with fuel for its depth. -/
theorem readKeptPiece_of_shows
    {piece : Piece}
    (plain : piece.written.IsPlain)
    {fuel : Nat}
    (enough : piece.written.keep.depth ≤ fuel)
    {content : Buffered}
    (shown : Shows content piece.written) :
    readKeptPiece fuel content = pure piece := by
  induction fuel generalizing piece content with
  | zero =>
      rw [written_eq] at enough
      exact absurd enough (Nat.not_succ_le_zero _)
  | succ fuel inductionHypothesis =>
      rw [readKeptPiece, readTypedContent_of_shows shown, pure_bind]
      refine readTyped_of_shows (shows_keep _ (hasPlainEntries_fieldsOf plain) _) ?_
      rintro name parts location rfl part member content shown
      refine inductionHypothesis (isPlain_of_mem_parts plain member) ?_ shown
      have less := depth_lt_of_mem_parts name location member
      rw [← depth_keep_written] at less
      exact Nat.le_of_lt_succ (Nat.lt_of_lt_of_le less enough)

/-- A piece is read back. -/
theorem readPiece_of_shows
    {piece : Piece}
    (plain : piece.written.IsPlain)
    {content : α}
    (shown : Shows content piece.written) :
    readPiece content = pure piece := by
  rw [readPiece, readTypedContent_of_shows shown, pure_bind]
  refine readTyped_of_shows (shows_keep _ (hasPlainEntries_fieldsOf plain) _) ?_
  rintro name parts location rfl part member content shown
  exact readKeptPiece_of_shows (isPlain_of_mem_parts plain member)
    (Nat.le_of_lt (depth_lt_of_mem_parts name location member)) shown

/-! ## Definitions, options and files -/

theorem readDefinition_of_shows
    {definition : Definition}
    (plain : definition.written.IsPlain)
    {content : α}
    (shown : Shows content definition.written) :
    readDefinition content = pure definition := by
  obtain ⟨name, pieces, location⟩ := definition
  obtain ⟨-, listed, -⟩ := plain
  have first (content : α) (shown : Shows content (.text name)) :
      definitionSpec.set 0 content ⟨"", [], .unknown⟩ = pure ⟨name, [], .unknown⟩ := by
    simp only [definitionSpec, (text_of_shows shown).2, pure_bind]
  have second (content : α) (shown : Shows content (.list (pieces.map Piece.written))) :
      definitionSpec.set 1 content ⟨name, [], .unknown⟩ = pure ⟨name, pieces, .unknown⟩ := by
    obtain ⟨parts, given, mapped⟩ := readList_of_shows shown fun piece member _ =>
      readPiece_of_shows (Value.isPlain_of_mem listed _ (List.mem_map_of_mem member))
    simp only [definitionSpec, given, pure_bind, mapped]
  have third (content : α) (shown : Shows content location.written) :
      definitionSpec.set 2 content ⟨name, pieces, .unknown⟩ = pure ⟨name, pieces, location⟩ := by
    simp only [definitionSpec, readLocation_of_shows shown, pure_bind]
  have fields : Shows content (.map (["name", "pieces", "location"].zip
      [.text name, .list (pieces.map Piece.written), location.written])) := shown
  exact StructSpec.read_of_sets (by simp [definitionSpec]) (by simp [definitionSpec]) rfl fields
    (.next first (.next second (.next third .done)))

theorem readOptions_of_shows
    {options : Options}
    {content : α}
    (shown : Shows content options.written) :
    readOptions content = pure options := by
  obtain ⟨backend, sizeLimit, dfaSizeLimit, backtrackLimit, parallel⟩ := options
  have first (content : α) (shown : Shows content (.text backend.name)) :
      optionsSpec.set 0 content .default = pure ⟨backend, none, none, none, false⟩ := by
    cases shown with
    | text kept present read identified resolved =>
        simp only [optionsSpec, resolved]
        cases backend <;> rfl
  have second (content : α) (shown : Shows content (.ofOption .ofNat sizeLimit)) :
      optionsSpec.set 1 content ⟨backend, none, none, none, false⟩ =
        pure ⟨backend, sizeLimit, none, none, false⟩ := by
    simp only [optionsSpec, readOptional_natural_of_shows shown, pure_bind]
  have third (content : α) (shown : Shows content (.ofOption .ofNat dfaSizeLimit)) :
      optionsSpec.set 2 content ⟨backend, sizeLimit, none, none, false⟩ =
        pure ⟨backend, sizeLimit, dfaSizeLimit, none, false⟩ := by
    simp only [optionsSpec, readOptional_natural_of_shows shown, pure_bind]
  have fourth (content : α) (shown : Shows content (.ofOption .ofNat backtrackLimit)) :
      optionsSpec.set 3 content ⟨backend, sizeLimit, dfaSizeLimit, none, false⟩ =
        pure ⟨backend, sizeLimit, dfaSizeLimit, backtrackLimit, false⟩ := by
    simp only [optionsSpec, readOptional_natural_of_shows shown, pure_bind]
  have fifth (content : α) (shown : Shows content (.bool parallel)) :
      optionsSpec.set 4 content ⟨backend, sizeLimit, dfaSizeLimit, backtrackLimit, false⟩ =
        pure ⟨backend, sizeLimit, dfaSizeLimit, backtrackLimit, parallel⟩ := by
    cases shown with
    | bool kept read => simp only [optionsSpec, read, pure_bind]
  have fields : Shows content (.map
      (["backend", "size_limit", "dfa_size_limit", "backtrack_limit", "parallel"].zip
        [.text backend.name, .ofOption .ofNat sizeLimit, .ofOption .ofNat dfaSizeLimit,
          .ofOption .ofNat backtrackLimit, .bool parallel])) := shown
  exact StructSpec.read_of_sets (by simp [optionsSpec]) (by simp [optionsSpec]) rfl fields
    (.next first (.next second (.next third (.next fourth (.next fifth .done)))))

/-- A definition file is read back. -/
theorem readFile_of_shows
    {file : DefinitionFile}
    (plain : file.written.IsPlain)
    {content : α}
    (shown : Shows content file.written) :
    readFile content = pure file := by
  obtain ⟨options, definitions⟩ := file
  obtain ⟨-, listed, -⟩ := plain
  have first (content : α) (shown : Shows content options.written) :
      fileSpec.set 0 content .empty = pure ⟨options, []⟩ := by
    simp only [fileSpec, readOptions_of_shows shown, pure_bind]
    rfl
  have second (content : α) (shown : Shows content (.list (definitions.map Definition.written))) :
      fileSpec.set 1 content ⟨options, []⟩ = pure ⟨options, definitions⟩ := by
    obtain ⟨parts, given, mapped⟩ := readList_of_shows shown fun definition member _ =>
      readDefinition_of_shows (Value.isPlain_of_mem listed _ (List.mem_map_of_mem member))
    simp only [fileSpec, readDefinitions, given, pure_bind, mapped]
  have fields : Shows content (.map (["options", "extractions"].zip
      [options.written, .list (definitions.map Definition.written)])) := shown
  exact StructSpec.read_of_sets (by simp [fileSpec]) (by simp [fileSpec]) rfl fields
    (.next first (.next second .done))

end Decoding

/-- The text of a definition file is read as that file. -/
theorem Json.readDefinitionFile_render
    {file : DefinitionFile}
    (plain : file.written.IsPlain)
    (shallow : file.written.depth < nestLimit) :
    readDefinitionFile file.render = .ok file := by
  have read := Decoding.readFile_of_shows plain (Decoding.shows_ofValue _ plain shallow)
  rw [readDefinitionFile, DefinitionFile.render, readDocument_render plain]
  simp only [read]
  rfl

end LineExtraction

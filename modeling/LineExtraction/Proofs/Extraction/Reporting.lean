import LineExtraction.Proofs.Extraction.Geometry

/-!
# Which fields are reported

A record names fields of its definition in their order and each at most once, so its
fields can be looked up from either end.  Every field is named unless the group of its
expression takes no part in the match, and such a group is not the one that was opened
for the expression: a pattern has claimed its name, or has closed what encloses it.
-/

namespace LineExtraction

open Linear Piece

/-! ## Looking fields up -/

theorem FieldMap.lookup_cons
    (name value : String)
    (map : FieldMap)
    (key : String) :
    List.lookup key ((name, value) :: map) =
      if key = name then some value else map.lookup key := by
  by_cases asked : key = name
  · subst asked
    simp
  · simp [List.lookup_cons, asked, beq_eq_false_iff_ne.mpr asked]

/-- A text that is put at a name is found there, and all others stay where they are. -/
theorem FieldMap.lookup_insert
    (name value : String)
    (map : FieldMap)
    (key : String) :
    (insert name value map).lookup key = if key = name then some value else map.lookup key := by
  induction map with
  | nil => exact lookup_cons name value [] key
  | cons entry map inductionHypothesis =>
      obtain ⟨other, old⟩ := entry
      rw [insert]
      split
      · next same =>
          subst same
          rw [lookup_cons, lookup_cons]
          split <;> rfl
      · next different =>
          split
          · exact lookup_cons name value _ key
          · rw [lookup_cons, lookup_cons, inductionHypothesis]
            by_cases asked : key = name
            · rw [if_pos asked, if_neg (asked ▸ different), if_pos asked]
            · rw [if_neg asked, if_neg asked]

/-- Where names are distinct, the last field with a name is the first. -/
theorem Record.lookup_foldl_insert
    {fields : List Field}
    (distinct : (fields.map (·.name)).Nodup)
    (map : FieldMap)
    (key : String) :
    (fields.foldl (fun map field => FieldMap.insert field.name field.value map) map).lookup key =
      ((fields.find? (·.name = key)).map (·.value)).or (map.lookup key) := by
  induction fields generalizing map with
  | nil => rfl
  | cons field fields inductionHypothesis =>
      obtain ⟨fresh, others⟩ := List.nodup_cons.mp distinct
      rw [List.foldl_cons, inductionHypothesis others, FieldMap.lookup_insert, List.find?_cons]
      by_cases asked : key = field.name
      · subst asked
        have absent : fields.find? (·.name = field.name) = none := by
          rw [List.find?_eq_none]
          intro other member same
          have sameName : other.name = field.name := of_decide_eq_true same
          exact fresh (List.mem_map.mpr ⟨other, member, sameName⟩)
        simp [absent]
      · simp [asked, Ne.symm asked]

/-- Where names are distinct, both ways to look a field up agree. -/
theorem Record.get?_eq_lookup_toMap
    {record : Record}
    (distinct : (record.fields.map (·.name)).Nodup)
    (key : String) :
    record.get? key = record.toMap.lookup key := by
  rw [toMap, lookup_foldl_insert distinct, List.lookup_nil, Option.or_none]
  rfl

/-! ## The fields of a unit -/

/-- Fields are reported in the order of the names and at most once for each. -/
theorem ExtractionUnit.map_name_fieldsOf_sublist
    (names : List String)
    (line : Line)
    (spans : List (Option Span)) :
    ((fieldsOf names line spans).map (·.name)).Sublist names := by
  induction names generalizing spans with
  | nil => exact List.Sublist.refl []
  | cons name names inductionHypothesis =>
      cases spans with
      | nil => exact List.nil_sublist _
      | cons span spans =>
          have others := inductionHypothesis spans
          rw [fieldsOf] at others ⊢
          rw [List.zip_cons_cons, List.filterMap_cons]
          cases span with
          | none => exact others.cons name
          | some span => exact others.cons_cons name

/-- What a unit that the dialect of some options made reports. -/
theorem Options.sublist_of_extract
    {options : Options}
    {number : Nat}
    {pattern : String}
    {definition : Definition}
    {unit : ExtractionUnit}
    {line : Line}
    {record : Record}
    (finished : options.dialect.finish number pattern definition = .ok unit)
    (extracted : unit.extract line = some record) :
    (record.fields.map (·.name)).Sublist definition.fieldNames := by
  have fields : unit.fields = definition.fieldNames := by
    rw [dialect] at finished
    split at finished
    all_goals
      obtain ⟨regex, -, made⟩ := Except.bind_eq_ok_iff.mp finished
      exact Dialect.fields_of_unitOf made
  rw [ExtractionUnit.extract] at extracted
  split at extracted
  · rw [← Option.some.inj extracted, ← fields]
    exact ExtractionUnit.map_name_fieldsOf_sublist _ _ _
  · cases extracted

/-- Every field is reported where no pattern reaches beyond itself or claims the name of an
expression's group. -/
theorem ExtractionUnit.map_name_of_extract
    {sizeLimit number : Nat}
    {definition : Definition}
    {compiled : CompiledPieces}
    {unit : ExtractionUnit}
    {line : Line}
    {record : Record}
    (compiles : definition.compile (Dialect.linear sizeLimit) = .ok compiled)
    (finished : (Dialect.linear sizeLimit).finish number compiled.extraction definition = .ok unit)
    (extracted : unit.extract line = some record)
    (sources : ∀ source ∈ definition.patterns, Parses source.1 ∧ Unclaimed source.1) :
    record.fields.map (·.name) = definition.fieldNames := by
  obtain ⟨tree, groups, slots, treeFound, groupsFound, searched, fields⟩ :=
    exists_slots_of_extract finished extracted
  have alone := standAlone_of_compile compiles fun source member => (sources source member).1
  obtain ⟨kept, start, stop, spans⟩ := Piece.exists_spans_outlineOf alone
    (lowers_of_compile compiles) (spelledAll_of_compile compiles) treeFound searched
  have count : definition.fieldNames.length = (expressionsOf definition.pieces).length :=
    List.length_map _
  rw [count] at groupsFound
  obtain rfl := groups_eq_numbers alone (fun source member => (sources source member).2) kept
    groupsFound
  rw [fields]
  apply map_name_fieldsOf
  · rw [count, length_numbers_outlineOf]
  · intro group member
    obtain ⟨first, last, recorded, -⟩ := spans.exists_recordedAt member
    exact ⟨first, last, recorded⟩

/-! ## The records of an extractor -/

namespace Extractor

/-- A record is made by the unit of a candidate. -/
theorem exists_recordAt?_of_extractFrom
    {units : List ExtractionUnit}
    {mode : ExtractionMode}
    {input : String}
    {line : Line}
    {candidates : List Nat}
    {record : Record}
    (extracted : (extractFrom units mode input line candidates).value = .ok (some record)) :
    ∃ number ∈ candidates, recordAt? units line number = some record := by
  induction candidates with
  | nil => cases Except.ok.inj extracted
  | cons number candidates inductionHypothesis =>
      have later (others : (extractFrom units mode input line candidates).value =
          .ok (some record)) :
          ∃ other ∈ number :: candidates, recordAt? units line other = some record := by
        obtain ⟨other, member, found⟩ := inductionHypothesis others
        exact ⟨other, List.mem_cons_of_mem _ member, found⟩
      rw [extractFrom] at extracted
      cases unitFound : units[number]? with
      | none =>
          rw [unitFound] at extracted
          exact later extracted
      | some unit =>
          simp only [unitFound, Logged.value_bind, unit.extractLogged_value] at extracted
          cases made : unit.extract line with
          | some first =>
              rw [made] at extracted
              obtain rfl := Option.some.inj (Except.ok.inj extracted)
              exact ⟨number, List.mem_cons_self, by rw [recordAt?, unitFound, Option.bind_some, made]⟩
          | none =>
              rw [made] at extracted
              cases mode with
              | strict => cases extracted
              | permissive => exact later extracted

/-- Permissive extraction finds a record where extraction in that mode does. -/
theorem extract_of_extractPermissive
    {extractor : Extractor}
    {input : String}
    {record : Record}
    (extracted : extractor.extractPermissive input = some record) :
    extractor.extract .permissive input = .ok (some record) := by
  rw [extractPermissive] at extracted
  split at extracted
  · next found => rw [found, extracted]
  · cases extracted

end Extractor

/-- A record belongs to one of the definitions and names fields of it, in their order and
each at most once, so the first and the last field of a name are the same.  With the linear
backend it names all of them if every pattern of the definition has a parse of its own and
claims no name of an expression's group, which a pattern can only do if the scan for names
does not see it. -/
theorem names_of_extract
    (options : Options)
    (definitions : List Definition)
    (extractor : Extractor)
    (input : String)
    (record : Record)
    (built : (options.build definitions).value = .ok extractor)
    (extracted : extractor.extract .strict input = .ok (some record) ∨
      extractor.extractPermissive input = some record) :
    ∃ definition, definitions[record.index]? = some definition ∧
      (record.fields.map (·.name)).Sublist definition.fieldNames ∧
      (record.fields.map (·.name)).Nodup ∧
      (∀ key, record.get? key = record.toMap.lookup key) ∧
      (options.backend = .linear →
        ((∀ source ∈ definition.patterns, Parses source.1 ∧ Unclaimed source.1) →
          record.fields.map (·.name) = definition.fieldNames) ∧
        ∀ source ∈ definition.patterns, Scanned source.1 → Unclaimed source.1) := by
  have built := Options.built_of_build built
  obtain ⟨number, -, found⟩ : ∃ number ∈ extractor.discriminator.candidates (Line.ofString input),
      Extractor.recordAt? extractor.units (Line.ofString input) number = some record := by
    obtain strict | permissive := extracted
    · exact Extractor.exists_recordAt?_of_extractFrom strict
    · exact Extractor.exists_recordAt?_of_extractFrom
        (Extractor.extract_of_extractPermissive permissive)
  obtain rfl := built.index_of_recordAt? found
  obtain ⟨unit, unitFound, made⟩ := Option.bind_eq_some_iff.mp found
  have inside : record.index < definitions.length :=
    built.size ▸ (List.getElem?_eq_some_iff.mp unitFound).1
  have definitionFound := List.getElem?_eq_getElem inside
  obtain ⟨compiled, same, compiles, sameFound, finished⟩ :=
    built.finished record.index _ definitionFound
  obtain rfl := Option.some.inj (unitFound.symm.trans sameFound)
  have sublist := Options.sublist_of_extract finished made
  have distinct := sublist.nodup (Definition.nodup_fieldNames compiles)
  refine ⟨_, definitionFound, sublist, distinct, Record.get?_eq_lookup_toMap distinct, ?_⟩
  intro linear
  rw [Options.dialect, linear] at compiles finished
  refine ⟨ExtractionUnit.map_name_of_extract compiles finished made, ?_⟩
  intro source member scanned
  obtain ⟨whole, wrapped⟩ := parse_wrapChars_of_compile compiles source member
  apply scanned.unclaimed wrapped
  intro name named
  exact (Definition.admits_of_compile compiles).free name
    (List.mem_flatMap.mpr ⟨source, member, named⟩)

/-- A definition with two fields, the second one of a part that may be empty. -/
def keyAndValue : Definition :=
  ⟨"setting", [.expression "key" [.pattern "[a-z]+" .unknown] .unknown, .text "=" .unknown,
    .expression "value" [.pattern "(?P<digits>[0-9]+)?" .unknown] .unknown], .unknown⟩

theorem names_of_extract_keyAndValue :
    ∃ extractor, (Options.default.build [keyAndValue]).value = .ok extractor ∧
    ∃ record, extractor.extractPermissive "a=" = some record ∧
    ∃ definition, [keyAndValue][record.index]? = some definition ∧
      (∀ source ∈ keyAndValue.patterns, Parses source.1 ∧ Unclaimed source.1) ∧
      record.fields.map (·.name) = keyAndValue.fieldNames ∧
      ∀ key, record.get? key = record.toMap.lookup key := by
  obtain ⟨extractor, built, accepts⟩ :
      ∃ extractor, (Options.default.build [keyAndValue]).value = .ok extractor ∧
        (extractor.extractPermissive "a=").isSome :=
    Except.exists_ok_of_decide (by decide +kernel)
  obtain ⟨record, extracted⟩ := Option.isSome_iff_exists.mp accepts
  have sources : ∀ source ∈ keyAndValue.patterns, Parses source.1 ∧ Unclaimed source.1 := by
    have checked : keyAndValue.patterns.all fun source =>
        ((parse source.1.toList).toOption.any fun _ => true) ∧
          ∀ name ∈ namesIn source.1, Dialect.ordinalOf? (String.ofList name) = none := by
      decide +kernel
    intro source member
    obtain ⟨parses, unclaimed⟩ := of_decide_eq_true (List.all_eq_true.mp checked source member)
    obtain ⟨ast, parsed, -⟩ := Except.exists_ok_of_decide parses
    exact ⟨⟨ast, parsed⟩, unclaimed⟩
  obtain ⟨definition, found, -, -, sameEntry, complete⟩ :=
    names_of_extract _ _ _ _ _ built (.inr extracted)
  obtain rfl : keyAndValue = definition :=
    (List.mem_singleton.mp (List.mem_of_getElem? found)).symm
  exact ⟨extractor, built, record, extracted, _, found, sources, (complete rfl).1 sources, sameEntry⟩

/-- A definition with one field and, behind a comment with a bracket, a group that may be
left out and whose name looks like that of the field's. -/
def displaced : Definition :=
  ⟨"pair", [.expression "first" [.text "a" .unknown] .unknown,
    .pattern "(?x)#[
(?P<_e00>b)?#]
" .unknown], .unknown⟩

/-- The only field of the definition is lost: it is looked for in the group that the scan for
names overlooks. -/
theorem names_of_extract_displaced :
    ∃ extractor, (Options.default.build [displaced]).value = .ok extractor ∧
      extractor.extract .strict "a" = .ok (some ⟨0, "pair", []⟩) ∧
      displaced.fieldNames = ["first"] := by
  obtain ⟨extractor, built, extracted⟩ :
      ∃ extractor, (Options.default.build [displaced]).value = .ok extractor ∧
        ((extractor.extract .strict "a").toOption = some (some ⟨0, "pair", []⟩) : Bool) :=
    Except.exists_ok_of_decide (by decide +kernel)
  refine ⟨extractor, built, ?_, by decide⟩
  have extracted := of_decide_eq_true extracted
  cases outcome : extractor.extract .strict "a" with
  | error disagreement => simp [outcome, Except.toOption] at extracted
  | ok found =>
      rw [outcome] at extracted
      exact congrArg Except.ok (Option.some.inj extracted)

end LineExtraction

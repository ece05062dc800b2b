import LineExtraction.Proofs.Catalogue.Sources
import LineExtraction.Proofs.Compilation.Groups
import LineExtraction.Proofs.Extraction.Reporting
import LineExtraction.Proofs.Json.Documents
import LineExtraction.Report.LineReport
import Mathlib.Data.List.Forall2
import Mathlib.Data.String.Basic

/-!
# Reading reports back

What is written about an input is cut at its line breaks into one text for each reported line:
no line break stands in the text of a JSON value.  Each of these texts is read back as the object
that was written, with its entries in the order of their names.
-/

namespace LineExtraction
namespace Json

open Decoding (Stream)

/-! ## Texts without line breaks -/

namespace Value

theorem newline_notMem_writeChar
    (char : Char) :
    '\n' ∉ writeChar char := by
  have digits : ∀ value < 16, hexDigit value ≠ '\n' := by decide
  obtain ⟨written, -, -, plain⟩ | ⟨letter, written, -, found⟩ | ⟨control, written⟩ :=
    writeChar_cases char
  · rw [written, List.mem_singleton]
    rintro rfl
    cases plain
  · rw [written]
    intro member
    obtain same | member := List.mem_cons.mp member
    · cases same
    · obtain rfl := List.mem_singleton.mp member
      cases found
  · have small : char.toNat < 0x20 := of_decide_eq_true control
    have first := digits (char.toNat / 16) (by omega)
    have second := digits (char.toNat % 16) (by omega)
    rw [written]
    simp [first.symm, second.symm]

theorem newline_notMem_writeText
    (text : String) :
    '\n' ∉ writeText text := by
  simp [writeText, newline_notMem_writeChar]

theorem newline_notMem_writeNumber
    {number : Nat} :
    '\n' ∉ writeNumber (.integer number) := by
  intro member
  cases isDigit_of_mem_toString (show '\n' ∈ (toString number).toList from member)

mutual

/-- No line break stands in the text of a value. -/
theorem newline_notMem_write
    (value : Value)
    (plain : value.IsPlain) :
    '\n' ∉ value.write := by
  cases value with
  | null => decide
  | bool flag => cases flag <;> decide
  | number value =>
      obtain ⟨number, -, rfl⟩ := plain
      exact newline_notMem_writeNumber
  | text content => exact newline_notMem_writeText content
  | list items => simp [write, newline_notMem_writeItems items plain]
  | map entries => simp [write, newline_notMem_writeEntries entries plain]

theorem newline_notMem_writeItems
    (items : List Value)
    (plain : ArePlain items) :
    '\n' ∉ writeItems items := by
  cases items with
  | nil => exact List.not_mem_nil
  | cons item items =>
      have first := newline_notMem_write item plain.1
      have others := newline_notMem_writeItems items plain.2
      cases items with
      | nil => exact first
      | cons next items =>
          rw [writeItems_cons_cons]
          simp [first, others]

theorem newline_notMem_writeEntries
    (entries : List (String × Value))
    (plain : HasPlainEntries entries) :
    '\n' ∉ writeEntries entries := by
  cases entries with
  | nil => exact List.not_mem_nil
  | cons entry entries =>
      obtain ⟨name, value⟩ := entry
      have key := newline_notMem_writeText name
      have first := newline_notMem_write value plain.1
      have others := newline_notMem_writeEntries entries plain.2
      cases entries with
      | nil => simp [writeEntries, key, first]
      | cons next entries =>
          rw [writeEntries_cons_cons]
          simp [key, first, others]

end

/-! ## Values in order -/

mutual

/-- The value with the entries of every map in the order of their names. -/
def sorted : Value → Value
  | .list items => .list (sortedItems items)
  | .map entries => .map ((sortedEntries entries).foldl
      (fun entries entry => insertEntry entry.1 entry.2 entries) [])
  | value => value

/-- The items of a list with the entries of every map in order. -/
def sortedItems : List Value → List Value
  | [] => []
  | item :: items => item.sorted :: sortedItems items

/-- The entries of a map, in which the entries of every other map are in order. -/
def sortedEntries : List (String × Value) → List (String × Value)
  | [] => []
  | (name, value) :: entries => (name, value.sorted) :: sortedEntries entries

end

mutual

/-- The value of a document that was written for a value. -/
theorem ofNode_ofValue
    (value : Value)
    (plain : value.IsPlain) :
    ofNode (Node.ofValue value) = .ok value.sorted := by
  cases value with
  | null => rfl
  | bool flag => rfl
  | number value =>
      obtain ⟨number, small, rfl⟩ := plain
      have read := Numeral.value_ofNat small
      simp only [Node.ofValue, ofNode, Number.toNat, Int.toNat_natCast, read]
      rfl
  | text content => rfl
  | list items =>
      rw [Node.ofValue, ofNode, ofItems_ofItems items plain]
      rfl
  | map entries =>
      rw [Node.ofValue, ofNode, ofEntries_ofEntries entries plain]
      rfl

theorem ofItems_ofItems
    (items : List Value)
    (plain : ArePlain items) :
    ofItems (Node.ofItems items) = .ok (sortedItems items) := by
  cases items with
  | nil => rfl
  | cons item items =>
      rw [Node.ofItems, ofItems, ofNode_ofValue item plain.1, ofItems_ofItems items plain.2]
      rfl

theorem ofEntries_ofEntries
    (entries : List (String × Value))
    (plain : HasPlainEntries entries) :
    ofEntries (Node.ofEntries entries) = .ok (sortedEntries entries) := by
  cases entries with
  | nil => rfl
  | cons entry entries =>
      obtain ⟨name, value⟩ := entry
      rw [Node.ofEntries, ofEntries, ofNode_ofValue value plain.1,
        ofEntries_ofEntries entries plain.2]
      rfl

end

/-- A rendered value is read back, with the entries of its maps in order. -/
theorem read_render
    {value : Value}
    (plain : value.IsPlain) :
    read value.render = .ok value.sorted := by
  rw [read, readDocument_render plain, ofNode_ofValue value plain]
  rfl

/-- An entry whose name is greater than all others goes to the end. -/
theorem insertEntry_of_forall_lt
    {name : String}
    {entries : List (String × Value)}
    (below : ∀ entry ∈ entries, entry.1 < name)
    (value : Value) :
    insertEntry name value entries = entries ++ [(name, value)] := by
  induction entries with
  | nil => rfl
  | cons entry entries inductionHypothesis =>
      obtain ⟨first, others⟩ := List.forall_mem_cons.mp below
      rw [insertEntry, if_neg (ne_of_gt first), if_neg (lt_asymm first),
        inductionHypothesis others, List.cons_append]

/-- Entries that are in order stay as they are. -/
theorem foldl_insertEntry_of_ascending
    {front entries : List (String × Value)}
    (ascending : (front ++ entries).Pairwise fun left right => left.1 < right.1) :
    entries.foldl (fun entries entry => insertEntry entry.1 entry.2 entries) front =
      front ++ entries := by
  induction entries generalizing front with
  | nil => exact (List.append_nil front).symm
  | cons entry entries inductionHypothesis =>
      have below : ∀ earlier ∈ front, earlier.1 < entry.1 := fun earlier member =>
        (List.pairwise_append.mp ascending).2.2 earlier member entry List.mem_cons_self
      rw [List.foldl_cons, insertEntry_of_forall_lt below, inductionHypothesis]
      · rw [List.append_assoc, List.singleton_append]
      · rwa [List.append_assoc, List.singleton_append]

end Value
end Json

/-! ## Maps of fields -/

namespace FieldMap

/-- The names of a map stand in their order, each once. -/
def Ascending (map : FieldMap) : Prop := map.Pairwise fun left right => left.1 < right.1

theorem fst_eq_or_mem_of_mem_insert
    {name value : String}
    {map : FieldMap}
    {entry : String × String}
    (member : entry ∈ insert name value map) :
    entry.1 = name ∨ entry ∈ map := by
  induction map with
  | nil => exact .inl (congrArg Prod.fst (List.mem_singleton.mp member))
  | cons first map inductionHypothesis =>
      rw [insert] at member
      split at member
      · obtain rfl | member := List.mem_cons.mp member
        · exact .inl rfl
        · exact .inr (List.mem_cons_of_mem _ member)
      · split at member
        · obtain rfl | member := List.mem_cons.mp member
          · exact .inl rfl
          · exact .inr member
        · obtain rfl | member := List.mem_cons.mp member
          · exact .inr List.mem_cons_self
          · exact (inductionHypothesis member).imp_right (List.mem_cons_of_mem _)

theorem Ascending.insert
    {map : FieldMap}
    (ascending : map.Ascending)
    (name value : String) :
    (map.insert name value).Ascending := by
  induction map with
  | nil => exact List.pairwise_singleton _ _
  | cons first map inductionHypothesis =>
      obtain ⟨below, others⟩ := List.pairwise_cons.mp ascending
      rw [FieldMap.insert]
      split
      · next same =>
          subst same
          exact List.pairwise_cons.mpr ⟨below, others⟩
      · next different =>
          split
          · next less =>
              refine List.pairwise_cons.mpr ⟨fun entry member => ?_, ascending⟩
              obtain rfl | member := List.mem_cons.mp member
              · exact less
              · exact lt_trans less (below entry member)
          · next notLess =>
              have greater : first.1 < name :=
                lt_of_le_of_ne (not_lt.mp notLess) (Ne.symm different)
              refine List.pairwise_cons.mpr ⟨fun entry member => ?_, inductionHypothesis others⟩
              obtain same | member := fst_eq_or_mem_of_mem_insert member
              · exact same ▸ greater
              · exact below entry member

end FieldMap

namespace Record

theorem ascending_foldl_insert
    {map : FieldMap}
    (ascending : map.Ascending)
    (fields : List Field) :
    (fields.foldl (fun map field => map.insert field.name field.value) map).Ascending := by
  induction fields generalizing map with
  | nil => exact ascending
  | cons field fields inductionHypothesis =>
      exact inductionHypothesis (ascending.insert field.name field.value)

/-- The map of a record's fields is in order. -/
theorem ascending_toMap
    (record : Record) :
    record.toMap.Ascending :=
  ascending_foldl_insert List.Pairwise.nil record.fields

theorem lookup_foldl_insert_last
    (fields : List Field)
    (map : FieldMap)
    (name : String) :
    (fields.foldl (fun map field => FieldMap.insert field.name field.value map) map).lookup name =
      ((fields.reverse.find? (·.name = name)).map (·.value)).or (map.lookup name) := by
  induction fields generalizing map with
  | nil => rfl
  | cons field fields inductionHypothesis =>
      rw [List.foldl_cons, inductionHypothesis, FieldMap.lookup_insert, List.reverse_cons,
        List.find?_append, Option.map_or, Option.or_assoc]
      congr 1
      by_cases asked : name = field.name
      · simp [asked]
      · simp [asked, Ne.symm asked]

/-- A record's map has, for each name, the text of the last field with that name. -/
theorem lookup_toMap
    (record : Record)
    (name : String) :
    record.toMap.lookup name =
      (record.fields.reverse.find? (·.name = name)).map (·.value) := by
  rw [toMap, lookup_foldl_insert_last, List.lookup_nil, Option.or_none]

end Record

/-! ## Reports -/

namespace LineReport

open Json (Value)

/-- The object that is read back for a line: its entries are in the order of their names. -/
def described (source : String) (line : Nat) (extracted : Option Record) : Value :=
  let fields := (extracted.map Record.toMap).getD []
  .map
    [("extraction", .ofOption (fun found => .text found.name) extracted),
      ("fields", .map (fields.map fun (name, value) => (name, .text value))),
      ("line", .ofNat line),
      ("source", .text source)]

/-- The entries of a map of texts. -/
theorem hasPlainEntries_texts
    (fields : FieldMap) :
    Value.HasPlainEntries (fields.map fun (name, value) => (name, .text value)) := by
  induction fields with
  | nil => trivial
  | cons entry fields inductionHypothesis => exact ⟨trivial, inductionHypothesis⟩

theorem isPlain_object
    (source : String)
    {line : Nat}
    (small : line ≤ Json.maximalInteger)
    (extracted : Option Record) :
    (object source line extracted).IsPlain := by
  refine ⟨trivial, ⟨line, small, rfl⟩, ?_, hasPlainEntries_texts _, trivial⟩
  cases extracted <;> trivial

theorem sortedEntries_texts
    (fields : FieldMap) :
    Value.sortedEntries (fields.map fun (name, value) => (name, .text value)) =
      fields.map fun (name, value) => (name, .text value) := by
  induction fields with
  | nil => rfl
  | cons entry fields inductionHypothesis =>
      rw [List.map_cons, Value.sortedEntries, inductionHypothesis]
      rfl

/-- A map of texts that is in order stays as it is. -/
theorem sorted_texts
    {fields : FieldMap}
    (ascending : fields.Ascending) :
    (Value.map (fields.map fun (name, value) => (name, .text value))).sorted =
      .map (fields.map fun (name, value) => (name, .text value)) := by
  rw [Value.sorted, sortedEntries_texts, Value.foldl_insertEntry_of_ascending]
  · rfl
  · exact List.pairwise_map.mpr ascending

theorem sorted_object
    (source : String)
    (line : Nat)
    (extracted : Option Record) :
    (object source line extracted).sorted = described source line extracted := by
  have name : (Value.ofOption (fun found => .text found.name) extracted : Value).sorted =
      .ofOption (fun found : Record => .text found.name) extracted := by
    cases extracted <;> rfl
  have ascending : ((extracted.map Record.toMap).getD []).Ascending := by
    cases extracted with
    | none => exact List.Pairwise.nil
    | some record => exact record.ascending_toMap
  rw [object, Value.sorted]
  simp only [Value.sortedEntries, name, sorted_texts ascending, List.foldl_cons, List.foldl_nil]
  rfl

/-- The lines that there is a record of, each with its number and what was extracted: those that
end in no error and, where only lines that match are wanted, do match. -/
def recorded (matchedOnly : Bool) (first : Nat) (outcomes : List Outcome) :
    List (Nat × Option Record) :=
  (outcomes.zipIdx first).filterMap fun (outcome, line) =>
    match outcome with
    | .ok extracted => if matchedOnly && extracted.isNone then none else some (line, extracted)
    | .error _ => none

theorem recorded_cons
    (matchedOnly : Bool)
    (first : Nat)
    (outcome : Outcome)
    (outcomes : List Outcome) :
    recorded matchedOnly first (outcome :: outcomes) =
      (match outcome with
        | .ok extracted => if matchedOnly && extracted.isNone then [] else [(first, extracted)]
        | .error _ => []) ++ recorded matchedOnly (first + 1) outcomes := by
  rw [recorded, List.zipIdx_cons, List.filterMap_cons]
  cases outcome with
  | error disagreement => rfl
  | ok extracted => cases matchedOnly <;> cases extracted <;> rfl

/-- No line has a number beyond those of the outcomes. -/
theorem lt_of_mem_recorded
    {matchedOnly : Bool}
    {first : Nat}
    {outcomes : List Outcome}
    {entry : Nat × Option Record}
    (member : entry ∈ recorded matchedOnly first outcomes) :
    entry.1 < first + outcomes.length := by
  obtain ⟨⟨outcome, line⟩, numbered, found⟩ := List.mem_filterMap.mp member
  obtain ⟨-, inside, -⟩ := List.mem_zipIdx numbered
  cases outcome with
  | error disagreement => cases found
  | ok extracted =>
      obtain ⟨-, same⟩ := Option.ite_none_left_eq_some.mp found
      obtain rfl := Option.some.inj same
      exact inside

/-- What is written is the text of the object for each recorded line, with a line break behind
it. -/
theorem join_output_ofOutcomes
    (source : String)
    (matchedOnly : Bool)
    (first : Nat)
    (outcomes : List Outcome) :
    String.join ((ofOutcomes source matchedOnly first outcomes).map output) =
      String.join ((recorded matchedOnly first outcomes).map fun entry =>
        (object source entry.1 entry.2).render ++ "\n") := by
  induction outcomes generalizing first with
  | nil => rfl
  | cons outcome outcomes inductionHypothesis =>
      rw [ofOutcomes, List.map_cons, String.join_cons, inductionHypothesis, recorded_cons,
        List.map_append, String.join_append]
      congr 1
      cases outcome with
      | error disagreement => rfl
      | ok extracted =>
          rw [ofOutcome]
          cases matchedOnly <;> cases extracted <;> simp [output]

end LineReport

/-- Texts without line breaks, each with a line break behind it, are cut at the line breaks. -/
theorem splitOn_join_lines
    {texts : List String}
    (unbroken : ∀ text ∈ texts, '\n' ∉ text.toList) :
    (String.join (texts.map (· ++ "\n"))).splitOn "\n" = texts ++ [""] := by
  have written : (String.join (texts.map (· ++ "\n"))).toList =
      ['\n'].intercalate (texts.map String.toList ++ [[]]) := by
    rw [String.toList_join]
    clear unbroken
    induction texts with
    | nil => rfl
    | cons text texts inductionHypothesis =>
        rw [List.map_cons, List.flatMap_cons, inductionHypothesis, List.map_cons, List.cons_append,
          List.intercalate_cons_of_ne_nil (by simp), String.toList_append]
        rfl
  have apart : ∀ part ∈ texts.map String.toList ++ [[]], '\n' ∉ part := by
    intro part member
    obtain member | rfl := List.mem_append.mp member |>.imp_right List.mem_singleton.mp
    · obtain ⟨text, inside, rfl⟩ := List.mem_map.mp member
      exact unbroken text inside
    · exact List.not_mem_nil
  rw [show "\n" = String.singleton '\n' from rfl, splitOn_singleton]
  rw [show String.singleton '\n' = "\n" from rfl, written,
    List.splitOn_intercalate '\n' apart (by simp), List.map_append, List.map_map]
  simp

/-- What is written about an input is cut at the line breaks into one text for each line that is
to be recorded.  Each text is read back as the object with the source, the number of the line, the
name of the definition or null, and the map of the fields.  That map stands in the order of the
names and has, for each name, the text of the last field with that name. -/
theorem InputReport.splitOn_output
    (source : String)
    (matchedOnly : Bool)
    (outcomes : List Outcome)
    (small : outcomes.length ≤ Json.maximalInteger) :
    ∃ texts,
      (InputReport.ofOutcomes source matchedOnly outcomes).output.splitOn "\n" = texts ++ [""] ∧
      List.Forall₂
        (fun text entry =>
          Json.Value.read text = .ok (LineReport.described source entry.1 entry.2) ∧
          ∀ record ∈ entry.2, record.toMap.Ascending ∧
            ∀ name, record.toMap.lookup name =
              (record.fields.reverse.find? (·.name = name)).map (·.value))
        texts (LineReport.recorded matchedOnly 1 outcomes) := by
  have plain {entry : Nat × Option Record}
      (member : entry ∈ LineReport.recorded matchedOnly 1 outcomes) :
      (LineReport.object source entry.1 entry.2).IsPlain := by
    have inside := LineReport.lt_of_mem_recorded member
    exact LineReport.isPlain_object source (by omega) entry.2
  refine ⟨(LineReport.recorded matchedOnly 1 outcomes).map fun entry =>
    (LineReport.object source entry.1 entry.2).render, ?_, ?_⟩
  · have written := LineReport.join_output_ofOutcomes source matchedOnly 1 outcomes
    rw [InputReport.ofOutcomes, InputReport.ofLines, written, ← splitOn_join_lines, List.map_map]
    · rfl
    · intro text member
      obtain ⟨entry, isRecorded, rfl⟩ := List.mem_map.mp member
      rw [Json.Value.render, String.toList_ofList]
      exact Json.Value.newline_notMem_write _ (plain isRecorded)
  · rw [List.forall₂_map_left_iff]
    refine List.forall₂_same.mpr fun entry member => ⟨?_, fun record _ => ?_⟩
    · rw [Json.Value.read_render (plain member), LineReport.sorted_object]
    · exact ⟨record.ascending_toMap, record.lookup_toMap⟩

/-- A record with line breaks, quotes and a control character in its names, a field of the same
name twice, a line without a record, and one that ends in an error. -/
theorem InputReport.splitOn_output_brokenNames :
    let record : Record := ⟨0, "two\nlines", [⟨"\"", "first", 0, 5⟩, ⟨"\u0001", "\\\r\n", 5, 8⟩,
      ⟨"\"", "last", 8, 12⟩]⟩
    let outcomes : List Outcome := [.ok (some record), .ok none, .error ⟨"", 0, "", ""⟩]
    outcomes.length ≤ Json.maximalInteger ∧
    LineReport.recorded false 1 outcomes = [(1, some record), (2, none)] ∧
    record.toMap = [("\u0001", "\\\r\n"), ("\"", "last")] ∧
    ∃ texts,
      (InputReport.ofOutcomes "a\nb" false outcomes).output.splitOn "\n" = texts ++ [""] ∧
      List.Forall₂
        (fun text entry =>
          Json.Value.read text = .ok (LineReport.described "a\nb" entry.1 entry.2) ∧
          ∀ record ∈ entry.2, record.toMap.Ascending ∧
            ∀ name, record.toMap.lookup name =
              (record.fields.reverse.find? (·.name = name)).map (·.value))
        texts (LineReport.recorded false 1 outcomes) := by
  intro record outcomes
  have small : outcomes.length ≤ Json.maximalInteger := by decide
  exact ⟨small, rfl, by decide, splitOn_output "a\nb" false outcomes small⟩

end LineExtraction

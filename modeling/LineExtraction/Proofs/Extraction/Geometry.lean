import LineExtraction.Proofs.Extraction.Arrangement
import LineExtraction.Proofs.Extraction.Finishing
import LineExtraction.Proofs.Linear.GroupNames

/-!
# How fields lie in the line

Positions in a line count characters, and fields report bytes.  A span between two
positions starts and stops between characters, and its text is what stands between them.

Every field is cut from the line between two of its characters.  Fields should also lie
towards each other as their expressions stand in the definition: one inside the other, or
one behind the other.  They do where every group is found that is opened for an
expression, and a pattern can only come in between with a group whose name reads like the
name of such a group.
-/

namespace LineExtraction

/-! ## Bytes -/

namespace Line

@[simp] theorem byteLength_cons
    (char : Char)
    (chars : List Char) :
    byteLength (char :: chars) = char.utf8Size + byteLength chars := rfl

theorem byteLength_append
    (front back : List Char) :
    byteLength (front ++ back) = byteLength front + byteLength back := by
  induction front with
  | nil => exact (Nat.zero_add _).symm
  | cons char front inductionHypothesis =>
      rw [List.cons_append, byteLength_cons, byteLength_cons, inductionHypothesis, Nat.add_assoc]

theorem dropBytes_byteLength
    (front back : List Char) :
    dropBytes (byteLength front) (front ++ back) = back := by
  induction front with
  | nil => cases back <;> rfl
  | cons char front inductionHypothesis =>
      have size := char.utf8Size_pos
      rw [byteLength_cons, List.cons_append, dropBytes, if_neg (by omega), Nat.add_sub_cancel_left,
        inductionHypothesis]

theorem takeBytes_byteLength
    (front back : List Char) :
    takeBytes (byteLength front) (front ++ back) = front := by
  induction front with
  | nil => cases back <;> rfl
  | cons char front inductionHypothesis =>
      have size := char.utf8Size_pos
      rw [byteLength_cons, List.cons_append, takeBytes, if_neg (by omega), Nat.add_sub_cancel_left,
        inductionHypothesis]

/-- The text of a span that starts and stops between characters. -/
theorem textOf_eq
    {line : Line}
    {before value after : List Char}
    (cut : line.chars.toList = before ++ value ++ after) :
    line.textOf ⟨byteLength before, byteLength (before ++ value)⟩ = String.ofList value := by
  rw [textOf, cut, List.append_assoc, dropBytes_byteLength, byteLength_append,
    Nat.add_sub_cancel_left, takeBytes_byteLength]

theorem byteOffset_le_byteOffset
    (line : Line)
    {start stop : Nat}
    (forward : start ≤ stop) :
    line.byteOffset start ≤ line.byteOffset stop := by
  rw [byteOffset, byteOffset, ← Nat.add_sub_cancel' forward, List.take_add, byteLength_append]
  exact Nat.le_add_right _ _

end Line

/-! ## Fields -/

/-- Whether a field reports what stands in a line between two of its characters. -/
structure Field.CutFrom (line : Line) (field : Field) : Prop where
  /-- It starts where it stops or before that. -/
  ordered : field.start ≤ field.stop
  /-- It stops in the line. -/
  inside : field.stop ≤ Line.byteLength line.chars.toList
  /-- It starts and stops between characters, and its value stands between them. -/
  text : ∃ before value after, line.chars.toList = before ++ value ++ after ∧
    field.start = Line.byteLength before ∧ field.stop = Line.byteLength (before ++ value) ∧
    field.value = String.ofList value

/-- A field with a span between two positions is cut from the line there. -/
theorem Field.cutFrom_of_le
    {line : Line}
    {start stop : Nat}
    (forward : start ≤ stop)
    (name : String) :
    CutFrom line ⟨name, line.textOf ⟨line.byteOffset start, line.byteOffset stop⟩,
      line.byteOffset start, line.byteOffset stop⟩ := by
  let chars := line.chars.toList
  have front : chars.take stop = chars.take start ++ (chars.drop start).take (stop - start) := by
    rw [← List.take_add, Nat.add_sub_cancel' forward]
  have cut : chars = chars.take start ++ (chars.drop start).take (stop - start) ++
      chars.drop stop := by
    rw [← front, List.take_append_drop]
  have stopsAt : line.byteOffset stop =
      Line.byteLength (chars.take start ++ (chars.drop start).take (stop - start)) :=
    congrArg Line.byteLength front
  refine ⟨line.byteOffset_le_byteOffset forward, ?_, _, _, _, cut, rfl, stopsAt, ?_⟩
  · have whole := congrArg Line.byteLength (List.take_append_drop stop chars)
    rw [Line.byteLength_append] at whole
    exact Nat.le.intro whole
  · rw [← Line.textOf_eq cut, ← stopsAt]
    rfl

theorem Dialect.spanOf?_of_recordedAt
    (line : Line)
    {slots : Linear.Slots}
    {group start stop : Nat}
    (recorded : Linear.RecordedAt slots group start stop) :
    spanOf? line slots group = some ⟨line.byteOffset start, line.byteOffset stop⟩ := by
  rw [spanOf?, recorded.start, recorded.stop]
  rfl

/-- A group has a span where it is recorded. -/
theorem Dialect.spanOf?_eq_some_iff
    {line : Line}
    {slots : Linear.Slots}
    {group : Nat}
    {span : Span} :
    spanOf? line slots group = some span ↔
      ∃ start stop, Linear.RecordedAt slots group start stop ∧
        span = ⟨line.byteOffset start, line.byteOffset stop⟩ := by
  constructor
  · intro found
    obtain ⟨start, startFound, found⟩ := Option.bind_eq_some_iff.mp found
    obtain ⟨stop, stopFound, made⟩ := Option.bind_eq_some_iff.mp found
    exact ⟨start, stop, ⟨Option.join_eq_some_iff.mp startFound,
      Option.join_eq_some_iff.mp stopFound⟩, (Option.some.inj made).symm⟩
  · rintro ⟨start, stop, recorded, rfl⟩
    exact spanOf?_of_recordedAt line recorded

/-- The fields of a unit are named like the expressions of its definition. -/
theorem Dialect.fields_of_unitOf
    {index : Nat}
    {pattern : String}
    {definition : Definition}
    {names : List (Option String)}
    {attempt : List Nat → Line → Attempt}
    {unit : ExtractionUnit}
    (made : unitOf index pattern definition names attempt = .ok unit) :
    unit.fields = definition.fieldNames := by
  rw [unitOf] at made
  split at made
  · cases made
  · obtain rfl := Except.ok.inj made
    rfl

namespace ExtractionUnit

/-- Each field is named like an expression and has the span of the group that was found for
the expression. -/
theorem mem_fieldsOf_iff
    {names : List String}
    {groups : List Nat}
    {line : Line}
    {slots : Linear.Slots}
    {field : Field} :
    field ∈ fieldsOf names line (groups.map (Dialect.spanOf? line slots)) ↔
      ∃ name group start stop, (name, group) ∈ names.zip groups ∧
        Linear.RecordedAt slots group start stop ∧
        field = ⟨name, line.textOf ⟨line.byteOffset start, line.byteOffset stop⟩,
          line.byteOffset start, line.byteOffset stop⟩ := by
  rw [fieldsOf, List.zip_map_right, List.mem_filterMap]
  constructor
  · rintro ⟨_, member, found⟩
    obtain ⟨⟨name, group⟩, listed, rfl⟩ := List.mem_map.mp member
    obtain ⟨span, spanFound, rfl⟩ := Option.map_eq_some_iff.mp found
    obtain ⟨start, stop, recorded, rfl⟩ := Dialect.spanOf?_eq_some_iff.mp spanFound
    exact ⟨name, group, start, stop, listed, recorded, rfl⟩
  · rintro ⟨name, group, start, stop, listed, recorded, rfl⟩
    have span := Dialect.spanOf?_of_recordedAt line recorded
    exact ⟨_, List.mem_map_of_mem listed, congrArg (Option.map _) span⟩

/-- What a finished unit of the linear dialect makes of a line that it accepts: a search
finds slots, and the fields have the spans that these hold for the groups of expressions. -/
theorem exists_slots_of_extract
    {sizeLimit number : Nat}
    {pattern : String}
    {definition : Definition}
    {unit : ExtractionUnit}
    {line : Line}
    {record : Record}
    (finished : (Dialect.linear sizeLimit).finish number pattern definition = .ok unit)
    (extracted : unit.extract line = some record) :
    ∃ tree groups slots,
      Linear.Regex.treeOf (Dialect.anchored pattern) = .ok tree ∧
      Dialect.groupsOfExpressions tree.groupNames definition.fieldNames.length = .ok groups ∧
      Linear.search (.ofTree tree) (2 * tree.groupNames.length) line = some slots ∧
      record.fields = fieldsOf definition.fieldNames line
        (groups.map (Dialect.spanOf? line slots)) := by
  obtain ⟨regex, compiled, made⟩ := Except.bind_eq_ok_iff.mp finished
  obtain ⟨tree, parses, rfl⟩ :=
    Dialect.treeOf_of_compileLinear (Except.mapError_eq_ok_iff.mp compiled)
  obtain ⟨-, groups, found, attempts⟩ := Dialect.spec_of_unitOf made
  have fields := Dialect.fields_of_unitOf made
  rw [extract, attempts, Dialect.attemptLinear, Linear.Regex.search] at extracted
  cases searched : Linear.search (Linear.Regex.ofTree tree).program
      (Linear.Regex.ofTree tree).slotCount line with
  | none =>
      rw [searched] at extracted
      cases extracted
  | some slots =>
      rw [searched] at extracted
      obtain rfl := Option.some.inj extracted
      exact ⟨tree, groups, slots, parses, found, searched, by rw [fields]⟩

end ExtractionUnit

open Linear Piece
open Pattern (wrapChars)

/-! ## Groups that are found -/

/-- Whether no group name of a pattern reads like the name of an expression's group. -/
def Linear.Unclaimed (source : String) : Prop :=
  ∀ name ∈ namesIn source, Dialect.ordinalOf? (String.ofList name) = none

/-- If the scan sees all names of a pattern and none is reserved, none reads like the name of
an expression's group. -/
theorem Linear.Scanned.unclaimed
    {source : String}
    {whole : Ast}
    (scanned : Scanned source)
    (wrapped : parse (wrapChars source.toList) = .ok whole)
    (free : ∀ name ∈ Pattern.groupNames source, ¬ Dialect.isReservedName name) :
    Unclaimed source := by
  obtain ⟨last, read, -⟩ := parse_eq_ok_iff.mp wrapped
  obtain ⟨rest, reads, -⟩ := readTokens_eq_ok_iff.mp read
  have spelled := reads.isSpelled (List.forall_mem_nil _)
  intro name member
  refine Option.eq_none_iff_forall_ne_some.mpr fun ordinal found => ?_
  refine free _ (scanned name member) (Dialect.isReservedName_of_ordinalOf? found ?_)
  rw [String.toList_ofList]
  rw [namesIn, ParseState.behind_eq read] at member
  intro sign
  have isName := (isNameChar_iff_of_ascii (by decide) false).mp (spelled name member '+' sign)
  exact absurd isName (by decide)

namespace Piece

mutual

theorem mem_captures_outline
    {backend : Backend}
    {ordinal before found : Nat}
    {capture : Capture}
    {name : List Char}
    (piece : Piece)
    (alone : StandAlone (.extraction backend) piece.patterns)
    (unclaimed : ∀ source ∈ piece.patterns, Unclaimed source.1)
    (member : capture ∈ (piece.passage (.extraction backend) ordinal before).parts.flatMap
      Ast.captures)
    (named : capture.2 = some name)
    (reads : Dialect.ordinalOf? (String.ofList name) = some found) :
    capture ∈ (piece.outline (.extraction backend) ordinal before).captures := by
  cases piece with
  | text content location => simp [passage, literals, List.flatMap_map, Ast.captures] at member
  | pattern source location =>
      obtain ⟨⟨ast, parsed⟩, whole, wrapped⟩ := alone (source, location) List.mem_cons_self
      obtain ⟨-, -, known⟩ := captures_ofFragment parsed wrapped before capture member
      have free := unclaimed (source, location) List.mem_cons_self name (known name named)
      cases free.symm.trans reads
  | expression label inner location =>
      simp only [passage, Writing.enclose, List.flatMap_cons, List.flatMap_nil,
        List.append_nil] at member
      simp only [outline, Outline.captures, List.append_nil, List.mem_cons]
      rcases (mem_captures_group_iff _ _ capture).mp member with opened | inBody
      · obtain ⟨index, given⟩ := capture
        have opened : GroupKind.capture (before + 1) (some (expressionName ordinal)) =
            .capture index given := opened
        obtain ⟨rfl, rfl⟩ := GroupKind.capture.inj opened
        exact .inl rfl
      · rw [Ast.captures_ofParts] at inBody
        exact .inr (mem_captures_outlineOf inner alone unclaimed inBody named reads)

/-- If no pattern claims the name of an expression's group, then only the groups that are
opened for expressions have such names. -/
theorem mem_captures_outlineOf
    {backend : Backend}
    {ordinal before found : Nat}
    {capture : Capture}
    {name : List Char}
    (pieces : List Piece)
    (alone : StandAlone (.extraction backend) (patternsOf pieces))
    (unclaimed : ∀ source ∈ patternsOf pieces, Unclaimed source.1)
    (member : capture ∈ (passageOf (.extraction backend) ordinal before pieces).parts.flatMap
      Ast.captures)
    (named : capture.2 = some name)
    (reads : Dialect.ordinalOf? (String.ofList name) = some found) :
    capture ∈ (outlineOf (.extraction backend) ordinal before pieces).captures := by
  cases pieces with
  | nil => exact absurd member List.not_mem_nil
  | cons piece pieces =>
      rw [passageOf, Passage.append, List.flatMap_append] at member
      rw [outlineOf, Outline.captures_append]
      rcases List.mem_append.mp member with inFirst | inOthers
      · exact List.mem_append_left _ (mem_captures_outline piece
          (fun source member => alone source (List.mem_append_left _ member))
          (fun source member => unclaimed source (List.mem_append_left _ member)) inFirst named reads)
      · exact List.mem_append_right _ (mem_captures_outlineOf pieces
          (fun source member => alone source (List.mem_append_right _ member))
          (fun source member => unclaimed source (List.mem_append_right _ member)) inOthers named
          reads)

end

/-- What is found for the expressions is what is opened for them. -/
theorem groups_eq_numbers
    {backend : Backend}
    {pieces : List Piece}
    {tree : Tree}
    {groups : List Nat}
    (alone : StandAlone (.extraction backend) (patternsOf pieces))
    (unclaimed : ∀ source ∈ patternsOf pieces, Unclaimed source.1)
    (kept : tree.captures ⊆ (passageOf (.extraction backend) 0 0 pieces).parts.flatMap Ast.captures)
    (found : Dialect.groupsOfExpressions tree.groupNames (expressionsOf pieces).length =
      .ok groups) :
    groups = (outlineOf (.extraction backend) 0 0 pieces).numbers := by
  obtain ⟨length, each⟩ := Dialect.getElem?_groupsFrom found
  have small : ∀ ordinal < (expressionsOf pieces).length, ordinal ≤ Dialect.maximalOrdinal := by
    intro ordinal inside
    have isLast := each ordinal inside _ |>.mp (List.getElem?_eq_getElem (length ▸ inside))
    rw [Nat.zero_add] at isLast
    obtain ⟨name, -, reads⟩ := isLast.named
    exact Dialect.le_maximalOrdinal_of_ordinalOf? reads
  refine List.ext_getElem? fun ordinal => ?_
  by_cases inside : ordinal < (expressionsOf pieces).length
  · obtain ⟨group, isGroup⟩ : ∃ group, groups[ordinal]? = some group :=
      ⟨_, List.getElem?_eq_getElem (length ▸ inside)⟩
    have isLast := (each ordinal inside group).mp isGroup
    rw [Nat.zero_add] at isLast
    obtain ⟨name, named, reads⟩ := isLast.named
    have captured := mem_captures_outlineOf pieces alone unclaimed
      (kept (mem_captures_of_groupNames named)) rfl
      (show Dialect.ordinalOf? (String.ofList name.toList) = some ordinal by
        rwa [String.ofList_toList])
    obtain ⟨offset, offsetInside, same⟩ := List.getElem_of_mem captured
    have offsetSmall : offset < (expressionsOf pieces).length := by
      rw [← length_numbers_outlineOf backend 0 0 pieces, Outline.numbers, List.length_map]
      exact offsetInside
    obtain ⟨index, atOffset⟩ := getElem?_captures_outlineOf backend 0 0 pieces offsetSmall
    rw [List.getElem?_eq_getElem offsetInside, same, Nat.zero_add] at atOffset
    obtain ⟨-, sameName⟩ := Prod.mk.inj (Option.some.inj atOffset)
    have isExpression : name = Dialect.expressionGroup offset :=
      String.toList_injective (Option.some.inj sameName)
    rw [isExpression, Dialect.ordinalOf?_expressionGroup (small offset offsetSmall)] at reads
    obtain rfl := Option.some.inj reads
    rw [isGroup, Outline.numbers, List.getElem?_map, List.getElem?_eq_getElem offsetInside, same]
    rfl
  · rw [List.getElem?_eq_none (by omega), List.getElem?_eq_none]
    rw [length_numbers_outlineOf]
    omega

end Piece

/-! ## Fields by name -/

theorem Definition.nodup_of_firstRepeated
    {seen : List String}
    {entries : List (String × Location)}
    (unrepeated : firstRepeated seen entries = none) :
    (entries.map (·.1)).Nodup ∧ ∀ entry ∈ entries, entry.1 ∉ seen := by
  induction entries generalizing seen with
  | nil => exact ⟨List.nodup_nil, List.forall_mem_nil _⟩
  | cons entry entries inductionHypothesis =>
      rw [firstRepeated] at unrepeated
      split at unrepeated
      · cases unrepeated
      · next fresh =>
          obtain ⟨distinct, others⟩ := inductionHypothesis unrepeated
          refine ⟨List.nodup_cons.mpr ⟨fun again => ?_, distinct⟩,
            List.forall_mem_cons.mpr ⟨fresh, fun other member known =>
              others other member (List.mem_cons_of_mem _ known)⟩⟩
          obtain ⟨other, member, same⟩ := List.mem_map.mp again
          exact others other member (same ▸ List.mem_cons_self)

/-- No two expressions of a definition that compiles have the same name. -/
theorem Definition.nodup_fieldNames
    {dialect : Dialect}
    {definition : Definition}
    {compiled : CompiledPieces}
    (compiles : definition.compile dialect = .ok compiled) :
    definition.fieldNames.Nodup := by
  obtain ⟨_, checked, -⟩ := Except.bind_eq_ok_iff.mp compiles
  rw [checkFieldNames] at checked
  split at checked
  · cases checked
  · next unrepeated => exact (nodup_of_firstRepeated unrepeated).1

namespace ExtractionUnit

variable {names : List String} {groups : List Nat} {line : Line} {slots : Slots}

/-- All fields are reported where all their groups are recorded. -/
theorem map_name_fieldsOf
    (fits : names.length = groups.length)
    (recorded : ∀ group ∈ groups, ∃ start stop, RecordedAt slots group start stop) :
    (fieldsOf names line (groups.map (Dialect.spanOf? line slots))).map (·.name) = names := by
  induction names generalizing groups with
  | nil => rfl
  | cons name names inductionHypothesis =>
      cases groups with
      | nil => cases fits
      | cons group groups =>
          obtain ⟨start, stop, isRecorded⟩ := recorded group List.mem_cons_self
          have others := inductionHypothesis (Nat.succ.inj fits) fun other member =>
            recorded other (List.mem_cons_of_mem _ member)
          have span := Dialect.spanOf?_of_recordedAt line isRecorded
          rw [fieldsOf] at others ⊢
          rw [List.map_cons, List.zip_cons_cons, List.filterMap_cons, span]
          exact congrArg (name :: ·) others

/-- The field of an expression has the span between the positions where the expression is
recorded. -/
theorem span_of_placed
    {name : String}
    {start stop : Nat}
    {field : Field}
    (distinct : names.Nodup)
    (placed : Placed slots (names.zip groups) name start stop)
    (reported : field ∈ fieldsOf names line (groups.map (Dialect.spanOf? line slots)))
    (named : field.name = name) :
    field.start = line.byteOffset start ∧ field.stop = line.byteOffset stop := by
  obtain ⟨other, group, first, last, listed, recorded, rfl⟩ := mem_fieldsOf_iff.mp reported
  obtain rfl : other = name := named
  obtain ⟨sameGroup, sameListed, same⟩ := placed
  obtain ⟨index, inside, atIndex⟩ := List.getElem_of_mem listed
  obtain ⟨sameIndex, sameInside, atSameIndex⟩ := List.getElem_of_mem sameListed
  rw [List.getElem_zip] at atIndex atSameIndex
  obtain ⟨isName, rfl⟩ := Prod.mk.inj atIndex
  obtain ⟨isSameName, rfl⟩ := Prod.mk.inj atSameIndex
  obtain rfl := (List.getElem_inj distinct).mp (isName.trans isSameName.symm)
  obtain rfl := Option.some.inj (Option.some.inj (recorded.start.symm.trans same.start))
  obtain rfl := Option.some.inj (Option.some.inj (recorded.stop.symm.trans same.stop))
  exact ⟨rfl, rfl⟩

end ExtractionUnit

/-! ## Fields of a line -/

namespace Definition

/-- Whether one expression of a definition stands inside another one. -/
def Encloses (definition : Definition) (outer inner : String) : Prop :=
  EnclosesIn outer inner definition.pieces

/-- Whether one expression of a definition closes before another one opens. -/
def Precedes (definition : Definition) (first second : String) : Prop :=
  PrecedesIn first second definition.pieces

end Definition

/-- What the search for an anchored pattern returns for the groups of expressions: they are
recorded as the expressions stand. -/
theorem Piece.exists_spans_outlineOf
    {pieces : List Piece}
    {pattern : String}
    {tree : Tree}
    {line : Line}
    {slots : Slots}
    (alone : StandAlone (.extraction .linear) (patternsOf pieces))
    (lowers : Lowers (.extraction .linear) (patternsOf pieces))
    (isWritten : pattern.toList = spelledAll (.extraction .linear) 0 pieces)
    (treeFound : Regex.treeOf (Dialect.anchored pattern) = .ok tree)
    (searched : search (.ofTree tree) (2 * tree.groupNames.length) line = some slots) :
    tree.captures ⊆ (passageOf (.extraction .linear) 0 0 pieces).parts.flatMap Ast.captures ∧
      ∃ start stop, (outlineOf (.extraction .linear) 0 0 pieces).Spans slots start stop := by
  let outline := outlineOf (.extraction .linear) 0 0 pieces
  obtain ⟨ast, parsed, lowered⟩ := Except.bind_eq_ok_iff.mp treeFound
  obtain rfl := eq_anchoredAst_of_parse rfl alone isWritten parsed
  have distinct := (captures_of_parse parsed (.refl .start _)).2
  have listed : ∀ capture, capture ∈ (anchoredAst (.extraction .linear) pieces).captures ↔
      capture ∈ (passageOf (.extraction .linear) 0 0 pieces).parts.flatMap Ast.captures := by
    intro capture
    rw [anchoredAst, Ast.captures_ofParts]
    simp [Ast.captures, Ast.captures_ofParts]
  have opened : outline.captures ⊆ (anchoredAst (.extraction .linear) pieces).captures :=
    fun capture member => (listed capture).mpr (captures_outlineOf_subset _ _ _ pieces member)
  have watches : Watches (· ∈ outline.numbers) (passageOf (.extraction .linear) 0 0 pieces)
      outline := by
    intro capture member isWatched
    obtain ⟨other, otherMember, same⟩ := List.mem_map.mp isWatched
    rwa [distinct capture ((listed capture).mpr member) other (opened otherMember) same.symm]
  obtain ⟨_, sameLowered, shows'⟩ := exists_lower_anchoredAst _ pieces alone lowers watches
  obtain rfl := Except.ok.inj (lowered.symm.trans sameLowered)
  obtain ⟨whole, wholeFound, made⟩ := Except.bind_eq_ok_iff.mp lowered
  obtain rfl := Except.ok.inj made
  have kept := (within_lower wholeFound).tree
  have shown := shows'.captures_subset
  rw [Tree.captures_parts] at shown
  refine ⟨fun capture member => (listed capture).mp (kept member),
    exists_spans_of_search searched shows' (nodup_numbers_outlineOf 0 0 pieces alone)
      (fun _ member => member) (fun group member => ?_) fun group member => ?_⟩
  · obtain ⟨capture, captured, rfl⟩ := List.mem_map.mp member
    exact (captures_passageOf 0 0 pieces alone capture ((listed capture).mp (opened captured))).1
  · obtain ⟨offset, inside, rfl⟩ := List.getElem_of_mem member
    rw [length_numbers_outlineOf] at inside
    obtain ⟨index, found⟩ := getElem?_captures_outlineOf .linear 0 0 pieces inside
    have captured := List.mem_of_getElem? found
    have named := Tree.getElem?_groupNames
      (fun first firstMember second secondMember =>
        distinct first (kept firstMember) second (kept secondMember)) (shown captured)
    have number : outline.numbers[offset]? = some index := by
      rw [Outline.numbers, List.getElem?_map, found]
      rfl
    have room := (List.getElem?_eq_some_iff.mp named).1
    rw [(List.getElem?_eq_some_iff.mp number).2]
    omega

/-- Every field of a line is cut from the line between two of its characters.  If every
pattern of the definition has a parse of its own and claims no name of an expression's
group, then every expression is reported, those that stand inside another one inside it,
and those that close before another one opens in front of it.  A pattern can only claim
such a name if the scan for names does not see it. -/
theorem fields_of_extract
    (sizeLimit number : Nat)
    (definition : Definition)
    (compiled : CompiledPieces)
    (unit : ExtractionUnit)
    (line : Line)
    (record : Record)
    (compiles : definition.compile (Dialect.linear sizeLimit) = .ok compiled)
    (finished : (Dialect.linear sizeLimit).finish number compiled.extraction definition = .ok unit)
    (extracted : unit.extract line = some record) :
    (∀ field ∈ record.fields, field.CutFrom line) ∧
    ((∀ source ∈ definition.patterns, Parses source.1 ∧ Unclaimed source.1) →
      record.fields.map (·.name) = definition.fieldNames ∧
      (∀ outer ∈ record.fields, ∀ inner ∈ record.fields,
        definition.Encloses outer.name inner.name →
          outer.start ≤ inner.start ∧ inner.stop ≤ outer.stop) ∧
      ∀ first ∈ record.fields, ∀ second ∈ record.fields,
        definition.Precedes first.name second.name → first.stop ≤ second.start) ∧
    ∀ source ∈ definition.patterns, Scanned source.1 → Unclaimed source.1 := by
  obtain ⟨tree, groups, slots, treeFound, groupsFound, searched, fields⟩ :=
    ExtractionUnit.exists_slots_of_extract finished extracted
  rw [fields]
  refine ⟨fun field member => ?_, fun sources => ?_, fun source member scanned => ?_⟩
  · obtain ⟨name, group, start, stop, -, recorded, rfl⟩ :=
      ExtractionUnit.mem_fieldsOf_iff.mp member
    exact Field.cutFrom_of_le (ordered_of_search searched recorded).1 name
  · have alone := standAlone_of_compile compiles fun source member => (sources source member).1
    obtain ⟨kept, start, stop, spans⟩ := Piece.exists_spans_outlineOf alone
      (lowers_of_compile compiles) (spelledAll_of_compile compiles) treeFound searched
    have count : definition.fieldNames.length = (expressionsOf definition.pieces).length :=
      List.length_map _
    rw [count] at groupsFound
    obtain rfl := groups_eq_numbers alone (fun source member => (sources source member).2) kept
      groupsFound
    have distinct := Definition.nodup_fieldNames compiles
    refine ⟨ExtractionUnit.map_name_fieldsOf ?_ fun group member => ?_, ?_, ?_⟩
    · rw [count, length_numbers_outlineOf]
    · obtain ⟨first, last, recorded, -⟩ := spans.exists_recordedAt member
      exact ⟨first, last, recorded⟩
    · intro outer outerReported inner innerReported encloses
      obtain ⟨_, _, _, _, outerPlaced, innerPlaced, above, below⟩ :=
        placed_of_enclosesIn definition.pieces encloses spans
      obtain ⟨outerStart, outerStop⟩ :=
        ExtractionUnit.span_of_placed distinct outerPlaced outerReported rfl
      obtain ⟨innerStart, innerStop⟩ :=
        ExtractionUnit.span_of_placed distinct innerPlaced innerReported rfl
      rw [outerStart, outerStop, innerStart, innerStop]
      exact ⟨line.byteOffset_le_byteOffset above, line.byteOffset_le_byteOffset below⟩
    · intro first firstReported second secondReported precedes
      obtain ⟨_, _, _, _, firstPlaced, secondPlaced, ordered⟩ :=
        placed_of_precedesIn definition.pieces precedes spans
      obtain ⟨-, firstStop⟩ := ExtractionUnit.span_of_placed distinct firstPlaced firstReported rfl
      obtain ⟨secondStart, -⟩ :=
        ExtractionUnit.span_of_placed distinct secondPlaced secondReported rfl
      rw [firstStop, secondStart]
      exact line.byteOffset_le_byteOffset ordered
  · obtain ⟨whole, wrapped⟩ := parse_wrapChars_of_compile compiles source member
    exact scanned.unclaimed wrapped fun name named =>
      (Definition.admits_of_compile compiles).free name (List.mem_flatMap.mpr ⟨source, member, named⟩)

/-- A definition with one field inside another and a third one behind them. -/
def nestedFields : Definition :=
  ⟨"item", [.expression "code" [.pattern "[a-z]+" .unknown,
      .expression "digits" [.pattern "[0-9]+" .unknown] .unknown] .unknown,
    .text "é" .unknown, .expression "rest" [.pattern "(?P<sign>[x-z])*" .unknown] .unknown], .unknown⟩

theorem fields_of_extract_nestedFields :
    ∃ compiled, nestedFields.compile (Dialect.linear defaultSizeLimit) = .ok compiled ∧
    ∃ unit, (Dialect.linear defaultSizeLimit).finish 0 compiled.extraction nestedFields = .ok unit ∧
    ∃ record, unit.extract (Line.ofString "ab12éxy") = some record ∧
      (∀ field ∈ record.fields, field.CutFrom (Line.ofString "ab12éxy")) ∧
      record.fields.map (·.name) = nestedFields.fieldNames ∧
      (∀ outer ∈ record.fields, ∀ inner ∈ record.fields,
        nestedFields.Encloses outer.name inner.name →
          outer.start ≤ inner.start ∧ inner.stop ≤ outer.stop) ∧
      ∀ first ∈ record.fields, ∀ second ∈ record.fields,
        nestedFields.Precedes first.name second.name → first.stop ≤ second.start := by
  obtain ⟨compiled, compiles, finishes⟩ :
      ∃ compiled, nestedFields.compile (Dialect.linear defaultSizeLimit) = .ok compiled ∧
        ((Dialect.linear defaultSizeLimit).finish 0 compiled.extraction
          nestedFields).toOption.any fun unit =>
            (unit.extract (Line.ofString "ab12éxy")).isSome :=
    Except.exists_ok_of_decide (by decide +kernel)
  obtain ⟨unit, finished, accepts⟩ := Except.exists_ok_of_decide finishes
  obtain ⟨record, extracted⟩ := Option.isSome_iff_exists.mp accepts
  have sources : ∀ source ∈ nestedFields.patterns, Parses source.1 ∧ Unclaimed source.1 := by
    have checked : nestedFields.patterns.all fun source =>
        ((parse source.1.toList).toOption.any fun _ => true) ∧
          ∀ name ∈ namesIn source.1, Dialect.ordinalOf? (String.ofList name) = none := by
      decide +kernel
    intro source member
    obtain ⟨parses, unclaimed⟩ := of_decide_eq_true (List.all_eq_true.mp checked source member)
    obtain ⟨ast, parsed, -⟩ := Except.exists_ok_of_decide parses
    exact ⟨⟨ast, parsed⟩, unclaimed⟩
  obtain ⟨cut, arranged, -⟩ := fields_of_extract defaultSizeLimit 0 nestedFields compiled unit
    (Line.ofString "ab12éxy") record compiles finished extracted
  exact ⟨compiled, compiles, unit, finished, record, extracted, cut, arranged sources⟩

/-- A definition with two fields and, behind a comment with a bracket, a group whose name
looks like that of the first one. -/
def overtaken : Definition :=
  ⟨"pair", [.expression "first" [.text "a" .unknown] .unknown,
    .expression "second" [.text "b" .unknown] .unknown,
    .pattern "(?x)#[\n(?P<_e00>c)#]\n" .unknown], .unknown⟩

/-- The first field closes before the second one opens and is reported behind it: the scan
for names overlooks the group that it is reported from. -/
theorem fields_of_extract_overtaken :
    ∃ compiled, overtaken.compile (Dialect.linear defaultSizeLimit) = .ok compiled ∧
    ∃ unit, (Dialect.linear defaultSizeLimit).finish 0 compiled.extraction overtaken = .ok unit ∧
      overtaken.Precedes "first" "second" ∧
      unit.extract (Line.ofString "abc") =
        some ⟨0, "pair", [⟨"first", "c", 2, 3⟩, ⟨"second", "b", 1, 2⟩]⟩ := by
  obtain ⟨compiled, compiles, finishes⟩ :
      ∃ compiled, overtaken.compile (Dialect.linear defaultSizeLimit) = .ok compiled ∧
        ((Dialect.linear defaultSizeLimit).finish 0 compiled.extraction
          overtaken).toOption.any fun unit =>
            unit.extract (Line.ofString "abc") =
              some ⟨0, "pair", [⟨"first", "c", 2, 3⟩, ⟨"second", "b", 1, 2⟩]⟩ :=
    Except.exists_ok_of_decide (by decide +kernel)
  obtain ⟨unit, finished, extracted⟩ := Except.exists_ok_of_decide finishes
  exact ⟨compiled, compiles, unit, finished,
    .inr (.inl ⟨List.mem_cons_self, List.mem_cons_self⟩), of_decide_eq_true extracted⟩

end LineExtraction

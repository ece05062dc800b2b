import LineExtraction.Proofs.Backtracking.Naming
import LineExtraction.Proofs.Compilation.Groups
import LineExtraction.Proofs.Extraction.Dispatch
import LineExtraction.Proofs.Linear.Composition
import LineExtraction.Proofs.Linear.Naming

/-!
# Which groups fields come from

The field of an expression should come from the group that is opened for the expression.
A unit finds the group by name, and a pattern may hold a group whose name looks like that
of an expression where the scan for group names overlooks it.  The statements here say,
for both backends, when the right group is found.
-/

namespace LineExtraction

open Dialect (IsLastNamed NamesOrdinal)

/-! ## Where expressions open -/

namespace Piece

mutual

/-- What stands from the opening of each expression on, where `behind` stands behind the
piece. -/
def openings (writing : Writing) (ordinal : Nat) (behind : List Char) :
    Piece → List (List Char)
  | text _ _ => []
  | pattern _ _ => []
  | expression _ parts _ =>
    (writing.header ordinal ++ (spelledAll writing (ordinal + 1) parts ++ ')' :: behind)) ::
      openingsOf writing (ordinal + 1) (')' :: behind) parts

/-- What stands from the opening of each expression on, where `behind` stands behind the
pieces. -/
def openingsOf (writing : Writing) (ordinal : Nat) (behind : List Char) :
    List Piece → List (List Char)
  | [] => []
  | piece :: pieces =>
    piece.openings writing ordinal
        (spelledAll writing (ordinal + piece.expressions.length) pieces ++ behind) ++
      openingsOf writing (ordinal + piece.expressions.length) behind pieces

end

mutual

theorem length_openings
    (writing : Writing)
    (ordinal : Nat)
    (behind : List Char)
    (piece : Piece) :
    (piece.openings writing ordinal behind).length = piece.expressions.length := by
  cases piece with
  | text content location => rfl
  | pattern source location => rfl
  | expression label parts location =>
      exact congrArg (· + 1) (length_openingsOf writing (ordinal + 1) (')' :: behind) parts)

theorem length_openingsOf
    (writing : Writing)
    (ordinal : Nat)
    (behind : List Char)
    (pieces : List Piece) :
    (openingsOf writing ordinal behind pieces).length = (expressionsOf pieces).length := by
  cases pieces with
  | nil => rfl
  | cons piece pieces =>
      rw [openingsOf, expressionsOf, List.length_append, List.length_append,
        length_openings writing ordinal _ piece, length_openingsOf writing _ behind pieces]

end

/-- Whether a text is what stands from the opening of an expression on in a longer one. -/
structure OpensIn (writing : Writing) (ordinal : Nat) (whole opening : List Char) : Prop where
  /-- It is an end of the longer text. -/
  suffix : ∃ front, whole = front ++ opening
  /-- It starts with the header of the expression. -/
  header : ∃ more, opening = writing.header ordinal ++ more

mutual

theorem opensIn_openings
    {writing : Writing}
    {ordinal offset : Nat}
    {behind opening : List Char}
    (piece : Piece)
    (found : (piece.openings writing ordinal behind)[offset]? = some opening) :
    OpensIn writing (ordinal + offset) (piece.spelled writing ordinal ++ behind) opening := by
  cases piece with
  | text content location => cases found
  | pattern source location => cases found
  | expression label parts location =>
      have whole : (expression label parts location).spelled writing ordinal ++ behind =
          writing.header ordinal ++ (spelledAll writing (ordinal + 1) parts ++ ')' :: behind) := by
        simp [spelled]
      rw [whole]
      cases offset with
      | zero =>
          obtain rfl := Option.some.inj found
          exact ⟨⟨[], rfl⟩, _, rfl⟩
      | succ offset =>
          obtain ⟨⟨front, same⟩, header⟩ := opensIn_openingsOf parts found
          refine ⟨⟨writing.header ordinal ++ front, ?_⟩, ?_⟩
          · rw [same, List.append_assoc]
          · rwa [Nat.add_right_comm, Nat.add_assoc] at header

/-- Every opening starts with the header of its expression, and the openings are in the
order of the expressions. -/
theorem opensIn_openingsOf
    {writing : Writing}
    {ordinal offset : Nat}
    {behind opening : List Char}
    (pieces : List Piece)
    (found : (openingsOf writing ordinal behind pieces)[offset]? = some opening) :
    OpensIn writing (ordinal + offset) (spelledAll writing ordinal pieces ++ behind) opening := by
  cases pieces with
  | nil => cases found
  | cons piece pieces =>
      rw [openingsOf] at found
      rw [spelledAll, List.append_assoc]
      by_cases inside : offset < (piece.openings writing ordinal
          (spelledAll writing (ordinal + piece.expressions.length) pieces ++ behind)).length
      · rw [List.getElem?_append_left inside] at found
        exact opensIn_openings piece found
      · rw [List.getElem?_append_right (Nat.le_of_not_lt inside)] at found
        rw [length_openings] at found inside
        obtain ⟨⟨front, same⟩, header⟩ := opensIn_openingsOf pieces found
        refine ⟨⟨piece.spelled writing ordinal ++ front, ?_⟩, ?_⟩
        · rw [same, List.append_assoc]
        · rwa [Nat.add_assoc, Nat.add_sub_cancel' (Nat.le_of_not_lt inside)] at header

end

end Piece

/-- What stands from the opening of each expression on in the anchored pattern of a
definition. -/
def Definition.openings (backend : Backend) (definition : Definition) : List (List Char) :=
  Piece.openingsOf (.extraction backend) 0 [')', '\\', 'z'] definition.pieces

/-- The openings stand in the anchored pattern in the order of the expressions. -/
theorem Definition.opensIn_openings
    {options : Options}
    {definition : Definition}
    {compiled : CompiledPieces}
    {ordinal : Nat}
    {opening : List Char}
    (compiles : definition.compile options.dialect = .ok compiled)
    (found : (definition.openings options.backend)[ordinal]? = some opening) :
    Piece.OpensIn (.extraction options.backend) ordinal
      (Dialect.anchored compiled.extraction).toList opening := by
  obtain ⟨⟨front, same⟩, header⟩ := Piece.opensIn_openingsOf definition.pieces found
  rw [Nat.zero_add] at header
  refine ⟨⟨['\\', 'A', '(', '?', ':'] ++ front, ?_⟩, header⟩
  rw [Dialect.toList_anchored,
    (Definition.compiles_of_compile options.dialect_writes compiles).extraction, same]
  rfl

/-! ## Groups and spans -/

/-- What an engine makes of a finished pattern: the names of its groups, and the slots of
the preferred match in a line. -/
structure Engine where
  groupNames : List (Option String)
  slotsOf? : Line → Option Linear.Slots

/-- The engine for a finished pattern. -/
def Options.engineOf (options : Options) (pattern : String) : Except String Engine :=
  match options.backend with
  | .linear => do
    let regex ← Dialect.compileLinear options.effectiveSizeLimit (Dialect.anchored pattern)
    return ⟨regex.groupNames, regex.search⟩
  | .backtracking => do
    let regex ← Dialect.compileBacktracking
      (options.backtrackLimit.getD Backtracking.defaultBacktrackLimit) (Dialect.anchored pattern)
    return ⟨regex.groupNames, fun line => (regex.search line).toOption.join⟩

/-- Whether a parser that reads a text arrives at an opening parenthesis and opens a group
with a number there. -/
def Backend.Opens (backend : Backend) (text opening : List Char) (group : Nat) : Prop :=
  match backend with
  | .linear => ∃ state, Linear.Reads .start text state opening ∧ group = state.captures + 1
  | .backtracking =>
    ∃ state, Backtracking.Reads (.start (Line.byteLength text)) text state opening ∧
      group = state.scope.captures + 1

/-- What a finished unit reports are the spans of the groups that are found by name. -/
theorem Options.attempt_of_finish
    {options : Options}
    {number : Nat}
    {pattern : String}
    {definition : Definition}
    {unit : ExtractionUnit}
    (finished : options.dialect.finish number pattern definition = .ok unit) :
    ∃ engine groups, options.engineOf pattern = .ok engine ∧
      Dialect.groupsOfExpressions engine.groupNames definition.fieldNames.length = .ok groups ∧
      ∀ line spans, unit.attempt line = .spans spans ↔
        ∃ slots, engine.slotsOf? line = some slots ∧
          spans = groups.map (Dialect.spanOf? line slots) := by
  obtain ⟨backend, sizeLimit, dfaSizeLimit, backtrackLimit, parallel⟩ := options
  cases backend with
  | linear =>
      obtain ⟨regex, compiled, made⟩ := Except.bind_eq_ok_iff.mp finished
      obtain ⟨-, groups, found, attempts⟩ := Dialect.spec_of_unitOf made
      refine ⟨_, groups, Except.bind_eq_ok_iff.mpr
        ⟨regex, Except.mapError_eq_ok_iff.mp compiled, rfl⟩, found, fun line spans => ?_⟩
      rw [attempts, Dialect.attemptLinear]
      cases searched : regex.search line with
      | none => simp [searched]
      | some slots => simp [searched, eq_comm]
  | backtracking =>
      obtain ⟨regex, compiled, made⟩ := Except.bind_eq_ok_iff.mp finished
      obtain ⟨-, groups, found, attempts⟩ := Dialect.spec_of_unitOf made
      refine ⟨_, groups, Except.bind_eq_ok_iff.mpr
        ⟨regex, Except.mapError_eq_ok_iff.mp compiled, rfl⟩, found, fun line spans => ?_⟩
      rw [attempts, Dialect.attemptBacktracking]
      cases searched : regex.search line with
      | error reason => simp [searched, Except.toOption]
      | ok outcome =>
          cases outcome with
          | none => simp [searched, Except.toOption]
          | some slots => simp [searched, Except.toOption, eq_comm]

/-- The group that is opened for an expression keeps the name of the expression or has
none. -/
theorem Options.name_of_opens
    {options : Options}
    {pattern name : String}
    {engine : Engine}
    {ordinal group : Nat}
    {more : List Char}
    (found : options.engineOf pattern = .ok engine)
    (opens : options.backend.Opens (Dialect.anchored pattern).toList
      (captureHeader ordinal ++ more) group)
    (named : engine.groupNames[group]? = some (some name)) :
    name = Dialect.expressionGroup ordinal := by
  refine String.toList_injective ?_
  obtain ⟨backend, sizeLimit, dfaSizeLimit, backtrackLimit, parallel⟩ := options
  cases backend with
  | linear =>
      obtain ⟨regex, compiled, made⟩ := Except.bind_eq_ok_iff.mp found
      obtain rfl := Except.ok.inj made
      obtain ⟨tree, treeFound, rfl⟩ := Dialect.treeOf_of_compileLinear compiled
      obtain ⟨ast, parsed, lowers⟩ := Except.bind_eq_ok_iff.mp treeFound
      obtain ⟨lowered, loweredFound, made⟩ := Except.bind_eq_ok_iff.mp lowers
      obtain rfl := Except.ok.inj made
      have captured := (Linear.within_lower loweredFound).tree
        (Linear.mem_captures_of_groupNames named)
      obtain ⟨state, reads, rfl⟩ := opens
      obtain ⟨last, read, -, -⟩ := Linear.parse_eq_ok_iff.mp parsed
      have arrives := reads.trans
        (Linear.reads_captureHeader (reads.readTokens_eq_ok.mp read))
      obtain ⟨keeps, distinct⟩ := Linear.captures_of_parse parsed arrives
      have opened := keeps (state.captures + 1, some (expressionName ordinal))
        (.inr ⟨_, List.mem_cons_self, .inl rfl⟩)
      have same := distinct _ captured _ opened rfl
      exact Option.some.inj (congrArg Prod.snd same)
  | backtracking =>
      obtain ⟨regex, compiled, made⟩ := Except.bind_eq_ok_iff.mp found
      obtain rfl := Except.ok.inj made
      obtain ⟨parsed, parsedFound, names⟩ :=
        Backtracking.names_of_compile (Except.mapError_eq_ok_iff.mp compiled)
      rw [names] at named
      have kept := Backtracking.mem_of_groupNamesOf named
      obtain ⟨state, reads, rfl⟩ := opens
      obtain ⟨last, read, -⟩ := Except.bind_eq_ok_iff.mp parsedFound
      have arrives := reads.trans
        (Backtracking.reads_captureHeader (reads.readTokens_eq_ok.mp read))
      obtain ⟨keeps, distinct⟩ := Backtracking.names_of_parse parsedFound arrives
      have opened := keeps (expressionName ordinal, state.scope.captures + 1) List.mem_cons_self
      exact congrArg Prod.fst (distinct _ kept _ opened rfl)

/-- The field of an expression comes from the group that is opened for the expression
exactly when the parser does open one there, the group keeps its name, and no later group
has a name that writes down the same ordinal. -/
theorem reportedGroup_opened_iff
    (options : Options)
    (number : Nat)
    (definition : Definition)
    (compiled : CompiledPieces)
    (unit : ExtractionUnit)
    (compiles : definition.compile options.dialect = .ok compiled)
    (finished : options.dialect.finish number compiled.extraction definition = .ok unit) :
    ∃ (engine : Engine) (groups : List Nat),
      options.engineOf compiled.extraction = .ok engine ∧
      (∀ line spans, unit.attempt line = .spans spans ↔
        ∃ slots, engine.slotsOf? line = some slots ∧
          spans = groups.map (Dialect.spanOf? line slots)) ∧
      groups.length = (definition.openings options.backend).length ∧
      ∀ ordinal opening, (definition.openings options.backend)[ordinal]? = some opening →
        Piece.OpensIn (.extraction options.backend) ordinal
          (Dialect.anchored compiled.extraction).toList opening ∧
        ((∃ group, groups[ordinal]? = some group ∧
            options.backend.Opens (Dialect.anchored compiled.extraction).toList opening group) ↔
          ∃ group,
            options.backend.Opens (Dialect.anchored compiled.extraction).toList opening group ∧
            engine.groupNames[group]? = some (some (Dialect.expressionGroup ordinal)) ∧
            ∀ later, group < later → ¬ NamesOrdinal engine.groupNames ordinal later) := by
  obtain ⟨engine, groups, engineFound, groupsFound, reported⟩ := Options.attempt_of_finish finished
  obtain ⟨length, each⟩ := Dialect.getElem?_groupsFrom groupsFound
  have count : definition.fieldNames.length = (definition.openings options.backend).length := by
    rw [Definition.openings, Piece.length_openingsOf, Definition.fieldNames, List.length_map]
    rfl
  refine ⟨engine, groups, engineFound, reported, length.trans count, fun ordinal opening found => ?_⟩
  have inside : ordinal < definition.fieldNames.length :=
    count ▸ (List.getElem?_eq_some_iff.mp found).1
  have isLast := each ordinal inside
  rw [Nat.zero_add] at isLast
  have opensIn := Definition.opensIn_openings compiles found
  refine ⟨opensIn, ?_⟩
  obtain ⟨more, rfl⟩ := opensIn.header
  constructor
  · rintro ⟨group, isReported, opens⟩
    obtain ⟨⟨name, named, -⟩, last⟩ := (isLast group).mp isReported
    obtain rfl := Options.name_of_opens engineFound opens named
    exact ⟨group, opens, named, last⟩
  · rintro ⟨group, opens, named, last⟩
    refine ⟨group, (isLast group).mpr ⟨⟨_, named, Dialect.ordinalOf?_expressionGroup ?_⟩, last⟩,
      opens⟩
    obtain ⟨other, otherFound⟩ : ∃ other, groups[ordinal]? = some other :=
      ⟨_, List.getElem?_eq_getElem (length ▸ inside)⟩
    obtain ⟨name, -, isOrdinal⟩ := ((isLast other).mp otherFound).named
    exact Dialect.le_maximalOrdinal_of_ordinalOf? isOrdinal

/-- A definition with a field and, behind a comment with a bracket, a group whose name
looks like that of the field. -/
def overlookedName : Definition :=
  ⟨"pair", [.expression "first" [.text "a" .unknown] .unknown,
    .pattern "(?x)#[\n(?P<_e00>b)#]\n" .unknown], .unknown⟩

theorem reportedGroup_opened_iff_overlookedName :
    ∃ compiled, overlookedName.compile Options.default.dialect = .ok compiled ∧
    ∃ unit, Options.default.dialect.finish 0 compiled.extraction overlookedName = .ok unit ∧
    ∃ (engine : Engine) (groups : List Nat),
      Options.default.engineOf compiled.extraction = .ok engine ∧
      (∀ line spans, unit.attempt line = .spans spans ↔
        ∃ slots, engine.slotsOf? line = some slots ∧
          spans = groups.map (Dialect.spanOf? line slots)) ∧
      groups.length = (overlookedName.openings .linear).length ∧
      ∀ ordinal opening, (overlookedName.openings .linear)[ordinal]? = some opening →
        Piece.OpensIn (.extraction .linear) ordinal
          (Dialect.anchored compiled.extraction).toList opening ∧
        ((∃ group, groups[ordinal]? = some group ∧
            Backend.linear.Opens (Dialect.anchored compiled.extraction).toList opening group) ↔
          ∃ group,
            Backend.linear.Opens (Dialect.anchored compiled.extraction).toList opening group ∧
            engine.groupNames[group]? = some (some (Dialect.expressionGroup ordinal)) ∧
            ∀ later, group < later → ¬ NamesOrdinal engine.groupNames ordinal later) := by
  obtain ⟨compiled, compiles, finishes⟩ :
      ∃ compiled, overlookedName.compile Options.default.dialect = .ok compiled ∧
        (Options.default.dialect.finish 0 compiled.extraction
          overlookedName).toOption.any fun _ => true :=
    Except.exists_ok_of_decide (by decide +kernel)
  obtain ⟨unit, finished, -⟩ := Except.exists_ok_of_decide finishes
  exact ⟨compiled, compiles, unit, finished,
    reportedGroup_opened_iff Options.default 0 overlookedName compiled unit compiles finished⟩

/-- The scan for names takes the brackets for a class and overlooks the group between
them, so the field is reported with the span of that group and not with the span of the
group that was opened for it. -/
theorem reportedGroup_overlookedName :
    ∃ compiled, overlookedName.compile Options.default.dialect = .ok compiled ∧
    ∃ unit, Options.default.dialect.finish 0 compiled.extraction overlookedName = .ok unit ∧
    ∃ opening, (overlookedName.openings .linear)[0]? = some opening ∧
      Backend.linear.Opens (Dialect.anchored compiled.extraction).toList opening 1 ∧
    ∃ engine, Options.default.engineOf compiled.extraction = .ok engine ∧
    ∃ slots, engine.slotsOf? (Line.ofString "ab") = some slots ∧
      Dialect.spanOf? (Line.ofString "ab") slots 1 = some ⟨0, 1⟩ ∧
      unit.extract (Line.ofString "ab") = some ⟨0, "pair", [⟨"first", "b", 1, 2⟩]⟩ := by
  obtain ⟨compiled, compiles, holds⟩ :
      ∃ compiled, overlookedName.compile Options.default.dialect = .ok compiled ∧
        ((Options.default.dialect.finish 0 compiled.extraction overlookedName).toOption.any
            (fun unit => unit.extract (Line.ofString "ab") =
              some ⟨0, "pair", [⟨"first", "b", 1, 2⟩]⟩) ∧
          (Options.default.engineOf compiled.extraction).toOption.any fun engine =>
            (engine.slotsOf? (Line.ofString "ab")).any fun slots =>
              Dialect.spanOf? (Line.ofString "ab") slots 1 = some ⟨0, 1⟩ : Bool) :=
    Except.exists_ok_of_decide (by decide +kernel)
  obtain ⟨finishes, engineHolds⟩ := of_decide_eq_true holds
  obtain ⟨unit, finished, extracted⟩ := Except.exists_ok_of_decide finishes
  obtain ⟨engine, engineFound, slotsHold⟩ := Except.exists_ok_of_decide engineHolds
  obtain ⟨slots, slotsFound, span⟩ := (Option.any_eq_true _ _).mp slotsHold
  have isWritten : compiled.extraction.toList =
      Piece.spelledAll (.extraction .linear) 0 overlookedName.pieces :=
    (Definition.compiles_of_compile Options.default.dialect_writes compiles).extraction
  refine ⟨compiled, compiles, unit, finished, _, rfl, ?_, engine, engineFound, slots, slotsFound,
    of_decide_eq_true span, of_decide_eq_true extracted⟩
  rw [Dialect.toList_anchored, isWritten]
  refine ⟨_, .token rfl rfl rfl (Linear.reads_plainHeader rfl _), rfl⟩

end LineExtraction

import LineExtraction.Proofs.Compilation.Marks

/-!
# Which fault of a definition is reported

The pieces of a definition, down to the innermost ones, stand in one order, a whole before its
parts.  Three kinds of faults are looked for in that order, each by a walk of its own: a field
that has the name of an earlier one, a group whose name is reserved or taken, and a pattern that
the dialect refuses.  Reported is the first fault of the first kind that there is, and a
definition without any of them compiles.
-/

namespace LineExtraction

/-! ## The first fault of a list -/

section

variable {α ε : Type} {fault? : List α → α → Option ε}

/-- No entry of a list has a fault.  Whether it has one may depend on those in front of it. -/
def Faultless (fault? : List α → α → Option ε) (entries : List α) : Prop :=
  ∀ front entry back, entries = front ++ entry :: back → fault? front entry = none

/-- The first fault among the entries of a list. -/
def FirstFault (fault? : List α → α → Option ε) (entries : List α) (fault : ε) : Prop :=
  ∃ front entry back, entries = front ++ entry :: back ∧ Faultless fault? front ∧
    fault? front entry = some fault

/-- Look for the first fault among the entries behind others. -/
def firstFaultBehind? (fault? : List α → α → Option ε) (before : List α) : List α → Option ε
  | [] => none
  | entry :: entries =>
    (fault? before entry).or (firstFaultBehind? fault? (before ++ [entry]) entries)

theorem faultless_nil : Faultless fault? [] :=
  fun front entry back same =>
    absurd same.symm (List.append_ne_nil_of_right_ne_nil front (List.cons_ne_nil entry back))

theorem faultless_cons_iff
    {entry : α}
    {entries : List α} :
    Faultless fault? (entry :: entries) ↔
      fault? [] entry = none ∧ Faultless (fun front => fault? (entry :: front)) entries := by
  constructor
  · intro faultless
    refine ⟨faultless [] entry entries rfl, ?_⟩
    rintro front other back rfl
    exact faultless (entry :: front) other back rfl
  · rintro ⟨first, others⟩ front other back same
    cases front with
    | nil =>
        obtain ⟨rfl, rfl⟩ := List.cons.inj same
        exact first
    | cons head front =>
        obtain ⟨rfl, rfl⟩ := List.cons.inj same
        exact others front other back rfl

theorem firstFault_cons_iff
    {entry : α}
    {entries : List α}
    {fault : ε} :
    FirstFault fault? (entry :: entries) fault ↔
      fault? [] entry = some fault ∨
        fault? [] entry = none ∧ FirstFault (fun front => fault? (entry :: front)) entries fault := by
  constructor
  · rintro ⟨front, other, back, same, clean, found⟩
    cases front with
    | nil =>
        obtain ⟨rfl, rfl⟩ := List.cons.inj same
        exact .inl found
    | cons head front =>
        obtain ⟨rfl, rfl⟩ := List.cons.inj same
        obtain ⟨first, others⟩ := faultless_cons_iff.mp clean
        exact .inr ⟨first, front, other, back, rfl, others, found⟩
  · rintro (found | ⟨first, front, other, back, rfl, others, found⟩)
    · exact ⟨[], entry, entries, rfl, faultless_nil, found⟩
    · exact ⟨entry :: front, other, back, rfl, faultless_cons_iff.mpr ⟨first, others⟩, found⟩

theorem firstFaultBehind?_eq_none_iff
    {before entries : List α} :
    firstFaultBehind? fault? before entries = none ↔
      Faultless (fun front => fault? (before ++ front)) entries := by
  induction entries generalizing before with
  | nil => exact iff_of_true rfl faultless_nil
  | cons entry entries inductionHypothesis =>
      rw [firstFaultBehind?, Option.or_eq_none_iff, inductionHypothesis, faultless_cons_iff]
      simp only [List.append_nil, List.append_assoc, List.singleton_append]

theorem firstFaultBehind?_eq_some_iff
    {before entries : List α}
    {fault : ε} :
    firstFaultBehind? fault? before entries = some fault ↔
      FirstFault (fun front => fault? (before ++ front)) entries fault := by
  induction entries generalizing before with
  | nil =>
      refine iff_of_false nofun ?_
      rintro ⟨front, entry, back, same, -⟩
      cases List.append_ne_nil_of_right_ne_nil front (List.cons_ne_nil entry back) same.symm
  | cons entry entries inductionHypothesis =>
      rw [firstFaultBehind?, Option.or_eq_some_iff, inductionHypothesis, firstFault_cons_iff]
      simp only [List.append_nil, List.append_assoc, List.singleton_append]

/-- Where faults do not depend on what stands in front, any search finds the first one. -/
theorem firstFaultBehind?_eq_findSome?
    {own? : α → Option ε}
    (before : List α)
    (entries : List α) :
    firstFaultBehind? (fun _ => own?) before entries = entries.findSome? own? := by
  induction entries generalizing before with
  | nil => rfl
  | cons entry entries inductionHypothesis =>
      rw [firstFaultBehind?, inductionHypothesis, List.findSome?_cons]
      cases own? entry <;> rfl

end

/-! ## The order of the pieces -/

namespace Piece

mutual

/-- A piece and the pieces in it, a whole before its parts. -/
def preorder : Piece → List Piece
  | text content location => [.text content location]
  | pattern source location => [.pattern source location]
  | expression name parts location => .expression name parts location :: preorderOf parts

/-- Pieces behind each other and the pieces in them, a whole before its parts. -/
def preorderOf : List Piece → List Piece
  | [] => []
  | piece :: pieces => piece.preorder ++ preorderOf pieces

end

/-- The name and the location of an expression. -/
def expression? : Piece → Option (String × Location)
  | expression name _ location => some (name, location)
  | _ => none

/-- The text and the location of a pattern. -/
def pattern? : Piece → Option (String × Location)
  | pattern source location => some (source, location)
  | _ => none

/-- The name of the field that a piece is. -/
def fieldName? (piece : Piece) : Option String := piece.expression?.map (·.1)

/-- The names of the groups in a pattern. -/
def groupNames (piece : Piece) : List String :=
  (piece.pattern?.map fun entry => Pattern.groupNames entry.1).getD []

mutual

theorem filterMap_expression?_preorder
    (piece : Piece) :
    piece.preorder.filterMap expression? = piece.expressions := by
  cases piece with
  | text content location => rfl
  | pattern source location => rfl
  | expression name parts location =>
      have named : (expression name parts location).expression? = some (name, location) := rfl
      rw [preorder, expressions, List.filterMap_cons_some named,
        filterMap_expression?_preorderOf parts]

/-- The expressions are listed in the order of the pieces. -/
theorem filterMap_expression?_preorderOf
    (pieces : List Piece) :
    (preorderOf pieces).filterMap expression? = expressionsOf pieces := by
  cases pieces with
  | nil => rfl
  | cons piece pieces =>
      rw [preorderOf, expressionsOf, List.filterMap_append,
        filterMap_expression?_preorder piece, filterMap_expression?_preorderOf pieces]

end

mutual

theorem filterMap_pattern?_preorder
    (piece : Piece) :
    piece.preorder.filterMap pattern? = piece.patterns := by
  cases piece with
  | text content location => rfl
  | pattern source location => rfl
  | expression name parts location =>
      have none : (expression name parts location).pattern? = none := rfl
      rw [preorder, patterns, List.filterMap_cons_none none, filterMap_pattern?_preorderOf parts]

/-- The patterns are listed in the order of the pieces. -/
theorem filterMap_pattern?_preorderOf
    (pieces : List Piece) :
    (preorderOf pieces).filterMap pattern? = patternsOf pieces := by
  cases pieces with
  | nil => rfl
  | cons piece pieces =>
      rw [preorderOf, patternsOf, List.filterMap_append,
        filterMap_pattern?_preorder piece, filterMap_pattern?_preorderOf pieces]

end

/-! ## Three kinds of faults -/

/-- The fault of an expression that has the name of one in front of it. -/
def fieldFault? (definition : String) (front : List Piece) (piece : Piece) :
    Option ConstructionError :=
  piece.expression?.bind fun (name, location) =>
    if name ∈ front.filterMap fieldName? then some (.duplicateField definition name location)
    else none

/-- The fault of a pattern with a group whose name is reserved, or stands in front of it in the
pattern or in an earlier one. -/
def groupFault? (definition : String) (front : List Piece) (piece : Piece) :
    Option ConstructionError :=
  piece.pattern?.bind fun (source, location) =>
    (firstFaultBehind?
        (fun before => Definition.groupNameFault? (front.flatMap groupNames ++ before)) []
        (Pattern.groupNames source)).map (.invalidPattern definition source location)

/-- The fault of a pattern that the dialect refuses, wherever it stands. -/
def refusal? (dialect : Dialect) (definition : String) (piece : Piece) :
    Option ConstructionError :=
  piece.pattern?.bind fun (source, location) =>
    (Except.cause? (dialect.pattern source)).map (.invalidPattern definition source location)

end Piece

namespace Definition

/-- The pieces of a definition, down to the innermost ones, a whole before its parts. -/
def preorder (definition : Definition) : List Piece := Piece.preorderOf definition.pieces

/-! ## The three walks -/

/-- The first entry whose name stands in front is the first expression with a fault. -/
theorem firstRepeated_filterMap
    {seen : List String}
    {before : List Piece}
    (same : ∀ name, name ∈ seen ↔ name ∈ before.filterMap Piece.fieldName?)
    (definition : String)
    (pieces : List Piece) :
    (firstRepeated seen (pieces.filterMap Piece.expression?)).map
        (fun (name, location) => .duplicateField definition name location) =
      firstFaultBehind? (Piece.fieldFault? definition) before pieces := by
  induction pieces generalizing seen before with
  | nil => rfl
  | cons piece pieces inductionHypothesis =>
      rw [List.filterMap_cons, firstFaultBehind?, Piece.fieldFault?]
      cases found : piece.expression? with
      | none =>
          refine inductionHypothesis fun name => ?_
          simp [same, Piece.fieldName?, found]
      | some entry =>
          obtain ⟨name, location⟩ := entry
          simp only [Option.bind_some, firstRepeated, same name]
          split
          · rfl
          · refine inductionHypothesis fun other => ?_
            simp [same, Piece.fieldName?, found, or_comm]

theorem cause?_checkFieldNames
    (definition : Definition) :
    Except.cause? definition.checkFieldNames =
      firstFaultBehind? (Piece.fieldFault? definition.name) [] definition.preorder := by
  have nothing (name : String) : name ∈ [] ↔ name ∈ [].filterMap Piece.fieldName? := Iff.rfl
  rw [preorder, ← firstRepeated_filterMap nothing, Piece.filterMap_expression?_preorderOf,
    checkFieldNames, repeatedField?, expressions]
  cases firstRepeated [] (Piece.expressionsOf definition.pieces) <;> rfl

/-- Only which names are taken matters, not in which order. -/
theorem groupNameFault?_congr
    {seen taken : List String}
    {name : String}
    (same : name ∈ seen ↔ name ∈ taken) :
    groupNameFault? seen name = groupNameFault? taken name := by
  rw [groupNameFault?, groupNameFault?]
  simp only [same]

theorem cause?_firstGroupNameFault
    {seen : List String}
    (taken before : List String)
    (same : ∀ name, name ∈ seen ↔ name ∈ taken ++ before)
    (names : List String) :
    Except.cause? (firstGroupNameFault seen names) =
      firstFaultBehind? (fun before => groupNameFault? (taken ++ before)) before names := by
  induction names generalizing seen before with
  | nil => rfl
  | cons name names inductionHypothesis =>
      rw [firstGroupNameFault, firstFaultBehind?, ← groupNameFault?_congr (same name)]
      cases groupNameFault? seen name with
      | some cause => rfl
      | none =>
          refine inductionHypothesis (before ++ [name]) fun other => ?_
          simp [same, or_comm, or_left_comm]

theorem mem_of_firstGroupNameFault
    {seen later names : List String}
    (found : firstGroupNameFault seen names = .ok later)
    (name : String) :
    name ∈ later ↔ name ∈ seen ∨ name ∈ names := by
  induction names generalizing seen with
  | nil =>
      obtain rfl := Except.ok.inj found
      simp
  | cons first names inductionHypothesis =>
      rw [firstGroupNameFault] at found
      split at found
      · cases found
      · rw [inductionHypothesis found, List.mem_cons, List.mem_cons, or_assoc, or_left_comm]

theorem cause?_checkPatterns
    {seen : List String}
    {before : List Piece}
    (same : ∀ name, name ∈ seen ↔ name ∈ before.flatMap Piece.groupNames)
    (definition : String)
    (pieces : List Piece) :
    Except.cause? (checkPatterns definition seen (pieces.filterMap Piece.pattern?)) =
      firstFaultBehind? (Piece.groupFault? definition) before pieces := by
  induction pieces generalizing seen before with
  | nil => rfl
  | cons piece pieces inductionHypothesis =>
      rw [List.filterMap_cons, firstFaultBehind?, Piece.groupFault?]
      cases found : piece.pattern? with
      | none =>
          refine inductionHypothesis fun name => ?_
          simp [same, Piece.groupNames, found]
      | some entry =>
          obtain ⟨source, location⟩ := entry
          have names := cause?_firstGroupNameFault (before.flatMap Piece.groupNames) []
            (fun name => by rw [same, List.append_nil]) (Pattern.groupNames source)
          simp only [Option.bind_some, checkPatterns, ← names]
          cases checked : firstGroupNameFault seen (Pattern.groupNames source) with
          | error cause => rfl
          | ok later =>
              refine inductionHypothesis fun name => ?_
              rw [mem_of_firstGroupNameFault checked, same]
              simp [Piece.groupNames, found]

theorem cause?_checkGroups
    (definition : Definition) :
    Except.cause? definition.checkGroups =
      firstFaultBehind? (Piece.groupFault? definition.name) [] definition.preorder := by
  have nothing (name : String) : name ∈ [] ↔ name ∈ [].flatMap Piece.groupNames := Iff.rfl
  rw [preorder, ← cause?_checkPatterns nothing, Piece.filterMap_pattern?_preorderOf, checkGroups,
    patterns]

end Definition

namespace Piece

variable {dialect : Dialect} {definition : String}

mutual

theorem cause?_compile
    (first : Nat)
    (piece : Piece) :
    Except.cause? (piece.compile dialect definition first) =
      piece.preorder.findSome? (refusal? dialect definition) := by
  cases piece with
  | text content location => rfl
  | pattern source location =>
      rw [compile, preorder, List.findSome?_singleton, refusal?, pattern?, Option.bind_some]
      cases refused : dialect.pattern source <;> simp only [refused] <;> rfl
  | expression name parts location =>
      have inner := cause?_compileAll (first + 1) parts
      have alone : refusal? dialect definition (.expression name parts location) = none := rfl
      rw [compile, preorder, List.findSome?_cons, alone, ← inner]
      cases compileAll dialect definition (first + 1) parts <;> rfl

/-- Compilation stops at the first pattern that the dialect refuses. -/
theorem cause?_compileAll
    (first : Nat)
    (pieces : List Piece) :
    Except.cause? (compileAll dialect definition first pieces) =
      (preorderOf pieces).findSome? (refusal? dialect definition) := by
  cases pieces with
  | nil => rfl
  | cons piece pieces =>
      rw [compileAll, preorderOf, List.findSome?_append, ← cause?_compile first piece]
      cases piece.compile dialect definition first with
      | error error => rfl
      | ok front =>
          have others := cause?_compileAll (first + front.fields.length) pieces
          change Except.cause? (compileAll dialect definition (first + front.fields.length) pieces
            >>= fun back => pure (front.append back)) = _
          rw [← others]
          cases compileAll dialect definition (first + front.fields.length) pieces <;> rfl

end

end Piece

/-! ## The verdict on a definition -/

namespace Definition

variable {dialect : Dialect} {definition : Definition}

/-- What compilation makes of a definition: the first fault of the first kind that there is, or,
without any fault, what the marks of the definition are written as. -/
inductive Verdict (dialect : Dialect) (definition : Definition) :
    Except ConstructionError CompiledPieces → Prop
  | fieldFault
      {error : ConstructionError}
      (found : FirstFault (Piece.fieldFault? definition.name) definition.preorder error) :
      Verdict dialect definition (.error error)
  | groupFault
      {error : ConstructionError}
      (fields : Faultless (Piece.fieldFault? definition.name) definition.preorder)
      (found : FirstFault (Piece.groupFault? definition.name) definition.preorder error) :
      Verdict dialect definition (.error error)
  | refusal
      {error : ConstructionError}
      (fields : Faultless (Piece.fieldFault? definition.name) definition.preorder)
      (groups : Faultless (Piece.groupFault? definition.name) definition.preorder)
      (found : FirstFault (fun _ => Piece.refusal? dialect definition.name) definition.preorder
        error) :
      Verdict dialect definition (.error error)
  | compiled
      (fields : Faultless (Piece.fieldFault? definition.name) definition.preorder)
      (groups : Faultless (Piece.groupFault? definition.name) definition.preorder)
      (patterns : Faultless (fun _ => Piece.refusal? dialect definition.name) definition.preorder) :
      Verdict dialect definition (.ok (.ofMarks dialect 0 definition.marks))

theorem checkFieldNames_eq_ok_iff :
    definition.checkFieldNames = .ok () ↔
      Faultless (Piece.fieldFault? definition.name) definition.preorder := by
  rw [← Except.cause?_eq_none_iff_check, cause?_checkFieldNames, firstFaultBehind?_eq_none_iff]
  simp only [List.nil_append]

theorem checkFieldNames_eq_error_iff
    {error : ConstructionError} :
    definition.checkFieldNames = .error error ↔
      FirstFault (Piece.fieldFault? definition.name) definition.preorder error := by
  rw [← Except.cause?_eq_some_iff, cause?_checkFieldNames, firstFaultBehind?_eq_some_iff]
  simp only [List.nil_append]

theorem checkGroups_eq_ok_iff :
    definition.checkGroups = .ok () ↔
      Faultless (Piece.groupFault? definition.name) definition.preorder := by
  rw [← Except.cause?_eq_none_iff_check, cause?_checkGroups, firstFaultBehind?_eq_none_iff]
  simp only [List.nil_append]

theorem checkGroups_eq_error_iff
    {error : ConstructionError} :
    definition.checkGroups = .error error ↔
      FirstFault (Piece.groupFault? definition.name) definition.preorder error := by
  rw [← Except.cause?_eq_some_iff, cause?_checkGroups, firstFaultBehind?_eq_some_iff]
  simp only [List.nil_append]

theorem compileAll_eq_error_iff
    {error : ConstructionError} :
    Piece.compileAll dialect definition.name 0 definition.pieces = .error error ↔
      FirstFault (fun _ => Piece.refusal? dialect definition.name) definition.preorder error := by
  rw [← Except.cause?_eq_some_iff, Piece.cause?_compileAll, ← firstFaultBehind?_eq_findSome? [],
    firstFaultBehind?_eq_some_iff]
  rfl

theorem compileAll_eq_ok_iff
    {compiled : CompiledPieces} :
    Piece.compileAll dialect definition.name 0 definition.pieces = .ok compiled ↔
      Faultless (fun _ => Piece.refusal? dialect definition.name) definition.preorder ∧
        compiled = .ofMarks dialect 0 definition.marks := by
  have clean : Faultless (fun _ => Piece.refusal? dialect definition.name) definition.preorder ↔
      ∃ compiled, Piece.compileAll dialect definition.name 0 definition.pieces = .ok compiled := by
    rw [← Except.cause?_eq_none_iff, Piece.cause?_compileAll, ← firstFaultBehind?_eq_findSome? [],
      firstFaultBehind?_eq_none_iff]
    rfl
  rw [clean]
  constructor
  · intro found
    exact ⟨⟨compiled, found⟩, ((Piece.compileAll_eq_ok_iff definition.pieces).mp found).2⟩
  · rintro ⟨⟨other, found⟩, rfl⟩
    obtain ⟨letThrough, -⟩ := (Piece.compileAll_eq_ok_iff definition.pieces).mp found
    exact (Piece.compileAll_eq_ok_iff definition.pieces).mpr ⟨letThrough, rfl⟩

/-- Compilation gives what the verdict on the definition is, in any dialect: the error about the
first expression in pre-order whose name one in front of it has, else the one about the first
pattern with a group whose name is reserved or taken, else the one about the first pattern that
the dialect refuses, else the two patterns and the fields.  An error names the definition, and the
expression or the pattern with its own location. -/
theorem compile_eq_iff_verdict
    (dialect : Dialect)
    (definition : Definition)
    (result : Except ConstructionError CompiledPieces) :
    definition.compile dialect = result ↔ definition.Verdict dialect result := by
  constructor
  · rintro rfl
    cases fields : definition.checkFieldNames with
    | error error =>
        rw [compile, fields]
        exact .fieldFault (checkFieldNames_eq_error_iff.mp fields)
    | ok _ =>
        have distinct := checkFieldNames_eq_ok_iff.mp fields
        cases groups : definition.checkGroups with
        | error error =>
            rw [compile, fields, groups]
            exact .groupFault distinct (checkGroups_eq_error_iff.mp groups)
        | ok _ =>
            have apart := checkGroups_eq_ok_iff.mp groups
            cases pieces : Piece.compileAll dialect definition.name 0 definition.pieces with
            | error error =>
                rw [compile, fields, groups, pieces]
                exact .refusal distinct apart (compileAll_eq_error_iff.mp pieces)
            | ok compiled =>
                rw [compile, fields, groups, pieces]
                obtain ⟨clean, rfl⟩ := compileAll_eq_ok_iff.mp pieces
                exact .compiled distinct apart clean
  · intro verdict
    cases verdict with
    | fieldFault found =>
        rw [compile, checkFieldNames_eq_error_iff.mpr found]
        rfl
    | groupFault fields found =>
        rw [compile, checkFieldNames_eq_ok_iff.mpr fields, checkGroups_eq_error_iff.mpr found]
        rfl
    | refusal fields groups found =>
        rw [compile, checkFieldNames_eq_ok_iff.mpr fields, checkGroups_eq_ok_iff.mpr groups,
          compileAll_eq_error_iff.mpr found]
        rfl
    | compiled fields groups patterns =>
        rw [compile, checkFieldNames_eq_ok_iff.mpr fields, checkGroups_eq_ok_iff.mpr groups,
          compileAll_eq_ok_iff.mpr ⟨patterns, rfl⟩]
        rfl

end Definition
end LineExtraction

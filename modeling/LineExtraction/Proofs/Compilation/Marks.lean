import LineExtraction.Compilation.Pieces
import LineExtraction.Proofs.Outcome

/-!
# Pieces as runs of marks

Read from left to right, pieces are a run of marks: text, patterns, and the places where an
expression opens or closes.  The number of an expression says how many others open in front of
it.  Compilation writes the marks one behind the other, once for the discriminator and once for
extraction, and this is all that it does.
-/

namespace LineExtraction

/-- What stands at one place of a run of pieces. -/
inductive Mark where
  | text (content : String)
  | pattern (source : String)
  | opening (name : String)
  | closing
deriving DecidableEq, Repr

namespace Piece

mutual

/-- The marks of a piece. -/
def marks : Piece → List Mark
  | text content _ => [.text content]
  | pattern source _ => [.pattern source]
  | expression name parts _ => .opening name :: (marksOf parts ++ [.closing])

/-- The marks of pieces that stand behind each other. -/
def marksOf : List Piece → List Mark
  | [] => []
  | piece :: pieces => piece.marks ++ marksOf pieces

end

end Piece

/-! ## Numbers -/

namespace Mark

/-- The name of the expression that opens at the mark. -/
def opened? : Mark → Option String
  | opening name => some name
  | _ => none

/-- The names of the expressions that open in a run of marks, in their order. -/
def opened (marks : List Mark) : List String := marks.filterMap opened?

/-- Each mark with the number of the expressions that open in front of it, counted from
`first` on. -/
def number (first : Nat) (marks : List Mark) : List (Nat × Mark) :=
  marks.mapIdx fun index mark => (first + (opened (marks.take index)).length, mark)

/-- The names of the expressions that open in a run of marks, each with its number. -/
def numberedNames (first : Nat) (marks : List Mark) : List (String × Nat) :=
  (number first marks).filterMap fun (ordinal, mark) => mark.opened?.map (·, ordinal)

theorem opened_append
    (front back : List Mark) :
    opened (front ++ back) = opened front ++ opened back :=
  List.filterMap_append

theorem number_append
    (first : Nat)
    (front back : List Mark) :
    number first (front ++ back) =
      number first front ++ number (first + (opened front).length) back := by
  rw [number, List.mapIdx_append]
  congr 1
  · apply List.mapIdx_eq_mapIdx_iff.mpr
    intro index inside
    rw [List.take_append_of_le_length (Nat.le_of_lt inside)]
  · apply List.mapIdx_eq_mapIdx_iff.mpr
    intro index _
    rw [Nat.add_comm index, List.take_length_add_append, opened_append, List.length_append,
      Nat.add_assoc]

/-- Expressions are numbered without a gap in the order in which they open. -/
theorem numberedNames_eq_zipIdx
    (first : Nat)
    (marks : List Mark) :
    numberedNames first marks = (opened marks).zipIdx first := by
  induction marks generalizing first with
  | nil => rfl
  | cons mark marks inductionHypothesis =>
      have cut : mark :: marks = [mark] ++ marks := rfl
      have one : numberedNames first [mark] = (opened [mark]).zipIdx first := by
        cases mark <;> simp [numberedNames, number, opened, opened?]
      have others := inductionHypothesis (first + (opened [mark]).length)
      rw [cut, numberedNames, number_append, List.filterMap_append, opened_append,
        List.zipIdx_append, ← one, ← others]
      rfl

end Mark

/-! ## Writing -/

/-- How the marks of pieces are written. -/
structure Script where
  text : String → String
  pattern : String → String
  opening : Nat → String
  closing : String

namespace Script

/-- What a mark is written as behind the openings of as many expressions as `ordinal` says. -/
def mark (script : Script) (ordinal : Nat) : Mark → String
  | .text content => script.text content
  | .pattern source => script.pattern source
  | .opening _ => script.opening ordinal
  | .closing => script.closing

/-- What a run of marks is written as, if its expressions are numbered from `first` on. -/
def write (script : Script) (first : Nat) (marks : List Mark) : String :=
  String.join ((Mark.number first marks).map fun (ordinal, mark) => script.mark ordinal mark)

/-- How the pattern of a discriminator is written. -/
def discriminator : Script where
  text := Pattern.quoteLinear
  pattern := Pattern.relax
  opening _ := "(?:"
  closing := ")"

/-- How the extraction patterns of a dialect are written.  A pattern stands in them as the
dialect readies it. -/
def extraction (dialect : Dialect) : Script where
  text := dialect.literal
  pattern source := (dialect.pattern source).toOption.getD ""
  opening := dialect.openExpression
  closing := dialect.closeExpression

theorem write_append
    (script : Script)
    (first : Nat)
    (front back : List Mark) :
    script.write first (front ++ back) =
      script.write first front ++ script.write (first + (Mark.opened front).length) back := by
  rw [write, Mark.number_append, List.map_append, String.join_append]
  rfl

theorem write_singleton
    (script : Script)
    (first : Nat)
    (mark : Mark) :
    script.write first [mark] = script.mark first mark := by
  simp [write, Mark.number, Mark.opened]

/-- An expression is written around its parts. -/
theorem write_enclosed
    (script : Script)
    (first : Nat)
    (name : String)
    (inner : List Mark) :
    script.write first (.opening name :: (inner ++ [.closing])) =
      script.opening first ++ script.write (first + 1) inner ++ script.closing := by
  have cut : Mark.opening name :: (inner ++ [.closing]) =
      ([.opening name] ++ inner) ++ [.closing] := rfl
  rw [cut, write_append, write_append, write_singleton, write_singleton]
  rfl

end Script

/-- What a dialect compiles a run of marks to, if their expressions are numbered from `first`
on. -/
def CompiledPieces.ofMarks
    (dialect : Dialect)
    (first : Nat)
    (marks : List Mark) : CompiledPieces where
  discriminator := Script.discriminator.write first marks
  extraction := (Script.extraction dialect).write first marks
  fields := Mark.opened marks

theorem CompiledPieces.ofMarks_append
    (dialect : Dialect)
    (first : Nat)
    (front back : List Mark) :
    ofMarks dialect first (front ++ back) =
      (ofMarks dialect first front).append
        (ofMarks dialect (first + (Mark.opened front).length) back) := by
  simp only [ofMarks, append, Script.write_append, Mark.opened_append]

theorem CompiledPieces.ofMarks_enclosed
    (dialect : Dialect)
    (first : Nat)
    (name : String)
    (inner : List Mark) :
    ofMarks dialect first (.opening name :: (inner ++ [.closing])) =
      (ofMarks dialect (first + 1) inner).enclose dialect first name := by
  have names : Mark.opened (.opening name :: (inner ++ [.closing])) =
      name :: Mark.opened inner := by
    simp [Mark.opened, Mark.opened?]
  simp only [ofMarks, enclose, Script.write_enclosed, names]
  rfl

/-! ## Compilation -/

/-- Whether a dialect lets every one of some patterns through. -/
def Dialect.LetsThrough (dialect : Dialect) (patterns : List (String × Location)) : Prop :=
  ∀ source ∈ patterns, ∃ fragment, dialect.pattern source.1 = .ok fragment

theorem Dialect.letsThrough_append_iff
    {dialect : Dialect}
    {front back : List (String × Location)} :
    dialect.LetsThrough (front ++ back) ↔
      dialect.LetsThrough front ∧ dialect.LetsThrough back :=
  List.forall_mem_append

namespace Piece

mutual

theorem opened_marks
    (piece : Piece) :
    Mark.opened piece.marks = piece.expressions.map (·.1) := by
  cases piece with
  | text content location => rfl
  | pattern source location => rfl
  | expression name parts location =>
      have inner := opened_marksOf parts
      simp only [Mark.opened] at inner
      simp [marks, expressions, Mark.opened, Mark.opened?, inner]

/-- The expressions open in pre-order. -/
theorem opened_marksOf
    (pieces : List Piece) :
    Mark.opened (marksOf pieces) = (expressionsOf pieces).map (·.1) := by
  cases pieces with
  | nil => rfl
  | cons piece pieces =>
      rw [marksOf, Mark.opened_append, opened_marks piece, opened_marksOf pieces, expressionsOf,
        List.map_append]

end

mutual

theorem compile_eq_ok_iff
    {dialect : Dialect}
    {definition : String}
    {first : Nat}
    {compiled : CompiledPieces}
    (piece : Piece) :
    piece.compile dialect definition first = .ok compiled ↔
      dialect.LetsThrough piece.patterns ∧ compiled = .ofMarks dialect first piece.marks := by
  cases piece with
  | text content location =>
      have written : CompiledPieces.ofMarks dialect first [.text content] =
          ⟨Pattern.quoteLinear content, dialect.literal content, []⟩ := by
        simp only [CompiledPieces.ofMarks, Script.write_singleton]
        rfl
      rw [compile, marks, written, Except.ok.injEq, eq_comm]
      exact (and_iff_right nofun).symm
  | pattern source location =>
      have written : CompiledPieces.ofMarks dialect first [.pattern source] =
          ⟨Pattern.relax source, (dialect.pattern source).toOption.getD "", []⟩ := by
        simp only [CompiledPieces.ofMarks, Script.write_singleton]
        rfl
      have alone : dialect.LetsThrough [(source, location)] ↔
          ∃ fragment, dialect.pattern source = .ok fragment := List.forall_mem_singleton
      rw [compile, patterns, marks, written, alone]
      cases found : dialect.pattern source with
      | error cause => simp
      | ok fragment =>
          simp only [Except.ok.injEq, exists_eq', true_and]
          exact eq_comm
  | expression name parts location =>
      rw [marks, patterns, CompiledPieces.ofMarks_enclosed, compile, Except.bind_eq_ok_iff]
      constructor
      · rintro ⟨inside, found, made⟩
        obtain ⟨letThrough, rfl⟩ := (compileAll_eq_ok_iff parts).mp found
        exact ⟨letThrough, (Except.ok.inj made).symm⟩
      · rintro ⟨letThrough, rfl⟩
        exact ⟨_, (compileAll_eq_ok_iff parts).mpr ⟨letThrough, rfl⟩, rfl⟩

/-- Pieces compile just if their patterns are let through, and then to what their marks are
written as. -/
theorem compileAll_eq_ok_iff
    {dialect : Dialect}
    {definition : String}
    {first : Nat}
    {compiled : CompiledPieces}
    (pieces : List Piece) :
    compileAll dialect definition first pieces = .ok compiled ↔
      dialect.LetsThrough (patternsOf pieces) ∧
        compiled = .ofMarks dialect first (marksOf pieces) := by
  cases pieces with
  | nil =>
      rw [compileAll, Except.ok.injEq, eq_comm]
      exact (and_iff_right nofun).symm
  | cons piece pieces =>
      rw [compileAll, patternsOf, marksOf, Dialect.letsThrough_append_iff,
        CompiledPieces.ofMarks_append, Except.bind_eq_ok_iff]
      constructor
      · rintro ⟨front, frontFound, found⟩
        obtain ⟨back, backFound, made⟩ := Except.bind_eq_ok_iff.mp found
        obtain ⟨frontThrough, rfl⟩ := (compile_eq_ok_iff piece).mp frontFound
        obtain ⟨backThrough, rfl⟩ := (compileAll_eq_ok_iff pieces).mp backFound
        exact ⟨⟨frontThrough, backThrough⟩, (Except.ok.inj made).symm⟩
      · rintro ⟨⟨frontThrough, backThrough⟩, rfl⟩
        refine ⟨_, (compile_eq_ok_iff piece).mpr ⟨frontThrough, rfl⟩, ?_⟩
        exact Except.bind_eq_ok_iff.mpr
          ⟨_, (compileAll_eq_ok_iff pieces).mpr ⟨backThrough, rfl⟩, rfl⟩

end

end Piece

/-! ## Definitions -/

/-- The marks of a definition. -/
def Definition.marks (definition : Definition) : List Mark := Piece.marksOf definition.pieces

/-- In any dialect a piece compiles just if its patterns are let through.  Its fields are then
the names of its expressions in pre-order, and its two patterns are its marks from left to right,
where the expressions have consecutive numbers in the order in which they open.  A definition
that passes the checks of its names compiles in the same way, with numbers from 0 on. -/
theorem Definition.compile_eq_ok_iff_ofMarks
    (dialect : Dialect) :
    (∀ (piece : Piece) (definition : String) (first : Nat),
      (∀ compiled,
        piece.compile dialect definition first = .ok compiled ↔
          dialect.LetsThrough piece.patterns ∧
            compiled.fields = piece.expressions.map (·.1) ∧
            compiled.extraction = (Script.extraction dialect).write first piece.marks ∧
            compiled.discriminator = Script.discriminator.write first piece.marks) ∧
      Mark.numberedNames first piece.marks = (piece.expressions.map (·.1)).zipIdx first) ∧
    ∀ definition : Definition,
      (∀ compiled,
        definition.compile dialect = .ok compiled ↔
          definition.checkFieldNames = .ok () ∧ definition.checkGroups = .ok () ∧
            dialect.LetsThrough definition.patterns ∧
            compiled.fields = definition.fieldNames ∧
            compiled.extraction = (Script.extraction dialect).write 0 definition.marks ∧
            compiled.discriminator = Script.discriminator.write 0 definition.marks) ∧
      (Mark.numberedNames 0 definition.marks).map (·.1) = definition.fieldNames ∧
      (Mark.numberedNames 0 definition.marks).map (·.2) =
        List.range definition.fieldNames.length := by
  have parts (compiled : CompiledPieces) (first : Nat) (marks : List Mark) :
      compiled = .ofMarks dialect first marks ↔
        compiled.fields = Mark.opened marks ∧
          compiled.extraction = (Script.extraction dialect).write first marks ∧
          compiled.discriminator = Script.discriminator.write first marks := by
    constructor
    · rintro rfl
      exact ⟨rfl, rfl, rfl⟩
    · rintro ⟨fields, extraction, discriminator⟩
      obtain ⟨_, _, _⟩ := compiled
      simp only at fields extraction discriminator
      subst fields extraction discriminator
      rfl
  constructor
  · intro piece definition first
    constructor
    · intro compiled
      rw [Piece.compile_eq_ok_iff, parts, piece.opened_marks]
    · rw [Mark.numberedNames_eq_zipIdx, piece.opened_marks]
  · intro definition
    have names : Mark.opened definition.marks = definition.fieldNames :=
      Piece.opened_marksOf definition.pieces
    constructor
    · intro compiled
      rw [← names, ← parts]
      constructor
      · intro found
        obtain ⟨_, fieldNames, found⟩ := Except.bind_eq_ok_iff.mp found
        obtain ⟨_, groups, found⟩ := Except.bind_eq_ok_iff.mp found
        exact ⟨fieldNames, groups, (Piece.compileAll_eq_ok_iff definition.pieces).mp found⟩
      · rintro ⟨fieldNames, groups, compiles⟩
        refine Except.bind_eq_ok_iff.mpr ⟨_, fieldNames, Except.bind_eq_ok_iff.mpr ⟨_, groups, ?_⟩⟩
        exact (Piece.compileAll_eq_ok_iff definition.pieces).mpr compiles
    · rw [Mark.numberedNames_eq_zipIdx, names]
      refine ⟨List.zipIdx_map_fst 0 _, ?_⟩
      rw [List.range_eq_range']
      exact List.zipIdx_map_snd 0 _

example :
    Mark.numberedNames 0
        (Piece.marksOf
          [.expression "a"
              [.expression "b" [] .unknown, .text "-" .unknown, .expression "c" [] .unknown]
              .unknown,
            .expression "d" [] .unknown]) =
      [("a", 0), ("b", 1), ("c", 2), ("d", 3)] := by
  decide

end LineExtraction

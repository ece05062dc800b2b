import LineExtraction.Compilation.Options
import LineExtraction.Compilation.Pieces
import LineExtraction.Proofs.Compilation.Groups

/-!
# How pieces are written

The pieces of a definition are written one behind the other, once for the discriminator
and once for extraction.  What is written depends on the kind of each piece and on the
number of the first expression that opens in it, and on nothing around it.
-/

namespace LineExtraction

open Pattern (isLinearMeta isBacktrackingMeta quoteWith relaxChars wrapChars)

/-! ## Groups of expressions -/

/-- The text that opens the group of an expression. -/
def captureHeader (ordinal : Nat) : List Char :=
  '(' :: '?' :: 'P' :: '<' :: (expressionName ordinal ++ ['>'])

/-! ## The ways of writing -/

/-- What pieces are written for: the discriminator, or extraction with some backend. -/
inductive Writing where
  | discriminator
  | extraction (backend : Backend)

namespace Writing

/-- The characters that are quoted in text. -/
def isMeta : Writing → Char → Bool
  | extraction .backtracking => isBacktrackingMeta
  | _ => isLinearMeta

/-- What is wrapped for a pattern piece. -/
def fragment : Writing → String → List Char
  | discriminator, source => relaxChars source.toList
  | extraction _, source => source.toList

/-- What opens the group of an expression. -/
def header : Writing → Nat → List Char
  | discriminator, _ => ['(', '?', ':']
  | extraction _, ordinal => captureHeader ordinal

end Writing

namespace Piece

mutual

/-- What a piece is written as.  `ordinal` is the number of the first expression that
opens in it. -/
def spelled (writing : Writing) (ordinal : Nat) : Piece → List Char
  | text content _ => quoteWith writing.isMeta content.toList
  | pattern source _ => wrapChars (writing.fragment source)
  | expression _ parts _ =>
    writing.header ordinal ++ (spelledAll writing (ordinal + 1) parts ++ [')'])

/-- What pieces that stand behind each other are written as. -/
def spelledAll (writing : Writing) (ordinal : Nat) : List Piece → List Char
  | [] => []
  | piece :: pieces =>
    piece.spelled writing ordinal ++
      spelledAll writing (ordinal + piece.expressions.length) pieces

end

end Piece

/-- The characters of an anchored pattern. -/
theorem Dialect.toList_anchored
    (pattern : String) :
    (anchored pattern).toList =
      '\\' :: 'A' :: '(' :: '?' :: ':' :: (pattern.toList ++ [')', '\\', 'z']) := by
  simp [anchored, String.toList_append]

/-! ## What compilation writes -/

/-- Whether the extraction patterns of a dialect are written for a backend. -/
structure Dialect.Writes (dialect : Dialect) (backend : Backend) : Prop where
  /-- Text is quoted. -/
  literal : ∀ content, (dialect.literal content).toList =
    quoteWith (Writing.extraction backend).isMeta content.toList
  /-- A pattern that is let through is wrapped. -/
  pattern : ∀ source extraction, dialect.pattern source = .ok extraction →
    extraction = Pattern.wrap source
  /-- An expression opens a capture under its name. -/
  openExpression : ∀ ordinal, (dialect.openExpression ordinal).toList = captureHeader ordinal
  /-- The capture of an expression closes as any group. -/
  closeExpression : dialect.closeExpression = ")"

theorem Options.dialect_writes
    (options : Options) :
    options.dialect.Writes options.backend := by
  obtain ⟨backend, sizeLimit, dfaSizeLimit, backtrackLimit, parallel⟩ := options
  cases backend with
  | linear =>
      refine ⟨fun content => ?_, fun source extraction found => ?_, fun ordinal => ?_, rfl⟩
      · exact String.toList_ofList
      · obtain ⟨regex, -, made⟩ := Except.bind_eq_ok_iff.mp found
        exact (Except.ok.inj made).symm
      · simp [dialect, Dialect.linear, captureHeader, expressionName]
  | backtracking =>
      refine ⟨fun content => ?_, fun source extraction found => ?_, fun ordinal => ?_, rfl⟩
      · exact String.toList_ofList
      · simp only [dialect, Dialect.backtracking] at found
        split at found
        · cases found
        · obtain ⟨regex, -, made⟩ := Except.bind_eq_ok_iff.mp found
          exact (Except.ok.inj made).symm
      · simp [dialect, Dialect.backtracking, captureHeader, expressionName]

namespace Piece

/-- What a run of pieces is compiled to. -/
structure Compiles (dialect : Dialect) (backend : Backend) (ordinal : Nat)
    (pieces : List Piece) (result : CompiledPieces) : Prop where
  /-- The extraction pattern is written piece by piece. -/
  extraction : result.extraction.toList = spelledAll (.extraction backend) ordinal pieces
  /-- So is the discriminator pattern. -/
  discriminator : result.discriminator.toList = spelledAll .discriminator ordinal pieces
  /-- The fields are the expressions in the order in which they open. -/
  fields : result.fields = (expressionsOf pieces).map (·.1)
  /-- Every pattern is let through. -/
  fragments : ∀ source ∈ patternsOf pieces,
    ∃ extraction, dialect.pattern source.1 = .ok extraction

mutual

theorem compiles_of_compile
    {dialect : Dialect}
    {backend : Backend}
    (writes : dialect.Writes backend)
    {ordinal : Nat}
    {name : String}
    {result : CompiledPieces}
    (piece : Piece)
    (compiled : piece.compile dialect name ordinal = .ok result) :
    Compiles dialect backend ordinal [piece] result := by
  cases piece with
  | text content location =>
      obtain rfl := Except.ok.inj compiled
      refine ⟨?_, ?_, rfl, nofun⟩
      · simp [spelledAll, spelled, writes.literal]
      · simp [spelledAll, spelled, Pattern.quoteLinear, Writing.isMeta]
  | pattern source location =>
      rw [compile] at compiled
      split at compiled
      · cases compiled
      · next extraction found =>
          obtain rfl := Except.ok.inj compiled
          obtain rfl := writes.pattern source extraction found
          refine ⟨?_, ?_, rfl, ?_⟩
          · simp [spelledAll, spelled, Writing.fragment, Pattern.wrap]
          · simp [spelledAll, spelled, Writing.fragment, Pattern.relax]
          · intro other member
            obtain rfl : other = (source, location) := by simpa [patternsOf, patterns] using member
            exact ⟨_, found⟩
  | expression label parts location =>
      obtain ⟨inner, innerCompiled, compiled⟩ := Except.bind_eq_ok_iff.mp compiled
      obtain rfl := Except.ok.inj compiled
      have inside := compiles_of_compileAll writes parts innerCompiled
      refine ⟨?_, ?_, ?_, ?_⟩
      · simp [CompiledPieces.enclose, spelledAll, spelled, String.toList_append, inside.extraction,
          Writing.header, writes.openExpression, writes.closeExpression]
      · simp [CompiledPieces.enclose, spelledAll, spelled, String.toList_append,
          inside.discriminator, Writing.header]
      · simp [CompiledPieces.enclose, expressionsOf, expressions, inside.fields]
      · simpa [patternsOf, patterns] using inside.fragments

theorem compiles_of_compileAll
    {dialect : Dialect}
    {backend : Backend}
    (writes : dialect.Writes backend)
    {ordinal : Nat}
    {name : String}
    {result : CompiledPieces}
    (pieces : List Piece)
    (compiled : compileAll dialect name ordinal pieces = .ok result) :
    Compiles dialect backend ordinal pieces result := by
  cases pieces with
  | nil =>
      obtain rfl := Except.ok.inj compiled
      exact ⟨rfl, rfl, rfl, nofun⟩
  | cons piece pieces =>
      obtain ⟨front, frontCompiled, compiled⟩ := Except.bind_eq_ok_iff.mp compiled
      obtain ⟨back, backCompiled, compiled⟩ := Except.bind_eq_ok_iff.mp compiled
      obtain rfl := Except.ok.inj compiled
      have frontWritten := compiles_of_compile writes piece frontCompiled
      have length : front.fields.length = piece.expressions.length := by
        rw [frontWritten.fields]
        simp [expressionsOf]
      rw [length] at backCompiled
      have backWritten := compiles_of_compileAll writes pieces backCompiled
      refine ⟨?_, ?_, ?_, ?_⟩
      · simp [CompiledPieces.append, String.toList_append, frontWritten.extraction,
          backWritten.extraction, spelledAll]
      · simp [CompiledPieces.append, String.toList_append, frontWritten.discriminator,
          backWritten.discriminator, spelledAll]
      · simp [CompiledPieces.append, frontWritten.fields, backWritten.fields, expressionsOf]
      · intro source member
        rcases List.mem_append.mp member with inFront | inBack
        · exact frontWritten.fragments source (by simpa [patternsOf] using inFront)
        · exact backWritten.fragments source inBack

end

end Piece

/-- A definition that compiles is written piece by piece. -/
theorem Definition.compiles_of_compile
    {dialect : Dialect}
    {backend : Backend}
    (writes : dialect.Writes backend)
    {definition : Definition}
    {result : CompiledPieces}
    (compiled : definition.compile dialect = .ok result) :
    Piece.Compiles dialect backend 0 definition.pieces result := by
  obtain ⟨_, -, compiled⟩ := Except.bind_eq_ok_iff.mp compiled
  obtain ⟨_, -, compiled⟩ := Except.bind_eq_ok_iff.mp compiled
  exact Piece.compiles_of_compileAll writes definition.pieces compiled

end LineExtraction

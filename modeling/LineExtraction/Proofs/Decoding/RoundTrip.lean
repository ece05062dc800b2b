import LineExtraction.Proofs.Decoding.NumberSizes
import LineExtraction.Proofs.Decoding.WrittenFiles

/-!
# Writing and reading definition files

A definition file that is written and read again is the same file, and so is one that was
read before it was written.  Only the limit on nesting stands against it: a written file says
every location, so it may nest one level deeper than the text that it was read from.
-/

namespace LineExtraction
namespace Json

open Decoding (ReadError)

/-- A definition file is read back from its text, and reading, writing and reading again gives
what the first reading gave, unless the written file nests too deeply. -/
theorem readDefinitionFile_inverts_render :
    (∀ file : DefinitionFile,
      file.written.IsPlain →
      file.written.depth < nestLimit →
      readDefinitionFile file.render = .ok file) ∧
    ∀ (text : String) (file : DefinitionFile),
      readDefinitionFile text = .ok file →
      file.written.depth < nestLimit →
      readDefinitionFile file.render = .ok file := by
  constructor
  · intro file plain shallow
    exact readDefinitionFile_render plain shallow
  · intro text file read shallow
    exact readDefinitionFile_render (isPlain_of_readDefinitionFile read) shallow

/-- A file with long numbers, quotes and an expression in an expression. -/
def nestedFile : DefinitionFile where
  options := ⟨.backtracking, some maximalInteger, none, some 0, true⟩
  definitions :=
    [⟨"say \"hi\"",
      [.text "a\n\\" ⟨some "x.json", maximalInteger, 1⟩,
        .expression "outer"
          [.expression "inner" [.pattern "[0-9]+" .unknown, .text "\u0001é" .unknown] .unknown]
          .unknown],
      ⟨none, 3, maximalInteger⟩⟩]

theorem readDefinitionFile_inverts_render_nestedFile :
    nestedFile.written.IsPlain ∧
      nestedFile.written.depth < nestLimit ∧
      readDefinitionFile nestedFile.render = .ok nestedFile ∧
      readDefinitionFile nestedFile.render = .ok nestedFile := by
  have plain : nestedFile.written.IsPlain := by
    simp [nestedFile, DefinitionFile.written, Options.written, Definition.written, Piece.written,
      Piece.writtenAll, Location.written, Location.unknown, Value.IsPlain, Value.ArePlain,
      Value.HasPlainEntries, Value.ofOption, Decoding.isPlain_ofNat_iff, maximalInteger]
  have shallow : nestedFile.written.depth < nestLimit := by decide
  have read := readDefinitionFile_inverts_render.1 nestedFile plain shallow
  exact ⟨plain, shallow, read, readDefinitionFile_inverts_render.2 _ _ read shallow⟩

/-- An expression around another, as many as given, without locations. -/
def unlocated : Nat → Value
  | 0 => .map [("type", .text "text"), ("text", .text "x")]
  | count + 1 =>
    .map [("type", .text "expression"), ("name", .text "f"), ("parts", .list [unlocated count])]

/-- A file whose pieces nest as deeply as they may, without locations. -/
def unlocatedFile : Value :=
  .map [("extractions", .list [.map [("name", .text "d"), ("pieces", .list [unlocated 61])]])]

theorem isPlain_unlocated
    (count : Nat) :
    (unlocated count).IsPlain := by
  induction count with
  | zero => exact ⟨trivial, trivial, trivial⟩
  | succ count inductionHypothesis =>
      exact ⟨trivial, trivial, ⟨inductionHypothesis, trivial⟩, trivial⟩

theorem isPlain_unlocatedFile : unlocatedFile.IsPlain :=
  ⟨⟨⟨trivial, ⟨isPlain_unlocated 61, trivial⟩, trivial⟩, trivial⟩, trivial⟩

/-- Locations are written where none were said, which can make a file too deep to be read. -/
theorem exists_readDefinitionFile_render_eq_error :
    ∃ file,
      readDefinitionFile unlocatedFile.render = .ok file ∧
      readDefinitionFile file.render = .error (.fault .illFormed) := by
  have computed :
      (Decoding.readFile (Cursor.mk nestLimit (.ofValue unlocatedFile))).outcome.toOption.any
        (fun file =>
          Except.cause? (Decoding.readFile (Cursor.mk nestLimit (.ofValue file.written))).outcome =
            some (ReadError.fault .illFormed)) =
        true := by
    decide +kernel
  obtain ⟨file, read, refused⟩ := Except.exists_ok_of_decide computed
  have accepted : readDefinitionFile unlocatedFile.render = .ok file := by
    rw [readDefinitionFile, readDocument_render isPlain_unlocatedFile]
    simp only [read]
    rfl
  refine ⟨file, accepted, ?_⟩
  rw [readDefinitionFile, DefinitionFile.render,
    readDocument_render (isPlain_of_readDefinitionFile accepted)]
  simp only [Except.eq_error_of_cause? (of_decide_eq_true refused)]
  rfl

end Json
end LineExtraction

import LineExtraction.Proofs.Linear.Lowering
import LineExtraction.Proofs.Linear.Reading

/-!
# Bounds of parsed repetitions

A repetition is only parsed when its bounds are in order, so every pattern with a parse
is bounded.
-/

namespace LineExtraction
namespace Linear

/-- Whether the bounds of a repetition are in order. -/
def Repeat.InOrder (count : Repeat) : Prop :=
  ∀ bound ∈ count.max, count.min ≤ bound

/-! ## Quantifiers -/

theorem inOrder_readCountEnd
    {verbose : Bool}
    {min : Nat}
    {max : Option Nat}
    {text : List Char}
    {read : Read Repeat text}
    (found : readCountEnd verbose min max text = .ok read) :
    read.value.InOrder := by
  unfold readCountEnd at found
  split at found
  · dsimp only at found
    split at found
    · cases found
    · next ordered =>
        obtain rfl := Except.ok.inj found
        intro bound isBound
        obtain rfl : max = some bound := isBound
        simpa using ordered
  · cases found

theorem inOrder_readCounted
    {verbose : Bool}
    {text : List Char}
    {read : Read Repeat text}
    (found : readCounted verbose text = .ok read) :
    read.value.InOrder := by
  unfold readCounted at found
  split at found
  · cases found
  dsimp only at found
  split at found
  · cases found
  · split at found
    · cases found
    · obtain ⟨min, -, found⟩ := Except.bind_eq_ok_iff.mp found
      obtain ⟨inner, innerFound, found⟩ := Except.bind_eq_ok_iff.mp found
      obtain rfl := Except.ok.inj found
      exact (inOrder_readCountEnd innerFound : inner.value.InOrder)
    · obtain ⟨min, -, found⟩ := Except.bind_eq_ok_iff.mp found
      obtain ⟨max, -, found⟩ := Except.bind_eq_ok_iff.mp found
      obtain ⟨inner, innerFound, found⟩ := Except.bind_eq_ok_iff.mp found
      obtain rfl := Except.ok.inj found
      exact (inOrder_readCountEnd innerFound : inner.value.InOrder)
  · obtain ⟨min, -, found⟩ := Except.bind_eq_ok_iff.mp found
    obtain ⟨inner, innerFound, found⟩ := Except.bind_eq_ok_iff.mp found
    obtain rfl := Except.ok.inj found
    exact (inOrder_readCountEnd innerFound : inner.value.InOrder)

theorem inOrder_readQuantifier?
    {verbose : Bool}
    {first : Char}
    {text : List Char}
    {read : Read Repeat text}
    (found : readQuantifier? verbose first text = some (.ok read)) :
    read.value.InOrder := by
  unfold readQuantifier? at found
  split at found
  · obtain rfl := Except.ok.inj (Option.some.inj found)
    rintro bound ⟨⟩
    exact Nat.zero_le 1
  · obtain rfl := Except.ok.inj (Option.some.inj found)
    exact nofun
  · obtain rfl := Except.ok.inj (Option.some.inj found)
    exact nofun
  · exact inOrder_readCounted (Option.some.inj found)
  · cases found

/-! ## Patterns -/

/-- Whether what a token asks for is bounded. -/
def Lexeme.Bounded : Lexeme → Prop
  | .part ast => ast.Bounded
  | .repeats count => count.InOrder
  | _ => True

theorem bounded_readLexeme
    {verbose : Bool}
    {first : Char}
    {text : List Char}
    {lexeme : Read Lexeme text}
    (read : readLexeme verbose first text = .ok lexeme) :
    lexeme.value.Bounded := by
  unfold readLexeme at read
  split at read
  · obtain ⟨header, -, read⟩ := Except.bind_eq_ok_iff.mp read
    obtain rfl := Except.ok.inj read
    trivial
  · obtain rfl := Except.ok.inj read
    trivial
  · obtain rfl := Except.ok.inj read
    trivial
  · obtain ⟨parsed, -, read⟩ := Except.bind_eq_ok_iff.mp read
    obtain rfl := Except.ok.inj read
    trivial
  · obtain ⟨⟨primitive, rest, shorter⟩, -, read⟩ := Except.bind_eq_ok_iff.mp read
    obtain rfl := Except.ok.inj read
    cases primitive <;> trivial
  · obtain rfl := Except.ok.inj read
    trivial
  · obtain rfl := Except.ok.inj read
    trivial
  · obtain rfl := Except.ok.inj read
    trivial
  · split at read
    · next quantifier found =>
        obtain ⟨count, countFound, read⟩ := Except.bind_eq_ok_iff.mp read
        obtain rfl := Except.ok.inj read
        exact inOrder_readQuantifier? (found.trans (congrArg some countFound))
    · obtain rfl := Except.ok.inj read
      trivial

namespace Ast

theorem bounded_ofParts_iff
    (parts : List Ast) :
    (ofParts parts).Bounded ↔ ∀ part ∈ parts, part.Bounded := by
  induction parts with
  | nil => exact iff_of_true trivial nofun
  | cons part parts inductionHypothesis =>
      cases parts with
      | nil => exact List.forall_mem_singleton.symm
      | cons next parts =>
          rw [ofParts, Bounded, inductionHypothesis, ← List.forall_mem_cons]
          exact nofun

theorem bounded_ofBranches_iff
    (branches : List Ast) :
    (ofBranches branches).Bounded ↔ ∀ branch ∈ branches, branch.Bounded := by
  induction branches with
  | nil => exact iff_of_true trivial nofun
  | cons branch branches inductionHypothesis =>
      cases branches with
      | nil => exact List.forall_mem_singleton.symm
      | cons next branches =>
          rw [ofBranches, Bounded, inductionHypothesis, ← List.forall_mem_cons]
          exact nofun

end Ast

/-- Whether everything read on a level is bounded. -/
structure Level.Bounded (level : Level) : Prop where
  /-- The finished branches are. -/
  branches : ∀ branch ∈ level.branches, branch.Bounded
  /-- The parts of the current branch are. -/
  parts : ∀ part ∈ level.parts, part.Bounded

namespace Level.Bounded

variable {level : Level} (bounded : level.Bounded)
include bounded

theorem current : (Ast.ofParts level.parts.reverse).Bounded :=
  (Ast.bounded_ofParts_iff _).mpr fun part member => bounded.parts part (List.mem_reverse.mp member)

theorem toAst : level.toAst.Bounded := by
  rw [Level.toAst, Ast.bounded_ofBranches_iff]
  intro branch member
  rcases List.mem_cons.mp (List.mem_reverse.mp member) with rfl | finished
  · exact bounded.current
  · exact bounded.branches branch finished

theorem nextBranch : level.nextBranch.Bounded :=
  ⟨List.forall_mem_cons.mpr ⟨bounded.current, bounded.branches⟩, nofun⟩

theorem push
    {part : Ast}
    (partBounded : part.Bounded) :
    (level.push part).Bounded :=
  ⟨bounded.branches, List.forall_mem_cons.mpr ⟨partBounded, bounded.parts⟩⟩

end Level.Bounded

theorem Level.bounded_start : Level.start.Bounded := ⟨nofun, nofun⟩

/-- Whether everything that has been read is bounded. -/
structure ParseState.Bounded (state : ParseState) : Prop where
  /-- The innermost level is. -/
  level : state.level.Bounded
  /-- The levels around it are. -/
  groups : ∀ group ∈ state.groups, group.outer.Bounded

/-- A token keeps what has been read bounded. -/
theorem ParseState.Bounded.take
    {state next : ParseState}
    {lexeme : Lexeme}
    (bounded : state.Bounded)
    (lexemeBounded : lexeme.Bounded)
    (taken : state.take lexeme = .ok next) :
    next.Bounded := by
  cases lexeme with
  | opens header =>
      cases header with
      | unnamed =>
          obtain rfl := Except.ok.inj taken
          exact ⟨Level.bounded_start, List.forall_mem_cons.mpr ⟨bounded.level, bounded.groups⟩⟩
      | named name =>
          simp only [ParseState.take, enter] at taken
          split at taken
          · cases taken
          · obtain rfl := Except.ok.inj taken
            exact ⟨Level.bounded_start, List.forall_mem_cons.mpr ⟨bounded.level, bounded.groups⟩⟩
      | plain flags =>
          obtain rfl := Except.ok.inj taken
          exact ⟨Level.bounded_start, List.forall_mem_cons.mpr ⟨bounded.level, bounded.groups⟩⟩
      | directive flags =>
          obtain rfl := Except.ok.inj taken
          exact ⟨bounded.level.push trivial, bounded.groups⟩
  | closes =>
      obtain ⟨verbose, level, groups, captures, names⟩ := state
      cases groups with
      | nil => cases taken
      | cons group groups =>
          obtain rfl := Except.ok.inj taken
          obtain ⟨outer, others⟩ := List.forall_mem_cons.mp bounded.groups
          exact ⟨outer.push bounded.level.toAst, others⟩
  | branches =>
      obtain rfl := Except.ok.inj taken
      exact ⟨bounded.level.nextBranch, bounded.groups⟩
  | part part =>
      obtain rfl := Except.ok.inj taken
      exact ⟨bounded.level.push lexemeBounded, bounded.groups⟩
  | repeats count =>
      simp only [ParseState.take] at taken
      split at taken
      · obtain rfl := Except.ok.inj taken
        obtain ⟨verbose, ⟨branches, parts⟩, groups, captures, names⟩ := state
        cases parts with
        | nil => exact bounded
        | cons part parts =>
            obtain ⟨last, others⟩ := List.forall_mem_cons.mp bounded.level.parts
            exact ⟨⟨bounded.level.branches, List.forall_mem_cons.mpr ⟨⟨lexemeBounded, last⟩, others⟩⟩,
              bounded.groups⟩
      · cases taken

theorem ParseState.Bounded.reads
    {state last : ParseState}
    {text rest : List Char}
    (bounded : state.Bounded)
    (reads : Reads state text last rest) :
    last.Bounded := by
  induction reads with
  | refl => exact bounded
  | token skipped read taken others inductionHypothesis =>
      exact inductionHypothesis (bounded.take (bounded_readLexeme read) taken)

/-- Every pattern with a parse is bounded. -/
theorem bounded_parse
    {text : List Char}
    {ast : Ast}
    (found : parse text = .ok ast) :
    ast.Bounded := by
  obtain ⟨last, read, -, rfl, -⟩ := parse_eq_ok_iff.mp found
  obtain ⟨rest, reads, -⟩ := readTokens_eq_ok_iff.mp read
  exact (ParseState.Bounded.reads ⟨Level.bounded_start, List.forall_mem_nil _⟩ reads).level.toAst

end Linear
end LineExtraction

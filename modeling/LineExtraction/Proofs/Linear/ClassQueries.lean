import LineExtraction.Linear.Regex
import LineExtraction.Proofs.Linear.Reading
import LineExtraction.Proofs.Linear.Skimming
import LineExtraction.Proofs.Unicode.ClassNames

/-!
# What the classes of an accepted pattern are asked for by

A pattern is accepted only if its classes are known, and no landmark stands in the name of a
class that is known.  So none stands in the name of a class that the parser reads off an
accepted pattern.
-/

namespace LineExtraction
namespace Linear

theorem not_mem_landmarks_of_isLooseChar
    {char : Char}
    (loose : Unicode.isLooseChar char) :
    char ∉ landmarks := by
  have checked : landmarks.all fun char => !Unicode.isLooseChar char := by decide
  intro member
  have strict := List.all_eq_true.mp checked char member
  rw [loose] at strict
  cases strict

/-- A class that is known is asked for by no landmark. -/
theorem ClassQuery.isPlain_of_members
    {query : ClassQuery}
    {set : Unicode.CodePointSet}
    (found : query.members = .ok set) :
    query.IsPlain := by
  cases query with
  | named name =>
      exact fun char member => not_mem_landmarks_of_isLooseChar
        (Unicode.isLooseChar_of_classNamed (Except.mapError_eq_ok_iff.mp found) char member)
  | valued property value =>
      exact fun char member => not_mem_landmarks_of_isLooseChar
        (Unicode.isLooseChar_of_classValued (Except.mapError_eq_ok_iff.mp found) char member)

/-! ## Patterns -/

namespace Ast

/-- Whether the classes that stand outside of brackets are asked for by no landmark. -/
def IsPlain : Ast → Prop
  | unicode _ query => query.IsPlain
  | repetition _ body => body.IsPlain
  | group _ body => body.IsPlain
  | concat first rest => first.IsPlain ∧ rest.IsPlain
  | alternation first rest => first.IsPlain ∧ rest.IsPlain
  | _ => True

theorem isPlain_of_lower
    {ast : Ast}
    {flags : Flags}
    {lowered : Lowered}
    (found : lower flags ast = .ok lowered) :
    ast.IsPlain := by
  induction ast generalizing flags lowered with
  | unicode negated query =>
      obtain ⟨set, setFound, -⟩ := Except.bind_eq_ok_iff.mp found
      rw [unicodeSet] at setFound
      split at setFound
      · obtain ⟨members, membersFound, -⟩ := Except.bind_eq_ok_iff.mp setFound
        exact ClassQuery.isPlain_of_members membersFound
      · cases setFound
  | repetition count body inductionHypothesis =>
      obtain ⟨inner, innerFound, -⟩ := Except.bind_eq_ok_iff.mp found
      exact inductionHypothesis innerFound
  | group kind body inductionHypothesis =>
      cases kind with
      | capture index name =>
          obtain ⟨inner, innerFound, -⟩ := Except.bind_eq_ok_iff.mp found
          exact inductionHypothesis innerFound
      | plain items =>
          obtain ⟨inner, innerFound, -⟩ := Except.bind_eq_ok_iff.mp found
          exact inductionHypothesis innerFound
  | concat first rest firstHypothesis restHypothesis =>
      obtain ⟨front, frontFound, found⟩ := Except.bind_eq_ok_iff.mp found
      obtain ⟨back, backFound, -⟩ := Except.bind_eq_ok_iff.mp found
      exact ⟨firstHypothesis frontFound, restHypothesis backFound⟩
  | alternation first rest firstHypothesis restHypothesis =>
      obtain ⟨front, frontFound, found⟩ := Except.bind_eq_ok_iff.mp found
      obtain ⟨back, backFound, -⟩ := Except.bind_eq_ok_iff.mp found
      exact ⟨firstHypothesis frontFound, restHypothesis backFound⟩
  | _ => trivial

theorem isPlain_ofParts_iff
    (parts : List Ast) :
    (ofParts parts).IsPlain ↔ ∀ part ∈ parts, part.IsPlain := by
  induction parts with
  | nil => exact iff_of_true trivial nofun
  | cons part parts inductionHypothesis =>
      cases parts with
      | nil => exact List.forall_mem_singleton.symm
      | cons next parts =>
          rw [ofParts, IsPlain, inductionHypothesis, ← List.forall_mem_cons]
          exact nofun

theorem isPlain_ofBranches_iff
    (branches : List Ast) :
    (ofBranches branches).IsPlain ↔ ∀ branch ∈ branches, branch.IsPlain := by
  induction branches with
  | nil => exact iff_of_true trivial nofun
  | cons branch branches inductionHypothesis =>
      cases branches with
      | nil => exact List.forall_mem_singleton.symm
      | cons next branches =>
          rw [ofBranches, IsPlain, inductionHypothesis, ← List.forall_mem_cons]
          exact nofun

end Ast

/-! ## Runs of the parser -/

/-- Whether the parts on a level are plain. -/
def Level.IsPlain (level : Level) : Prop :=
  (∀ branch ∈ level.branches, branch.IsPlain) ∧ ∀ part ∈ level.parts, part.IsPlain

theorem Level.isPlain_toAst_iff
    (level : Level) :
    level.toAst.IsPlain ↔ level.IsPlain := by
  rw [Level.toAst, Ast.isPlain_ofBranches_iff, Level.IsPlain]
  simp only [List.reverse_cons, List.mem_append, List.mem_reverse, List.mem_singleton]
  constructor
  · intro plain
    have last := (Ast.isPlain_ofParts_iff _).mp (plain _ (.inr rfl))
    exact ⟨fun branch member => plain branch (.inl member),
      fun part member => last part (List.mem_reverse.mpr member)⟩
  · rintro ⟨branches, parts⟩ branch (member | rfl)
    · exact branches branch member
    · exact (Ast.isPlain_ofParts_iff _).mpr fun part member => parts part (List.mem_reverse.mp member)

theorem Level.isPlain_push_iff
    {level : Level}
    {part : Ast} :
    (level.push part).IsPlain ↔ part.IsPlain ∧ level.IsPlain := by
  simp only [Level.IsPlain, Level.push, List.forall_mem_cons]
  exact and_left_comm

/-- Whether everything that the parser has read is plain. -/
def ParseState.IsPlain (state : ParseState) : Prop :=
  state.level.IsPlain ∧ ∀ group ∈ state.groups, group.outer.IsPlain

/-- Whether a token is no class, or one that is asked for by no landmark. -/
def Lexeme.IsPlain : Lexeme → Prop
  | part inner => inner.IsPlain
  | _ => True

/-- What is read stays in what has been read. -/
theorem ParseState.isPlain_of_take
    {state next : ParseState}
    {lexeme : Lexeme}
    (taken : state.take lexeme = .ok next)
    (plain : next.IsPlain) :
    lexeme.IsPlain ∧ state.IsPlain := by
  cases lexeme with
  | opens header =>
      refine ⟨trivial, ?_⟩
      have opened {kind : GroupKind} {verbose : Bool}
          (groups : ∀ group ∈ OpenGroup.mk kind state.level verbose :: state.groups,
            group.outer.IsPlain) : state.IsPlain :=
        List.forall_mem_cons.mp groups
      cases header with
      | unnamed =>
          obtain rfl := Except.ok.inj taken
          exact opened plain.2
      | named name =>
          rw [take, enter] at taken
          split at taken
          · cases taken
          · obtain rfl := Except.ok.inj taken
            exact opened plain.2
      | plain flags =>
          obtain rfl := Except.ok.inj taken
          exact opened plain.2
      | directive flags =>
          obtain rfl := Except.ok.inj taken
          exact ⟨(Level.isPlain_push_iff.mp plain.1).2, plain.2⟩
  | closes =>
      refine ⟨trivial, ?_⟩
      rw [take, leave] at taken
      split at taken
      · cases taken
      · next group groups opened =>
          obtain rfl := Except.ok.inj taken
          obtain ⟨inner, outer⟩ := Level.isPlain_push_iff.mp plain.1
          refine ⟨(Level.isPlain_toAst_iff _).mp inner, ?_⟩
          rw [opened]
          exact List.forall_mem_cons.mpr ⟨outer, plain.2⟩
  | branches =>
      obtain rfl := Except.ok.inj taken
      obtain ⟨⟨branches, -⟩, groups⟩ := plain
      obtain ⟨last, others⟩ := List.forall_mem_cons.mp branches
      have parts := (Ast.isPlain_ofParts_iff _).mp last
      exact ⟨trivial, ⟨others, fun part member => parts part (List.mem_reverse.mpr member)⟩, groups⟩
  | part part =>
      obtain rfl := Except.ok.inj taken
      obtain ⟨own, level⟩ := Level.isPlain_push_iff.mp plain.1
      exact ⟨own, level, plain.2⟩
  | repeats count =>
      refine ⟨trivial, ?_⟩
      simp only [take] at taken
      split at taken
      · obtain rfl := Except.ok.inj taken
        rw [quantify] at plain
        split at plain
        · exact plain
        · next part parts some =>
            obtain ⟨⟨branches, inner⟩, groups⟩ := plain
            obtain ⟨body, others⟩ := List.forall_mem_cons.mp inner
            refine ⟨⟨branches, ?_⟩, groups⟩
            rw [some]
            exact List.forall_mem_cons.mpr ⟨body, others⟩
      · cases taken

theorem Reads.isPlain
    {state last : ParseState}
    {text rest : List Char}
    (reads : Reads state text last rest)
    (plain : last.IsPlain) :
    state.IsPlain := by
  induction reads with
  | refl => exact plain
  | token _ _ taken _ inductionHypothesis =>
      exact (ParseState.isPlain_of_take taken (inductionHypothesis plain)).2

/-- What has a tree has been read to its end, and its classes are known. -/
theorem Regex.exists_read_of_treeOf
    {pattern : String}
    {tree : Tree}
    (found : treeOf pattern = .ok tree) :
    ∃ last, readTokens .start pattern.toList = .ok last ∧ last.groups = [] ∧ last.IsPlain ∧
      parse pattern.toList = .ok last.level.toAst := by
  obtain ⟨ast, parsed, lowers⟩ := Except.bind_eq_ok_iff.mp found
  obtain ⟨lowered, loweredFound, -⟩ := Except.bind_eq_ok_iff.mp lowers
  obtain ⟨last, read, closed, rfl, -⟩ := parse_eq_ok_iff.mp parsed
  have plain := (Level.isPlain_toAst_iff _).mp (Ast.isPlain_of_lower loweredFound)
  exact ⟨last, read, closed, ⟨plain, by rw [closed]; exact nofun⟩, parsed⟩

end Linear
end LineExtraction

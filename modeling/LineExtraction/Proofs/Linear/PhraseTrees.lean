import LineExtraction.Proofs.Linear.PhraseReading
import LineExtraction.Proofs.Linear.Relabelling
import Mathlib.Data.List.Forall2

/-!
# Trees of phrases

The tree of a phrase is built part by part.  It is the tree that the linear dialect lowers
the phrase to, but for the names of its groups.  What only the backtracking dialect knows is
given a tree that matches wherever it could: a look-around matches the empty text, a
reference any text, and a committed choice is a choice.
-/

namespace LineExtraction
namespace Linear

open Pattern (Alternatives)
open Unicode (CodePointSet)

/-! ## Lowered parts -/

namespace Lowered

/-- All that is lowered is in normal form. -/
structure Canonical (lowered : Lowered) : Prop where
  /-- The branches are. -/
  branches : ∀ branch ∈ lowered.branches, branch.Canonical
  /-- The parts are. -/
  parts : ∀ part ∈ lowered.parts, part.Canonical

theorem canonical_single
    {tree : Tree}
    (flags : Flags)
    (canonical : tree.Canonical) :
    (single tree flags).Canonical where
  branches := List.forall_mem_singleton.mpr canonical
  parts := List.forall_mem_singleton.mpr canonical

theorem Canonical.tree
    {lowered : Lowered}
    (canonical : lowered.Canonical) :
    lowered.tree.Canonical :=
  Tree.canonical_ofBranches canonical.branches

theorem canonical_single_ofSet
    {flags : Flags}
    {members : Except SyntaxError CodePointSet}
    {lowered : Lowered}
    (found : (do return single (.ofSet (← members)) flags) = Except.ok lowered) :
    lowered.Canonical := by
  obtain ⟨set, -, made⟩ := Except.bind_eq_ok_iff.mp found
  obtain rfl := Except.ok.inj made
  exact canonical_single flags (Tree.canonical_ofSet set)

end Lowered

/-- Lowering puts everything in normal form. -/
theorem canonical_lower
    {flags : Flags}
    {ast : Ast}
    {lowered : Lowered}
    (found : lower flags ast = .ok lowered) :
    lowered.Canonical := by
  induction ast generalizing flags lowered with
  | empty =>
      obtain rfl := Except.ok.inj found
      exact Lowered.canonical_single _ Tree.canonical_empty
  | flags items =>
      obtain rfl := Except.ok.inj found
      exact Lowered.canonical_single _ Tree.canonical_empty
  | literal literal =>
      obtain ⟨char, -, made⟩ := Except.bind_eq_ok_iff.mp found
      obtain rfl := Except.ok.inj made
      refine Lowered.canonical_single _ ?_
      rw [literalTree]
      split
      · exact Tree.canonical_ofSet _
      · exact Tree.canonical_of_isPart rfl rfl trivial
  | dot => exact Lowered.canonical_single_ofSet found
  | assertion kind =>
      obtain rfl := Except.ok.inj found
      exact Lowered.canonical_single _ (Tree.canonical_of_isPart rfl rfl trivial)
  | perl negated kind => exact Lowered.canonical_single_ofSet found
  | unicode negated query => exact Lowered.canonical_single_ofSet found
  | bracketed negated body =>
      obtain ⟨members, -, found⟩ := Except.bind_eq_ok_iff.mp found
      exact Lowered.canonical_single_ofSet found
  | repetition count body bodyHypothesis =>
      obtain ⟨inner, innerFound, made⟩ := Except.bind_eq_ok_iff.mp found
      obtain rfl := Except.ok.inj made
      exact Lowered.canonical_single _ (Tree.canonical_repeated (bodyHypothesis innerFound).tree _ _ _)
  | group kind body bodyHypothesis =>
      cases kind with
      | capture index name =>
          obtain ⟨inner, innerFound, made⟩ := Except.bind_eq_ok_iff.mp found
          obtain rfl := Except.ok.inj made
          exact Lowered.canonical_single _ (Tree.canonical_of_isPart rfl rfl trivial)
      | plain items =>
          obtain ⟨inner, innerFound, made⟩ := Except.bind_eq_ok_iff.mp found
          obtain rfl := Except.ok.inj made
          exact Lowered.canonical_single _ (bodyHypothesis innerFound).tree
  | concat first rest firstHypothesis restHypothesis =>
      obtain ⟨front, frontFound, found⟩ := Except.bind_eq_ok_iff.mp found
      obtain ⟨back, backFound, made⟩ := Except.bind_eq_ok_iff.mp found
      obtain rfl := Except.ok.inj made
      have canonical : ∀ part ∈ front.parts ++ back.parts, part.Canonical := by
        intro part member
        exact (List.mem_append.mp member).elim ((firstHypothesis frontFound).parts part)
          ((restHypothesis backFound).parts part)
      exact ⟨List.forall_mem_singleton.mpr (Tree.canonical_ofParts canonical), canonical⟩
  | alternation first rest firstHypothesis restHypothesis =>
      obtain ⟨front, frontFound, found⟩ := Except.bind_eq_ok_iff.mp found
      obtain ⟨back, backFound, made⟩ := Except.bind_eq_ok_iff.mp found
      obtain rfl := Except.ok.inj made
      have canonical : ∀ branch ∈ front.tree :: back.branches, branch.Canonical :=
        List.forall_mem_cons.mpr
          ⟨(firstHypothesis frontFound).tree, (restHypothesis backFound).branches⟩
      exact ⟨canonical, List.forall_mem_singleton.mpr (Tree.canonical_ofBranches canonical)⟩

/-- What stands by itself in a sequence and sets no flags. -/
def Ast.IsSolid : Ast → Prop
  | .flags _ => False
  | .concat _ _ => False
  | .alternation _ _ => False
  | .repetition _ body => body.IsSolid
  | _ => True

/-- A solid part is lowered to a single tree. -/
theorem exists_single_of_isSolid
    {flags : Flags}
    {part : Ast}
    {lowered : Lowered}
    (solid : part.IsSolid)
    (found : lower flags part = .ok lowered) :
    ∃ tree, lowered = .single tree flags := by
  induction part generalizing lowered with
  | flags items => cases solid
  | concat first rest => cases solid
  | alternation first rest => cases solid
  | empty => exact ⟨_, (Except.ok.inj found).symm⟩
  | assertion kind => exact ⟨_, (Except.ok.inj found).symm⟩
  | bracketed negated body =>
      obtain ⟨members, -, found⟩ := Except.bind_eq_ok_iff.mp found
      obtain ⟨set, -, made⟩ := Except.bind_eq_ok_iff.mp found
      exact ⟨_, (Except.ok.inj made).symm⟩
  | repetition count body bodyHypothesis =>
      obtain ⟨inner, innerFound, made⟩ := Except.bind_eq_ok_iff.mp found
      obtain ⟨tree, rfl⟩ := bodyHypothesis solid innerFound
      exact ⟨_, (Except.ok.inj made).symm⟩
  | group kind body =>
      cases kind with
      | capture index name =>
          obtain ⟨inner, -, made⟩ := Except.bind_eq_ok_iff.mp found
          exact ⟨_, (Except.ok.inj made).symm⟩
      | plain items =>
          obtain ⟨inner, -, made⟩ := Except.bind_eq_ok_iff.mp found
          exact ⟨_, (Except.ok.inj made).symm⟩
  | _ =>
      obtain ⟨inner, -, made⟩ := Except.bind_eq_ok_iff.mp found
      exact ⟨_, (Except.ok.inj made).symm⟩

/-- The tree of a pattern that stands by itself. -/
def treeOf? (flags : Flags) (ast : Ast) : Option Tree :=
  (lower flags ast).toOption.map Lowered.tree

theorem treeOf?_eq_some_iff
    {flags : Flags}
    {ast : Ast}
    {tree : Tree} :
    treeOf? flags ast = some tree ↔
      ∃ lowered, lower flags ast = .ok lowered ∧ lowered.tree = tree := by
  simp only [treeOf?, Option.map_eq_some_iff, Except.toOption_eq_some_iff]

theorem canonical_treeOf?
    {flags : Flags}
    {ast : Ast}
    {tree : Tree}
    (found : treeOf? flags ast = some tree) :
    tree.Canonical := by
  obtain ⟨lowered, made, rfl⟩ := treeOf?_eq_some_iff.mp found
  exact (canonical_lower made).tree

theorem treeOf?_of_lower
    {flags : Flags}
    {ast : Ast}
    {lowered : Lowered}
    (found : lower flags ast = .ok lowered) :
    treeOf? flags ast = some lowered.tree := by
  rw [treeOf?, found]
  rfl

/-- A solid part is lowered to its tree. -/
theorem lower_eq_ok_iff_of_isSolid
    {flags : Flags}
    {part : Ast}
    (solid : part.IsSolid)
    {lowered : Lowered} :
    lower flags part = .ok lowered ↔
      ∃ tree, treeOf? flags part = some tree ∧ lowered = .single tree flags := by
  have same {lowered : Lowered} (found : lower flags part = .ok lowered) :
      lowered = .single lowered.tree flags := by
    obtain ⟨tree, rfl⟩ := exists_single_of_isSolid solid found
    have canonical := (canonical_lower found).branches tree List.mem_cons_self
    rw [show (Lowered.single tree flags).tree = tree from canonical.ofBranches_singleton]
  constructor
  · exact fun found => ⟨_, treeOf?_of_lower found, same found⟩
  · rintro ⟨tree, found, rfl⟩
    obtain ⟨lowered, made, rfl⟩ := treeOf?_eq_some_iff.mp found
    rw [← same made]
    exact made

section

variable (flags : Flags) (body : Ast)

theorem treeOf?_capture
    (index : Nat)
    (name : Option (List Char)) :
    treeOf? flags (.group (.capture index name) body) =
      (treeOf? flags body).map (.capture index name) := by
  rw [treeOf?, treeOf?, lower]
  cases lower flags body with
  | error cause => rfl
  | ok inner =>
      have canonical : (Tree.capture index name inner.tree).Canonical :=
        Tree.canonical_of_isPart rfl rfl trivial
      exact congrArg some canonical.ofBranches_singleton

theorem treeOf?_plain
    (items : List FlagItem) :
    treeOf? flags (.group (.plain items) body) = treeOf? (flags.apply items) body := by
  rw [treeOf?, treeOf?, lower]
  cases found : lower (flags.apply items) body with
  | error cause => rfl
  | ok inner =>
      exact congrArg some (canonical_lower found).tree.ofBranches_singleton

variable {flags body}

theorem treeOf?_repetition
    (greedy : flags.swapGreed = false)
    (solid : body.IsSolid)
    (count : Repeat) :
    treeOf? flags (.repetition count body) =
      (treeOf? flags body).map (Tree.repeated count.min count.max count.greedy) := by
  rw [treeOf?, treeOf?, lower]
  cases found : lower flags body with
  | error cause => rfl
  | ok inner =>
      obtain ⟨tree, rfl⟩ := exists_single_of_isSolid solid found
      have canonical := Tree.canonical_repeated (canonical_lower found).tree count.min count.max
        count.greedy
      rw [← Bool.xor_false count.greedy, ← greedy] at canonical
      exact congrArg some (canonical.ofBranches_singleton.trans (by rw [greedy, Bool.xor_false]))

end

/-! ## Sequences and choices -/

/-- What a sequence of trees is lowered to. -/
def Lowered.sequence (trees : List Tree) (flags : Flags) : Lowered :=
  ⟨[.ofParts trees], if trees = [] then [.empty] else trees, flags⟩

theorem Lowered.sequence_singleton
    {flags : Flags}
    {tree : Tree}
    (canonical : tree.Canonical) :
    Lowered.sequence [tree] flags = .single tree flags := by
  rw [Lowered.sequence, canonical.ofParts_singleton]
  rfl

/-- The parts have the trees, each by itself. -/
abbrev HaveTrees (flags : Flags) : List Ast → List Tree → Prop :=
  List.Forall₂ fun part tree => treeOf? flags part = some tree

theorem canonical_of_haveTrees
    {flags : Flags}
    {parts : List Ast}
    {trees : List Tree}
    (found : HaveTrees flags parts trees) :
    ∀ tree ∈ trees, tree.Canonical := by
  induction found with
  | nil => exact fun tree member => absurd member List.not_mem_nil
  | cons first _ inductionHypothesis =>
      exact List.forall_mem_cons.mpr ⟨canonical_treeOf? first, inductionHypothesis⟩

/-- A sequence of solid parts is lowered to the sequence of their trees. -/
theorem lower_ofParts_eq_ok_iff
    {flags : Flags}
    {parts : List Ast}
    (solid : ∀ part ∈ parts, part.IsSolid)
    {lowered : Lowered} :
    lower flags (.ofParts parts) = .ok lowered ↔
      ∃ trees, HaveTrees flags parts trees ∧ lowered = .sequence trees flags := by
  induction parts generalizing lowered with
  | nil =>
      constructor
      · rintro ⟨⟩
        exact ⟨[], .nil, rfl⟩
      · rintro ⟨trees, ⟨⟩, rfl⟩
        rfl
  | cons part rest inductionHypothesis =>
      obtain ⟨partSolid, restSolid⟩ := List.forall_mem_cons.mp solid
      cases rest with
      | nil =>
          rw [Ast.ofParts, lower_eq_ok_iff_of_isSolid partSolid]
          constructor
          · rintro ⟨tree, found, rfl⟩
            exact ⟨[tree], .cons found .nil,
              (Lowered.sequence_singleton (canonical_treeOf? found)).symm⟩
          · rintro ⟨_, have', rfl⟩
            obtain ⟨tree, _, found, none, rfl⟩ := List.forall₂_cons_left_iff.mp have'
            obtain rfl := List.forall₂_nil_left_iff.mp none
            exact ⟨tree, found, Lowered.sequence_singleton (canonical_treeOf? found)⟩
      | cons next rest =>
          have step : lower flags (.ofParts (part :: next :: rest)) = (do
              let front ← lower flags part
              let back ← lower front.flags (.ofParts (next :: rest))
              return front.join back) := rfl
          rw [step]
          simp only [Except.bind_eq_ok_iff, lower_eq_ok_iff_of_isSolid partSolid]
          constructor
          · rintro ⟨_, ⟨tree, found, rfl⟩, back, backFound, made⟩
            obtain ⟨trees, others, rfl⟩ := (inductionHypothesis restSolid).mp backFound
            obtain rfl := Except.ok.inj made
            obtain ⟨second, rest, -, -, rfl⟩ := List.forall₂_cons_left_iff.mp others
            exact ⟨_, .cons found others, rfl⟩
          · rintro ⟨_, have', rfl⟩
            obtain ⟨tree, trees, found, others, rfl⟩ := List.forall₂_cons_left_iff.mp have'
            obtain ⟨second, rest, -, -, rfl⟩ := List.forall₂_cons_left_iff.mp others
            exact ⟨_, ⟨_, found, rfl⟩, _, (inductionHypothesis restSolid).mpr ⟨_, others, rfl⟩, rfl⟩

/-- A choice between sequences of solid parts is lowered to the choice between theirs. -/
theorem lower_ofBranches_iff
    {flags after : Flags}
    {parts : List Ast}
    {others : List (List Ast)}
    (solid : ∀ branch ∈ parts :: others, ∀ part ∈ branch, part.IsSolid)
    {branches : List Tree} :
    (∃ lowered, lower flags (.ofBranches ((parts :: others).map Ast.ofParts)) = .ok lowered ∧
        lowered.branches = branches ∧ lowered.flags = after) ↔
      after = flags ∧ ∃ trees, List.Forall₂ (HaveTrees flags) (parts :: others) trees ∧
        branches = trees.map Tree.ofParts := by
  induction others generalizing parts branches after with
  | nil =>
      simp only [List.map_cons, List.map_nil, Ast.ofBranches,
        lower_ofParts_eq_ok_iff (List.forall_mem_singleton.mp solid)]
      constructor
      · rintro ⟨_, ⟨trees, found, rfl⟩, rfl, rfl⟩
        exact ⟨rfl, [trees], .cons found .nil, rfl⟩
      · rintro ⟨rfl, _, have', rfl⟩
        obtain ⟨trees, _, found, none, rfl⟩ := List.forall₂_cons_left_iff.mp have'
        obtain rfl := List.forall₂_nil_left_iff.mp none
        exact ⟨_, ⟨trees, found, rfl⟩, rfl, rfl⟩
  | cons next others inductionHypothesis =>
      obtain ⟨partsSolid, othersSolid⟩ := List.forall_mem_cons.mp solid
      have step : lower flags (.ofBranches ((parts :: next :: others).map Ast.ofParts)) = (do
          let front ← lower flags (.ofParts parts)
          let back ← lower front.flags (.ofBranches ((next :: others).map Ast.ofParts))
          return ⟨front.tree :: back.branches, [.ofBranches (front.tree :: back.branches)],
            back.flags⟩) := rfl
      have tree {trees : List Tree} (found : HaveTrees flags parts trees) :
          (Lowered.sequence trees flags).tree = .ofParts trees :=
        (Tree.canonical_ofParts (canonical_of_haveTrees found)).ofBranches_singleton
      rw [step]
      simp only [Except.bind_eq_ok_iff, lower_ofParts_eq_ok_iff partsSolid]
      constructor
      · rintro ⟨_, ⟨_, ⟨trees, found, rfl⟩, back, backFound, made⟩, rfl, rfl⟩
        obtain rfl := Except.ok.inj made
        obtain ⟨same, treess, others, backBranches⟩ :=
          (inductionHypothesis othersSolid).mp ⟨back, backFound, rfl, rfl⟩
        refine ⟨same, trees :: treess, .cons found others, ?_⟩
        rw [List.map_cons, ← backBranches, ← tree found]
      · rintro ⟨rfl, _, have', rfl⟩
        obtain ⟨trees, treess, found, others, rfl⟩ := List.forall₂_cons_left_iff.mp have'
        obtain ⟨back, backFound, backBranches, backFlags⟩ :=
          (inductionHypothesis othersSolid).mpr ⟨rfl, treess, others, rfl⟩
        refine ⟨_, ⟨_, ⟨trees, found, rfl⟩, back, backFound, rfl⟩, ?_, backFlags⟩
        rw [List.map_cons, ← backBranches, ← tree found]

end Linear

/-! ## Alternatives -/

namespace Pattern.Alternatives

open Linear (Tree Ast HaveTrees treeOf?)

/-- The tree of what stands between bars. -/
def tree (trees : Alternatives Tree) : Tree := .ofBranches (trees.branches.map Tree.ofParts)

/-- What stands between bars has the trees, part by part. -/
def HaveTrees (flags : Linear.Flags) (parts : Alternatives Ast) (trees : Alternatives Tree) :
    Prop :=
  List.Forall₂ (Linear.HaveTrees flags) parts.branches trees.branches

variable {flags : Linear.Flags} {parts : Alternatives Ast} {trees : Alternatives Tree}

theorem haveTrees_iff :
    parts.HaveTrees flags trees ↔
      Linear.HaveTrees flags parts.here trees.here ∧
        List.Forall₂ (Linear.HaveTrees flags) parts.later trees.later := by
  rw [HaveTrees, branches, branches, List.forall₂_cons]

theorem haveTrees_nothing_iff :
    nothing.HaveTrees flags trees ↔ trees = .nothing := by
  obtain ⟨here, later⟩ := trees
  simp [haveTrees_iff, nothing]

theorem haveTrees_cons_iff
    {part : Ast} :
    (parts.cons part).HaveTrees flags trees ↔
      ∃ tree, treeOf? flags part = some tree ∧
        ∃ others, parts.HaveTrees flags others ∧ trees = others.cons tree := by
  obtain ⟨here, later⟩ := trees
  simp only [haveTrees_iff, cons, List.forall₂_cons_left_iff]
  constructor
  · rintro ⟨⟨tree, rest, found, others, rfl⟩, behind⟩
    exact ⟨tree, found, ⟨rest, later⟩, ⟨others, behind⟩, rfl⟩
  · rintro ⟨tree, found, ⟨rest, later⟩, ⟨others, behind⟩, ⟨⟩⟩
    exact ⟨⟨tree, rest, found, others, rfl⟩, behind⟩

theorem haveTrees_bar_iff :
    parts.bar.HaveTrees flags trees ↔
      ∃ others, parts.HaveTrees flags others ∧ trees = others.bar := by
  obtain ⟨here, later⟩ := trees
  simp only [haveTrees_iff, bar, List.forall₂_cons_left_iff, List.forall₂_nil_left_iff]
  constructor
  · rintro ⟨rfl, first, rest, found, others, rfl⟩
    exact ⟨⟨first, rest⟩, ⟨found, others⟩, rfl⟩
  · rintro ⟨⟨first, rest⟩, ⟨found, others⟩, ⟨⟩⟩
    exact ⟨rfl, first, rest, found, others, rfl⟩

/-- The tree of what stands between bars is that of the trees of its parts. -/
theorem treeOf?_toAst_eq_some_iff
    (solid : ∀ branch ∈ parts.branches, ∀ part ∈ branch, part.IsSolid)
    {tree : Tree} :
    treeOf? flags parts.toAst = some tree ↔
      ∃ trees, parts.HaveTrees flags trees ∧ tree = trees.tree := by
  rw [Linear.treeOf?_eq_some_iff]
  constructor
  · rintro ⟨lowered, found, rfl⟩
    obtain ⟨-, _, have', branches⟩ :=
      (Linear.lower_ofBranches_iff solid).mp ⟨lowered, found, rfl, rfl⟩
    obtain ⟨here, later, front, behind, rfl⟩ := List.forall₂_cons_left_iff.mp have'
    refine ⟨⟨here, later⟩, .cons front behind, ?_⟩
    rw [Linear.Lowered.tree, branches]
    rfl
  · rintro ⟨trees, have', rfl⟩
    obtain ⟨lowered, found, branches, -⟩ :=
      (Linear.lower_ofBranches_iff solid).mpr ⟨rfl, _, have', rfl⟩
    exact ⟨lowered, found, congrArg Tree.ofBranches branches⟩

end Pattern.Alternatives

/-! ## Trees of phrases -/

/-- The flags that the groups around a place of a phrase set. -/
structure Pattern.Mode where
  fold : Bool
  dotAll : Bool
deriving DecidableEq, Repr

namespace Pattern.Mode

/-- The flags outside of all groups. -/
def start : Mode := ⟨false, false⟩

/-- The flags in the linear dialect. -/
def linear (mode : Mode) : Linear.Flags :=
  { Linear.Flags.default with caseInsensitive := mode.fold, dotMatchesNewLine := mode.dotAll }

@[simp] theorem linear_start : start.linear = .default := rfl

end Pattern.Mode

namespace Pattern

/-- The flags inside of a group. -/
def GroupSign.mode (mode : Mode) : GroupSign → Mode
  | fold => { mode with fold := true }
  | dotAll => { mode with dotAll := true }
  | _ => mode

open Linear (Tree treeOf?)

/-- The tree of any text. -/
def anyTree : Tree :=
  .repeated 0 none false (.ofSet Unicode.CodePointSet.empty.complement)

/-- The tree of an atom.  A reference may stand for any text. -/
def Leaf.tree? (mode : Mode) (atom : Leaf) : Option Tree :=
  if atom.isReference then some anyTree else atom.part?.bind (treeOf? mode.linear)

/-- The tree of a group, given that of its body and how many groups before it capture.  A
look-around may match the empty text wherever it stands. -/
def GroupSign.tree (before : Nat) (body : Tree) : GroupSign → Tree
  | capture => .capture (before + 1) none body
  | named _ _ => .capture (before + 1) none body
  | look _ _ => .empty
  | _ => body

/-- A tree with its quantifier. -/
def Quantifier.repeated? : Option Quantifier → Tree → Option Tree
  | none, tree => some tree
  | some quantifier, tree =>
    quantifier.count?.map fun count => .repeated count.min count.max count.greedy tree

/-- The trees of the parts of a phrase, given how many groups before it capture. -/
def Phrase.trees (mode : Mode) (before : Nat) : Phrase → Option (Alternatives Tree)
  | done => some .nothing
  | leaf atom quantifier rest => do
    let whole ← Quantifier.repeated? quantifier (← atom.tree? mode)
    return (← rest.trees mode before).cons whole
  | group sign body quantifier rest => do
    let inner ← if sign.isLook then some .nothing
      else body.trees (sign.mode mode) (before + sign.captures)
    let whole ← Quantifier.repeated? quantifier (sign.tree before inner.tree)
    return (← rest.trees mode (before + sign.captures + body.captures)).cons whole
  | bar rest => do
    return (← rest.trees mode before).bar

section

variable
  {mode : Mode} {before : Nat} {atom : Leaf} {sign : GroupSign} {quantifier : Option Quantifier}
  {body rest : Phrase} {trees : Alternatives Tree}

theorem Phrase.trees_leaf_iff :
    (leaf atom quantifier rest).trees mode before = some trees ↔
      ∃ tree, atom.tree? mode = some tree ∧
        ∃ whole, Quantifier.repeated? quantifier tree = some whole ∧
          ∃ others, rest.trees mode before = some others ∧ others.cons whole = trees := by
  simp [Phrase.trees, Option.bind_eq_some_iff]

theorem Phrase.trees_group_iff :
    (group sign body quantifier rest).trees mode before = some trees ↔
      ∃ inner, (if sign.isLook then some .nothing
          else body.trees (sign.mode mode) (before + sign.captures)) = some inner ∧
        ∃ whole, Quantifier.repeated? quantifier (sign.tree before inner.tree) = some whole ∧
          ∃ others, rest.trees mode (before + sign.captures + body.captures) = some others ∧
            others.cons whole = trees := by
  cases looks : sign.isLook <;> simp [Phrase.trees, looks, Option.bind_eq_some_iff]

theorem Phrase.trees_bar_iff :
    (bar rest).trees mode before = some trees ↔
      ∃ others, rest.trees mode before = some others ∧ others.bar = trees := by
  simp [Phrase.trees, Option.bind_eq_some_iff]

end

/-- What holds of the trees of atoms and is kept by all that builds trees from trees. -/
structure Hereditary (holds : Tree → Prop) : Prop where
  /-- It holds of the empty tree. -/
  empty : holds .empty
  /-- It holds of the trees of atoms. -/
  atom : ∀ ⦃mode : Mode⦄ ⦃atom : Leaf⦄ ⦃tree : Tree⦄, atom.tree? mode = some tree → holds tree
  /-- Repeating keeps it. -/
  repeated : ∀ ⦃quantifier : Option Quantifier⦄ ⦃tree whole : Tree⦄,
    Quantifier.repeated? quantifier tree = some whole → holds tree → holds whole
  /-- A group keeps it. -/
  capture : ∀ ⦃body : Tree⦄ (index : Nat), holds body → holds (.capture index none body)
  /-- Sequences and choices keep it. -/
  tree : ∀ ⦃trees : Alternatives Tree⦄, trees.All holds → holds trees.tree

namespace Hereditary

variable {holds : Tree → Prop} (hereditary : Hereditary holds)

include hereditary

theorem sign
    {body : Tree}
    (held : holds body)
    (sign : GroupSign)
    (before : Nat) :
    holds (sign.tree before body) := by
  cases sign with
  | capture => exact hereditary.capture _ held
  | named long name => exact hereditary.capture _ held
  | look behind negative => exact hereditary.empty
  | _ => exact held

/-- It holds of all trees of a phrase. -/
theorem all_trees
    {phrase : Phrase}
    {mode : Mode}
    {before : Nat}
    {trees : Alternatives Tree}
    (found : phrase.trees mode before = some trees) :
    trees.All holds := by
  induction phrase generalizing mode before trees with
  | done =>
      obtain rfl := Option.some.inj found
      exact Alternatives.all_nothing
  | leaf atom quantifier rest restHypothesis =>
      obtain ⟨tree, made, whole, applied, others, remaining, rfl⟩ := Phrase.trees_leaf_iff.mp found
      exact Alternatives.all_cons_iff.mpr
        ⟨hereditary.repeated applied (hereditary.atom made), restHypothesis remaining⟩
  | group sign body quantifier rest bodyHypothesis restHypothesis =>
      obtain ⟨inner, made, whole, applied, others, remaining, rfl⟩ :=
        Phrase.trees_group_iff.mp found
      have all : inner.All holds := by
        split at made
        · obtain rfl := Option.some.inj made
          exact Alternatives.all_nothing
        · exact bodyHypothesis made
      exact Alternatives.all_cons_iff.mpr
        ⟨hereditary.repeated applied (hereditary.sign (hereditary.tree all) sign before),
          restHypothesis remaining⟩
  | bar rest restHypothesis =>
      obtain ⟨others, remaining, rfl⟩ := Phrase.trees_bar_iff.mp found
      exact Alternatives.all_bar_iff.mpr (restHypothesis remaining)

end Hereditary

theorem Alternatives.all_ofParts
    {holds : Tree → Prop}
    (parts : ∀ ⦃given : List Tree⦄, (∀ tree ∈ given, holds tree) → holds (.ofParts given))
    {trees : Alternatives Tree}
    (all : trees.All holds) :
    ∀ branch ∈ trees.branches.map Tree.ofParts, holds branch := by
  intro branch member
  obtain ⟨given, listed, rfl⟩ := List.mem_map.mp member
  exact parts (all given listed)

theorem eq_of_treeOf?_of_single
    {flags : Linear.Flags}
    {part : Linear.Ast}
    {tree single : Tree}
    (found : treeOf? flags part = some tree)
    (made : Linear.lower flags part = .ok (.single single flags)) :
    tree = single := by
  have canonical := (Linear.canonical_lower made).branches single List.mem_cons_self
  obtain rfl := Option.some.inj (found.symm.trans (Linear.treeOf?_of_lower made))
  exact canonical.ofBranches_singleton

/-- Nothing that an atom is read as captures, repeats or is built of parts. -/
theorem Leaf.tree?_cases
    {mode : Mode}
    {atom : Leaf}
    {tree : Tree}
    (found : atom.tree? mode = some tree) :
    tree = anyTree ∨ (∃ members, members.Ordered ∧ tree = .ofSet members) ∨
      (∃ char, tree = .literal [char]) ∨ ∃ look, tree = .look look := by
  rw [Leaf.tree?] at found
  split at found
  · exact .inl (Option.some.inj found).symm
  · obtain ⟨part, is, found⟩ := Option.bind_eq_some_iff.mp found
    obtain ⟨lowered, made, -⟩ := Linear.treeOf?_eq_some_iff.mp found
    refine .inr ?_
    have ofSet {members : Except Linear.SyntaxError Unicode.CodePointSet} {part : Linear.Ast}
        (found : treeOf? mode.linear part = some tree)
        (ordered : ∀ set, members = .ok set → set.Ordered)
        (is : Linear.lower mode.linear part = do
          return Linear.Lowered.single (.ofSet (← members)) mode.linear)
        (made : Linear.lower mode.linear part = .ok lowered) :
        ∃ members, members.Ordered ∧ tree = .ofSet members := by
      obtain ⟨set, known, -⟩ := Except.bind_eq_ok_iff.mp (is.symm.trans made)
      refine ⟨set, ordered set known, eq_of_treeOf?_of_single found ?_⟩
      rw [is, known]
      rfl
    cases atom with
    | char spelling =>
        obtain rfl := Option.some.inj is
        have plain : Linear.lower mode.linear (.literal spelling.literal) =
            .ok (.single (Linear.literalTree mode.linear spelling.char) mode.linear) := rfl
        obtain rfl := eq_of_treeOf?_of_single found plain
        rw [Linear.literalTree]
        split
        · exact .inl ⟨_, Linear.ordered_foldedBy _ (Unicode.CodePointSet.ordered_singleton _), rfl⟩
        · exact .inr (.inl ⟨_, rfl⟩)
    | dot =>
        obtain rfl := Option.some.inj is
        exact .inl (ofSet found (fun _ => Linear.ordered_dotSet) rfl made)
    | named kind =>
        obtain rfl := Option.some.inj is
        obtain ⟨negated, perl, same⟩ | ⟨negated, query, same⟩ := Linear.exists_primitive kind
        · rw [same] at found made
          exact .inl (ofSet found (fun _ => Linear.ordered_perlSet) rfl made)
        · rw [same] at found made
          exact .inl (ofSet found (fun _ => Linear.ordered_unicodeSet) rfl made)
    | bracket set =>
        obtain ⟨read, -, rfl⟩ := Option.map_eq_some_iff.mp is
        obtain ⟨members, known, negated⟩ := Except.bind_eq_ok_iff.mp made
        obtain ⟨whole, negated, -⟩ := Except.bind_eq_ok_iff.mp negated
        have ordered := Linear.ordered_negatedBy
          (Linear.ordered_foldedBy mode.linear (Linear.ClassSet.ordered_members known)) negated
        refine .inl ⟨whole, ordered, eq_of_treeOf?_of_single found ?_⟩
        exact Except.bind_eq_ok_iff.mpr ⟨members, known,
          Except.bind_eq_ok_iff.mpr ⟨whole, negated, rfl⟩⟩
    | anchor kind =>
        obtain rfl := Option.some.inj is
        exact .inr (.inr ⟨_, eq_of_treeOf?_of_single found rfl⟩)
    | reference keyed name => cases is

theorem ordered_count?
    {quantifier : Quantifier}
    {count : Linear.Repeat}
    (counted : quantifier.count? = some count) :
    ∀ bound ∈ count.max, count.min ≤ bound := by
  obtain ⟨counts, lazy, possessive⟩ := quantifier
  obtain ⟨bounds, known, rfl⟩ := Option.map_eq_some_iff.mp counted
  cases counts with
  | optional =>
      obtain rfl := Option.some.inj known
      rintro bound ⟨⟩
      exact Nat.zero_le 1
  | star =>
      obtain rfl := Option.some.inj known
      nofun
  | plus =>
      obtain rfl := Option.some.inj known
      nofun
  | exactly digits =>
      obtain ⟨number, -, made⟩ := Option.bind_eq_some_iff.mp known
      obtain rfl := Option.some.inj made
      rintro bound ⟨⟩
      exact Nat.le_refl number
  | atLeast digits =>
      obtain ⟨number, -, made⟩ := Option.bind_eq_some_iff.mp known
      obtain rfl := Option.some.inj made
      nofun
  | between least greatest =>
      obtain ⟨low, -, made⟩ := Option.bind_eq_some_iff.mp known
      obtain ⟨high, -, made⟩ := Option.bind_eq_some_iff.mp made
      split at made
      · cases made
      · next ordered =>
          obtain rfl := Option.some.inj made
          rintro bound ⟨⟩
          exact Nat.not_lt.mp ordered

theorem hereditary_canonical : Hereditary Tree.Canonical where
  empty := Tree.canonical_empty
  atom mode atom tree found := by
    obtain rfl | ⟨members, -, rfl⟩ | ⟨char, rfl⟩ | ⟨look, rfl⟩ := Leaf.tree?_cases found
    · exact Tree.canonical_repeated (Tree.canonical_ofSet _) _ _ _
    · exact Tree.canonical_ofSet members
    · exact Tree.canonical_of_isPart rfl rfl trivial
    · exact Tree.canonical_of_isPart rfl rfl trivial
  repeated quantifier tree whole applied canonical := by
    cases quantifier with
    | none =>
        obtain rfl := Option.some.inj applied
        exact canonical
    | some quantifier =>
        obtain ⟨count, -, rfl⟩ := Option.map_eq_some_iff.mp applied
        exact Tree.canonical_repeated canonical _ _ _
  capture body index _ := Tree.canonical_of_isPart rfl rfl trivial
  tree trees all :=
    Tree.canonical_ofBranches (Alternatives.all_ofParts (fun _ => Tree.canonical_ofParts) all)

theorem hereditary_nameless : Hereditary Tree.Nameless where
  empty := rfl
  atom mode atom tree found := by
    obtain rfl | ⟨members, -, rfl⟩ | ⟨char, rfl⟩ | ⟨look, rfl⟩ := Leaf.tree?_cases found
    · exact Tree.nameless_repeated (Tree.ofSet_named _ _) _ _ _
    · exact Tree.ofSet_named _ _
    · rfl
    · rfl
  repeated quantifier tree whole applied nameless := by
    cases quantifier with
    | none =>
        obtain rfl := Option.some.inj applied
        exact nameless
    | some quantifier =>
        obtain ⟨count, -, rfl⟩ := Option.map_eq_some_iff.mp applied
        exact Tree.nameless_repeated nameless _ _ _
  capture body index nameless := congrArg (Tree.capture index none) nameless
  tree trees all :=
    Tree.nameless_ofBranches (Alternatives.all_ofParts (fun _ => Tree.nameless_ofParts) all)

theorem hereditary_orderly : Hereditary Tree.Orderly where
  empty := trivial
  atom mode atom tree found := by
    obtain rfl | ⟨members, ordered, rfl⟩ | ⟨char, rfl⟩ | ⟨look, rfl⟩ := Leaf.tree?_cases found
    · exact (Tree.matches_repeated 0 none false nofun
        (Tree.orderly_ofSet Unicode.CodePointSet.ordered_empty.complement)).1
    · exact Tree.orderly_ofSet ordered
    · trivial
    · trivial
  repeated quantifier tree whole applied orderly := by
    cases quantifier with
    | none =>
        obtain rfl := Option.some.inj applied
        exact orderly
    | some quantifier =>
        obtain ⟨count, counted, rfl⟩ := Option.map_eq_some_iff.mp applied
        exact (Linear.Tree.matches_repeated _ _ _ (ordered_count? counted) orderly).1
  capture body index orderly := orderly
  tree trees all :=
    Tree.orderly_ofBranches (Alternatives.all_ofParts (fun _ => Tree.orderly_ofParts) all)

/-! ## Lowering phrases -/

/-- The groups of a sign have the given names. -/
def GroupSign.NamedBy (names : Nat → Option (List Char)) (before : Nat) : GroupSign → Prop
  | capture => names (before + 1) = none
  | named _ name => names (before + 1) = some name
  | _ => True

/-- The groups of a phrase have the given names by their numbers. -/
def Phrase.NamedBy (names : Nat → Option (List Char)) (before : Nat) : Phrase → Prop
  | done => True
  | leaf _ _ rest => rest.NamedBy names before
  | group sign body _ rest =>
    sign.NamedBy names before ∧ body.NamedBy names (before + sign.captures) ∧
      rest.NamedBy names (before + sign.captures + body.captures)
  | bar rest => rest.NamedBy names before

theorem Leaf.isSolid_part?
    {atom : Leaf}
    {part : Linear.Ast}
    (is : atom.part? = some part) :
    part.IsSolid := by
  cases atom with
  | bracket set =>
      obtain ⟨read, -, rfl⟩ := Option.map_eq_some_iff.mp is
      trivial
  | named kind =>
      obtain rfl := Option.some.inj is
      obtain ⟨negated, perl, same⟩ | ⟨negated, query, same⟩ := Linear.exists_primitive kind
      · rw [same]
        trivial
      · rw [same]
        trivial
  | reference keyed name => cases is
  | _ =>
      obtain rfl := Option.some.inj is
      trivial

theorem Quantifier.isSolid_applied?
    {quantifier : Option Quantifier}
    {part whole : Linear.Ast}
    (solid : part.IsSolid)
    (applied : applied? quantifier part = some whole) :
    whole.IsSolid := by
  cases quantifier with
  | none =>
      obtain rfl := Option.some.inj applied
      exact solid
  | some quantifier =>
      obtain ⟨count, -, rfl⟩ := Option.map_eq_some_iff.mp applied
      exact solid

theorem Phrase.all_isSolid_linear
    {phrase : Phrase}
    {before : Nat}
    {parts : Alternatives Linear.Ast}
    (read : phrase.linear before = some parts) :
    parts.All Linear.Ast.IsSolid := by
  induction phrase generalizing before parts with
  | done =>
      obtain rfl := Option.some.inj read
      exact Alternatives.all_nothing
  | leaf atom quantifier rest restHypothesis =>
      obtain ⟨part, is, whole, applied, others, remaining, rfl⟩ := Linear.linear_leaf_iff.mp read
      exact Alternatives.all_cons_iff.mpr
        ⟨Quantifier.isSolid_applied? (Leaf.isSolid_part? is) applied, restHypothesis remaining⟩
  | group sign body quantifier rest _ restHypothesis =>
      obtain ⟨kind, -, inner, -, whole, applied, others, remaining, rfl⟩ :=
        Linear.linear_group_iff.mp read
      exact Alternatives.all_cons_iff.mpr
        ⟨Quantifier.isSolid_applied? (show (Linear.Ast.group kind inner.toAst).IsSolid from trivial)
          applied, restHypothesis remaining⟩
  | bar rest restHypothesis =>
      obtain ⟨others, remaining, rfl⟩ := Linear.linear_bar_iff.mp read
      exact Alternatives.all_bar_iff.mpr (restHypothesis remaining)

/-- A part with its quantifier has the tree of the part, repeated. -/
theorem Quantifier.treeOf?_applied?
    {quantifier : Option Quantifier}
    {part whole : Linear.Ast}
    (solid : part.IsSolid)
    (applied : applied? quantifier part = some whole)
    (mode : Mode) :
    treeOf? mode.linear whole = (treeOf? mode.linear part).bind (repeated? quantifier) := by
  cases quantifier with
  | none =>
      obtain rfl := Option.some.inj applied
      cases treeOf? mode.linear part <;> rfl
  | some quantifier =>
      obtain ⟨count, counted, rfl⟩ := Option.map_eq_some_iff.mp applied
      rw [Linear.treeOf?_repetition rfl solid]
      cases treeOf? mode.linear part with
      | none => rfl
      | some tree => simp [repeated?, counted]

section

variable (names : Nat → Option (List Char))

theorem Quantifier.repeated?_named
    (quantifier : Option Quantifier)
    (tree : Tree) :
    repeated? quantifier (tree.named names) = (repeated? quantifier tree).map (Tree.named names) := by
  cases quantifier with
  | none => rfl
  | some quantifier =>
      cases counted : quantifier.count? with
      | none => simp [repeated?, counted]
      | some count => simp [repeated?, counted, Tree.repeated_named]

theorem Leaf.named_tree?
    {mode : Mode}
    {atom : Leaf}
    {tree : Tree}
    (found : atom.tree? mode = some tree) :
    tree.named names = tree := by
  obtain rfl | ⟨members, -, rfl⟩ | ⟨char, rfl⟩ | ⟨look, rfl⟩ := Leaf.tree?_cases found
  · exact (Tree.repeated_named names _ _ _ _).symm.trans (congrArg _ (Tree.ofSet_named names _))
  · exact Tree.ofSet_named names members
  · rfl
  · rfl

theorem Alternatives.tree_map_named
    {trees : Alternatives Tree}
    (nameless : trees.All Tree.Nameless) :
    (trees.map (Tree.named names)).tree = trees.tree.named names := by
  have parts : (trees.map (Tree.named names)).branches.map Tree.ofParts =
      (trees.branches.map Tree.ofParts).map (Tree.named names) := by
    simp [map, branches, Tree.ofParts_named]
  rw [tree, parts, Tree.ofBranches_named]
  · rfl
  · exact all_ofParts (fun _ => Tree.nameless_ofParts) nameless

/-- A group with a name where its number has one. -/
def GroupSign.label (before : Nat) (body : Tree) : GroupSign → Tree
  | capture => .capture (before + 1) (names (before + 1)) body
  | named _ _ => .capture (before + 1) (names (before + 1)) body
  | _ => body

variable {names}

/-- What a group is lowered to. -/
theorem GroupSign.treeOf?_group
    {sign : GroupSign}
    {before : Nat}
    {kind : Linear.GroupKind}
    (is : sign.kind? before = some kind)
    (named : sign.NamedBy names before)
    (mode : Mode)
    (body : Linear.Ast) :
    treeOf? mode.linear (.group kind body) =
      (treeOf? (sign.mode mode).linear body).map (sign.label names before) := by
  cases sign with
  | capture =>
      obtain rfl := Option.some.inj is
      rw [Linear.treeOf?_capture, ← named]
      rfl
  | named long name =>
      obtain rfl := Option.some.inj is
      rw [Linear.treeOf?_capture, ← named]
      rfl
  | atomic => cases is
  | look behind negative => cases is
  | _ =>
      obtain rfl := Option.some.inj is
      rw [Linear.treeOf?_plain]
      exact (congrFun Option.map_id _).symm

theorem GroupSign.named_tree
    {sign : GroupSign}
    {before : Nat}
    {kind : Linear.GroupKind}
    (is : sign.kind? before = some kind)
    (body : Tree) :
    (sign.tree before body).named names = sign.label names before (body.named names) := by
  cases sign with
  | look behind negative => cases is
  | _ => rfl

/-- Lowering a phrase gives its trees with the names of its groups. -/
theorem Phrase.haveTrees_linear_iff
    {phrase : Phrase}
    {before : Nat}
    (named : phrase.NamedBy names before)
    {parts : Alternatives Linear.Ast}
    (read : phrase.linear before = some parts)
    {mode : Mode}
    {trees : Alternatives Tree} :
    parts.HaveTrees mode.linear trees ↔
      ∃ nameless, phrase.trees mode before = some nameless ∧
        trees = nameless.map (Tree.named names) := by
  induction phrase generalizing before mode parts trees with
  | done =>
      obtain rfl := Option.some.inj read
      rw [Alternatives.haveTrees_nothing_iff]
      constructor
      · rintro rfl
        exact ⟨_, rfl, rfl⟩
      · rintro ⟨_, ⟨⟩, rfl⟩
        rfl
  | leaf atom quantifier rest restHypothesis =>
      obtain ⟨part, is, whole, applied, others, remaining, rfl⟩ := Linear.linear_leaf_iff.mp read
      have plain : atom.tree? mode = treeOf? mode.linear part := by
        rw [Leaf.tree?, is, if_neg]
        · rfl
        · cases atom with
          | reference keyed name => cases is
          | _ => nofun
      rw [Alternatives.haveTrees_cons_iff,
        Quantifier.treeOf?_applied? (Leaf.isSolid_part? is) applied, ← plain]
      simp only [Phrase.trees_leaf_iff, restHypothesis named remaining, Option.bind_eq_some_iff]
      have stays {single tree : Tree} (found : atom.tree? mode = some single)
          (repeated : Quantifier.repeated? quantifier single = some tree) : tree.named names = tree := by
        have same := Quantifier.repeated?_named names quantifier single
        rw [Leaf.named_tree? names found, repeated] at same
        exact (Option.some.inj same).symm
      constructor
      · rintro ⟨tree, ⟨single, found, repeated⟩, _, ⟨nameless, behind, rfl⟩, rfl⟩
        refine ⟨_, ⟨single, found, tree, repeated, nameless, behind, rfl⟩, ?_⟩
        rw [Alternatives.map_cons, stays found repeated]
      · rintro ⟨_, ⟨single, found, tree, repeated, nameless, behind, rfl⟩, rfl⟩
        refine ⟨tree, ⟨single, found, repeated⟩, _, ⟨nameless, behind, rfl⟩, ?_⟩
        rw [Alternatives.map_cons, stays found repeated]
  | group sign body quantifier rest bodyHypothesis restHypothesis =>
      obtain ⟨kind, is, inner, alone, whole, applied, others, remaining, rfl⟩ :=
        Linear.linear_group_iff.mp read
      obtain ⟨signNamed, bodyNamed, restNamed⟩ := named
      have seen : ¬ sign.isLook := by
        cases sign with
        | look behind negative => cases is
        | _ => nofun
      have solid : (Linear.Ast.group kind inner.toAst).IsSolid := trivial
      rw [Alternatives.haveTrees_cons_iff, Quantifier.treeOf?_applied? solid applied,
        GroupSign.treeOf?_group is signNamed]
      simp only [Phrase.trees_group_iff, if_neg seen, restHypothesis restNamed remaining,
        Option.bind_eq_some_iff, Option.map_eq_some_iff,
        Alternatives.treeOf?_toAst_eq_some_iff (all_isSolid_linear alone),
        bodyHypothesis bodyNamed alone]
      have labelled {insides : Alternatives Tree}
          (inside : body.trees (sign.mode mode) (before + sign.captures) = some insides) :
          Quantifier.repeated? quantifier
              (sign.label names before (insides.map (Tree.named names)).tree) =
            (Quantifier.repeated? quantifier (sign.tree before insides.tree)).map
              (Tree.named names) := by
        rw [Alternatives.tree_map_named names (hereditary_nameless.all_trees inside),
          ← GroupSign.named_tree is, Quantifier.repeated?_named]
      constructor
      · rintro ⟨_, ⟨_, ⟨_, ⟨_, ⟨insides, inside, rfl⟩, rfl⟩, rfl⟩, repeated⟩, _,
          ⟨nameless, behind, rfl⟩, rfl⟩
        rw [labelled inside] at repeated
        obtain ⟨tree, turned, rfl⟩ := Option.map_eq_some_iff.mp repeated
        exact ⟨_, ⟨insides, inside, tree, turned, nameless, behind, rfl⟩, rfl⟩
      · rintro ⟨_, ⟨insides, inside, tree, repeated, nameless, behind, rfl⟩, rfl⟩
        refine ⟨_, ⟨_, ⟨_, ⟨_, ⟨insides, inside, rfl⟩, rfl⟩, rfl⟩, ?_⟩, _,
          ⟨nameless, behind, rfl⟩, rfl⟩
        rw [labelled inside, repeated]
        rfl
  | bar rest restHypothesis =>
      obtain ⟨others, remaining, rfl⟩ := Linear.linear_bar_iff.mp read
      rw [Alternatives.haveTrees_bar_iff]
      simp only [Phrase.trees_bar_iff, restHypothesis named remaining]
      constructor
      · rintro ⟨_, ⟨nameless, behind, rfl⟩, rfl⟩
        exact ⟨_, ⟨nameless, behind, rfl⟩, rfl⟩
      · rintro ⟨_, ⟨nameless, behind, rfl⟩, rfl⟩
        exact ⟨_, ⟨nameless, behind, rfl⟩, rfl⟩

end

/-! ## Whole phrases -/

/-- The tree of a whole phrase. -/
def Phrase.tree? (phrase : Phrase) : Option Tree :=
  (phrase.trees .start 0).map Alternatives.tree

/-- A phrase is parsed and lowered to its tree with the names of its groups. -/
theorem Phrase.tree_of_treeOf
    {phrase : Phrase}
    (valid : phrase.isValid)
    (common : phrase.isCommon)
    {names : Nat → Option (List Char)}
    (named : phrase.NamedBy names 0)
    {pattern : String}
    (text : pattern.toList = phrase.text)
    {tree : Tree} :
    Linear.Regex.treeOf pattern = .ok tree →
      phrase.names.Nodup ∧ ∃ nameless, phrase.tree? = some nameless ∧
        tree = nameless.named names := by
  intro found
  obtain ⟨ast, parsed, lowered⟩ := Except.bind_eq_ok_iff.mp found
  rw [text] at parsed
  obtain ⟨distinct, parts, read, rfl, -⟩ :=
    (Linear.parse_phrase_eq_ok_iff valid common).mp parsed
  have named' (trees : Alternatives Tree) :
      parts.HaveTrees (Mode.linear .start) trees ↔
        ∃ nameless, phrase.trees .start 0 = some nameless ∧
          trees = nameless.map (Tree.named names) :=
    haveTrees_linear_iff named read
  obtain ⟨whole, made, lowered⟩ := Except.bind_eq_ok_iff.mp lowered
  obtain rfl := Except.ok.inj lowered
  obtain ⟨trees, have', same⟩ := (Alternatives.treeOf?_toAst_eq_some_iff
    (all_isSolid_linear read)).mp (Linear.treeOf?_of_lower made)
  obtain ⟨nameless, known, rfl⟩ := (named' _).mp have'
  refine ⟨distinct, nameless.tree, by rw [tree?, known]; rfl, ?_⟩
  rw [same, Alternatives.tree_map_named names (hereditary_nameless.all_trees known)]

end Pattern
end LineExtraction

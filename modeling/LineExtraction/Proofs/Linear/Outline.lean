import LineExtraction.Proofs.Linear.Naming
import LineExtraction.Proofs.Linear.Parts

/-!
# Groups that stand in sequence

A group that stands in a sequence, and not in a choice or under a repetition, is still
there in the tree that the pattern is lowered to: putting a sequence in normal form joins
literals and drops empty parts, and leaves every group in its place.  An outline holds such
groups in the order in which they open, each with the groups inside it.
-/

namespace LineExtraction
namespace Linear

/-! ## Outlines -/

/-- Groups that open one behind the other, with those that open inside each of them. -/
inductive Outline where
  | nil
  | group (capture : Capture) (inner rest : Outline)

namespace Outline

/-- The groups of an outline and of another behind it. -/
def append : Outline → Outline → Outline
  | nil, back => back
  | group capture inner rest, back => group capture inner (rest.append back)

@[simp] theorem append_nil
    (outline : Outline) :
    outline.append nil = outline := by
  induction outline with
  | nil => rfl
  | group capture inner rest _ restHypothesis => rw [append, restHypothesis]

/-- All groups of an outline in the order in which they open. -/
def captures : Outline → List Capture
  | nil => []
  | group capture inner rest => capture :: (inner.captures ++ rest.captures)

theorem captures_append
    (front back : Outline) :
    (front.append back).captures = front.captures ++ back.captures := by
  induction front with
  | nil => rfl
  | group capture inner rest _ restHypothesis =>
      simp only [append, captures, restHypothesis, List.cons_append, List.append_assoc]

/-- The numbers of the groups of an outline. -/
def numbers (outline : Outline) : List Nat :=
  outline.captures.map Prod.fst

theorem numbers_append
    (front back : Outline) :
    (front.append back).numbers = front.numbers ++ back.numbers := by
  rw [numbers, captures_append, List.map_append]
  rfl

end Outline

/-- Whether trees in sequence have the groups of an outline among them, and no other groups
with a number that is watched. -/
inductive Shows (watched : Nat → Prop) : List Tree → Outline → Prop
  | nil : Shows watched [] .nil
  | other
      {tree : Tree}
      {trees : List Tree}
      {outline : Outline}
      (unwatched : ∀ capture ∈ tree.captures, ¬ watched capture.1)
      (others : Shows watched trees outline) :
      Shows watched (tree :: trees) outline
  | group
      {index : Nat}
      {name : Option (List Char)}
      {body : Tree}
      {trees : List Tree}
      {inner rest : Outline}
      (inside : Shows watched body.parts inner)
      (others : Shows watched trees rest) :
      Shows watched (.capture index name body :: trees) (.group (index, name) inner rest)

namespace Shows

variable {watched : Nat → Prop} {tree : Tree} {trees front back : List Tree}
  {outline first second : Outline}

theorem append
    (frontShows : Shows watched front first)
    (backShows : Shows watched back second) :
    Shows watched (front ++ back) (first.append second) := by
  induction frontShows with
  | nil => exact backShows
  | other unwatched _ inductionHypothesis => exact .other unwatched inductionHypothesis
  | group inside _ _ inductionHypothesis => exact .group inside inductionHypothesis

/-- Trees without watched groups show no outline. -/
theorem of_unwatched
    (unwatched : ∀ tree ∈ trees, ∀ capture ∈ tree.captures, ¬ watched capture.1) :
    Shows watched trees .nil := by
  induction trees with
  | nil => exact .nil
  | cons tree trees inductionHypothesis =>
      exact .other (unwatched tree List.mem_cons_self)
        (inductionHypothesis fun other member => unwatched other (List.mem_cons_of_mem _ member))

/-- The groups of the outline are among the groups of the trees. -/
theorem captures_subset
    (shows' : Shows watched trees outline) :
    outline.captures ⊆ trees.flatMap Tree.captures := by
  induction shows' with
  | nil => exact List.nil_subset _
  | other _ _ inductionHypothesis =>
      exact List.Subset.trans inductionHypothesis (List.subset_append_right _ _)
  | group _ _ insideHypothesis othersHypothesis =>
      rw [Tree.captures_parts] at insideHypothesis
      intro capture member
      rcases List.mem_cons.mp member with rfl | member
      · exact List.mem_append_left _ List.mem_cons_self
      · rcases List.mem_append.mp member with inInner | inRest
        · exact List.mem_append_left _ (List.mem_cons_of_mem _ (insideHypothesis inInner))
        · exact List.mem_append_right _ (othersHypothesis inRest)

/-- A group of the trees that is watched is a group of the outline. -/
theorem mem_captures
    (shows' : Shows watched trees outline)
    {capture : Capture}
    (member : capture ∈ trees.flatMap Tree.captures)
    (isWatched : watched capture.1) :
    capture ∈ outline.captures := by
  induction shows' with
  | nil => exact member
  | other unwatched _ inductionHypothesis =>
      rcases List.mem_append.mp member with inTree | inTrees
      · exact absurd isWatched (unwatched capture inTree)
      · exact inductionHypothesis inTrees
  | group _ _ insideHypothesis othersHypothesis =>
      rw [Tree.captures_parts] at insideHypothesis
      rcases List.mem_append.mp member with inGroup | inTrees
      · rcases List.mem_cons.mp inGroup with rfl | inBody
        · exact List.mem_cons_self
        · exact List.mem_cons_of_mem _ (List.mem_append_left _ (insideHypothesis inBody))
      · exact List.mem_cons_of_mem _ (List.mem_append_right _ (othersHypothesis inTrees))

/-! ## Normal forms -/

theorem of_parts_unwatched
    (unwatched : ∀ capture ∈ tree.captures, ¬ watched capture.1) :
    Shows watched tree.parts .nil := by
  refine of_unwatched fun part member capture captured => unwatched capture ?_
  rw [← Tree.captures_parts]
  exact List.mem_flatMap.mpr ⟨part, member, captured⟩

theorem joinLiterals
    (shows' : Shows watched trees outline) :
    Shows watched (Tree.joinLiterals trees) outline := by
  induction shows' with
  | nil => exact .nil
  | @other tree trees outline unwatched _ inductionHypothesis =>
      cases tree with
      | literal chars =>
          rw [Tree.joinLiterals]
          split
          · next more joined same =>
              rw [same] at inductionHypothesis
              cases inductionHypothesis with
              | other _ others => exact .other (List.forall_mem_nil _) others
          · exact .other (List.forall_mem_nil _) inductionHypothesis
      | _ => exact .other unwatched inductionHypothesis
  | group inside _ _ inductionHypothesis => exact .group inside inductionHypothesis

theorem parts_chain
    (shows' : Shows watched trees outline) :
    Shows watched (Tree.chain trees).parts outline := by
  induction shows' with
  | nil => exact .nil
  | @other tree trees outline unwatched others inductionHypothesis =>
      cases trees with
      | nil =>
          cases others
          exact of_parts_unwatched unwatched
      | cons next trees => exact .other unwatched inductionHypothesis
  | @group index name body trees inner rest inside others _ inductionHypothesis =>
      cases trees with
      | nil => exact .group inside others
      | cons next trees => exact .group inside inductionHypothesis

/-- A sequence in normal form has the groups where its parts have them. -/
theorem parts_ofParts
    (shows' : Shows watched (trees.flatMap Tree.parts) outline) :
    Shows watched (Tree.ofParts trees).parts outline :=
  shows'.joinLiterals.parts_chain

/-- A choice of one branch has the groups where the branch has them. -/
theorem parts_ofBranches
    (shows' : Shows watched tree.parts outline) :
    Shows watched (Tree.ofBranches [tree]).parts outline := by
  have single : tree.branches = [tree] → Tree.ofBranches [tree] = tree := by
    intro only
    rw [Tree.ofBranches, Tree.ofBranchesWithin]
    simp [only]
  cases tree with
  | alternation first rest =>
      cases shows' with
      | other unwatched others =>
          cases others
          refine of_parts_unwatched fun capture captured => unwatched capture ?_
          simpa using Tree.captures_ofBranches_subset _ captured
  | _ =>
      rw [single rfl]
      exact shows'

end Shows

/-! ## Lowered patterns -/

/-- Whether a lowered pattern is a sequence with the groups of an outline. -/
structure Lowered.Shows (watched : Nat → Prop) (lowered : Lowered) (outline : Outline) : Prop where
  /-- Its parts have the groups. -/
  parts : Linear.Shows watched (lowered.parts.flatMap Tree.parts) outline
  /-- Its single branch has them. -/
  branch : ∃ tree, lowered.branches = [tree] ∧ Linear.Shows watched tree.parts outline

namespace Lowered

variable {watched : Nat → Prop} {flags : Flags} {outline : Outline}

theorem Shows.tree
    {lowered : Lowered}
    (shows' : lowered.Shows watched outline) :
    Linear.Shows watched lowered.tree.parts outline := by
  obtain ⟨tree, branches, isShown⟩ := shows'.branch
  rw [Lowered.tree, branches]
  exact isShown.parts_ofBranches

theorem shows_single
    {tree : Tree}
    (shows' : Linear.Shows watched tree.parts outline) :
    (single tree flags).Shows watched outline where
  parts := by simpa [single] using shows'
  branch := ⟨tree, rfl, shows'⟩

theorem shows_single_unwatched
    {tree : Tree}
    (unwatched : ∀ capture ∈ tree.captures, ¬ watched capture.1) :
    (single tree flags).Shows watched .nil :=
  shows_single (.of_parts_unwatched unwatched)

theorem Shows.single_capture
    {lowered : Lowered}
    (inside : lowered.Shows watched outline)
    (index : Nat)
    (name : Option (List Char)) :
    (single (.capture index name lowered.tree) flags).Shows watched
      (.group (index, name) outline .nil) :=
  shows_single (.group inside.tree .nil)

theorem Shows.join
    {front back : Lowered}
    {first second : Outline}
    (frontShows : front.Shows watched first)
    (backShows : back.Shows watched second) :
    (front.join back).Shows watched (first.append second) := by
  have both := frontShows.parts.append backShows.parts
  rw [← List.flatMap_append] at both
  exact ⟨both, _, rfl, both.parts_ofParts⟩

end Lowered

/-- Two runs of parts that are lowered to sequences with the groups of outlines. -/
theorem shows_lower_append
    {watched : Nat → Prop}
    {flags : Flags}
    {front back : List Ast}
    {first second : Lowered}
    {frontOutline backOutline : Outline}
    (firstFound : lower flags (.ofParts front) = .ok first)
    (frontShows : first.Shows watched frontOutline)
    (secondFound : lower first.flags (.ofParts back) = .ok second)
    (backShows : second.Shows watched backOutline) :
    ∃ lowered, lower flags (.ofParts (front ++ back)) = .ok lowered ∧
      lowered.flags = second.flags ∧ lowered.Shows watched (frontOutline.append backOutline) := by
  have ofEmpty : ∀ {flags lowered outline}, lower flags (.ofParts []) = .ok lowered →
      lowered.Shows watched outline → lowered.flags = flags ∧ outline = .nil := by
    intro flags lowered outline found shows'
    obtain rfl := Except.ok.inj found
    have none := shows'.parts
    cases none
    exact ⟨rfl, rfl⟩
  cases front with
  | nil =>
      obtain ⟨same, rfl⟩ := ofEmpty firstFound frontShows
      rw [same] at secondFound
      exact ⟨second, secondFound, rfl, backShows⟩
  | cons part front =>
      cases back with
      | nil =>
          obtain ⟨same, rfl⟩ := ofEmpty secondFound backShows
          rw [List.append_nil, Outline.append_nil]
          exact ⟨first, firstFound, same.symm, frontShows⟩
      | cons next back =>
          refine ⟨first.join second, ?_, rfl, frontShows.join backShows⟩
          rw [lower_ofParts_append_of_ne_nil flags (List.cons_ne_nil _ _) (List.cons_ne_nil _ _),
            firstFound]
          show (lower first.flags _ >>= _) = _
          rw [secondFound]
          rfl

end Linear
end LineExtraction

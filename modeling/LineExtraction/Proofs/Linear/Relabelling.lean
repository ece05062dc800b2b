import LineExtraction.Linear.Regex
import LineExtraction.Proofs.Linear.CanonicalForm

/-!
# Names do not matter for matching

The names of groups play no part in how a tree is built, as long as the same group always
has the same name, and none in the program of the tree.  So patterns that differ in the
names of their groups find the same matches.
-/

namespace LineExtraction
namespace Linear
namespace Tree

/-- The tree with its groups named by their numbers. -/
def named (names : Nat → Option (List Char)) : Tree → Tree
  | repetition min max greedy body => repetition min max greedy (body.named names)
  | capture index _ body => capture index (names index) (body.named names)
  | concat first rest => concat (first.named names) (rest.named names)
  | alternation first rest => alternation (first.named names) (rest.named names)
  | tree => tree

/-- No group of the tree has a name. -/
def Nameless (tree : Tree) : Prop := tree.named (fun _ => none) = tree

section

variable (names others : Nat → Option (List Char))

theorem named_named
    (tree : Tree) :
    (tree.named names).named others = tree.named others := by
  induction tree with
  | repetition min max greedy body bodyHypothesis => rw [named, named, bodyHypothesis, named]
  | capture index name body bodyHypothesis => rw [named, named, bodyHypothesis, named]
  | concat first rest firstHypothesis restHypothesis =>
      rw [named, named, firstHypothesis, restHypothesis, named]
  | alternation first rest firstHypothesis restHypothesis =>
      rw [named, named, firstHypothesis, restHypothesis, named]
  | _ => rfl

variable {names others}

theorem named_eq_named_iff
    {left right : Tree}
    (leftNameless : left.Nameless)
    (rightNameless : right.Nameless) :
    left.named names = right.named names ↔ left = right := by
  refine ⟨fun same => ?_, fun same => same ▸ rfl⟩
  rw [← leftNameless, ← rightNameless, ← named_named names, same, named_named]

variable (names)

/-! ## Parts and branches -/

theorem parts_named
    (tree : Tree) :
    (tree.named names).parts = tree.parts.map (named names) := by
  induction tree with
  | concat first rest _ restHypothesis =>
      rw [named, parts, parts, List.map_cons, restHypothesis]
  | _ => rfl

theorem branches_named
    (tree : Tree) :
    (tree.named names).branches = tree.branches.map (named names) := by
  induction tree with
  | alternation first rest _ restHypothesis =>
      rw [named, branches, branches, List.map_cons, restHypothesis]
  | _ => rfl

theorem flatMap_parts_named
    (given : List Tree) :
    (given.map (named names)).flatMap parts = (given.flatMap parts).map (named names) := by
  induction given with
  | nil => rfl
  | cons tree rest inductionHypothesis =>
      rw [List.map_cons, List.flatMap_cons, List.flatMap_cons, List.map_append, parts_named,
        inductionHypothesis]

theorem flatMap_branches_named
    (given : List Tree) :
    (given.map (named names)).flatMap branches = (given.flatMap branches).map (named names) := by
  induction given with
  | nil => rfl
  | cons tree rest inductionHypothesis =>
      rw [List.map_cons, List.flatMap_cons, List.flatMap_cons, List.map_append, branches_named,
        inductionHypothesis]

theorem chain_named
    (given : List Tree) :
    chain (given.map (named names)) = (chain given).named names := by
  induction given with
  | nil => rfl
  | cons part rest inductionHypothesis =>
      cases rest with
      | nil => rfl
      | cons next rest =>
          rw [chain, named, ← inductionHypothesis]
          · rfl
          · exact List.cons_ne_nil _ _

theorem choice_named
    (given : List Tree) :
    choice (given.map (named names)) = (choice given).named names := by
  induction given with
  | nil => rfl
  | cons branch rest inductionHypothesis =>
      cases rest with
      | nil => rfl
      | cons next rest =>
          rw [choice, named, ← inductionHypothesis]
          · rfl
          · exact List.cons_ne_nil _ _

theorem attach_named
    (part : Tree)
    (joined : List Tree) :
    (part.named names).attach (joined.map (named names)) =
      (part.attach joined).map (named names) := by
  cases part with
  | literal chars =>
      cases joined with
      | nil => rfl
      | cons next joined => cases next <;> rfl
  | _ => rfl

theorem joinLiterals_named
    (given : List Tree) :
    joinLiterals (given.map (named names)) = (joinLiterals given).map (named names) := by
  induction given with
  | nil => rfl
  | cons part rest inductionHypothesis =>
      rw [List.map_cons, joinLiterals_cons, inductionHypothesis, attach_named, joinLiterals_cons]

theorem ofParts_named
    (given : List Tree) :
    ofParts (given.map (named names)) = (ofParts given).named names := by
  rw [ofParts, ofParts, flatMap_parts_named, joinLiterals_named, chain_named]

theorem ofSet_named
    (members : Unicode.CodePointSet) :
    (ofSet members).named names = ofSet members := by
  rw [ofSet]
  split <;> rfl

/-! ## Repetitions -/

theorem onlyEmpty_named
    (tree : Tree) :
    (tree.named names).onlyEmpty = tree.onlyEmpty := by
  induction tree with
  | repetition min max greedy body bodyHypothesis =>
      rw [named, onlyEmpty, onlyEmpty, bodyHypothesis]
  | capture index name body bodyHypothesis => rw [named, onlyEmpty, onlyEmpty, bodyHypothesis]
  | concat first rest firstHypothesis restHypothesis =>
      rw [named, onlyEmpty, onlyEmpty, firstHypothesis, restHypothesis]
  | alternation first rest firstHypothesis restHypothesis =>
      rw [named, onlyEmpty, onlyEmpty, firstHypothesis, restHypothesis]
  | _ => rfl

theorem repeated_named
    (min : Nat)
    (max : Option Nat)
    (greedy : Bool)
    (body : Tree) :
    repeated min max greedy (body.named names) = (repeated min max greedy body).named names := by
  simp only [repeated, onlyEmpty_named, apply_ite (named names)]
  rfl

/-! ## Choices -/

theorem allMembers?_named
    (given : List Tree) :
    allMembers? (given.map (named names)) = allMembers? given := by
  have characters (tree : Tree) : onlyChar? (tree.named names) = onlyChar? tree := by
    cases tree <;> rfl
  have classes (tree : Tree) : members? (tree.named names) = members? tree := by
    cases tree <;> rfl
  have pointwise {read : Tree → Option Unicode.CodePointSet}
      (same : ∀ tree, read (tree.named names) = read tree) :
      (given.map (named names)).mapM read = given.mapM read := by
    induction given with
    | nil => rfl
    | cons tree rest inductionHypothesis =>
        rw [List.map_cons, List.mapM_cons, List.mapM_cons, same, inductionHypothesis]
  rw [allMembers?, allMembers?, pointwise characters, pointwise classes]

theorem mapM_sequence?_named
    (given : List Tree) :
    (given.map (named names)).mapM sequence? =
      (given.mapM sequence?).map (List.map (List.map (named names))) := by
  have read (tree : Tree) :
      sequence? (tree.named names) = (sequence? tree).map (List.map (named names)) := by
    cases tree with
    | concat first rest =>
        rw [named, sequence?, sequence?, Option.map_some, List.map_cons, parts_named]
    | _ => rfl
  induction given with
  | nil => rfl
  | cons tree rest inductionHypothesis =>
      rw [List.map_cons, List.mapM_cons, List.mapM_cons, read, inductionHypothesis]
      cases sequence? tree with
      | none => rfl
      | some parts => cases rest.mapM sequence? <;> rfl

variable {names}

theorem commonLength_named
    {left right : List Tree}
    (leftNameless : ∀ part ∈ left, part.Nameless)
    (rightNameless : ∀ part ∈ right, part.Nameless) :
    commonLength (left.map (named names)) (right.map (named names)) = commonLength left right := by
  induction left generalizing right with
  | nil => rfl
  | cons first left inductionHypothesis =>
      cases right with
      | nil => rfl
      | cons second right =>
          obtain ⟨firstNameless, laterNameless⟩ := List.forall_mem_cons.mp leftNameless
          obtain ⟨secondNameless, restNameless⟩ := List.forall_mem_cons.mp rightNameless
          rw [List.map_cons, List.map_cons, commonLength, commonLength,
            inductionHypothesis laterNameless restNameless]
          simp only [named_eq_named_iff firstNameless secondNameless]

theorem sharedLength_named
    {first : List Tree}
    {rest : List (List Tree)}
    (firstNameless : ∀ part ∈ first, part.Nameless)
    (restNameless : ∀ parts ∈ rest, ∀ part ∈ parts, part.Nameless) :
    sharedLength (first.map (named names)) (rest.map (List.map (named names))) =
      sharedLength first rest := by
  have folded (bound : Nat) :
      (rest.map (List.map (named names))).foldl (fun length other =>
          Nat.min length (commonLength (first.map (named names)) other)) bound =
        rest.foldl (fun length other => Nat.min length (commonLength first other)) bound := by
    induction rest generalizing bound with
    | nil => rfl
    | cons other rest inductionHypothesis =>
        obtain ⟨otherNameless, laterNameless⟩ := List.forall_mem_cons.mp restNameless
        rw [List.map_cons, List.foldl_cons, List.foldl_cons,
          commonLength_named firstNameless otherNameless, inductionHypothesis laterNameless]
  rw [sharedLength, sharedLength, List.length_map, folded]

theorem map_named_eq_self_iff
    {given : List Tree} :
    given.map (named names) = given ↔ ∀ tree ∈ given, tree.named names = tree := by
  refine Iff.trans ?_ (List.map_inj_left (g := id))
  rw [List.map_id]

theorem nameless_of_mem_parts
    {tree : Tree}
    (nameless : tree.Nameless) :
    ∀ part ∈ tree.parts, part.Nameless := by
  have whole := parts_named (fun _ => none) tree
  rw [nameless] at whole
  exact map_named_eq_self_iff.mp whole.symm

theorem nameless_of_mem_branches
    {tree : Tree}
    (nameless : tree.Nameless) :
    ∀ branch ∈ tree.branches, branch.Nameless := by
  have whole := branches_named (fun _ => none) tree
  rw [nameless] at whole
  exact map_named_eq_self_iff.mp whole.symm

theorem nameless_ofParts
    {given : List Tree}
    (nameless : ∀ tree ∈ given, tree.Nameless) :
    (ofParts given).Nameless := by
  rw [Nameless, ← ofParts_named, map_named_eq_self_iff.mpr nameless]

theorem nameless_repeated
    {body : Tree}
    (nameless : body.Nameless)
    (min : Nat)
    (max : Option Nat)
    (greedy : Bool) :
    (repeated min max greedy body).Nameless := by
  rw [Nameless, ← repeated_named, nameless]

/-- A choice is built in the same way whatever names its groups have. -/
theorem ofBranchesWithin_named
    (fuel : Nat)
    {given : List Tree}
    (nameless : ∀ tree ∈ given, tree.Nameless) :
    ofBranchesWithin fuel (given.map (named names)) =
      (ofBranchesWithin fuel given).named names := by
  induction fuel generalizing given with
  | zero => exact choice_named names given
  | succ fuel inductionHypothesis =>
      have flatNameless : ∀ branch ∈ given.flatMap branches, branch.Nameless := by
        intro branch member
        obtain ⟨tree, listed, inside⟩ := List.mem_flatMap.mp member
        exact nameless_of_mem_branches (nameless tree listed) branch inside
      rw [ofBranchesWithin, ofBranchesWithin, flatMap_branches_named]
      dsimp only
      generalize given.flatMap branches = flat at flatNameless
      rcases flat with - | ⟨one, - | ⟨two, rest⟩⟩
      · rfl
      · rfl
      · rw [List.map_cons, List.map_cons]
        dsimp only
        rw [← List.map_cons, ← List.map_cons, allMembers?_named, mapM_sequence?_named]
        cases allMembers? (one :: two :: rest) with
        | some sets => exact (ofSet_named names _).symm
        | none =>
            dsimp only
            cases read : (one :: two :: rest).mapM sequence? with
            | none => exact choice_named names _
            | some sequences =>
                cases sequences with
                | nil => exact choice_named names _
                | cons first others =>
                    have partsNameless : ∀ parts ∈ first :: others, ∀ part ∈ parts,
                        part.Nameless := by
                      intro parts listed
                      have inFlat : some parts ∈ (one :: two :: rest).map sequence? :=
                        forall_of_mapM_eq_some read ▸ List.mem_map.mpr ⟨parts, listed, rfl⟩
                      obtain ⟨tree, treeListed, treeRead⟩ := List.mem_map.mp inFlat
                      rw [parts_of_sequence? treeRead]
                      exact nameless_of_mem_parts (flatNameless tree treeListed)
                    obtain ⟨firstNameless, othersNameless⟩ := List.forall_mem_cons.mp partsNameless
                    simp only [Option.map_some, List.map_cons,
                      sharedLength_named firstNameless othersNameless]
                    generalize sharedLength first others = shared
                    have rests : ((first.map (named names)) ::
                        others.map (List.map (named names))).map
                          (fun parts => ofParts (parts.drop shared)) =
                        ((first :: others).map fun parts =>
                          ofParts (parts.drop shared)).map (named names) := by
                      simp only [List.map_cons, List.map_map, ← List.map_drop, ofParts_named,
                        Function.comp_def]
                    have restsNameless : ∀ tree ∈ (first :: others).map fun parts =>
                        ofParts (parts.drop shared), tree.Nameless := by
                      intro tree member
                      obtain ⟨parts, listed, rfl⟩ := List.mem_map.mp member
                      exact nameless_ofParts fun part inside =>
                        partsNameless parts listed part (List.mem_of_mem_drop inside)
                    split
                    · exact choice_named names (one :: two :: rest)
                    · simp only [List.map_cons] at rests restsNameless
                      rw [← ofParts_named, List.map_append, List.map_singleton, List.map_take,
                        ← inductionHypothesis restsNameless, List.map_cons, rests]

theorem size_named
    (tree : Tree) :
    (tree.named names).size = tree.size := by
  induction tree with
  | repetition min max greedy body bodyHypothesis => rw [named, size, size, bodyHypothesis]
  | capture index name body bodyHypothesis => rw [named, size, size, bodyHypothesis]
  | concat first rest firstHypothesis restHypothesis =>
      rw [named, size, size, firstHypothesis, restHypothesis]
  | alternation first rest firstHypothesis restHypothesis =>
      rw [named, size, size, firstHypothesis, restHypothesis]
  | _ => rfl

theorem ofBranches_named
    {given : List Tree}
    (nameless : ∀ tree ∈ given, tree.Nameless) :
    ofBranches (given.map (named names)) = (ofBranches given).named names := by
  have sizes : (given.map (named names)).map size = given.map size := by
    rw [List.map_map]
    exact List.map_congr_left fun tree _ => size_named tree
  rw [ofBranches, ofBranches, sizes, ofBranchesWithin_named _ nameless]

theorem nameless_ofBranches
    {given : List Tree}
    (nameless : ∀ tree ∈ given, tree.Nameless) :
    (ofBranches given).Nameless := by
  rw [Nameless, ← ofBranches_named nameless, map_named_eq_self_iff.mpr nameless]

/-! ## Programs -/

theorem minLength_named
    (tree : Tree) :
    (tree.named names).minLength = tree.minLength := by
  induction tree with
  | repetition min max greedy body bodyHypothesis =>
      rw [named, minLength, minLength, bodyHypothesis]
  | capture index name body bodyHypothesis => rw [named, minLength, minLength, bodyHypothesis]
  | concat first rest firstHypothesis restHypothesis =>
      rw [named, minLength, minLength, firstHypothesis, restHypothesis]
  | alternation first rest firstHypothesis restHypothesis =>
      rw [named, minLength, minLength, firstHypothesis, restHypothesis]
  | _ => rfl

theorem emitTree_named
    (tree : Tree)
    (code : Array Instruction)
    (next : Nat) :
    Program.emitTree (tree.named names) code next = Program.emitTree tree code next := by
  induction tree generalizing code next with
  | repetition min max greedy body bodyHypothesis =>
      have same : Program.emitTree (body.named names) = Program.emitTree body :=
        funext fun code => funext fun next => bodyHypothesis code next
      rw [named, Program.emitTree, Program.emitTree, same, minLength_named]
  | capture index name body bodyHypothesis =>
      simp only [named, Program.emitTree, bodyHypothesis]
  | concat first rest firstHypothesis restHypothesis =>
      simp only [named, Program.emitTree, firstHypothesis, restHypothesis]
  | alternation first rest firstHypothesis restHypothesis =>
      simp only [named, Program.emitTree, firstHypothesis, restHypothesis]
  | _ => rfl

theorem captures_named
    (tree : Tree) :
    (tree.named names).captures =
      tree.captures.map fun capture => (capture.1, names capture.1) := by
  induction tree with
  | repetition min max greedy body bodyHypothesis => rw [named, captures, bodyHypothesis, captures]
  | capture index name body bodyHypothesis =>
      rw [named, captures, bodyHypothesis, captures, List.map_cons]
  | concat first rest firstHypothesis restHypothesis =>
      rw [named, captures, firstHypothesis, restHypothesis, captures, List.map_append]
  | alternation first rest firstHypothesis restHypothesis =>
      rw [named, captures, firstHypothesis, restHypothesis, captures, List.map_append]
  | _ => rfl

theorem length_groupNames_named
    (tree : Tree) :
    (tree.named names).groupNames.length = tree.groupNames.length := by
  rw [groupNames, groupNames]
  simp only [List.length_map, List.length_range, captures_named, List.foldl_map]

end

end Tree

/-- Naming the groups of a tree changes no match. -/
theorem search_ofTree_named
    (names : Nat → Option (List Char))
    (tree : Tree)
    (line : Line) :
    (Regex.ofTree (tree.named names)).search line = (Regex.ofTree tree).search line := by
  have program : Program.ofTree (tree.named names) = Program.ofTree tree := by
    simp only [Program.ofTree, Program.emitTree, Tree.emitTree_named]
  rw [Regex.search, Regex.search, Regex.slotCount, Regex.slotCount]
  simp only [Regex.ofTree, program, Tree.length_groupNames_named]

end Linear
end LineExtraction

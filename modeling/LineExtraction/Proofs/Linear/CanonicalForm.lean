import LineExtraction.Proofs.Linear.Naming

/-!
# Trees in canonical form

A tree that lowering builds is in a form that building does not change any more: putting
it in a sequence or a choice of its own gives it back.  So a group that neither captures
nor sets a flag leaves no trace, and a sequence inside a sequence is the same as its parts.
-/

namespace LineExtraction
namespace Linear
namespace Tree

open Unicode (CodePointSet)

/-! ## Joining literals -/

/-- Put a part in front of joined parts, where two literals become one. -/
def attach : Tree → List Tree → List Tree
  | literal chars, literal more :: joined => literal (chars ++ more) :: joined
  | part, joined => part :: joined

theorem joinLiterals_cons
    (part : Tree)
    (rest : List Tree) :
    joinLiterals (part :: rest) = part.attach (joinLiterals rest) := by
  cases part with
  | literal chars =>
      rw [joinLiterals]
      split
      · next more joined same => rw [same]; rfl
      · next other =>
          cases same : joinLiterals rest with
          | nil => rfl
          | cons next joined =>
              cases next with
              | literal more => exact absurd same (other more joined)
              | _ => rfl
  | _ => rfl

theorem attach_literal_attach
    (front back : List Char)
    (joined : List Tree) :
    (literal front).attach ((literal back).attach joined) =
      (literal (front ++ back)).attach joined := by
  cases joined with
  | nil => rfl
  | cons next joined =>
      cases next with
      | literal more => simp [attach]
      | _ => rfl

theorem joinLiterals_attach_append
    (part : Tree)
    (front back : List Tree) :
    joinLiterals (part.attach front ++ back) = part.attach (joinLiterals (front ++ back)) := by
  cases part with
  | literal chars =>
      cases front with
      | nil => exact joinLiterals_cons _ _
      | cons next front =>
          cases next with
          | literal more =>
              rw [attach, List.cons_append, List.cons_append, joinLiterals_cons, joinLiterals_cons,
                attach_literal_attach]
          | _ => exact joinLiterals_cons _ _
  | _ => exact joinLiterals_cons _ _

theorem joinLiterals_joinLiterals_append
    (front back : List Tree) :
    joinLiterals (joinLiterals front ++ back) = joinLiterals (front ++ back) := by
  induction front with
  | nil => rfl
  | cons part front inductionHypothesis =>
      rw [joinLiterals_cons, joinLiterals_attach_append, inductionHypothesis, List.cons_append,
        joinLiterals_cons]

theorem joinLiterals_idem
    (given : List Tree) :
    joinLiterals (joinLiterals given) = joinLiterals given := by
  simpa using joinLiterals_joinLiterals_append given []

theorem joinLiterals_append_joinLiterals
    (front back : List Tree) :
    joinLiterals (front ++ joinLiterals back) = joinLiterals (front ++ back) := by
  induction front with
  | nil => exact joinLiterals_idem back
  | cons part front inductionHypothesis =>
      rw [List.cons_append, List.cons_append, joinLiterals_cons, joinLiterals_cons,
        inductionHypothesis]

theorem joinLiterals_eq_nil_iff
    (given : List Tree) :
    joinLiterals given = [] ↔ given = [] := by
  cases given with
  | nil => exact iff_of_true rfl rfl
  | cons part rest =>
      refine iff_of_false ?_ (List.cons_ne_nil _ _)
      rw [joinLiterals_cons]
      unfold attach
      split <;> exact List.cons_ne_nil _ _

/-- Joined parts are literals or stood there before. -/
theorem mem_joinLiterals
    {given : List Tree}
    {part : Tree}
    (member : part ∈ joinLiterals given) :
    part ∈ given ∨ ∃ chars, part = literal chars := by
  induction given with
  | nil => exact nomatch member
  | cons first rest inductionHypothesis =>
      rw [joinLiterals_cons] at member
      unfold attach at member
      split at member
      · next joined same =>
          rcases List.mem_cons.mp member with rfl | later
          · exact .inr ⟨_, rfl⟩
          · exact (inductionHypothesis (same ▸ List.mem_cons_of_mem _ later)).imp_left
              (List.mem_cons_of_mem _)
      · rcases List.mem_cons.mp member with rfl | later
        · exact .inl List.mem_cons_self
        · exact (inductionHypothesis later).imp_left (List.mem_cons_of_mem _)

/-- Where joining leaves one part, that is a literal or nothing was joined. -/
theorem eq_of_joinLiterals_eq_singleton
    {given : List Tree}
    {part : Tree}
    (single : joinLiterals given = [part]) :
    given = [part] ∨ ∃ chars, part = literal chars := by
  cases given with
  | nil => exact nomatch single
  | cons first rest =>
      rw [joinLiterals_cons] at single
      unfold attach at single
      split at single
      · exact .inr ⟨_, (List.cons.inj single).1.symm⟩
      · obtain ⟨rfl, nothing⟩ := List.cons.inj single
        rw [(joinLiterals_eq_nil_iff rest).mp nothing]
        exact .inl rfl

/-! ## Parts and branches -/

/-- The tree is a part of sequences, neither empty nor a sequence itself. -/
def IsPart (tree : Tree) : Prop := tree.parts = [tree]

/-- The tree is a branch of choices, no choice itself. -/
def IsBranch (tree : Tree) : Prop := tree.branches = [tree]

theorem parts_chain
    {given : List Tree}
    (parted : ∀ part ∈ given, part.IsPart) :
    (chain given).parts = given := by
  induction given with
  | nil => rfl
  | cons part rest inductionHypothesis =>
      cases rest with
      | nil => exact parted part List.mem_cons_self
      | cons next rest =>
          rw [chain, parts, inductionHypothesis fun other member =>
            parted other (List.mem_cons_of_mem _ member)]
          exact List.cons_ne_nil _ _

theorem branches_choice
    {given : List Tree}
    (some : given ≠ [])
    (branched : ∀ branch ∈ given, branch.IsBranch) :
    (choice given).branches = given := by
  induction given with
  | nil => exact absurd rfl some
  | cons branch rest inductionHypothesis =>
      cases rest with
      | nil => exact branched branch List.mem_cons_self
      | cons next rest =>
          rw [choice, branches, inductionHypothesis (List.cons_ne_nil _ _) fun other member =>
            branched other (List.mem_cons_of_mem _ member)]
          exact List.cons_ne_nil _ _

theorem branches_ne_nil
    (tree : Tree) :
    tree.branches ≠ [] := by
  cases tree <;> exact List.cons_ne_nil _ _

theorem isBranch_chain
    {given : List Tree}
    (several : 2 ≤ given.length) :
    (chain given).IsBranch := by
  match given, several with
  | first :: second :: rest, _ => rfl

theorem isPart_choice
    {given : List Tree}
    (several : 2 ≤ given.length) :
    (choice given).IsPart := by
  match given, several with
  | first :: second :: rest, _ => rfl

theorem isPart_ofSet
    (members : CodePointSet) :
    (ofSet members).IsPart := by
  rw [ofSet]
  split <;> rfl

theorem isBranch_ofSet
    (members : CodePointSet) :
    (ofSet members).IsBranch := by
  rw [ofSet]
  split <;> rfl

/-- The sequences in the tree, apart from those inside of captures and repetitions, have
parts that are no sequences. -/
def Parted : Tree → Prop
  | concat first rest => first.IsPart ∧ first.Parted ∧ rest.Parted
  | alternation first rest => first.Parted ∧ rest.Parted
  | _ => True

theorem Parted.parts
    {tree : Tree}
    (parted : tree.Parted) :
    ∀ part ∈ tree.parts, part.IsPart ∧ part.Parted := by
  induction tree with
  | empty => exact nofun
  | concat first rest _ restHypothesis =>
      exact List.forall_mem_cons.mpr ⟨⟨parted.1, parted.2.1⟩, restHypothesis parted.2.2⟩
  | _ => exact List.forall_mem_singleton.mpr ⟨rfl, parted⟩

theorem Parted.branches
    {tree : Tree}
    (parted : tree.Parted) :
    ∀ branch ∈ tree.branches, branch.Parted := by
  induction tree with
  | alternation first rest _ restHypothesis =>
      exact List.forall_mem_cons.mpr ⟨parted.1, restHypothesis parted.2⟩
  | _ => exact List.forall_mem_singleton.mpr parted

theorem parted_chain
    {given : List Tree}
    (parted : ∀ part ∈ given, part.IsPart ∧ part.Parted) :
    (chain given).Parted := by
  induction given with
  | nil => trivial
  | cons part rest inductionHypothesis =>
      obtain ⟨⟨isPart, here⟩, later⟩ := List.forall_mem_cons.mp parted
      cases rest with
      | nil => exact here
      | cons next rest => exact ⟨isPart, here, inductionHypothesis later⟩

theorem parted_choice
    {given : List Tree}
    (parted : ∀ branch ∈ given, branch.Parted) :
    (choice given).Parted := by
  induction given with
  | nil => trivial
  | cons branch rest inductionHypothesis =>
      obtain ⟨here, later⟩ := List.forall_mem_cons.mp parted
      cases rest with
      | nil => exact here
      | cons next rest => exact ⟨here, inductionHypothesis later⟩

theorem parted_ofSet
    (members : CodePointSet) :
    (ofSet members).Parted := by
  rw [ofSet]
  split <;> trivial

/-! ## Sequences -/

/-- The joined parts of trees, which determine their sequence. -/
def spread (given : List Tree) : List Tree := joinLiterals (given.flatMap parts)

theorem ofParts_eq_chain_spread
    (given : List Tree) :
    ofParts given = chain (spread given) := rfl

theorem spread_append
    (front back : List Tree) :
    spread (front ++ back) = joinLiterals (spread front ++ spread back) := by
  rw [spread, spread, spread, joinLiterals_append_joinLiterals, joinLiterals_joinLiterals_append,
    List.flatMap_append]

theorem isPart_of_mem_spread
    {given : List Tree}
    (parted : ∀ tree ∈ given, tree.Parted) :
    ∀ part ∈ spread given, part.IsPart ∧ part.Parted := by
  intro part member
  rcases mem_joinLiterals member with inside | ⟨chars, rfl⟩
  · obtain ⟨tree, listed, partOf⟩ := List.mem_flatMap.mp inside
    exact (parted tree listed).parts part partOf
  · exact ⟨rfl, trivial⟩

theorem parts_ofParts
    {given : List Tree}
    (parted : ∀ tree ∈ given, tree.Parted) :
    (ofParts given).parts = spread given := by
  rw [ofParts_eq_chain_spread,
    parts_chain fun part member => (isPart_of_mem_spread parted part member).1]

theorem parted_ofParts
    {given : List Tree}
    (parted : ∀ tree ∈ given, tree.Parted) :
    (ofParts given).Parted :=
  parted_chain (isPart_of_mem_spread parted)

theorem ofParts_congr
    {left right : List Tree}
    (same : spread left = spread right) :
    ofParts left = ofParts right := by
  rw [ofParts_eq_chain_spread, ofParts_eq_chain_spread, same]

/-! ## Choices -/

theorem ofBranchesWithin_of_isBranch
    {tree : Tree}
    (branched : tree.IsBranch)
    (fuel : Nat) :
    ofBranchesWithin (fuel + 1) [tree] = tree := by
  rw [ofBranchesWithin]
  simp only [List.flatMap_cons, List.flatMap_nil, List.append_nil]
  rw [branched]

/-- Building a choice finds nothing to merge or to take out of the branches. -/
structure Unshared (flat : List Tree) : Prop where
  /-- Some branch is more than a character or a set. -/
  mixed : allMembers? flat = none
  /-- The branches have no beginning in common. -/
  apart : ∀ first others, flat.mapM sequence? = some (first :: others) →
    sharedLength first others = 0

theorem ofBranchesWithin_of_unshared
    {given : List Tree}
    (several : 2 ≤ (given.flatMap branches).length)
    (unshared : Unshared (given.flatMap branches))
    (fuel : Nat) :
    ofBranchesWithin (fuel + 1) given = choice (given.flatMap branches) := by
  rw [ofBranchesWithin]
  dsimp only
  split
  · next nothing => simp [nothing] at several
  · next branch only => simp [only] at several
  · split
    · next sets found => cases unshared.mixed.symm.trans found
    · split
      · next first others read => rw [if_pos (unshared.apart first others read)]
      · rfl

/-- How a choice between several branches comes out: as a set, as the choice between the
branches as they stand, or as a sequence that starts with what they share. -/
theorem ofBranchesWithin_cases
    (fuel : Nat)
    {given : List Tree}
    (several : 2 ≤ (given.flatMap branches).length) :
    (∃ members, ofBranchesWithin (fuel + 1) given = ofSet members) ∨
      (Unshared (given.flatMap branches) ∧
        ofBranchesWithin (fuel + 1) given = choice (given.flatMap branches)) ∨
      ∃ first others, (given.flatMap branches).mapM sequence? = some (first :: others) ∧
        0 < sharedLength first others ∧
        ofBranchesWithin (fuel + 1) given =
          ofParts (first.take (sharedLength first others) ++
            [ofBranchesWithin fuel ((first :: others).map fun parts =>
              ofParts (parts.drop (sharedLength first others)))]) := by
  rw [ofBranchesWithin]
  dsimp only
  split
  · next nothing => simp [nothing] at several
  · next branch only => simp [only] at several
  · split
    · next sets found => exact .inl ⟨_, rfl⟩
    · next mixed =>
        split
        · next first others read =>
            split
            · next nothing =>
                refine .inr (.inl ⟨⟨mixed, fun given rest found => ?_⟩, rfl⟩)
                obtain ⟨rfl, rfl⟩ := List.cons.inj (Option.some.inj (read.symm.trans found))
                exact nothing
            · next shared => exact .inr (.inr ⟨first, others, read, Nat.pos_of_ne_zero shared, rfl⟩)
        · next unread =>
            exact .inr (.inl ⟨⟨mixed, fun first others found => absurd found (unread first others)⟩,
              rfl⟩)

theorem length_le_flatMap_branches
    (given : List Tree) :
    given.length ≤ (given.flatMap branches).length := by
  induction given with
  | nil => exact Nat.le_refl _
  | cons tree rest inductionHypothesis =>
      have some := List.length_pos_iff.mpr tree.branches_ne_nil
      rw [List.flatMap_cons, List.length_append, List.length_cons]
      omega

/-- What is left of sequences behind a shared beginning has parts in order. -/
theorem parted_rests
    {flat : List Tree}
    {sequences : List (List Tree)}
    (parted : ∀ branch ∈ flat, branch.Parted)
    (read : flat.mapM sequence? = some sequences) :
    ∀ parts ∈ sequences, ∀ part ∈ parts, part.IsPart ∧ part.Parted := by
  intro parts listed
  have same := forall_of_mapM_eq_some read
  have inFlat : some parts ∈ flat.map sequence? := same ▸ List.mem_map.mpr ⟨parts, listed, rfl⟩
  obtain ⟨tree, treeListed, treeRead⟩ := List.mem_map.mp inFlat
  rw [parts_of_sequence? treeRead]
  exact (parted tree treeListed).parts

/-- A shared beginning has a part. -/
theorem exists_take_sharedLength
    {first : List Tree}
    {others : List (List Tree)}
    (shared : 0 < sharedLength first others) :
    ∃ part rest, first.take (sharedLength first others) = part :: rest := by
  have bounded : ∀ (others : List (List Tree)) (bound : Nat),
      others.foldl (fun length other => Nat.min length (commonLength first other)) bound ≤
        bound := by
    intro others
    induction others with
    | nil => exact fun bound => Nat.le_refl _
    | cons other others inductionHypothesis =>
        exact fun bound => Nat.le_trans (inductionHypothesis _) (Nat.min_le_left _ _)
  have few : sharedLength first others ≤ first.length := bounded others first.length
  match first with
  | [] => exact absurd (Nat.le_antisymm few (Nat.zero_le _)) (Nat.ne_of_gt shared)
  | part :: rest =>
      obtain ⟨count, counted⟩ := Nat.exists_eq_succ_of_ne_zero (Nat.ne_of_gt shared)
      exact ⟨part, rest.take count, by rw [counted, List.take_succ_cons]⟩

/-- A choice has its parts in order, and it has some where there are several branches. -/
theorem parted_ofBranchesWithin
    (fuel : Nat)
    {given : List Tree}
    (parted : ∀ branch ∈ given, branch.Parted) :
    (ofBranchesWithin fuel given).Parted ∧
      (2 ≤ given.length → (ofBranchesWithin fuel given).parts ≠ []) := by
  induction fuel generalizing given with
  | zero =>
      refine ⟨parted_choice parted, fun several => ?_⟩
      rw [ofBranchesWithin, isPart_choice several]
      exact List.cons_ne_nil _ _
  | succ fuel inductionHypothesis =>
      have flatParted : ∀ branch ∈ given.flatMap branches, branch.Parted := by
        intro branch member
        obtain ⟨tree, listed, inside⟩ := List.mem_flatMap.mp member
        exact (parted tree listed).branches branch inside
      by_cases several : 2 ≤ (given.flatMap branches).length
      · rcases ofBranchesWithin_cases fuel several with
          ⟨members, same⟩ | ⟨unshared, same⟩ | ⟨first, others, read, shared, same⟩
        · rw [same, isPart_ofSet]
          exact ⟨parted_ofSet members, fun _ => List.cons_ne_nil _ _⟩
        · rw [same, isPart_choice several]
          exact ⟨parted_choice flatParted, fun _ => List.cons_ne_nil _ _⟩
        · have rests := parted_rests flatParted read
          have parted : ∀ rest ∈ (first :: others).map fun parts =>
              ofParts (parts.drop (sharedLength first others)), rest.Parted := by
            intro rest listed
            obtain ⟨parts, member, rfl⟩ := List.mem_map.mp listed
            exact parted_ofParts fun part inside =>
              (rests parts member part (List.mem_of_mem_drop inside)).2
          have inner := (inductionHypothesis parted).1
          have all : ∀ part ∈ first.take (sharedLength first others) ++
              [ofBranchesWithin fuel ((first :: others).map fun parts =>
                ofParts (parts.drop (sharedLength first others)))], part.Parted := by
            intro part member
            rcases List.mem_append.mp member with taken | last
            · exact (rests first List.mem_cons_self part (List.mem_of_mem_take taken)).2
            · rwa [List.mem_singleton.mp last]
          rw [same]
          refine ⟨parted_ofParts all, fun _ => ?_⟩
          rw [parts_ofParts all, spread, ne_eq, joinLiterals_eq_nil_iff]
          obtain ⟨part, rest, taken⟩ := exists_take_sharedLength shared
          have isPart := (rests first List.mem_cons_self part
            (List.mem_of_mem_take (taken ▸ List.mem_cons_self))).1
          rw [taken, List.cons_append, List.flatMap_cons, isPart]
          exact List.cons_ne_nil _ _
      · have few := length_le_flatMap_branches given
        refine ⟨?_, fun many => absurd (Nat.le_trans many few) several⟩
        rw [ofBranchesWithin]
        dsimp only
        split
        · trivial
        · next branch only => exact flatParted branch (only ▸ List.mem_cons_self)
        · next nothing single =>
            cases flat : given.flatMap branches with
            | nil => exact absurd flat nothing
            | cons first rest =>
                cases rest with
                | nil => exact absurd flat (single first)
                | cons second rest => simp [flat] at several

/-! ## Canonical trees -/

/-- Whether building sequences and choices gives the tree back. -/
structure Canonical (tree : Tree) : Prop where
  /-- No two literals stand side by side. -/
  joined : joinLiterals tree.parts = tree.parts
  /-- The tree is the sequence of its parts. -/
  chained : chain tree.parts = tree
  /-- Its sequences have parts that are no sequences. -/
  parted : tree.Parted
  /-- Its branches are no choices. -/
  branched : ∀ branch ∈ tree.branches, branch.IsBranch
  /-- The tree is the choice between its branches. -/
  chosen : choice tree.branches = tree
  /-- A choice of its own changes nothing. -/
  settled : ∀ fuel, ofBranchesWithin (fuel + 1) [tree] = tree

/-- A tree that is both a part and a branch is canonical. -/
theorem canonical_of_isPart
    {tree : Tree}
    (isPart : tree.IsPart)
    (branched : tree.IsBranch)
    (parted : tree.Parted) :
    tree.Canonical where
  joined := by
    rw [isPart]
    cases tree <;> rfl
  chained := by
    rw [isPart]
    rfl
  parted := parted
  branched := by
    rw [branched]
    exact List.forall_mem_singleton.mpr branched
  chosen := by
    rw [branched]
    rfl
  settled := ofBranchesWithin_of_isBranch branched

theorem canonical_empty : empty.Canonical where
  joined := rfl
  chained := rfl
  parted := trivial
  branched := List.forall_mem_singleton.mpr rfl
  chosen := rfl
  settled := ofBranchesWithin_of_isBranch rfl

theorem canonical_ofSet
    (members : CodePointSet) :
    (ofSet members).Canonical :=
  canonical_of_isPart (isPart_ofSet members) (isBranch_ofSet members) (parted_ofSet members)

theorem canonical_repeated
    {body : Tree}
    (canonical : body.Canonical)
    (min : Nat)
    (max : Option Nat)
    (greedy : Bool) :
    (repeated min max greedy body).Canonical := by
  rw [repeated]
  split
  split
  · exact canonical_empty
  · split
    · exact canonical
    · exact canonical_of_isPart rfl rfl trivial

/-- A sequence of several joined parts is canonical. -/
theorem canonical_chain
    {given : List Tree}
    (several : 2 ≤ given.length)
    (parted : ∀ part ∈ given, part.IsPart ∧ part.Parted)
    (joined : joinLiterals given = given) :
    (chain given).Canonical where
  joined := by rw [parts_chain fun part member => (parted part member).1, joined]
  chained := by rw [parts_chain fun part member => (parted part member).1]
  parted := parted_chain parted
  branched := by
    rw [isBranch_chain several]
    exact List.forall_mem_singleton.mpr (isBranch_chain several)
  chosen := by
    rw [isBranch_chain several]
    rfl
  settled := ofBranchesWithin_of_isBranch (isBranch_chain several)

/-- A choice between several branches that share nothing is canonical. -/
theorem canonical_choice
    {given : List Tree}
    (several : 2 ≤ given.length)
    (branched : ∀ branch ∈ given, branch.IsBranch)
    (parted : ∀ branch ∈ given, branch.Parted)
    (unshared : Unshared given) :
    (choice given).Canonical := by
  have whole : (choice given).branches = given :=
    branches_choice (List.ne_nil_of_length_pos (Nat.lt_of_lt_of_le Nat.zero_lt_two several)) branched
  have flat : [choice given].flatMap branches = given := by
    rw [List.flatMap_cons, List.flatMap_nil, List.append_nil, whole]
  refine ⟨?_, ?_, parted_choice parted, ?_, ?_, fun fuel => ?_⟩
  · rw [isPart_choice several]
    match given, several with
    | first :: second :: rest, _ => rfl
  · rw [isPart_choice several]
    rfl
  · rwa [whole]
  · rw [whole]
  · rw [ofBranchesWithin_of_unshared (by rwa [flat]) (by rwa [flat]), flat]

namespace Canonical

variable {tree : Tree} (canonical : tree.Canonical)

include canonical

theorem ofParts_singleton :
    ofParts [tree] = tree := by
  rw [ofParts, List.flatMap_cons, List.flatMap_nil, List.append_nil, canonical.joined,
    canonical.chained]

theorem ofBranches_singleton :
    ofBranches [tree] = tree :=
  canonical.settled _

theorem spread_singleton :
    spread [tree] = tree.parts := by
  rw [spread, List.flatMap_cons, List.flatMap_nil, List.append_nil, canonical.joined]

end Canonical

/-- The sequence of canonical trees is canonical. -/
theorem canonical_ofParts
    {given : List Tree}
    (canonical : ∀ tree ∈ given, tree.Canonical) :
    (ofParts given).Canonical := by
  have parted := isPart_of_mem_spread fun tree listed => (canonical tree listed).parted
  rw [ofParts_eq_chain_spread]
  match found : spread given with
  | [] => exact canonical_empty
  | [part] =>
      rcases eq_of_joinLiterals_eq_singleton found with alone | ⟨chars, rfl⟩
      · -- only one of the trees has a part, and that part is the tree
        have member : part ∈ given.flatMap parts := alone ▸ List.mem_singleton_self part
        obtain ⟨tree, listed, inside⟩ := List.mem_flatMap.mp member
        have few : tree.parts = [part] := by
          obtain ⟨front, back, rfl⟩ := List.append_of_mem listed
          have length := congrArg List.length alone
          simp only [List.flatMap_append, List.flatMap_cons, List.length_append,
            List.length_singleton] at length
          have positive := List.length_pos_of_mem inside
          obtain ⟨only, same⟩ : ∃ only, tree.parts = [only] :=
            List.length_eq_one_iff.mp (by omega)
          rw [same] at inside ⊢
          rw [List.mem_singleton.mp inside]
        have whole := (canonical tree listed).chained
        rw [few] at whole
        exact whole ▸ canonical tree listed
      · exact canonical_of_isPart rfl rfl trivial
  | first :: second :: rest =>
      rw [found] at parted
      exact canonical_chain (Nat.le_add_left _ _) parted (found ▸ joinLiterals_idem _)

/-- A sequence inside a sequence is the same as its parts. -/
theorem spread_ofParts
    {given : List Tree}
    (canonical : ∀ tree ∈ given, tree.Canonical) :
    spread [ofParts given] = spread given := by
  rw [(canonical_ofParts canonical).spread_singleton,
    parts_ofParts fun tree listed => (canonical tree listed).parted]

/-- The choice between canonical trees is canonical. -/
theorem canonical_ofBranches
    {given : List Tree}
    (canonical : ∀ tree ∈ given, tree.Canonical) :
    (ofBranches given).Canonical := by
  have branched : ∀ branch ∈ given.flatMap branches, branch.IsBranch ∧ branch.Parted := by
    intro branch member
    obtain ⟨tree, listed, inside⟩ := List.mem_flatMap.mp member
    exact ⟨(canonical tree listed).branched branch inside,
      (canonical tree listed).parted.branches branch inside⟩
  rw [ofBranches]
  by_cases several : 2 ≤ (given.flatMap branches).length
  · rcases ofBranchesWithin_cases _ several with
      ⟨members, same⟩ | ⟨unshared, same⟩ | ⟨first, others, read, shared, same⟩
    · rw [same]
      exact canonical_ofSet members
    · rw [same]
      exact canonical_choice several (fun branch member => (branched branch member).1)
        (fun branch member => (branched branch member).2) unshared
    · have rests := parted_rests (fun branch member => (branched branch member).2) read
      have counted : 2 ≤ (first :: others).length := by
        have length := congrArg List.length (forall_of_mapM_eq_some read)
        rw [List.length_map, List.length_map] at length
        exact length ▸ several
      have restsParted : ∀ rest ∈ (first :: others).map fun parts =>
          ofParts (parts.drop (sharedLength first others)), rest.Parted := by
        intro rest listed
        obtain ⟨parts, member, rfl⟩ := List.mem_map.mp listed
        exact parted_ofParts fun part inside =>
          (rests parts member part (List.mem_of_mem_drop inside)).2
      obtain ⟨innerParted, innerSome⟩ :=
        parted_ofBranchesWithin ((given.map size).foldr (· + ·) 0) restsParted
      obtain ⟨part, taken, takenEq⟩ := exists_take_sharedLength shared
      have frontParted : ∀ part ∈ first.take (sharedLength first others),
          part.IsPart ∧ part.Parted := fun part member =>
        rests first List.mem_cons_self part (List.mem_of_mem_take member)
      rw [same, ofParts_eq_chain_spread]
      generalize ofBranchesWithin _ _ = inner at innerParted innerSome
      have parted : ∀ tree ∈ first.take (sharedLength first others) ++ [inner],
          tree.Parted := by
        intro tree member
        rcases List.mem_append.mp member with inFront | last
        · exact (frontParted tree inFront).2
        · rwa [List.mem_singleton.mp last]
      rw [takenEq] at frontParted parted ⊢
      match found : spread (part :: taken ++ [inner]) with
      | [] => exact canonical_empty
      | [single] =>
          rcases eq_of_joinLiterals_eq_singleton found with alone | ⟨chars, rfl⟩
          · -- the shared beginning has a part and so has what follows it
            have length := congrArg List.length alone
            have some := List.length_pos_iff.mpr
              (innerSome (by rw [List.length_map]; exact counted))
            rw [List.cons_append, List.flatMap_cons, (frontParted part List.mem_cons_self).1,
              List.flatMap_append, List.flatMap_cons, List.flatMap_nil, List.append_nil] at length
            simp only [List.length_append, List.length_singleton] at length
            omega
          · exact canonical_of_isPart rfl rfl trivial
      | one :: two :: rest =>
          exact canonical_chain (Nat.le_add_left _ _) (found ▸ isPart_of_mem_spread parted)
            (found ▸ joinLiterals_idem _)
  · match given with
    | [] => exact canonical_of_isPart rfl rfl trivial
    | [tree] =>
        have whole := canonical tree List.mem_cons_self
        rw [show ofBranchesWithin _ [tree] = tree from whole.settled _]
        exact whole
    | first :: second :: rest =>
        exact absurd (Nat.le_trans (Nat.le_add_left 2 rest.length)
          (length_le_flatMap_branches (first :: second :: rest))) several

end Tree
end Linear
end LineExtraction

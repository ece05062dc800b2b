import LineExtraction.Proofs.Linear.Meaning
import LineExtraction.Proofs.Unicode.OrderedSet

/-!
# Trees in normal form mean the same

Sequences and choices are put in normal form while they are built: literals are joined,
choices of characters become sets, and a beginning that all branches share is taken out.
None of that changes what a tree matches, as long as its sets are ordered.
-/

namespace LineExtraction
namespace Linear

open Unicode (CodePointSet)

/-! ## Sequences and choices -/

/-- Whether trees match one after the other. -/
def Sequence (line : Line) : (parts : List Tree) → (start stop : Nat) → Prop
  | [], start, stop => start = stop
  | part :: parts, start, stop =>
    ∃ middle, part.Matches line start middle ∧ Sequence line parts middle stop

/-- Whether one of the trees matches. -/
def AnyOf (line : Line) (branches : List Tree) (start stop : Nat) : Prop :=
  ∃ branch ∈ branches, branch.Matches line start stop

section

variable {line : Line} {start stop : Nat}

theorem sequence_append
    (front back : List Tree) :
    Sequence line (front ++ back) start stop ↔
      ∃ middle, Sequence line front start middle ∧ Sequence line back middle stop := by
  induction front generalizing start with
  | nil => simp [Sequence]
  | cons part front inductionHypothesis =>
      simp only [List.cons_append, Sequence, inductionHypothesis]
      constructor
      · rintro ⟨first, matched, middle, rest, last⟩
        exact ⟨middle, ⟨first, matched, rest⟩, last⟩
      · rintro ⟨middle, ⟨first, matched, rest⟩, last⟩
        exact ⟨first, matched, middle, rest, last⟩

theorem sequence_singleton
    (part : Tree) :
    Sequence line [part] start stop ↔ part.Matches line start stop := by
  simp [Sequence]

theorem anyOf_append
    (front back : List Tree) :
    AnyOf line (front ++ back) start stop ↔
      AnyOf line front start stop ∨ AnyOf line back start stop := by
  simp only [AnyOf, List.mem_append, or_and_right, exists_or]

theorem anyOf_singleton
    (branch : Tree) :
    AnyOf line [branch] start stop ↔ branch.Matches line start stop := by
  simp [AnyOf]

theorem anyOf_cons
    (branch : Tree)
    (branches : List Tree) :
    AnyOf line (branch :: branches) start stop ↔
      branch.Matches line start stop ∨ AnyOf line branches start stop := by
  simp only [AnyOf, List.mem_cons, or_and_right, exists_or, exists_eq_left]

/-! ## Characters and literals -/

/-- Characters in a line, one after the other. -/
theorem startsWithAt_append
    (position : Nat)
    (front back : List Char) :
    line.startsWithAt position (front ++ back) = true ↔
      line.startsWithAt position front = true ∧
        line.startsWithAt (position + front.length) back = true := by
  induction front generalizing position with
  | nil => simp [Line.startsWithAt]
  | cons char front inductionHypothesis =>
      simp only [List.cons_append, Line.startsWithAt, List.length_cons, decide_eq_true_eq,
        inductionHypothesis, and_assoc, Nat.add_assoc, Nat.add_comm 1]

namespace Tree

theorem matches_literal
    (chars : List Char) :
    (literal chars).Matches line start stop ↔
      line.startsWithAt start chars = true ∧ stop = start + chars.length := Iff.rfl

theorem matches_literal_append
    (front back : List Char) :
    (literal (front ++ back)).Matches line start stop ↔
      ∃ middle, (literal front).Matches line start middle ∧
        (literal back).Matches line middle stop := by
  simp only [matches_literal, startsWithAt_append, List.length_append]
  constructor
  · rintro ⟨⟨first, last⟩, rfl⟩
    exact ⟨start + front.length, ⟨first, rfl⟩, last, (Nat.add_assoc ..).symm⟩
  · rintro ⟨_, ⟨first, rfl⟩, last, rfl⟩
    exact ⟨⟨first, last⟩, Nat.add_assoc ..⟩

/-- A single character matches like the set of it. -/
theorem matches_literal_singleton
    (char : Char) :
    (literal [char]).Matches line start stop ↔
      (set (.singleton char)).Matches line start stop := by
  rw [matches_literal, Matches]
  have single (other : Char) :
      (CodePointSet.singleton char).containsChar other = true ↔ other = char := by
    simp only [CodePointSet.containsChar, CodePointSet.contains, CodePointSet.singleton,
      List.any_cons, List.any_nil, Bool.or_false, Unicode.CodePointRange.contains,
      decide_eq_true_eq]
    constructor
    · rintro ⟨low, high⟩
      have same := congrArg Char.ofNat (Nat.le_antisymm high low)
      simpa using same
    · rintro rfl
      exact ⟨Nat.le_refl _, Nat.le_refl _⟩
  simp only [Line.startsWithAt, decide_eq_true_eq, and_true, List.length_singleton,
    Option.any_eq_true, single, exists_eq_right]

/-- The characters of a set match like the set. -/
theorem matches_ofSet
    {members : CodePointSet}
    (ordered : members.Ordered) :
    (ofSet members).Matches line start stop ↔ (set members).Matches line start stop := by
  rw [ofSet]
  cases only : members.onlyMember? with
  | none => exact Iff.rfl
  | some char =>
      refine (matches_literal_singleton char).trans ?_
      simp only [Matches, Option.any_eq_true]
      have same (other : Char) :
          (CodePointSet.singleton char).containsChar other = true ↔
            members.containsChar other = true :=
        ((Unicode.CodePointSet.ordered_singleton char).containsChar_of_onlyMember?
          (by simp [CodePointSet.onlyMember?, CodePointSet.singleton]) other).trans
            (ordered.containsChar_of_onlyMember? only other).symm
      simp only [same]

/-! ## Sequences in normal form -/

theorem matches_chain
    (parts : List Tree) :
    (chain parts).Matches line start stop ↔ Sequence line parts start stop := by
  induction parts generalizing start with
  | nil => exact Iff.rfl
  | cons part parts inductionHypothesis =>
      cases parts with
      | nil => exact (sequence_singleton part).symm
      | cons next rest => simp only [chain, Matches, Sequence, inductionHypothesis]

theorem sequence_parts
    (tree : Tree) :
    Sequence line tree.parts start stop ↔ tree.Matches line start stop := by
  induction tree generalizing start with
  | empty => exact Iff.rfl
  | concat first rest _ restHypothesis => simp only [parts, Sequence, restHypothesis, Matches]
  | _ => exact sequence_singleton _

theorem sequence_flatMap_parts
    (trees : List Tree) :
    Sequence line (trees.flatMap parts) start stop ↔ Sequence line trees start stop := by
  induction trees generalizing start with
  | nil => exact Iff.rfl
  | cons tree trees inductionHypothesis =>
      simp only [List.flatMap_cons, sequence_append, sequence_parts, inductionHypothesis, Sequence]

theorem sequence_joinLiterals
    (parts : List Tree) :
    Sequence line (joinLiterals parts) start stop ↔ Sequence line parts start stop := by
  fun_induction joinLiterals parts generalizing start with
  | case1 => exact Iff.rfl
  | case2 chars rest more joined same inductionHypothesis =>
      simp only [Sequence, matches_literal_append, ← inductionHypothesis, same]
      constructor
      · rintro ⟨last, ⟨middle, front, back⟩, others⟩
        exact ⟨middle, front, last, back, others⟩
      · rintro ⟨middle, front, last, back, others⟩
        exact ⟨last, ⟨middle, front, back⟩, others⟩
  | case3 chars rest _ inductionHypothesis => simp only [Sequence, inductionHypothesis]
  | case4 part rest _ inductionHypothesis => simp only [Sequence, inductionHypothesis]

/-- A sequence in normal form matches like its parts one after the other. -/
theorem matches_ofParts
    (trees : List Tree) :
    (ofParts trees).Matches line start stop ↔ Sequence line trees start stop := by
  rw [ofParts, matches_chain, sequence_joinLiterals, sequence_flatMap_parts]

/-! ## Choices in normal form -/

theorem not_matches_nothing :
    ¬ (set .empty).Matches line start stop := by
  rintro ⟨member, -⟩
  obtain ⟨char, -, inside⟩ := (Option.any_eq_true _ _).mp member
  exact absurd inside (by simp [CodePointSet.containsChar, CodePointSet.contains,
    CodePointSet.empty])

theorem matches_choice
    (given : List Tree) :
    (choice given).Matches line start stop ↔ AnyOf line given start stop := by
  induction given with
  | nil => exact iff_of_false not_matches_nothing fun ⟨_, listed, _⟩ => List.not_mem_nil listed
  | cons branch rest inductionHypothesis =>
      cases rest with
      | nil => exact (anyOf_singleton branch).symm
      | cons next rest => simp only [choice, Matches, inductionHypothesis, ← anyOf_cons]

theorem anyOf_branches
    (tree : Tree) :
    AnyOf line tree.branches start stop ↔ tree.Matches line start stop := by
  induction tree with
  | alternation first rest _ restHypothesis =>
      rw [branches, anyOf_cons, restHypothesis, Matches]
  | _ => exact anyOf_singleton _

theorem anyOf_flatMap_branches
    (given : List Tree) :
    AnyOf line (given.flatMap branches) start stop ↔ AnyOf line given start stop := by
  induction given with
  | nil => exact Iff.rfl
  | cons branch given inductionHypothesis =>
      rw [List.flatMap_cons, anyOf_append, anyOf_branches, inductionHypothesis, anyOf_cons]

/-! ## Orderly trees -/

/-- Whether all sets in the tree are ordered and all repetitions have bounds in order. -/
def Orderly : Tree → Prop
  | set members => members.Ordered
  | repetition min max _ body => (∀ bound ∈ max, min ≤ bound) ∧ body.Orderly
  | capture _ _ body => body.Orderly
  | concat first rest => first.Orderly ∧ rest.Orderly
  | alternation first rest => first.Orderly ∧ rest.Orderly
  | _ => True

theorem orderly_ofSet
    {members : CodePointSet}
    (ordered : members.Ordered) :
    (ofSet members).Orderly := by
  rw [ofSet]
  split
  · exact trivial
  · exact ordered

theorem orderly_chain_iff
    (given : List Tree) :
    (chain given).Orderly ↔ ∀ part ∈ given, part.Orderly := by
  induction given with
  | nil => exact iff_of_true trivial nofun
  | cons part rest inductionHypothesis =>
      cases rest with
      | nil => simp [chain]
      | cons next rest =>
          simp only [chain, Orderly, inductionHypothesis]
          exact (List.forall_mem_cons).symm

theorem orderly_parts_iff
    (tree : Tree) :
    (∀ part ∈ tree.parts, part.Orderly) ↔ tree.Orderly := by
  induction tree with
  | empty => exact iff_of_true nofun trivial
  | concat first rest _ restHypothesis =>
      rw [parts, List.forall_mem_cons, restHypothesis, Orderly]
  | _ => exact List.forall_mem_singleton

theorem orderly_branches_iff
    (tree : Tree) :
    (∀ branch ∈ tree.branches, branch.Orderly) ↔ tree.Orderly := by
  induction tree with
  | alternation first rest _ restHypothesis =>
      rw [branches, List.forall_mem_cons, restHypothesis, Orderly]
  | _ => exact List.forall_mem_singleton

theorem orderly_joinLiterals
    {given : List Tree}
    (orderly : ∀ part ∈ given, part.Orderly) :
    ∀ part ∈ joinLiterals given, part.Orderly := by
  fun_induction joinLiterals given with
  | case1 => exact nofun
  | case2 chars rest more joined same inductionHypothesis =>
      have later := inductionHypothesis fun part member => orderly part (List.mem_cons_of_mem _ member)
      rw [same] at later
      exact List.forall_mem_cons.mpr ⟨trivial, (List.forall_mem_cons.mp later).2⟩
  | case3 chars rest _ inductionHypothesis =>
      exact List.forall_mem_cons.mpr ⟨trivial,
        inductionHypothesis fun part member => orderly part (List.mem_cons_of_mem _ member)⟩
  | case4 part rest _ inductionHypothesis =>
      exact List.forall_mem_cons.mpr ⟨orderly part List.mem_cons_self,
        inductionHypothesis fun part member => orderly part (List.mem_cons_of_mem _ member)⟩

theorem orderly_ofParts
    {given : List Tree}
    (orderly : ∀ part ∈ given, part.Orderly) :
    (ofParts given).Orderly := by
  refine (orderly_chain_iff _).mpr (orderly_joinLiterals fun part member => ?_)
  obtain ⟨tree, listed, inside⟩ := List.mem_flatMap.mp member
  exact (orderly_parts_iff tree).mpr (orderly tree listed) part inside

theorem orderly_choice_iff
    (given : List Tree) :
    (choice given).Orderly ↔ ∀ branch ∈ given, branch.Orderly := by
  induction given with
  | nil => exact iff_of_true Unicode.CodePointSet.ordered_empty nofun
  | cons branch rest inductionHypothesis =>
      cases rest with
      | nil => simp [choice]
      | cons next rest =>
          simp only [choice, Orderly, inductionHypothesis]
          exact (List.forall_mem_cons).symm

/-! ## Choices of characters -/

/-- What an element-wise reading that succeeds makes of a list. -/
theorem forall_of_mapM_eq_some
    {α β : Type}
    {change : α → Option β}
    {given : List α}
    {results : List β}
    (changed : given.mapM change = some results) :
    given.map change = results.map some := by
  induction given generalizing results with
  | nil =>
      obtain rfl : [] = results := Option.some.inj changed
      rfl
  | cons element rest inductionHypothesis =>
      rw [List.mapM_cons] at changed
      obtain ⟨first, firstChanged, changed⟩ := Option.bind_eq_some_iff.mp changed
      obtain ⟨others, othersChanged, changed⟩ := Option.bind_eq_some_iff.mp changed
      obtain rfl : first :: others = results := Option.some.inj changed
      rw [List.map_cons, List.map_cons, firstChanged, inductionHypothesis othersChanged]

/-- A union has the members of all its sets. -/
theorem ordered_unions
    {sets : List CodePointSet}
    (ordered : ∀ members ∈ sets, members.Ordered) :
    (sets.foldl CodePointSet.union .empty).Ordered ∧
      ∀ codePoint, (sets.foldl CodePointSet.union .empty).contains codePoint = true ↔
        ∃ members ∈ sets, members.contains codePoint = true := by
  have grows (whole : CodePointSet) (wholeOrdered : whole.Ordered) :
      (sets.foldl CodePointSet.union whole).Ordered ∧
        ∀ codePoint, (sets.foldl CodePointSet.union whole).contains codePoint = true ↔
          whole.contains codePoint = true ∨
            ∃ members ∈ sets, members.contains codePoint = true := by
    induction sets generalizing whole with
    | nil => exact ⟨wholeOrdered, fun codePoint => by simp⟩
    | cons first rest inductionHypothesis =>
        have firstOrdered := ordered first List.mem_cons_self
        obtain ⟨joined, members⟩ := inductionHypothesis
          (fun set member => ordered set (List.mem_cons_of_mem _ member)) _
          (wholeOrdered.union firstOrdered)
        refine ⟨joined, fun codePoint => (members codePoint).trans ?_⟩
        rw [wholeOrdered.contains_union firstOrdered, or_assoc]
        simp only [List.mem_cons, exists_eq_or_imp]
  obtain ⟨joined, members⟩ := grows .empty Unicode.CodePointSet.ordered_empty
  refine ⟨joined, fun codePoint => (members codePoint).trans ?_⟩
  simp [CodePointSet.contains, CodePointSet.empty]

/-- Branches that are all characters or all sets match like the sets of their members. -/
theorem anyOf_of_allMembers?
    {given : List Tree}
    {sets : List CodePointSet}
    (orderly : ∀ branch ∈ given, branch.Orderly)
    (found : allMembers? given = some sets) :
    (∀ members ∈ sets, members.Ordered) ∧
      ∀ line start stop, AnyOf line given start stop ↔ AnyOf line (sets.map set) start stop := by
  have pointwise (read : Tree → Option CodePointSet)
      (means : ∀ branch members, branch.Orderly → read branch = some members →
        members.Ordered ∧ ∀ line start stop,
          branch.Matches line start stop ↔ (set members).Matches line start stop)
      (changed : given.mapM read = some sets) :
      (∀ members ∈ sets, members.Ordered) ∧
        ∀ line start stop,
          AnyOf line given start stop ↔ AnyOf line (sets.map set) start stop := by
    have same := forall_of_mapM_eq_some changed
    clear changed found
    induction given generalizing sets with
    | nil =>
        obtain rfl : sets = [] := by simpa using same.symm
        exact ⟨nofun, fun _ _ _ => Iff.rfl⟩
    | cons branch given inductionHypothesis =>
        cases sets with
        | nil => exact nomatch same
        | cons first rest =>
            obtain ⟨here, later⟩ := List.cons.inj same
            obtain ⟨ordered, firstSame⟩ := means branch first (orderly branch List.mem_cons_self) here
            obtain ⟨restOrdered, restSame⟩ := inductionHypothesis
              (fun other member => orderly other (List.mem_cons_of_mem _ member)) later
            refine ⟨List.forall_mem_cons.mpr ⟨ordered, restOrdered⟩, fun line start stop => ?_⟩
            rw [List.map_cons, anyOf_cons, anyOf_cons, firstSame, restSame]
  rcases Option.or_eq_some_iff.mp found with characters | ⟨-, classes⟩
  · refine pointwise onlyChar? (fun branch members _ read => ?_) characters
    unfold onlyChar? at read
    split at read
    · obtain rfl := Option.some.inj read
      exact ⟨Unicode.CodePointSet.ordered_singleton _, fun _ _ _ => matches_literal_singleton _⟩
    · exact nomatch read
  · refine pointwise members? (fun branch members orderly read => ?_) classes
    unfold members? at read
    split at read
    · obtain rfl := Option.some.inj read
      exact ⟨orderly, fun _ _ _ => Iff.rfl⟩
    · exact nomatch read

theorem anyOf_sets
    {sets : List CodePointSet}
    (ordered : ∀ members ∈ sets, members.Ordered) :
    AnyOf line (sets.map set) start stop ↔
      (set (sets.foldl CodePointSet.union .empty)).Matches line start stop := by
  have members (char : Char) := (ordered_unions ordered).2 char.toNat
  constructor
  · rintro ⟨_, inMap, matched⟩
    obtain ⟨first, listed, rfl⟩ := List.mem_map.mp inMap
    obtain ⟨member, rfl⟩ := matched
    obtain ⟨char, found, inside⟩ := (Option.any_eq_true _ _).mp member
    exact ⟨(Option.any_eq_true _ _).mpr ⟨char, found, (members char).mpr ⟨first, listed, inside⟩⟩,
      rfl⟩
  · rintro ⟨member, rfl⟩
    obtain ⟨char, found, inside⟩ := (Option.any_eq_true _ _).mp member
    obtain ⟨first, listed, inFirst⟩ := (members char).mp inside
    exact ⟨set first, List.mem_map.mpr ⟨first, listed, rfl⟩,
      (Option.any_eq_true _ _).mpr ⟨char, found, inFirst⟩, rfl⟩

/-! ## Shared beginnings -/

theorem take_commonLength
    (left right : List Tree)
    (count : Nat)
    (few : count ≤ commonLength left right) :
    left.take count = right.take count := by
  induction left generalizing right count with
  | nil =>
      obtain rfl : count = 0 := by simpa [commonLength] using few
      rfl
  | cons first left inductionHypothesis =>
      cases right with
      | nil =>
          obtain rfl : count = 0 := by simpa [commonLength] using few
          rfl
      | cons second right =>
          cases count with
          | zero => rfl
          | succ count =>
              rw [commonLength] at few
              split at few
              · next same =>
                  rw [List.take_succ_cons, List.take_succ_cons, same,
                    inductionHypothesis right count (Nat.le_of_succ_le_succ few)]
              · exact absurd few (Nat.not_succ_le_zero _)

/-- All sequences begin with the same parts, as many as they share. -/
theorem take_sharedLength
    (first : List Tree)
    (others : List (List Tree)) :
    ∀ other ∈ first :: others,
      other.take (sharedLength first others) = first.take (sharedLength first others) := by
  have least (start : Nat) :
      others.foldl (fun length other => Nat.min length (commonLength first other)) start ≤ start ∧
        ∀ other ∈ others,
          others.foldl (fun length other => Nat.min length (commonLength first other)) start ≤
            commonLength first other := by
    induction others generalizing start with
    | nil => exact ⟨Nat.le_refl _, nofun⟩
    | cons next others inductionHypothesis =>
        obtain ⟨low, rest⟩ := inductionHypothesis (Nat.min start (commonLength first next))
        refine ⟨Nat.le_trans low (Nat.min_le_left _ _), List.forall_mem_cons.mpr ⟨?_, rest⟩⟩
        exact Nat.le_trans low (Nat.min_le_right _ _)
  refine List.forall_mem_cons.mpr ⟨rfl, fun other member => ?_⟩
  exact (take_commonLength first other _ ((least first.length).2 other member)).symm

theorem parts_of_sequence?
    {tree : Tree}
    {found : List Tree}
    (sequence : tree.sequence? = some found) :
    found = tree.parts := by
  cases tree with
  | concat first rest => exact (Option.some.inj sequence).symm
  | _ => exact nomatch sequence

/-- A shared beginning may be taken out of sequences. -/
theorem anyOf_of_shared
    {flat : List Tree}
    {sequences : List (List Tree)}
    {start stop shared : Nat}
    {front : List Tree}
    (read : flat.map sequence? = sequences.map some)
    (begins : ∀ parts ∈ sequences, parts.take shared = front) :
    AnyOf line flat start stop ↔
      ∃ middle, Sequence line front start middle ∧
        AnyOf line (sequences.map fun parts => ofParts (parts.drop shared)) middle stop := by
  have each (parts : List Tree) (member : parts ∈ sequences) :
      Sequence line parts start stop ↔
        ∃ middle, Sequence line front start middle ∧
          (ofParts (parts.drop shared)).Matches line middle stop := by
    simp only [matches_ofParts, ← begins parts member, ← sequence_append, List.take_append_drop]
  have whole : AnyOf line flat start stop ↔
      ∃ parts ∈ sequences, Sequence line parts start stop := by
    clear begins each
    induction flat generalizing sequences with
    | nil =>
        obtain rfl : sequences = [] := by simpa using read.symm
        exact iff_of_false (fun ⟨_, listed, _⟩ => List.not_mem_nil listed)
          fun ⟨_, listed, _⟩ => List.not_mem_nil listed
    | cons tree flat inductionHypothesis =>
        cases sequences with
        | nil => exact nomatch read
        | cons first rest =>
            obtain ⟨here, later⟩ := List.cons.inj read
            rw [anyOf_cons, inductionHypothesis later, parts_of_sequence? here,
              ← sequence_parts tree]
            simp only [List.mem_cons, exists_eq_or_imp]
  rw [whole]
  constructor
  · rintro ⟨parts, member, matched⟩
    obtain ⟨middle, begun, ended⟩ := (each parts member).mp matched
    exact ⟨middle, begun, _, List.mem_map.mpr ⟨parts, member, rfl⟩, ended⟩
  · rintro ⟨middle, begun, _, inMap, ended⟩
    obtain ⟨parts, member, rfl⟩ := List.mem_map.mp inMap
    exact ⟨parts, member, (each parts member).mpr ⟨middle, begun, ended⟩⟩

/-- A choice in normal form is orderly and matches like any of its branches. -/
theorem matches_ofBranchesWithin
    (line : Line)
    (fuel : Nat)
    (given : List Tree)
    (orderly : ∀ branch ∈ given, branch.Orderly) :
    (ofBranchesWithin fuel given).Orderly ∧
      ∀ start stop, (ofBranchesWithin fuel given).Matches line start stop ↔
        AnyOf line given start stop := by
  induction fuel generalizing given with
  | zero => exact ⟨(orderly_choice_iff given).mpr orderly, fun _ _ => matches_choice given⟩
  | succ fuel inductionHypothesis =>
      have flatOrderly : ∀ branch ∈ given.flatMap branches, branch.Orderly := by
        intro branch member
        obtain ⟨tree, listed, inside⟩ := List.mem_flatMap.mp member
        exact (orderly_branches_iff tree).mpr (orderly tree listed) branch inside
      have asChoice : (choice (given.flatMap branches)).Orderly ∧
          ∀ start stop, (choice (given.flatMap branches)).Matches line start stop ↔
            AnyOf line given start stop :=
        ⟨(orderly_choice_iff _).mpr flatOrderly, fun start stop =>
          (matches_choice _).trans (anyOf_flatMap_branches given)⟩
      rw [ofBranchesWithin]
      split
      · next none =>
          rw [none] at asChoice
          exact asChoice
      · next only =>
          rw [only] at asChoice
          exact asChoice
      · next flat =>
          split
          · next sets found =>
              obtain ⟨members, same⟩ := anyOf_of_allMembers? flatOrderly found
              refine ⟨orderly_ofSet (ordered_unions members).1, fun start stop => ?_⟩
              rw [matches_ofSet (ordered_unions members).1, ← anyOf_sets members, ← same,
                anyOf_flatMap_branches]
          · split
            · next first others read =>
                dsimp only
                split
                · exact asChoice
                · have same := forall_of_mapM_eq_some read
                  have restsOrderly : ∀ rest ∈ (first :: others).map
                      (fun parts => ofParts (parts.drop (sharedLength first others))),
                      rest.Orderly := by
                    intro rest member
                    obtain ⟨parts, listed, rfl⟩ := List.mem_map.mp member
                    have inFlat : some parts ∈ (given.flatMap branches).map sequence? :=
                      same ▸ List.mem_map.mpr ⟨parts, listed, rfl⟩
                    obtain ⟨tree, treeListed, treeRead⟩ := List.mem_map.mp inFlat
                    refine orderly_ofParts fun part dropped => ?_
                    rw [parts_of_sequence? treeRead] at dropped
                    exact (orderly_parts_iff tree).mpr (flatOrderly tree treeListed) part
                      (List.mem_of_mem_drop dropped)
                  have frontOrderly : ∀ part ∈ first.take (sharedLength first others),
                      part.Orderly := by
                    intro part member
                    have inFlat : some first ∈ (given.flatMap branches).map sequence? :=
                      same ▸ List.mem_map.mpr ⟨first, List.mem_cons_self, rfl⟩
                    obtain ⟨tree, treeListed, treeRead⟩ := List.mem_map.mp inFlat
                    rw [parts_of_sequence? treeRead] at member
                    exact (orderly_parts_iff tree).mpr (flatOrderly tree treeListed) part
                      (List.mem_of_mem_take member)
                  obtain ⟨innerOrderly, innerMatches⟩ := inductionHypothesis _ restsOrderly
                  constructor
                  · refine orderly_ofParts fun part member => ?_
                    rcases List.mem_append.mp member with inFront | last
                    · exact frontOrderly part inFront
                    · exact List.mem_singleton.mp last ▸ innerOrderly
                  · intro start stop
                    rw [matches_ofParts, sequence_append, ← anyOf_flatMap_branches,
                      anyOf_of_shared same (take_sharedLength first others)]
                    simp only [sequence_singleton, innerMatches]
            · exact asChoice

theorem orderly_ofBranches
    {given : List Tree}
    (orderly : ∀ branch ∈ given, branch.Orderly) :
    (ofBranches given).Orderly :=
  (matches_ofBranchesWithin ⟨#[]⟩ _ given orderly).1

/-- A choice in normal form matches like any of its branches. -/
theorem matches_ofBranches
    {given : List Tree}
    (orderly : ∀ branch ∈ given, branch.Orderly) :
    (ofBranches given).Matches line start stop ↔ AnyOf line given start stop :=
  (matches_ofBranchesWithin line _ given orderly).2 start stop

/-! ## Repetitions in normal form -/

/-- A tree that matches only the empty text leads nowhere else. -/
theorem eq_of_onlyEmpty
    (tree : Tree)
    (orderly : tree.Orderly)
    (empty : tree.onlyEmpty = true)
    (start stop : Nat)
    (matched : tree.Matches line start stop) :
    start = stop := by
  induction tree generalizing start stop with
  | empty => exact matched
  | literal chars =>
      obtain ⟨-, rfl⟩ := matched
      obtain rfl : chars = [] := by simpa [onlyEmpty] using empty
      rfl
  | set members => exact absurd empty (by simp [onlyEmpty])
  | look look => exact matched.2
  | repetition min max greedy body inductionHypothesis =>
      obtain ⟨extra, allowed, turns⟩ := matched
      simp only [onlyEmpty, decide_eq_true_eq] at empty
      rcases empty with rfl | ⟨-, still⟩
      · have few := orderly.1 0 rfl
        have none := allowed 0 rfl
        obtain ⟨rfl, rfl⟩ : min = 0 ∧ extra = 0 := by omega
        exact turns
      · exact turns.eq_of_still fun start stop => inductionHypothesis orderly.2 still start stop
  | capture index name body inductionHypothesis =>
      exact inductionHypothesis orderly empty start stop matched
  | concat first rest firstHypothesis restHypothesis =>
      simp only [onlyEmpty, decide_eq_true_eq] at empty
      obtain ⟨middle, front, back⟩ := matched
      exact (firstHypothesis orderly.1 empty.1 _ _ front).trans
        (restHypothesis orderly.2 empty.2 _ _ back)
  | alternation first rest firstHypothesis restHypothesis =>
      simp only [onlyEmpty, decide_eq_true_eq] at empty
      exact matched.elim (firstHypothesis orderly.1 empty.1 _ _)
        (restHypothesis orderly.2 empty.2 _ _)

theorem min_one_of_ne_zero
    {count : Nat}
    (some : count ≠ 0) :
    Nat.min count 1 = 1 :=
  Nat.min_eq_right (Nat.one_le_iff_ne_zero.mpr some)

/-- Of a tree that stands still, any turns are as good as one. -/
theorem turns_min_one_of_still
    {body : Tree}
    (still : ∀ start stop, body.Matches line start stop → start = stop)
    (count : Nat) :
    Turns (body.Matches line) count start stop ↔
      Turns (body.Matches line) (Nat.min count 1) start stop := by
  cases count with
  | zero => exact Iff.rfl
  | succ count =>
      rw [min_one_of_ne_zero (Nat.succ_ne_zero count), turns_one]
      constructor
      · intro turns
        obtain rfl := turns.eq_of_still still
        obtain ⟨middle, turned, rest⟩ := turns
        obtain rfl := still _ _ turned
        exact turned
      · intro turned
        obtain rfl := still _ _ turned
        exact turns_of_still turned _

theorem matches_repetition_of_onlyEmpty
    (min : Nat)
    (max : Option Nat)
    (greedy : Bool)
    {body : Tree}
    (bounds : ∀ bound ∈ max, min ≤ bound)
    (still : ∀ start stop, body.Matches line start stop → start = stop) :
    (repetition (Nat.min min 1) (some ((max.map (Nat.min · 1)).getD 1)) greedy body).Matches
        line start stop ↔
      (repetition min max greedy body).Matches line start stop := by
  constructor
  · rintro ⟨extra, allowed, turns⟩
    by_cases few : extra = 0
    · refine ⟨0, fun _ _ => Nat.zero_le _, ?_⟩
      subst few
      exact (turns_min_one_of_still still min).mpr turns
    · have room := allowed _ rfl
      have atMostOne : (max.map (Nat.min · 1)).getD 1 ≤ 1 := by
        cases max with
        | none => exact Nat.le_refl _
        | some bound => exact Nat.min_le_right _ _
      obtain rfl : min = 0 := by
        refine Decidable.byContradiction fun some => ?_
        rw [min_one_of_ne_zero some] at room
        omega
      refine ⟨0, fun _ _ => Nat.zero_le _, ?_⟩
      exact turns.eq_of_still still
  · rintro ⟨extra, allowed, turns⟩
    have least := (turns_min_one_of_still still _).mp turns
    by_cases none : min = 0
    · subst none
      exact ⟨0, fun _ _ => Nat.zero_le _, turns.eq_of_still still⟩
    · refine ⟨0, fun _ _ => Nat.zero_le _, ?_⟩
      rw [min_one_of_ne_zero (by omega)] at least
      rw [min_one_of_ne_zero none]
      exact least

/-- A repetition in normal form is orderly and matches like the repetition. -/
theorem matches_repeated
    (min : Nat)
    (max : Option Nat)
    (greedy : Bool)
    {body : Tree}
    (bounds : ∀ bound ∈ max, min ≤ bound)
    (orderly : body.Orderly) :
    (repeated min max greedy body).Orderly ∧ ∀ line start stop,
      (repeated min max greedy body).Matches line start stop ↔
        (repetition min max greedy body).Matches line start stop := by
  have exactly (line : Line) (start stop count : Nat) :
      (repetition count (some count) greedy body).Matches line start stop ↔
        Turns (body.Matches line) count start stop := by
    constructor
    · rintro ⟨extra, allowed, turns⟩
      have none := allowed count rfl
      rw [Nat.sub_self] at none
      obtain rfl := Nat.le_zero.mp none
      exact turns
    · exact fun turns => ⟨0, fun _ _ => Nat.zero_le _, turns⟩
  have simple (low : Nat) (high : Option Nat) (inOrder : ∀ bound ∈ high, low ≤ bound) :
      (if low = 0 ∧ high = some 0 then empty
        else if low = 1 ∧ high = some 1 then body
        else repetition low high greedy body).Orderly ∧ ∀ line start stop,
      (if low = 0 ∧ high = some 0 then empty
        else if low = 1 ∧ high = some 1 then body
        else repetition low high greedy body).Matches line start stop ↔
          (repetition low high greedy body).Matches line start stop := by
    split
    · next both =>
        obtain ⟨rfl, rfl⟩ := both
        exact ⟨trivial, fun line start stop => (exactly line start stop 0).symm⟩
    · split
      · next both =>
          obtain ⟨rfl, rfl⟩ := both
          exact ⟨orderly, fun line start stop =>
            ((exactly line start stop 1).trans (turns_one _ _ _)).symm⟩
      · exact ⟨⟨inOrder, orderly⟩, fun _ _ _ => Iff.rfl⟩
  rw [repeated]
  split
  next low high same =>
  split at same
  · next onlyEmpty =>
      obtain ⟨rfl, rfl⟩ := Prod.mk.inj same
      obtain ⟨isOrderly, matched⟩ := simple (Nat.min min 1)
        (some ((max.map (Nat.min · 1)).getD 1)) (by
          intro bound is
          obtain rfl := Option.some.inj is
          cases max with
          | none => exact Nat.min_le_right _ _
          | some bound =>
              have := bounds bound rfl
              exact Nat.le_min.mpr ⟨Nat.le_trans (Nat.min_le_left _ _) this, Nat.min_le_right _ _⟩)
      refine ⟨isOrderly, fun line start stop => (matched line start stop).trans ?_⟩
      exact matches_repetition_of_onlyEmpty min max greedy bounds
        (eq_of_onlyEmpty body orderly onlyEmpty)
  · obtain ⟨rfl, rfl⟩ := Prod.mk.inj same
    exact simple min max bounds

end Tree
end
end Linear
end LineExtraction

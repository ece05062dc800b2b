import LineExtraction.Proofs.Linear.ClassMembers
import LineExtraction.Proofs.Linear.NormalForm

/-!
# Lowering and captures

What a pattern matches does not depend on which of its groups capture.  A pattern whose
captures are erased lowers whenever the pattern does, leaves the same flags behind, and
matches in the same places; so patterns that differ only in the numbers or names of
their groups mean the same.
-/

namespace LineExtraction
namespace Linear

namespace Ast

/-- Whether every repetition in the pattern has its bounds in order. -/
def Bounded : Ast → Prop
  | repetition count body => (∀ bound ∈ count.max, count.min ≤ bound) ∧ body.Bounded
  | group _ body => body.Bounded
  | concat first rest => first.Bounded ∧ rest.Bounded
  | alternation first rest => first.Bounded ∧ rest.Bounded
  | _ => True

/-- The pattern without captures: capturing groups become plain ones. -/
def erase : Ast → Ast
  | repetition count body => repetition count body.erase
  | group (.capture _ _) body => group (.plain []) body.erase
  | group (.plain items) body => group (.plain items) body.erase
  | concat first rest => concat first.erase rest.erase
  | alternation first rest => alternation first.erase rest.erase
  | ast => ast

end Ast

/-! ## Lowered parts -/

namespace Lowered

/-- What lowering keeps: trees are orderly, and a part means the same as a choice and as
a sequence. -/
structure Sound (lowered : Lowered) : Prop where
  /-- The branches are orderly. -/
  branches : ∀ branch ∈ lowered.branches, branch.Orderly
  /-- The parts are orderly. -/
  parts : ∀ part ∈ lowered.parts, part.Orderly
  /-- The parts in sequence match where one of the branches does. -/
  agrees : ∀ line start stop,
    Sequence line lowered.parts start stop ↔ AnyOf line lowered.branches start stop

theorem sound_single
    {tree : Tree}
    (flags : Flags)
    (orderly : tree.Orderly) :
    (single tree flags).Sound where
  branches := List.forall_mem_singleton.mpr orderly
  parts := List.forall_mem_singleton.mpr orderly
  agrees _ _ _ := (sequence_singleton tree).trans (anyOf_singleton tree).symm

namespace Sound

variable {lowered : Lowered} (sound : lowered.Sound)
include sound

theorem orderly_tree : lowered.tree.Orderly := Tree.orderly_ofBranches sound.branches

theorem matches_tree
    (line : Line)
    (start stop : Nat) :
    lowered.tree.Matches line start stop ↔ AnyOf line lowered.branches start stop :=
  Tree.matches_ofBranches sound.branches

end Sound

/-- Whether two parts leave the same flags and match in the same places. -/
structure Alike (left right : Lowered) : Prop where
  /-- The flags behind the parts are the same. -/
  flags : left.flags = right.flags
  /-- The branches match in the same places. -/
  branches : ∀ line start stop,
    AnyOf line left.branches start stop ↔ AnyOf line right.branches start stop

theorem Alike.matches_tree
    {left right : Lowered}
    (alike : left.Alike right)
    (leftSound : left.Sound)
    (rightSound : right.Sound)
    (line : Line)
    (start stop : Nat) :
    left.tree.Matches line start stop ↔ right.tree.Matches line start stop := by
  rw [leftSound.matches_tree, rightSound.matches_tree, alike.branches]

theorem alike_refl
    (lowered : Lowered) :
    lowered.Alike lowered :=
  ⟨rfl, fun _ _ _ => Iff.rfl⟩

theorem Alike.symm
    {left right : Lowered}
    (alike : left.Alike right) :
    right.Alike left :=
  ⟨alike.flags.symm, fun line start stop => (alike.branches line start stop).symm⟩

theorem Alike.trans
    {left middle right : Lowered}
    (first : left.Alike middle)
    (second : middle.Alike right) :
    left.Alike right :=
  ⟨first.flags.trans second.flags, fun line start stop =>
    (first.branches line start stop).trans (second.branches line start stop)⟩

end Lowered

/-! ## Lowering keeps meanings -/

open Unicode (CodePointSet)

/-- Lowered parts that are single sets. -/
theorem sound_single_ofSet
    {flags : Flags}
    {members : Except SyntaxError CodePointSet}
    {lowered : Lowered}
    (ordered : ∀ set, members = .ok set → set.Ordered)
    (found : (do return Lowered.single (.ofSet (← members)) flags) = Except.ok lowered) :
    lowered.Sound := by
  obtain ⟨set, same, made⟩ := Except.bind_eq_ok_iff.mp found
  obtain rfl := Except.ok.inj made
  exact Lowered.sound_single flags (Tree.orderly_ofSet (ordered set same))

/-- Everything that lowers is sound. -/
theorem sound_lower
    {flags : Flags}
    {ast : Ast}
    {lowered : Lowered}
    (bounded : ast.Bounded)
    (found : lower flags ast = .ok lowered) :
    lowered.Sound := by
  induction ast generalizing flags lowered with
  | empty =>
      obtain rfl := Except.ok.inj found
      exact Lowered.sound_single _ trivial
  | flags items =>
      obtain rfl := Except.ok.inj found
      exact Lowered.sound_single _ trivial
  | literal literal =>
      obtain ⟨char, -, made⟩ := Except.bind_eq_ok_iff.mp found
      obtain rfl := Except.ok.inj made
      refine Lowered.sound_single _ ?_
      rw [literalTree]
      split
      · exact Tree.orderly_ofSet
          (ordered_foldedBy flags (Unicode.CodePointSet.ordered_singleton char))
      · exact trivial
  | dot => exact sound_single_ofSet (fun _ => ordered_dotSet) found
  | assertion kind =>
      obtain rfl := Except.ok.inj found
      exact Lowered.sound_single _ trivial
  | perl negated kind => exact sound_single_ofSet (fun _ => ordered_perlSet) found
  | unicode negated query => exact sound_single_ofSet (fun _ => ordered_unicodeSet) found
  | bracketed negated body =>
      obtain ⟨members, membersFound, found⟩ := Except.bind_eq_ok_iff.mp found
      exact sound_single_ofSet (fun _ => ordered_negatedBy
        (ordered_foldedBy flags (ClassSet.ordered_members membersFound))) found
  | repetition count body inductionHypothesis =>
      obtain ⟨inner, innerFound, made⟩ := Except.bind_eq_ok_iff.mp found
      obtain rfl := Except.ok.inj made
      have sound := inductionHypothesis bounded.2 innerFound
      exact Lowered.sound_single _
        (Tree.matches_repeated _ _ _ bounded.1 sound.orderly_tree).1
  | group kind body inductionHypothesis =>
      cases kind with
      | capture index name =>
          obtain ⟨inner, innerFound, made⟩ := Except.bind_eq_ok_iff.mp found
          obtain rfl := Except.ok.inj made
          exact Lowered.sound_single _ (inductionHypothesis bounded innerFound).orderly_tree
      | plain items =>
          obtain ⟨inner, innerFound, made⟩ := Except.bind_eq_ok_iff.mp found
          obtain rfl := Except.ok.inj made
          exact Lowered.sound_single _ (inductionHypothesis bounded innerFound).orderly_tree
  | concat first rest firstHypothesis restHypothesis =>
      obtain ⟨front, frontFound, found⟩ := Except.bind_eq_ok_iff.mp found
      obtain ⟨back, backFound, made⟩ := Except.bind_eq_ok_iff.mp found
      obtain rfl := Except.ok.inj made
      have frontSound := firstHypothesis bounded.1 frontFound
      have backSound := restHypothesis bounded.2 backFound
      have orderly : ∀ part ∈ front.parts ++ back.parts, part.Orderly := by
        intro part member
        exact (List.mem_append.mp member).elim (frontSound.parts part) (backSound.parts part)
      refine ⟨List.forall_mem_singleton.mpr (Tree.orderly_ofParts orderly), orderly,
        fun line start stop => ?_⟩
      rw [anyOf_singleton, Tree.matches_ofParts]
  | alternation first rest firstHypothesis restHypothesis =>
      obtain ⟨front, frontFound, found⟩ := Except.bind_eq_ok_iff.mp found
      obtain ⟨back, backFound, made⟩ := Except.bind_eq_ok_iff.mp found
      obtain rfl := Except.ok.inj made
      have frontSound := firstHypothesis bounded.1 frontFound
      have backSound := restHypothesis bounded.2 backFound
      have orderly : ∀ branch ∈ front.tree :: back.branches, branch.Orderly :=
        List.forall_mem_cons.mpr ⟨frontSound.orderly_tree, backSound.branches⟩
      refine ⟨orderly, List.forall_mem_singleton.mpr (Tree.orderly_ofBranches orderly),
        fun line start stop => ?_⟩
      rw [sequence_singleton, Tree.matches_ofBranches orderly]

/-- Turns of bodies that match in the same places end in the same places. -/
theorem turns_congr
    {turn other : Nat → Nat → Prop}
    (same : ∀ start stop, turn start stop ↔ other start stop)
    (count start stop : Nat) :
    Turns turn count start stop ↔ Turns other count start stop := by
  rw [show turn = other from funext fun start => funext fun stop => propext (same start stop)]

theorem Ast.bounded_erase
    {ast : Ast}
    (bounded : ast.Bounded) :
    ast.erase.Bounded := by
  induction ast with
  | repetition count body inductionHypothesis => exact ⟨bounded.1, inductionHypothesis bounded.2⟩
  | group kind body inductionHypothesis => cases kind <;> exact inductionHypothesis bounded
  | concat first rest firstHypothesis restHypothesis =>
      exact ⟨firstHypothesis bounded.1, restHypothesis bounded.2⟩
  | alternation first rest firstHypothesis restHypothesis =>
      exact ⟨firstHypothesis bounded.1, restHypothesis bounded.2⟩
  | _ => trivial

/-- A pattern whose captures are erased lowers where the pattern does, to the same
meaning. -/
theorem lower_erase
    {flags : Flags}
    {ast : Ast}
    {lowered : Lowered}
    (bounded : ast.Bounded)
    (found : lower flags ast = .ok lowered) :
    ∃ erased, lower flags ast.erase = .ok erased ∧ erased.Alike lowered := by
  induction ast generalizing flags lowered with
  | repetition count body inductionHypothesis =>
      obtain ⟨inner, innerFound, made⟩ := Except.bind_eq_ok_iff.mp found
      obtain rfl := Except.ok.inj made
      obtain ⟨erased, erasedFound, alike⟩ := inductionHypothesis bounded.2 innerFound
      have sound := sound_lower bounded.2 innerFound
      have erasedSound := sound_lower (Ast.bounded_erase bounded.2) erasedFound
      refine ⟨_, Except.bind_eq_ok_iff.mpr ⟨erased, erasedFound, rfl⟩, alike.flags,
        fun line start stop => ?_⟩
      have same := alike.matches_tree erasedSound sound line
      rw [Lowered.single, Lowered.single, anyOf_singleton, anyOf_singleton,
        (Tree.matches_repeated _ _ _ bounded.1 erasedSound.orderly_tree).2,
        (Tree.matches_repeated _ _ _ bounded.1 sound.orderly_tree).2]
      simp only [Tree.Matches, turns_congr same]
  | group kind body inductionHypothesis =>
      have noItems : flags.apply [] = flags := rfl
      cases kind with
      | capture index name =>
          obtain ⟨inner, innerFound, made⟩ := Except.bind_eq_ok_iff.mp found
          obtain rfl := Except.ok.inj made
          obtain ⟨erased, erasedFound, alike⟩ := inductionHypothesis bounded innerFound
          have same := alike.matches_tree
            (sound_lower (Ast.bounded_erase (show body.Bounded from bounded)) erasedFound)
            (sound_lower (show body.Bounded from bounded) innerFound)
          rw [← noItems] at erasedFound
          refine ⟨_, Except.bind_eq_ok_iff.mpr ⟨erased, erasedFound, rfl⟩, rfl,
            fun line start stop => ?_⟩
          rw [Lowered.single, Lowered.single, anyOf_singleton, anyOf_singleton]
          exact same line start stop
      | plain items =>
          obtain ⟨inner, innerFound, made⟩ := Except.bind_eq_ok_iff.mp found
          obtain rfl := Except.ok.inj made
          obtain ⟨erased, erasedFound, alike⟩ := inductionHypothesis bounded innerFound
          have same := alike.matches_tree
            (sound_lower (Ast.bounded_erase (show body.Bounded from bounded)) erasedFound)
            (sound_lower (show body.Bounded from bounded) innerFound)
          refine ⟨_, Except.bind_eq_ok_iff.mpr ⟨erased, erasedFound, rfl⟩, rfl,
            fun line start stop => ?_⟩
          rw [Lowered.single, Lowered.single, anyOf_singleton, anyOf_singleton]
          exact same line start stop
  | concat first rest firstHypothesis restHypothesis =>
      obtain ⟨front, frontFound, found⟩ := Except.bind_eq_ok_iff.mp found
      obtain ⟨back, backFound, made⟩ := Except.bind_eq_ok_iff.mp found
      obtain rfl := Except.ok.inj made
      obtain ⟨frontErased, frontErasedFound, frontAlike⟩ := firstHypothesis bounded.1 frontFound
      rw [← frontAlike.flags] at backFound
      obtain ⟨backErased, backErasedFound, backAlike⟩ := restHypothesis bounded.2 backFound
      refine ⟨_, Except.bind_eq_ok_iff.mpr ⟨frontErased, frontErasedFound,
        Except.bind_eq_ok_iff.mpr ⟨backErased, backErasedFound, rfl⟩⟩, backAlike.flags,
        fun line start stop => ?_⟩
      have frontSame := (sound_lower bounded.1 frontFound).agrees line
      have backSame := (sound_lower bounded.2 backFound).agrees line
      have frontErasedSame :=
        (sound_lower (Ast.bounded_erase bounded.1) frontErasedFound).agrees line
      have backErasedSame :=
        (sound_lower (Ast.bounded_erase bounded.2) backErasedFound).agrees line
      simp only [anyOf_singleton, Tree.matches_ofParts, sequence_append, frontSame, backSame,
        frontErasedSame, backErasedSame, frontAlike.branches, backAlike.branches]
  | alternation first rest firstHypothesis restHypothesis =>
      obtain ⟨front, frontFound, found⟩ := Except.bind_eq_ok_iff.mp found
      obtain ⟨back, backFound, made⟩ := Except.bind_eq_ok_iff.mp found
      obtain rfl := Except.ok.inj made
      obtain ⟨frontErased, frontErasedFound, frontAlike⟩ := firstHypothesis bounded.1 frontFound
      rw [← frontAlike.flags] at backFound
      obtain ⟨backErased, backErasedFound, backAlike⟩ := restHypothesis bounded.2 backFound
      refine ⟨_, Except.bind_eq_ok_iff.mpr ⟨frontErased, frontErasedFound,
        Except.bind_eq_ok_iff.mpr ⟨backErased, backErasedFound, rfl⟩⟩, backAlike.flags,
        fun line start stop => ?_⟩
      have same := frontAlike.matches_tree
        (sound_lower (Ast.bounded_erase bounded.1) frontErasedFound)
        (sound_lower bounded.1 frontFound) line
      simp only [anyOf_cons, same, backAlike.branches]
  | _ => exact ⟨lowered, found, lowered.alike_refl⟩

theorem flags_lower_erase
    {flags : Flags}
    {ast : Ast}
    {lowered erased : Lowered}
    (bounded : ast.Bounded)
    (found : lower flags ast = .ok lowered)
    (erasedFound : lower flags ast.erase = .ok erased) :
    erased.flags = lowered.flags := by
  obtain ⟨other, otherFound, alike⟩ := lower_erase bounded found
  obtain rfl := Except.ok.inj (erasedFound.symm.trans otherFound)
  exact alike.flags

/-- A pattern lowers where it lowers with its captures erased. -/
theorem exists_lower_of_erase
    {flags : Flags}
    {ast : Ast}
    {erased : Lowered}
    (bounded : ast.Bounded)
    (found : lower flags ast.erase = .ok erased) :
    ∃ lowered, lower flags ast = .ok lowered := by
  induction ast generalizing flags erased with
  | repetition count body inductionHypothesis =>
      obtain ⟨inner, innerFound, -⟩ := Except.bind_eq_ok_iff.mp found
      obtain ⟨lowered, loweredFound⟩ := inductionHypothesis bounded.2 innerFound
      exact ⟨_, Except.bind_eq_ok_iff.mpr ⟨lowered, loweredFound, rfl⟩⟩
  | group kind body inductionHypothesis =>
      cases kind with
      | capture index name =>
          obtain ⟨inner, innerFound, -⟩ := Except.bind_eq_ok_iff.mp found
          obtain ⟨lowered, loweredFound⟩ := inductionHypothesis bounded innerFound
          exact ⟨_, Except.bind_eq_ok_iff.mpr ⟨lowered, loweredFound, rfl⟩⟩
      | plain items =>
          obtain ⟨inner, innerFound, -⟩ := Except.bind_eq_ok_iff.mp found
          obtain ⟨lowered, loweredFound⟩ := inductionHypothesis bounded innerFound
          exact ⟨_, Except.bind_eq_ok_iff.mpr ⟨lowered, loweredFound, rfl⟩⟩
  | concat first rest firstHypothesis restHypothesis =>
      obtain ⟨front, frontFound, found⟩ := Except.bind_eq_ok_iff.mp found
      obtain ⟨back, backFound, -⟩ := Except.bind_eq_ok_iff.mp found
      obtain ⟨frontLowered, frontLoweredFound⟩ := firstHypothesis bounded.1 frontFound
      rw [flags_lower_erase bounded.1 frontLoweredFound frontFound] at backFound
      obtain ⟨backLowered, backLoweredFound⟩ := restHypothesis bounded.2 backFound
      exact ⟨_, Except.bind_eq_ok_iff.mpr ⟨frontLowered, frontLoweredFound,
        Except.bind_eq_ok_iff.mpr ⟨backLowered, backLoweredFound, rfl⟩⟩⟩
  | alternation first rest firstHypothesis restHypothesis =>
      obtain ⟨front, frontFound, found⟩ := Except.bind_eq_ok_iff.mp found
      obtain ⟨back, backFound, -⟩ := Except.bind_eq_ok_iff.mp found
      obtain ⟨frontLowered, frontLoweredFound⟩ := firstHypothesis bounded.1 frontFound
      rw [flags_lower_erase bounded.1 frontLoweredFound frontFound] at backFound
      obtain ⟨backLowered, backLoweredFound⟩ := restHypothesis bounded.2 backFound
      exact ⟨_, Except.bind_eq_ok_iff.mpr ⟨frontLowered, frontLoweredFound,
        Except.bind_eq_ok_iff.mpr ⟨backLowered, backLoweredFound, rfl⟩⟩⟩
  | _ => exact ⟨erased, found⟩

/-- Patterns that are the same without captures lower to the same meaning. -/
theorem lower_of_erase_eq
    {flags : Flags}
    {left right : Ast}
    {lowered : Lowered}
    (same : left.erase = right.erase)
    (leftBounded : left.Bounded)
    (rightBounded : right.Bounded)
    (found : lower flags left = .ok lowered) :
    ∃ other, lower flags right = .ok other ∧ other.Alike lowered := by
  obtain ⟨erased, erasedFound, alike⟩ := lower_erase leftBounded found
  rw [same] at erasedFound
  obtain ⟨other, otherFound⟩ := exists_lower_of_erase rightBounded erasedFound
  obtain ⟨otherErased, otherErasedFound, otherAlike⟩ := lower_erase rightBounded otherFound
  obtain rfl := Except.ok.inj (erasedFound.symm.trans otherErasedFound)
  exact ⟨other, otherFound, otherAlike.symm.trans alike⟩

end Linear
end LineExtraction

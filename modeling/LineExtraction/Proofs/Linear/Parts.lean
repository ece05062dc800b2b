import LineExtraction.Proofs.Linear.Bounds
import LineExtraction.Proofs.Linear.Embedding

/-!
# What parts mean where they stand

The parts of a sequence are lowered one behind the other, each under the flags that the
one before it leaves.  A group that sets no flags leaves them as they are and matches what
its body matches, wherever it stands and whatever its captures are numbered.
-/

namespace LineExtraction
namespace Linear

theorem Ast.erase_shift
    (offset : Nat)
    (ast : Ast) :
    (ast.shift offset).erase = ast.erase := by
  induction ast with
  | group kind body inductionHypothesis =>
      cases kind <;> simp only [shift, erase, inductionHypothesis]
  | _ => simp_all only [shift, erase]

theorem Ast.Bounded.shift
    {ast : Ast}
    (bounded : ast.Bounded)
    (offset : Nat) :
    (ast.shift offset).Bounded := by
  induction ast with
  | repetition count body inductionHypothesis => exact ⟨bounded.1, inductionHypothesis bounded.2⟩
  | group kind body inductionHypothesis => cases kind <;> exact inductionHypothesis bounded
  | concat first rest firstHypothesis restHypothesis =>
      exact ⟨firstHypothesis bounded.1, restHypothesis bounded.2⟩
  | alternation first rest firstHypothesis restHypothesis =>
      exact ⟨firstHypothesis bounded.1, restHypothesis bounded.2⟩
  | _ => trivial

/-! ## Sequences -/

/-- An empty part in front of a sequence adds nothing. -/
theorem sequence_empty_cons
    {line : Line}
    {start stop : Nat}
    (parts : List Tree) :
    Sequence line (.empty :: parts) start stop ↔ Sequence line parts start stop := by
  simp [Sequence, Tree.Matches]

/-- Lowering a sequence lowers its first part and then the others. -/
theorem lower_ofParts_cons
    {flags : Flags}
    {part : Ast}
    {parts : List Ast}
    {lowered : Lowered}
    (found : lower flags (.ofParts (part :: parts)) = .ok lowered) :
    ∃ front back, lower flags part = .ok front ∧
      lower front.flags (.ofParts parts) = .ok back ∧ lowered.flags = back.flags ∧
      ∀ line start stop, Sequence line lowered.parts start stop ↔
        Sequence line (front.parts ++ back.parts) start stop := by
  cases parts with
  | nil =>
      refine ⟨lowered, .single .empty lowered.flags, found, rfl, rfl, fun line start stop => ?_⟩
      simp [sequence_append, sequence_singleton, Lowered.single, Tree.Matches]
  | cons next parts =>
      obtain ⟨front, frontFound, found⟩ := Except.bind_eq_ok_iff.mp found
      obtain ⟨back, backFound, made⟩ := Except.bind_eq_ok_iff.mp found
      obtain rfl := Except.ok.inj made
      exact ⟨front, back, frontFound, backFound, rfl, fun _ _ _ => Iff.rfl⟩

/-- What two runs of parts are lowered to, given what each of them is. -/
def Lowered.join (front back : Lowered) : Lowered :=
  ⟨[.ofParts (front.parts ++ back.parts)], front.parts ++ back.parts, back.flags⟩

/-- Lowering two runs of parts lowers the one and then the other, and fails where one of them
does. -/
theorem lower_ofParts_append_of_ne_nil
    (flags : Flags)
    {front back : List Ast}
    (some : front ≠ [])
    (others : back ≠ []) :
    lower flags (.ofParts (front ++ back)) = (do
      let first ← lower flags (.ofParts front)
      let second ← lower first.flags (.ofParts back)
      return first.join second) := by
  have split : ∀ part parts, parts ≠ [] → ∀ flags, lower flags (.ofParts (part :: parts)) = (do
      let first ← lower flags part
      let second ← lower first.flags (.ofParts parts)
      return first.join second) := by
    intro part parts more flags
    cases parts with
    | nil => exact absurd rfl more
    | cons next parts => rfl
  induction front generalizing flags with
  | nil => exact absurd rfl some
  | cons part front inductionHypothesis =>
      cases front with
      | nil => exact split part back others flags
      | cons next front =>
          rw [List.cons_append, split part (next :: front ++ back) (List.cons_ne_nil _ _),
            split part (next :: front) (List.cons_ne_nil _ _), bind_assoc]
          refine congrArg (lower flags part >>= ·) (funext fun head => ?_)
          rw [inductionHypothesis head.flags (List.cons_ne_nil _ _), bind_assoc, bind_assoc]
          refine congrArg (lower head.flags _ >>= ·) (funext fun tail => ?_)
          show ((lower tail.flags (.ofParts back) >>= _) >>= _) = lower tail.flags (.ofParts back) >>= _
          rw [bind_assoc]
          refine congrArg (lower tail.flags _ >>= ·) (funext fun second => ?_)
          show Except.ok (head.join (tail.join second)) = .ok ((head.join tail).join second)
          simp only [Lowered.join, List.append_assoc]

/-- Lowering two runs of parts lowers the one and then the other. -/
theorem lower_ofParts_append
    {flags : Flags}
    {front back : List Ast}
    {lowered : Lowered}
    (found : lower flags (.ofParts (front ++ back)) = .ok lowered) :
    ∃ first second, lower flags (.ofParts front) = .ok first ∧
      lower first.flags (.ofParts back) = .ok second ∧ lowered.flags = second.flags ∧
      ∀ line start stop, Sequence line lowered.parts start stop ↔
        Sequence line (first.parts ++ second.parts) start stop := by
  cases front with
  | nil =>
      exact ⟨.single .empty flags, lowered, rfl, found, rfl,
        fun line start stop => (sequence_empty_cons _).symm⟩
  | cons part front =>
      cases back with
      | nil =>
          rw [List.append_nil] at found
          refine ⟨lowered, .single .empty lowered.flags, found, rfl, rfl, fun line start stop => ?_⟩
          simp [sequence_append, sequence_singleton, Lowered.single, Tree.Matches]
      | cons next back =>
          rw [lower_ofParts_append_of_ne_nil flags (List.cons_ne_nil _ _)
            (List.cons_ne_nil _ _)] at found
          obtain ⟨first, firstFound, found⟩ := Except.bind_eq_ok_iff.mp found
          obtain ⟨second, secondFound, made⟩ := Except.bind_eq_ok_iff.mp found
          obtain rfl := Except.ok.inj made
          exact ⟨first, second, firstFound, secondFound, rfl, fun _ _ _ => Iff.rfl⟩

/-! ## Groups -/

/-- Whether a group of the kind sets no flags. -/
def GroupKind.SetsNothing : GroupKind → Prop
  | capture _ _ => True
  | plain items => items = []

/-- A group that sets no flags matches what its body matches and leaves the flags. -/
theorem lower_group
    {flags : Flags}
    {kind : GroupKind}
    {body : Ast}
    {lowered : Lowered}
    (quiet : kind.SetsNothing)
    (bounded : body.Bounded)
    (found : lower flags (.group kind body) = .ok lowered) :
    ∃ inner, lower flags body = .ok inner ∧ lowered.flags = flags ∧
      ∀ line start stop, Sequence line lowered.parts start stop ↔
        Sequence line inner.parts start stop := by
  cases kind with
  | capture index name =>
      obtain ⟨inner, innerFound, made⟩ := Except.bind_eq_ok_iff.mp found
      obtain rfl := Except.ok.inj made
      have sound := sound_lower bounded innerFound
      refine ⟨inner, innerFound, rfl, fun line start stop => ?_⟩
      rw [sound.agrees, ← sound.matches_tree]
      exact sequence_singleton _
  | plain items =>
      obtain rfl : items = [] := quiet
      obtain ⟨inner, innerFound, made⟩ := Except.bind_eq_ok_iff.mp found
      obtain rfl := Except.ok.inj made
      have sound := sound_lower bounded innerFound
      refine ⟨inner, innerFound, rfl, fun line start stop => ?_⟩
      rw [sound.agrees, ← sound.matches_tree]
      exact sequence_singleton _

/-! ## Text -/

/-- The parts that quoted text is read as. -/
def literals (text : List Char) : List Ast :=
  text.map fun char => .literal ⟨char, false⟩

/-- Quoted text matches itself where no flags are set. -/
theorem lower_literals
    {text : List Char}
    {lowered : Lowered}
    (found : lower .default (.ofParts (literals text)) = .ok lowered) :
    lowered.flags = .default ∧
      ∀ line start stop, Sequence line lowered.parts start stop ↔
        (Tree.literal text).Matches line start stop := by
  induction text generalizing lowered with
  | nil =>
      obtain rfl := Except.ok.inj found
      refine ⟨rfl, fun line start stop => ?_⟩
      simp [sequence_singleton, Lowered.single, Tree.Matches, Line.startsWithAt, eq_comm]
  | cons char text inductionHypothesis =>
      obtain ⟨front, back, frontFound, backFound, flags, agrees⟩ := lower_ofParts_cons found
      obtain rfl := Except.ok.inj frontFound
      obtain ⟨backFlags, backAgrees⟩ := inductionHypothesis backFound
      refine ⟨flags.trans backFlags, fun line start stop => ?_⟩
      rw [agrees, sequence_append, ← List.singleton_append, Tree.matches_literal_append]
      simp only [backAgrees]
      simp only [Lowered.single, sequence_singleton]
      rfl

end Linear
end LineExtraction

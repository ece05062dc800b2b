import LineExtraction.Proofs.Linear.Meaning
import LineExtraction.Proofs.Linear.PhraseTrees
import LineExtraction.Proofs.Pattern.Relaxing

/-!
# What phrases mean

The meaning of a phrase in a line is a relation between positions that is read off the phrase.
It knows nothing of the numbers of groups, nor of how sequences and choices are put together.
Where the linear dialect has a tree for a phrase the tree means the same.
-/

namespace LineExtraction

/-! ## Repetitions -/

namespace Linear

/-- From `start` to `stop` in a number of turns within bounds. -/
def Repeats (turn : Nat → Nat → Prop) (min : Nat) (max : Option Nat) (start stop : Nat) : Prop :=
  ∃ count, min ≤ count ∧ (∀ bound ∈ max, count ≤ bound) ∧ Turns turn count start stop

theorem Repeats.mono
    {turn other : Nat → Nat → Prop}
    (implies : ∀ start stop, turn start stop → other start stop)
    {min : Nat}
    {max : Option Nat}
    {start stop : Nat}
    (repeats : Repeats turn min max start stop) :
    Repeats other min max start stop := by
  obtain ⟨count, least, most, turns⟩ := repeats
  exact ⟨count, least, most, turns.map id implies⟩

theorem repeats_congr
    {turn other : Nat → Nat → Prop}
    (same : ∀ start stop, turn start stop ↔ other start stop)
    {min : Nat}
    {max : Option Nat}
    {start stop : Nat} :
    Repeats turn min max start stop ↔ Repeats other min max start stop :=
  ⟨.mono fun start stop => (same start stop).mp, .mono fun start stop => (same start stop).mpr⟩

/-- A repetition in normal form takes a number of turns within its bounds. -/
theorem Tree.matches_repeated_iff
    {min : Nat}
    {max : Option Nat}
    (bounds : ∀ bound ∈ max, min ≤ bound)
    (greedy : Bool)
    {body : Tree}
    (orderly : body.Orderly)
    {line : Line}
    {start stop : Nat} :
    (repeated min max greedy body).Matches line start stop ↔
      Repeats (body.Matches line) min max start stop := by
  rw [(matches_repeated min max greedy bounds orderly).2]
  constructor
  · rintro ⟨extra, allowed, turns⟩
    refine ⟨min + extra, Nat.le_add_right _ _, fun bound isBound => ?_, turns⟩
    have room := allowed bound isBound
    have least := bounds bound isBound
    omega
  · rintro ⟨count, least, most, turns⟩
    refine ⟨count - min, fun bound isBound => ?_, ?_⟩
    · exact Nat.sub_le_sub_right (most bound isBound) min
    · rwa [Nat.add_sub_cancel' least]

end Linear

/-! ## Meanings -/

namespace Pattern

open Linear (Tree Repeats Sequence AnyOf)

variable (line : Line)

/-- Whether the atom may match from `start` to `stop`. -/
def Leaf.Matches (mode : Mode) (atom : Leaf) (start stop : Nat) : Prop :=
  ∃ tree, atom.tree? mode = some tree ∧ tree.Matches line start stop

/-- Whether something with a quantifier may match, given where it may match itself. -/
def Quantifier.Repeats (turn : Nat → Nat → Prop) :
    Option Quantifier → (start stop : Nat) → Prop
  | none, start, stop => turn start stop
  | some quantifier, start, stop =>
    ∃ bounds, quantifier.counts.bounds? = some bounds ∧
      Linear.Repeats turn bounds.1 bounds.2 start stop

/-- Whether a group may match, given where its body may.  One that looks around matches the
empty text. -/
def GroupSign.Encloses (inner : Nat → Nat → Prop) (sign : GroupSign) (start stop : Nat) : Prop :=
  if sign.isLook then start = stop else inner start stop

mutual

/-- Whether what stands in front of the first bar may match from `start` to `stop`. -/
def Phrase.MatchesHere (mode : Mode) : Phrase → (start stop : Nat) → Prop
  | .done, start, stop => start = stop
  | .leaf atom quantifier rest, start, stop =>
    ∃ middle, Quantifier.Repeats (atom.Matches line mode) quantifier start middle ∧
      rest.MatchesHere mode middle stop
  | .group sign body quantifier rest, start, stop =>
    ∃ middle,
      Quantifier.Repeats
          (sign.Encloses fun start stop =>
            body.MatchesHere (sign.mode mode) start stop ∨
              body.MatchesLater (sign.mode mode) start stop)
          quantifier start middle ∧
        rest.MatchesHere mode middle stop
  | .bar _, start, stop => start = stop

/-- Whether what stands behind some bar may match from `start` to `stop`. -/
def Phrase.MatchesLater (mode : Mode) : Phrase → (start stop : Nat) → Prop
  | .done, _, _ => False
  | .leaf _ _ rest, start, stop => rest.MatchesLater mode start stop
  | .group _ _ _ rest, start, stop => rest.MatchesLater mode start stop
  | .bar rest, start, stop =>
    rest.MatchesHere mode start stop ∨ rest.MatchesLater mode start stop

end

/-- Whether the phrase may match from `start` to `stop`. -/
def Phrase.Matches (mode : Mode) (phrase : Phrase) (start stop : Nat) : Prop :=
  phrase.MatchesHere line mode start stop ∨ phrase.MatchesLater line mode start stop

variable {line}

/-! ## Trees mean what phrases mean -/

theorem Quantifier.Repeats.mono
    {turn other : Nat → Nat → Prop}
    (implies : ∀ start stop, turn start stop → other start stop)
    {quantifier : Option Quantifier}
    {start stop : Nat}
    (repeats : Repeats turn quantifier start stop) :
    Repeats other quantifier start stop := by
  cases quantifier with
  | none => exact implies start stop repeats
  | some quantifier =>
      obtain ⟨bounds, known, repeats⟩ := repeats
      exact ⟨bounds, known, Linear.Repeats.mono implies repeats⟩

theorem Quantifier.matches_repeated?_iff
    {quantifier : Option Quantifier}
    {tree whole : Tree}
    (applied : repeated? quantifier tree = some whole)
    (orderly : tree.Orderly)
    {turn : Nat → Nat → Prop}
    (same : ∀ start stop, turn start stop ↔ tree.Matches line start stop)
    {start stop : Nat} :
    Repeats turn quantifier start stop ↔ whole.Matches line start stop := by
  cases quantifier with
  | none =>
      obtain rfl := Option.some.inj applied
      exact same start stop
  | some quantifier =>
      obtain ⟨count, counted, rfl⟩ := Option.map_eq_some_iff.mp applied
      have bounds := ordered_count? counted
      obtain ⟨limits, known, rfl⟩ := Option.map_eq_some_iff.mp counted
      rw [Tree.matches_repeated_iff bounds _ orderly, Repeats, known]
      constructor
      · rintro ⟨_, ⟨⟩, repeats⟩
        exact (Linear.repeats_congr same).mp repeats
      · exact fun repeats => ⟨limits, rfl, (Linear.repeats_congr same).mpr repeats⟩

theorem Leaf.matches_iff
    {mode : Mode}
    {atom : Leaf}
    {tree : Tree}
    (found : atom.tree? mode = some tree)
    (start stop : Nat) :
    atom.Matches line mode start stop ↔ tree.Matches line start stop := by
  constructor
  · rintro ⟨other, known, matched⟩
    obtain rfl := Option.some.inj (found.symm.trans known)
    exact matched
  · exact fun matched => ⟨tree, found, matched⟩

theorem Alternatives.matches_tree_iff
    {trees : Alternatives Tree}
    (orderly : trees.All Tree.Orderly)
    {start stop : Nat} :
    trees.tree.Matches line start stop ↔
      Sequence line trees.here start stop ∨
        AnyOf line (trees.later.map Tree.ofParts) start stop := by
  rw [tree, Tree.matches_ofBranches (all_ofParts (fun _ => Tree.orderly_ofParts) orderly), branches,
    List.map_cons, Linear.anyOf_cons, Tree.matches_ofParts]

/-- The tree of a group means what the group means. -/
theorem GroupSign.encloses_iff
    {sign : GroupSign}
    (before : Nat)
    {inner : Alternatives Tree}
    (orderly : inner.All Tree.Orderly)
    {turn : Nat → Nat → Prop}
    (same : ¬ sign.isLook → ∀ start stop, turn start stop ↔
      Sequence line inner.here start stop ∨ AnyOf line (inner.later.map Tree.ofParts) start stop)
    (start stop : Nat) :
    sign.Encloses turn start stop ↔ (sign.tree before inner.tree).Matches line start stop := by
  have body (seen : ¬ sign.isLook) : turn start stop ↔ inner.tree.Matches line start stop := by
    rw [same seen, Alternatives.matches_tree_iff orderly]
  cases sign with
  | look behind negative => exact Iff.rfl
  | _ => exact body Bool.false_ne_true

/-- Between bars the trees of a phrase mean what the phrase means there. -/
theorem Phrase.matches_here_and_later_iff
    {phrase : Phrase}
    {mode : Mode}
    {before : Nat}
    {trees : Alternatives Tree}
    (found : phrase.trees mode before = some trees) :
    (∀ start stop, phrase.MatchesHere line mode start stop ↔ Sequence line trees.here start stop) ∧
      ∀ start stop, phrase.MatchesLater line mode start stop ↔
        AnyOf line (trees.later.map Tree.ofParts) start stop := by
  induction phrase generalizing mode before trees with
  | done =>
      obtain rfl := Option.some.inj found
      exact ⟨fun start stop => Iff.rfl, fun start stop => iff_of_false id nofun⟩
  | leaf atom quantifier rest restHypothesis =>
      obtain ⟨tree, known, whole, applied, others, remaining, rfl⟩ := trees_leaf_iff.mp found
      obtain ⟨here, later⟩ := restHypothesis remaining
      refine ⟨fun start stop => ?_, later⟩
      exact exists_congr fun middle => and_congr
        (Quantifier.matches_repeated?_iff applied (hereditary_orderly.atom known)
          (Leaf.matches_iff known)) (here middle stop)
  | group sign body quantifier rest bodyHypothesis restHypothesis =>
      obtain ⟨inner, insides, whole, applied, others, remaining, rfl⟩ := trees_group_iff.mp found
      obtain ⟨here, later⟩ := restHypothesis remaining
      refine ⟨fun start stop => ?_, later⟩
      have orderly : inner.All Tree.Orderly := by
        split at insides
        · obtain rfl := Option.some.inj insides
          exact Alternatives.all_nothing
        · exact hereditary_orderly.all_trees insides
      have same (seen : ¬ sign.isLook) (start stop : Nat) :
          body.Matches line (sign.mode mode) start stop ↔
            Sequence line inner.here start stop ∨
              AnyOf line (inner.later.map Tree.ofParts) start stop := by
        rw [if_neg seen] at insides
        obtain ⟨innerHere, innerLater⟩ := bodyHypothesis insides
        exact or_congr (innerHere start stop) (innerLater start stop)
      have grouped := hereditary_orderly.sign (hereditary_orderly.tree orderly) sign before
      exact exists_congr fun middle => and_congr
        (Quantifier.matches_repeated?_iff applied grouped
          (GroupSign.encloses_iff before orderly same)) (here middle stop)
  | bar rest restHypothesis =>
      obtain ⟨others, remaining, rfl⟩ := trees_bar_iff.mp found
      obtain ⟨here, later⟩ := restHypothesis remaining
      refine ⟨fun start stop => Iff.rfl, fun start stop => ?_⟩
      rw [MatchesLater, here, later]
      exact (or_congr_left (Tree.matches_ofParts _).symm).trans (Linear.anyOf_cons _ _).symm

/-- The tree of a whole phrase means what the phrase means. -/
theorem Phrase.matches_iff
    {phrase : Phrase}
    {mode : Mode}
    {before : Nat}
    {trees : Alternatives Tree}
    (found : phrase.trees mode before = some trees)
    (start stop : Nat) :
    phrase.Matches line mode start stop ↔ trees.tree.Matches line start stop := by
  have parts := @matches_here_and_later_iff line phrase mode before trees found
  rw [Alternatives.matches_tree_iff (hereditary_orderly.all_trees found)]
  exact or_congr (parts.1 start stop) (parts.2 start stop)

/-! ## Any text -/

/-- A dot matches any character, but a line break only where it may. -/
theorem Leaf.matches_dot_iff
    {mode : Mode}
    {start stop : Nat} :
    dot.Matches line mode start stop ↔
      ∃ char, line.after? start = some char ∧ (mode.dotAll ∨ char ≠ '\n') ∧ stop = start + 1 := by
  have complement {excluded : Unicode.CodePointSet} (ordered : excluded.Ordered) (char : Char) :
      excluded.complement.containsChar char ↔ ¬ excluded.containsChar char := by
    rw [Unicode.CodePointSet.containsChar, (Unicode.CodePointSet.complement_members ordered).2,
      Bool.not_eq_true]
    exact and_iff_right char.valid
  obtain ⟨set, ordered, known, holds⟩ : ∃ set : Unicode.CodePointSet, set.Ordered ∧
      dot.tree? mode = some (.ofSet set) ∧
      ∀ char : Char, set.containsChar char ↔ mode.dotAll ∨ char ≠ '\n' := by
    obtain ⟨fold, dotAll⟩ := mode
    have made (excluded : Unicode.CodePointSet)
        (found : Linear.dotSet (Mode.linear ⟨fold, dotAll⟩) = .ok excluded.complement) :
        dot.tree? ⟨fold, dotAll⟩ = some (.ofSet excluded.complement) := by
      have lowered : Linear.lower (Mode.linear ⟨fold, dotAll⟩) .dot =
          .ok (.single (.ofSet excluded.complement) (Mode.linear ⟨fold, dotAll⟩)) :=
        Except.bind_eq_ok_iff.mpr ⟨_, found, rfl⟩
      have tree := Linear.treeOf?_of_lower lowered
      exact (eq_of_treeOf?_of_single tree lowered) ▸ tree
    cases dotAll with
    | true =>
        refine ⟨_, Unicode.CodePointSet.ordered_empty.complement, made _ rfl, fun char => ?_⟩
        rw [complement Unicode.CodePointSet.ordered_empty]
        exact iff_of_true Bool.false_ne_true (.inl rfl)
    | false =>
        have ordered := Unicode.CodePointSet.ordered_singleton '\n'
        refine ⟨_, ordered.complement, made _ rfl, fun char => ?_⟩
        have only : (Unicode.CodePointSet.singleton '\n').onlyMember? = some '\n' := by decide
        rw [complement ordered, ordered.containsChar_of_onlyMember? only]
        exact (or_iff_right Bool.false_ne_true).symm
  rw [matches_iff known, Tree.matches_ofSet ordered]
  simp only [Tree.Matches, Option.any_eq_true, holds]
  constructor
  · rintro ⟨⟨char, found, may⟩, rfl⟩
    exact ⟨char, found, may, rfl⟩
  · rintro ⟨char, found, may, rfl⟩
    exact ⟨⟨char, found, may⟩, rfl⟩

/-- What stands for a reference may match any text. -/
theorem Phrase.matches_anything
    {mode : Mode}
    (dotAll : mode.dotAll)
    {start stop : Nat}
    (forward : start ≤ stop)
    (inside : stop ≤ line.length) :
    anything.Matches line mode start stop := by
  have turns (count : Nat) : ∀ start, start + count ≤ line.length →
      Linear.Turns (Leaf.dot.Matches line mode) count start (start + count) := by
    induction count with
    | zero => exact fun start _ => rfl
    | succ count inductionHypothesis =>
        intro start inside
        have behind := inductionHypothesis (start + 1) (by omega)
        rw [Nat.add_right_comm] at behind
        have here : start < line.chars.size := Nat.lt_of_lt_of_le (by omega) inside
        exact ⟨start + 1, Leaf.matches_dot_iff.mpr ⟨line.chars[start],
          Array.getElem?_eq_getElem here, .inl dotAll, rfl⟩, behind⟩
  have whole := turns (stop - start) start (by omega)
  rw [Nat.add_sub_cancel' forward] at whole
  exact .inl ⟨stop, ⟨(0, none), rfl, stop - start, Nat.zero_le _, nofun, whole⟩, rfl⟩

end Pattern
end LineExtraction

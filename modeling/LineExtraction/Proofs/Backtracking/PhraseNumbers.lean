import LineExtraction.Proofs.Backtracking.Delegating
import Mathlib.Data.List.Nodup

/-!
# Names and numbers of the groups of a phrase

Both dialects number the groups of a phrase in the order in which they open.  So a name stands
at the same number in both, and spelling the atoms of the phrase differently changes neither
the numbers nor the tree.
-/

namespace LineExtraction
namespace Pattern

open Linear (Tree)

/-! ## Names by number -/

namespace Phrase

/-- The names of a phrase are numbered, each of them once. -/
theorem map_fst_numbered
    (phrase : Phrase)
    (before : Nat) :
    (phrase.numbered before).map Prod.fst = phrase.names := by
  induction phrase generalizing before with
  | done => rfl
  | leaf atom quantifier rest inductionHypothesis => exact inductionHypothesis before
  | group sign body quantifier rest bodyHypothesis restHypothesis =>
      have own : (sign.numbered before).map Prod.fst = sign.names := by cases sign <;> rfl
      rw [numbered, names, List.map_append, List.map_append, bodyHypothesis, restHypothesis, own]
  | bar rest inductionHypothesis => exact inductionHypothesis before

/-- A name that stands once has one number. -/
theorem number_unique
    {phrase : Phrase}
    (distinct : phrase.names.Nodup)
    {before : Nat}
    {name : List Char}
    {left right : Nat}
    (isLeft : (name, left) ∈ phrase.numbered before)
    (isRight : (name, right) ∈ phrase.numbered before) :
    left = right := by
  rw [← phrase.map_fst_numbered before] at distinct
  exact congrArg Prod.snd (List.inj_on_of_nodup_map distinct isLeft isRight rfl)

/-- The names of a phrase matter only for the groups that it opens. -/
theorem namedBy_congr
    {names others : Nat → Option (List Char)}
    {phrase : Phrase}
    {before : Nat}
    (same : ∀ group, before < group → group ≤ before + phrase.captures →
      names group = others group)
    (named : phrase.NamedBy names before) :
    phrase.NamedBy others before := by
  induction phrase generalizing before with
  | done => trivial
  | leaf atom quantifier rest inductionHypothesis => exact inductionHypothesis same named
  | group sign body quantifier rest bodyHypothesis restHypothesis =>
      obtain ⟨own, inside, behind⟩ := named
      have total : (group sign body quantifier rest).captures =
          sign.captures + body.captures + rest.captures := rfl
      refine ⟨?_, bodyHypothesis (fun group above below => same group (by omega) (by omega)) inside,
        restHypothesis (fun group above below => same group (by omega) (by omega)) behind⟩
      cases sign with
      | capture =>
          rw [GroupSign.captures] at total
          exact (same _ (Nat.lt_succ_self before) (by omega)).symm.trans own
      | named long name =>
          rw [GroupSign.captures] at total
          exact (same _ (Nat.lt_succ_self before) (by omega)).symm.trans own
      | _ => trivial
  | bar rest inductionHypothesis => exact inductionHypothesis same named

/-- The groups of a phrase have the names that stand at their numbers. -/
theorem exists_namedBy
    (phrase : Phrase)
    (before : Nat) :
    ∃ names, phrase.NamedBy names before ∧
      ∀ group name, names group = some name → (name, group) ∈ phrase.numbered before := by
  induction phrase generalizing before with
  | done => exact ⟨fun _ => none, trivial, nofun⟩
  | leaf atom quantifier rest inductionHypothesis => exact inductionHypothesis before
  | group sign body quantifier rest bodyHypothesis restHypothesis =>
      obtain ⟨inner, inside, innerNumbered⟩ := bodyHypothesis (before + sign.captures)
      obtain ⟨outer, behind, outerNumbered⟩ :=
        restHypothesis (before + sign.captures + body.captures)
      let names (group : Nat) : Option (List Char) :=
        if group ≤ before + sign.captures then if group = before + 1 then sign.names.head? else none
        else if group ≤ before + sign.captures + body.captures then inner group else outer group
      refine ⟨names, ⟨?_, namedBy_congr (fun group above below => ?_) inside,
        namedBy_congr (fun group above below => ?_) behind⟩, fun group name named => ?_⟩
      · have first (one : sign.captures = 1) : names (before + 1) = sign.names.head? := by
          rw [show names (before + 1) = _ from if_pos (by omega), if_pos rfl]
        cases sign with
        | capture => exact first rfl
        | named long name => exact first rfl
        | _ => trivial
      · rw [show names group = _ from if_neg (by omega), if_pos (by omega)]
      · rw [show names group = _ from if_neg (by omega), if_neg (by omega)]
      · rw [numbered, List.mem_append, List.mem_append]
        simp only [names] at named
        split at named
        · split at named
          · next same =>
              subst same
              cases sign with
              | named long own =>
                  obtain rfl := Option.some.inj named
                  exact .inr (.inr (List.mem_singleton_self _))
              | _ => cases named
          · cases named
        · split at named
          · exact .inr (.inl (innerNumbered group name named))
          · exact .inl (outerNumbered group name named)
  | bar rest inductionHypothesis => exact inductionHypothesis before

end Phrase

/-! ## Spelling -/

/-- Two phrases that differ only in how their atoms are spelled. -/
inductive Phrase.Alike : Phrase → Phrase → Prop where
  | done : Alike .done .done
  | leaf {atom other : Leaf} {quantifier : Option Quantifier} {rest others : Phrase}
      (same : ∀ mode, atom.tree? mode = other.tree? mode)
      (behind : Alike rest others) :
      Alike (.leaf atom quantifier rest) (.leaf other quantifier others)
  | group {sign : GroupSign} {body inner : Phrase} {quantifier : Option Quantifier}
      {rest others : Phrase}
      (inside : Alike body inner)
      (behind : Alike rest others) :
      Alike (.group sign body quantifier rest) (.group sign inner quantifier others)
  | bar {rest others : Phrase}
      (behind : Alike rest others) :
      Alike (.bar rest) (.bar others)

namespace Phrase.Alike

theorem refl
    (phrase : Phrase) :
    phrase.Alike phrase := by
  induction phrase with
  | done => exact .done
  | leaf atom quantifier rest inductionHypothesis => exact .leaf (fun _ => rfl) inductionHypothesis
  | group sign body quantifier rest bodyHypothesis restHypothesis =>
      exact .group bodyHypothesis restHypothesis
  | bar rest inductionHypothesis => exact .bar inductionHypothesis

variable {left right : Phrase}

theorem append
    (alike : left.Alike right)
    {back other : Phrase}
    (behind : back.Alike other) :
    (left.append back).Alike (right.append other) := by
  induction alike with
  | done => exact behind
  | leaf same _ inductionHypothesis => exact .leaf same inductionHypothesis
  | group inside _ _ inductionHypothesis => exact .group inside inductionHypothesis
  | bar _ inductionHypothesis => exact .bar inductionHypothesis

theorem captures
    (alike : left.Alike right) :
    left.captures = right.captures := by
  induction alike with
  | done => rfl
  | leaf _ _ inductionHypothesis => exact inductionHypothesis
  | group _ _ insideHypothesis behindHypothesis =>
      rw [Phrase.captures, Phrase.captures, insideHypothesis, behindHypothesis]
  | bar _ inductionHypothesis => exact inductionHypothesis

theorem numbered
    (alike : left.Alike right)
    (before : Nat) :
    left.numbered before = right.numbered before := by
  induction alike generalizing before with
  | done => rfl
  | leaf _ _ inductionHypothesis => exact inductionHypothesis before
  | group inside _ insideHypothesis behindHypothesis =>
      rw [Phrase.numbered, Phrase.numbered, insideHypothesis, behindHypothesis, inside.captures]
  | bar _ inductionHypothesis => exact inductionHypothesis before

theorem trees
    (alike : left.Alike right)
    (mode : Mode)
    (before : Nat) :
    left.trees mode before = right.trees mode before := by
  induction alike generalizing mode before with
  | done => rfl
  | leaf same _ inductionHypothesis =>
      rw [Phrase.trees, Phrase.trees, same, inductionHypothesis]
  | group inside _ insideHypothesis behindHypothesis =>
      rw [Phrase.trees, Phrase.trees, insideHypothesis, behindHypothesis, inside.captures]
  | bar _ inductionHypothesis => rw [Phrase.trees, Phrase.trees, inductionHypothesis]

end Phrase.Alike

end Pattern
end LineExtraction

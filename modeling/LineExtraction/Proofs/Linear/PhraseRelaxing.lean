import LineExtraction.Linear.Regex
import LineExtraction.Proofs.Linear.Bounds
import LineExtraction.Proofs.Linear.PhraseReading
import LineExtraction.Proofs.Pattern.Relaxing

/-!
# Relaxed phrases in the linear dialect

A phrase of the linear dialect and the phrase that it is relaxed to differ only in which groups
capture.  So the relaxed phrase is well-formed whenever the phrase is.
-/

namespace LineExtraction
namespace Linear

open Pattern (Leaf Quantifier GroupSign Phrase Alternatives)

namespace Ast

theorem depth_erase
    (ast : Ast) :
    ast.erase.depth = ast.depth := by
  induction ast with
  | repetition count body inductionHypothesis => simp only [erase, depth, inductionHypothesis]
  | group kind body inductionHypothesis =>
      cases kind <;> simp only [erase, depth, inductionHypothesis]
  | concat first rest firstHypothesis restHypothesis =>
      cases rest with
      | group kind body =>
          cases kind <;> simp_all only [erase, depth]
      | _ => simp_all only [erase, depth]
  | alternation first rest firstHypothesis restHypothesis =>
      cases rest with
      | group kind body =>
          cases kind <;> simp_all only [erase, depth]
      | _ => simp_all only [erase, depth]
  | _ => rfl

theorem erase_ofParts
    (parts : List Ast) :
    (ofParts parts).erase = ofParts (parts.map erase) := by
  induction parts with
  | nil => rfl
  | cons part parts inductionHypothesis =>
      cases parts with
      | nil => rfl
      | cons other others =>
          exact congrArg (concat part.erase) inductionHypothesis

theorem erase_ofBranches
    (branches : List Ast) :
    (ofBranches branches).erase = ofBranches (branches.map erase) := by
  induction branches with
  | nil => rfl
  | cons branch branches inductionHypothesis =>
      cases branches with
      | nil => rfl
      | cons other others =>
          exact congrArg (alternation branch.erase) inductionHypothesis

end Ast

/-- Alternatives whose parts are the same without captures are the same without captures. -/
theorem erase_toAst
    {left right : Alternatives Ast}
    (same : left.map Ast.erase = right.map Ast.erase) :
    left.toAst.erase = right.toAst.erase := by
  have erased (given : Alternatives Ast) :
      given.toAst.erase = (given.map Ast.erase).toAst := by
    simp [Alternatives.toAst, Ast.erase_ofBranches, Alternatives.branches, Alternatives.map,
      Ast.erase_ofParts, Function.comp_def]
  rw [erased, erased, same]

theorem applied?_relaxed
    {quantifier : Option Quantifier}
    {part whole other : Ast}
    (applied : Quantifier.applied? quantifier part = some whole)
    (same : other.erase = part.erase) :
    ∃ again, Quantifier.applied? (quantifier.map Quantifier.relaxed) other = some again ∧
      again.erase = whole.erase := by
  cases quantifier with
  | none =>
      obtain rfl := Option.some.inj applied
      exact ⟨other, rfl, same⟩
  | some quantifier =>
      obtain ⟨count, counted, rfl⟩ := Option.map_eq_some_iff.mp applied
      exact ⟨.repetition count other, Option.map_eq_some_iff.mpr ⟨count, counted, rfl⟩,
        congrArg (Ast.repetition count) same⟩

/-- The group that stands for a group differs from it in what it captures. -/
theorem kind?_relaxed
    {sign : GroupSign}
    {before : Nat}
    {kind : GroupKind}
    (is : sign.kind? before = some kind)
    (after : Nat)
    {body other : Ast}
    (same : other.erase = body.erase) :
    ∃ again, sign.relaxed.kind? after = some again ∧
      (Ast.group again other).erase = (Ast.group kind body).erase := by
  cases sign with
  | atomic => cases is
  | look behind negative => cases is
  | _ =>
      obtain rfl := Option.some.inj is
      exact ⟨_, rfl, congrArg (Ast.group _) same⟩

theorem captures_relaxed
    (sign : GroupSign) :
    sign.relaxed.captures = 0 := by
  cases sign <;> rfl

/-- A phrase that is read in the linear dialect is read when it is relaxed, as the same but
for captures. -/
theorem exists_linear_relaxed
    {phrase : Phrase}
    {before : Nat}
    {parts : Alternatives Ast}
    (read : phrase.linear before = some parts)
    (after : Nat) :
    ∃ others, phrase.relaxed.linear after = some others ∧
      others.map Ast.erase = parts.map Ast.erase := by
  induction phrase generalizing before after parts with
  | done =>
      obtain rfl := Option.some.inj read
      exact ⟨.nothing, rfl, rfl⟩
  | leaf atom quantifier rest inductionHypothesis =>
      obtain ⟨part, own, whole, applied, others, remaining, rfl⟩ := linear_leaf_iff.mp read
      obtain ⟨again, appliedAgain, same⟩ := applied?_relaxed applied (Eq.refl part.erase)
      obtain ⟨relaxed, remainingRelaxed, sameOthers⟩ := inductionHypothesis remaining after
      have copied : ¬ atom.isReference := by
        cases atom with
        | reference keyed name => cases own
        | _ => exact Bool.false_ne_true
      refine ⟨relaxed.cons again, ?_, ?_⟩
      · rw [Phrase.relaxed, if_neg copied]
        exact linear_leaf_iff.mpr ⟨part, own, again, appliedAgain, relaxed, remainingRelaxed, rfl⟩
      · rw [Alternatives.map_cons, Alternatives.map_cons, same, sameOthers]
  | group sign body quantifier rest bodyHypothesis restHypothesis =>
      obtain ⟨kind, is, inner, bodyRead, whole, applied, others, remaining, rfl⟩ :=
        linear_group_iff.mp read
      obtain ⟨innerRelaxed, bodyRelaxed, sameInner⟩ := bodyHypothesis bodyRead after
      obtain ⟨again, isAgain, sameGroup⟩ := kind?_relaxed is after (erase_toAst sameInner)
      obtain ⟨wholeAgain, appliedAgain, same⟩ := applied?_relaxed applied sameGroup
      obtain ⟨relaxed, remainingRelaxed, sameOthers⟩ :=
        restHypothesis remaining (after + body.relaxed.captures)
      have stays : ¬ sign.isLook := by
        cases sign with
        | look behind negative => cases is
        | _ => exact Bool.false_ne_true
      refine ⟨relaxed.cons wholeAgain, ?_, ?_⟩
      · rw [Phrase.relaxed, if_neg stays]
        refine linear_group_iff.mpr ⟨again, isAgain, innerRelaxed, ?_, wholeAgain, appliedAgain,
          relaxed, ?_, rfl⟩
        · rw [captures_relaxed]
          exact bodyRelaxed
        · rw [captures_relaxed]
          exact remainingRelaxed
      · rw [Alternatives.map_cons, Alternatives.map_cons, same, sameOthers]
  | bar rest inductionHypothesis =>
      obtain ⟨others, remaining, rfl⟩ := linear_bar_iff.mp read
      obtain ⟨relaxed, remainingRelaxed, same⟩ := inductionHypothesis remaining after
      refine ⟨relaxed.bar, linear_bar_iff.mpr ⟨relaxed, remainingRelaxed, rfl⟩, ?_⟩
      exact congrArg Alternatives.bar same

end Linear

/-- The relaxed text of a phrase that is well-formed in the linear dialect is well-formed
too. -/
theorem Linear.exists_treeOf_relaxed
    {phrase : Pattern.Phrase}
    (valid : phrase.isValid)
    (common : phrase.isCommon)
    {pattern relaxed : String}
    (text : pattern.toList = phrase.text)
    (relaxedText : relaxed.toList = phrase.relaxed.text)
    {tree : Tree}
    (found : Regex.treeOf pattern = .ok tree) :
    ∃ other, Regex.treeOf relaxed = .ok other := by
  obtain ⟨ast, parsed, found⟩ := Except.bind_eq_ok_iff.mp found
  obtain ⟨lowered, lowers, -⟩ := Except.bind_eq_ok_iff.mp found
  have bounded := bounded_parse parsed
  rw [text] at parsed
  obtain ⟨-, parts, read, rfl, shallow⟩ := (parse_phrase_eq_ok_iff valid common).mp parsed
  obtain ⟨others, relaxedRead, same⟩ := exists_linear_relaxed read 0
  have sameAst := erase_toAst same
  have relaxedParsed : parse relaxed.toList = .ok others.toAst := by
    rw [relaxedText]
    refine (parse_phrase_eq_ok_iff (Pattern.Phrase.isValid_relaxed valid)
      phrase.isCommon_relaxed).mpr ⟨?_, others, relaxedRead, rfl, ?_⟩
    · rw [phrase.names_relaxed]
      exact List.nodup_nil
    · rw [← Ast.depth_erase, sameAst, Ast.depth_erase]
      exact shallow
  obtain ⟨other, otherLowers, -⟩ :=
    lower_of_erase_eq sameAst.symm bounded (bounded_parse relaxedParsed) lowers
  exact ⟨other.tree, Except.bind_eq_ok_iff.mpr ⟨others.toAst, relaxedParsed,
    Except.bind_eq_ok_iff.mpr ⟨other, otherLowers, rfl⟩⟩⟩

end LineExtraction

import LineExtraction.Linear.Lowering
import LineExtraction.Proofs.Outcome
import LineExtraction.Proofs.Unicode.NamedSet

/-!
# Classes lower to ordered sets

Whatever a class is made of, named, written out or combined, and whatever flags it is
read under, its members are kept in the form that the operations on sets rely on.
-/

namespace LineExtraction
namespace Linear

open Unicode (CodePointSet CodePointRange)
open Unicode.CodePointSet

theorem AsciiClass.ordered_members
    (kind : AsciiClass) :
    kind.members.Ordered := by
  cases kind <;> exact ordered_ofRanges _ (by decide)

theorem PerlClass.ordered_members
    (kind : PerlClass)
    (unicode : Bool) :
    (kind.members unicode).Ordered := by
  cases kind <;> cases unicode
  case digit.true => exact Unicode.ordered_digitSet
  case space.true => exact Unicode.ordered_spaceSet
  case word.true => exact Unicode.ordered_wordSet
  case digit.false => exact AsciiClass.digit.ordered_members
  case space.false => exact AsciiClass.space.ordered_members
  case word.false => exact AsciiClass.word.ordered_members

theorem ClassQuery.ordered_members
    {query : ClassQuery}
    {set : CodePointSet}
    (found : query.members = .ok set) :
    set.Ordered := by
  cases query with
  | named name => exact Unicode.ordered_classNamed (Except.mapError_eq_ok_iff.mp found)
  | valued property value => exact Unicode.ordered_classValued (Except.mapError_eq_ok_iff.mp found)

theorem ordered_foldedBy
    (flags : Flags)
    {set : CodePointSet}
    (ordered : set.Ordered) :
    (foldedBy flags set).Ordered := by
  rw [foldedBy]
  split
  · split
    · exact ordered.foldCase
    · exact ordered.foldAsciiCase
  · exact ordered

theorem ordered_negatedBy
    {flags : Flags}
    {negated : Bool}
    {set result : CodePointSet}
    (ordered : set.Ordered)
    (found : negatedBy flags negated set = .ok result) :
    result.Ordered := by
  have either : (if negated then set.complement else set).Ordered := by
    split
    · exact ordered.complement
    · exact ordered
  unfold negatedBy at found
  dsimp only at found
  generalize (if negated then set.complement else set) = whole at found either
  split at found
  · exact Except.ok.inj found ▸ either
  · exact nomatch found

theorem ordered_perlSet
    {flags : Flags}
    {negated : Bool}
    {kind : PerlClass}
    {set : CodePointSet}
    (found : perlSet flags negated kind = .ok set) :
    set.Ordered :=
  ordered_negatedBy (kind.ordered_members _) found

theorem ordered_unicodeSet
    {flags : Flags}
    {negated : Bool}
    {query : ClassQuery}
    {set : CodePointSet}
    (found : unicodeSet flags negated query = .ok set) :
    set.Ordered := by
  rw [unicodeSet] at found
  split at found
  · cases members : query.members with
    | error cause =>
        rw [members] at found
        exact nomatch found
    | ok asked =>
        rw [members] at found
        exact ordered_negatedBy (ordered_foldedBy flags (ClassQuery.ordered_members members)) found
  · exact nomatch found

theorem memberChar_le
    {flags : Flags}
    {literal : Literal}
    {code : Nat}
    (found : memberChar flags literal = .ok code) :
    code ≤ CodePointRange.maximum := by
  have bounded (char : Char) : char.toNat ≤ CodePointRange.maximum := by
    have valid := char.valid
    simp only [UInt32.isValidChar, Nat.isValidChar] at valid
    show char.val.toNat ≤ 0x10FFFF
    omega
  rw [memberChar] at found
  cases read : literalChar flags literal with
  | error cause =>
      rw [read] at found
      cases found
  | ok char =>
      simp only [read, bind, Except.bind, pure, Except.pure] at found
      split at found
      · cases found
      · obtain rfl := Except.ok.inj found
        exact bounded char

/-- The members of the body of a bracket class are ordered. -/
theorem ClassSet.ordered_members
    {flags : Flags}
    {body : ClassSet}
    {set : CodePointSet}
    (found : body.members flags = .ok set) :
    set.Ordered := by
  induction body generalizing set with
  | empty =>
      obtain rfl := Except.ok.inj found
      exact ordered_empty
  | literal literal =>
      obtain ⟨code, read, same⟩ := Except.bind_eq_ok_iff.mp found
      obtain rfl := Except.ok.inj same
      exact ordered_ofRange _ _ (memberChar_le read)
  | range first last =>
      obtain ⟨low, -, found⟩ := Except.bind_eq_ok_iff.mp found
      obtain ⟨high, highRead, same⟩ := Except.bind_eq_ok_iff.mp found
      obtain rfl := Except.ok.inj same
      exact ordered_ofRange _ _ (memberChar_le highRead)
  | ascii negated kind =>
      exact ordered_negatedBy (ordered_foldedBy flags kind.ordered_members) found
  | perl negated kind => exact ordered_perlSet found
  | unicode negated query => exact ordered_unicodeSet found
  | bracketed negated body inductionHypothesis =>
      obtain ⟨inner, innerFound, found⟩ := Except.bind_eq_ok_iff.mp found
      exact ordered_negatedBy (ordered_foldedBy flags (inductionHypothesis innerFound)) found
  | union first rest firstHypothesis restHypothesis =>
      obtain ⟨left, leftFound, found⟩ := Except.bind_eq_ok_iff.mp found
      obtain ⟨right, rightFound, same⟩ := Except.bind_eq_ok_iff.mp found
      obtain rfl := Except.ok.inj same
      exact (firstHypothesis leftFound).union (restHypothesis rightFound)
  | operation operator left right leftHypothesis rightHypothesis =>
      obtain ⟨leftSet, leftFound, found⟩ := Except.bind_eq_ok_iff.mp found
      obtain ⟨rightSet, rightFound, same⟩ := Except.bind_eq_ok_iff.mp found
      obtain rfl := Except.ok.inj same
      have leftOrdered := ordered_foldedBy flags (leftHypothesis leftFound)
      have rightOrdered := ordered_foldedBy flags (rightHypothesis rightFound)
      cases operator with
      | intersection => exact leftOrdered.inter rightOrdered
      | difference => exact leftOrdered.difference rightOrdered
      | symmetricDifference => exact leftOrdered.symmetricDifference rightOrdered

theorem ordered_dotSet
    {flags : Flags}
    {set : CodePointSet}
    (found : dotSet flags = .ok set) :
    set.Ordered := by
  rw [dotSet] at found
  split at found
  · exact nomatch found
  · split at found
    · obtain rfl := Except.ok.inj found
      exact ordered_empty.complement
    · split at found
      · obtain rfl := Except.ok.inj found
        exact (ordered_ofRanges _ (by decide)).complement
      · obtain rfl := Except.ok.inj found
        exact (ordered_singleton '\n').complement

end Linear
end LineExtraction

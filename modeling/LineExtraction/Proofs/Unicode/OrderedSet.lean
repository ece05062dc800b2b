import LineExtraction.Unicode.CaseFolding

/-!
# Ordered sets of code points

Sets are kept as ranges of scalar values with a gap between any two.  Every operation
keeps that form, and on sets in that form each of them has the members that its name
says.
-/

namespace LineExtraction
namespace Unicode

/-! ## Lists of ranges -/

/-- Whether one of the ranges holds the code point. -/
def Holds (ranges : List CodePointRange) (codePoint : Nat) : Prop :=
  ∃ range ∈ ranges, range.first ≤ codePoint ∧ codePoint ≤ range.last

theorem holds_cons
    (range : CodePointRange)
    (ranges : List CodePointRange)
    (codePoint : Nat) :
    Holds (range :: ranges) codePoint ↔
      (range.first ≤ codePoint ∧ codePoint ≤ range.last) ∨ Holds ranges codePoint := by
  simp only [Holds, List.mem_cons, exists_eq_or_imp]

/-- Ranges that are not empty, in ascending order and with a gap between any two. -/
structure Apart (ranges : List CodePointRange) : Prop where
  /-- There is a gap between any two ranges. -/
  gap : ranges.Pairwise fun left right => left.last + 1 < right.first
  /-- No range is empty. -/
  proper : ∀ range ∈ ranges, range.first ≤ range.last

theorem Apart.tail
    {range : CodePointRange}
    {ranges : List CodePointRange}
    (apart : Apart (range :: ranges)) :
    Apart ranges where
  gap := (List.pairwise_cons.mp apart.gap).2
  proper other member := apart.proper other (List.mem_cons_of_mem _ member)

namespace CodePointSet

theorem contains_iff
    (set : CodePointSet)
    (codePoint : Nat) :
    set.contains codePoint = true ↔ Holds set.ranges codePoint := by
  simp only [contains, List.any_eq_true, CodePointRange.contains, Holds, decide_eq_true_eq]

/-! ## Joining -/

/-- Joining ascending ranges leaves gaps and changes no member. -/
theorem joinInto_apart
    (current : CodePointRange)
    (rest : List CodePointRange)
    (proper : ∀ range ∈ current :: rest, range.first ≤ range.last)
    (ascending : (current :: rest).Pairwise fun left right => left.first ≤ right.first) :
    Apart (joinInto current rest) ∧
      (∀ range ∈ joinInto current rest, current.first ≤ range.first) ∧
      ∀ codePoint, Holds (joinInto current rest) codePoint ↔ Holds (current :: rest) codePoint := by
  induction rest generalizing current with
  | nil =>
      refine ⟨⟨List.pairwise_singleton _ _, proper⟩, fun range member => ?_, fun _ => Iff.rfl⟩
      obtain rfl := List.mem_singleton.mp member
      exact Nat.le_refl _
  | cons next rest inductionHypothesis =>
      obtain ⟨above, restAscending⟩ := List.pairwise_cons.mp ascending
      have currentProper := proper current List.mem_cons_self
      have nextAbove := above next List.mem_cons_self
      rw [joinInto]
      split
      · next touches =>
          obtain ⟨apart, low, members⟩ := inductionHypothesis
            ⟨current.first, max current.last next.last⟩
            (by
              intro range member
              rcases List.mem_cons.mp member with rfl | later
              · exact Nat.le_trans currentProper (Nat.le_max_left _ _)
              · exact proper range (by simp [later]))
            (by
              refine List.pairwise_cons.mpr
                ⟨fun range member => above range (List.mem_cons_of_mem _ member), ?_⟩
              exact (List.pairwise_cons.mp restAscending).2)
          refine ⟨apart, low, fun codePoint => (members codePoint).trans ?_⟩
          simp only [holds_cons]
          constructor
          · rintro (⟨fromFirst, toLast⟩ | later)
            · by_cases below : codePoint ≤ current.last
              · exact .inl ⟨fromFirst, below⟩
              · exact .inr (.inl ⟨by omega, by omega⟩)
            · exact .inr (.inr later)
          · rintro (⟨fromFirst, toLast⟩ | ⟨fromFirst, toLast⟩ | later)
            · exact .inl ⟨fromFirst, by omega⟩
            · exact .inl ⟨Nat.le_trans nextAbove fromFirst, by omega⟩
            · exact .inr later
      · next separate =>
          obtain ⟨apart, low, members⟩ := inductionHypothesis next
            (fun range member => proper range (List.mem_cons_of_mem _ member)) restAscending
          refine ⟨⟨List.pairwise_cons.mpr ⟨fun range member => ?_, apart.gap⟩, ?_⟩, ?_, ?_⟩
          · have := low range member
            omega
          · intro range member
            rcases List.mem_cons.mp member with rfl | later
            · exact currentProper
            · exact apart.proper range later
          · intro range member
            rcases List.mem_cons.mp member with rfl | later
            · exact Nat.le_refl _
            · exact Nat.le_trans nextAbove (low range later)
          · intro codePoint
            rw [holds_cons, members, ← holds_cons]

theorem join_apart
    {ranges : List CodePointRange}
    (proper : ∀ range ∈ ranges, range.first ≤ range.last)
    (ascending : ranges.Pairwise fun left right => startsBefore left right) :
    Apart (join ranges) ∧ ∀ codePoint, Holds (join ranges) codePoint ↔ Holds ranges codePoint := by
  cases ranges with
  | nil => exact ⟨⟨List.Pairwise.nil, nofun⟩, fun _ => Iff.rfl⟩
  | cons first rest =>
      have ascending : (first :: rest).Pairwise fun left right => left.first ≤ right.first :=
        ascending.imp (by simp [startsBefore])
      obtain ⟨apart, -, members⟩ := joinInto_apart first rest proper ascending
      exact ⟨apart, members⟩

theorem startsBefore_trans
    (first second third : CodePointRange)
    (front : startsBefore first second = true)
    (back : startsBefore second third = true) :
    startsBefore first third = true := by
  simp only [startsBefore, decide_eq_true_eq] at *
  omega

theorem startsBefore_total
    (first second : CodePointRange) :
    (startsBefore first second || startsBefore second first) = true := by
  simp only [startsBefore, Bool.or_eq_true, decide_eq_true_eq]
  omega

/-! ## The form of sets -/

/-- The form in which sets are kept: ranges of scalar values with a gap between any two. -/
structure Ordered (set : CodePointSet) : Prop where
  /-- The ranges come in ascending order with a gap between any two. -/
  apart : Apart set.ranges
  /-- The members are scalar values. -/
  valid : ∀ codePoint, set.contains codePoint = true → codePoint.isValidChar

/-- Ranges with gaps between them, and their first members, in ascending order. -/
theorem Apart.ascending
    {ranges : List CodePointRange}
    (apart : Apart ranges) :
    ranges.Pairwise fun left right => startsBefore left right = true := by
  induction ranges with
  | nil => exact List.Pairwise.nil
  | cons first rest inductionHypothesis =>
      refine List.pairwise_cons.mpr ⟨fun range member => ?_, inductionHypothesis apart.tail⟩
      have := (List.pairwise_cons.mp apart.gap).1 range member
      have := apart.proper first List.mem_cons_self
      simp only [startsBefore, decide_eq_true_eq]
      omega

theorem union_apart
    {left right : CodePointSet}
    (leftApart : Apart left.ranges)
    (rightApart : Apart right.ranges) :
    Apart (left.union right).ranges ∧
      ∀ codePoint, (left.union right).contains codePoint = true ↔
        left.contains codePoint = true ∨ right.contains codePoint = true := by
  have proper : ∀ range ∈ left.ranges.merge right.ranges startsBefore,
      range.first ≤ range.last := by
    intro range member
    rcases List.mem_merge.mp member with inLeft | inRight
    · exact leftApart.proper range inLeft
    · exact rightApart.proper range inRight
  obtain ⟨apart, members⟩ := join_apart proper
    (List.pairwise_merge startsBefore_trans startsBefore_total _ _
      (Apart.ascending leftApart) (Apart.ascending rightApart))
  refine ⟨apart, fun codePoint => ?_⟩
  rw [contains_iff, contains_iff, contains_iff]
  refine (members codePoint).trans ?_
  simp only [Holds, List.mem_merge, or_and_right, exists_or]

theorem Ordered.union
    {left right : CodePointSet}
    (leftOrdered : left.Ordered)
    (rightOrdered : right.Ordered) :
    (left.union right).Ordered := by
  obtain ⟨apart, members⟩ := union_apart leftOrdered.apart rightOrdered.apart
  refine ⟨apart, fun codePoint member => ?_⟩
  exact ((members codePoint).mp member).elim (leftOrdered.valid _) (rightOrdered.valid _)

theorem Ordered.contains_union
    {left right : CodePointSet}
    (leftOrdered : left.Ordered)
    (rightOrdered : right.Ordered)
    (codePoint : Nat) :
    (left.union right).contains codePoint = true ↔
      left.contains codePoint = true ∨ right.contains codePoint = true :=
  (union_apart leftOrdered.apart rightOrdered.apart).2 codePoint

/-! ## Complements -/

/-- What lies between ascending ranges is what lies in none of them. -/
theorem gaps_apart
    (start : Nat)
    (ranges : List CodePointRange)
    (apart : Apart ranges)
    (inside : ∀ range ∈ ranges, start ≤ range.first ∧ range.first ≤ CodePointRange.maximum) :
    Apart (gaps start ranges) ∧
      (∀ range ∈ gaps start ranges, start ≤ range.first) ∧
      ∀ codePoint, Holds (gaps start ranges) codePoint ↔
        start ≤ codePoint ∧ codePoint ≤ CodePointRange.maximum ∧ ¬ Holds ranges codePoint := by
  induction ranges generalizing start with
  | nil =>
      rw [gaps]
      split
      · next room =>
          refine ⟨⟨List.pairwise_singleton _ _, ?_⟩, ?_, fun codePoint => ?_⟩
          · intro range member
            rw [List.mem_singleton.mp member]
            exact room
          · intro range member
            obtain rfl := List.mem_singleton.mp member
            exact Nat.le_refl _
          · simp [Holds]
      · next full =>
          refine ⟨⟨List.Pairwise.nil, nofun⟩, nofun, fun codePoint => ?_⟩
          simp only [Holds, List.not_mem_nil, false_and, exists_false, not_false_eq_true, and_true,
            false_iff]
          omega
  | cons range rest inductionHypothesis =>
      obtain ⟨startBelow, bounded⟩ := inside range List.mem_cons_self
      have proper := apart.proper range List.mem_cons_self
      have above := (List.pairwise_cons.mp apart.gap).1
      obtain ⟨restApart, restLow, restMembers⟩ :=
        inductionHypothesis (range.last + 1) apart.tail fun other member =>
          ⟨Nat.le_of_lt (above other member), (inside other (List.mem_cons_of_mem _ member)).2⟩
      have restAbove (codePoint : Nat) (member : Holds rest codePoint) :
          range.last < codePoint := by
        obtain ⟨other, listed, low, -⟩ := member
        have := above other listed
        omega
      rw [gaps]
      split
      · next room =>
          refine ⟨⟨List.pairwise_cons.mpr ⟨fun other member => ?_, restApart.gap⟩, ?_⟩, ?_, ?_⟩
          · have := restLow other member
            show range.first - 1 + 1 < other.first
            omega
          · intro other member
            rcases List.mem_cons.mp member with rfl | later
            · show start ≤ range.first - 1
              omega
            · exact restApart.proper other later
          · intro other member
            rcases List.mem_cons.mp member with rfl | later
            · exact Nat.le_refl _
            · have := restLow other later
              omega
          · intro codePoint
            simp only [holds_cons, restMembers, not_or]
            constructor
            · rintro (⟨low, high⟩ | ⟨low, high, outside⟩)
              · refine ⟨low, by omega, by omega, fun member => ?_⟩
                have := restAbove codePoint member
                omega
              · exact ⟨by omega, high, by omega, outside⟩
            · rintro ⟨low, high, notHere, outside⟩
              by_cases before : codePoint < range.first
              · exact .inl ⟨low, by omega⟩
              · exact .inr ⟨by omega, high, outside⟩
      · next tight =>
          refine ⟨restApart, fun other member => ?_, fun codePoint => ?_⟩
          · have := restLow other member
            omega
          · simp only [holds_cons, restMembers, not_or]
            constructor
            · rintro ⟨low, high, outside⟩
              exact ⟨by omega, high, by omega, outside⟩
            · rintro ⟨low, high, notHere, outside⟩
              exact ⟨by omega, high, outside⟩

/-- The surrogate block alone, which is a list of ranges but no set. -/
theorem surrogates_apart : Apart [CodePointRange.surrogates] :=
  ⟨List.pairwise_singleton _ _, by decide⟩

theorem complement_members
    {set : CodePointSet}
    (ordered : set.Ordered) :
    Apart set.complement.ranges ∧
      ∀ codePoint, set.complement.contains codePoint = true ↔
        codePoint.isValidChar ∧ set.contains codePoint = false := by
  obtain ⟨apart, members⟩ := union_apart ordered.apart
    (show Apart (CodePointSet.mk [CodePointRange.surrogates]).ranges from surrogates_apart)
  have surrogate (codePoint : Nat) :
      (CodePointSet.mk [CodePointRange.surrogates]).contains codePoint = true ↔
        0xD800 ≤ codePoint ∧ codePoint ≤ 0xDFFF := by
    simp [contains, CodePointRange.contains, CodePointRange.surrogates]
  obtain ⟨gapsApart, -, gapsMembers⟩ := gaps_apart 0 _ apart (by
    intro range member
    have here := (members range.first).mp
      ((contains_iff _ _).mpr ⟨range, member, Nat.le_refl _, apart.proper range member⟩)
    refine ⟨Nat.zero_le _, ?_⟩
    rcases here with inSet | inBlock
    · have := ordered.valid _ inSet
      simp only [Nat.isValidChar, CodePointRange.maximum] at this ⊢
      omega
    · have := (surrogate _).mp inBlock
      simp only [CodePointRange.maximum]
      omega)
  refine ⟨gapsApart, fun codePoint => ?_⟩
  rw [contains_iff]
  refine (gapsMembers codePoint).trans ?_
  rw [← contains_iff, members, surrogate, Nat.isValidChar]
  simp only [CodePointRange.maximum, not_or, Bool.not_eq_true]
  constructor
  · rintro ⟨-, high, outside, notSurrogate⟩
    exact ⟨by omega, outside⟩
  · rintro ⟨valid, outside⟩
    exact ⟨Nat.zero_le _, by omega, outside, by omega⟩

theorem Ordered.complement
    {set : CodePointSet}
    (ordered : set.Ordered) :
    set.complement.Ordered where
  apart := (complement_members ordered).1
  valid codePoint member := (((complement_members ordered).2 codePoint).mp member).1

/-! ## Other operations -/

theorem Ordered.inter
    {left right : CodePointSet}
    (leftOrdered : left.Ordered)
    (rightOrdered : right.Ordered) :
    (left.inter right).Ordered :=
  (leftOrdered.complement.union rightOrdered.complement).complement

theorem Ordered.contains_inter
    {left right : CodePointSet}
    (leftOrdered : left.Ordered)
    (rightOrdered : right.Ordered)
    (codePoint : Nat) :
    (left.inter right).contains codePoint = true ↔
      left.contains codePoint = true ∧ right.contains codePoint = true := by
  have joined := leftOrdered.complement.union rightOrdered.complement
  rw [CodePointSet.inter, (complement_members joined).2, ← Bool.not_eq_true,
    leftOrdered.complement.contains_union rightOrdered.complement,
    (complement_members leftOrdered).2, (complement_members rightOrdered).2]
  constructor
  · rintro ⟨valid, neither⟩
    constructor
    · cases inLeft : left.contains codePoint with
      | true => rfl
      | false => exact absurd (Or.inl ⟨valid, inLeft⟩) neither
    · cases inRight : right.contains codePoint with
      | true => rfl
      | false => exact absurd (Or.inr ⟨valid, inRight⟩) neither
  · rintro ⟨inLeft, inRight⟩
    refine ⟨leftOrdered.valid _ inLeft, ?_⟩
    rintro (⟨-, outside⟩ | ⟨-, outside⟩)
    · exact absurd (inLeft.symm.trans outside) nofun
    · exact absurd (inRight.symm.trans outside) nofun

theorem Ordered.difference
    {left right : CodePointSet}
    (leftOrdered : left.Ordered)
    (rightOrdered : right.Ordered) :
    (left.difference right).Ordered :=
  (leftOrdered.complement.union rightOrdered).complement

theorem Ordered.symmetricDifference
    {left right : CodePointSet}
    (leftOrdered : left.Ordered)
    (rightOrdered : right.Ordered) :
    (left.symmetricDifference right).Ordered :=
  (leftOrdered.difference rightOrdered).union (rightOrdered.difference leftOrdered)

theorem ordered_empty : empty.Ordered where
  apart := ⟨List.Pairwise.nil, nofun⟩
  valid _ member := absurd member (by simp [contains, empty])

/-- What is left of a range on both sides of the surrogate block holds only scalar
values. -/
theorem isValidChar_of_mem_scalars
    (range : CodePointRange)
    {part : CodePointRange}
    {codePoint : Nat}
    (bounded : range.last ≤ CodePointRange.maximum)
    (member : part ∈ range.scalars)
    (inside : part.first ≤ codePoint ∧ codePoint ≤ part.last) :
    codePoint.isValidChar := by
  simp only [CodePointRange.scalars, CodePointRange.surrogates, List.mem_filter, List.mem_cons,
    List.not_mem_nil, or_false] at member
  simp only [CodePointRange.maximum] at bounded
  rw [Nat.isValidChar]
  rcases member with ⟨rfl | rfl, -⟩
  · simp only at inside
    omega
  · simp only at inside
    omega

theorem ordered_ofRange
    (first last : Nat)
    (bounded : last ≤ CodePointRange.maximum) :
    (ofRange first last).Ordered where
  apart := by
    constructor
    · refine List.Pairwise.filter _ ?_
      simp only [CodePointRange.surrogates, List.pairwise_cons, List.mem_singleton, forall_eq]
      exact ⟨by omega, nofun, List.Pairwise.nil⟩
    · intro range member
      exact of_decide_eq_true (List.mem_filter.mp member).2
  valid codePoint member := by
    obtain ⟨part, listed, inside⟩ := (contains_iff _ _).mp member
    exact isValidChar_of_mem_scalars ⟨first, last⟩ bounded listed inside

theorem ordered_singleton
    (char : Char) :
    (singleton char).Ordered where
  apart := ⟨List.pairwise_singleton _ _, by simp [singleton]⟩
  valid codePoint member := by
    obtain ⟨range, listed, low, high⟩ := (contains_iff _ _).mp member
    obtain rfl := List.mem_singleton.mp listed
    obtain rfl : codePoint = char.toNat := Nat.le_antisymm high low
    exact char.valid

theorem ordered_ofRanges
    (ranges : List CodePointRange)
    (bounded : ∀ range ∈ ranges, range.last ≤ CodePointRange.maximum) :
    (ofRanges ranges).Ordered := by
  have proper : ∀ range ∈ (ranges.flatMap CodePointRange.scalars).mergeSort startsBefore,
      range.first ≤ range.last := by
    intro range member
    obtain ⟨whole, -, listed⟩ := List.mem_flatMap.mp (List.mem_mergeSort.mp member)
    exact of_decide_eq_true (List.mem_filter.mp listed).2
  obtain ⟨apart, members⟩ := join_apart proper
    (List.pairwise_mergeSort startsBefore_trans startsBefore_total _)
  refine ⟨apart, fun codePoint member => ?_⟩
  obtain ⟨range, listed, inside⟩ := (members codePoint).mp ((contains_iff _ _).mp member)
  obtain ⟨whole, wholeListed, listed⟩ := List.mem_flatMap.mp (List.mem_mergeSort.mp listed)
  exact isValidChar_of_mem_scalars whole (bounded whole wholeListed) listed inside

/-- The only member of a set is its only member. -/
theorem Ordered.containsChar_of_onlyMember?
    {set : CodePointSet}
    (ordered : set.Ordered)
    {only : Char}
    (found : set.onlyMember? = some only)
    (char : Char) :
    set.containsChar char = true ↔ char = only := by
  rw [onlyMember?] at found
  split at found
  · next range ranges =>
      split at found
      · next single =>
          obtain rfl := Option.some.inj found
          have member : set.contains range.first = true :=
            (contains_iff _ _).mpr
              ⟨range, by simp [ranges], Nat.le_refl _, Nat.le_of_eq single⟩
          have valid := ordered.valid _ member
          rw [containsChar, contains_iff]
          simp only [Holds, ranges, List.mem_singleton, exists_eq_left, ← single]
          constructor
          · rintro ⟨low, high⟩
            have same : char.toNat = range.first := Nat.le_antisymm high low
            rw [← same]
            exact (Char.ofNat_toNat char).symm
          · rintro rfl
            have same : (Char.ofNat range.first).toNat = range.first := by
              rw [Char.ofNat, dif_pos valid]
              rfl
            rw [same]
            exact ⟨Nat.le_refl _, Nat.le_refl _⟩
      · exact nomatch found
  · exact nomatch found

end CodePointSet
end Unicode
end LineExtraction

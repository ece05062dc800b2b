import LineExtraction.Pattern.GroupNames
import LineExtraction.Proofs.Pattern.Relaxing

/-!
# Scanning phrases for group names

The scan for group names sees exactly the names that the groups of a phrase have, in the order
in which the groups open.
-/

namespace LineExtraction
namespace Pattern

/-! ## Steps of the scan -/

/-- The characters at which the scan for group names does more than go on. -/
def nameMarks : List Char := ['\\', '[', '(']

theorem groupNamesOf_cons
    {char : Char}
    (plain : char ∉ nameMarks)
    (more : List Char) :
    groupNamesOf (char :: more) = groupNamesOf more := by
  have apart {other : Char} (member : other ∈ nameMarks) : char ≠ other := by
    rintro rfl
    exact plain member
  rw [groupNamesOf.eq_def]
  split
  · next same => cases same
  · next same => exact absurd (List.cons.inj same).1 (apart (by decide))
  · next same => exact absurd (List.cons.inj same).1 (apart (by decide))
  · next same => exact absurd (List.cons.inj same).1 (apart (by decide))
  · next same => exact absurd (List.cons.inj same).1 (apart (by decide))
  · next same => rw [(List.cons.inj same).2]

theorem groupNamesOf_lacking
    {text : List Char}
    (lacks : Lacks nameMarks text)
    (more : List Char) :
    groupNamesOf (text ++ more) = groupNamesOf more := by
  induction text with
  | nil => rfl
  | cons char text inductionHypothesis =>
      obtain ⟨plain, others⟩ := List.forall_mem_cons.mp lacks
      rw [List.cons_append, groupNamesOf_cons plain, inductionHypothesis others]

/-- A group in parentheses that asks for something but a name opens none. -/
theorem groupNamesOf_query
    (header : List Char)
    {more : List Char}
    (unnamed : groupNameStart? (header ++ more) = none)
    (lacks : Lacks nameMarks header) :
    groupNamesOf ('(' :: '?' :: (header ++ more)) = groupNamesOf more := by
  rw [groupNamesOf.eq_def]
  simp only
  split
  · next named found => cases unnamed.symm.trans found
  · exact groupNamesOf_lacking lacks more

/-- The name of a group is seen where it is given. -/
theorem groupNamesOf_named
    {name header more : List Char}
    (own : '>' ∉ name)
    (start : groupNameStart? header = some (name ++ '>' :: more)) :
    groupNamesOf ('(' :: '?' :: header) = name :: groupNamesOf more := by
  have apart : ∀ char ∈ name, char ≠ '>' := fun char member same => own (same ▸ member)
  have lacks : Lacks ['>'] name := fun char member same =>
    apart char member (List.mem_singleton.mp same)
  have cut := cutPast_lacking lacks more
  have whole : nameOf ⟨name ++ ['>'], more⟩ = name := by
    rw [nameOf, List.takeWhile_append_of_pos (by simpa using apart)]
    simp
  rw [groupNamesOf.eq_def]
  simp only
  split
  · next named found =>
      obtain rfl := Option.some.inj (start.symm.trans found)
      rw [cut, whole]
  · next found => cases start.symm.trans found

/-- A parenthesis without a question mark behind it names nothing. -/
theorem groupNamesOf_bare
    {more : List Char}
    (bare : more.head? ≠ some '?') :
    groupNamesOf ('(' :: more) = groupNamesOf more := by
  rw [groupNamesOf.eq_def]
  split
  · next same => cases same
  · next same => cases same
  · next same => cases same
  · next same => cases same
  · next rest same => exact absurd (congrArg List.head? (List.cons.inj same).2) bare
  · next same => rw [(List.cons.inj same).2]

/-! ## Atoms -/

/-- An atom names no group. -/
theorem groupNamesOf_leaf
    {atom : Leaf}
    (valid : atom.isValid)
    (more : List Char) :
    groupNamesOf (atom.text ++ more) = groupNamesOf more := by
  have fewer : nameMarks ⊆ scanned := by decide
  obtain ⟨char, plain, text⟩ | ⟨letter, rest, text, lacks⟩ | ⟨set, own, rfl⟩ | ⟨name, named, rfl⟩ :=
    atom.text_cases valid
  · have subset : nameMarks ⊆ ['\\', '[', '(', ')', '\x7b', '+', '*', '?'] := by decide
    rw [text, List.singleton_append, groupNamesOf_cons fun taken => plain (subset taken)]
  · rw [text, List.cons_append, List.cons_append, groupNamesOf, groupNamesOf_lacking (lacks.mono fewer)]
  · rw [Leaf.text, Bracket.text, List.cons_append, groupNamesOf, cutClass_body own]
  · have lacks : Lacks nameMarks ('P' :: '=' :: name) :=
      lacks_append_iff.mpr ⟨(by decide : Lacks nameMarks ['P', '=']),
        (lacks_of_isGroupName named).mono (by decide)⟩
    have text : (Leaf.reference false name).text ++ more =
        '(' :: '?' :: ('P' :: '=' :: name ++ ')' :: more) := by
      simp [Leaf.text]
    rw [text, groupNamesOf_query _ rfl lacks, groupNamesOf_cons (by decide)]

/-! ## Groups -/

/-- The opening of a group is seen with the name that it gives. -/
theorem groupNamesOf_sign
    {sign : GroupSign}
    (valid : sign.isValid)
    {more : List Char}
    (clear : isClear more) :
    groupNamesOf (sign.text ++ more) = sign.names ++ groupNamesOf more := by
  cases sign with
  | capture =>
      refine groupNamesOf_bare fun query => ?_
      obtain ⟨rest, rfl⟩ := List.head?_eq_some_iff.mp query
      simp [isClear] at clear
  | named long name =>
      have lacks := lacks_of_isGroupName valid
      have own : '>' ∉ name := fun member => lacks '>' member (by decide)
      cases long with
      | true =>
          have text : (GroupSign.named true name).text ++ more =
              '(' :: '?' :: 'P' :: '<' :: (name ++ '>' :: more) := by
            simp [GroupSign.text]
          rw [text, groupNamesOf_named own rfl]
          rfl
      | false =>
          have text : (GroupSign.named false name).text ++ more =
              '(' :: '?' :: '<' :: (name ++ '>' :: more) := by
            simp [GroupSign.text]
          have start : groupNameStart? ('<' :: (name ++ '>' :: more)) = some (name ++ '>' :: more) := by
            cases name with
            | nil => cases valid
            | cons first rest =>
                have apart : ¬ (first = '=' ∨ first = '!') := by
                  rintro (rfl | rfl) <;> exact lacks _ List.mem_cons_self (by decide)
                exact if_neg apart
          rw [text, groupNamesOf_named own start]
          rfl
  | plain => exact groupNamesOf_query [':'] rfl (by decide)
  | fold => exact groupNamesOf_query ['i', ':'] rfl (by decide)
  | dotAll => exact groupNamesOf_query ['s', ':'] rfl (by decide)
  | atomic => exact groupNamesOf_query ['>'] rfl (by decide)
  | look behind negative =>
      cases behind <;> cases negative
      · exact groupNamesOf_query ['='] rfl (by decide)
      · exact groupNamesOf_query ['!'] rfl (by decide)
      · exact groupNamesOf_query ['<', '='] rfl (by decide)
      · exact groupNamesOf_query ['<', '!'] rfl (by decide)

/-- The scan for group names sees the names of a phrase in the order in which its groups open. -/
theorem groupNamesOf_phrase
    {phrase : Phrase}
    (valid : phrase.isValid)
    {more : List Char}
    (clear : isClear more) :
    groupNamesOf (phrase.text ++ more) = phrase.names.reverse ++ groupNamesOf more := by
  have fewer : nameMarks ⊆ scanned := by decide
  induction phrase generalizing more with
  | done => rfl
  | leaf atom quantifier rest inductionHypothesis =>
      obtain ⟨own, others⟩ := Phrase.allOf_leaf_iff.mp valid
      obtain ⟨atomValid, counts, -⟩ := of_decide_eq_true own
      rw [Phrase.text, List.append_assoc, List.append_assoc, groupNamesOf_leaf atomValid,
        groupNamesOf_lacking ((lacks_textOf (Quantifier.areDecimal_of_isValid counts)).mono fewer),
        inductionHypothesis others clear, Phrase.names]
  | group sign body quantifier rest bodyHypothesis restHypothesis =>
      obtain ⟨own, bodyValid, others⟩ := Phrase.allOf_group_iff.mp valid
      obtain ⟨signValid, counts⟩ := of_decide_eq_true own
      have closes : isClear (')' :: (Quantifier.textOf quantifier ++ (rest.text ++ more))) :=
        isClear_cons (by decide) _
      have once : sign.names.reverse = sign.names := by cases sign <;> rfl
      simp only [Phrase.text, List.cons_append, List.append_assoc]
      rw [groupNamesOf_sign signValid (body.isClear_text_append bodyValid closes),
        bodyHypothesis bodyValid closes, groupNamesOf_cons (by decide),
        groupNamesOf_lacking ((lacks_textOf (Quantifier.areDecimal_of_isValid counts)).mono fewer),
        restHypothesis others clear, Phrase.names]
      simp [once]
  | bar rest inductionHypothesis =>
      rw [Phrase.text, List.cons_append, groupNamesOf_cons (by decide),
        inductionHypothesis valid clear, Phrase.names]

/-- The scan sees every name of a phrase. -/
theorem mem_groupNames_of_text
    {phrase : Phrase}
    (valid : phrase.isValid)
    {pattern : String}
    (text : phrase.text = pattern.toList)
    {name : List Char}
    (member : name ∈ phrase.names) :
    String.ofList name ∈ groupNames pattern := by
  have seen : groupNamesOf (phrase.text ++ []) = phrase.names.reverse ++ groupNamesOf [] :=
    groupNamesOf_phrase valid rfl
  rw [List.append_nil, text] at seen
  rw [groupNames, seen]
  exact List.mem_map_of_mem (List.mem_append_left _ (List.mem_reverse.mpr member))

end Pattern
end LineExtraction

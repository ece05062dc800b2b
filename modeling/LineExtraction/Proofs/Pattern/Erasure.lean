import LineExtraction.Proofs.Pattern.Relaxing
import LineExtraction.Proofs.Pattern.SourceTree

/-!
# Relaxing is erasing

Relaxing is one scan of characters, with scans of its own for the end of a class and of a group.
On the text of a source tree it comes to the same as erasing the tree: what a scan skips is a
whole part of the tree, and between two parts the scan remembers nothing that matters.
-/

namespace LineExtraction
namespace Pattern

/-! ## Classes -/

theorem lacks_braces
    {letter : Char}
    {content : List Char}
    (braced : isBraced letter content) :
    Lacks scanned ('\x7b' :: content ++ ['\x7d']) := by
  obtain ⟨-, lacks⟩ := of_decide_eq_true braced
  refine lacks_append_iff.mpr ⟨List.forall_mem_cons.mpr ⟨by decide, ?_⟩, by decide⟩
  exact lacks.mono (by decide)

theorem cutClassBody_character
    (depth : Nat)
    {char : SetCharacter}
    (valid : char.isValid)
    (more : List Char) :
    cutClassBody depth (char.text ++ more) = (cutClassBody depth more).extend char.text := by
  cases char with
  | plain char => exact cutClassBody_cons depth (of_decide_eq_true valid) more
  | escape letter => exact cutClassBody_escape depth letter (List.forall_mem_nil _) more
  | braced letter content => exact cutClassBody_escape depth letter (lacks_braces valid) more

/-- A scan for the end of a class passes over members, however deep it is. -/
theorem cutClassBody_items
    (depth : Nat)
    {items : SetItems}
    (valid : items.isValid)
    (more : List Char) :
    cutClassBody depth (items.text ++ more) = (cutClassBody depth more).extend items.text := by
  induction items generalizing depth more with
  | done => rfl
  | character char rest restHypothesis =>
      obtain ⟨own, others⟩ := of_decide_eq_true valid
      rw [SetItems.text, List.append_assoc, cutClassBody_character depth own,
        restHypothesis depth others, Cut.extend_extend]
  | range first last rest restHypothesis =>
      obtain ⟨low, high, others⟩ := of_decide_eq_true valid
      rw [SetItems.text, List.append_assoc, List.cons_append, List.append_assoc,
        cutClassBody_character depth low, cutClassBody_cons depth (by decide),
        cutClassBody_character depth high, restHypothesis depth others]
      simp only [Cut.extend_extend, List.singleton_append]
  | nested negated inner rest innerHypothesis restHypothesis =>
      obtain ⟨inside, others⟩ := of_decide_eq_true valid
      have caret : Lacks insideSpecial (Member.caret negated) := by
        cases negated <;> decide
      simp only [SetItems.text, List.cons_append, List.append_assoc]
      rw [cutClassBody.eq_4, cutClassBody_lacking (depth + 1) caret,
        innerHypothesis (depth + 1) inside, cutClassBody.eq_6, restHypothesis depth others]
      simp only [Cut.extend_extend, List.singleton_append]

theorem SetItems.exists_text_eq_cons
    {items : SetItems}
    (valid : items.isValid)
    (nonempty : items ≠ .done) :
    ∃ first tail, items.text = first :: tail ∧ first ≠ ']' := by
  have head {char : SetCharacter} (valid : char.isValid) :
      ∃ first tail, char.text = first :: tail ∧ first ≠ ']' := by
    cases char with
    | plain char =>
        refine ⟨char, [], rfl, ?_⟩
        rintro rfl
        exact absurd valid (by decide)
    | _ => exact ⟨'\\', _, rfl, by decide⟩
  cases items with
  | done => exact absurd rfl nonempty
  | character char rest =>
      obtain ⟨own, -⟩ := of_decide_eq_true valid
      obtain ⟨first, tail, text, apart⟩ := head own
      exact ⟨first, tail ++ rest.text, by simp [SetItems.text, text], apart⟩
  | range low high rest =>
      obtain ⟨own, -⟩ := of_decide_eq_true valid
      obtain ⟨first, tail, text, apart⟩ := head own
      exact ⟨first, tail ++ '-' :: (high.text ++ rest.text), by simp [SetItems.text, text], apart⟩
  | nested negated inner rest => exact ⟨'[', _, rfl, by decide⟩

/-- A class is cut behind its own bracket. -/
theorem cutClass_sourceSet
    {set : SourceSet}
    (valid : set.isValid)
    (more : List Char) :
    cutClass (set.body ++ more) = ⟨set.body, more⟩ := by
  obtain ⟨items, begins⟩ := of_decide_eq_true valid
  have cut : cutClassBody 0 (set.items.text ++ ']' :: more) = ⟨set.items.text ++ [']'], more⟩ := by
    rw [cutClassBody_items 0 items, cutClassBody.eq_5, Cut.extend_mk]
  have starts : set.bracketFirst ∨ ∃ first tail,
      set.items.text = first :: tail ∧ first ≠ ']' ∧ (set.negated ∨ first ≠ '^') := by
    refine begins.imp_right fun both => ?_
    obtain ⟨nonempty, caret⟩ := both
    obtain ⟨first, tail, text, apart⟩ := SetItems.exists_text_eq_cons items nonempty
    refine ⟨first, tail, text, apart, caret.imp_right fun bare same => bare ?_⟩
    rw [text, same]
    rfl
  simpa [SourceSet.body] using cutClass_members set.negated set.bracketFirst cut starts

/-! ## Tokens -/

/-- An escape of one letter is copied. -/
theorem relaxEscape_escapeLetter
    {letter : Char}
    {more : List Char}
    (escapes : isEscapeLetter letter more) :
    relaxEscape (letter :: more) = (['\\', letter], more) := by
  obtain ⟨plain, bare⟩ := of_decide_eq_true escapes
  by_cases takes : takesBraces letter
  · exact relaxEscape_bare takes (bare takes)
  · refine relaxEscape_letter (fun taken => ?_) more
    obtain member | braces : letter ∈ ['1', '2', '3', '4', '5', '6', '7', '8', '9', 'k'] ∨
        letter ∈ ['x', 'u', 'U', 'p', 'P'] := List.mem_append.mp taken
    · exact plain member
    · exact takes (decide_eq_true braces)

theorem lacks_flags
    {letters : List Char}
    (quiet : letters.all isQuietFlag)
    {special : List Char}
    (apart : special.all fun char => !isQuietFlag char) :
    Lacks special letters := by
  intro char member taken
  have loud := List.all_eq_true.mp apart char taken
  rw [List.all_eq_true.mp quiet char member] at loud
  exact Bool.false_ne_true loud

/-- Flags are copied. -/
theorem relaxGroup_flags
    {letters : List Char}
    (nonempty : letters ≠ [])
    (quiet : letters.all isQuietFlag)
    {closing : Char}
    (closes : closing ∉ ['<', '='])
    (more : List Char) :
    relaxGroup ('?' :: (letters ++ closing :: more)) =
      ("(?".toList, letters ++ closing :: more) := by
  have lacks : Lacks [':', '>', '=', '!', '<'] letters := lacks_flags quiet (by decide)
  obtain ⟨first, rest, rfl⟩ := List.exists_cons_of_ne_nil nonempty
  obtain ⟨own, others⟩ := List.forall_mem_cons.mp lacks
  have begins {char : Char} (sign : char ∈ [':', '>', '=', '!', '<']) (behind : List Char) :
      first :: rest ++ closing :: more = char :: behind → False := by
    intro same
    obtain rfl := (List.cons.inj same).1
    exact own sign
  have property {char : Char} (sign : char ∈ ['<', '=']) (behind : List Char) :
      first :: rest ++ closing :: more = 'P' :: char :: behind → False := by
    intro same
    have second := (List.cons.inj same).2
    cases rest with
    | nil =>
        obtain rfl := (List.cons.inj second).1
        exact closes sign
    | cons next rest =>
        obtain rfl := (List.cons.inj second).1
        exact others _ List.mem_cons_self (List.Subset.trans (by decide)
          (List.Subset.refl [':', '>', '=', '!', '<']) sign)
  rw [relaxGroup.eq_10 _ (begins (by decide)) (begins (by decide)) (begins (by decide))
    (begins (by decide)) (fun _ => begins (by decide) _) (fun _ => begins (by decide) _)
    (begins (by decide)) (property (by decide)) (property (by decide))]

/-! ## Groups -/

/-- The opening of a group loses all but its flags. -/
theorem relaxFrom_opening
    {opening : Opening}
    {inLook : Bool}
    (valid : opening.isValid inLook)
    (before : Bool)
    {more : List Char}
    (clear : more.head? ≠ some '?') :
    relaxFrom ⟨before, false⟩ (opening.text ++ more) =
      opening.erase.text ++ relaxFrom ⟨false, false⟩ more := by
  cases opening with
  | capture =>
      refine relaxFrom_group ?_ before false
      cases more with
      | nil => rfl
      | cons first more =>
          have apart : first ≠ '?' := fun same => clear (congrArg some same)
          simp [relaxGroup, plainGroup, Opening.erase, Opening.text, apart]
  | named long name =>
      obtain ⟨lacks, -, begins⟩ := of_decide_eq_true valid
      have cut := cutPast_lacking lacks more
      cases long with
      | true =>
          have relaxes : relaxGroup ('?' :: 'P' :: '<' :: (name ++ '>' :: more)) =
              (plainGroup, more) := by
            rw [relaxGroup, cut]
          simp [Opening.text, Opening.erase, relaxFrom_group relaxes, plainGroup]
      | false =>
          obtain ⟨notAhead, notNegative⟩ := begins.resolve_left Bool.false_ne_true
          have relaxes : relaxGroup ('?' :: '<' :: (name ++ '>' :: more)) = (plainGroup, more) := by
            have first {char : Char} (apart : name.head? ≠ some char) (closing : '>' ≠ char)
                (rest : List Char) : name ++ '>' :: more ≠ char :: rest := by
              intro same
              cases name with
              | nil => exact closing (List.cons.inj same).1
              | cons first name => exact apart (congrArg some (List.cons.inj same).1)
            rw [relaxGroup.eq_7 _ (first notAhead (by decide)) (first notNegative (by decide)), cut]
          simp [Opening.text, Opening.erase, relaxFrom_group relaxes, plainGroup]
  | plain => exact relaxFrom_group rfl before false
  | atomic => exact relaxFrom_group rfl before false
  | flags letters =>
      obtain ⟨nonempty, quiet⟩ := of_decide_eq_true valid
      have relaxes := relaxGroup_flags nonempty quiet (by decide : ':' ∉ ['<', '=']) more
      have copied : Lacks relaxable letters := lacks_flags quiet (by decide)
      simp [Opening.text, Opening.erase, relaxFrom_group relaxes, relaxFrom_lacking copied,
        relaxFrom_cons (by decide : ':' ∉ relaxable)]

/-- The text behind the parenthesis of an opening has nothing in it that scans know. -/
theorem Opening.exists_header
    {opening : Opening}
    (valid : opening.isValid true) :
    ∃ header, opening.text = '(' :: header ∧ Lacks scanned header := by
  cases opening with
  | named long name =>
      obtain ⟨-, lacks, -⟩ := of_decide_eq_true valid
      have header {sign : List Char} (free : Lacks scanned sign) :
          Lacks scanned (sign ++ name ++ ['>']) :=
        lacks_append_iff.mpr ⟨lacks_append_iff.mpr ⟨free, lacks rfl⟩, by decide⟩
      cases long with
      | true => exact ⟨_, rfl, header (by decide : Lacks scanned ['?', 'P', '<'])⟩
      | false => exact ⟨_, rfl, header (by decide : Lacks scanned ['?', '<'])⟩
  | flags letters =>
      obtain ⟨-, quiet⟩ := of_decide_eq_true valid
      refine ⟨_, rfl, lacks_append_iff.mpr ⟨List.forall_mem_cons.mpr ⟨by decide, ?_⟩, by decide⟩⟩
      exact lacks_flags quiet (by decide)
  | _ => exact ⟨_, rfl, by decide⟩

theorem afterGroupBody_reference
    (depth : Nat)
    {form : ReferenceForm}
    {following : List Char}
    (valid : form.isValid true following)
    (more : List Char) :
    afterGroupBody depth (form.text ++ more) = afterGroupBody depth more := by
  cases form with
  | numbered digits =>
      obtain ⟨begins, decimal, -⟩ := of_decide_eq_true valid
      cases digits with
      | nil => cases begins
      | cons first rest =>
          have checked : ∀ char ∈ scanned, ¬ char.isDigit := by decide
          have lacks : Lacks scanned rest := fun char member taken =>
            checked char taken (List.all_eq_true.mp decimal char (List.mem_cons_of_mem _ member))
          rw [ReferenceForm.text, List.cons_append, List.cons_append, afterGroupBody.eq_3,
            afterGroupBody_lacking depth lacks]
  | keyed name =>
      obtain ⟨-, lacks⟩ := of_decide_eq_true valid
      have closed : Lacks scanned ('<' :: name ++ ['>']) :=
        lacks_append_iff.mpr ⟨List.forall_mem_cons.mpr ⟨by decide, lacks rfl⟩, by decide⟩
      exact (afterGroupBody.eq_3 depth 'k' _).trans (afterGroupBody_lacking depth closed more)
  | called name =>
      have lacks : Lacks scanned ('?' :: 'P' :: '=' :: name) :=
        lacks_append_iff.mpr ⟨(by decide : Lacks scanned ['?', 'P', '=']), of_decide_eq_true valid⟩
      have text : (ReferenceForm.called name).text ++ more =
          '(' :: ('?' :: 'P' :: '=' :: name ++ ')' :: more) := by
        simp [ReferenceForm.text]
      rw [text, afterGroupBody.eq_5, afterGroupBody_lacking (depth + 1) lacks, afterGroupBody.eq_7]

theorem lacks_lookSign
    (behind negative : Bool) :
    Lacks scanned (SourceTree.lookSign behind negative) := by
  cases behind <;> cases negative <;> decide

/-- A scan for the end of a group goes past a tree. -/
theorem afterGroupBody_sourceTree
    (depth : Nat)
    {tree : SourceTree}
    {following : List Char}
    (valid : tree.isValid true following)
    (more : List Char) :
    afterGroupBody depth (tree.text ++ more) = afterGroupBody depth more := by
  have subset : ['\\', '[', '(', ')'] ⊆ outsideSpecial := by decide
  induction tree generalizing depth following more with
  | empty => rfl
  | literal char =>
      exact afterGroupBody_cons depth (fun taken => of_decide_eq_true valid (subset taken)) more
  | dot => exact afterGroupBody_cons depth (by decide) more
  | lineStart => exact afterGroupBody_cons depth (by decide) more
  | lineEnd => exact afterGroupBody_cons depth (by decide) more
  | escape letter => exact afterGroupBody.eq_3 depth letter more
  | braced letter content =>
      exact (afterGroupBody.eq_3 depth letter _).trans
        (afterGroupBody_lacking depth (lacks_braces valid) more)
  | set members =>
      rw [SourceTree.text, List.cons_append, afterGroupBody.eq_4, cutClass_sourceSet valid]
  | group opening body bodyHypothesis =>
      obtain ⟨own, inside⟩ := of_decide_eq_true valid
      obtain ⟨header, text, lacks⟩ := Opening.exists_header own
      simp only [SourceTree.text, text, List.cons_append, List.append_assoc, List.nil_append]
      rw [afterGroupBody.eq_5, afterGroupBody_lacking _ lacks, bodyHypothesis _ inside,
        afterGroupBody.eq_7]
  | directive flags =>
      obtain ⟨-, quiet⟩ := of_decide_eq_true valid
      have lacks : Lacks scanned ('?' :: flags) :=
        List.forall_mem_cons.mpr ⟨by decide, lacks_flags quiet (by decide)⟩
      have text : (SourceTree.directive flags).text ++ more =
          '(' :: ('?' :: flags ++ ')' :: more) := by
        simp [SourceTree.text]
      rw [text, afterGroupBody.eq_5, afterGroupBody_lacking _ lacks, afterGroupBody.eq_7]
  | look behind negative body bodyHypothesis =>
      simp only [SourceTree.text, List.cons_append, List.append_assoc, List.nil_append]
      rw [afterGroupBody.eq_5, afterGroupBody_lacking _ (lacks_lookSign behind negative),
        bodyHypothesis _ valid, afterGroupBody.eq_7]
  | reference form => exact afterGroupBody_reference depth valid more
  | concatenation front back frontHypothesis backHypothesis =>
      obtain ⟨first, second⟩ := of_decide_eq_true valid
      rw [SourceTree.text, List.append_assoc, frontHypothesis depth first,
        backHypothesis depth second]
  | alternation left right leftHypothesis rightHypothesis =>
      obtain ⟨first, second⟩ := of_decide_eq_true valid
      rw [SourceTree.text, List.append_assoc, leftHypothesis depth first, List.cons_append,
        afterGroupBody_cons depth (by decide), rightHypothesis depth second]
  | repetition atom quantifier atomHypothesis =>
      obtain ⟨-, decimal, inside⟩ := of_decide_eq_true valid
      have lacks : Lacks scanned quantifier.text := lacks_textOf (show Option.all _ (some _) from decimal)
      rw [SourceTree.text, List.append_assoc, atomHypothesis depth inside,
        afterGroupBody_lacking depth lacks]

/-! ## References -/

/-- A reference becomes any text. -/
theorem relaxFrom_referenceForm
    {form : ReferenceForm}
    {inLook : Bool}
    {more : List Char}
    (valid : form.isValid inLook more)
    (before : Bool) :
    relaxFrom ⟨before, false⟩ (form.text ++ more) =
      SourceTree.anything.text ++ relaxFrom ⟨false, false⟩ more := by
  have any : SourceTree.anything.text = anyText := by decide
  rw [any]
  cases form with
  | numbered digits =>
      obtain ⟨begins, decimal, ends⟩ := of_decide_eq_true valid
      cases digits with
      | nil => cases begins
      | cons first rest =>
          have remaining : more.dropWhile Char.isDigit = more := by
            cases more with
            | nil => rfl
            | cons next more =>
                refine List.dropWhile_cons_of_neg fun digit => ?_
                have apart : (!next.isDigit) = true := ends
                rw [digit] at apart
                cases apart
          have skipped : (rest ++ more).dropWhile Char.isDigit = more := by
            rw [List.dropWhile_append_of_pos, remaining]
            exact fun char member => List.all_eq_true.mp decimal char (List.mem_cons_of_mem _ member)
          have relaxes : relaxEscape (first :: (rest ++ more)) = (anyText, more) := by
            rw [relaxEscape.eq_def]
            simp only [if_pos (of_decide_eq_true begins), skipped]
          exact relaxFrom_escape relaxes before false
  | keyed name =>
      obtain ⟨lacks, -⟩ := of_decide_eq_true valid
      have relaxes : relaxEscape ('k' :: '<' :: (name ++ '>' :: more)) = (anyText, more) := by
        simp [relaxEscape, cutPast_lacking lacks]
      simp [ReferenceForm.text, relaxFrom_escape relaxes]
  | called name =>
      have passed : Lacks scanned ('?' :: 'P' :: '=' :: name) :=
        lacks_append_iff.mpr ⟨(by decide : Lacks scanned ['?', 'P', '=']), of_decide_eq_true valid⟩
      have left := afterGroupBody_lacking 0 passed (')' :: more)
      rw [afterGroupBody.eq_6] at left
      have relaxes : relaxGroup ('?' :: 'P' :: '=' :: (name ++ ')' :: more)) = (anyText, more) :=
        (relaxGroup.eq_9 _).trans (congrArg (Prod.mk anyText) left)
      simp [ReferenceForm.text, relaxFrom_group relaxes]

/-! ## Trees -/

/-- What looks around becomes an empty group. -/
theorem relaxFrom_lookAround
    (behind negative : Bool)
    {body : SourceTree}
    {following : List Char}
    (valid : body.isValid true following)
    (before : Bool)
    (more : List Char) :
    relaxFrom ⟨before, false⟩ ((SourceTree.look behind negative body).text ++ more) =
      emptyGroup ++ relaxFrom ⟨false, false⟩ more := by
  have text : (SourceTree.look behind negative body).text ++ more =
      '(' :: (SourceTree.lookSign behind negative ++ (body.text ++ ')' :: more)) := by
    simp [SourceTree.text]
  have skipped : afterGroupBody 0
      (SourceTree.lookSign behind negative ++ (body.text ++ ')' :: more)) = more := by
    rw [afterGroupBody_lacking 0 (lacks_lookSign behind negative),
      afterGroupBody_sourceTree 0 valid, afterGroupBody.eq_6]
  have relaxes : relaxGroup (SourceTree.lookSign behind negative ++ (body.text ++ ')' :: more)) =
      (emptyGroup, more) := by
    refine Eq.trans ?_ (congrArg (Prod.mk emptyGroup) skipped)
    cases behind <;> cases negative <;> rfl
  rw [text, relaxFrom_group relaxes]

/-- No tree starts with the sign of a group, unless nothing of it stands in front of one. -/
theorem SourceTree.head?_text_append
    {tree : SourceTree}
    {inLook : Bool}
    {following : List Char}
    (valid : tree.isValid inLook following)
    {more : List Char}
    (clear : tree.isAtom ∨ more.head? ≠ some '?') :
    (tree.text ++ more).head? ≠ some '?' := by
  have starts {first : Char} (apart : first ≠ '?') (rest : List Char) :
      (first :: rest).head? ≠ some '?' := fun same => apart (Option.some.inj same)
  induction tree generalizing following more with
  | empty => exact clear.resolve_left Bool.false_ne_true
  | literal char =>
      refine starts ?_ _
      rintro rfl
      exact of_decide_eq_true valid (by decide)
  | group opening body _ =>
      cases opening with
      | named long name => cases long <;> exact starts (by decide) _
      | _ => exact starts (by decide) _
  | reference form => cases form <;> exact starts (by decide) _
  | concatenation front back frontHypothesis backHypothesis =>
      obtain ⟨first, second⟩ := of_decide_eq_true valid
      rw [text, List.append_assoc]
      exact frontHypothesis first
        (.inr (backHypothesis second (.inr (clear.resolve_left Bool.false_ne_true))))
  | alternation left right leftHypothesis _ =>
      obtain ⟨first, -⟩ := of_decide_eq_true valid
      rw [text, List.append_assoc]
      exact leftHypothesis first (.inr (starts (by decide) _))
  | repetition atom quantifier atomHypothesis =>
      obtain ⟨isAtom, -, inside⟩ := of_decide_eq_true valid
      rw [text, List.append_assoc]
      exact atomHypothesis inside (.inl isAtom)
  | _ => exact starts (by decide) _

/-- Only the first character of what follows a tree matters to it. -/
theorem head?_append_congr
    {more following : List Char}
    (same : more.head? = following.head?)
    (text : List Char) :
    (text ++ more).head? = (text ++ following).head? := by
  rw [List.head?_append, List.head?_append, same]

/-- A tree is relaxed to its erasure, and behind an atom the scan takes nothing for the sign of
a possessive quantifier. -/
theorem relaxFrom_sourceTree
    {tree : SourceTree}
    {inLook : Bool}
    {following more : List Char}
    (valid : tree.isValid inLook following)
    (same : more.head? = following.head?)
    (before : Bool) :
    ∃ after,
      (tree.isAtom → after = false) ∧
      relaxFrom ⟨before, false⟩ (tree.text ++ more) =
        tree.erase.text ++ relaxFrom ⟨after, false⟩ more := by
  induction tree generalizing following more before with
  | empty => exact ⟨before, fun atom => absurd atom Bool.false_ne_true, rfl⟩
  | literal char =>
      have copied : relaxFrom ⟨before, false⟩ (char :: more) = char :: relaxFrom ⟨false, false⟩ more := by
        have subset : ∀ char ∈ relaxable, char ∈ outsideSpecial ∨ char = '\x7d' := by decide
        have outside : char ∉ outsideSpecial := of_decide_eq_true valid
        by_cases closing : char = '\x7d'
        · rw [closing]
          exact relaxFrom.eq_2 _ _ _
        · exact relaxFrom_cons (fun taken => (subset char taken).elim outside closing) before false more
      exact ⟨false, fun _ => rfl, copied⟩
  | dot => exact ⟨false, fun _ => rfl, relaxFrom_cons (by decide) before false more⟩
  | lineStart => exact ⟨false, fun _ => rfl, relaxFrom_cons (by decide) before false more⟩
  | lineEnd => exact ⟨false, fun _ => rfl, relaxFrom_cons (by decide) before false more⟩
  | escape letter =>
      have escapes : isEscapeLetter letter more := by
        rw [isEscapeLetter, same]
        exact valid
      exact ⟨false, fun _ => rfl, relaxFrom_escape (relaxEscape_escapeLetter escapes) before false⟩
  | braced letter content =>
      obtain ⟨takes, lacks⟩ := of_decide_eq_true valid
      exact ⟨false, fun _ => rfl,
        relaxFrom_braces takes (lacks.mono (by decide)) before false more⟩
  | set members =>
      refine ⟨false, fun _ => rfl, ?_⟩
      rw [SourceTree.text, List.cons_append, relaxFrom.eq_2, relaxToken, cutClass_sourceSet valid]
      rfl
  | group opening body bodyHypothesis =>
      obtain ⟨own, inside⟩ := of_decide_eq_true valid
      have clear : (body.text ++ ')' :: more).head? ≠ some '?' :=
        SourceTree.head?_text_append inside (.inr (by simp))
      obtain ⟨last, -, inner⟩ := bodyHypothesis inside
        (show (')' :: more).head? = [')'].head? from rfl) false
      refine ⟨false, fun _ => rfl, ?_⟩
      simp only [SourceTree.text, SourceTree.erase, List.append_assoc, List.singleton_append]
      rw [relaxFrom_opening own before clear, inner, relaxFrom_cons (by decide)]
  | directive flags =>
      obtain ⟨nonempty, quiet⟩ := of_decide_eq_true valid
      have relaxes := relaxGroup_flags nonempty quiet (by decide : ')' ∉ ['<', '=']) more
      have copied : Lacks relaxable flags := lacks_flags quiet (by decide)
      refine ⟨false, fun _ => rfl, ?_⟩
      simp [SourceTree.text, SourceTree.erase, relaxFrom_group relaxes, relaxFrom_lacking copied,
        relaxFrom_cons (by decide : ')' ∉ relaxable)]
  | look behind negative body _ =>
      exact ⟨false, fun _ => rfl, relaxFrom_lookAround behind negative valid before more⟩
  | reference form =>
      have ends : form.isValid inLook more := by
        cases form with
        | numbered digits =>
            rw [ReferenceForm.isValid, same]
            exact valid
        | _ => exact valid
      exact ⟨false, fun _ => rfl, relaxFrom_referenceForm ends before⟩
  | concatenation front back frontHypothesis backHypothesis =>
      obtain ⟨first, second⟩ := of_decide_eq_true valid
      obtain ⟨between, -, front⟩ :=
        frontHypothesis first (head?_append_congr same back.text) before
      obtain ⟨after, -, back⟩ := backHypothesis second same between
      refine ⟨after, fun atom => absurd atom Bool.false_ne_true, ?_⟩
      rw [SourceTree.text, List.append_assoc, front, back, SourceTree.erase, SourceTree.text,
        List.append_assoc]
  | alternation left right leftHypothesis rightHypothesis =>
      obtain ⟨first, second⟩ := of_decide_eq_true valid
      obtain ⟨between, -, left⟩ := leftHypothesis first
        (show ('|' :: (right.text ++ more)).head? = _ from rfl) before
      obtain ⟨after, -, right⟩ := rightHypothesis second same false
      refine ⟨after, fun atom => absurd atom Bool.false_ne_true, ?_⟩
      rw [SourceTree.text, List.append_assoc, List.cons_append, left, relaxFrom_cons (by decide),
        right, SourceTree.erase, SourceTree.text, List.append_assoc, List.cons_append]
  | repetition atom quantifier atomHypothesis =>
      obtain ⟨isAtom, decimal, inside⟩ := of_decide_eq_true valid
      obtain ⟨between, atomic, copied⟩ :=
        atomHypothesis inside (head?_append_congr same quantifier.text) before
      obtain rfl := atomic isAtom
      obtain ⟨after, quantified⟩ :=
        relaxFrom_textOf (show Option.all _ (some quantifier) from decimal) more
      refine ⟨after, fun atom => absurd atom Bool.false_ne_true, ?_⟩
      rw [SourceTree.text, List.append_assoc, copied, SourceTree.erase, SourceTree.text,
        List.append_assoc]
      exact congrArg (atom.erase.text ++ ·) quantified

/-! ## Comments -/

theorem readFlagHeader_quiet
    (enable : Bool)
    (verbose : Option Bool)
    {letters : List Char}
    (quiet : letters.all isQuietFlag)
    {closing : Char}
    (closes : closing ∈ [':', ')'])
    (more : List Char) :
    readFlagHeader enable verbose (letters ++ closing :: more) = ⟨verbose, closing :: more⟩ := by
  induction letters generalizing enable with
  | nil =>
      have unflagged : ∀ closing ∈ [':', ')'],
          closing ≠ '-' ∧ closing ≠ 'x' ∧ isAsciiLetter closing = false := by
        decide
      obtain ⟨hyphen, verboseFlag, letter⟩ := unflagged closing closes
      simp [readFlagHeader, hyphen, verboseFlag, letter]
  | cons char letters inductionHypothesis =>
      rw [List.all_cons, Bool.and_eq_true] at quiet
      obtain ⟨letter, terse⟩ | rfl := of_decide_eq_true quiet.1
      · simp [readFlagHeader, terse, letter, inductionHypothesis _ quiet.2]
      · rw [List.cons_append, readFlagHeader, if_pos rfl, inductionHypothesis false quiet.2]

section

variable {scan : VerboseScan} (outside : scan.inComment = false) (terse : scan.verbose = false)
include outside terse

/-- Flags without the verbose one open a group, or leave everything as it is. -/
theorem endsInComment_flags
    {letters : List Char}
    (quiet : letters.all isQuietFlag)
    (more : List Char) :
    endsInComment scan ('(' :: '?' :: (letters ++ ':' :: more)) =
        endsInComment (scan.enter false) more ∧
      endsInComment scan ('(' :: '?' :: (letters ++ ')' :: more)) = endsInComment scan more := by
  rw [endsInComment_query outside, endsInComment_query outside]
  simp only [openQueryGroup, readFlagHeader_quiet true none quiet (by decide : ':' ∈ [':', ')']),
    readFlagHeader_quiet true none quiet (by decide : ')' ∈ [':', ')']), Option.getD_none, terse]
  exact ⟨trivial, by rw [← terse]⟩

/-- A group of flags with nothing special in it leaves everything as it is. -/
theorem endsInComment_quietGroup
    {letters body : List Char}
    (quiet : letters.all isQuietFlag)
    (lacks : Lacks scanned body)
    (more : List Char) :
    endsInComment scan ('(' :: '?' :: (letters ++ ':' :: (body ++ ')' :: more))) =
      endsInComment scan more := by
  rw [(endsInComment_flags outside terse quiet _).1,
    endsInComment_lacking (show (scan.enter false).inComment = false from outside)
      (show (scan.enter false).verbose = false from rfl) lacks,
    endsInComment_close outside]

/-- A scan for comments finds none in an erasure. -/
theorem endsInComment_erase
    {tree : SourceTree}
    {inLook : Bool}
    {following : List Char}
    (valid : tree.isValid inLook following)
    (more : List Char) :
    endsInComment scan (tree.erase.text ++ more) = endsInComment scan more := by
  have subset : ['\\', '[', '(', ')'] ⊆ outsideSpecial := by decide
  induction tree generalizing scan following more with
  | empty => rfl
  | literal char =>
      exact endsInComment_cons outside terse (fun taken => of_decide_eq_true valid (subset taken)) more
  | dot => exact endsInComment_cons outside terse (by decide) more
  | lineStart => exact endsInComment_cons outside terse (by decide) more
  | lineEnd => exact endsInComment_cons outside terse (by decide) more
  | escape letter => exact endsInComment_escape outside letter more
  | braced letter content =>
      exact (endsInComment_escape outside letter _).trans
        (endsInComment_lacking outside terse (lacks_braces valid) more)
  | set members => exact endsInComment_class outside (cutClass_sourceSet valid more)
  | group opening body bodyHypothesis =>
      obtain ⟨own, inside⟩ := of_decide_eq_true valid
      have entered : endsInComment scan (opening.erase.text ++ (body.erase.text ++ ')' :: more)) =
          endsInComment (scan.enter false) (body.erase.text ++ ')' :: more) := by
        cases opening with
        | flags letters =>
            obtain ⟨-, quiet⟩ := of_decide_eq_true own
            rw [← (endsInComment_flags outside terse quiet _).1]
            simp [Opening.erase, Opening.text]
        | _ =>
            exact (endsInComment_flags outside terse (show [].all isQuietFlag from rfl) _).1
      have within := bodyHypothesis (show (scan.enter false).inComment = false from outside)
        (show (scan.enter false).verbose = false from rfl) inside (')' :: more)
      simp only [SourceTree.erase, SourceTree.text, List.append_assoc, List.singleton_append]
      rw [entered, within, endsInComment_close outside]
  | directive flags =>
      obtain ⟨-, quiet⟩ := of_decide_eq_true valid
      rw [← (endsInComment_flags outside terse quiet more).2]
      simp [SourceTree.erase, SourceTree.text]
  | look behind negative body _ =>
      exact endsInComment_quietGroup outside terse (show [].all isQuietFlag from rfl)
        (List.forall_mem_nil _) more
  | reference form =>
      exact endsInComment_quietGroup outside terse (show ['s'].all isQuietFlag from rfl)
        (by decide : Lacks scanned ['.', '*', '?']) more
  | concatenation front back frontHypothesis backHypothesis =>
      obtain ⟨first, second⟩ := of_decide_eq_true valid
      rw [SourceTree.erase, SourceTree.text, List.append_assoc,
        frontHypothesis outside terse first, backHypothesis outside terse second]
  | alternation left right leftHypothesis rightHypothesis =>
      obtain ⟨first, second⟩ := of_decide_eq_true valid
      rw [SourceTree.erase, SourceTree.text, List.append_assoc, leftHypothesis outside terse first,
        List.cons_append, endsInComment_cons outside terse (by decide),
        rightHypothesis outside terse second]
  | repetition atom quantifier atomHypothesis =>
      obtain ⟨-, decimal, inside⟩ := of_decide_eq_true valid
      have lacks : Lacks scanned
          (Quantifier.textOf (some { quantifier with possessive := false })) :=
        lacks_textOf decimal
      rw [Quantifier.textOf] at lacks
      rw [SourceTree.erase, SourceTree.text, List.append_assoc, atomHypothesis outside terse inside,
        endsInComment_lacking outside terse lacks]

end

/-! ## The whole text -/

/-- Relaxing the text of a tree gives the text of its erasure, and the discriminator's pattern is
that text in a group. -/
theorem relax_text_eq_erase_text
    (tree : SourceTree)
    (valid : tree.isValid false []) :
    relaxChars tree.text = tree.erase.text ∧
      relax (String.ofList tree.text) =
        String.ofList (SourceTree.group .plain tree.erase).text := by
  have erased : relaxChars tree.text = tree.erase.text := by
    obtain ⟨after, -, relaxes⟩ := relaxFrom_sourceTree valid rfl false
    rw [List.append_nil] at relaxes
    rw [relaxChars, relaxes, relaxFrom.eq_1, List.append_nil]
  have quiet : endsInsideComment tree.erase.text = false := by
    have nothing : endsInComment .start (tree.erase.text ++ []) = endsInComment .start [] :=
      endsInComment_erase rfl rfl valid []
    rw [List.append_nil] at nothing
    exact nothing.trans (by rw [endsInComment.eq_def]; rfl)
  refine ⟨erased, ?_⟩
  rw [relax, String.toList_ofList, erased, wrapChars, quiet]
  simp [SourceTree.text, Opening.text]

/-- A tree with classes in a class, a look-around with a group, a reference and a class in it,
and possessive quantifiers. -/
def nestedTree : SourceTree :=
  .alternation
    (.concatenation
      (.look true false
        (.concatenation
          (.group (.named false ['n']) (.set ⟨true, true, .character (.escape ']') .done⟩))
          (.reference (.numbered ['1']))))
      (.concatenation
        (.repetition
          (.set ⟨false, false,
            .range (.plain 'a') (.plain 'f')
              (.nested true (.character (.braced 'p' ['L']) .done) .done)⟩)
          ⟨.between ['2'] ['3'], false, true⟩)
        (.repetition (.group (.flags ['i', '-', 's']) (.escape 'd')) ⟨.plus, false, true⟩)))
    (.concatenation (.reference (.keyed ['n'])) (.group .atomic .empty))

theorem relax_text_eq_erase_text_nestedTree :
    nestedTree.isValid false [] ∧
      relax (String.ofList "(?<=(?<n>[^]\\]])\\1)[a-f[^\\p\x7bL\x7d]]\x7b2,3\x7d+(?i-s:\\d)++|\\k<n>(?>)".toList) =
        "(?:(?:)[a-f[^\\p\x7bL\x7d]]\x7b2,3\x7d(?i-s:\\d)+|(?s:.*?)(?:))" := by
  have valid : nestedTree.isValid false [] := by decide
  refine ⟨valid, ?_⟩
  have relaxed := (relax_text_eq_erase_text nestedTree valid).2
  have erased : String.ofList (SourceTree.group .plain nestedTree.erase).text =
      "(?:(?:)[a-f[^\\p\x7bL\x7d]]\x7b2,3\x7d(?i-s:\\d)+|(?s:.*?)(?:))" := by
    decide +kernel
  rw [← erased, ← relaxed]
  decide +kernel

end Pattern
end LineExtraction

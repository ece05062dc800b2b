import LineExtraction.Pattern.Relax
import LineExtraction.Proofs.Compilation.Groups
import LineExtraction.Proofs.Pattern.Scanning

/-!
# Relaxing phrases

Relaxing reads characters.  On the text of a phrase it comes to the same as changing the
phrase: groups capture nothing, what looks around is empty, a reference stands for any text,
and quantifiers are not possessive.
-/

namespace LineExtraction
namespace Pattern

/-! ## Relaxed phrases -/

/-- The quantifier without a possessive sign. -/
def Quantifier.relaxed (quantifier : Quantifier) : Quantifier :=
  { quantifier with possessive := false }

/-- The sign of the group that stands for a group.  Only flags are kept. -/
def GroupSign.relaxed : GroupSign → GroupSign
  | fold => fold
  | dotAll => dotAll
  | _ => plain

namespace Phrase

/-- Any text, as short as will do. -/
def anything : Phrase := .leaf .dot (some ⟨.star, true, false⟩) .done

/-- The phrase as a discriminator has it. -/
def relaxed : Phrase → Phrase
  | done => .done
  | leaf atom quantifier rest =>
    if atom.isReference then
      .group .dotAll anything (quantifier.map Quantifier.relaxed) rest.relaxed
    else .leaf atom (quantifier.map Quantifier.relaxed) rest.relaxed
  | group sign body quantifier rest =>
    .group sign.relaxed (if sign.isLook then .done else body.relaxed)
      (quantifier.map Quantifier.relaxed) rest.relaxed
  | bar rest => .bar rest.relaxed

theorem isValid_relaxed
    {phrase : Phrase}
    (valid : phrase.isValid) :
    phrase.relaxed.isValid := by
  have counts {quantifier : Option Quantifier} (given : quantifier.all (·.counts.isValid)) :
      (quantifier.map Quantifier.relaxed).all (·.counts.isValid) := by
    rw [Option.all_map]
    exact given
  induction phrase with
  | done => rfl
  | leaf atom quantifier rest inductionHypothesis =>
      obtain ⟨own, others⟩ := allOf_leaf_iff.mp valid
      obtain ⟨atomValid, counted, bare⟩ := of_decide_eq_true own
      rw [relaxed]
      split
      · exact allOf_group_iff.mpr
          ⟨decide_eq_true ⟨rfl, counts counted⟩, rfl, inductionHypothesis others⟩
      · refine allOf_leaf_iff.mpr ⟨decide_eq_true ⟨atomValid, counts counted, ?_⟩,
          inductionHypothesis others⟩
        rw [Option.isNone_map]
        exact bare
  | group sign body quantifier rest bodyHypothesis restHypothesis =>
      obtain ⟨own, bodyValid, others⟩ := allOf_group_iff.mp valid
      obtain ⟨-, counted⟩ := of_decide_eq_true own
      refine allOf_group_iff.mpr ⟨decide_eq_true ⟨?_, counts counted⟩, ?_, restHypothesis others⟩
      · cases sign <;> rfl
      · split
        · rfl
        · exact bodyHypothesis bodyValid
  | bar rest inductionHypothesis => exact inductionHypothesis valid

/-- Both dialects know what a phrase is relaxed to. -/
theorem isCommon_relaxed
    (phrase : Phrase) :
    phrase.relaxed.isCommon := by
  have gentle (quantifier : Option Quantifier) :
      (quantifier.map Quantifier.relaxed).all fun quantifier => ¬ quantifier.possessive := by
    cases quantifier <;> rfl
  induction phrase with
  | done => rfl
  | leaf atom quantifier rest inductionHypothesis =>
      rw [relaxed]
      split
      · exact allOf_group_iff.mpr ⟨decide_eq_true ⟨rfl, gentle quantifier⟩, rfl, inductionHypothesis⟩
      · next copied =>
          exact allOf_leaf_iff.mpr ⟨decide_eq_true ⟨copied, gentle quantifier⟩, inductionHypothesis⟩
  | group sign body quantifier rest bodyHypothesis restHypothesis =>
      refine allOf_group_iff.mpr ⟨decide_eq_true ⟨?_, gentle quantifier⟩, ?_, restHypothesis⟩
      · cases sign <;> rfl
      · split
        · rfl
        · exact bodyHypothesis
  | bar rest inductionHypothesis => exact inductionHypothesis

theorem names_relaxed
    (phrase : Phrase) :
    phrase.relaxed.names = [] := by
  induction phrase with
  | done => rfl
  | leaf atom quantifier rest inductionHypothesis =>
      rw [relaxed]
      split
      · rw [names, inductionHypothesis]
        rfl
      · exact inductionHypothesis
  | group sign body quantifier rest bodyHypothesis restHypothesis =>
      rw [relaxed, names, restHypothesis]
      cases sign <;> first | exact bodyHypothesis.symm ▸ rfl | rfl
  | bar rest inductionHypothesis => exact inductionHypothesis

theorem captures_relaxed
    (phrase : Phrase) :
    phrase.relaxed.captures = 0 := by
  induction phrase with
  | done => rfl
  | leaf atom quantifier rest inductionHypothesis =>
      rw [relaxed]
      split
      · rw [captures, inductionHypothesis]
        rfl
      · exact inductionHypothesis
  | group sign body quantifier rest bodyHypothesis restHypothesis =>
      rw [relaxed, captures, restHypothesis]
      cases sign <;> first | exact bodyHypothesis.symm ▸ rfl | rfl
  | bar rest inductionHypothesis => exact inductionHypothesis

end Phrase

/-! ## Tokens -/

/-- The characters that relaxing does not just copy. -/
def relaxable : List Char := ['\\', '[', '(', '\x7b', '\x7d', '+', '*', '?']

theorem relaxFrom_cons
    {char : Char}
    (plain : char ∉ relaxable)
    (after counted : Bool)
    (more : List Char) :
    relaxFrom ⟨after, counted⟩ (char :: more) = char :: relaxFrom ⟨false, counted⟩ more := by
  have apart {other : Char} (member : other ∈ relaxable) : char ≠ other := by
    rintro rfl
    exact plain member
  rw [relaxFrom.eq_2, relaxToken.eq_9]
  · rfl
  all_goals exact apart (by decide)

theorem relaxFrom_lacking
    {text : List Char}
    (lacks : Lacks relaxable text)
    (counted : Bool)
    (more : List Char) :
    relaxFrom ⟨false, counted⟩ (text ++ more) = text ++ relaxFrom ⟨false, counted⟩ more := by
  induction text with
  | nil => rfl
  | cons char text inductionHypothesis =>
      obtain ⟨plain, others⟩ := List.forall_mem_cons.mp lacks
      rw [List.cons_append, relaxFrom_cons plain, inductionHypothesis others, List.cons_append]

theorem relaxFrom_escape
    {text copied rest : List Char}
    (relaxes : relaxEscape text = (copied, rest))
    (after counted : Bool) :
    relaxFrom ⟨after, counted⟩ ('\\' :: text) = copied ++ relaxFrom ⟨false, counted⟩ rest := by
  rw [relaxFrom.eq_2, relaxToken, relaxes]

theorem relaxFrom_group
    {text copied rest : List Char}
    (relaxes : relaxGroup text = (copied, rest))
    (after counted : Bool) :
    relaxFrom ⟨after, counted⟩ ('(' :: text) = copied ++ relaxFrom ⟨false, counted⟩ rest := by
  rw [relaxFrom.eq_2, relaxToken, relaxes]

theorem cutPast_lacking
    {terminator : Char}
    {text : List Char}
    (lacks : Lacks [terminator] text)
    (more : List Char) :
    cutPast terminator (text ++ terminator :: more) = ⟨text ++ [terminator], more⟩ := by
  induction text with
  | nil => simp [cutPast]
  | cons char text inductionHypothesis =>
      obtain ⟨plain, others⟩ := List.forall_mem_cons.mp lacks
      have apart : char ≠ terminator := fun same => plain (List.mem_singleton.mpr same)
      rw [List.cons_append, cutPast, if_neg apart, inductionHypothesis others]
      rfl

/-- The letters behind a backslash that relaxing does not just copy. -/
def relaxableLetters : List Char :=
  ['1', '2', '3', '4', '5', '6', '7', '8', '9', 'k', 'x', 'u', 'U', 'p', 'P']

theorem not_digit_of_not_relaxable
    {letter : Char}
    (plain : letter ∉ relaxableLetters) :
    ¬ ('1' ≤ letter ∧ letter ≤ '9') := by
  rintro ⟨low, high⟩
  have digit : letter.isDigit := by
    have zero : '0' ≤ letter := Char.le_trans (by decide) low
    simpa [Char.isDigit, Char.le_def] using And.intro zero high
  obtain rfl | member := List.mem_cons.mp (mem_digits_of_isDigit digit)
  · exact absurd low (by decide)
  · exact plain (List.mem_append_left ['k', 'x', 'u', 'U', 'p', 'P'] member)

theorem relaxEscape_letter
    {letter : Char}
    (plain : letter ∉ relaxableLetters)
    (more : List Char) :
    relaxEscape (letter :: more) = (['\\', letter], more) := by
  have digit := not_digit_of_not_relaxable plain
  have key : letter ≠ 'k' := by
    rintro rfl
    exact plain (by decide)
  have braces : takesBraces letter = false :=
    decide_eq_false fun taken => plain (List.Subset.trans (by decide)
      (List.Subset.refl relaxableLetters) taken)
  cases more with
  | nil => simp [relaxEscape, digit]
  | cons first more => simp [relaxEscape, digit, key, braces]

section
variable {letter : Char} (takes : takesBraces letter)
include takes

theorem not_digit_of_takesBraces :
    ¬ ('1' ≤ letter ∧ letter ≤ '9') := by
  have checked : ∀ letter ∈ ['x', 'u', 'U', 'p', 'P'], ¬ ('1' ≤ letter ∧ letter ≤ '9') := by decide
  exact checked letter (of_decide_eq_true takes)

theorem relaxEscape_bare
    {more : List Char}
    (bare : more.head? ≠ some '\x7b') :
    relaxEscape (letter :: more) = (['\\', letter], more) := by
  have digit := not_digit_of_takesBraces takes
  have key : letter ≠ 'k' := by
    rintro rfl
    exact absurd takes (by decide)
  cases more with
  | nil => simp [relaxEscape, digit]
  | cons first more =>
      have apart : first ≠ '\x7b' := fun same => bare (congrArg some same)
      simp [relaxEscape, digit, key, apart]

theorem relaxEscape_braces
    {name : List Char}
    (lacks : Lacks ['\x7d'] name)
    (more : List Char) :
    relaxEscape (letter :: '\x7b' :: name ++ '\x7d' :: more) =
      ('\\' :: letter :: '\x7b' :: name ++ ['\x7d'], more) := by
  have digit := not_digit_of_takesBraces takes
  simp [relaxEscape, digit, takes, cutPast_lacking lacks]

end

/-! ## Atoms -/

theorem relaxFrom_code
    {letter : Char}
    (takes : takesBraces letter)
    {rest : List Char}
    (some : rest ≠ [])
    (lacks : Lacks relaxable rest)
    (after counted : Bool)
    (more : List Char) :
    relaxFrom ⟨after, counted⟩ ('\\' :: letter :: rest ++ more) =
      '\\' :: letter :: rest ++ relaxFrom ⟨false, counted⟩ more := by
  have bare : (rest ++ more).head? ≠ Option.some '\x7b' := by
    cases rest with
    | nil => exact absurd rfl some
    | cons first rest =>
        intro opens
        obtain rfl := Option.some.inj opens
        exact lacks '\x7b' List.mem_cons_self (by decide)
  rw [List.cons_append, List.cons_append, relaxFrom_escape (relaxEscape_bare takes bare),
    relaxFrom_lacking lacks]
  rfl

theorem relaxFrom_braces
    {letter : Char}
    (takes : takesBraces letter)
    {name : List Char}
    (lacks : Lacks ['\x7d'] name)
    (after counted : Bool)
    (more : List Char) :
    relaxFrom ⟨after, counted⟩ ('\\' :: letter :: '\x7b' :: name ++ ['\x7d'] ++ more) =
      '\\' :: letter :: '\x7b' :: name ++ ['\x7d'] ++ relaxFrom ⟨false, counted⟩ more := by
  have relaxes := relaxFrom_escape (relaxEscape_braces takes lacks more) after counted
  simpa using relaxes

theorem relaxFrom_spelling
    {spelling : Spelling}
    (valid : spelling.isValid outsideSpecial)
    (after : Bool)
    (more : List Char) :
    relaxFrom ⟨after, false⟩ (spelling.text ++ more) =
      spelling.text ++ relaxFrom ⟨false, false⟩ more := by
  have subset : ∀ char ∈ relaxable, char ∈ outsideSpecial ∨ char = '\x7d' := by decide
  have escape {letter : Char} (plain : letter ∉ relaxableLetters) :
      relaxFrom ⟨after, false⟩ ('\\' :: letter :: more) =
        '\\' :: letter :: relaxFrom ⟨false, false⟩ more :=
    relaxFrom_escape (relaxEscape_letter plain more) after false
  have codes : ∀ letter ∈ Spelling.codeLetters, takesBraces letter := by decide
  cases spelling with
  | plain char =>
      have outside : char ∉ outsideSpecial := of_decide_eq_true valid
      by_cases closing : char = '\x7d'
      · rw [closing]
        exact relaxFrom.eq_2 _ _ _
      · exact relaxFrom_cons (fun taken => (subset char taken).elim outside closing) after false more
  | escaped char =>
      have checked : relaxableLetters.all fun letter => !Linear.isEscapable letter := by
        decide
      refine escape fun taken => ?_
      have apart := List.all_eq_true.mp checked char taken
      rw [show Linear.isEscapable char = true from valid] at apart
      exact Bool.false_ne_true apart
  | control letter =>
      have checked : ∀ letter ∈ relaxableLetters, ¬ (Linear.controlNamed? letter).isSome := by decide
      exact escape fun taken => checked letter taken valid
  | code letter digits =>
      obtain ⟨known, width, hex, -⟩ := of_decide_eq_true valid
      have some : digits ≠ [] := by
        rintro rfl
        have wide : Spelling.codeWidth letter ≠ 0 := by
          unfold Spelling.codeWidth
          split <;> (try split) <;> decide
        exact wide width.symm
      have checked : ∀ char ∈ relaxable, ¬ isHexDigit char := by decide
      have lacks : Lacks relaxable digits := fun char member taken =>
        checked char taken (List.all_eq_true.mp hex char member)
      exact relaxFrom_code (codes letter known) some lacks after false more
  | bracedCode letter digits =>
      obtain ⟨known, -, -, hex, -⟩ := of_decide_eq_true valid
      exact relaxFrom_braces (codes letter known) ((lacks_of_isHexDigit hex).mono (by decide)) after
        false more

theorem relaxFrom_named
    {kind : NamedClass}
    (valid : kind.isValid)
    (after : Bool)
    (more : List Char) :
    relaxFrom ⟨after, false⟩ (kind.text ++ more) = kind.text ++ relaxFrom ⟨false, false⟩ more := by
  have property (negated : Bool) : takesBraces (NamedClass.propertyLetter negated) := by
    cases negated <;> decide
  cases kind with
  | perl negated kind =>
      have plain : NamedClass.perlLetter negated kind ∉ relaxableLetters := by
        cases negated <;> cases kind <;> decide
      exact relaxFrom_escape (relaxEscape_letter plain more) after false
  | short negated letter =>
      have checked : ∀ char ∈ relaxable, ¬ char.isAlpha := by decide
      exact relaxFrom_code (property negated) (List.cons_ne_nil letter [])
        (List.forall_mem_singleton.mpr fun taken => checked letter taken valid) after false more
  | long negated name =>
      have lacks : Lacks NamedClass.delimiters name := fun char member =>
        of_decide_eq_true (List.all_eq_true.mp valid char member)
      exact relaxFrom_braces (property negated) (lacks.mono (by decide)) after false more

/-- An atom that is no reference is copied. -/
theorem relaxFrom_leaf
    {atom : Leaf}
    (valid : atom.isValid)
    (copied : atom.isReference = false)
    (after : Bool)
    (more : List Char) :
    relaxFrom ⟨after, false⟩ (atom.text ++ more) = atom.text ++ relaxFrom ⟨false, false⟩ more := by
  cases atom with
  | char spelling => exact relaxFrom_spelling valid after more
  | dot => exact relaxFrom_cons (by decide) after false more
  | named kind => exact relaxFrom_named valid after more
  | bracket set =>
      rw [Leaf.text, Bracket.text, List.cons_append, relaxFrom.eq_2, relaxToken,
        cutClass_body valid]
  | anchor kind =>
      have escape {letter : Char} (plain : letter ∉ relaxableLetters) :
          relaxFrom ⟨after, false⟩ ('\\' :: letter :: more) =
            '\\' :: letter :: relaxFrom ⟨false, false⟩ more :=
        relaxFrom_escape (relaxEscape_letter plain more) after false
      cases kind with
      | startLine => exact relaxFrom_cons (by decide) after false more
      | endLine => exact relaxFrom_cons (by decide) after false more
      | _ => exact escape (by decide)
  | reference keyed name => cases copied

/-- A reference becomes any text. -/
theorem relaxFrom_reference
    (keyed : Bool)
    {name : List Char}
    (valid : isGroupName name)
    (after : Bool)
    (more : List Char) :
    relaxFrom ⟨after, false⟩ ((Leaf.reference keyed name).text ++ more) =
      anyText ++ relaxFrom ⟨false, false⟩ more := by
  have lacks := lacks_of_isGroupName valid
  cases keyed with
  | true =>
      have relaxes : relaxEscape ('k' :: '<' :: (name ++ '>' :: more)) = (anyText, more) := by
        simp [relaxEscape, cutPast_lacking (lacks.mono (by decide : ['>'] ⊆ nameless))]
      simp [Leaf.text, relaxFrom_escape relaxes]
  | false =>
      have passed : Lacks scanned ('?' :: 'P' :: '=' :: name) :=
        lacks_append_iff.mpr ⟨(by decide : Lacks scanned ['?', 'P', '=']), lacks.mono (by decide)⟩
      have relaxes : relaxGroup ('?' :: 'P' :: '=' :: (name ++ ')' :: more)) = (anyText, more) := by
        have left := afterGroupBody_lacking 0 passed (')' :: more)
        rw [List.cons_append, List.cons_append, List.cons_append] at left
        rw [relaxGroup, left, afterGroupBody.eq_6]
      simp [Leaf.text, relaxFrom_group relaxes]

/-! ## Quantifiers -/

theorem relaxFrom_counts
    {counts : Counts}
    (decimal : counts.areDecimal)
    (more : List Char) :
    relaxFrom ⟨false, false⟩ (counts.text ++ more) =
      counts.text ++ relaxFrom ⟨true, false⟩ more := by
  have lacks {digits : List Char} (decimal : Counts.isDecimal digits) : Lacks relaxable digits := by
    have checked : ∀ char ∈ relaxable, ¬ char.isDigit := by decide
    exact fun char member taken =>
      checked char taken (List.all_eq_true.mp (of_decide_eq_true decimal).2 char member)
  have opens {digits : List Char} (decimal : Counts.isDecimal digits) (behind : List Char) :
      relaxFrom ⟨false, false⟩ ('\x7b' :: (digits ++ behind)) =
        '\x7b' :: (digits ++ relaxFrom ⟨false, true⟩ behind) := by
    obtain ⟨some, all⟩ := of_decide_eq_true decimal
    obtain ⟨first, rest, rfl⟩ := List.exists_cons_of_ne_nil some
    have counted : (first :: rest ++ behind).head?.any Char.isDigit = true :=
      List.all_eq_true.mp all first List.mem_cons_self
    rw [relaxFrom.eq_2, relaxToken, ← relaxFrom_lacking (lacks decimal)]
    simp only [counted]
    rfl
  have closes (behind : List Char) :
      relaxFrom ⟨false, true⟩ ('\x7d' :: behind) = '\x7d' :: relaxFrom ⟨true, false⟩ behind :=
    relaxFrom.eq_2 _ _ _
  have comma (behind : List Char) :
      relaxFrom ⟨false, true⟩ (',' :: behind) = ',' :: relaxFrom ⟨false, true⟩ behind :=
    relaxFrom_cons (by decide) false true behind
  cases counts with
  | exactly digits => simp [Counts.text, opens decimal, closes]
  | atLeast digits => simp [Counts.text, opens decimal, comma, closes]
  | between least greatest =>
      obtain ⟨low, high⟩ := of_decide_eq_true decimal
      simp [Counts.text, opens low, comma, relaxFrom_lacking (lacks high), closes]
  | _ => exact relaxFrom.eq_2 _ _ _

/-- A quantifier loses its possessive sign. -/
theorem relaxFrom_textOf
    {quantifier : Option Quantifier}
    (decimal : quantifier.all (·.counts.areDecimal))
    (more : List Char) :
    ∃ after, relaxFrom ⟨false, false⟩ (Quantifier.textOf quantifier ++ more) =
      Quantifier.textOf (quantifier.map Quantifier.relaxed) ++ relaxFrom ⟨after, false⟩ more := by
  have question (behind : List Char) :
      relaxFrom ⟨true, false⟩ ('?' :: behind) = '?' :: relaxFrom ⟨true, false⟩ behind :=
    relaxFrom.eq_2 _ _ _
  have plus (behind : List Char) :
      relaxFrom ⟨true, false⟩ ('+' :: behind) = relaxFrom ⟨false, false⟩ behind :=
    relaxFrom.eq_2 _ _ _
  cases quantifier with
  | none => exact ⟨false, rfl⟩
  | some quantifier =>
      obtain ⟨counts, lazy, possessive⟩ := quantifier
      refine ⟨!possessive, ?_⟩
      have counted := relaxFrom_counts (show counts.areDecimal from decimal)
      cases lazy <;> cases possessive <;>
        simp [Quantifier.textOf, Quantifier.text, Quantifier.relaxed, counted, question, plus]

/-! ## Groups -/

/-- The header of a group that does not look around loses all but its flags. -/
theorem relaxFrom_sign
    {sign : GroupSign}
    (valid : sign.isValid)
    (stays : sign.isLook = false)
    (after : Bool)
    {more : List Char}
    (clear : isClear more) :
    relaxFrom ⟨after, false⟩ (sign.text ++ more) =
      sign.relaxed.text ++ relaxFrom ⟨false, false⟩ more := by
  have flag {letter : Char} (plain : letter ∉ [':', '>', '=', '!', '<', 'P'])
      (copied : letter ∉ relaxable) :
      relaxFrom ⟨after, false⟩ ('(' :: '?' :: letter :: ':' :: more) =
        '(' :: '?' :: letter :: ':' :: relaxFrom ⟨false, false⟩ more := by
    have apart {other : Char} (member : other ∈ [':', '>', '=', '!', '<', 'P']) :
        letter ≠ other := by
      rintro rfl
      exact plain member
    have relaxes : relaxGroup ('?' :: letter :: ':' :: more) =
        ("(?".toList, letter :: ':' :: more) := by
      simp [relaxGroup, apart]
    rw [relaxFrom_group relaxes, relaxFrom_cons copied, relaxFrom_cons (by decide)]
    rfl
  cases sign with
  | capture =>
      refine relaxFrom_group ?_ after false
      cases more with
      | nil => rfl
      | cons first more =>
          have apart : first ≠ '?' := by
            rintro rfl
            exact Bool.false_ne_true clear
          simp [relaxGroup, GroupSign.relaxed, plainGroup, GroupSign.text, apart]
  | named long name =>
      have lacks : Lacks ['>'] name := (lacks_of_isGroupName valid).mono (by decide)
      have cut : cutPast '>' (name ++ '>' :: more) = ⟨name ++ ['>'], more⟩ :=
        cutPast_lacking lacks more
      cases long with
      | true =>
          have relaxes : relaxGroup ('?' :: 'P' :: '<' :: (name ++ '>' :: more)) =
              (plainGroup, more) := by
            rw [relaxGroup, cut]
          simp [GroupSign.text, GroupSign.relaxed, relaxFrom_group relaxes, plainGroup]
      | false =>
          have relaxes : relaxGroup ('?' :: '<' :: (name ++ '>' :: more)) = (plainGroup, more) := by
            have first {char : Char} (apart : char ∈ nameless) (rest : List Char) :
                name ++ '>' :: more ≠ char :: rest := by
              cases name with
              | nil => exact absurd valid Bool.false_ne_true
              | cons first name =>
                  intro same
                  obtain ⟨rfl, -⟩ := List.cons.inj same
                  exact (lacks_of_isGroupName valid : Lacks nameless (_ :: name)) _
                    List.mem_cons_self apart
            rw [relaxGroup.eq_7 _ (first (by decide)) (first (by decide)), cut]
          simp [GroupSign.text, GroupSign.relaxed, relaxFrom_group relaxes, plainGroup]
  | plain => exact relaxFrom_group rfl after false
  | fold => exact flag (by decide) (by decide)
  | dotAll => exact flag (by decide) (by decide)
  | atomic => exact relaxFrom_group rfl after false
  | look behind negative => cases stays

/-- What looks around becomes an empty group. -/
theorem relaxFrom_look
    (behind negative : Bool)
    {body : Phrase}
    (valid : body.isValid)
    (after : Bool)
    (more : List Char) :
    relaxFrom ⟨after, false⟩ ((GroupSign.look behind negative).text ++ (body.text ++ ')' :: more)) =
      emptyGroup ++ relaxFrom ⟨false, false⟩ more := by
  have skipped (sign : List Char) (lacks : Lacks scanned sign) :
      afterGroupBody 0 (sign ++ (body.text ++ ')' :: more)) = more := by
    rw [afterGroupBody_lacking 0 lacks, afterGroupBody_phrase 0 valid, afterGroupBody.eq_6]
  cases behind <;> cases negative
  · have left := skipped ['?', '='] (by decide)
    exact relaxFrom_group ((relaxGroup.eq_3 _).trans (congrArg (Prod.mk emptyGroup) left)) after false
  · have left := skipped ['?', '!'] (by decide)
    exact relaxFrom_group ((relaxGroup.eq_4 _).trans (congrArg (Prod.mk emptyGroup) left)) after false
  · have left := skipped ['?', '<', '='] (by decide)
    exact relaxFrom_group ((relaxGroup.eq_5 _).trans (congrArg (Prod.mk emptyGroup) left)) after false
  · have left := skipped ['?', '<', '!'] (by decide)
    exact relaxFrom_group ((relaxGroup.eq_6 _).trans (congrArg (Prod.mk emptyGroup) left)) after false

/-! ## Phrases -/

theorem Phrase.text_anything : anything.text = ['.', '*', '?'] := rfl

theorem anyText_eq : anyText = GroupSign.dotAll.text ++ ['.', '*', '?', ')'] := by decide

/-- Relaxing the text of a phrase is relaxing the phrase. -/
theorem relaxFrom_phrase
    {phrase : Phrase}
    (valid : phrase.isValid)
    (before : Bool)
    {more : List Char}
    (clear : isClear more) :
    ∃ after, relaxFrom ⟨before, false⟩ (phrase.text ++ more) =
      phrase.relaxed.text ++ relaxFrom ⟨after, false⟩ more := by
  induction phrase generalizing before more with
  | done => exact ⟨before, rfl⟩
  | leaf atom quantifier rest inductionHypothesis =>
      obtain ⟨own, others⟩ := Phrase.allOf_leaf_iff.mp valid
      obtain ⟨atomValid, counts, -⟩ := of_decide_eq_true own
      obtain ⟨between, quantified⟩ := relaxFrom_textOf (Quantifier.areDecimal_of_isValid counts)
        (rest.text ++ more)
      obtain ⟨after, remaining⟩ := inductionHypothesis others between clear
      refine ⟨after, ?_⟩
      rw [Phrase.text, List.append_assoc, List.append_assoc, Phrase.relaxed]
      split
      · next refers =>
          cases atom with
          | reference keyed name =>
              rw [relaxFrom_reference keyed atomValid, quantified, remaining, Phrase.text,
                Phrase.text_anything, anyText_eq]
              simp
          | _ => cases refers
      · next copied =>
          rw [relaxFrom_leaf atomValid (Bool.eq_false_iff.mpr copied), quantified, remaining]
          simp [Phrase.text]
  | group sign body quantifier rest bodyHypothesis restHypothesis =>
      obtain ⟨own, bodyValid, others⟩ := Phrase.allOf_group_iff.mp valid
      obtain ⟨signValid, counts⟩ := of_decide_eq_true own
      obtain ⟨between, quantified⟩ := relaxFrom_textOf (Quantifier.areDecimal_of_isValid counts)
        (rest.text ++ more)
      obtain ⟨after, remaining⟩ := restHypothesis others between clear
      refine ⟨after, ?_⟩
      simp only [Phrase.text, List.append_assoc, List.cons_append, Phrase.relaxed]
      cases stays : sign.isLook with
      | true =>
          cases sign with
          | look behind negative =>
              rw [relaxFrom_look behind negative bodyValid, quantified, remaining]
              simp [Phrase.text, emptyGroup, GroupSign.text, GroupSign.relaxed]
          | _ => cases stays
      | false =>
          have closes : isClear (')' :: (Quantifier.textOf quantifier ++ (rest.text ++ more))) :=
            isClear_cons (by decide) _
          obtain ⟨inside, inner⟩ := bodyHypothesis bodyValid false closes
          rw [relaxFrom_sign signValid stays before (body.isClear_text_append bodyValid closes),
            inner, relaxFrom_cons (by decide), quantified, remaining]
          simp
  | bar rest inductionHypothesis =>
      obtain ⟨after, remaining⟩ := inductionHypothesis valid false clear
      refine ⟨after, ?_⟩
      rw [Phrase.text, List.cons_append, relaxFrom_cons (by decide), remaining]
      rfl

/-- The discriminator's text for a phrase is the text of the relaxed phrase. -/
theorem relaxChars_phrase
    {phrase : Phrase}
    (valid : phrase.isValid) :
    relaxChars phrase.text = phrase.relaxed.text := by
  obtain ⟨after, relaxes⟩ := relaxFrom_phrase valid false (show isClear [] from rfl)
  rw [List.append_nil] at relaxes
  rw [relaxChars, relaxes, relaxFrom.eq_1, List.append_nil]

end Pattern
end LineExtraction

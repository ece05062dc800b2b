import LineExtraction.Proofs.Backtracking.Naming
import LineExtraction.Proofs.Extraction.Writing
import LineExtraction.Proofs.Pattern.Relaxing

/-!
# Definitions as phrases

When the fragments of a definition are phrases, so is every pattern that is written for the
definition: text is a row of characters, a fragment is a plain group, and an expression is a
group too.  The pattern for the discriminator is the relaxed extraction pattern.
-/

namespace LineExtraction

open Pattern (Phrase Spelling GroupSign quoteWith isLinearMeta isBacktrackingMeta isGroupName)

/-! ## Text and whole lines -/

namespace Pattern.Phrase

/-- The phrase of quoted text. -/
def quoted (isMeta : Char → Bool) : List Char → Phrase
  | [] => .done
  | char :: text =>
    .leaf (.char (if isMeta char then .escaped char else .plain char)) none (quoted isMeta text)

/-- The phrase that matches whole lines only. -/
def anchored (phrase : Phrase) : Phrase :=
  .leaf (.anchor .startText) none (.group .plain phrase none (.leaf (.anchor .endText) none .done))

theorem text_quoted
    (isMeta : Char → Bool)
    (text : List Char) :
    (quoted isMeta text).text = quoteWith isMeta text := by
  induction text with
  | nil => rfl
  | cons char text inductionHypothesis =>
      rw [quoted, Phrase.text, inductionHypothesis, quoteWith]
      split <;> rfl

theorem allOf_quoted
    {leafOk : Leaf → Option Quantifier → Bool}
    (signOk : GroupSign → Option Quantifier → Bool)
    {isMeta : Char → Bool}
    (escaped : ∀ char, isMeta char → leafOk (.char (.escaped char)) none)
    (plain : ∀ char, ¬ isMeta char → leafOk (.char (.plain char)) none)
    (text : List Char) :
    (quoted isMeta text).allOf leafOk signOk := by
  induction text with
  | nil => rfl
  | cons char text inductionHypothesis =>
      refine allOf_leaf_iff.mpr ⟨?_, inductionHypothesis⟩
      split
      · next special => exact escaped char special
      · next bare => exact plain char bare

theorem relaxed_quoted
    (isMeta : Char → Bool)
    (text : List Char) :
    (quoted isMeta text).relaxed = quoted isMeta text := by
  induction text with
  | nil => rfl
  | cons char text inductionHypothesis =>
      exact congrArg (leaf _ none) inductionHypothesis

theorem relaxed_append
    (front back : Phrase) :
    (front.append back).relaxed = front.relaxed.append back.relaxed := by
  induction front with
  | done => rfl
  | leaf atom quantifier rest inductionHypothesis =>
      rw [append, relaxed, relaxed, inductionHypothesis]
      split <;> rfl
  | group sign body quantifier rest _ restHypothesis =>
      rw [append, relaxed, relaxed, restHypothesis]
      rfl
  | bar rest inductionHypothesis => exact congrArg bar inductionHypothesis

theorem relaxed_anchored
    (phrase : Phrase) :
    phrase.anchored.relaxed = phrase.relaxed.anchored := rfl

theorem allOf_anchored
    {leafOk : Leaf → Option Quantifier → Bool}
    {signOk : GroupSign → Option Quantifier → Bool}
    (anchors : ∀ kind, leafOk (.anchor kind) none)
    (plain : signOk .plain none)
    {phrase : Phrase}
    (inner : phrase.allOf leafOk signOk) :
    phrase.anchored.allOf leafOk signOk :=
  allOf_leaf_iff.mpr ⟨anchors .startText, allOf_group_iff.mpr ⟨plain, inner,
    allOf_leaf_iff.mpr ⟨anchors .endText, rfl⟩⟩⟩

theorem isValid_anchored
    {phrase : Phrase}
    (valid : phrase.isValid) :
    phrase.anchored.isValid :=
  allOf_anchored (fun _ => rfl) rfl valid

theorem isCommon_anchored
    {phrase : Phrase}
    (common : phrase.isCommon) :
    phrase.anchored.isCommon :=
  allOf_anchored (fun _ => rfl) rfl common

theorem text_anchored
    (phrase : Phrase) :
    phrase.anchored.text = '\\' :: 'A' :: '(' :: '?' :: ':' :: (phrase.text ++ [')', '\\', 'z']) := by
  simp [anchored, text, Leaf.text, Anchor.text, GroupSign.text, Quantifier.textOf]

theorem names_append
    (front back : Phrase) :
    (front.append back).names = back.names ++ front.names := by
  induction front with
  | done => exact (List.append_nil _).symm
  | leaf atom quantifier rest inductionHypothesis => exact inductionHypothesis
  | group sign body quantifier rest _ restHypothesis =>
      rw [append, names, names, restHypothesis, List.append_assoc]
  | bar rest inductionHypothesis => exact inductionHypothesis

end Pattern.Phrase

/-! ## Pieces -/

namespace Writing

/-- What a fragment becomes. -/
def phrase : Writing → Phrase → Phrase
  | discriminator, given => given.relaxed
  | extraction _, given => given

/-- The sign of the group of an expression. -/
def sign : Writing → Nat → GroupSign
  | discriminator, _ => .plain
  | extraction _, ordinal => .named true (expressionName ordinal)

/-- What a writing adds to the fragments is of some kinds. -/
structure Adds (writing : Writing) (leafOk : Pattern.Leaf → Option Pattern.Quantifier → Bool)
    (signOk : GroupSign → Option Pattern.Quantifier → Bool) : Prop where
  /-- Special characters are escaped. -/
  escaped : ∀ char, writing.isMeta char → leafOk (.char (.escaped char)) none
  /-- All others stand for themselves. -/
  plain : ∀ char, ¬ writing.isMeta char → leafOk (.char (.plain char)) none
  /-- A fragment stands in a plain group. -/
  wrapping : signOk .plain none
  /-- An expression stands in a group under its name. -/
  naming : ∀ ordinal, signOk (writing.sign ordinal) none

/-- The name of an expression's group is one that both dialects allow. -/
theorem isGroupName_expressionName
    (ordinal : Nat) :
    isGroupName (expressionName ordinal) := by
  have listed : ['e', '0', '1', '2', '3', '4', '5', '6', '7', '8', '9'].all fun char =>
      char.toNat < 128 ∧ (char.isAlpha ∨ char.isDigit) := by
    decide
  have isName (char : Char)
      (member : char ∈ ['e', '0', '1', '2', '3', '4', '5', '6', '7', '8', '9']) :
      Linear.isNameChar false char ∧ Backtracking.isNameChar char := by
    obtain ⟨ascii, kind⟩ := of_decide_eq_true (List.all_eq_true.mp listed char member)
    refine ⟨(Linear.isNameChar_iff_of_ascii ascii false).mpr (.inr ?_),
      (Backtracking.isNameChar_iff_of_ascii ascii).mpr (kind.imp_right .inl)⟩
    exact kind.imp_right fun digit => ⟨rfl, .inr (.inr (.inr digit))⟩
  have first : Linear.isNameChar true '_' ∧ Backtracking.isNameChar '_' :=
    ⟨(Linear.isNameChar_iff_of_ascii (by decide) true).mpr (.inl rfl),
      (Backtracking.isNameChar_iff_of_ascii (by decide)).mpr (.inr (.inr rfl))⟩
  rw [expressionName_eq, isGroupName, decide_eq_true_eq]
  refine ⟨first.1, first.2, List.all_eq_true.mpr fun char member => ?_⟩
  refine decide_eq_true (isName char ?_)
  obtain rfl | digit := List.mem_cons.mp member
  · exact List.mem_cons_self
  · exact List.mem_cons_of_mem _ (mem_digits_of_isDigit (isDigit_of_mem_toString digit))

theorem isLinearMeta_of_isMeta
    (writing : Writing)
    {char : Char}
    (special : writing.isMeta char) :
    isLinearMeta char := by
  have subset : ['\\', '.', '+', '*', '?', '(', ')', '|', '[', ']', '\x7b', '\x7d', '^', '$', '#'] ⊆
      ['\\', '.', '+', '*', '?', '(', ')', '|', '[', ']', '\x7b', '\x7d', '^', '$', '#', '&', '-',
        '~'] := by
    decide
  cases writing with
  | discriminator => exact special
  | extraction backend =>
      cases backend with
      | linear => exact special
      | backtracking => exact decide_eq_true (subset (of_decide_eq_true special))

theorem isMeta_of_mem_outsideSpecial
    (writing : Writing)
    {char : Char}
    (special : char ∈ Pattern.outsideSpecial) :
    writing.isMeta char := by
  have checked : ∀ char ∈ Pattern.outsideSpecial, isLinearMeta char ∧ isBacktrackingMeta char := by
    decide
  cases writing with
  | discriminator => exact (checked char special).1
  | extraction backend =>
      cases backend with
      | linear => exact (checked char special).1
      | backtracking => exact (checked char special).2

theorem adds_valid
    (writing : Writing) :
    writing.Adds
      (fun atom quantifier => atom.isValid ∧ quantifier.all (·.counts.isValid) ∧
        (quantifier.isNone ∨ ¬ atom.isAnchor))
      (fun sign quantifier => sign.isValid ∧ quantifier.all (·.counts.isValid)) where
  escaped char special := by
    have escapable : Linear.isEscapable char :=
      decide_eq_true (.inl (writing.isLinearMeta_of_isMeta special))
    exact decide_eq_true ⟨escapable, rfl, .inl rfl⟩
  plain char bare := by
    have outside : char ∉ Pattern.outsideSpecial := fun taken =>
      bare (writing.isMeta_of_mem_outsideSpecial taken)
    exact decide_eq_true ⟨decide_eq_true outside, rfl, .inl rfl⟩
  wrapping := rfl
  naming ordinal := by
    cases writing with
    | discriminator => rfl
    | extraction backend => exact decide_eq_true ⟨isGroupName_expressionName ordinal, rfl⟩

theorem adds_common
    (writing : Writing) :
    writing.Adds
      (fun atom quantifier => ¬ atom.isReference ∧
        quantifier.all fun quantifier => ¬ quantifier.possessive)
      (fun sign quantifier => sign.isCommon ∧
        quantifier.all fun quantifier => ¬ quantifier.possessive) where
  escaped _ _ := rfl
  plain _ _ := rfl
  wrapping := rfl
  naming ordinal := by cases writing <;> rfl

end Writing

namespace Piece

/-- Every source is the text of the phrase given for it. -/
structure Given (given : String → Phrase) (sources : List (String × Location)) : Prop where
  /-- The phrases are well-formed. -/
  valid : ∀ source ∈ sources, (given source.1).isValid
  /-- The sources are their texts. -/
  text : ∀ source ∈ sources, (given source.1).text = source.1.toList

theorem Given.left
    {given : String → Phrase}
    {front back : List (String × Location)}
    (isGiven : Given given (front ++ back)) :
    Given given front :=
  ⟨fun source member => isGiven.valid source (List.mem_append_left _ member),
    fun source member => isGiven.text source (List.mem_append_left _ member)⟩

theorem Given.right
    {given : String → Phrase}
    {front back : List (String × Location)}
    (isGiven : Given given (front ++ back)) :
    Given given back :=
  ⟨fun source member => isGiven.valid source (List.mem_append_right _ member),
    fun source member => isGiven.text source (List.mem_append_right _ member)⟩

mutual

/-- The phrase that a piece is written as. -/
def phrase (writing : Writing) (given : String → Phrase) (ordinal : Nat) : Piece → Phrase
  | text content _ => .quoted writing.isMeta content.toList
  | pattern source _ => .group .plain (writing.phrase (given source)) none .done
  | expression _ parts _ =>
    .group (writing.sign ordinal) (phraseOf writing given (ordinal + 1) parts) none .done

/-- The phrase that pieces in a row are written as. -/
def phraseOf (writing : Writing) (given : String → Phrase) (ordinal : Nat) : List Piece → Phrase
  | [] => .done
  | piece :: pieces =>
    (piece.phrase writing given ordinal).append
      (phraseOf writing given (ordinal + piece.expressions.length) pieces)

end

theorem text_sign
    (writing : Writing)
    (ordinal : Nat) :
    (writing.sign ordinal).text = writing.header ordinal := by
  cases writing <;> rfl

theorem text_fragment
    {writing : Writing}
    {given : String → Phrase}
    {sources : List (String × Location)}
    (isGiven : Given given sources)
    {source : String × Location}
    (member : source ∈ sources) :
    (writing.phrase (given source.1)).isValid ∧
      (writing.phrase (given source.1)).text = writing.fragment source.1 := by
  have valid := isGiven.valid source member
  have text := isGiven.text source member
  cases writing with
  | discriminator =>
      exact ⟨Phrase.isValid_relaxed valid, (Pattern.relaxChars_phrase valid).symm.trans
        (congrArg Pattern.relaxChars text)⟩
  | extraction backend => exact ⟨valid, text⟩

mutual

/-- A piece is spelled as the text of its phrase. -/
theorem text_phrase
    (writing : Writing)
    {given : String → Phrase}
    (ordinal : Nat)
    (piece : Piece)
    (isGiven : Given given piece.patterns) :
    (piece.phrase writing given ordinal).text = piece.spelled writing ordinal := by
  cases piece with
  | text content location => exact Phrase.text_quoted writing.isMeta content.toList
  | pattern source location =>
      obtain ⟨valid, text⟩ := text_fragment isGiven (show (source, location) ∈ _ from List.mem_cons_self)
      rw [phrase, ← Pattern.wrapChars_phrase valid, text]
      rfl
  | expression label parts location =>
      have inner := text_phraseOf writing (ordinal + 1) parts isGiven
      rw [phrase, Phrase.text, inner, text_sign, spelled]
      rfl

theorem text_phraseOf
    (writing : Writing)
    {given : String → Phrase}
    (ordinal : Nat)
    (pieces : List Piece)
    (isGiven : Given given (patternsOf pieces)) :
    (phraseOf writing given ordinal pieces).text = spelledAll writing ordinal pieces := by
  cases pieces with
  | nil => rfl
  | cons piece pieces =>
      rw [phraseOf, Phrase.text_append, text_phrase writing ordinal piece isGiven.left,
        text_phraseOf writing _ pieces isGiven.right]
      rfl

end

mutual

theorem allOf_phrase
    {writing : Writing}
    {given : String → Phrase}
    {leafOk : Pattern.Leaf → Option Pattern.Quantifier → Bool}
    {signOk : GroupSign → Option Pattern.Quantifier → Bool}
    (adds : writing.Adds leafOk signOk)
    (ordinal : Nat)
    (piece : Piece)
    (fragments : ∀ source ∈ piece.patterns,
      (writing.phrase (given source.1)).allOf leafOk signOk) :
    (piece.phrase writing given ordinal).allOf leafOk signOk := by
  cases piece with
  | text content location =>
      exact Phrase.allOf_quoted signOk adds.escaped adds.plain content.toList
  | pattern source location =>
      exact Phrase.allOf_group_iff.mpr
        ⟨adds.wrapping, fragments (source, location) List.mem_cons_self, rfl⟩
  | expression label parts location =>
      exact Phrase.allOf_group_iff.mpr
        ⟨adds.naming ordinal, allOf_phraseOf adds (ordinal + 1) parts fragments, rfl⟩

/-- Pieces are written as a phrase of some kinds of atoms and groups if their fragments are. -/
theorem allOf_phraseOf
    {writing : Writing}
    {given : String → Phrase}
    {leafOk : Pattern.Leaf → Option Pattern.Quantifier → Bool}
    {signOk : GroupSign → Option Pattern.Quantifier → Bool}
    (adds : writing.Adds leafOk signOk)
    (ordinal : Nat)
    (pieces : List Piece)
    (fragments : ∀ source ∈ patternsOf pieces,
      (writing.phrase (given source.1)).allOf leafOk signOk) :
    (phraseOf writing given ordinal pieces).allOf leafOk signOk := by
  cases pieces with
  | nil => rfl
  | cons piece pieces =>
      rw [phraseOf, Phrase.allOf_append, Bool.and_eq_true]
      exact ⟨allOf_phrase adds ordinal piece fun source member =>
          fragments source (List.mem_append_left _ member),
        allOf_phraseOf adds _ pieces fun source member =>
          fragments source (List.mem_append_right _ member)⟩

end

/-- The phrase of pieces is well-formed if the fragments are. -/
theorem isValid_phraseOf
    (writing : Writing)
    {given : String → Phrase}
    (ordinal : Nat)
    {pieces : List Piece}
    (isGiven : Given given (patternsOf pieces)) :
    (phraseOf writing given ordinal pieces).isValid :=
  allOf_phraseOf writing.adds_valid ordinal pieces fun _ member =>
    (text_fragment isGiven member).1

theorem isCommon_phraseOf
    {writing : Writing}
    {given : String → Phrase}
    (ordinal : Nat)
    {pieces : List Piece}
    (common : ∀ source ∈ patternsOf pieces, (writing.phrase (given source.1)).isCommon) :
    (phraseOf writing given ordinal pieces).isCommon :=
  allOf_phraseOf writing.adds_common ordinal pieces common

mutual

theorem relaxed_phrase
    (given : String → Phrase)
    (ordinal : Nat)
    (piece : Piece) :
    (piece.phrase (.extraction .linear) given ordinal).relaxed =
      piece.phrase .discriminator given ordinal := by
  cases piece with
  | text content location => exact Phrase.relaxed_quoted isLinearMeta content.toList
  | pattern source location => rfl
  | expression label parts location =>
      have inner := relaxed_phraseOf given (ordinal + 1) parts
      exact congrArg (Phrase.group .plain · none .done) inner

/-- The discriminator's phrase is the relaxed phrase of the extraction. -/
theorem relaxed_phraseOf
    (given : String → Phrase)
    (ordinal : Nat)
    (pieces : List Piece) :
    (phraseOf (.extraction .linear) given ordinal pieces).relaxed =
      phraseOf .discriminator given ordinal pieces := by
  cases pieces with
  | nil => rfl
  | cons piece pieces =>
      rw [phraseOf, Phrase.relaxed_append, relaxed_phrase given ordinal piece,
        relaxed_phraseOf given _ pieces]
      rfl

end

end Piece
end LineExtraction

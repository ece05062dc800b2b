import LineExtraction.Proofs.Linear.Composition
import LineExtraction.Proofs.Pattern.Phrase
import LineExtraction.Proofs.Text.Yields

/-!
# Spellings in the linear dialect

How the escapes of characters, classes and assertions, quantifiers and group headers are
read, whatever stands behind them.
-/

namespace LineExtraction
namespace Linear

open Pattern (Spelling NamedClass Anchor Counts Quantifier GroupSign isClear)

/-! ## Characters -/

theorem skipBlank_false
    (text : List Char) :
    skipBlank false text = text := rfl

/-- A run of characters that are accepted ends at the first one that is not. -/
theorem readRun_append_cons
    {accepts : Char → Bool}
    {run : List Char}
    (accepted : run.all accepts)
    (stop : Char)
    (refused : accepts stop = false)
    (more : List Char) :
    ∃ shorter, readRun false accepts (run ++ stop :: more) = ⟨run, stop :: more, shorter⟩ := by
  induction run with
  | nil =>
      rw [List.nil_append]
      refine ⟨Nat.le_refl _, ?_⟩
      rw [readRun, if_neg (Bool.eq_false_iff.mp refused)]
  | cons char run inductionHypothesis =>
      rw [List.all_cons, Bool.and_eq_true] at accepted
      obtain ⟨shorter, same⟩ := inductionHypothesis accepted.2
      rw [List.cons_append]
      refine ⟨Nat.le_succ_of_le shorter, ?_⟩
      rw [readRun, if_pos accepted.1]
      simp only [skipBlank_false, same]

theorem yields_readHexDigits
    {digits : List Char}
    (hex : digits.all isHexDigit)
    (more : List Char) :
    Yields (readHexDigits false digits.length (digits ++ more)) digits more := by
  induction digits with
  | nil => exact ⟨Nat.le_refl _, rfl⟩
  | cons digit digits inductionHypothesis =>
      rw [List.all_cons, Bool.and_eq_true] at hex
      obtain ⟨shorter, same⟩ := inductionHypothesis hex.2
      rw [List.cons_append]
      refine ⟨Nat.le_succ_of_le shorter, ?_⟩
      rw [List.length_cons, readHexDigits, if_pos hex.1,
        show readHexDigits false digits.length (skipBlank false (digits ++ more)) = _ from same]
      rfl

theorem charOfHex_of_isValidChar
    {digits : List Char}
    (valid : (hexValue digits).isValidChar) :
    charOfHex digits = .ok (Char.ofNat (hexValue digits)) :=
  if_pos valid

/-- A code of so many digits. -/
theorem yields_readHex_digits
    {digits : List Char}
    (hex : digits.all isHexDigit)
    (some : 0 < digits.length)
    (valid : (hexValue digits).isValidChar)
    (more : List Char) :
    Yields (readHex false digits.length (digits ++ more))
      ⟨Char.ofNat (hexValue digits), digits.length = 2⟩ more := by
  obtain ⟨shorter, same⟩ := yields_readHexDigits hex more
  cases digits with
  | nil => exact absurd some (Nat.lt_irrefl 0)
  | cons digit digits =>
      have brace : digit ≠ '\x7b' := by
        rintro rfl
        rw [List.all_cons, Bool.and_eq_true] at hex
        exact absurd hex.1 (by decide)
      refine ⟨shorter, ?_⟩
      rw [readHex]
      split
      · next nothing => cases nothing
      · next same => exact absurd (List.cons.inj same).1 brace
      · next first body _ split' =>
          obtain ⟨rfl, rfl⟩ := List.cons.inj split'
          rw [show readHexDigits false (digit :: digits).length (digit :: digits.append more) = _
            from same]
          simp only [bind, Except.bind, charOfHex_of_isValidChar valid]
          rfl

/-- A code in braces. -/
theorem yields_readHex_braces
    {digits : List Char}
    (hex : digits.all isHexDigit)
    (some : digits ≠ [])
    (valid : (hexValue digits).isValidChar)
    (count : Nat)
    (more : List Char) :
    Yields (readHex false count ('\x7b' :: digits ++ '\x7d' :: more))
      ⟨Char.ofNat (hexValue digits), false⟩ more := by
  obtain ⟨shorter, same⟩ := readRun_append_cons hex '\x7d' (by decide) more
  have braced : Yields (readBracedHex false (digits ++ '\x7d' :: more))
      ⟨Char.ofNat (hexValue digits), false⟩ more := by
    rw [yields_iff, readBracedHex]
    simp only [skipBlank_false]
    split
    · next ended => simp [same] at ended
    · next rest ended =>
        rw [same] at ended
        obtain rfl := (List.cons.inj ended).2
        have filled : (readRun false isHexDigit (digits ++ '\x7d' :: more)).value = digits := by
          rw [same]
        simp only [filled, List.isEmpty_iff, some, if_false, charOfHex_of_isValidChar valid]
        exact ⟨_, rfl, rfl, rfl⟩
    · next other => exact absurd (by rw [same]) (other more)
  rw [readHex]
  split
  · next nothing => cases nothing
  · next body opened =>
      obtain rfl := (List.cons.inj opened).2
      exact braced.weaken _
  · next other opened => exact absurd (List.cons.inj opened).1.symm other

/-- An escaped character is no letter with a meaning. -/
theorem escape_of_isEscapable
    {char : Char}
    (escapable : isEscapable char) :
    char.toNat < 0x80 ∧ ¬ char.isAlphanum ∧ char ≠ '<' ∧ char ≠ '>' := by
  rcases of_decide_eq_true escapable with special | ⟨ascii, letter, left, right⟩
  · have checked : ['\\', '.', '+', '*', '?', '(', ')', '|', '[', ']', '\x7b', '\x7d', '^', '$',
        '#', '&', '-', '~'].all fun char =>
          char.toNat < 0x80 ∧ ¬ char.isAlphanum ∧ char ≠ '<' ∧ char ≠ '>' := by
      decide
    exact of_decide_eq_true (List.all_eq_true.mp checked char (of_decide_eq_true special))
  · exact ⟨ascii, letter, left, right⟩

theorem ne_of_not_isAlphanum
    {char letter : Char}
    (other : ¬ char.isAlphanum)
    (alphanum : letter.isAlphanum) :
    char ≠ letter := by
  rintro rfl
  exact other alphanum

theorem yields_readEscape_escaped
    {char : Char}
    (escapable : isEscapable char)
    (more : List Char) :
    Yields (readEscape false (char :: more)) (.literal ⟨char, false⟩) more := by
  obtain ⟨-, letter, left, right⟩ := escape_of_isEscapable escapable
  have digit : ¬ char.isDigit := fun isDigit => letter (by simp [Char.isAlphanum, isDigit])
  have apart (other : Char) (alphanum : other.isAlphanum) : char ≠ other :=
    ne_of_not_isAlphanum letter alphanum
  have escape : escapeOf? char = some (.literal ⟨char, false⟩) := by
    rw [escapeOf?, if_pos escapable]
    all_goals first
      | exact left
      | exact right
      | exact apart _ (by decide)
  refine ⟨Nat.le_succ _, ?_⟩
  rw [readEscape]
  simp only [if_neg digit, if_neg (apart 'x' (by decide)),
    if_neg (apart 'u' (by decide)), if_neg (apart 'U' (by decide)),
    if_neg (not_or.mpr ⟨apart 'p' (by decide), apart 'P' (by decide)⟩),
    if_neg (apart 'b' (by decide)), escape]

theorem controlNamed?_cases
    {letter control : Char}
    (named : controlNamed? letter = some control) :
    letter ∈ ['a', 'f', 't', 'n', 'r', 'v'] := by
  unfold controlNamed? at named
  split at named <;> simp_all

theorem yields_readEscape_control
    {letter control : Char}
    (named : controlNamed? letter = some control)
    (more : List Char) :
    Yields (readEscape false (letter :: more)) (.literal ⟨control, false⟩) more := by
  have checked : ∀ letter ∈ ['a', 'f', 't', 'n', 'r', 'v'],
      ¬ letter.isDigit ∧ letter ≠ 'x' ∧ letter ≠ 'u' ∧ letter ≠ 'U' ∧
        ¬ (letter = 'p' ∨ letter = 'P') ∧ letter ≠ 'b' ∧
        escapeOf? letter = (controlNamed? letter).map fun control =>
          .literal ⟨control, false⟩ := by
    decide
  obtain ⟨digit, byte, short, long, property, boundary, escape⟩ :=
    checked letter (controlNamed?_cases named)
  refine ⟨Nat.le_succ _, ?_⟩
  rw [readEscape]
  simp only [if_neg digit, if_neg byte, if_neg short, if_neg long, if_neg property,
    if_neg boundary, escape, named, Option.map_some]

theorem yields_readEscape_code
    {letter : Char}
    {rest : List Char}
    (listed : letter ∈ Spelling.codeLetters)
    {literal : Literal}
    {more : List Char}
    (read : Yields (readHex false (Spelling.codeWidth letter) rest) literal more) :
    Yields (readEscape false (letter :: rest)) (.literal literal) more := by
  simp only [Spelling.codeLetters, List.mem_cons, List.not_mem_nil, or_false] at listed
  rcases listed with rfl | rfl | rfl <;> exact read.mapWeaken _ _

/-- An escape reads as the character that it spells. -/
theorem yields_readEscape_spelling
    {special tail : List Char}
    {spelling : Spelling}
    (valid : spelling.isValid special)
    (escaped : spelling.text = '\\' :: tail)
    (backslash : '\\' ∈ special)
    (more : List Char) :
    Yields (readEscape false (tail ++ more)) (.literal spelling.literal) more := by
  cases spelling with
  | plain char =>
      obtain ⟨rfl, -⟩ := List.cons.inj escaped
      exact absurd backslash (of_decide_eq_true valid)
  | escaped char =>
      obtain rfl := (List.cons.inj escaped).2
      exact yields_readEscape_escaped valid more
  | control letter =>
      obtain rfl := (List.cons.inj escaped).2
      obtain ⟨control, named⟩ := Option.isSome_iff_exists.mp valid
      have read := yields_readEscape_control named more
      rwa [show (⟨control, false⟩ : Literal) = (Spelling.control letter).literal by
        rw [Spelling.literal, Spelling.char, named]; rfl] at read
  | code letter digits =>
      obtain rfl := (List.cons.inj escaped).2
      obtain ⟨listed, width, hex, code⟩ := of_decide_eq_true valid
      have positive : 0 < Spelling.codeWidth letter ∧
          decide (Spelling.codeWidth letter = 2) = decide (letter = 'x') := by
        simp only [Spelling.codeLetters, List.mem_cons, List.not_mem_nil, or_false] at listed
        rcases listed with rfl | rfl | rfl <;> decide
      have read := yields_readHex_digits hex (width ▸ positive.1) code more
      rw [width, positive.2] at read
      exact yields_readEscape_code listed read
  | bracedCode letter digits =>
      obtain rfl := (List.cons.inj escaped).2
      obtain ⟨listed, some, -, hex, code⟩ := of_decide_eq_true valid
      have read := yields_readHex_braces hex some code (Spelling.codeWidth letter) more
      rw [show (letter :: '\x7b' :: digits).append ['\x7d'] ++ more =
        letter :: ('\x7b' :: digits ++ '\x7d' :: more) by simp]
      exact yields_readEscape_code listed read

/-! ## Classes and assertions -/

theorem yields_readUnicodeClass_short
    (negated : Bool)
    {letter : Char}
    (alpha : letter.isAlpha)
    (more : List Char) :
    Yields (readUnicodeClass false negated (letter :: more)) (.unicode negated (.named [letter]))
      more := by
  have brace : letter ≠ '\x7b' := by
    rintro rfl
    exact absurd alpha (by decide)
  have backslash : letter ≠ '\\' := by
    rintro rfl
    exact absurd alpha (by decide)
  rw [yields_iff, readUnicodeClass]
  split
  · next nothing => cases nothing
  · next opened => exact absurd (List.cons.inj opened).1 brace
  · next opened => exact absurd (List.cons.inj opened).1 backslash
  · next found =>
      obtain ⟨rfl, rfl⟩ := List.cons.inj found
      exact ⟨_, rfl, rfl, rfl⟩

theorem yields_readUnicodeClass_long
    (negated : Bool)
    {name : List Char}
    (bare : '\x7d' ∉ name)
    (more : List Char) :
    Yields (readUnicodeClass false negated ('\x7b' :: name ++ '\x7d' :: more))
      (classOfName negated name) more := by
  have accepted : name.all (· ≠ '\x7d') := by
    rw [List.all_eq_true]
    exact fun char member => decide_eq_true fun same => bare (same ▸ member)
  obtain ⟨shorter, same⟩ := readRun_append_cons accepted '\x7d' (by decide) more
  rw [yields_iff, readUnicodeClass]
  split
  · next nothing => cases nothing
  · next body opened =>
      obtain ⟨rfl⟩ : name ++ '\x7d' :: more = body := (List.cons.inj opened).2
      have value := congrArg Read.value same
      have left := congrArg Read.rest same
      dsimp only
      split
      · next ended => cases left.symm.trans ended
      · next stop rest ended =>
          obtain ⟨-, rfl⟩ := List.cons.inj (left.symm.trans ended)
          exact ⟨_, rfl, congrArg (classOfName negated) value, rfl⟩
  · next opened => exact absurd (List.cons.inj opened).1 (by decide)
  · next brace _ opened => exact absurd (List.cons.inj opened).1.symm brace

/-- The escape of a class reads as the class. -/
theorem yields_readEscape_named
    {kind : NamedClass}
    (valid : kind.isValid)
    {tail : List Char}
    (escaped : kind.text = '\\' :: tail)
    (more : List Char) :
    Yields (readEscape false (tail ++ more)) kind.primitive more := by
  cases kind with
  | perl negated kind =>
      obtain rfl := (List.cons.inj escaped).2
      cases negated <;> cases kind <;> exact ⟨Nat.le_succ _, rfl⟩
  | short negated letter =>
      obtain rfl := (List.cons.inj escaped).2
      have read := yields_readUnicodeClass_short negated valid more
      cases negated <;> exact read.weaken _
  | long negated name =>
      obtain rfl := (List.cons.inj escaped).2
      have bare : '\x7d' ∉ name := fun member =>
        of_decide_eq_true (List.all_eq_true.mp valid _ member) (by decide)
      have read := yields_readUnicodeClass_long negated bare more
      rw [show (NamedClass.propertyLetter negated :: '\x7b' :: name).append ['\x7d'] ++ more =
        NamedClass.propertyLetter negated :: ('\x7b' :: name ++ '\x7d' :: more) by simp]
      cases negated <;> exact read.weaken _

end Linear
end LineExtraction

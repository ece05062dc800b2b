import LineExtraction.Proofs.Backtracking.Reader.Quantifier
import LineExtraction.Proofs.Linear.Reader.Spelling

/-!
# Reading escapes

What both dialects know is read in the backtracking dialect as the character or class that
it is in the linear one.  Characters that are written by themselves or by their code fold
their case, and those behind a backslash do not, for they have no case.
-/

namespace LineExtraction
namespace Backtracking

open Pattern (Spelling NamedClass)

/-! ## Codes -/

theorem yields_readHex_digits
    {digits : List Char}
    (hex : digits.all isHexDigit)
    (valid : (hexValue digits).isValidChar)
    (more : List Char) :
    Yields (readHex digits.length (digits ++ more)) (Char.ofNat (hexValue digits)) more := by
  have taken : (digits ++ more).take digits.length = digits := List.take_left
  have left : (digits ++ more).drop digits.length = more := List.drop_left
  have char : charOfHex digits = .ok (Char.ofNat (hexValue digits)) := if_pos valid
  rw [yields_iff]
  unfold readHex
  simp only [taken, left, true_and, if_pos hex, char]
  exact ⟨_, rfl, rfl, rfl⟩

theorem yields_readHex_braces
    {digits : List Char}
    (hex : digits.all isHexDigit)
    (some : digits ≠ [])
    (short : digits.length ≤ Spelling.bracedWidth)
    (valid : (hexValue digits).isValidChar)
    {count : Nat}
    (wide : 0 < count)
    (more : List Char) :
    Yields (readHex count ('\x7b' :: digits ++ '\x7d' :: more)) (Char.ofNat (hexValue digits))
      more := by
  obtain ⟨shorter, run⟩ := readWhile_append_cons hex (by decide : isHexDigit '\x7d' = false) more
  have braced : Yields (readBracedHex (digits ++ '\x7d' :: more))
      (Char.ofNat (hexValue digits)) more := by
    have value := congrArg Read.value run
    have left := congrArg Read.rest run
    rw [yields_iff]
    unfold readBracedHex
    dsimp only
    split
    · next rest ended =>
        obtain ⟨-, rfl⟩ := List.cons.inj (left.symm.trans ended)
        have fits : ¬ (digits.isEmpty ∨ maximalHexDigits < digits.length) := by
          rw [List.isEmpty_iff]
          exact not_or.mpr ⟨some, Nat.not_lt.mpr short⟩
        have char : charOfHex digits = .ok (Char.ofNat (hexValue digits)) := if_pos valid
        simp only [value, if_neg fits, char]
        exact ⟨_, rfl, rfl, rfl⟩
    · next other => exact absurd left (other more)
  have bare : ¬ ((('\x7b' :: digits ++ '\x7d' :: more).take count).length = count ∧
      (('\x7b' :: digits ++ '\x7d' :: more).take count).all isHexDigit) := by
    rintro ⟨-, all⟩
    obtain ⟨less, rfl⟩ := Nat.exists_eq_succ_of_ne_zero (Nat.pos_iff_ne_zero.mp wide)
    rw [List.cons_append, List.take_succ_cons, List.all_cons, Bool.and_eq_true] at all
    exact absurd all.1 (by decide)
  unfold readHex
  rw [if_neg bare]
  exact braced.weaken _

/-! ## Escapes -/

section

variable (scope : Scope) (fold inClass : Bool)

/-- An escape that starts with no digit and is no assertion or reference. -/
theorem yields_readEscape_common
    {letter : Char}
    {rest more : List Char}
    {escape : Escape}
    (digit : ¬ letter.isDigit)
    (apart : inClass = false →
      letter ≠ 'k' ∧ isBracedBoundary letter rest = false ∧ assertionOf? letter = none)
    (read : Yields (readCommonEscape fold letter rest) escape more) :
    Yields (readEscape scope fold inClass (letter :: rest)) escape more := by
  rw [readEscape, if_neg digit]
  cases inClass with
  | true =>
      rw [if_neg fun both => both.1 rfl, if_neg fun both => both.1 rfl]
      exact read.weaken _
  | false =>
      obtain ⟨key, brace, plain⟩ := apart rfl
      rw [if_neg fun both => key both.2, if_neg fun both => Bool.false_ne_true (brace ▸ both.2),
        if_neg Bool.false_ne_true, plain]
      exact read.weaken _

end

end Backtracking

/-- Whether the character folds its case when the pattern does. -/
def Pattern.Spelling.folds : Pattern.Spelling → Bool
  | escaped _ => false
  | control _ => false
  | _ => true

namespace Backtracking

open Pattern (Spelling NamedClass)

theorem yields_readCommonEscape_code
    {letter : Char}
    (listed : letter ∈ Spelling.codeLetters)
    {rest more : List Char}
    {char : Char}
    (read : Yields (readHex (Spelling.codeWidth letter) rest) char more)
    (fold : Bool) :
    Yields (readCommonEscape fold letter rest) (.of (.literal char fold)) more := by
  simp only [Spelling.codeLetters, List.mem_cons, List.not_mem_nil, or_false] at listed
  rcases listed with rfl | rfl | rfl
  all_goals exact read.map _

theorem yields_readCommonEscape_plain
    {letter char : Char}
    (apart : letter ∉ ['h', 'H', 'x', 'u', 'U', 'd', 'D', 's', 'S', 'w', 'W', 'p', 'P'])
    (plain : plainEscape letter = .ok char)
    (fold : Bool)
    (more : List Char) :
    Yields (readCommonEscape fold letter more) (.of (.literal char false)) more := by
  simp only [List.mem_cons, List.not_mem_nil, or_false, not_or] at apart
  obtain ⟨lower, upper, two, four, eight, others⟩ := apart
  rw [yields_iff, readCommonEscape]
  · simp only [List.mem_cons, List.not_mem_nil, others, or_self, if_false, false_and, plain]
    exact ⟨_, rfl, rfl, rfl⟩
  · exact lower
  · exact upper
  · exact two
  · exact four
  · exact eight

theorem plainEscape_of_isEscapable
    {char : Char}
    (letter : ¬ char.isAlpha) :
    plainEscape char = .ok char := by
  unfold plainEscape
  split
  all_goals first | exact absurd (by decide) letter | skip
  exact if_neg fun both => letter both.1

/-- An escaped character reads as the character, inside of classes and outside. -/
theorem yields_readEscape_spelling
    {special tail : List Char}
    {spelling : Spelling}
    (valid : spelling.isValid special)
    (escaped : spelling.text = '\\' :: tail)
    (backslash : '\\' ∈ special)
    (scope : Scope)
    (fold inClass : Bool)
    (more : List Char) :
    Yields (readEscape scope fold inClass (tail ++ more))
      (.of (.literal spelling.char (fold && spelling.folds))) more := by
  have code {letter : Char} (listed : letter ∈ Spelling.codeLetters) (rest : List Char) :
      ¬ letter.isDigit ∧ letter ≠ 'k' ∧ isBracedBoundary letter rest = false ∧
        assertionOf? letter = none := by
    simp only [Spelling.codeLetters, List.mem_cons, List.not_mem_nil, or_false] at listed
    rcases listed with rfl | rfl | rfl
    all_goals exact ⟨by decide, by decide, rfl, rfl⟩
  cases spelling with
  | plain char =>
      obtain ⟨rfl, -⟩ := List.cons.inj escaped
      exact absurd backslash (of_decide_eq_true valid)
  | escaped char =>
      obtain rfl := (List.cons.inj escaped).2
      obtain ⟨-, alphanum, left, right⟩ := Linear.escape_of_isEscapable valid
      have apart {other : Char} (alphanumeric : other.isAlphanum) : char ≠ other :=
        Linear.ne_of_not_isAlphanum alphanum alphanumeric
      have digit : ¬ char.isDigit := fun isDigit => alphanum (by simp [Char.isAlphanum, isDigit])
      have letter : ¬ char.isAlpha := fun isAlpha => alphanum (by simp [Char.isAlphanum, isAlpha])
      have assertion : assertionOf? char = none := by
        unfold assertionOf?
        split
        all_goals first | rfl | exact absurd rfl (apart (by decide)) | exact absurd rfl left |
          exact absurd rfl right
      have common : char ∉ ['h', 'H', 'x', 'u', 'U', 'd', 'D', 's', 'S', 'w', 'W', 'p', 'P'] := by
        intro member
        have checked : ['h', 'H', 'x', 'u', 'U', 'd', 'D', 's', 'S', 'w', 'W', 'p', 'P'].all
            Char.isAlphanum := by
          decide
        exact apart (List.all_eq_true.mp checked char member) rfl
      rw [show (fold && (Spelling.escaped char).folds) = false from Bool.and_false fold]
      refine yields_readEscape_common scope fold inClass digit (fun _ => ⟨apart (by decide), ?_,
        assertion⟩) (yields_readCommonEscape_plain common (plainEscape_of_isEscapable letter) fold more)
      exact decide_eq_false fun both => both.1.elim (apart (by decide)) (apart (by decide))
  | control letter =>
      obtain rfl := (List.cons.inj escaped).2
      obtain ⟨char, named⟩ := Option.isSome_iff_exists.mp valid
      have checked : ∀ letter ∈ ['a', 'f', 't', 'n', 'r', 'v'],
          letter.isDigit = false ∧ letter ≠ 'k' ∧ letter ≠ 'b' ∧ letter ≠ 'B' ∧
            (assertionOf? letter).isNone ∧
            letter ∉ ['h', 'H', 'x', 'u', 'U', 'd', 'D', 's', 'S', 'w', 'W', 'p', 'P'] ∧
            (plainEscape letter).toOption = Linear.controlNamed? letter := by
        decide
      obtain ⟨digit, key, small, large, assertion, common, plain⟩ :=
        checked letter (Linear.controlNamed?_cases named)
      rw [named, Except.toOption_eq_some_iff] at plain
      rw [show (fold && (Spelling.control letter).folds) = false from Bool.and_false fold,
        show (Spelling.control letter).char = char by rw [Spelling.char, named]; rfl]
      refine yields_readEscape_common scope fold inClass (by simp [digit]) (fun _ => ⟨key, ?_,
        Option.isNone_iff_eq_none.mp assertion⟩) (yields_readCommonEscape_plain common plain fold more)
      exact decide_eq_false fun both => both.1.elim small large
  | code letter digits =>
      obtain rfl := (List.cons.inj escaped).2
      obtain ⟨listed, width, hex, valid⟩ := of_decide_eq_true valid
      have read := yields_readHex_digits hex valid more
      rw [width] at read
      obtain ⟨digit, apart⟩ := code listed (digits ++ more)
      rw [show (fold && (Spelling.code letter digits).folds) = fold from Bool.and_true fold]
      exact yields_readEscape_common scope fold inClass digit (fun _ => apart)
        (yields_readCommonEscape_code listed read fold)
  | bracedCode letter digits =>
      obtain rfl := (List.cons.inj escaped).2
      obtain ⟨listed, some, short, hex, valid⟩ := of_decide_eq_true valid
      have wide : 0 < Spelling.codeWidth letter := by
        simp only [Spelling.codeLetters, List.mem_cons, List.not_mem_nil, or_false] at listed
        rcases listed with rfl | rfl | rfl <;> decide
      have read := yields_readHex_braces hex some short valid wide more
      obtain ⟨digit, apart⟩ := code listed ('\x7b' :: digits ++ '\x7d' :: more)
      rw [show (fold && (Spelling.bracedCode letter digits).folds) = fold from Bool.and_true fold,
        show (letter :: '\x7b' :: digits).append ['\x7d'] ++ more =
          letter :: ('\x7b' :: digits ++ '\x7d' :: more) by simp]
      exact yields_readEscape_common scope fold inClass digit (fun _ => apart)
        (yields_readCommonEscape_code listed read fold)

/-! ## Classes by name -/

theorem yields_readUnicodeName_short
    {letter : Char}
    (alpha : letter.isAlpha)
    (more : List Char) :
    Yields (readUnicodeName (letter :: more)) [letter] more := by
  have brace : letter ≠ '\x7b' := by
    rintro rfl
    exact absurd alpha (by decide)
  rw [yields_iff, readUnicodeName]
  · exact ⟨_, rfl, rfl, rfl⟩
  · exact brace

theorem yields_readUnicodeName_long
    {name : List Char}
    (bare : '\x7d' ∉ name)
    (more : List Char) :
    Yields (readUnicodeName ('\x7b' :: name ++ '\x7d' :: more)) ('\x7b' :: name ++ ['\x7d'])
      more := by
  have accepted : name.all (· ≠ '\x7d') := by
    rw [List.all_eq_true]
    exact fun char member => decide_eq_true fun same => bare (same ▸ member)
  obtain ⟨shorter, run⟩ := readWhile_append_cons accepted
    (by decide : decide ('\x7d' ≠ '\x7d') = false) more
  have value := congrArg Read.value run
  have left := congrArg Read.rest run
  rw [yields_iff, List.cons_append, readUnicodeName]
  split
  · next ended => cases left.symm.trans ended
  · next stop rest ended =>
      obtain ⟨rfl, rfl⟩ := List.cons.inj (left.symm.trans ended)
      exact ⟨_, rfl, by rw [value], rfl⟩

/-- The escape of a class reads as the text of the class. -/
theorem yields_readEscape_named
    {kind : NamedClass}
    (valid : kind.isValid)
    {tail : List Char}
    (escaped : kind.text = '\\' :: tail)
    (scope : Scope)
    (fold inClass : Bool)
    (more : List Char) :
    Yields (readEscape scope fold inClass (tail ++ more)) (.of (.charClass kind.text fold)) more := by
  have property {negated : Bool} {name rest more : List Char} (some : rest ≠ [])
      (read : Yields (readUnicodeName rest) name more) :
      Yields (readEscape scope fold inClass (NamedClass.propertyLetter negated :: rest))
        (.of (.charClass ('\\' :: NamedClass.propertyLetter negated :: name) fold)) more := by
    have common : Yields (readCommonEscape fold (NamedClass.propertyLetter negated) rest)
        (.of (.charClass ('\\' :: NamedClass.propertyLetter negated :: name) fold)) more := by
      cases rest with
      | nil => exact absurd rfl some
      | cons first rest => cases negated <;> exact read.map _
    refine yields_readEscape_common scope fold inClass ?_ (fun _ => ⟨?_, ?_, ?_⟩) common
    all_goals cases negated <;> first | rfl | decide
  cases kind with
  | perl negated kind =>
      obtain rfl := (List.cons.inj escaped).2
      refine yields_readEscape_common scope fold inClass ?_ (fun _ => ⟨?_, ?_, ?_⟩) ?_
      · cases negated <;> cases kind <;> decide
      · cases negated <;> cases kind <;> decide
      · cases negated <;> cases kind <;> rfl
      · cases negated <;> cases kind <;> rfl
      · cases negated <;> cases kind <;> exact ⟨Nat.le_refl _, rfl⟩
  | short negated letter =>
      obtain rfl := (List.cons.inj escaped).2
      exact property (List.cons_ne_nil _ _) (yields_readUnicodeName_short valid more)
  | long negated name =>
      obtain rfl := (List.cons.inj escaped).2
      have bare : '\x7d' ∉ name := fun member =>
        absurd (of_decide_eq_true (List.all_eq_true.mp valid _ member)) (by decide)
      have read := yields_readUnicodeName_long bare more
      have text : (NamedClass.propertyLetter negated :: '\x7b' :: name).append ['\x7d'] ++ more =
          NamedClass.propertyLetter negated :: ('\x7b' :: name ++ '\x7d' :: more) := by
        simp
      rw [text]
      exact property (List.cons_ne_nil _ _) read

end Backtracking
end LineExtraction

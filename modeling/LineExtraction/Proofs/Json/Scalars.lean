import LineExtraction.Json.Value
import LineExtraction.Proofs.Compilation.Groups
import LineExtraction.Proofs.Text.Yields

/-!
# Strings and numbers of JSON texts

A written string is read back as the string that it writes, whatever stands behind it, and
a written natural number as that number if it has no more than 64 bits and no digit, point
or exponent stands behind it.
-/

namespace LineExtraction
namespace Json

/-! ## Strings -/

/-- How a character is written: as itself, as a letter that stands for it, or by its code. -/
theorem writeChar_cases
    (char : Char) :
    (Value.writeChar char = [char] ∧ char ≠ '"' ∧ char ≠ '\\' ∧ isControl char = false) ∨
      (∃ letter, Value.writeChar char = ['\\', letter] ∧ letter ≠ 'u' ∧
        charOfEscape? letter = some char) ∨
      (isControl char ∧ Value.writeChar char =
        ['\\', 'u', '0', '0', Value.hexDigit (char.toNat / 16), Value.hexDigit (char.toNat % 16)]) := by
  unfold Value.writeChar
  split
  · exact .inr (.inl ⟨'"', rfl, by decide, rfl⟩)
  · exact .inr (.inl ⟨'\\', rfl, by decide, rfl⟩)
  · exact .inr (.inl ⟨'b', rfl, by decide, rfl⟩)
  · exact .inr (.inl ⟨'f', rfl, by decide, rfl⟩)
  · exact .inr (.inl ⟨'n', rfl, by decide, rfl⟩)
  · exact .inr (.inl ⟨'r', rfl, by decide, rfl⟩)
  · exact .inr (.inl ⟨'t', rfl, by decide, rfl⟩)
  · next noQuote noBackslash _ _ _ _ _ =>
      split
      · next control => exact .inr (.inr ⟨control, rfl⟩)
      · next plain => exact .inl ⟨rfl, noQuote, noBackslash, Bool.eq_false_iff.mpr plain⟩

/-- The four digits of the code of a control character write that code. -/
theorem codeUnit_hexDigits
    {code : Nat}
    (small : code < 32)
    (rest : List Char) :
    codeUnit ('0' :: '0' :: Value.hexDigit (code / 16) :: Value.hexDigit (code % 16) :: rest) =
      .ok code := by
  have digits : ∀ code < 32,
      ¬ byteLength ['0', '0', Value.hexDigit (code / 16), Value.hexDigit (code % 16)] < 4 ∧
        ['0', '0', Value.hexDigit (code / 16), Value.hexDigit (code % 16)].all isHexDigit ∧
        hexValue ['0', '0', Value.hexDigit (code / 16), Value.hexDigit (code % 16)] = code := by
    decide
  obtain ⟨long, hex, value⟩ := digits code small
  rw [codeUnit]
  simp only [List.take_succ_cons, List.take_zero, if_neg long, hex, value]
  rfl

/-- The end of a string is the same with one more character in front. -/
theorem yields_stringEnd_writeChar
    (char : Char)
    {text rest : List Char}
    (ends : Yields (stringEnd text) () rest) :
    Yields (stringEnd (Value.writeChar char ++ text)) () rest := by
  obtain ⟨written, noQuote, noBackslash, plain⟩ | ⟨letter, written, noCode, stands⟩ |
    ⟨control, written⟩ := writeChar_cases char
  · rw [written, List.singleton_append, stringEnd.eq_6 char text noQuote
      (fun same => absurd same noBackslash) (fun _ _ _ _ _ same => absurd same noBackslash)
      (fun _ _ same => absurd same noBackslash), if_neg (Bool.eq_false_iff.mp plain)]
    exact ends.weaken _
  · rw [written, List.cons_append, List.singleton_append, stringEnd.eq_5 letter text
      (fun _ _ _ _ _ same => absurd same noCode), if_neg noCode, stands]
    exact ends.weaken _
  · rw [written]
    simp only [List.cons_append, List.nil_append]
    rw [stringEnd.eq_4, codeUnit_hexDigits (of_decide_eq_true control)]
    exact ends.weaken _

/-- What a string stands for, with one more character in front. -/
theorem stringContent_writeChar
    (char : Char)
    {text content : List Char}
    (stands : stringContent text = .ok content) :
    stringContent (Value.writeChar char ++ text) = .ok (char :: content) := by
  obtain ⟨written, noQuote, noBackslash, plain⟩ | ⟨letter, written, noCode, found⟩ |
    ⟨control, written⟩ := writeChar_cases char
  · rw [written, List.singleton_append, stringContent.eq_def]
    split
    · next nothing => cases nothing
    · next same => exact absurd (List.cons.inj same).1 noQuote
    · next same => exact absurd (List.cons.inj same).1 noBackslash
    · next same => exact absurd (List.cons.inj same).1 noBackslash
    · next same => exact absurd (List.cons.inj same).1 noBackslash
    · next other rest _ _ _ _ same =>
        obtain ⟨rfl, rfl⟩ := List.cons.inj same
        rw [if_neg (Bool.eq_false_iff.mp plain), stands]
        rfl
  · rw [written, List.cons_append, List.singleton_append, stringContent]
    · rw [found, stands]
      rfl
    · exact noCode
  · have small : char.toNat < 32 := of_decide_eq_true control
    have single : isLeading char.toNat = false ∧ isTrailing char.toNat = false := by
      simp [isLeading, isTrailing]
      omega
    rw [written]
    simp only [List.cons_append, List.nil_append]
    rw [stringContent, codeUnit_hexDigits small]
    simp only [bind, Except.bind, single, List.drop_succ_cons, List.drop_zero, stands,
      Char.ofNat_toNat]
    rfl

/-- A written string is read back. -/
theorem readString_writeText
    (content : String)
    (rest : List Char) :
    ∃ shorter, readString (content.toList.flatMap Value.writeChar ++ '"' :: rest) =
      ⟨.text (.ok content), some ⟨rest, shorter⟩⟩ := by
  have characters (chars : List Char) :
      Yields (stringEnd (chars.flatMap Value.writeChar ++ '"' :: rest)) () rest ∧
        stringContent (chars.flatMap Value.writeChar ++ '"' :: rest) = .ok chars := by
    induction chars with
    | nil => exact ⟨⟨_, rfl⟩, by rw [List.flatMap_nil, List.nil_append, stringContent]⟩
    | cons char chars inductionHypothesis =>
        obtain ⟨ends, stands⟩ := inductionHypothesis
        rw [List.flatMap_cons, List.append_assoc]
        exact ⟨yields_stringEnd_writeChar char ends, stringContent_writeChar char stands⟩
  obtain ⟨⟨shorter, ends⟩, stands⟩ := characters content.toList
  refine ⟨shorter, ?_⟩
  rw [readString, ends, stands]
  simp only [Except.map, String.ofList_toList]

/-! ## Numbers -/

/-- A number ends in front of a text that starts with neither a digit, a point nor an
exponent. -/
def EndsNumber (rest : List Char) : Prop :=
  ∀ char ∈ rest.head?, char.isDigit = false ∧ char ≠ '.' ∧ char ≠ 'e' ∧ char ≠ 'E'

/-- A written number starts with a digit, which is zero only for zero. -/
theorem exists_toString_eq_cons
    (number : Nat) :
    ∃ first more, (toString number).toList = first :: more ∧ first.isDigit ∧
      (first = '0' → more = []) := by
  rw [show toString number = number.repr from rfl, Nat.toList_repr]
  induction number using Nat.strongRecOn with
  | ind number inductionHypothesis =>
      by_cases single : number < 10
      · rw [Nat.toDigits_of_lt_base single]
        have digits : ∀ number < 10, (Nat.digitChar number).isDigit := by decide
        exact ⟨_, [], rfl, digits number single, fun _ => rfl⟩
      · have several := Nat.le_of_not_lt single
        obtain ⟨first, more, written, isDigit, zero⟩ :=
          inductionHypothesis (number / 10) (by omega)
        refine ⟨first, more ++ [(number % 10).digitChar], ?_, isDigit, fun isZero => ?_⟩
        · rw [Nat.toDigits_of_base_le (by decide) several, written, List.cons_append]
        · -- The digits of a number above zero do not consist of a zero.
          rw [zero isZero, isZero] at written
          have value := Nat.ofDigitChars_ten_toDigits (n := number / 10)
          rw [written] at value
          have front : Nat.ofDigitChars 10 ['0'] 0 = 0 := rfl
          omega

theorem yields_readDigits
    {digits rest : List Char}
    (all : ∀ digit ∈ digits, digit.isDigit)
    (filled : digits ≠ [])
    (ends : EndsNumber rest) :
    Yields (readDigits (digits ++ rest)) digits rest := by
  have none : rest.takeWhile Char.isDigit = [] ∧ rest.dropWhile Char.isDigit = rest := by
    cases rest with
    | nil => exact ⟨rfl, rfl⟩
    | cons char rest =>
        have stops := Bool.eq_false_iff.mp (ends char rfl).1
        exact ⟨List.takeWhile_cons_of_neg stops, List.dropWhile_cons_of_neg stops⟩
  have taken : (digits ++ rest).takeWhile Char.isDigit = digits := by
    rw [List.takeWhile_append_of_pos all, none.1, List.append_nil]
  have left : (digits ++ rest).dropWhile Char.isDigit = rest := by
    rw [List.dropWhile_append_of_pos all, none.2]
  rw [readDigits]
  simp only [taken, List.isEmpty_eq_false_iff.mpr filled]
  exact yields_ok_iff.mpr ⟨rfl, left⟩

theorem yields_readWhole
    (number : Nat)
    {rest : List Char}
    (ends : EndsNumber rest) :
    Yields (readWhole ((toString number).toList ++ rest)) (toString number).toList rest := by
  obtain ⟨first, more, written, -, zero⟩ := exists_toString_eq_cons number
  by_cases isZero : first = '0'
  · obtain rfl := zero isZero
    subst isZero
    have stops : rest.head?.any Char.isDigit = false := by
      cases rest with
      | nil => rfl
      | cons char rest => exact (ends char rfl).1
    rw [written, List.singleton_append, readWhole, stops]
    exact yields_ok_iff.mpr ⟨rfl, rfl⟩
  · have apart : ∀ behind, (toString number).toList ++ rest = '0' :: behind → False := by
      intro behind same
      rw [written] at same
      exact isZero (List.cons.inj same).1
    rw [readWhole.eq_2 _ apart]
    exact yields_readDigits (fun _ => isDigit_of_mem_toString)
      (written ▸ List.cons_ne_nil first more) ends

/-- The numeral that writes a natural number. -/
def Numeral.ofNat (number : Nat) : Numeral := ⟨false, (toString number).toList, [], none⟩

/-- A written natural number is read back. -/
theorem yields_readNumeral
    (number : Nat)
    {rest : List Char}
    (ends : EndsNumber rest) :
    Yields (readNumeral ((toString number).toList ++ rest)) (Numeral.ofNat number) rest := by
  have fraction : Yields (readFraction rest) [] rest := by
    rw [readFraction.eq_def]
    split
    · exact absurd rfl (ends '.' rfl).2.1
    · exact yields_ok_iff.mpr ⟨rfl, rfl⟩
  have exponent : Yields (readExponent rest) none rest := by
    rw [readExponent.eq_def]
    split
    · exact yields_ok_iff.mpr ⟨rfl, rfl⟩
    · next mark rest =>
        obtain ⟨-, -, lower, upper⟩ := ends mark rfl
        rw [if_neg (not_or.mpr ⟨lower, upper⟩)]
        exact yields_ok_iff.mpr ⟨rfl, rfl⟩
  have magnitude : Yields (readMagnitude false ((toString number).toList ++ rest))
      (Numeral.ofNat number) rest := by
    rw [readMagnitude]
    refine (yields_readWhole number ends).bind fun _ => ?_
    refine fraction.bind fun _ => ?_
    exact exponent.bind fun _ => yields_ok_iff.mpr ⟨rfl, rfl⟩
  obtain ⟨first, more, written, isDigit, -⟩ := exists_toString_eq_cons number
  have unsigned : ∀ behind, (toString number).toList ++ rest = '-' :: behind → False := by
    intro behind same
    rw [written] at same
    rw [(List.cons.inj same).1] at isDigit
    exact absurd isDigit (by decide)
  rwa [readNumeral.eq_2 _ unsigned]

/-- Digits whose number fits are all taken. -/
theorem takeFitting_of_le
    {front : Nat}
    {digits : List Char}
    (fits : digits.foldl (fun value digit => 10 * value + digitValue digit) front ≤ maximalInteger) :
    takeFitting front digits =
      (digits.foldl (fun value digit => 10 * value + digitValue digit) front, 0) := by
  have grows (digits : List Char) (front : Nat) :
      front ≤ digits.foldl (fun value digit => 10 * value + digitValue digit) front := by
    induction digits generalizing front with
    | nil => exact Nat.le_refl _
    | cons digit digits inductionHypothesis =>
        exact Nat.le_trans (by omega) (inductionHypothesis (10 * front + digitValue digit))
  induction digits generalizing front with
  | nil => rfl
  | cons digit digits inductionHypothesis =>
      rw [takeFitting, if_pos (Nat.le_trans (grows digits _) fits)]
      exact inductionHypothesis fits

/-- No more than fits is taken. -/
theorem takeFitting_le
    {front : Nat}
    (fits : front ≤ maximalInteger)
    (digits : List Char) :
    (takeFitting front digits).1 ≤ maximalInteger := by
  induction digits generalizing front with
  | nil => exact fits
  | cons digit digits inductionHypothesis =>
      rw [takeFitting]
      split
      · next longer => exact inductionHypothesis longer
      · exact fits

namespace Numeral

/-- A natural number of 64 bits is the value of its numeral. -/
theorem value_ofNat
    {number : Nat}
    (fits : number ≤ maximalInteger) :
    (ofNat number).value = .ok (.integer number) := by
  have whole : takeFitting 0 (toString number).toList = (number, 0) := by
    have decimal : (toString number).toList.foldl
        (fun value digit => 10 * value + digitValue digit) 0 = number := decimalValue_toString number
    rw [takeFitting_of_le (decimal.symm ▸ fits), decimal]
  have significand : (ofNat number).significand = (number, 0) := by
    rw [Numeral.significand]
    dsimp only [ofNat]
    rw [whole]
    rfl
  have isWhole : (ofNat number).isWhole = true := rfl
  have positive : (ofNat number).negative = false := rfl
  rw [value, significand, isWhole, positive]
  rfl

/-- No integer of a text is longer than 64 bits. -/
theorem le_of_value
    {numeral : Numeral}
    {number : Int}
    (found : numeral.value = .ok (.integer number)) :
    number ≤ maximalInteger := by
  have small : numeral.significand.1 ≤ maximalInteger := by
    rw [significand]
    exact takeFitting_le (takeFitting_le (Nat.zero_le _) _) _
  rw [value] at found
  split at found
  · have same := Number.integer.inj (Except.ok.inj found)
    omega
  · split at found
    · have same := Number.integer.inj (Except.ok.inj found)
      omega
    · obtain ⟨float, -, same⟩ := Except.bind_eq_ok_iff.mp found
      cases same

end Numeral

end Json
end LineExtraction

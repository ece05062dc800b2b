import LineExtraction.Decoding.DataError
import LineExtraction.Number.Shortest
import LineExtraction.Text.Read

/-!
# JSON numerals

A numeral is kept as it is written until its value is wanted: a numeral that is too
large has no value but may stand where nobody looks.  Integers of 64 bits are kept
exactly; every other number is a floating point number, which nothing here computes
with, so that its text is enough.
-/

namespace LineExtraction
namespace Json

open Decoding (Fault)

/-- The value of a numeral: an integer, or a floating point number by its text. -/
inductive Number where
  | integer (value : Int)
  | float (shown : String)
deriving DecidableEq, Repr

/-- A numeral: sign, digits in front of the point and behind it, and exponent. -/
structure Numeral where
  negative : Bool
  whole : List Char
  fraction : List Char
  exponent : Option (Bool × List Char)
deriving DecidableEq, Repr

/-- The largest integer that is kept exactly. -/
def maximalInteger : Nat := Nat.pow 2 64 - 1

/-- The value of a decimal digit. -/
def digitValue (digit : Char) : Nat := digit.toNat - '0'.toNat

/-- As many digits as fit an integer, and how many are left over. -/
def takeFitting (value : Nat) : List Char → Nat × Nat
  | [] => (value, 0)
  | digit :: digits =>
    let longer := 10 * value + digitValue digit
    if longer ≤ maximalInteger then takeFitting longer digits else (value, digits.length + 1)

namespace Numeral

/-- The digits that count, and the power of ten that they count in, without the
written exponent. -/
def significand (numeral : Numeral) : Nat × Int :=
  let (front, dropped) := takeFitting 0 numeral.whole
  let (value, left) := takeFitting front numeral.fraction
  (value, (dropped : Int) - ((numeral.fraction.length - left : Nat) : Int))

/-- The largest exponent that can be written, a larger one being as good as none. -/
def maximalExponent : Nat := Nat.pow 2 31 - 1

/-- The number that the digits of the exponent write. -/
def exponentValue (digits : List Char) : Nat :=
  digits.foldl (fun value digit => 10 * value + digitValue digit) 0

/-- Ten to a power, as a floating point number. -/
def powerOfTen (exponent : Nat) : Float := Float.ofScientific 1 false exponent

/-- Scale a number by a power of ten.  `fuel` bounds the number of steps. -/
def scale : (fuel : Nat) → (value : Float) → (exponent : Int) → Except Fault Float
  | 0, value, _ => .ok value
  | fuel + 1, value, exponent =>
    if exponent.natAbs ≤ 308 then
      let scaled := if 0 ≤ exponent then value * powerOfTen exponent.natAbs
        else value / powerOfTen exponent.natAbs
      if scaled.isInf then .error .illFormed else .ok scaled
    else if value == 0.0 then .ok value
    else if 0 ≤ exponent then .error .illFormed
    else scale fuel (value / powerOfTen 308) (exponent + 308)

/-- The floating point number of a numeral. -/
def toFloat (numeral : Numeral) : Except Fault Float := do
  let (value, exponent) := numeral.significand
  match numeral.exponent with
  | none => scale 4 (Float.ofNat value) exponent
  | some (negative, digits) =>
    let written := exponentValue digits
    if maximalExponent < written then
      if value ≠ 0 ∧ ¬ negative then throw .illFormed else return 0.0
    else scale 8 (Float.ofNat value) (if negative then exponent - written else exponent + written)

/-- Whether the numeral has neither fraction nor exponent. -/
def isWhole (numeral : Numeral) : Bool :=
  numeral.fraction.isEmpty ∧ numeral.exponent.isNone

/-- The value of the numeral, if it is in range. -/
def value (numeral : Numeral) : Except Fault Number :=
  let magnitude := numeral.significand.1
  let exact := numeral.isWhole ∧ numeral.significand.2 = 0
  if exact ∧ ¬ numeral.negative then .ok (.integer magnitude)
  else if exact ∧ numeral.negative ∧ 0 < magnitude ∧ magnitude ≤ Nat.pow 2 63 then
    .ok (.integer (-magnitude))
  else do
    let float ← numeral.toFloat
    return .float (LineExtraction.Number.compact (if numeral.negative then -float else float))

end Numeral

/-! ## Reading -/

/-- Read one digit or more. -/
def readDigits (text : List Char) : Except Fault (Read (List Char) text) :=
  let digits := text.takeWhile Char.isDigit
  if digits.isEmpty then .error (if text.isEmpty then .endsEarly else .illFormed)
  else .ok ⟨digits, text.dropWhile Char.isDigit, (List.dropWhile_sublist _).length_le⟩

/-- Read the digits in front of the point.  Only a lone zero may start with one. -/
def readWhole (text : List Char) : Except Fault (Read (List Char) text) :=
  match text with
  | '0' :: rest =>
    if (rest.head?.any Char.isDigit) then .error .illFormed
    else .ok ⟨['0'], rest, Read.took_one rest⟩
  | text => readDigits text

/-- Read the point and the digits behind it, if there is a point. -/
def readFraction (text : List Char) : Except Fault (Read (List Char) text) :=
  match text with
  | '.' :: rest => do return (← readDigits rest).weaken (Read.took_one rest)
  | text => .ok ⟨[], text, Read.took_none text⟩

/-- Read the sign of an exponent. -/
def readExponentSign (text : List Char) : Read Bool text :=
  match text with
  | '-' :: rest => ⟨true, rest, Read.took_one rest⟩
  | '+' :: rest => ⟨false, rest, Read.took_one rest⟩
  | text => ⟨false, text, Read.took_none text⟩

/-- Read the exponent, if there is one. -/
def readExponent (text : List Char) :
    Except Fault (Read (Option (Bool × List Char)) text) :=
  match text with
  | [] => .ok ⟨none, [], Read.left_nothing⟩
  | mark :: rest =>
    if mark = 'e' ∨ mark = 'E' then do
      let sign := readExponentSign rest
      let digits ← readDigits sign.rest
      return ⟨some (sign.value, digits.value), digits.rest, by
        have := sign.shorter
        have := digits.shorter
        simp only [List.length_cons]
        omega⟩
    else .ok ⟨none, mark :: rest, Read.left_one rest⟩

/-- Read a numeral without its sign. -/
def readMagnitude (negative : Bool) (text : List Char) : Except Fault (Read Numeral text) := do
  let whole ← readWhole text
  let fraction ← readFraction whole.rest
  let exponent ← readExponent fraction.rest
  return ⟨⟨negative, whole.value, fraction.value, exponent.value⟩, exponent.rest, by
    have := whole.shorter
    have := fraction.shorter
    have := exponent.shorter
    omega⟩

/-- Read a numeral. -/
def readNumeral (text : List Char) : Except Fault (Read Numeral text) :=
  match text with
  | '-' :: rest => do return (← readMagnitude true rest).weaken (Read.took_one rest)
  | text => readMagnitude false text

end Json
end LineExtraction

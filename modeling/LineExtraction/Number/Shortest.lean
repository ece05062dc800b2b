/-!
# Shortest decimals

The shortest decimal that reads back as a given floating point number.  A number
with 53 significant bits stands for all reals that round to it, and every grid of
decimals with a given number of digits is tried, from the coarsest on, for a point
in that interval.  All arithmetic is exact.
-/

namespace LineExtraction
namespace Number

/-- A positive decimal: `coefficient` with as many zeros behind it, or as many places
behind the point, as `exponent` says. -/
structure Decimal where
  coefficient : Nat
  exponent : Int
deriving DecidableEq, Repr

/-- A positive real as a quotient. -/
structure Quotient where
  numerator : Nat
  denominator : Nat
deriving DecidableEq, Repr

namespace Quotient

/-- A natural number scaled by a power of two. -/
def ofBinary (mantissa : Nat) (exponent : Int) : Quotient :=
  if 0 ≤ exponent then ⟨mantissa * Nat.pow 2 exponent.toNat, 1⟩
  else ⟨mantissa, Nat.pow 2 (-exponent).toNat⟩

/-- A natural number scaled by a power of ten. -/
def ofDecimal (decimal : Decimal) : Quotient :=
  if 0 ≤ decimal.exponent then ⟨decimal.coefficient * Nat.pow 10 decimal.exponent.toNat, 1⟩
  else ⟨decimal.coefficient, Nat.pow 10 (-decimal.exponent).toNat⟩

/-- Whether one quotient is less than another. -/
def lt (left right : Quotient) : Bool :=
  left.numerator * right.denominator < right.numerator * left.denominator

/-- The distance between two quotients. -/
def distance (left right : Quotient) : Quotient :=
  let first := left.numerator * right.denominator
  let second := right.numerator * left.denominator
  ⟨Nat.max first second - Nat.min first second, left.denominator * right.denominator⟩

end Quotient

/-- The reals that round to one number. -/
structure Interval where
  low : Quotient
  high : Quotient
  closed : Bool
deriving DecidableEq, Repr

/-- Whether the interval holds a quotient. -/
def Interval.contains (interval : Interval) (value : Quotient) : Bool :=
  if interval.closed then ¬ value.lt interval.low ∧ ¬ interval.high.lt value
  else interval.low.lt value ∧ value.lt interval.high

/-- A positive finite number as mantissa and binary exponent, from its bits. -/
def ofBits (bits : Nat) : Nat × Int :=
  let fraction := bits % Nat.pow 2 52
  let biased : Nat := bits / Nat.pow 2 52 % Nat.pow 2 11
  if biased = 0 then (fraction, -1074) else (fraction + Nat.pow 2 52, (biased : Int) - 1075)

/-- The interval of a positive finite number. -/
def intervalOf (mantissa : Nat) (exponent : Int) : Interval :=
  let narrow := mantissa = Nat.pow 2 52 ∧ exponent ≠ -1074
  let low := if narrow then Quotient.ofBinary (4 * mantissa - 1) (exponent - 2)
    else Quotient.ofBinary (2 * mantissa - 1) (exponent - 1)
  ⟨low, .ofBinary (2 * mantissa + 1) (exponent - 1), mantissa % 2 = 0⟩

/-- The least exponent at which a quotient has at most `digits` digits in front of the
point.  `fuel` bounds the search from `exponent` on. -/
def gridExponent (value : Quotient) (digits : Nat) : (fuel : Nat) → (exponent : Int) → Int
  | 0, exponent => exponent
  | fuel + 1, exponent =>
    if value.lt (.ofDecimal ⟨Nat.pow 10 digits, exponent⟩) then exponent
    else gridExponent value digits fuel (exponent + 1)

/-- The largest whole number of grid steps that is not above a quotient. -/
def stepsBelow (value : Quotient) (exponent : Int) : Nat :=
  if 0 ≤ exponent then value.numerator / (value.denominator * Nat.pow 10 exponent.toNat)
  else value.numerator * Nat.pow 10 (-exponent).toNat / value.denominator

/-- Which of two points at the same distance is taken. -/
inductive Tie where
  | toEven
  | up
deriving DecidableEq, Repr

/-- Whether a tie goes up from a point with the given coefficient. -/
def Tie.goesUp (tie : Tie) (coefficient : Nat) : Bool :=
  match tie with
  | .toEven => coefficient % 2 = 1
  | .up => true

/-- The nearest point of a grid that an interval holds, if it holds one. -/
def nearestOnGrid? (tie : Tie) (interval : Interval) (value : Quotient) (exponent : Int) :
    Option Decimal :=
  let below : Decimal := ⟨stepsBelow value exponent, exponent⟩
  let above : Decimal := ⟨below.coefficient + 1, exponent⟩
  let toBelow := (Quotient.ofDecimal below).distance value
  let toAbove := (Quotient.ofDecimal above).distance value
  let nearer := toAbove.lt toBelow ∨ (¬ toBelow.lt toAbove ∧ tie.goesUp below.coefficient)
  match interval.contains (.ofDecimal below), interval.contains (.ofDecimal above) with
  | true, true => some (if nearer then above else below)
  | true, false => some below
  | false, true => some above
  | false, false => none

/-- The most digits that a shortest decimal needs. -/
def maximalDigits : Nat := 17

/-- The first grid from `digits` digits on that has a point in the interval. -/
def shortestFrom (tie : Tie) (interval : Interval) (value : Quotient) :
    (fuel digits : Nat) → Option Decimal
  | 0, _ => none
  | fuel + 1, digits =>
    let exponent := gridExponent value digits 700 (-350)
    match nearestOnGrid? tie interval value exponent with
    | some decimal => some decimal
    | none => shortestFrom tie interval value fuel (digits + 1)

/-- Move the zeros at the end of a coefficient to the exponent. -/
def normalize : (fuel : Nat) → Decimal → Decimal
  | 0, decimal => decimal
  | fuel + 1, decimal =>
    if decimal.coefficient ≠ 0 ∧ decimal.coefficient % 10 = 0 then
      normalize fuel ⟨decimal.coefficient / 10, decimal.exponent + 1⟩
    else decimal

/-- The shortest decimal that reads back as the number with the given bits, its sign
aside. -/
def shortest (tie : Tie) (bits : Nat) : Decimal :=
  let (mantissa, exponent) := ofBits bits
  if mantissa = 0 then ⟨0, 0⟩
  else
    let found := shortestFrom tie (intervalOf mantissa exponent)
      (.ofBinary mantissa exponent) maximalDigits 1
    normalize (maximalDigits + 1) (found.getD ⟨0, 0⟩)

/-! ## Writing

A floating point number is written by its shortest decimal.  Plain notation never
uses an exponent and takes the larger of two decimals that are equally near; compact
notation uses one for very large and very small numbers and takes the even decimal. -/

/-- Digits with a point so that `places` of them stand behind it. -/
def pointed (digits : List Char) (places : Nat) : List Char :=
  let padded := List.replicate (places + 1 - digits.length) '0' ++ digits
  padded.take (padded.length - places) ++ '.' :: padded.drop (padded.length - places)

/-- A decimal without exponent, with at least one place behind the point. -/
def plainDecimal (decimal : Decimal) : List Char :=
  let digits := (Nat.repr decimal.coefficient).toList
  match decimal.exponent with
  | .ofNat zeros => digits ++ List.replicate zeros '0' ++ ['.', '0']
  | .negSucc places => pointed digits (places + 1)

/-- An exponent with its sign. -/
def signedExponent (exponent : Int) : List Char :=
  match exponent with
  | .ofNat size => '+' :: (Nat.repr size).toList
  | .negSucc size => '-' :: (Nat.repr (size + 1)).toList

/-- A decimal in scientific notation. -/
def scientificDecimal (decimal : Decimal) : List Char :=
  let digits := (Nat.repr decimal.coefficient).toList
  let shift := decimal.exponent + (digits.length : Int) - 1
  let mantissa := if digits.length = 1 then digits else pointed digits (digits.length - 1)
  mantissa ++ 'e' :: signedExponent shift

/-- A decimal in compact notation: without exponent where it has at most 16 digits in
front of the point and its first digit is not far behind it. -/
def compactDecimal (decimal : Decimal) : List Char :=
  let digits := (Nat.repr decimal.coefficient).toList
  let front := decimal.exponent + digits.length
  if decimal.coefficient = 0 ∨ (-5 < front ∧ front ≤ 16) then plainDecimal decimal
  else scientificDecimal decimal

/-- A sign in front of the text of a number. -/
def signed (negative : Bool) (text : List Char) : String :=
  String.ofList (if negative then '-' :: text else text)

/-- The bits of a number without its sign. -/
def magnitudeBits (value : Float) : Nat := value.toBits.toNat % Nat.pow 2 63

/-- Whether the sign of a number is negative. -/
def isNegative (value : Float) : Bool := Nat.pow 2 63 ≤ value.toBits.toNat

/-- A number in compact notation. -/
def compact (value : Float) : String :=
  signed (isNegative value) (compactDecimal (shortest .toEven (magnitudeBits value)))

/-- A number in plain notation.  Infinity and what is no number have names. -/
def plain (value : Float) : String :=
  if value.isNaN then "NaN"
  else if value.isInf then signed (isNegative value) "inf".toList
  else signed (isNegative value) (plainDecimal (shortest .up (magnitudeBits value)))

end Number
end LineExtraction

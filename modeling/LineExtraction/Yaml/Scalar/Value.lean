import LineExtraction.Decoding.DataError
import LineExtraction.Number.Shortest
import LineExtraction.Text.Numeral
import LineExtraction.Yaml.Scalar
import LineExtraction.Yaml.Tag

/-!
# What scalars stand for

A plain scalar without a tag stands for nothing, a truth value or a number where it is
written like one; every other scalar stands for its text.  With a tag of the standard it
must be written accordingly.
-/

namespace LineExtraction
namespace Yaml

open Decoding (DataError ReadError Unexpected)

/-- What a scalar stands for.  Integers that do not fit 64 bits are set apart. -/
inductive ScalarValue where
  | nothing
  | bool (value : Bool)
  | integer (value : Int)
  | wideInteger (value : Int)
  | float (shown : String)
  | text (value : String)
deriving DecidableEq, Repr

namespace ScalarValue

/-- What a value is called in errors. -/
def unexpected : ScalarValue → Unexpected
  | nothing => .nothing "unit value"
  | bool value => .bool value
  | integer value => .integer value
  | wideInteger value => .wideInteger value
  | float shown => .float shown
  | text value => .text value

end ScalarValue

/-! ## Nothing and truth values -/

/-- Whether a text says that there is nothing. -/
def isNull (text : String) : Bool := ["null", "Null", "NULL", "~"].contains text

/-- The truth value that a text writes. -/
def boolOf? (text : String) : Option Bool :=
  if ["true", "True", "TRUE"].contains text then some true
  else if ["false", "False", "FALSE"].contains text then some false
  else none

/-! ## Integers -/

/-- Whether a character is a sign. -/
def isSign (char : Char) : Bool := char = '+' ∨ char = '-'

/-- Whether digits start with a zero that a number would not have. -/
def hasSpareZero (text : List Char) : Bool :=
  let digits := if text.head?.any isSign then text.tail else text
  1 < digits.length ∧ digits.head? = some '0' ∧ digits.all Char.isDigit

/-- Whether a character is a digit to a base. -/
def isDigitOf (base : Nat) (char : Char) : Bool :=
  isHexDigit char ∧ hexDigitValue char < base

/-- The number that digits to a base write. -/
def valueOf? (base : Nat) (digits : List Char) : Option Nat :=
  if ! digits.isEmpty && digits.all (isDigitOf base) then
    some (digits.foldl (fun value digit => base * value + hexDigitValue digit) 0)
  else none

/-- The base that the letter behind a zero tells. -/
def baseOf? (letter : Char) : Option Nat :=
  match letter with
  | 'x' => some 16
  | 'o' => some 8
  | 'b' => some 2
  | _ => none

/-- A magnitude, to the base that it starts with. -/
def magnitudeOf? (text : List Char) : Option Nat :=
  let based :=
    match text with
    | '0' :: letter :: digits => (baseOf? letter).bind fun base => valueOf? base digits
    | _ => none
  based.or (if hasSpareZero text then none else valueOf? 10 text)

/-- The natural number that a text writes, with or without a plus sign. -/
def naturalOf? (text : List Char) : Option Nat :=
  match text with
  | '+' :: magnitude => magnitudeOf? magnitude
  | magnitude => magnitudeOf? magnitude

/-- The integer that a text writes. -/
def integerOf? (text : List Char) : Option Int :=
  match text with
  | '-' :: magnitude => (magnitudeOf? magnitude).map fun value => -(value : Int)
  | text => (naturalOf? text).map fun value => (value : Int)

/-- The value of an integer, unless it needs more than 128 bits. -/
def integerValue? (value : Int) : Option ScalarValue :=
  if -(Nat.pow 2 63 : Int) ≤ value ∧ value < Nat.pow 2 64 then some (.integer value)
  else if -(Nat.pow 2 127 : Int) ≤ value ∧ value < Nat.pow 2 128 then some (.wideInteger value)
  else none

/-! ## Floating point numbers -/

/-- A decimal as it is written: digits with a point behind some of them, and a power of
ten. -/
structure WrittenDecimal where
  digits : List Char
  places : Nat
  exponent : Int
deriving Repr

/-- The exponent that a text writes. -/
def exponentOf? (text : List Char) : Option Int :=
  let digits := if text.head?.any isSign then text.tail else text
  if digits.isEmpty || ! digits.all Char.isDigit then none
  else if text.head? = some '-' then some (-(decimalValue digits : Int))
  else some (decimalValue digits)

/-- The decimal that a text without a sign writes. -/
def writtenDecimal? (text : List Char) : Option WrittenDecimal := do
  let whole := text.takeWhile Char.isDigit
  let behind := text.dropWhile Char.isDigit
  let fraction := if behind.head? = some '.' then behind.tail.takeWhile Char.isDigit else []
  let rest := if behind.head? = some '.' then behind.tail.dropWhile Char.isDigit else behind
  if whole.isEmpty ∧ fraction.isEmpty then none
  match rest with
  | [] => return ⟨whole ++ fraction, fraction.length, 0⟩
  | mark :: exponent =>
    if mark = 'e' ∨ mark = 'E' then
      return ⟨whole ++ fraction, fraction.length, ← exponentOf? exponent⟩
    else none

/-- The floating point number next to a decimal. -/
def WrittenDecimal.toFloat (decimal : WrittenDecimal) : Float :=
  let value := decimalValue decimal.digits
  let exponent := decimal.exponent - decimal.places
  let magnitude := exponent + decimal.digits.length
  if value = 0 ∨ magnitude < -400 then 0.0
  else if 400 < magnitude - (decimal.digits.takeWhile (· = '0')).length then 1.0 / 0.0
  else if 0 ≤ exponent then Float.ofScientific value false exponent.toNat
  else Float.ofScientific value true (-exponent).toNat

/-- The text of the floating point number that a text without a name writes, unless that
is too large. -/
def finiteOf? (text : List Char) : Option String := do
  let negative := text.head? = some '-'
  let decimal ← writtenDecimal? (if text.head?.any isSign then text.tail else text)
  let float := decimal.toFloat
  if float.isInf then none
  return Number.plain (if negative then -float else float)

/-- The text of the floating point number that a text writes. -/
def floatOf? (text : String) : Option String :=
  if [".inf", ".Inf", ".INF", "+.inf", "+.Inf", "+.INF"].contains text then some "inf"
  else if ["-.inf", "-.Inf", "-.INF"].contains text then some "-inf"
  else if [".nan", ".NaN", ".NAN"].contains text then some "NaN"
  else finiteOf? text.toList

/-! ## Scalars -/

/-- What a plain scalar without a tag stands for. -/
def plainValue (content : String) : ScalarValue :=
  if content.isEmpty || isNull content then .nothing
  else
    match boolOf? content with
    | some value => .bool value
    | none =>
      match (integerOf? content.toList).bind integerValue? with
      | some value => value
      | none =>
        if hasSpareZero content.toList then .text content
        else
          match floatOf? content with
          | some shown => .float shown
          | none => .text content

/-- What a scalar with a tag of the standard stands for, unless it is not written
accordingly. -/
def taggedValue (tag : Tag) (content : String) : Except ReadError ScalarValue :=
  match tag with
  | .null => orRefuse "null" (if isNull content then some .nothing else none)
  | .bool => orRefuse "a boolean" ((boolOf? content).map .bool)
  | .integer => orRefuse "an integer" ((integerOf? content.toList).bind integerValue?)
  | .float => orRefuse "a float" ((floatOf? content).map .float)
  | _ => .ok (.text content)
where
  /-- The value, or else the error that something else is expected. -/
  orRefuse (expected : String) : Option ScalarValue → Except ReadError ScalarValue
    | some value => .ok value
    | none => .error (.data (.invalidValue (.text content) expected))

/-- What a scalar that no tag of a type belongs to stands for. -/
def Scalar.untaggedValue (scalar : Scalar) : ScalarValue :=
  if scalar.style = .plain then plainValue scalar.content else .text scalar.content

/-- What a scalar with or without a tag stands for.  The tag of a variant says nothing
about it. -/
def Scalar.value (scalar : Scalar) (tag : Option Tag) : Except ReadError ScalarValue :=
  match tag with
  | none | some (.variant _) => .ok scalar.untaggedValue
  | some tag => taggedValue tag scalar.content

end Yaml
end LineExtraction

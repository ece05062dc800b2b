import LineExtraction.Text.Quoted

/-!
# Data errors

Why well-formed data is not what was asked for: a field or a variant that does not
exist, is missing or stands twice, or a value of the wrong type, size or length.
-/

namespace LineExtraction
namespace Decoding

/-- A value that was found where another was expected.  What has no value at all is
named differently by different formats. -/
inductive Unexpected where
  | bool (value : Bool)
  | integer (value : Int)
  | wideInteger (value : Int)
  | float (shown : String)
  | text (value : String)
  | nothing (shown : String)
  | list
  | map
  | variant
deriving DecidableEq, Repr

/-- The wording for a value that was found. -/
def Unexpected.shown : Unexpected → String
  | bool value => "boolean `" ++ toString value ++ "`"
  | integer value => "integer `" ++ toString value ++ "`"
  | wideInteger value =>
    "integer `" ++ toString value ++ (if 0 ≤ value then "` as u128" else "` as i128")
  | float shown => "floating point `" ++ shown ++ "`"
  | text value => "string " ++ Quoted.encode value
  | nothing shown => shown
  | list => "sequence"
  | map => "map"
  | variant => "enum"

/-- Why data was refused. -/
inductive DataError where
  | unknownField (name : String) (known : List String)
  | missingField (name : String)
  | duplicateField (name : String)
  | unknownVariant (name : String) (known : List String)
  | invalidType (found : Unexpected) (expected : String)
  | invalidValue (found : Unexpected) (expected : String)
  | invalidLength (length : Nat) (expected : String)
deriving DecidableEq, Repr

namespace DataError

/-- A name between back quotes. -/
def ticked (name : String) : String := "`" ++ name ++ "`"

/-- The names that there are to choose from. -/
def oneOf : List String → String
  | [] => "there are no fields"
  | [name] => "expected " ++ ticked name
  | [first, second] => "expected " ++ ticked first ++ " or " ++ ticked second
  | names => "expected one of " ++ String.intercalate ", " (names.map ticked)

/-- The wording of the error. -/
def message : DataError → String
  | unknownField name known => "unknown field " ++ ticked name ++ ", " ++ oneOf known
  | missingField name => "missing field " ++ ticked name
  | duplicateField name => "duplicate field " ++ ticked name
  | unknownVariant name known => "unknown variant " ++ ticked name ++ ", " ++ oneOf known
  | invalidType found expected => "invalid type: " ++ found.shown ++ ", expected " ++ expected
  | invalidValue found expected => "invalid value: " ++ found.shown ++ ", expected " ++ expected
  | invalidLength length expected =>
    "invalid length " ++ toString length ++ ", expected " ++ expected

end DataError

/-- Where a text stops being well-formed: at a fault in it, or because it ends. -/
inductive Fault where
  | illFormed
  | endsEarly
deriving DecidableEq, Repr

/-- Why a value could not be read from a text. -/
inductive ReadError where
  | fault (fault : Fault)
  | data (error : DataError)
deriving DecidableEq, Repr

namespace ReadError

/-- The wording of the error, where it is one of the data. -/
def message? : ReadError → Option String
  | fault _ => none
  | data error => some error.message

/-- The error of a value of the wrong type. -/
def invalidType (found : Unexpected) (expected : String) : ReadError :=
  .data (.invalidType found expected)

end ReadError
end Decoding
end LineExtraction

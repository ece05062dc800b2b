import LineExtraction.Decoding.Format
import LineExtraction.Json.Node

/-!
# JSON values

A whole JSON value, with the entries of a map in the order of their names, and the
text that writes it.
-/

namespace LineExtraction
namespace Json

open Decoding

/-- A JSON value. -/
inductive Value where
  | null
  | bool (value : Bool)
  | number (value : Number)
  | text (value : String)
  | list (items : List Value)
  | map (entries : List (String × Value))
deriving Repr, Inhabited

namespace Value

/-- The value of a natural number. -/
def ofNat (value : Nat) : Value := .number (.integer value)

/-- The value of what may be absent. -/
def ofOption {α : Type} (toValue : α → Value) : Option α → Value
  | none => .null
  | some value => toValue value

/-- Put an entry in its place among entries in order.  It takes the place of one with
the same name. -/
def insertEntry (name : String) (value : Value) :
    List (String × Value) → List (String × Value)
  | [] => [(name, value)]
  | (key, old) :: rest =>
    if name = key then (name, value) :: rest
    else if name < key then (name, value) :: (key, old) :: rest
    else (key, old) :: insertEntry name value rest

/-- The value at a name of a map. -/
def get? (value : Value) (name : String) : Option Value :=
  match value with
  | .map entries => entries.lookup name
  | _ => none

/-! ## Reading -/

mutual

/-- The value of a document that is well-formed to its end. -/
def ofNode : Node → Except Fault Value
  | .null => .ok .null
  | .bool value => .ok (.bool value)
  | .number numeral => do return .number (← numeral.value)
  | .text content => do return .text (← content)
  | .list items => do return .list (← ofItems items)
  | .map entries => do return .map ((← ofEntries entries).foldl
      (fun entries entry => insertEntry entry.1 entry.2 entries) [])
  | .misplaced _ => .error .illFormed
  | .broken wanted _ => .error wanted

/-- The values of items. -/
def ofItems : Stream Node → Except Fault (List Value)
  | .done => .ok []
  | .broken fault => .error fault
  | .next head tail => do
    let first ← ofNode head
    return first :: (← ofItems tail)

/-- The names and values of entries, in the order in which they stand. -/
def ofEntries : Stream (Node × Node) → Except Fault (List (String × Value))
  | .done => .ok []
  | .broken fault => .error fault
  | .next (key, value) tail => do
    let name ← match key with
      | .text content => content
      | .broken wanted _ => .error wanted
      | _ => .error .illFormed
    let first ← ofNode value
    return (name, first) :: (← ofEntries tail)

end

/-- Read a value from a text. -/
def read (text : String) : Except Fault Value := do
  let document := readDocument text.toList
  let value ← ofNode document.root
  if document.trailing then throw .illFormed
  return value

/-! ## Writing -/

/-- A lower-case hexadecimal digit. -/
def hexDigit (value : Nat) : Char :=
  if value < 10 then Char.ofNat ('0'.toNat + value) else Char.ofNat ('a'.toNat + (value - 10))

/-- One character of a string. -/
def writeChar (char : Char) : List Char :=
  match char with
  | '"' => ['\\', '"']
  | '\\' => ['\\', '\\']
  | '\x08' => ['\\', 'b']
  | '\x0C' => ['\\', 'f']
  | '\n' => ['\\', 'n']
  | '\r' => ['\\', 'r']
  | '\t' => ['\\', 't']
  | char =>
    if isControl char then
      ['\\', 'u', '0', '0', hexDigit (char.toNat / 16), hexDigit (char.toNat % 16)]
    else [char]

/-- A string with its quotes. -/
def writeText (text : String) : List Char :=
  '"' :: text.toList.flatMap writeChar ++ ['"']

/-- The text of a number. -/
def writeNumber : Number → List Char
  | .integer value => (toString value).toList
  | .float shown => shown.toList

mutual

/-- The text of a value, without blanks. -/
def write : Value → List Char
  | .null => "null".toList
  | .bool true => "true".toList
  | .bool false => "false".toList
  | .number value => writeNumber value
  | .text value => writeText value
  | .list items => '[' :: writeItems items ++ [']']
  | .map entries => '\x7b' :: writeEntries entries ++ ['\x7d']

/-- The texts of items with commas between them. -/
def writeItems : List Value → List Char
  | [] => []
  | [item] => item.write
  | item :: items => item.write ++ ',' :: writeItems items

/-- The texts of entries with commas between them. -/
def writeEntries : List (String × Value) → List Char
  | [] => []
  | [(name, value)] => writeText name ++ ':' :: value.write
  | (name, value) :: entries => writeText name ++ ':' :: value.write ++ ',' :: writeEntries entries

end

/-- The text of a value. -/
def render (value : Value) : String := String.ofList value.write

end Value

/-! ## Decoding -/

namespace Value

/-- What a value is called in errors. -/
def unexpected : Value → Unexpected
  | .null => .nothing "null"
  | .bool value => .bool value
  | .number (.integer value) => .integer value
  | .number (.float shown) => .float shown
  | .text value => .text value
  | .list _ => .list
  | .map _ => .map

/-- The error that something else is expected. -/
def refuse {α : Type} (value : Value) (expected : String) : Except ReadError α :=
  .error (.invalidType value.unexpected expected)

mutual

/-- Keep a value for later. -/
def keep : Value → Datum
  | .null => .nothing
  | .bool value => .bool value
  | .number (.integer value) => .integer value
  | .number (.float shown) => .float shown
  | .text value => .text value
  | .list items => .list (keepItems items)
  | .map entries => .map (keepEntries entries)

/-- Keep the items of a list. -/
def keepItems : List Value → List Datum
  | [] => []
  | item :: items => item.keep :: keepItems items

/-- Keep the entries of a map. -/
def keepEntries : List (String × Value) → List (Datum × Datum)
  | [] => []
  | (name, value) :: entries => (.text name, value.keep) :: keepEntries entries

end

/-- The entries of a map as parts. -/
def parts (entries : List (String × Value)) : Stream (Value × Value) :=
  .ofList (entries.map fun (name, value) => (.text name, value))

/-- Read a variant without content: its name, or a map from its name to nothing. -/
def unitVariant {α : Type} (resolve : Identifier → Decode α) :
    Value → Decode α
  | .text value => resolve (.name value)
  | .map [(name, content)] => do
    let variant ← resolve (.name name)
    match content with
    | .null => return variant
    | content => content.refuse "unit"
  | .map _ => throw (.data (.invalidValue .map "map with a single key"))
  | value => value.refuse "string or map"

end Value

instance : Format Value where
  struct expected value :=
    match value with
    | .map entries => pure (.keyed (Value.parts entries))
    | .list items => pure (.positional (.ofList items))
    | value => value.refuse expected
  list value :=
    match value with
    | .list items => pure (.ofList items)
    | value => value.refuse "a sequence"
  text value :=
    match value with
    | .text text => pure text
    | value => value.refuse "a string"
  natural value :=
    match value with
    | .number (.integer (.ofNat number)) => pure number
    | .number (.integer number) => throw (.data (.invalidValue (.integer number) "usize"))
    | value => value.refuse "usize"
  flag value :=
    match value with
    | .bool flag => pure flag
    | value => value.refuse "a boolean"
  identifier expected value :=
    match value with
    | .text name => pure (.name name)
    | value => value.refuse expected
  optional value :=
    match value with
    | .null => pure none
    | value => pure (some value)
  unitVariant := Value.unitVariant
  any _ value :=
    match value with
    | .map entries => pure (.map (Value.parts entries))
    | .list items => pure (.list (.ofList items))
    | value => pure (.scalar value.unexpected)
  keep _ value := pure value.keep
  skip _ := pure ()
  finish taken rest :=
    if rest.length = 0 then pure ()
    else throw (.data (.invalidLength (taken + rest.length) "fewer elements in array"))
  nothingShown _ := "null"

end Json
end LineExtraction

import LineExtraction.Decoding.Format

/-!
# Decoding structures

A structure is read field by field, in the order in which the fields stand in the
data.  A field may stand only once; what happens to fields that are missing or
unknown is up to the structure.
-/

namespace LineExtraction
namespace Decoding

/-- How a structure is read.  `expected` is what it is called, `set` reads the field
with a number into the structure read so far, and `required` are the fields that must
be there. -/
structure StructSpec (α σ : Type) where
  expected : String
  fields : List String
  required : List Nat
  denyUnknown : Bool
  start : σ
  set : Nat → α → σ → Decode σ

namespace StructSpec

variable {α σ : Type} [Format α]

/-- The number of the field that an identifier names. -/
def fieldOf? (spec : StructSpec α σ) : Identifier → Option Nat
  | .name name =>
    let index := spec.fields.idxOf name
    if index < spec.fields.length then some index else none
  | .number number => if number < spec.fields.length then some number else none

/-- The name of a field. -/
def fieldName (spec : StructSpec α σ) (field : Nat) : String :=
  spec.fields.getD field ""

/-- The error of a field that the structure does not have. -/
def unknown (spec : StructSpec α σ) : Identifier → ReadError
  | .name name => .data (.unknownField name spec.fields)
  | .number number =>
    .data (.invalidValue (.integer number)
      ("field index 0 <= i < " ++ toString spec.fields.length))

/-- Read fields by name.  `seen` are the numbers of those read before. -/
def readKeyed (spec : StructSpec α σ) (seen : List Nat) (value : σ) :
    Stream (α × α) → Decode σ
  | .broken fault => throw (.fault fault)
  | .done =>
    match spec.required.find? (· ∉ seen) with
    | some field => throw (.data (.missingField (spec.fieldName field)))
    | none => pure value
  | .next (key, content) rest => do
    let identifier ← Format.identifier "field identifier" key
    match spec.fieldOf? identifier with
    | some field =>
      if field ∈ seen then throw (.data (.duplicateField (spec.fieldName field)))
      let value ← spec.set field content value
      spec.readKeyed (field :: seen) value rest
    | none =>
      if spec.denyUnknown then throw (spec.unknown identifier)
      Format.skip content
      spec.readKeyed seen value rest

/-- The error of a list that ends before a required field. -/
def tooShort (spec : StructSpec α σ) (length : Nat) : ReadError :=
  let count := spec.fields.length
  let elements := if count = 1 then " element" else " elements"
  .data (.invalidLength length (spec.expected ++ " with " ++ toString count ++ elements))

/-- Read `count` fields from the one numbered `field` on, in order. -/
def readPositional (spec : StructSpec α σ) (field : Nat) (value : σ) :
    (count : Nat) → Stream α → Decode σ
  | 0, items => do
    Format.finish field items
    return value
  | count + 1, .next content rest => do
    let value ← spec.set field content value
    spec.readPositional (field + 1) value count rest
  | _ + 1, .broken fault => throw (.fault fault)
  | count + 1, .done =>
    if field ∈ spec.required then throw (spec.tooShort field)
    else spec.readPositional (field + 1) value count .done

/-- Read a structure. -/
def read (spec : StructSpec α σ) (content : α) : Decode σ := do
  match ← Format.struct spec.expected content with
  | .keyed entries => spec.readKeyed [] spec.start entries
  | .positional items => spec.readPositional 0 spec.start spec.fields.length items

end StructSpec
end Decoding
end LineExtraction

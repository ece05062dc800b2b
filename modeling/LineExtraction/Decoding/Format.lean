import LineExtraction.Decoding.DataError

/-!
# Data formats

What decoders need to know of a format of data: how a value of it is taken apart.
Parts are handed out one after the other, so that a fault in the text of a value
comes up only where a decoder gets to it.
-/

namespace LineExtraction
namespace Decoding

/-- Parts that are handed out one after the other, up to the end or to a fault. -/
inductive Stream (α : Type) where
  | done
  | broken (fault : Fault)
  | next (head : α) (tail : Stream α)
deriving Repr

/-- The name of a field or variant, or its number where a format counts them. -/
inductive Identifier where
  | name (name : String)
  | number (number : Nat)
deriving DecidableEq, Repr

/-- What the fields of a structure are read from: values by name, or values in the
order of the fields. -/
inductive StructView (α : Type) where
  | keyed (entries : Stream (α × α))
  | positional (items : Stream α)

/-- What a value is when anything may come. -/
inductive AnyView (α : Type) where
  | map (entries : Stream (α × α))
  | list (items : Stream α)
  | scalar (value : Unexpected)
  | tagged

/-- Data that is kept for later, when it is known what it should be. -/
inductive Datum where
  | nothing
  | bool (value : Bool)
  | integer (value : Int)
  | float (shown : String)
  | text (value : String)
  | list (items : List Datum)
  | map (entries : List (Datum × Datum))
deriving Repr

/-- What data that is kept is called in errors. -/
def keptExpected : String := "any value"

/-- Decoding, which may fail.  It counts how often a reference has been followed, so that
a format with references can stop after too many. -/
abbrev Decode := StateT Nat (Except ReadError)

/-- The outcome of decoding before which no reference has been followed. -/
def Decode.outcome {α : Type} (decode : Decode α) : Except ReadError α :=
  (fun (value, _) => value) <$> decode.run 0

/-- How values of a format are taken apart.  `expected` describes what is read, for the
error when it is something else.

* `struct`, `list`, `text`, `natural`, `flag`: a value of that type;
* `identifier`: the name of a field or of a variant;
* `optional`: the value, unless there is none;
* `unitVariant`: a variant without content, looked up by name;
* `any`: whatever there is;
* `keep`: the value, kept for later;
* `skip`: nothing, but the text must be well-formed;
* `finish`: what is behind the parts of a list that have been read. -/
class Format (α : Type) where
  struct : (expected : String) → α → Decode (StructView α)
  list : α → Decode (Stream α)
  text : α → Decode String
  natural : α → Decode Nat
  flag : α → Decode Bool
  identifier : (expected : String) → α → Decode Identifier
  optional : α → Decode (Option α)
  unitVariant : {β : Type} → (Identifier → Decode β) → α → Decode β
  any : (expected : String) → α → Decode (AnyView α)
  keep : (expected : String) → α → Decode Datum
  skip : α → Decode Unit
  finish : (taken : Nat) → Stream α → Decode Unit
  nothingShown : α → String

namespace Stream

/-- Decode every part in order. -/
def mapM {α β : Type} (decode : α → Decode β) : Stream α → Decode (List β)
  | done => return []
  | broken fault => throw (.fault fault)
  | next head tail => do
    let first ← decode head
    return first :: (← tail.mapM decode)

/-- The stream of a list. -/
def ofList {α : Type} : List α → Stream α
  | [] => done
  | head :: tail => next head (ofList tail)

/-- How many parts there are up to the end or a fault. -/
def length {α : Type} : Stream α → Nat
  | next _ tail => tail.length + 1
  | _ => 0

/-- Whether there is a fault where a part could be. -/
def isBroken {α : Type} : Stream α → Bool
  | broken _ => true
  | _ => false

end Stream
end Decoding
end LineExtraction

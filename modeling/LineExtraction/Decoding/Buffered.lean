import LineExtraction.Decoding.Format

/-!
# Data that has been kept

Data that was kept for later is itself a format.  It has no faults any more, and it
accepts numbers where names of fields are wanted.
-/

namespace LineExtraction
namespace Decoding

/-- Kept data, with what its format calls the absence of a value. -/
structure Buffered where
  datum : Datum
  nothingShown : String
deriving Repr

namespace Buffered

/-- The same, for other data. -/
def withDatum (buffered : Buffered) (datum : Datum) : Buffered := { buffered with datum }

/-- What the data is called in errors. -/
def unexpected (buffered : Buffered) : Unexpected :=
  match buffered.datum with
  | .nothing => .nothing buffered.nothingShown
  | .bool value => .bool value
  | .integer value => .integer value
  | .float shown => .float shown
  | .text value => .text value
  | .list _ => .list
  | .map _ => .map

/-- The error that something else is expected. -/
def refuse {β : Type} (buffered : Buffered) (expected : String) : Decode β :=
  throw (.invalidType buffered.unexpected expected)

/-- The items of a list. -/
def items (buffered : Buffered) (data : List Datum) : Stream Buffered :=
  .ofList (data.map buffered.withDatum)

/-- The entries of a map. -/
def entries (buffered : Buffered) (data : List (Datum × Datum)) : Stream (Buffered × Buffered) :=
  .ofList (data.map fun (key, value) => (buffered.withDatum key, buffered.withDatum value))

/-- The number of elements that a list should have had. -/
def elementsShown (count : Nat) : String :=
  if count = 1 then "1 element in sequence" else toString count ++ " elements in sequence"

instance : Format Buffered where
  struct expected buffered :=
    match buffered.datum with
    | .map data => pure (.keyed (buffered.entries data))
    | .list data => pure (.positional (buffered.items data))
    | _ => buffered.refuse expected
  list buffered :=
    match buffered.datum with
    | .list data => pure (buffered.items data)
    | _ => buffered.refuse "a sequence"
  text buffered :=
    match buffered.datum with
    | .text value => pure value
    | _ => buffered.refuse "a string"
  natural buffered :=
    match buffered.datum with
    | .integer (.ofNat value) => pure value
    | .integer value => throw (.data (.invalidValue (.integer value) "usize"))
    | _ => buffered.refuse "usize"
  flag buffered :=
    match buffered.datum with
    | .bool value => pure value
    | _ => buffered.refuse "a boolean"
  identifier expected buffered :=
    match buffered.datum with
    | .text value => pure (.name value)
    | .integer (.ofNat value) => pure (.number value)
    | _ => buffered.refuse expected
  optional buffered :=
    match buffered.datum with
    | .nothing => pure none
    | _ => pure (some buffered)
  unitVariant resolve buffered :=
    match buffered.datum with
    | .text value => resolve (.name value)
    | _ => buffered.refuse "string or map"
  any _ buffered :=
    match buffered.datum with
    | .map data => pure (.map (buffered.entries data))
    | .list data => pure (.list (buffered.items data))
    | _ => pure (.scalar buffered.unexpected)
  keep _ buffered := pure buffered.datum
  skip _ := pure ()
  finish taken rest :=
    if rest.length = 0 then pure ()
    else throw (.data (.invalidLength (taken + rest.length) (elementsShown taken)))
  nothingShown buffered := buffered.nothingShown

end Buffered
end Decoding
end LineExtraction

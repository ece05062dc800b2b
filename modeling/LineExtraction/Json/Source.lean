import LineExtraction.Decoding.Catalogue
import LineExtraction.Json.Node

/-!
# Decoding JSON text

A JSON document as a format of data.  Faults of the text come up where a decoder gets
to them, and lists and maps that decoders enter may nest only so far.
-/

namespace LineExtraction
namespace Json

open Decoding

/-- How far lists and maps may nest. -/
def nestLimit : Nat := 128

/-- A value of a document, with the number of levels that may still be entered. -/
structure Cursor where
  remaining : Nat
  node : Node

namespace Cursor

/-- The levels left below this one, unless there are none. -/
def below (remaining : Nat) : Except ReadError Nat :=
  if remaining ≤ 1 then .error (.fault .illFormed) else .ok (remaining - 1)

/-- Put every part of a list on a level. -/
def items (remaining : Nat) : Stream Node → Stream Cursor
  | .done => .done
  | .broken fault => .broken fault
  | .next head tail => .next ⟨remaining, head⟩ (items remaining tail)

/-- Put every part of a map on a level. -/
def entries (remaining : Nat) : Stream (Node × Node) → Stream (Cursor × Cursor)
  | .done => .done
  | .broken fault => .broken fault
  | .next (key, value) tail =>
    .next (⟨remaining, key⟩, ⟨remaining, value⟩) (entries remaining tail)

end Cursor

/-- Turn a fault into an error. -/
def faulty {α : Type} : Except Fault α → Except ReadError α
  | .ok value => .ok value
  | .error fault => .error (.fault fault)

namespace Node

/-- What a node is called in errors. -/
def unexpected : Node → Except ReadError Unexpected
  | null => .ok (.nothing "null")
  | bool value => .ok (.bool value)
  | number numeral => do
    match ← faulty numeral.value with
    | .integer value => return .integer value
    | .float shown => return .float shown
  | text content => do return .text (← faulty content)
  | list _ => .ok .list
  | map _ => .ok .map
  | misplaced _ => .error (.fault .illFormed)
  | broken wanted _ => .error (.fault wanted)

/-- The error that something else is expected. -/
def refuse {α : Type} (node : Node) (expected : String) : Except ReadError α := do
  throw (.invalidType (← node.unexpected) expected)

mutual

/-- Check that a node is well-formed where nobody wants its value. -/
def skip : Node → Except ReadError Unit
  | list items => skipItems items
  | map entries => skipEntries entries
  | misplaced _ => .error (.fault .illFormed)
  | broken _ passed => .error (.fault passed)
  | _ => .ok ()

/-- Check that the items of a list are well-formed. -/
def skipItems : Stream Node → Except ReadError Unit
  | .done => .ok ()
  | .broken fault => .error (.fault fault)
  | .next head tail => do
    head.skip
    skipItems tail

/-- Check that the entries of a map are well-formed. -/
def skipEntries : Stream (Node × Node) → Except ReadError Unit
  | .done => .ok ()
  | .broken fault => .error (.fault fault)
  | .next (key, value) tail => do
    key.skip
    value.skip
    skipEntries tail

end

mutual

/-- Keep a node for later. -/
def keep (remaining : Nat) : Node → Except ReadError Datum
  | null => .ok .nothing
  | bool value => .ok (.bool value)
  | number numeral => do
    match ← faulty numeral.value with
    | .integer value => return .integer value
    | .float shown => return .float shown
  | text content => do return .text (← faulty content)
  | list items => do
    return .list (← keepItems (← Cursor.below remaining) items)
  | map entries => do
    return .map (← keepEntries (← Cursor.below remaining) entries)
  | misplaced _ => .error (.fault .illFormed)
  | broken wanted _ => .error (.fault wanted)

/-- Keep the items of a list. -/
def keepItems (remaining : Nat) : Stream Node → Except ReadError (List Datum)
  | .done => .ok []
  | .broken fault => .error (.fault fault)
  | .next head tail => do
    let first ← head.keep remaining
    return first :: (← keepItems remaining tail)

/-- Keep the entries of a map. -/
def keepEntries (remaining : Nat) :
    Stream (Node × Node) → Except ReadError (List (Datum × Datum))
  | .done => .ok []
  | .broken fault => .error (.fault fault)
  | .next (key, value) tail => do
    let first ← key.keep remaining
    let second ← value.keep remaining
    return (first, second) :: (← keepEntries remaining tail)

end

/-- Read a variant without content: its name, or a map from its name to nothing. -/
def unitVariant {α : Type} (remaining : Nat) (resolve : Identifier → Decode α) :
    Node → Decode α
  | text content => do resolve (.name (← faulty content))
  | map entries => do
    let _ ← Cursor.below remaining
    match entries with
    | .done => throw (.fault .illFormed)
    | .broken fault => throw (.fault fault)
    | .next (key, value) rest =>
      let name ← match key with
        | .text content => faulty content
        | .misplaced key => key.refuse "variant identifier"
        | key => key.refuse "variant identifier"
      let variant ← resolve (.name name)
      match value with
      | .null => pure ()
      | value => value.refuse "unit"
      match rest with
      | .done => return variant
      | .broken fault => throw (.fault fault)
      | .next _ _ => throw (.fault .illFormed)
  | broken wanted _ => throw (.fault wanted)
  | _ => throw (.fault .illFormed)

end Node

instance : Format Cursor where
  struct expected cursor := do
    match cursor.node with
    | .map entries => return .keyed (Cursor.entries (← Cursor.below cursor.remaining) entries)
    | .list items => return .positional (Cursor.items (← Cursor.below cursor.remaining) items)
    | node => node.refuse expected
  list cursor := do
    match cursor.node with
    | .list items => return Cursor.items (← Cursor.below cursor.remaining) items
    | node => node.refuse "a sequence"
  text cursor :=
    match cursor.node with
    | .text content => faulty content
    | node => node.refuse "a string"
  natural cursor := do
    match cursor.node with
    | .number numeral =>
      match ← faulty numeral.value with
      | .integer (.ofNat value) => return value
      | .integer value => throw (.data (.invalidValue (.integer value) "usize"))
      | .float shown => throw (.invalidType (.float shown) "usize")
    | node => node.refuse "usize"
  flag cursor :=
    match cursor.node with
    | .bool value => pure value
    | node => node.refuse "a boolean"
  identifier expected cursor :=
    match cursor.node with
    | .text content => do return .name (← faulty content)
    | node => node.refuse expected
  optional cursor :=
    match cursor.node with
    | .null => pure none
    | _ => pure (some cursor)
  unitVariant resolve cursor := cursor.node.unitVariant cursor.remaining resolve
  any _ cursor := do
    match cursor.node with
    | .map entries => return .map (Cursor.entries (← Cursor.below cursor.remaining) entries)
    | .list items => return .list (Cursor.items (← Cursor.below cursor.remaining) items)
    | node => return .scalar (← node.unexpected)
  keep _ cursor := cursor.node.keep cursor.remaining
  skip cursor := cursor.node.skip
  finish _ rest :=
    match rest with
    | .done => pure ()
    | .broken fault => throw (.fault fault)
    | .next _ _ => throw (.fault .illFormed)
  nothingShown _ := "null"

/-- Read a definition file from the text of a document. -/
def readDefinitionFile (text : String) : Except ReadError DefinitionFile := do
  let document := readDocument text.toList
  let file ← (Decoding.readFile (Cursor.mk nestLimit document.root)).outcome
  if document.trailing then throw (.fault .illFormed)
  return file

end Json
end LineExtraction

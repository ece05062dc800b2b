import LineExtraction.Decoding.Catalogue
import LineExtraction.Yaml.Node.Anchor
import LineExtraction.Yaml.Scalar.Value
import LineExtraction.Yaml.Token

/-!
# Decoding YAML text

A YAML document as a format of data.  Aliases stand for the nodes that they refer to,
but only so many may be followed, and lists and maps that decoders enter may nest only so
far.  A faulty tail of a document matters only to those who get there.
-/

namespace LineExtraction
namespace Yaml

open Decoding

/-- How far lists and maps may nest. -/
def nestLimit : Nat := 128

/-- How many aliases may be followed for every part of a document. -/
def aliasesPerPart : Nat := 100

/-- What aliases refer to, and how many of them may be followed. -/
structure References where
  nodes : List (Nat × Node Nat)
  limit : Nat

namespace References

/-- The references of a document. -/
def ofRoot (root : Node Nat) : References :=
  ⟨root.anchored.reverse, root.size * aliasesPerPart⟩

/-- Follow aliases to a node that is none. -/
def follow (references : References) : Node Nat → Decode (Node Nat)
  | .reference number => do
    modify (· + 1)
    if references.limit < (← get) then throw (.fault .illFormed)
    match references.nodes.lookup number with
    | some node => return node
    | none => throw (.fault .illFormed)
  | node => return node

end References

namespace Node

/-- The name of the variant that a tag asks for. -/
def variantOf? : Option Tag → Option String
  | some (.variant name) => some name
  | _ => none

/-- The variant that the tag of a node asks for. -/
def variant? : Node Nat → Option String
  | scalar properties _ => variantOf? properties.tag
  | list properties _ => variantOf? properties.tag
  | map properties _ => variantOf? properties.tag
  | _ => none

/-- The node if it is a plain scalar without content. -/
def isEmptyScalar : Node Nat → Bool
  | scalar _ written => written.isEmpty
  | _ => false

/-- What a node is called in errors. -/
def unexpected : Node Nat → Except ReadError Unexpected
  | scalar properties written => do return (← written.value properties.tag).unexpected
  | list _ _ => .ok .list
  | map _ _ => .ok .map
  | reference _ => .error (.fault .illFormed)
  | broken fault => .error (.fault fault)

/-- The error that something else is expected. -/
def refuse {α : Type} (node : Node Nat) (expected : String) : Except ReadError α := do
  throw (.invalidType (← node.unexpected) expected)

/-- The content of a scalar from which a value of a type with a tag may be read: a plain
one, or a literal one that has the tag. -/
def contentFor? (wanted : Tag) : Node Nat → Option String
  | scalar properties written =>
    if written.style = .plain ∨ (written.style = .literal ∧ properties.tag = some wanted) then
      some written.content
    else none
  | _ => none

mutual

/-- Check that a node is without fault where nobody wants its value. -/
def skip : Node Nat → Except ReadError Unit
  | list _ items => skipItems items
  | map _ entries => skipEntries entries
  | broken fault => .error (.fault fault)
  | _ => .ok ()

/-- Check that the items of a list are without fault. -/
def skipItems : Stream (Node Nat) → Except ReadError Unit
  | .done => .ok ()
  | .broken fault => .error (.fault fault)
  | .next head tail => do
    head.skip
    skipItems tail

/-- Check that the entries of a map are without fault. -/
def skipEntries : Stream (Node Nat × Node Nat) → Except ReadError Unit
  | .done => .ok ()
  | .broken fault => .error (.fault fault)
  | .next (key, value) tail => do
    key.skip
    value.skip
    skipEntries tail

end
end Node

/-- A node of a document, with the number of levels that may still be entered. -/
structure Cursor where
  references : References
  remaining : Nat
  node : Node Nat

namespace Cursor

/-- The same place, for another node. -/
def withNode (cursor : Cursor) (node : Node Nat) : Cursor := { cursor with node := node }

/-- The node that the cursor is at, or that the alias there refers to. -/
def target (cursor : Cursor) : Decode (Node Nat) := cursor.references.follow cursor.node

/-- The place one level below, unless there is none. -/
def below (cursor : Cursor) : Except ReadError Cursor :=
  if cursor.remaining = 0 then .error (.fault .illFormed)
  else .ok { cursor with remaining := cursor.remaining - 1 }

/-- Put every item of a list on a level. -/
def items (cursor : Cursor) : Stream (Node Nat) → Stream Cursor
  | .done => .done
  | .broken fault => .broken fault
  | .next head tail => .next (cursor.withNode head) (cursor.items tail)

/-- Put every entry of a map on a level. -/
def entries (cursor : Cursor) : Stream (Node Nat × Node Nat) → Stream (Cursor × Cursor)
  | .done => .done
  | .broken fault => .broken fault
  | .next (key, value) tail =>
    .next (cursor.withNode key, cursor.withNode value) (cursor.entries tail)

/-- What data kept of a scalar is. -/
def datumOf (expected : String) (value : ScalarValue) : Except ReadError Datum :=
  match value with
  | .nothing => .ok .nothing
  | .bool value => .ok (.bool value)
  | .integer value => .ok (.integer value)
  | .wideInteger value => .error (.invalidType (.wideInteger value) expected)
  | .float shown => .ok (.float shown)
  | .text value => .ok (.text value)

/-- Keep a node for later.  At most `remaining` levels may be entered. -/
def keep (references : References) (expected : String) :
    (remaining : Nat) → Node Nat → Decode Datum
  | remaining, node => do
    let node ← references.follow node
    if node.variant?.isSome then throw (.fault .illFormed)
    match remaining, node with
    | _, .scalar properties scalar => datumOf expected (← scalar.value properties.tag)
    | _, .reference _ => throw (.fault .illFormed)
    | _, .broken fault => throw (.fault fault)
    | 0, _ => throw (.fault .illFormed)
    | remaining + 1, .list _ items => 
      return .list (← items.mapM (keep references keptExpected remaining))
    | remaining + 1, .map _ entries =>
      return .map (← entries.mapM fun (key, value) => do
        let key ← keep references keptExpected remaining key
        return (key, ← keep references keptExpected remaining value))

/-- Whether a scalar says that there is nothing. -/
def isNothing (properties : Properties Nat) (scalar : Scalar) : Except ReadError Bool :=
  if scalar.style ≠ .plain then .ok false
  else
    match properties.tag with
    | some .null => do
      let _ ← scalar.value properties.tag
      return true
    | some _ => .ok false
    | none => .ok (scalar.content.isEmpty || isNull scalar.content)

/-- Check that a node with the tag of a variant has no content besides. -/
def checkUnit : Node Nat → Except ReadError Unit
  | .scalar _ scalar =>
    if scalar.style = .plain ∧ (scalar.content.isEmpty ∨ isNull scalar.content) then .ok ()
    else .error (.data (.invalidValue (.text scalar.content) "null"))
  | node => node.refuse "unit"

end Cursor

instance : Format Cursor where
  struct expected cursor := do
    match ← cursor.target with
    | .map _ entries => return .keyed ((← cursor.below).entries entries)
    | node => if node.isEmptyScalar then return .keyed .done else node.refuse expected
  list cursor := do
    match ← cursor.target with
    | .list _ items => return (← cursor.below).items items
    | node => if node.isEmptyScalar then return .done else node.refuse "a sequence"
  text cursor := do
    match ← cursor.target with
    | .scalar _ scalar => return scalar.content
    | node => node.refuse "a string"
  natural cursor := do
    let node ← cursor.target
    match (node.contentFor? .integer).bind fun content => naturalOf? content.toList with
    | some value => if value < Nat.pow 2 64 then return value else node.refuse "usize"
    | none => node.refuse "usize"
  flag cursor := do
    let node ← cursor.target
    match (node.contentFor? .bool).bind boolOf? with
    | some value => return value
    | none => node.refuse "a boolean"
  identifier expected cursor := do
    match ← cursor.target with
    | .scalar _ scalar => return .name scalar.content
    | node => node.refuse expected
  optional cursor := do
    let node ← cursor.target
    match node with
    | .scalar properties scalar =>
      if ← Cursor.isNothing properties scalar then return none
    | .broken fault => throw (.fault fault)
    | _ => pure ()
    return some (cursor.withNode node)
  unitVariant resolve cursor := do
    let node ← cursor.target
    match node.variant? with
    | some name =>
      let variant ← resolve (.name name)
      Cursor.checkUnit node
      return variant
    | none =>
      match node with
      | .scalar _ scalar => resolve (.name scalar.content)
      | node => node.refuse "a YAML tag starting with '!'"
  any _ cursor := do
    let node ← cursor.target
    if node.variant?.isSome then return .tagged
    match node with
    | .list _ items => return .list ((← cursor.below).items items)
    | .map _ entries => return .map ((← cursor.below).entries entries)
    | node => return .scalar (← node.unexpected)
  keep expected cursor := Cursor.keep cursor.references expected cursor.remaining cursor.node
  skip cursor := do cursor.node.skip
  finish taken rest :=
    match rest with
    | .done => pure ()
    | .broken fault => throw (.fault fault)
    | .next _ _ => throw (.data (.invalidLength (taken + rest.length)
        (Buffered.elementsShown taken)))
  nothingShown _ := "unit value"

/-- Read a definition file from the text of a document. -/
def readDefinitionFile (text : String) : Except ReadError DefinitionFile := do
  let document := (parseDocument (tokens text.toList)).number
  let cursor : Cursor := ⟨.ofRoot document.root, nestLimit, document.root⟩
  let file ← (Decoding.readFile cursor).outcome
  if document.trailing then throw (.fault .illFormed)
  return file

end Yaml
end LineExtraction

import LineExtraction.Yaml.Node

/-!
# Anchors and aliases

An alias refers to the node with its anchor.  The names of anchors are replaced by
numbers: the number of a name is how many names there were when it was last given to a
node.  An alias whose name nobody has is a fault, and of several nodes with one number
the last one is meant.
-/

namespace LineExtraction
namespace Yaml

open Decoding (Fault Stream)

/-- The names of anchors with their numbers. -/
abbrev Anchors := List (String × Nat)

namespace Anchors

/-- Give a name to a node: the number of the node and the names behind it. -/
def name (anchors : Anchors) : Option String → Option Nat × Anchors
  | none => (none, anchors)
  | some name =>
    let number := anchors.length
    (some number, (name, number) :: anchors.filter fun (other, _) => other ≠ name)

/-- Number the anchor among properties. -/
def number (anchors : Anchors) (properties : Properties String) : Properties Nat × Anchors :=
  let (anchor, behind) := anchors.name properties.anchor
  (⟨anchor, properties.tag⟩, behind)

end Anchors

/-- Something numbered, and the names behind it unless a fault was met. -/
structure Numbered (α : Type) where
  value : α
  anchors : Option Anchors

namespace Numbered

/-- Change what was numbered. -/
def map {α β : Type} (change : α → β) (numbered : Numbered α) : Numbered β :=
  ⟨change numbered.value, numbered.anchors⟩

/-- Number a part and, unless a fault was met, the parts behind it. -/
def followedBy {α : Type} (head : Numbered α) (tail : Anchors → Numbered (Stream α)) :
    Numbered (Stream α) :=
  match head.anchors with
  | none => ⟨.next head.value .done, none⟩
  | some anchors => (tail anchors).map (.next head.value)

end Numbered

mutual

/-- Number the anchors and aliases of a node. -/
def Node.number (anchors : Anchors) : Node String → Numbered (Node Nat)
  | .reference name =>
    match anchors.lookup name with
    | some number => ⟨.reference number, anchors⟩
    | none => ⟨.broken .illFormed, none⟩
  | .scalar properties scalar =>
    let (properties, anchors) := anchors.number properties
    ⟨.scalar properties scalar, anchors⟩
  | .list properties items =>
    let (properties, anchors) := anchors.number properties
    (numberItems anchors items).map (.list properties)
  | .map properties entries =>
    let (properties, anchors) := anchors.number properties
    (numberEntries anchors entries).map (.map properties)
  | .broken fault => ⟨.broken fault, none⟩

/-- Number the anchors and aliases of the items of a list. -/
def numberItems (anchors : Anchors) : Stream (Node String) → Numbered (Stream (Node Nat))
  | .done => ⟨.done, anchors⟩
  | .broken fault => ⟨.broken fault, none⟩
  | .next head tail => (head.number anchors).followedBy fun anchors => numberItems anchors tail

/-- Number the anchors and aliases of the entries of a map. -/
def numberEntries (anchors : Anchors) :
    Stream (Node String × Node String) → Numbered (Stream (Node Nat × Node Nat))
  | .done => ⟨.done, anchors⟩
  | .broken fault => ⟨.broken fault, none⟩
  | .next (key, value) tail =>
    let key := key.number anchors
    match key.anchors with
    | none => ⟨.next (key.value, .broken .illFormed) .done, none⟩
    | some anchors =>
      ((value.number anchors).map fun value => (key.value, value)).followedBy
        fun anchors => numberEntries anchors tail

end

/-- Number the anchors and aliases of a document. -/
def Document.number (document : Document String) : Document Nat :=
  let root := document.root.number []
  ⟨root.value, document.trailing || root.anchors.isNone⟩

mutual

/-- The nodes with anchors, with their numbers, in the order in which they start. -/
def Node.anchored : Node Nat → List (Nat × Node Nat)
  | .reference _ | .broken _ => []
  | .scalar properties scalar => own properties (.scalar properties scalar)
  | .list properties items => own properties (.list properties items) ++ anchoredItems items
  | .map properties entries =>
    own properties (.map properties entries) ++ anchoredEntries entries
where
  /-- The node itself if it has an anchor. -/
  own (properties : Properties Nat) (node : Node Nat) : List (Nat × Node Nat) :=
    (properties.anchor.map fun number => (number, node)).toList

/-- The nodes with anchors among items. -/
def anchoredItems : Stream (Node Nat) → List (Nat × Node Nat)
  | .next head tail => head.anchored ++ anchoredItems tail
  | _ => []

/-- The nodes with anchors among entries. -/
def anchoredEntries : Stream (Node Nat × Node Nat) → List (Nat × Node Nat)
  | .next (key, value) tail => key.anchored ++ value.anchored ++ anchoredEntries tail
  | _ => []

end

mutual

/-- How much there is to read of a node: one for a scalar or an alias, and two for a list
or a map besides what is in it. -/
def Node.size : Node Nat → Nat
  | .reference _ | .scalar _ _ => 1
  | .list _ items => sizeOfItems items + 1
  | .map _ entries => sizeOfEntries entries + 1
  | .broken _ => 0

/-- How much there is to read of items and their end. -/
def sizeOfItems : Stream (Node Nat) → Nat
  | .next head tail => head.size + sizeOfItems tail
  | .done => 1
  | .broken _ => 0

/-- How much there is to read of entries and their end. -/
def sizeOfEntries : Stream (Node Nat × Node Nat) → Nat
  | .next (key, value) tail => key.size + value.size + sizeOfEntries tail
  | .done => 1
  | .broken _ => 0

end

end Yaml
end LineExtraction

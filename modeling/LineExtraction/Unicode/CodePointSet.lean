/-!
# Sets of code points

A set of Unicode scalar values is kept as an ascending list of inclusive ranges
with a gap between any two.  Two sets with the same members have the same list,
so equality of sets is equality of lists.  The code points of the surrogate block
are no scalar values and belong to no set.
-/

namespace LineExtraction
namespace Unicode

/-- The code points from `first` to `last`, both included. -/
structure CodePointRange where
  first : Nat
  last : Nat
deriving DecidableEq, Repr

namespace CodePointRange

/-- Whether the range holds the code point. -/
def contains (range : CodePointRange) (codePoint : Nat) : Bool :=
  range.first ≤ codePoint ∧ codePoint ≤ range.last

/-- The largest code point there is. -/
def maximum : Nat := 0x10FFFF

/-- The surrogate block. -/
def surrogates : CodePointRange := ⟨0xD800, 0xDFFF⟩

/-- The scalar values of a range: what is left of it on both sides of the
surrogate block. -/
def scalars (range : CodePointRange) : List CodePointRange :=
  [⟨range.first, min range.last (surrogates.first - 1)⟩,
    ⟨max range.first (surrogates.last + 1), range.last⟩].filter
      fun part => part.first ≤ part.last

end CodePointRange

/-- A set of scalar values, as ascending ranges that do not touch. -/
structure CodePointSet where
  ranges : List CodePointRange
deriving DecidableEq, Repr, Inhabited

namespace CodePointSet

/-- Join ranges that overlap or touch.  The ranges come in ascending order. -/
def joinInto (current : CodePointRange) : List CodePointRange → List CodePointRange
  | [] => [current]
  | next :: rest =>
    if next.first ≤ current.last + 1 then
      joinInto ⟨current.first, max current.last next.last⟩ rest
    else current :: joinInto next rest

/-- Join ranges that overlap or touch.  The ranges come in ascending order. -/
def join : List CodePointRange → List CodePointRange
  | [] => []
  | first :: rest => joinInto first rest

/-- Whether a range starts no later than another. -/
def startsBefore (left right : CodePointRange) : Bool :=
  left.first ≤ right.first

/-- The set without members. -/
def empty : CodePointSet := ⟨[]⟩

/-- The members of any of the ranges, which may come in any order. -/
def ofRanges (ranges : List CodePointRange) : CodePointSet :=
  ⟨join ((ranges.flatMap CodePointRange.scalars).mergeSort startsBefore)⟩

/-- The members of one range. -/
def ofRange (first last : Nat) : CodePointSet :=
  ⟨CodePointRange.scalars ⟨first, last⟩⟩

/-- The set of one character. -/
def singleton (char : Char) : CodePointSet :=
  ⟨[⟨char.toNat, char.toNat⟩]⟩

/-- The members of either set. -/
def union (left right : CodePointSet) : CodePointSet :=
  ⟨join (left.ranges.merge right.ranges startsBefore)⟩

/-- What lies between ascending ranges, from `start` up to the largest code point. -/
def gaps (start : Nat) : List CodePointRange → List CodePointRange
  | [] => if start ≤ CodePointRange.maximum then [⟨start, CodePointRange.maximum⟩] else []
  | range :: rest =>
    if start < range.first then ⟨start, range.first - 1⟩ :: gaps (range.last + 1) rest
    else gaps (range.last + 1) rest

/-- The scalar values that are no members. -/
def complement (set : CodePointSet) : CodePointSet :=
  ⟨gaps 0 (set.union ⟨[CodePointRange.surrogates]⟩).ranges⟩

/-- The members of both sets. -/
def inter (left right : CodePointSet) : CodePointSet :=
  (left.complement.union right.complement).complement

/-- The members of the left set that are not in the right one. -/
def difference (left right : CodePointSet) : CodePointSet :=
  (left.complement.union right).complement

/-- The members of exactly one of the sets. -/
def symmetricDifference (left right : CodePointSet) : CodePointSet :=
  (left.difference right).union (right.difference left)

/-- Whether the code point is a member. -/
def contains (set : CodePointSet) (codePoint : Nat) : Bool :=
  set.ranges.any (·.contains codePoint)

/-- Whether the character is a member. -/
def containsChar (set : CodePointSet) (char : Char) : Bool :=
  set.contains char.toNat

/-- Whether the set has no members. -/
def isEmpty (set : CodePointSet) : Bool :=
  set.ranges.isEmpty

/-- Whether every member is an ASCII character. -/
def isAscii (set : CodePointSet) : Bool :=
  set.ranges.all (·.last ≤ 0x7F)

/-- The only member, when there is exactly one. -/
def onlyMember? (set : CodePointSet) : Option Char :=
  match set.ranges with
  | [range] => if range.first = range.last then some (Char.ofNat range.first) else none
  | _ => none

instance : Union CodePointSet := ⟨union⟩

end CodePointSet
end Unicode
end LineExtraction

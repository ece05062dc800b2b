import LineExtraction.Unicode.CaseTable

/-!
# Closing a set under simple case folding

A set is closed under case when it holds, with a character, every character with
the same simple case folding.
-/

namespace LineExtraction
namespace Unicode

/-- A code point and the other code points of its case class. -/
structure CaseVariants where
  codePoint : Nat
  variants : List Nat
deriving DecidableEq, Repr

namespace CaseVariants

/-- Every member of a class with its variants. -/
def ofClass (codePoints : List Nat) : List CaseVariants :=
  codePoints.map fun codePoint => ⟨codePoint, codePoints.filter (· ≠ codePoint)⟩

/-- The members of all classes with their variants, in ascending order. -/
def all : List CaseVariants :=
  (CaseTable.classes.flatMap ofClass).mergeSort fun left right =>
    left.codePoint ≤ right.codePoint

/-- The variants of the listed code points that lie in one of the ranges.  Both
lists are in ascending order. -/
def within : List CaseVariants → List CodePointRange → List Nat
  | [], _ => []
  | _, [] => []
  | entry :: entries, range :: ranges =>
    if entry.codePoint < range.first then within entries (range :: ranges)
    else if entry.codePoint ≤ range.last then
      entry.variants ++ within entries (range :: ranges)
    else within (entry :: entries) ranges
termination_by entries ranges => entries.length + ranges.length

end CaseVariants

namespace CodePointSet

/-- The smallest set that holds `set` and is closed under simple case folding. -/
def foldCase (set : CodePointSet) : CodePointSet :=
  set.union (.ofRanges ((CaseVariants.within CaseVariants.all set.ranges).map fun codePoint =>
    ⟨codePoint, codePoint⟩))

/-- The smallest set that holds `set` and with an ASCII letter also the letter in
the other case. -/
def foldAsciiCase (set : CodePointSet) : CodePointSet :=
  let lower := set.inter (.ofRange 'a'.toNat 'z'.toNat)
  let upper := set.inter (.ofRange 'A'.toNat 'Z'.toNat)
  set.union (.ofRanges
    (lower.ranges.map (fun range => ⟨range.first - 32, range.last - 32⟩) ++
      upper.ranges.map (fun range => ⟨range.first + 32, range.last + 32⟩)))

end CodePointSet
end Unicode
end LineExtraction

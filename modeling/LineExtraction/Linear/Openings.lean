import LineExtraction.Linear.Tree

/-!
# How matches begin

Every match of a pattern begins with one of certain texts.  When the texts are few and
each of them is a whole match, the pattern is no more than a choice between fixed texts,
and a search for the texts does in place of an automaton.  The texts are kept in order
of preference, and cut where they grow too many or too long.
-/

namespace LineExtraction
namespace Linear

open Unicode (CodePointSet)

/-- A text that matches begin with, and whether it is a match by itself. -/
structure Opening where
  bytes : List UInt8
  whole : Bool
deriving DecidableEq, Repr

namespace Opening

/-- Keep the first bytes.  A text that loses some is no match by itself any more. -/
def cut (count : Nat) (opening : Opening) : Opening :=
  if opening.bytes.length ≤ count then opening else ⟨opening.bytes.take count, false⟩

/-- The text followed by another. -/
def append (first second : Opening) : Opening :=
  ⟨first.bytes ++ second.bytes, second.whole⟩

end Opening

/-- The openings of a pattern, or `none` when they are too many to list. -/
abbrev Openings := Option (List Opening)

namespace Openings

/-- The largest set that is written out member by member. -/
def setLimit : Nat := 10

/-- The most turns of a repetition that are written out. -/
def turnLimit : Nat := 10

/-- The most bytes that are kept of a text. -/
def lengthLimit : Nat := 100

/-- The most texts that are kept. -/
def countLimit : Nat := 250

/-- Texts that side by side have the same bytes count once.  What is left is a match by
itself if both were. -/
def mergeInto (current : Opening) : List Opening → List Opening
  | [] => [current]
  | next :: rest =>
    if next.bytes = current.bytes then
      mergeInto ⟨current.bytes, current.whole ∧ next.whole⟩ rest
    else current :: mergeInto next rest

/-- Texts that side by side have the same bytes count once. -/
def merge : List Opening → List Opening
  | [] => []
  | first :: rest => mergeInto first rest

/-- The opening of what matches the empty text. -/
def nothing : Openings := some [⟨[], true⟩]

/-- Apply a function to every text. -/
def mapTexts (change : Opening → Opening) (openings : Openings) : Openings :=
  openings.map (·.map change)

/-- No text is a match by itself. -/
def incomplete (openings : Openings) : Openings :=
  openings.mapTexts fun opening => { opening with whole := false }

/-- Whether no text is a match by itself. -/
def isPartial (openings : Openings) : Bool :=
  openings.all (·.all (¬ ·.whole))

/-- The texts of either. -/
def joined (left right : Openings) : Openings := do
  return merge ((← left) ++ (← right))

/-- Whether two lists together are too long. -/
def tooMany (left right : Openings) : Bool :=
  match left, right with
  | some left, some right => countLimit < left.length + right.length
  | _, _ => false

/-- The texts of either.  Where they are too many, their first bytes have to do. -/
def either (left right : Openings) : Openings :=
  if tooMany left right then
    let shorten (openings : Openings) : Openings :=
      (openings.mapTexts (Opening.cut 4)).map merge
    let left := shorten left
    let right := shorten right
    if tooMany left right then none else joined left right
  else joined left right

/-- Every text of the left followed by every text of the right, as far as it is a match
by itself. -/
def chained (left right : List Opening) : List Opening :=
  merge <| left.flatMap fun opening =>
    if opening.whole then right.map opening.append else [opening]

/-- The texts of one part of a pattern followed by those of another. -/
def followedBy (left right : Openings) : Openings :=
  match left with
  | none => none
  | some front =>
    let right := right.filter fun back => front.length * back.length ≤ countLimit
    match right with
    | none => if front.any (·.bytes.isEmpty) then none else incomplete (some front)
    | some back => (some (chained front back)).map (·.map (Opening.cut lengthLimit))

/-- The texts of so many turns. -/
def turns (openings : Openings) : (count : Nat) → Openings → Openings
  | 0, before => before
  | count + 1, before =>
    if before.isPartial then before else turns openings count (followedBy before openings)

/-- The texts of a set. -/
def ofSet (members : CodePointSet) : Openings :=
  let codes := members.ranges.flatMap fun range =>
    (List.range (Nat.min (range.last - range.first + 1) (setLimit + 1))).map
      (range.first + ·)
  if codes.length ≤ setLimit then
    some (codes.map fun code => ⟨String.utf8EncodeChar (Char.ofNat code), true⟩)
  else none

/-- The texts of a repetition whose body has the given texts. -/
def repeated (min : Nat) (max : Option Nat) (greedy : Bool) (body : Openings) : Openings :=
  if min = 0 then
    let body := if max = some 1 then body else incomplete body
    if greedy then either body nothing else either nothing body
  else
    let all := turns body (Nat.min min turnLimit) nothing
    if max = some min ∧ min ≤ turnLimit then all else incomplete all

/-- The texts of one more part behind the others.  Where none of them is a match by
itself, nothing can follow. -/
def extended (before next : Openings) : Openings :=
  if before.isPartial then before else followedBy before next

/-! ## Choosing texts to search for -/

/-- Leave out every text that begins with an earlier one: the earlier one is preferred
wherever both would match. -/
def withoutShadowed (kept : List Opening) : List Opening → List Opening
  | [] => kept.reverse
  | opening :: rest =>
    if kept.any (·.bytes.isPrefixOf opening.bytes) then withoutShadowed kept rest
    else withoutShadowed (opening :: kept) rest

/-- The beginning that two texts share. -/
def sharedFront : List UInt8 → List UInt8 → List UInt8
  | first :: left, second :: right =>
    if first = second then first :: sharedFront left right else []
  | _, _ => []

/-- The beginning that all texts share. -/
def commonFront : List Opening → List UInt8
  | [] => []
  | first :: rest => rest.foldl (fun front opening => sharedFront front opening.bytes) first.bytes

/-- The ASCII characters that are so frequent that searching for one alone is no help. -/
def frequentCharacters : List Char :=
  "\n\r (),-./0129:_abcdefghilmnoprstuvxy|".toList

/-- Whether a byte is rare enough to be worth a search of its own. -/
def isRare (byte : UInt8) : Bool :=
  byte < 0x80 ∧ Char.ofNat byte.toNat ∉ frequentCharacters

/-- How many bytes to keep of each text while there are more texts than a bound. -/
def trims : List (Nat × Nat) :=
  [(5, 10), (4, 10), (3, 64), (2, 64), (1, 10)]

/-- Shorten the texts while there are too many of them. -/
def trimmed : List (Nat × Nat) → List Opening → List Opening
  | [], texts => texts
  | (bytes, bound) :: more, texts =>
    if texts.length ≤ bound then texts
    else trimmed more (withoutShadowed [] (texts.map (Opening.cut bytes)))

/-- The fewest bytes of a text that is worth keeping when others were shortened. -/
def usefulLength : Nat := 3

/-- The most texts that can be searched for at once. -/
def searchLimit : Nat := 64

/-- Shorten the texts, unless they are all matches by themselves and shortening leaves
texts that are too short or too many. -/
def shortened (texts : List Opening) : List Opening :=
  let short := trimmed trims texts
  if texts.all (·.whole) ∧
      (short.any (·.bytes.length < usefulLength) ∨ searchLimit < short.length) then texts
  else short

/-- Whether a beginning that all texts share should stand for them. -/
def prefersFront (front : List UInt8) (texts : List Opening) : Bool :=
  let fast := texts.all (·.whole) ∧ texts.length ≤ 16
  4 < front.length ∨ (1 < front.length ∧ ¬ fast)

/-- The texts to search for, if the openings are of any help. -/
def searched (openings : Openings) : Openings := do
  let given ← openings
  if given.any (·.bytes.isEmpty) then none
  else
    let texts := withoutShadowed [] given
    let front := commonFront texts
    if 1 < given.length ∧ front.length ≤ 3 ∧ front.head?.any isRare then
      return merge (texts.map (Opening.cut 1))
    else
      return shortened <|
        if prefersFront front texts then merge (texts.map (Opening.cut front.length)) else texts

end Openings

namespace Tree

mutual

/-- The texts that matches of the tree begin with. -/
def openings : Tree → Openings
  | empty => Openings.nothing
  | literal chars =>
    some [Opening.cut Openings.lengthLimit ⟨chars.flatMap String.utf8EncodeChar, true⟩]
  | set members => Openings.ofSet members
  | look _ => Openings.nothing
  | repetition min max greedy body => Openings.repeated min max greedy body.openings
  | capture _ _ body => body.openings
  | concat first rest => openingsBehind (Openings.nothing.extended first.openings) rest
  | alternation first rest => openingsBeside (Openings.either (some []) first.openings) rest
termination_by tree => 2 * tree.size
decreasing_by all_goals grind [Tree.size]

/-- The texts of a sequence, of which `before` are the texts up to the tree. -/
def openingsBehind (before : Openings) : Tree → Openings
  | concat first rest => openingsBehind (before.extended first.openings) rest
  | tree => before.extended tree.openings
termination_by tree => 2 * tree.size + 1
decreasing_by all_goals grind [Tree.size]

/-- The texts of a choice, of which `before` are the texts up to the tree. -/
def openingsBeside (before : Openings) : Tree → Openings
  | alternation first rest => openingsBeside (before.either first.openings) rest
  | tree => before.either tree.openings
termination_by tree => 2 * tree.size + 1
decreasing_by all_goals grind [Tree.size]

end

/-- Whether the tree asserts something about a position or marks a group. -/
def looksOrMarks : Tree → Bool
  | look _ => true
  | capture _ _ _ => true
  | repetition _ _ _ body => body.looksOrMarks
  | concat first rest => first.looksOrMarks ∨ rest.looksOrMarks
  | alternation first rest => first.looksOrMarks ∨ rest.looksOrMarks
  | _ => false

/-- The fewest plain texts that are searched for as they are, whatever they begin with. -/
def manyTexts : Nat := 3000

/-- Whether the tree is a literal. -/
def isLiteral : Tree → Bool
  | literal _ => true
  | _ => false

/-- Whether the tree is a choice between very many plain texts. -/
def isManyTexts (tree : Tree) : Bool :=
  manyTexts ≤ tree.branches.length ∧ tree.branches.all isLiteral

/-- Whether searching for texts does in place of an automaton. -/
def isFixedTexts (tree : Tree) : Bool :=
  ¬ tree.looksOrMarks ∧
    (tree.isManyTexts ∨
      tree.openings.searched.any fun texts => ¬ texts.isEmpty ∧ texts.all (·.whole))

end Tree
end Linear
end LineExtraction

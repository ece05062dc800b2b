import LineExtraction.Pattern.Relax
import LineExtraction.Proofs.Pattern.Scanning

/-!
# Trees of pattern text

A source tree is a pattern as it is written, with more in it than a phrase has: any escape,
any nesting of classes and any flags but the verbose one, whether a dialect knows them or not.
Its erasure is what is left of it for a discriminator.
-/

namespace LineExtraction
namespace Pattern

/-! ## Escapes -/

/-- The characters that stand in no braces of an escape. -/
def braceSpecial : List Char := '\x7d' :: scanned

/-- Whether an escape of one letter is no reference and does not go on behind the letter. -/
def isEscapeLetter (letter : Char) (following : List Char) : Bool :=
  letter ∉ ['1', '2', '3', '4', '5', '6', '7', '8', '9', 'k'] ∧
    (takesBraces letter → following.head? ≠ some '\x7b')

/-- Whether a letter and what stands in braces behind it can be an escape. -/
def isBraced (letter : Char) (content : List Char) : Bool :=
  takesBraces letter ∧ Lacks braceSpecial content

/-! ## Classes -/

/-- A character of a class, or an escape in it. -/
inductive SetCharacter where
  | plain (char : Char)
  | escape (letter : Char)
  | braced (letter : Char) (content : List Char)
deriving DecidableEq, Repr

namespace SetCharacter

/-- The text of the character. -/
def text : SetCharacter → List Char
  | plain char => [char]
  | escape letter => ['\\', letter]
  | braced letter content => '\\' :: letter :: '\x7b' :: content ++ ['\x7d']

/-- Whether the character is well-formed. -/
def isValid : SetCharacter → Bool
  | plain char => char ∉ insideSpecial
  | escape _ => true
  | braced letter content => isBraced letter content

end SetCharacter

/-- The members of a class: characters, ranges, and classes in the class. -/
inductive SetItems where
  | done
  | character (char : SetCharacter) (rest : SetItems)
  | range (first last : SetCharacter) (rest : SetItems)
  | nested (negated : Bool) (inner rest : SetItems)
deriving DecidableEq, Repr

namespace SetItems

/-- The text of the members. -/
def text : SetItems → List Char
  | done => []
  | character char rest => char.text ++ rest.text
  | range first last rest => first.text ++ '-' :: (last.text ++ rest.text)
  | nested negated inner rest =>
    '[' :: Member.caret negated ++ (inner.text ++ ']' :: rest.text)

/-- Whether the members are well-formed.  A bracket is a member only behind a backslash. -/
def isValid : SetItems → Bool
  | done => true
  | character char rest => char.isValid ∧ rest.isValid
  | range first last rest => first.isValid ∧ last.isValid ∧ rest.isValid
  | nested _ inner rest => inner.isValid ∧ rest.isValid

end SetItems

/-- A class as it is written: whether it is negated, whether a closing bracket stands first in
it as a member, and its other members. -/
structure SourceSet where
  negated : Bool
  bracketFirst : Bool
  items : SetItems
deriving DecidableEq, Repr

namespace SourceSet

/-- The text behind the opening bracket. -/
def body (set : SourceSet) : List Char :=
  Member.caret set.negated ++ ((if set.bracketFirst then [']'] else []) ++
    (set.items.text ++ [']']))

/-- Whether the class is well-formed.  It has a member, and the first one does not look like a
sign of the class. -/
def isValid (set : SourceSet) : Bool :=
  set.items.isValid ∧
    (set.bracketFirst ∨
      (set.items ≠ .done ∧ (set.negated ∨ set.items.text.head? ≠ some '^')))

end SourceSet

/-! ## Groups -/

/-- Whether a character can be one of the flags of a group.  The verbose flag is left out. -/
def isQuietFlag (char : Char) : Bool :=
  (isAsciiLetter char ∧ char ≠ 'x') ∨ char = '-'

/-- What opens a group. -/
inductive Opening where
  | capture
  | named (long : Bool) (name : List Char)
  | plain
  | atomic
  | flags (letters : List Char)
deriving DecidableEq, Repr

namespace Opening

/-- The text of the opening. -/
def text : Opening → List Char
  | capture => ['(']
  | named true name => '(' :: '?' :: 'P' :: '<' :: name ++ ['>']
  | named false name => '(' :: '?' :: '<' :: name ++ ['>']
  | plain => ['(', '?', ':']
  | atomic => ['(', '?', '>']
  | flags letters => '(' :: '?' :: letters ++ [':']

/-- Whether the opening is well-formed, inside a look-around or outside of one.  A name ends
where its angle bracket closes.  Only the dialect without look-around has names with
brackets. -/
def isValid (inLook : Bool) : Opening → Bool
  | named long name =>
    Lacks ['>'] name ∧ (inLook → Lacks scanned name) ∧
      (long ∨ (name.head? ≠ some '=' ∧ name.head? ≠ some '!'))
  | flags letters => letters ≠ [] ∧ letters.all isQuietFlag
  | _ => true

/-- Flags are kept, and nothing else of an opening. -/
def erase : Opening → Opening
  | flags letters => flags letters
  | _ => plain

end Opening

/-! ## References -/

/-- How a reference to a group is written. -/
inductive ReferenceForm where
  | numbered (digits : List Char)
  | keyed (name : List Char)
  | called (name : List Char)
deriving DecidableEq, Repr

namespace ReferenceForm

/-- The text of the reference. -/
def text : ReferenceForm → List Char
  | numbered digits => '\\' :: digits
  | keyed name => '\\' :: 'k' :: '<' :: name ++ ['>']
  | called name => '(' :: '?' :: 'P' :: '=' :: name ++ [')']

/-- Whether the reference is well-formed.  A number is not zero, and it ends in front of what
follows. -/
def isValid (inLook : Bool) (following : List Char) : ReferenceForm → Bool
  | numbered digits =>
    digits.head?.any (fun first => '1' ≤ first ∧ first ≤ '9') ∧ digits.all Char.isDigit ∧
      following.head?.all (!Char.isDigit ·)
  | keyed name => Lacks ['>'] name ∧ (inLook → Lacks scanned name)
  | called name => Lacks scanned name

end ReferenceForm

/-! ## Trees -/

/-- A pattern as it is written.  A directive is a group of flags without a body. -/
inductive SourceTree where
  | empty
  | literal (char : Char)
  | dot
  | lineStart
  | lineEnd
  | escape (letter : Char)
  | braced (letter : Char) (content : List Char)
  | set (members : SourceSet)
  | group (opening : Opening) (body : SourceTree)
  | directive (flags : List Char)
  | look (behind negative : Bool) (body : SourceTree)
  | reference (form : ReferenceForm)
  | concatenation (front back : SourceTree)
  | alternation (left right : SourceTree)
  | repetition (atom : SourceTree) (quantifier : Quantifier)
deriving DecidableEq, Repr

namespace SourceTree

/-- What opens a look-around. -/
def lookSign (behind negative : Bool) : List Char :=
  '?' :: ((if behind then ['<'] else []) ++ [if negative then '!' else '='])

/-- The text of the tree. -/
def text : SourceTree → List Char
  | empty => []
  | literal char => [char]
  | dot => ['.']
  | lineStart => ['^']
  | lineEnd => ['$']
  | escape letter => ['\\', letter]
  | braced letter content => '\\' :: letter :: '\x7b' :: content ++ ['\x7d']
  | set members => '[' :: members.body
  | group opening body => opening.text ++ (body.text ++ [')'])
  | directive flags => '(' :: '?' :: flags ++ [')']
  | look behind negative body => '(' :: lookSign behind negative ++ (body.text ++ [')'])
  | reference form => form.text
  | concatenation front back => front.text ++ back.text
  | alternation left right => left.text ++ '|' :: right.text
  | repetition atom quantifier => atom.text ++ quantifier.text

/-- Whether the tree can have a quantifier. -/
def isAtom : SourceTree → Bool
  | empty => false
  | concatenation _ _ => false
  | alternation _ _ => false
  | repetition _ _ => false
  | _ => true

/-- Whether the tree is well-formed in front of `following`, inside a look-around or outside
of one. -/
def isValid (inLook : Bool) : SourceTree → List Char → Bool
  | literal char, _ => char ∉ outsideSpecial
  | escape letter, following => isEscapeLetter letter following
  | braced letter content, _ => isBraced letter content
  | set members, _ => members.isValid
  | group opening body, _ => opening.isValid inLook ∧ body.isValid inLook [')']
  | directive flags, _ => flags ≠ [] ∧ flags.all isQuietFlag
  | look _ _ body, _ => body.isValid true [')']
  | reference form, following => form.isValid inLook following
  | concatenation front back, following =>
    front.isValid inLook (back.text ++ following) ∧ back.isValid inLook following
  | alternation left right, following =>
    left.isValid inLook ('|' :: (right.text ++ following)) ∧ right.isValid inLook following
  | repetition atom quantifier, following =>
    atom.isAtom ∧ quantifier.counts.areDecimal ∧
      atom.isValid inLook (quantifier.text ++ following)
  | _, _ => true

/-- Any text, as little of it as will do. -/
def anything : SourceTree :=
  .group (.flags ['s']) (.repetition .dot ⟨.star, true, false⟩)

/-- What is left of the tree for a discriminator.  Groups capture and commit to nothing, what
looks around is empty, a reference stands for any text, and no quantifier is possessive. -/
def erase : SourceTree → SourceTree
  | group opening body => .group opening.erase body.erase
  | look _ _ _ => .group .plain .empty
  | reference _ => anything
  | concatenation front back => .concatenation front.erase back.erase
  | alternation left right => .alternation left.erase right.erase
  | repetition atom quantifier => .repetition atom.erase { quantifier with possessive := false }
  | tree => tree

end SourceTree
end Pattern
end LineExtraction

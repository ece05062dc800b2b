import LineExtraction.Linear.Ast
import LineExtraction.Linear.SyntaxError
import LineExtraction.Linear.Tree
import LineExtraction.Unicode.CaseFolding
import LineExtraction.Unicode.ClassName

/-!
# Lowering parsed patterns to trees

Resolves flags, names and case.  A directive holds up to the end of the group that
it stands in, across the branches of that group.  With Unicode switched off, the
named classes shrink to ASCII, and whatever could match part of a character is a
fault, because lines are text and never loose bytes.
-/

namespace LineExtraction
namespace Linear

open Unicode (CodePointSet ClassNameError)

/-- The flags in force at some place of a pattern. -/
structure Flags where
  caseInsensitive : Bool
  multiLine : Bool
  dotMatchesNewLine : Bool
  swapGreed : Bool
  unicode : Bool
  crlf : Bool
deriving DecidableEq, Repr

namespace Flags

/-- The flags at the start of a pattern. -/
def default : Flags := ⟨false, false, false, false, true, false⟩

/-- Apply the items of a flag header. -/
def apply (flags : Flags) (items : List FlagItem) : Flags where
  caseInsensitive := (flagValue? .caseInsensitive true items).getD flags.caseInsensitive
  multiLine := (flagValue? .multiLine true items).getD flags.multiLine
  dotMatchesNewLine := (flagValue? .dotMatchesNewLine true items).getD flags.dotMatchesNewLine
  swapGreed := (flagValue? .swapGreed true items).getD flags.swapGreed
  unicode := (flagValue? .unicode true items).getD flags.unicode
  crlf := (flagValue? .crlf true items).getD flags.crlf

end Flags

/-! ## Sets of characters -/

/-- A set of ranges between ASCII characters. -/
def asciiRanges (ranges : List (Char × Char)) : CodePointSet :=
  .ofRanges (ranges.map fun range => ⟨range.1.toNat, range.2.toNat⟩)

/-- The members of an ASCII class. -/
def AsciiClass.members : AsciiClass → CodePointSet
  | alnum => asciiRanges [('0', '9'), ('A', 'Z'), ('a', 'z')]
  | alpha => asciiRanges [('A', 'Z'), ('a', 'z')]
  | ascii => asciiRanges [('\x00', '\x7F')]
  | blank => asciiRanges [('\t', '\t'), (' ', ' ')]
  | cntrl => asciiRanges [('\x00', '\x1F'), ('\x7F', '\x7F')]
  | digit => asciiRanges [('0', '9')]
  | graph => asciiRanges [('!', '~')]
  | lower => asciiRanges [('a', 'z')]
  | print => asciiRanges [(' ', '~')]
  | punct => asciiRanges [('!', '/'), (':', '@'), ('[', '`'), ('\x7B', '~')]
  | space => asciiRanges [('\t', '\r'), (' ', ' ')]
  | upper => asciiRanges [('A', 'Z')]
  | word => asciiRanges [('0', '9'), ('A', 'Z'), ('_', '_'), ('a', 'z')]
  | xdigit => asciiRanges [('0', '9'), ('A', 'F'), ('a', 'f')]

/-- The members of a one-letter class, in Unicode or in ASCII. -/
def PerlClass.members (unicode : Bool) : PerlClass → CodePointSet
  | digit => if unicode then Unicode.digitSet else AsciiClass.digit.members
  | space => if unicode then Unicode.spaceSet else AsciiClass.space.members
  | word => if unicode then Unicode.wordSet else AsciiClass.word.members

/-- The fault of a class name. -/
def faultOfName : ClassNameError → SyntaxError
  | .unknownProperty => .unicodePropertyNotFound
  | .unknownValue => .unicodePropertyValueNotFound

/-- The members that a query asks for. -/
def ClassQuery.members (query : ClassQuery) : Except SyntaxError CodePointSet :=
  (match query with
    | .named name => Unicode.classNamed name
    | .valued property value => Unicode.classValued property value).mapError faultOfName

/-- Close a set under case where the flags ask for it. -/
def foldedBy (flags : Flags) (set : CodePointSet) : CodePointSet :=
  if flags.caseInsensitive then
    if flags.unicode then set.foldCase else set.foldAsciiCase
  else set

/-- Negate a set.  Without Unicode, what is left would be loose bytes. -/
def negatedBy (flags : Flags) (negated : Bool) (set : CodePointSet) :
    Except SyntaxError CodePointSet :=
  let result := if negated then set.complement else set
  if flags.unicode ∨ result.isAscii then .ok result else .error .invalidUtf8

/-- The members of a one-letter class at some place of a pattern. -/
def perlSet (flags : Flags) (negated : Bool) (kind : PerlClass) :
    Except SyntaxError CodePointSet :=
  negatedBy flags negated (kind.members flags.unicode)

/-- The members of a Unicode class at some place of a pattern. -/
def unicodeSet (flags : Flags) (negated : Bool) (query : ClassQuery) :
    Except SyntaxError CodePointSet :=
  if flags.unicode then do
    negatedBy flags negated (foldedBy flags (← query.members))
  else .error .unicodeNotAllowed

/-- The character of a literal.  Without Unicode, a code that is no ASCII character
would be a loose byte. -/
def literalChar (flags : Flags) (literal : Literal) : Except SyntaxError Char :=
  if ¬ flags.unicode ∧ literal.isByte ∧ 0x7F < literal.char.toNat then .error .invalidUtf8
  else .ok literal.char

/-- The code point of a literal inside a bracket class. -/
def memberChar (flags : Flags) (literal : Literal) : Except SyntaxError Nat := do
  let char ← literalChar flags literal
  if ¬ flags.unicode ∧ 0x7F < char.toNat then throw .unicodeNotAllowed
  return char.toNat

/-- Combine the sides of an operator. -/
def SetOperator.apply : SetOperator → CodePointSet → CodePointSet → CodePointSet
  | intersection => CodePointSet.inter
  | difference => CodePointSet.difference
  | symmetricDifference => CodePointSet.symmetricDifference

/-- The members of the body of a bracket class. -/
def ClassSet.members (flags : Flags) : ClassSet → Except SyntaxError CodePointSet
  | empty => .ok .empty
  | literal char => do
    let code ← memberChar flags char
    return .ofRange code code
  | range first last => do
    let low ← memberChar flags first
    let high ← memberChar flags last
    return .ofRange low high
  | ascii negated kind => negatedBy flags negated (foldedBy flags kind.members)
  | perl negated kind => perlSet flags negated kind
  | unicode negated query => unicodeSet flags negated query
  | bracketed negated body => do
    negatedBy flags negated (foldedBy flags (← body.members flags))
  | union first rest => do
    return (← first.members flags).union (← rest.members flags)
  | operation operator left right => do
    let left ← left.members flags
    let right ← right.members flags
    return operator.apply (foldedBy flags left) (foldedBy flags right)

/-! ## Trees -/

/-- The tree of a single character.  Case folding turns a letter into a set. -/
def literalTree (flags : Flags) (char : Char) : Tree :=
  if flags.caseInsensitive then .ofSet (foldedBy flags (.singleton char))
  else .literal [char]

/-- What the dot matches. -/
def dotSet (flags : Flags) : Except SyntaxError CodePointSet :=
  if ¬ flags.unicode then .error .invalidUtf8
  else if flags.dotMatchesNewLine then .ok CodePointSet.empty.complement
  else if flags.crlf then .ok (asciiRanges [('\n', '\n'), ('\r', '\r')]).complement
  else .ok (CodePointSet.singleton '\n').complement

/-- What an assertion asks, by the flags at its place. -/
def lookOf (flags : Flags) : Assertion → Look
  | .startLine =>
    if ¬ flags.multiLine then .startText
    else if flags.crlf then .startLineCrlf else .startLine
  | .endLine =>
    if ¬ flags.multiLine then .endText
    else if flags.crlf then .endLineCrlf else .endLine
  | .startText => .startText
  | .endText => .endText
  | .wordBoundary => .wordBoundary (!flags.unicode)
  | .notWordBoundary => .notWordBoundary (!flags.unicode)
  | .wordStart => .wordStart (!flags.unicode)
  | .wordEnd => .wordEnd (!flags.unicode)
  | .wordStartHalf => .wordStartHalf (!flags.unicode)
  | .wordEndHalf => .wordEndHalf (!flags.unicode)

/-- What a part of a pattern lowers to: the trees of its branches, the trees of its
parts when it is a single branch, and the flags behind it. -/
structure Lowered where
  branches : List Tree
  parts : List Tree
  flags : Flags
deriving DecidableEq, Repr

namespace Lowered

/-- A part that is a single tree. -/
def single (tree : Tree) (flags : Flags) : Lowered := ⟨[tree], [tree], flags⟩

/-- The tree of the whole part. -/
def tree (lowered : Lowered) : Tree := Tree.ofBranches lowered.branches

end Lowered

/-- Lower a part of a pattern, under the flags before it. -/
def lower (flags : Flags) : Ast → Except SyntaxError Lowered
  | .empty => .ok (.single .empty flags)
  | .flags items => .ok (.single .empty (flags.apply items))
  | .literal literal => do
    return .single (literalTree flags (← literalChar flags literal)) flags
  | .dot => do
    return .single (.ofSet (← dotSet flags)) flags
  | .assertion kind => .ok (.single (.look (lookOf flags kind)) flags)
  | .perl negated kind => do
    return .single (.ofSet (← perlSet flags negated kind)) flags
  | .unicode negated query => do
    return .single (.ofSet (← unicodeSet flags negated query)) flags
  | .bracketed negated body => do
    let members ← negatedBy flags negated (foldedBy flags (← body.members flags))
    return .single (.ofSet members) flags
  | .repetition count body => do
    let lowered ← lower flags body
    let greedy := count.greedy != lowered.flags.swapGreed
    return .single (.repeated count.min count.max greedy lowered.tree) lowered.flags
  | .group (.capture index name) body => do
    let lowered ← lower flags body
    return .single (.capture index name lowered.tree) flags
  | .group (.plain items) body => do
    let lowered ← lower (flags.apply items) body
    return .single lowered.tree flags
  | .concat first rest => do
    let front ← lower flags first
    let back ← lower front.flags rest
    let parts := front.parts ++ back.parts
    return ⟨[.ofParts parts], parts, back.flags⟩
  | .alternation first rest => do
    let front ← lower flags first
    let back ← lower front.flags rest
    let branches := front.tree :: back.branches
    return ⟨branches, [.ofBranches branches], back.flags⟩

/-- The tree of a parsed pattern. -/
def lowerPattern (ast : Ast) : Except SyntaxError Tree := do
  return (← lower .default ast).tree

end Linear
end LineExtraction

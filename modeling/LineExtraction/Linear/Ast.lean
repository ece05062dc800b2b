/-!
# Parsed linear patterns

The shape of a pattern of the linear dialect as it is written: flags are still
directives, classes are still named, and no case folding has been done.  A
sequence and an alternation have at least two parts; they are kept as a first part
and the rest, and a part is never itself a sequence or an alternation unless it
stands in a group.
-/

namespace LineExtraction
namespace Linear

/-- A character, and whether it was written as a two-digit `\x` escape, which names
a byte when Unicode is switched off. -/
structure Literal where
  char : Char
  isByte : Bool
deriving DecidableEq, Repr

/-- What an assertion asks of the position it stands at. -/
inductive Assertion where
  | startLine
  | endLine
  | startText
  | endText
  | wordBoundary
  | notWordBoundary
  | wordStart
  | wordEnd
  | wordStartHalf
  | wordEndHalf
deriving DecidableEq, Repr

/-- The classes with a one-letter escape. -/
inductive PerlClass where
  | digit
  | space
  | word
deriving DecidableEq, Repr

/-- The bracketed ASCII classes. -/
inductive AsciiClass where
  | alnum
  | alpha
  | ascii
  | blank
  | cntrl
  | digit
  | graph
  | lower
  | print
  | punct
  | space
  | upper
  | word
  | xdigit
deriving DecidableEq, Repr

/-- What a Unicode class is asked for by. -/
inductive ClassQuery where
  | named (name : List Char)
  | valued (property value : List Char)
deriving DecidableEq, Repr

/-- The operators between the members of a bracket class. -/
inductive SetOperator where
  | intersection
  | difference
  | symmetricDifference
deriving DecidableEq, Repr

/-- The body of a bracket class. -/
inductive ClassSet where
  | empty
  | literal (literal : Literal)
  | range (first last : Literal)
  | ascii (negated : Bool) (kind : AsciiClass)
  | perl (negated : Bool) (kind : PerlClass)
  | unicode (negated : Bool) (query : ClassQuery)
  | bracketed (negated : Bool) (body : ClassSet)
  | union (first rest : ClassSet)
  | operation (operator : SetOperator) (left right : ClassSet)
deriving DecidableEq, Repr

namespace ClassSet

/-- The set of all items, where a single item needs no union. -/
def ofItems : List ClassSet → ClassSet
  | [] => .empty
  | [item] => item
  | item :: items => .union item (ofItems items)

/-- How many levels of brackets, unions and operators the set adds. -/
def depth : ClassSet → Nat
  | bracketed _ body => body.depth + 1
  | union first rest =>
    match rest with
    | union _ _ => max (first.depth + 1) rest.depth
    | _ => max (first.depth + 1) (rest.depth + 1)
  | operation _ left right => max left.depth right.depth + 1
  | _ => 0

end ClassSet

/-- The flags of the dialect. -/
inductive Flag where
  | caseInsensitive
  | multiLine
  | dotMatchesNewLine
  | swapGreed
  | unicode
  | crlf
  | ignoreWhitespace
deriving DecidableEq, Repr

/-- One item of a flag header: a flag, or the sign that switches off those behind it. -/
inductive FlagItem where
  | negation
  | flag (flag : Flag)
deriving DecidableEq, Repr

/-- What the items say about a flag, if they name it. -/
def flagValue? (flag : Flag) (enable : Bool) : List FlagItem → Option Bool
  | [] => none
  | .negation :: items => flagValue? flag false items
  | .flag named :: items => if named = flag then some enable else flagValue? flag enable items

/-- How often a pattern repeats, and whether it prefers to repeat more. -/
structure Repeat where
  min : Nat
  max : Option Nat
  greedy : Bool
deriving DecidableEq, Repr

/-- What a group is for. -/
inductive GroupKind where
  | capture (index : Nat) (name : Option (List Char))
  | plain (flags : List FlagItem)
deriving DecidableEq, Repr

/-- A parsed pattern. -/
inductive Ast where
  | empty
  | flags (items : List FlagItem)
  | literal (literal : Literal)
  | dot
  | assertion (kind : Assertion)
  | perl (negated : Bool) (kind : PerlClass)
  | unicode (negated : Bool) (query : ClassQuery)
  | bracketed (negated : Bool) (body : ClassSet)
  | repetition (count : Repeat) (body : Ast)
  | group (kind : GroupKind) (body : Ast)
  | concat (first rest : Ast)
  | alternation (first rest : Ast)
deriving DecidableEq, Repr

namespace Ast

/-- The sequence of the parts. -/
def ofParts : List Ast → Ast
  | [] => .empty
  | [part] => part
  | part :: parts => .concat part (ofParts parts)

/-- The choice between the branches. -/
def ofBranches : List Ast → Ast
  | [] => .empty
  | [branch] => branch
  | branch :: branches => .alternation branch (ofBranches branches)

/-- How many levels of nesting the pattern has.  A whole sequence is one level, and
so is a whole alternation. -/
def depth : Ast → Nat
  | bracketed _ body => body.depth + 1
  | repetition _ body => body.depth + 1
  | group _ body => body.depth + 1
  | concat first rest =>
    match rest with
    | concat _ _ => max (first.depth + 1) rest.depth
    | _ => max (first.depth + 1) (rest.depth + 1)
  | alternation first rest =>
    match rest with
    | alternation _ _ => max (first.depth + 1) rest.depth
    | _ => max (first.depth + 1) (rest.depth + 1)
  | _ => 0

end Ast
end Linear
end LineExtraction

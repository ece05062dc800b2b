import LineExtraction.Backtracking.Ast
import LineExtraction.Backtracking.Reader.Reference
import LineExtraction.Linear.Reader.BracketClass
import LineExtraction.Linear.Reader.GroupHeader

/-!
# Phrases

A phrase is a pattern as its author has it in mind: a tree of characters, classes,
assertions, references and groups, each with at most one quantifier, together with the way
each of them is spelled.  The spellings are those that both dialects know.  Verbose mode,
directives, comments and stacked quantifiers are no part of a phrase.
-/

namespace LineExtraction
namespace Pattern

/-- A property of the characters of a list is decided along the list, and not by going
through all the characters that there are. -/
instance (priority := high) decidableForallMem
    (special : List Char)
    (holds : Char → Prop)
    [DecidablePred holds] :
    Decidable (∀ char ∈ special, holds char) :=
  List.decidableBAll holds special

/-! ## Characters -/

/-- How a character is written. -/
inductive Spelling where
  | plain (char : Char)
  | escaped (char : Char)
  | control (letter : Char)
  | code (letter : Char) (digits : List Char)
  | bracedCode (letter : Char) (digits : List Char)
deriving DecidableEq, Repr

namespace Spelling

/-- The letters of codes. -/
def codeLetters : List Char := ['x', 'u', 'U']

/-- How many digits a code without braces has. -/
def codeWidth (letter : Char) : Nat :=
  if letter = 'x' then 2 else if letter = 'u' then 4 else 8

/-- The most digits that a code in braces may have. -/
def bracedWidth : Nat := 8

/-- The text that the character is written as. -/
def text : Spelling → List Char
  | plain char => [char]
  | escaped char => ['\\', char]
  | control letter => ['\\', letter]
  | code letter digits => '\\' :: letter :: digits
  | bracedCode letter digits => '\\' :: letter :: '{' :: digits ++ ['}']

/-- The character that is written. -/
def char : Spelling → Char
  | plain char => char
  | escaped char => char
  | control letter => (Linear.controlNamed? letter).getD letter
  | code _ digits => Char.ofNat (hexValue digits)
  | bracedCode _ digits => Char.ofNat (hexValue digits)

/-- Whether the code could name a byte. -/
def isByte : Spelling → Bool
  | code letter _ => letter = 'x'
  | _ => false

/-- The character as the linear dialect keeps it. -/
def literal (spelling : Spelling) : Linear.Literal := ⟨spelling.char, spelling.isByte⟩

/-- Whether the spelling means the character, where those of `special` may not stand for
themselves. -/
def isValid (special : List Char) : Spelling → Bool
  | plain char => char ∉ special
  | escaped char => Linear.isEscapable char
  | control letter => (Linear.controlNamed? letter).isSome
  | code letter digits =>
    letter ∈ codeLetters ∧ digits.length = codeWidth letter ∧ digits.all isHexDigit ∧
      (hexValue digits).isValidChar
  | bracedCode letter digits =>
    letter ∈ codeLetters ∧ digits ≠ [] ∧ digits.length ≤ bracedWidth ∧
      digits.all isHexDigit ∧ (hexValue digits).isValidChar

end Spelling

/-- The characters that mean something outside of classes. -/
def outsideSpecial : List Char := ['\\', '.', '+', '*', '?', '(', ')', '|', '[', '{', '^', '$']

/-- The characters that mean something inside of classes. -/
def insideSpecial : List Char := ['[', ']', '\\']

/-! ## Classes -/

/-- A class that an escape names. -/
inductive NamedClass where
  | perl (negated : Bool) (kind : Linear.PerlClass)
  | short (negated : Bool) (letter : Char)
  | long (negated : Bool) (name : List Char)
deriving DecidableEq, Repr

namespace NamedClass

/-- The letter of a one-letter class. -/
def perlLetter : Bool → Linear.PerlClass → Char
  | false, .digit => 'd'
  | true, .digit => 'D'
  | false, .space => 's'
  | true, .space => 'S'
  | false, .word => 'w'
  | true, .word => 'W'

/-- The letter before the name of a class. -/
def propertyLetter (negated : Bool) : Char := if negated then 'P' else 'p'

/-- The text of the class. -/
def text : NamedClass → List Char
  | perl negated kind => ['\\', perlLetter negated kind]
  | short negated letter => ['\\', propertyLetter negated, letter]
  | long negated name => '\\' :: propertyLetter negated :: '{' :: name ++ ['}']

/-- What the class stands for in the linear dialect. -/
def primitive : NamedClass → Linear.Primitive
  | perl negated kind => .perl negated kind
  | short negated letter => .unicode negated (.named [letter])
  | long negated name => Linear.classOfName negated name

/-- The characters that delimit other things and so stand in no name of a class. -/
def delimiters : List Char := ['\\', '[', ']', '(', ')', '{', '}']

/-- Whether the name can be one. -/
def isValid : NamedClass → Bool
  | perl _ _ => true
  | short _ letter => letter.isAlpha
  | long _ name => name.all (· ∉ delimiters)

end NamedClass

/-- One step through the text of a bracket class.  Operators and ranges are made of plain
characters. -/
inductive Member where
  | char (spelling : Spelling)
  | named (kind : NamedClass)
  | ascii (negated : Bool) (kind : Linear.AsciiClass)
  | opening (negated : Bool)
  | closing
deriving DecidableEq, Repr

namespace Member

/-- The name of an ASCII class. -/
def asciiName : Linear.AsciiClass → List Char
  | .alnum => "alnum".toList
  | .alpha => "alpha".toList
  | .ascii => "ascii".toList
  | .blank => "blank".toList
  | .cntrl => "cntrl".toList
  | .digit => "digit".toList
  | .graph => "graph".toList
  | .lower => "lower".toList
  | .print => "print".toList
  | .punct => "punct".toList
  | .space => "space".toList
  | .upper => "upper".toList
  | .word => "word".toList
  | .xdigit => "xdigit".toList

/-- The sign of a negated class. -/
def caret (negated : Bool) : List Char := if negated then ['^'] else []

/-- The text of the member. -/
def text : Member → List Char
  | char spelling => spelling.text
  | named kind => kind.text
  | ascii negated kind => '[' :: ':' :: caret negated ++ asciiName kind ++ [':', ']']
  | opening negated => '[' :: caret negated
  | closing => [']']

/-- Whether the member is well-formed by itself. -/
def isValid : Member → Bool
  | char spelling => spelling.isValid insideSpecial
  | named kind => kind.isValid
  | _ => true

/-- Whether the member may stand right behind the opening of a class, where a caret would
negate and a closing bracket would be a character. -/
def mayOpen (negated : Bool) : Member → Bool
  | char spelling => negated ∨ spelling ≠ .plain '^'
  | closing => false
  | _ => true

/-- Whether the member may stand right behind a nested opening bracket, where a colon would
start the name of an ASCII class. -/
def mayNest (negated : Bool) : Member → Bool
  | char spelling => negated ∨ (spelling ≠ .plain '^' ∧ spelling.char ≠ ':')
  | closing => false
  | _ => true

/-- Whether members are well-formed in their order, with `depth` nested classes open. -/
def areValid : (depth : Nat) → List Member → Bool
  | depth, [] => depth = 0
  | depth, opening negated :: rest =>
    rest.head?.any (mayNest negated) ∧ areValid (depth + 1) rest
  | 0, closing :: _ => false
  | depth + 1, closing :: rest => areValid depth rest
  | depth, member :: rest => member.isValid ∧ areValid depth rest

/-- Whether a hyphen behind the member can make a range. -/
def startsRange : Member → Bool
  | char spelling => spelling ≠ .plain '-'
  | named _ => true
  | _ => false

/-- Whether the member starts with a bracket. -/
def isBracketed : Member → Bool
  | ascii _ _ => true
  | opening _ => true
  | _ => false

/-- Whether no range from the member on ends in a bracket, which would be taken for a
character. -/
def closesRange (first : Member) : List Member → Bool
  | char (.plain '-') :: last :: _ => ¬ (first.startsRange ∧ last.isBracketed)
  | _ => true

/-- Whether no range ends in a bracket. -/
def haveClosedRanges : List Member → Bool
  | [] => true
  | first :: rest => first.closesRange rest ∧ haveClosedRanges rest

end Member

/-- A bracket class: whether it is negated, whether a closing bracket stands first in it as
a member, and its other members. -/
structure Bracket where
  negated : Bool
  bracketFirst : Bool
  members : List Member
deriving DecidableEq, Repr

namespace Bracket

/-- The text behind the opening bracket. -/
def body (bracket : Bracket) : List Char :=
  Member.caret bracket.negated ++ (if bracket.bracketFirst then [']'] else []) ++
    bracket.members.flatMap Member.text ++ [']']

/-- The text of the class. -/
def text (bracket : Bracket) : List Char := '[' :: bracket.body

/-- Whether the class is well-formed.  Without a bracket in front it has a member, which
must not be taken for something else. -/
def isValid (bracket : Bracket) : Bool :=
  (bracket.bracketFirst ∨ bracket.members.head?.any (Member.mayOpen bracket.negated)) ∧
    Member.areValid 0 bracket.members ∧ Member.haveClosedRanges bracket.members

end Bracket

/-! ## Atoms -/

/-- The assertions that both dialects write in the same way. -/
inductive Anchor where
  | startLine
  | endLine
  | startText
  | endText
  | wordBoundary
  | notWordBoundary
  | wordStart
  | wordEnd
deriving DecidableEq, Repr

/-- The text of an assertion. -/
def Anchor.text : Anchor → List Char
  | startLine => ['^']
  | endLine => ['$']
  | startText => ['\\', 'A']
  | endText => ['\\', 'z']
  | wordBoundary => ['\\', 'b']
  | notWordBoundary => ['\\', 'B']
  | wordStart => ['\\', '<']
  | wordEnd => ['\\', '>']

/-- The assertion in the linear dialect. -/
def Anchor.assertion : Anchor → Linear.Assertion
  | startLine => .startLine
  | endLine => .endLine
  | startText => .startText
  | endText => .endText
  | wordBoundary => .wordBoundary
  | notWordBoundary => .notWordBoundary
  | wordStart => .wordStart
  | wordEnd => .wordEnd

/-- Whether a name is one that both dialects allow. -/
def isGroupName : List Char → Bool
  | [] => false
  | first :: rest =>
    Linear.isNameChar true first ∧ Backtracking.isNameChar first ∧
      rest.all fun char => Linear.isNameChar false char ∧ Backtracking.isNameChar char

/-- An atom that is no group.  A reference is written with a key or in parentheses. -/
inductive Leaf where
  | char (spelling : Spelling)
  | dot
  | named (kind : NamedClass)
  | bracket (set : Bracket)
  | anchor (kind : Anchor)
  | reference (keyed : Bool) (name : List Char)
deriving DecidableEq, Repr

namespace Leaf

/-- The text of the atom. -/
def text : Leaf → List Char
  | char spelling => spelling.text
  | dot => ['.']
  | named kind => kind.text
  | bracket set => set.text
  | anchor kind => kind.text
  | reference keyed name =>
    if keyed then '\\' :: 'k' :: '<' :: name ++ ['>']
    else '(' :: '?' :: 'P' :: '=' :: name ++ [')']

/-- Whether the atom is well-formed. -/
def isValid : Leaf → Bool
  | char spelling => spelling.isValid outsideSpecial
  | named kind => kind.isValid
  | bracket set => set.isValid
  | reference _ name => isGroupName name
  | _ => true

/-- Whether the atom is an assertion. -/
def isAnchor : Leaf → Bool
  | anchor _ => true
  | _ => false

/-- Whether the atom is a reference. -/
def isReference : Leaf → Bool
  | reference _ _ => true
  | _ => false

end Leaf

/-! ## Quantifiers -/

/-- How often an atom repeats, in decimal digits where it is counted. -/
inductive Counts where
  | optional
  | star
  | plus
  | exactly (digits : List Char)
  | atLeast (digits : List Char)
  | between (least greatest : List Char)
deriving DecidableEq, Repr

namespace Counts

/-- The text of the counts. -/
def text : Counts → List Char
  | optional => ['?']
  | star => ['*']
  | plus => ['+']
  | exactly digits => '{' :: digits ++ ['}']
  | atLeast digits => '{' :: digits ++ [',', '}']
  | between least greatest => '{' :: least ++ ',' :: greatest ++ ['}']

/-- Whether the digits write a number that fits a machine word. -/
def isNumeral (digits : List Char) : Bool :=
  digits ≠ [] ∧ digits.all Char.isDigit ∧ decimalValue digits ≤ Backtracking.maximalNumber

/-- Whether the counts are well-formed. -/
def isValid : Counts → Bool
  | exactly digits => isNumeral digits
  | atLeast digits => isNumeral digits
  | between least greatest => isNumeral least ∧ isNumeral greatest
  | _ => true

end Counts

/-- A quantifier: counts, and the signs that make it lazy or possessive. -/
structure Quantifier where
  counts : Counts
  lazy : Bool
  possessive : Bool
deriving DecidableEq, Repr

namespace Quantifier

/-- The text of the quantifier. -/
def text (quantifier : Quantifier) : List Char :=
  quantifier.counts.text ++ (if quantifier.lazy then ['?'] else []) ++
    (if quantifier.possessive then ['+'] else [])

/-- The text of a quantifier, if there is one. -/
def textOf : Option Quantifier → List Char
  | none => []
  | some quantifier => quantifier.text

end Quantifier

/-! ## Phrases -/

/-- What a group is for. -/
inductive GroupSign where
  | capture
  | named (long : Bool) (name : List Char)
  | plain
  | fold
  | dotAll
  | atomic
  | look (behind negative : Bool)
deriving DecidableEq, Repr

namespace GroupSign

/-- The text that opens the group. -/
def text : GroupSign → List Char
  | capture => ['(']
  | named true name => '(' :: '?' :: 'P' :: '<' :: name ++ ['>']
  | named false name => '(' :: '?' :: '<' :: name ++ ['>']
  | plain => "(?:".toList
  | fold => "(?i:".toList
  | dotAll => "(?s:".toList
  | atomic => "(?>".toList
  | look false false => "(?=".toList
  | look false true => "(?!".toList
  | look true false => "(?<=".toList
  | look true true => "(?<!".toList

/-- Whether the sign is well-formed. -/
def isValid : GroupSign → Bool
  | named _ name => isGroupName name
  | _ => true

/-- Whether both dialects know the sign. -/
def isCommon : GroupSign → Bool
  | atomic => false
  | look _ _ => false
  | _ => true

/-- Whether the sign is one of looking around. -/
def isLook : GroupSign → Bool
  | look _ _ => true
  | _ => false

/-- The name that the sign gives. -/
def names : GroupSign → List (List Char)
  | named _ name => [name]
  | _ => []

/-- How many groups the sign opens that capture. -/
def captures : GroupSign → Nat
  | capture => 1
  | named _ _ => 1
  | _ => 0

end GroupSign

/-- A pattern with the spelling of its parts: what it starts with and the rest.  A bar ends
a branch. -/
inductive Phrase where
  | done
  | leaf (atom : Leaf) (quantifier : Option Quantifier) (rest : Phrase)
  | group (sign : GroupSign) (body : Phrase) (quantifier : Option Quantifier) (rest : Phrase)
  | bar (rest : Phrase)
deriving DecidableEq, Repr

namespace Phrase

/-- The text of the phrase. -/
def text : Phrase → List Char
  | done => []
  | leaf atom quantifier rest => atom.text ++ (Quantifier.textOf quantifier ++ rest.text)
  | group sign body quantifier rest =>
    sign.text ++ (body.text ++ ')' :: (Quantifier.textOf quantifier ++ rest.text))
  | bar rest => '|' :: rest.text

/-- Whether all atoms and groups are of some kinds, each with its quantifier. -/
def allOf (leafOk : Leaf → Option Quantifier → Bool)
    (signOk : GroupSign → Option Quantifier → Bool) : Phrase → Bool
  | done => true
  | leaf atom quantifier rest => leafOk atom quantifier ∧ rest.allOf leafOk signOk
  | group sign body quantifier rest =>
    signOk sign quantifier ∧ body.allOf leafOk signOk ∧ rest.allOf leafOk signOk
  | bar rest => rest.allOf leafOk signOk

theorem allOf_leaf_iff
    {leafOk : Leaf → Option Quantifier → Bool}
    {signOk : GroupSign → Option Quantifier → Bool}
    {atom : Leaf}
    {quantifier : Option Quantifier}
    {rest : Phrase} :
    (leaf atom quantifier rest).allOf leafOk signOk ↔
      leafOk atom quantifier ∧ rest.allOf leafOk signOk := by
  rw [allOf, decide_eq_true_eq]

theorem allOf_group_iff
    {leafOk : Leaf → Option Quantifier → Bool}
    {signOk : GroupSign → Option Quantifier → Bool}
    {sign : GroupSign}
    {body rest : Phrase}
    {quantifier : Option Quantifier} :
    (group sign body quantifier rest).allOf leafOk signOk ↔
      signOk sign quantifier ∧ body.allOf leafOk signOk ∧ rest.allOf leafOk signOk := by
  rw [allOf, decide_eq_true_eq]

/-- Whether the phrase is well-formed.  An assertion has no quantifier. -/
def isValid : Phrase → Bool :=
  allOf
    (fun atom quantifier =>
      atom.isValid ∧ quantifier.all (·.counts.isValid) ∧ (quantifier.isNone ∨ ¬ atom.isAnchor))
    (fun sign quantifier => sign.isValid ∧ quantifier.all (·.counts.isValid))

/-- Whether both dialects know the phrase: it looks around nowhere, commits nowhere and refers
to no group. -/
def isCommon : Phrase → Bool :=
  allOf
    (fun atom quantifier => ¬ atom.isReference ∧ quantifier.all fun quantifier => ¬ quantifier.possessive)
    (fun sign quantifier => sign.isCommon ∧ quantifier.all fun quantifier => ¬ quantifier.possessive)

/-- How many groups of the phrase capture. -/
def captures : Phrase → Nat
  | done => 0
  | leaf _ _ rest => rest.captures
  | group sign body _ rest => sign.captures + body.captures + rest.captures
  | bar rest => rest.captures

/-- The names of the groups, last first. -/
def names : Phrase → List (List Char)
  | done => []
  | leaf _ _ rest => rest.names
  | group sign body _ rest => rest.names ++ (body.names ++ sign.names)
  | bar rest => rest.names

/-- The phrase followed by another. -/
def append : Phrase → Phrase → Phrase
  | done, back => back
  | leaf atom quantifier rest, back => .leaf atom quantifier (rest.append back)
  | group sign body quantifier rest, back => .group sign body quantifier (rest.append back)
  | bar rest, back => .bar (rest.append back)

@[simp] theorem text_append
    (front back : Phrase) :
    (front.append back).text = front.text ++ back.text := by
  induction front with
  | done => rfl
  | leaf atom quantifier rest restHypothesis => simp [append, text, restHypothesis]
  | group sign body quantifier rest _ restHypothesis => simp [append, text, restHypothesis]
  | bar rest restHypothesis => simp [append, text, restHypothesis]

theorem allOf_append
    (leafOk : Leaf → Option Quantifier → Bool)
    (signOk : GroupSign → Option Quantifier → Bool)
    (front back : Phrase) :
    (front.append back).allOf leafOk signOk =
      (front.allOf leafOk signOk && back.allOf leafOk signOk) := by
  induction front with
  | done => rfl
  | leaf atom quantifier rest restHypothesis =>
      simp [append, allOf, restHypothesis, Bool.and_assoc]
  | group sign body quantifier rest _ restHypothesis =>
      simp [append, allOf, restHypothesis, Bool.and_assoc]
  | bar rest restHypothesis => simp [append, allOf, restHypothesis]

end Phrase

/-! ## Branches -/

/-- What stands between the bars of a phrase, in front of the first one and behind it. -/
structure Alternatives (α : Type) where
  here : List α
  later : List (List α)
deriving DecidableEq, Repr

namespace Alternatives

variable {α β : Type}

/-- Nothing, and no bar. -/
def nothing : Alternatives α := ⟨[], []⟩

/-- One part in front of the others. -/
def cons (part : α) (rest : Alternatives α) : Alternatives α :=
  { rest with here := part :: rest.here }

/-- A bar in front of the others. -/
def bar (rest : Alternatives α) : Alternatives α := ⟨[], rest.here :: rest.later⟩

/-- The branches in order. -/
def branches (alternatives : Alternatives α) : List (List α) :=
  alternatives.here :: alternatives.later

/-- Change every part. -/
def map (change : α → β) (alternatives : Alternatives α) : Alternatives β :=
  ⟨alternatives.here.map change, alternatives.later.map (·.map change)⟩

theorem map_cons
    (change : α → β)
    (part : α)
    (rest : Alternatives α) :
    (rest.cons part).map change = (rest.map change).cons (change part) := rfl

/-- Something holds of every part. -/
def All (holds : α → Prop) (alternatives : Alternatives α) : Prop :=
  ∀ branch ∈ alternatives.branches, ∀ part ∈ branch, holds part

theorem all_nothing
    {holds : α → Prop} :
    (nothing : Alternatives α).All holds :=
  List.forall_mem_singleton.mpr fun _ member => absurd member List.not_mem_nil

theorem all_cons_iff
    {holds : α → Prop}
    {part : α}
    {rest : Alternatives α} :
    (rest.cons part).All holds ↔ holds part ∧ rest.All holds := by
  simp only [All, branches, cons, List.forall_mem_cons, and_assoc]

theorem all_bar_iff
    {holds : α → Prop}
    {rest : Alternatives α} :
    rest.bar.All holds ↔ rest.All holds := by
  simp [All, branches, bar]

end Alternatives

/-! ## What may follow -/

/-- Whether a text cannot be taken for a quantifier or a comment. -/
def isClear : List Char → Bool
  | '(' :: '?' :: '#' :: _ => false
  | first :: _ => first ∉ ['?', '*', '+', '{']
  | [] => true

theorem isClear_cons
    {first : Char}
    (plain : first ∉ ['?', '*', '+', '{', '('])
    (rest : List Char) :
    isClear (first :: rest) := by
  unfold isClear
  split
  · next same =>
      obtain ⟨rfl, -⟩ := List.cons.inj same
      exact absurd plain (by decide)
  · next same =>
      obtain ⟨rfl, -⟩ := List.cons.inj same
      exact decide_eq_true fun member => plain (List.mem_append_left ['('] member)
  · rfl

theorem Leaf.isClear_text_append
    {atom : Leaf}
    (valid : atom.isValid)
    (more : List Char) :
    isClear (atom.text ++ more) := by
  cases atom with
  | char spelling =>
      cases spelling with
      | plain char =>
          refine isClear_cons (fun member => ?_) _
          have apart : char ∉ outsideSpecial := of_decide_eq_true valid
          exact apart (List.Subset.trans (by decide) (List.Subset.refl outsideSpecial) member)
      | _ => exact isClear_cons (by decide) _
  | dot => exact isClear_cons (by decide) _
  | named kind => cases kind <;> exact isClear_cons (by decide) _
  | bracket set => exact isClear_cons (by decide) _
  | anchor kind => cases kind <;> exact isClear_cons (by decide) _
  | reference keyed name =>
      cases keyed with
      | true => exact isClear_cons (by decide) _
      | false => rfl

theorem isClear_openParen
    {rest : List Char}
    (clear : isClear rest) :
    isClear ('(' :: rest) := by
  unfold isClear
  split
  · next same =>
      obtain ⟨-, rfl⟩ := List.cons.inj same
      simp [isClear] at clear
  · next same =>
      obtain ⟨rfl, -⟩ := List.cons.inj same
      rfl
  · rfl

theorem GroupSign.isClear_text_append
    (sign : GroupSign)
    {more : List Char}
    (clear : isClear more) :
    isClear (sign.text ++ more) := by
  cases sign with
  | capture => exact isClear_openParen clear
  | named long name => cases long <;> rfl
  | look behind negative => cases behind <;> cases negative <;> rfl
  | _ => rfl

/-- What starts with a phrase cannot be taken for a quantifier or a comment. -/
theorem Phrase.isClear_text_append
    {phrase : Phrase}
    (valid : phrase.isValid)
    {more : List Char}
    (clear : isClear more) :
    isClear (phrase.text ++ more) := by
  induction phrase generalizing more with
  | done => exact clear
  | leaf atom quantifier rest _ =>
      rw [isValid, allOf, decide_eq_true_eq] at valid
      rw [text, List.append_assoc]
      exact atom.isClear_text_append (of_decide_eq_true valid.1).1 _
  | group sign body quantifier rest bodyHypothesis _ =>
      rw [isValid, allOf, decide_eq_true_eq] at valid
      rw [text, List.append_assoc, List.append_assoc]
      exact sign.isClear_text_append
        (bodyHypothesis valid.2.1 (isClear_cons (by decide) _))
  | bar rest _ => exact isClear_cons (by decide) _

end Pattern
end LineExtraction

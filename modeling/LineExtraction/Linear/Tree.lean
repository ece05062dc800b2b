import LineExtraction.Unicode.CodePointSet

/-!
# Pattern trees

The meaning of a pattern once flags, names and case are resolved: literals, sets
of characters, assertions about a position, repetition, captures, sequence and
choice.  Sequences and choices are built by functions that put them in a normal
form: a sequence holds no empty part and no two literals side by side, a choice of
single characters or of sets is a set, and a beginning that all branches share stands once
before the choice.
-/

namespace LineExtraction
namespace Linear

open Unicode (CodePointSet)

/-- What an assertion asks of the characters around a position. -/
inductive Look where
  | startText
  | endText
  | startLine
  | endLine
  | startLineCrlf
  | endLineCrlf
  | wordBoundary (ascii : Bool)
  | notWordBoundary (ascii : Bool)
  | wordStart (ascii : Bool)
  | wordEnd (ascii : Bool)
  | wordStartHalf (ascii : Bool)
  | wordEndHalf (ascii : Bool)
deriving DecidableEq, Repr

/-- A pattern tree.  Sequence and choice are kept as a first part and the rest. -/
inductive Tree where
  | empty
  | literal (chars : List Char)
  | set (members : CodePointSet)
  | look (look : Look)
  | repetition (min : Nat) (max : Option Nat) (greedy : Bool) (body : Tree)
  | capture (index : Nat) (name : Option (List Char)) (body : Tree)
  | concat (first rest : Tree)
  | alternation (first rest : Tree)
deriving DecidableEq, Repr

namespace Tree

/-! ## Lengths -/

/-- The sum of two bounds, where `none` is no bound. -/
def addBound (left right : Option Nat) : Option Nat :=
  match left, right with
  | some left, some right => some (left + right)
  | _, _ => none

/-- The fewest characters that the tree matches. -/
def minLength : Tree → Nat
  | empty => 0
  | literal chars => chars.length
  | set members => if members.isEmpty then 0 else 1
  | look _ => 0
  | repetition min _ _ body => min * body.minLength
  | capture _ _ body => body.minLength
  | concat first rest => first.minLength + rest.minLength
  | alternation first rest => min first.minLength rest.minLength

/-- Whether the tree can match nothing but the empty text. -/
def onlyEmpty : Tree → Bool
  | empty => true
  | literal chars => chars.isEmpty
  | set _ => false
  | look _ => true
  | repetition _ max _ body => max = some 0 ∨ (max.isSome ∧ body.onlyEmpty)
  | capture _ _ body => body.onlyEmpty
  | concat first rest => first.onlyEmpty ∧ rest.onlyEmpty
  | alternation first rest => first.onlyEmpty ∧ rest.onlyEmpty

/-! ## Building trees in normal form -/

/-- The tree of a set of characters.  A set of one is a literal. -/
def ofSet (members : CodePointSet) : Tree :=
  match members.onlyMember? with
  | some char => .literal [char]
  | none => .set members

/-- The parts of a sequence. -/
def parts : Tree → List Tree
  | empty => []
  | concat first rest => first :: rest.parts
  | tree => [tree]

/-- The branches of a choice. -/
def branches : Tree → List Tree
  | alternation first rest => first :: rest.branches
  | tree => [tree]

/-- The sequence of parts that are already in normal form. -/
def chain : List Tree → Tree
  | [] => .empty
  | [part] => part
  | part :: parts => .concat part (chain parts)

/-- The choice between branches that are already in normal form. -/
def choice : List Tree → Tree
  | [] => .set .empty
  | [branch] => branch
  | branch :: branches => .alternation branch (choice branches)

/-- Join literals that stand side by side. -/
def joinLiterals : List Tree → List Tree
  | [] => []
  | .literal chars :: rest =>
    match joinLiterals rest with
    | .literal more :: joined => .literal (chars ++ more) :: joined
    | joined => .literal chars :: joined
  | part :: rest => part :: joinLiterals rest

/-- The sequence of the parts. -/
def ofParts (parts : List Tree) : Tree :=
  chain (joinLiterals (parts.flatMap Tree.parts))

/-- Repeat a tree.  A tree that matches only the empty text needs no second turn. -/
def repeated (min : Nat) (max : Option Nat) (greedy : Bool) (body : Tree) : Tree :=
  let (low, high) :=
    if body.onlyEmpty then (Nat.min min 1, some ((max.map (Nat.min · 1)).getD 1)) else (min, max)
  if low = 0 ∧ high = some 0 then .empty
  else if low = 1 ∧ high = some 1 then body
  else .repetition low high greedy body

/-- The member of a branch that is one character. -/
def onlyChar? : Tree → Option CodePointSet
  | literal [char] => some (.singleton char)
  | _ => none

/-- The members of a branch that is a set. -/
def members? : Tree → Option CodePointSet
  | set members => some members
  | _ => none

/-- The members of branches that are all characters or all sets. -/
def allMembers? (branches : List Tree) : Option (List CodePointSet) :=
  (branches.mapM onlyChar?).or (branches.mapM members?)

/-- How many parts two sequences have in common at the front. -/
def commonLength (left right : List Tree) : Nat :=
  match left, right with
  | first :: left, second :: right =>
    if first = second then commonLength left right + 1 else 0
  | _, _ => 0

/-- The parts of a sequence of at least two. -/
def sequence? : Tree → Option (List Tree)
  | concat first rest => some (first :: rest.parts)
  | _ => none

/-- How many parts all the sequences have in common with `first`. -/
def sharedLength (first : List Tree) (others : List (List Tree)) : Nat :=
  others.foldl (fun length other => Nat.min length (commonLength first other)) first.length

/-- The choice between the branches.  `fuel` bounds how often a shared beginning is
taken out of the rests that it leaves. -/
def ofBranchesWithin : (fuel : Nat) → List Tree → Tree
  | 0, given => choice given
  | fuel + 1, given =>
    let flat := given.flatMap Tree.branches
    match flat with
    | [] => .set .empty
    | [branch] => branch
    | _ =>
      match allMembers? flat with
      | some sets => ofSet (sets.foldl CodePointSet.union .empty)
      | none =>
        match flat.mapM sequence? with
        | some (first :: others) =>
          let shared := sharedLength first others
          if shared = 0 then choice flat
          else
            let rests := (first :: others).map fun parts => ofParts (parts.drop shared)
            ofParts (first.take shared ++ [ofBranchesWithin fuel rests])
        | _ => choice flat

/-- How many nodes the tree has. -/
def size : Tree → Nat
  | repetition _ _ _ body => body.size + 1
  | capture _ _ body => body.size + 1
  | concat first rest => first.size + rest.size + 1
  | alternation first rest => first.size + rest.size + 1
  | _ => 1

/-- The choice between the branches. -/
def ofBranches (given : List Tree) : Tree :=
  ofBranchesWithin ((given.map size).foldr (· + ·) 0 + 1) given

end Tree
end Linear
end LineExtraction

import LineExtraction.Linear.Tree

/-!
# Parsed backtracking patterns

The shape of a pattern of the backtracking dialect once flags and names are
resolved.  Besides what the linear dialect has, a pattern can look around, commit to
a choice, refer back to what a group matched, and branch on whether a group matched.
Classes are kept as text in the linear dialect.
-/

namespace LineExtraction
namespace Backtracking

open Linear (Look)

/-- Where a look-around looks, and whether it wants a match or none. -/
structure LookAround where
  behind : Bool
  negative : Bool
deriving DecidableEq, Repr

/-- A parsed pattern. -/
inductive Ast where
  | empty
  | any (newline : Bool)
  | literal (char : Char) (fold : Bool)
  | assertion (look : Look)
  | charClass (text : List Char) (fold : Bool)
  | sequence (parts : List Ast)
  | choice (branches : List Ast)
  | capture (index : Nat) (body : Ast)
  | lookAround (kind : LookAround) (body : Ast)
  | atomic (body : Ast)
  | repetition (min : Nat) (max : Option Nat) (greedy : Bool) (body : Ast)
  | backreference (group : Nat)
  | groupMatched (group : Nat)
  | keepOut
  | continueMatch
  | conditional (condition consequent alternative : Ast)
deriving Repr

namespace Ast

/-- Whether the pattern is the empty one. -/
def isEmpty : Ast → Bool
  | empty => true
  | _ => false

/-- The sequence of the parts. -/
def ofParts : List Ast → Ast
  | [] => .empty
  | [part] => part
  | parts => .sequence parts

/-- The choice between the branches. -/
def ofBranches : List Ast → Ast
  | [branch] => branch
  | branches => .choice branches

/-- Whether a quantifier may stand behind the pattern. -/
def isRepeatable : Ast → Bool
  | empty => false
  | assertion _ => false
  | lookAround _ _ => false
  | _ => true

/-- The pattern that goes on with `consequent` where `condition` matches and with
`alternative` where it does not.  A reference as a condition asks whether its group
matched. -/
def ofCondition (condition : Ast) (body : Ast) : Ast :=
  let condition :=
    match condition with
    | backreference group => .groupMatched group
    | condition => condition
  let (consequent, alternative) :=
    match body with
    | choice (first :: others) => (first, ofBranches others)
    | body => (body, .empty)
  if consequent.isEmpty ∧ alternative.isEmpty then condition
  else .conditional condition consequent alternative

end Ast
end Backtracking
end LineExtraction

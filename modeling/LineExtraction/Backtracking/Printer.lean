import LineExtraction.Backtracking.Ast
import LineExtraction.Pattern.Quote

/-!
# Backtracking patterns in the linear dialect

Writes a pattern that is not hard as text in the linear dialect.  A part is put in
a group when it would otherwise bind differently.  Hard parts have no text.
-/

namespace LineExtraction
namespace Backtracking

/-- How tightly a written part must hold together: not at all, against a choice
beside it, against a sequence around it, or against a quantifier behind it. -/
inductive Binding where
  | loose
  | branch
  | part
  | quantified
deriving DecidableEq, Repr

/-- Put text in a group that does not capture. -/
def grouped (text : List Char) : List Char :=
  "(?:".toList ++ text ++ [')']

/-- Put text in a group that folds case, when asked to. -/
def foldedWhen (fold : Bool) (text : List Char) : List Char :=
  if fold then "(?i:".toList ++ text ++ [')'] else text

/-- The text of a quantifier. -/
def quantifierText (min : Nat) (max : Option Nat) (greedy : Bool) : List Char :=
  let counts :=
    match min, max with
    | 0, some 1 => ['?']
    | 0, none => ['*']
    | 1, none => ['+']
    | min, none => '{' :: (Nat.repr min).toList ++ [',', '}']
    | min, some max =>
      if min = max then '{' :: (Nat.repr min).toList ++ ['}']
      else '{' :: (Nat.repr min).toList ++ ',' :: (Nat.repr max).toList ++ ['}']
  if greedy then counts else counts ++ ['?']

/-- The text of an assertion that is not hard. -/
def lookText : Linear.Look → List Char
  | .startText => ['^']
  | .endText => ['$']
  | .startLine => "(?m:^)".toList
  | .endLine => "(?m:$)".toList
  | _ => []

namespace Ast

mutual

/-- The text of a pattern that has to hold together as `binding` says. -/
def toText (binding : Binding) : Ast → List Char
  | empty => []
  | any newline => if newline then "(?s:.)".toList else ['.']
  | literal char fold => foldedWhen fold (Pattern.quoteWith Pattern.isBacktrackingMeta [char])
  | assertion look => lookText look
  | charClass text fold => foldedWhen fold text
  | sequence parts =>
    let text := partsText parts
    if binding = .part ∨ binding = .quantified then grouped text else text
  | choice branches =>
    let text := branchesText branches
    if binding = .loose then text else grouped text
  | capture _ body => '(' :: toText .loose body ++ [')']
  | repetition min max greedy body =>
    let text := toText .quantified body ++ quantifierText min max greedy
    if binding = .quantified then grouped text else text
  | _ => []

/-- The texts of parts one after the other. -/
def partsText : List Ast → List Char
  | [] => []
  | part :: parts => toText .part part ++ partsText parts

/-- The texts of branches with bars between them. -/
def branchesText : List Ast → List Char
  | [] => []
  | [branch] => toText .branch branch
  | branch :: branches => toText .branch branch ++ '|' :: branchesText branches

end

end Ast
end Backtracking
end LineExtraction

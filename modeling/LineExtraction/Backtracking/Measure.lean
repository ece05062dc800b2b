import LineExtraction.Backtracking.Ast

/-!
# Sizes and difficulty of backtracking patterns

A pattern is hard when the linear dialect cannot match it: it looks around, commits
or refers to groups.  Everything else is handed to the linear dialect, and so are
groups that something refers to.  The least size of a pattern and whether all its
matches have that size decide how it may be cut into parts.
-/

namespace LineExtraction
namespace Backtracking

open Linear (Look)

/-- Whether an assertion is kept from the linear dialect: those about words are. -/
def isHardLook : Look → Bool
  | .wordBoundary _ => true
  | .notWordBoundary _ => true
  | .wordStart _ => true
  | .wordEnd _ => true
  | _ => false

namespace Ast

mutual

/-- The fewest characters that the pattern matches, as far as sizes are tracked. -/
def minSize : Ast → Nat
  | empty => 0
  | any _ => 1
  | literal _ _ => 1
  | assertion _ => 0
  | charClass _ _ => 1
  | sequence parts => sumMinSizes parts
  | choice branches => leastMinSize branches
  | capture _ body => body.minSize
  | lookAround _ _ => 0
  | atomic body => body.minSize
  | repetition min _ _ body => body.minSize * min
  | backreference _ => 0
  | groupMatched _ => 0
  | keepOut => 0
  | continueMatch => 0
  | conditional condition consequent alternative =>
    condition.minSize + Nat.min consequent.minSize alternative.minSize

/-- The sum of the least sizes. -/
def sumMinSizes : List Ast → Nat
  | [] => 0
  | part :: parts => part.minSize + sumMinSizes parts

/-- The least of the least sizes. -/
def leastMinSize : List Ast → Nat
  | [] => 0
  | [branch] => branch.minSize
  | branch :: branches => Nat.min branch.minSize (leastMinSize branches)

end

mutual

/-- Whether all matches of the pattern are known to have its least size. -/
def isConstSize : Ast → Bool
  | empty => true
  | any _ => true
  | literal _ _ => true
  | assertion _ => true
  | charClass _ _ => true
  | sequence parts => areConstSize parts
  | choice [] => true
  | choice (first :: others) => first.isConstSize ∧ haveConstSize first.minSize others
  | capture _ body => body.isConstSize
  | lookAround _ _ => true
  | atomic body => body.isConstSize
  | repetition min max _ body => body.isConstSize ∧ max = some min
  | backreference _ => false
  | groupMatched _ => true
  | keepOut => true
  | continueMatch => true
  | conditional condition consequent alternative =>
    condition.isConstSize ∧ consequent.isConstSize ∧ alternative.isConstSize ∧
      condition.minSize + consequent.minSize = alternative.minSize

/-- Whether every pattern of the list has one size. -/
def areConstSize : List Ast → Bool
  | [] => true
  | part :: parts => part.isConstSize ∧ areConstSize parts

/-- Whether every pattern of the list has the one given size. -/
def haveConstSize (size : Nat) : List Ast → Bool
  | [] => true
  | branch :: branches =>
    branch.isConstSize ∧ branch.minSize = size ∧ haveConstSize size branches

end

mutual

/-- Whether the linear dialect cannot match the pattern. -/
def isHard : Ast → Bool
  | assertion look => isHardLook look
  | sequence parts => anyHard parts
  | choice branches => anyHard branches
  | capture _ body => body.isHard
  | lookAround _ _ => true
  | atomic _ => true
  | repetition _ _ _ body => body.isHard
  | backreference _ => true
  | groupMatched _ => true
  | keepOut => true
  | continueMatch => true
  | conditional _ _ _ => true
  | _ => false

/-- Whether some pattern of the list is hard. -/
def anyHard : List Ast → Bool
  | [] => false
  | part :: parts => part.isHard ∨ anyHard parts

end

mutual

/-- The groups of the pattern in order. -/
def captures : Ast → List Nat
  | sequence parts => capturesOf parts
  | choice branches => capturesOf branches
  | capture index body => index :: body.captures
  | lookAround _ body => body.captures
  | atomic body => body.captures
  | repetition _ _ _ body => body.captures
  | conditional condition consequent alternative =>
    condition.captures ++ consequent.captures ++ alternative.captures
  | _ => []

/-- The groups of the patterns in order. -/
def capturesOf : List Ast → List Nat
  | [] => []
  | part :: parts => part.captures ++ capturesOf parts

end

mutual

/-- The characters of a pattern that is nothing but literals without case folding. -/
def literalText? : Ast → Option (List Char)
  | literal char fold => if fold then none else some [char]
  | sequence parts => literalTextOf? parts
  | _ => none

/-- The characters of parts that are nothing but literals without case folding. -/
def literalTextOf? : List Ast → Option (List Char)
  | [] => some []
  | part :: parts => do return (← part.literalText?) ++ (← literalTextOf? parts)

end

end Ast
end Backtracking
end LineExtraction

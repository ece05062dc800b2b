/-!
# Quoting text as a pattern

Text is quoted by putting a backslash in front of every character that a pattern
dialect gives a meaning to.  The two dialects differ in which characters those
are, so the set is a parameter.
-/

namespace LineExtraction
namespace Pattern

/-- The characters that the linear dialect may read as more than themselves,
among them those that matter only inside a class or in verbose mode. -/
def isLinearMeta (char : Char) : Bool :=
  char ∈ ['\\', '.', '+', '*', '?', '(', ')', '|', '[', ']', '{', '}', '^', '$',
    '#', '&', '-', '~']

/-- The characters that the backtracking dialect quotes: those with a meaning
outside a class. -/
def isBacktrackingMeta (char : Char) : Bool :=
  char ∈ ['\\', '.', '+', '*', '?', '(', ')', '|', '[', ']', '{', '}', '^', '$', '#']

/-- Put a backslash in front of every character that `isMeta` holds of. -/
def quoteWith (isMeta : Char → Bool) : List Char → List Char
  | [] => []
  | char :: rest =>
    if isMeta char then '\\' :: char :: quoteWith isMeta rest
    else char :: quoteWith isMeta rest

/-- Quote `text` for the linear dialect, so that it matches exactly itself. -/
def quoteLinear (text : String) : String :=
  String.ofList (quoteWith isLinearMeta text.toList)

/-- Quote `text` for the backtracking dialect, so that it matches exactly itself. -/
def quoteBacktracking (text : String) : String :=
  String.ofList (quoteWith isBacktrackingMeta text.toList)

theorem quoteWith_append (isMeta : Char → Bool) (left right : List Char) :
    quoteWith isMeta (left ++ right) = quoteWith isMeta left ++ quoteWith isMeta right := by
  induction left with
  | nil => rfl
  | cons char rest inductionHypothesis =>
    by_cases special : isMeta char <;> simp [quoteWith, special, inductionHypothesis]

end Pattern
end LineExtraction

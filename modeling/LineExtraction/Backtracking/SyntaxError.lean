/-!
# Faults of backtracking patterns

Every way in which the text of a pattern of the backtracking dialect can be
ill-formed, with the wording of each.
-/

namespace LineExtraction
namespace Backtracking

/-- How many groups may be open inside each other, the pattern itself included. -/
def nestLimit : Nat := 64

/-- Why a text is no pattern of the backtracking dialect. -/
inductive SyntaxError where
  | endNotReached
  | closeParenExpected
  | conditionWithoutBranch
  | parenUnclosed
  | nestLimitExceeded
  | backslashTrailing
  | escapeInvalid (letter : Char)
  | unicodeNameUnclosed
  | hexInvalid
  | codePointInvalid
  | classInvalid
  | flagUnknown (header : List Char)
  | unicodeRequired
  | referenceInvalid
  | targetNotRepeatable
  | groupNameInvalid
  | referenceNameUnknown (name : List Char)
  | numberedBesideNamed
deriving DecidableEq, Repr

namespace SyntaxError

/-- The wording of a fault in the grammar. -/
def description : SyntaxError → String
  | endNotReached => "General parsing error: end of string not reached"
  | closeParenExpected => "General parsing error: expected close paren"
  | conditionWithoutBranch =>
    "General parsing error: expected conditional to be a backreference or at least an " ++
      "expression for when the condition is true"
  | parenUnclosed => "Opening parenthesis without closing parenthesis"
  | nestLimitExceeded => "Pattern too deeply nested"
  | backslashTrailing => "Backslash without following character"
  | escapeInvalid letter => "Invalid escape: \\" ++ String.singleton letter
  | unicodeNameUnclosed => "Unicode escape not closed"
  | hexInvalid => "Invalid hex escape"
  | codePointInvalid => "Invalid codepoint for hex or unicode escape"
  | classInvalid => "Invalid character class"
  | flagUnknown header => "Unknown group flag: (?" ++ String.ofList header
  | unicodeRequired => "Disabling Unicode not supported"
  | referenceInvalid => "Invalid back reference"
  | targetNotRepeatable => "Target of repeat operator is invalid"
  | groupNameInvalid => "Could not parse group name"
  | referenceNameUnknown name =>
    "Invalid group name in back reference: " ++ String.ofList name
  | numberedBesideNamed =>
    "Numbered backref/call not allowed because named group was used, " ++
      "use a named backref instead"

/-- The whole message of a fault.  That numbers and names do not mix is a rule of
meaning and not of grammar. -/
def message (error : SyntaxError) : String :=
  match error with
  | numberedBesideNamed => "Error compiling regex: " ++ error.description
  | _ => "fancy: " ++ error.description

end SyntaxError
end Backtracking
end LineExtraction

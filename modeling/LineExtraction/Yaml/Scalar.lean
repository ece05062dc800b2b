/-!
# Scalars

The text of a scalar, and how it is written.  Only how it is written tells a number
from a text that looks like one.
-/

namespace LineExtraction
namespace Yaml

/-- How a scalar is written. -/
inductive ScalarStyle where
  | plain
  | singleQuoted
  | doubleQuoted
  | literal
  | folded
deriving DecidableEq, Repr

/-- A scalar. -/
structure Scalar where
  style : ScalarStyle
  content : String
deriving DecidableEq, Repr

/-- The scalar of a node that has none. -/
def Scalar.empty : Scalar := ⟨.plain, ""⟩

/-- Whether a scalar is plain and has no content. -/
def Scalar.isEmpty (scalar : Scalar) : Bool :=
  scalar.style = .plain ∧ scalar.content.isEmpty

end Yaml
end LineExtraction

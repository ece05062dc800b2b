import LineExtraction.Compilation.Dialect
import LineExtraction.Linear.Regex

/-!
# Discriminators

A discriminator tells which definitions may match a line, in order of priority.  The
usual one runs the discriminator pattern of every definition; any other function
from lines to candidates will do.
-/

namespace LineExtraction

/-- What tells the candidates for a line, and from how many patterns it was built. -/
structure Discriminator where
  size : Nat
  candidates : Line → List Nat

/-- What builds a discriminator from the patterns of the definitions, or says why it
cannot. -/
abbrev DiscriminatorBuilder := List String → Logged (Except String Discriminator)

namespace Discriminator

/-- Compile patterns together, within a limit on the size of all. -/
def compileAll (sizeLimit : Nat) (patterns : List String) :
    Except Linear.CompileError (List Linear.Regex) := do
  let asts ← (patterns.mapM fun pattern => Linear.parse pattern.toList).mapError .illFormed
  let trees ← (asts.mapM Linear.lowerPattern).mapError .illFormed
  if ¬ Linear.fitsWithin sizeLimit false trees then throw (.tooBig sizeLimit)
  return trees.map Linear.Regex.ofTree

/-- The numbers of the patterns that match a line.  `index` is the number of the first
pattern. -/
def matching (line : Line) (index : Nat) : List Linear.Regex → List Nat
  | [] => []
  | regex :: regexes =>
    if regex.isMatch line then index :: matching line (index + 1) regexes
    else matching line (index + 1) regexes

/-- The discriminator that runs every pattern on the whole line. -/
def ofPatterns (sizeLimit : Nat) (patterns : List String) : Except String Discriminator := do
  let regexes ← (compileAll sizeLimit (patterns.map Dialect.anchored)).mapError
    Linear.CompileError.message
  return ⟨regexes.length, fun line => matching line 0 regexes⟩

/-- Build the discriminator that runs every pattern. -/
def builder (sizeLimit : Nat) : DiscriminatorBuilder := fun patterns =>
  match ofPatterns sizeLimit patterns with
  | .error cause => .silent (.error cause)
  | .ok discriminator => do
    Logged.write .debug
      ("built discriminator over " ++ toString discriminator.size ++ " patterns")
    return .ok discriminator

end Discriminator
end LineExtraction

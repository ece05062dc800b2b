import LineExtraction.Text.Read

/-!
# Characters of YAML

Which characters a document may hold, which of them are blank, which break lines, and
what stands at the front of a text.
-/

namespace LineExtraction
namespace Yaml

/-- The mark that may stand in front of a text to tell its encoding. -/
def byteOrderMark : Char := '\uFEFF'

/-- The line break of large computers. -/
def nextLine : Char := '\u0085'

/-- Whether a document may hold `char`.  Other characters have to be escaped. -/
def isAllowed (char : Char) : Bool :=
  let code := char.toNat
  code = 0x09 ∨ code = 0x0A ∨ code = 0x0D ∨ (0x20 ≤ code ∧ code ≤ 0x7E) ∨ code = 0x85 ∨
    (0xA0 ≤ code ∧ code ≤ 0xD7FF) ∨ (0xE000 ≤ code ∧ code ≤ 0xFFFD) ∨ 0x10000 ≤ code

/-- Whether `char` is a space or a tab. -/
def isBlank (char : Char) : Bool := char = ' ' ∨ char = '\t'

/-- Whether `char` ends a line. -/
def isBreak (char : Char) : Bool :=
  char = '\n' ∨ char = '\r' ∨ char = nextLine ∨ char = '\u2028' ∨ char = '\u2029'

/-- Whether `char` ends a word. -/
def isSpacing (char : Char) : Bool := isBlank char || isBreak char

/-- The line break as it stands in a scalar: a newline, but for the two separators. -/
def breakContent (char : Char) : Char :=
  if char = '\u2028' ∨ char = '\u2029' then char else '\n'

/-- Whether `char` may stand in the name of an anchor or of a tag handle. -/
def isNameChar (char : Char) : Bool := char.isAlphanum ∨ char = '_' ∨ char = '-'

/-- Whether a text ends here or goes on with spacing. -/
def spacedOrDone (text : List Char) : Bool := text.head?.all isSpacing

/-- Whether a line that starts here starts or ends a document. -/
def atDocumentMarker (text : List Char) : Bool :=
  match text with
  | a :: b :: c :: rest =>
    a = b ∧ b = c ∧ (a = '-' ∨ a = '.') ∧ spacedOrDone rest
  | _ => false

end Yaml
end LineExtraction

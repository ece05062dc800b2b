import LineExtraction.Unicode.NameCharacter

/-!
# Quoted text

Text between quotation marks for a reader to see: characters that show nothing, or
that would join the one before them, are written by their codes.
-/

namespace LineExtraction
namespace Quoted

open Unicode (CodePointRange)

/-- Whether some list of ranges holds the character. -/
def someHolds (tables : List (List CodePointRange)) (char : Char) : Bool :=
  tables.any (CodePointRange.anyHolds · char)

/-- The characters of the categories that show something. -/
def graphic : List (List CodePointRange) :=
  open Unicode.GeneralCategoryTable in
  [uppercaseLetter, lowercaseLetter, titlecaseLetter, modifierLetter, otherLetter, spacingMark,
    decimalNumber, letterNumber, otherNumber, connectorPunctuation, dashPunctuation,
    openPunctuation, closePunctuation, initialPunctuation, finalPunctuation, otherPunctuation,
    mathSymbol, currencySymbol, modifierSymbol, otherSymbol, Unicode.RecentTable.graphic]

/-- Letters that count as joining the character before them and yet stand alone. -/
def soundMarks : List CodePointRange := [⟨0xFF9E, 0xFF9F⟩]

/-- Graphic characters that are not shown: those that join the character before them
although they take up room, and the letters that fill a place without a sign. -/
def hidden (char : Char) : Bool :=
  CodePointRange.anyHolds Unicode.PropertyTable.defaultIgnorableCodePoint.ranges char ∨
    CodePointRange.anyHolds Unicode.PropertyTable.otherGraphemeExtend.ranges char ∧
      ¬ CodePointRange.anyHolds soundMarks char

/-- Whether the character is shown as it is. -/
def isShown (char : Char) : Bool :=
  if char.toNat < 0x7F then 0x20 ≤ char.toNat
  else someHolds graphic char ∧ ¬ hidden char

/-- A character by its code. -/
def byCode (char : Char) : List Char :=
  "\\u\x7b".toList ++ Nat.toDigits 16 char.toNat ++ ['}']

/-- One character between quotation marks. -/
def encodeChar (char : Char) : List Char :=
  match char with
  | '\x00' => ['\\', '0']
  | '\t' => ['\\', 't']
  | '\r' => ['\\', 'r']
  | '\n' => ['\\', 'n']
  | '\\' => ['\\', '\\']
  | '"' => ['\\', '"']
  | char => if isShown char then [char] else byCode char

/-- The text between quotation marks. -/
def encode (text : String) : String :=
  String.ofList ('"' :: text.toList.flatMap encodeChar ++ ['"'])

end Quoted
end LineExtraction

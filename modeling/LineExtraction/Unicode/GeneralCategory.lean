import LineExtraction.Unicode.GeneralCategoryTable
import LineExtraction.Unicode.WordTable

/-!
# General categories

The general categories with their unions, by name.  A category holds scalar values
only, so that of the surrogates has no set.
-/

namespace LineExtraction
namespace Unicode

/-- The union of range lists. -/
def unionOf (tables : List (List CodePointRange)) : CodePointSet :=
  tables.foldl (fun set ranges => set.union ⟨ranges⟩) .empty

namespace GeneralCategory

open GeneralCategoryTable

/-- The letters of either or of title case. -/
def casedLetter : CodePointSet := unionOf [uppercaseLetter, lowercaseLetter, titlecaseLetter]

/-- The letters. -/
def letter : CodePointSet := ⟨WordTable.letter⟩

/-- The combining marks. -/
def mark : CodePointSet := unionOf [nonspacingMark, spacingMark, enclosingMark]

/-- The numbers of every kind. -/
def number : CodePointSet := unionOf [decimalNumber, letterNumber, otherNumber]

/-- The punctuation characters. -/
def punctuation : CodePointSet :=
  unionOf [connectorPunctuation, dashPunctuation, openPunctuation, closePunctuation,
    initialPunctuation, finalPunctuation, otherPunctuation]

/-- The symbols. -/
def symbol : CodePointSet := unionOf [mathSymbol, currencySymbol, modifierSymbol, otherSymbol]

/-- The separators. -/
def separator : CodePointSet := unionOf [spaceSeparator, lineSeparator, paragraphSeparator]

/-- The characters that the character database assigns. -/
def assigned : CodePointSet :=
  ((letter.union mark).union number).union
    (((punctuation.union symbol).union separator).union
      (unionOf [control, GeneralCategoryTable.format, privateUse]))

/-- Control and format characters, private use, and what is not assigned. -/
def other : CodePointSet :=
  (assigned.complement).union (unionOf [control, GeneralCategoryTable.format, privateUse])

/-- The category of a name in matching form. -/
def named? (name : String) : Option CodePointSet :=
  match name with
  | "any" => some CodePointSet.empty.complement
  | "assigned" => some assigned
  | "ascii" => some (.ofRange 0 0x7F)
  | "lu" | "uppercaseletter" => some ⟨uppercaseLetter⟩
  | "ll" | "lowercaseletter" => some ⟨lowercaseLetter⟩
  | "lt" | "titlecaseletter" => some ⟨titlecaseLetter⟩
  | "lc" | "casedletter" => some casedLetter
  | "lm" | "modifierletter" => some ⟨modifierLetter⟩
  | "lo" | "otherletter" => some ⟨otherLetter⟩
  | "l" | "letter" => some letter
  | "mn" | "nonspacingmark" => some ⟨nonspacingMark⟩
  | "mc" | "spacingmark" => some ⟨spacingMark⟩
  | "me" | "enclosingmark" => some ⟨enclosingMark⟩
  | "m" | "mark" | "combiningmark" => some mark
  | "nd" | "decimalnumber" | "digit" => some ⟨decimalNumber⟩
  | "nl" | "letternumber" => some ⟨letterNumber⟩
  | "no" | "othernumber" => some ⟨otherNumber⟩
  | "n" | "number" => some number
  | "pc" | "connectorpunctuation" => some ⟨connectorPunctuation⟩
  | "pd" | "dashpunctuation" => some ⟨dashPunctuation⟩
  | "ps" | "openpunctuation" => some ⟨openPunctuation⟩
  | "pe" | "closepunctuation" => some ⟨closePunctuation⟩
  | "pi" | "initialpunctuation" => some ⟨initialPunctuation⟩
  | "pf" | "finalpunctuation" => some ⟨finalPunctuation⟩
  | "po" | "otherpunctuation" => some ⟨otherPunctuation⟩
  | "p" | "punctuation" | "punct" => some punctuation
  | "sm" | "mathsymbol" => some ⟨mathSymbol⟩
  | "sc" | "currencysymbol" => some ⟨currencySymbol⟩
  | "sk" | "modifiersymbol" => some ⟨modifierSymbol⟩
  | "so" | "othersymbol" => some ⟨otherSymbol⟩
  | "s" | "symbol" => some symbol
  | "zs" | "spaceseparator" => some ⟨spaceSeparator⟩
  | "zl" | "lineseparator" => some ⟨lineSeparator⟩
  | "zp" | "paragraphseparator" => some ⟨paragraphSeparator⟩
  | "z" | "separator" => some separator
  | "cc" | "control" | "cntrl" => some ⟨control⟩
  | "cf" | "format" => some ⟨GeneralCategoryTable.format⟩
  | "co" | "privateuse" => some ⟨privateUse⟩
  | "cn" | "unassigned" => some assigned.complement
  | "c" | "other" => some other
  | _ => none

end GeneralCategory

end Unicode
end LineExtraction

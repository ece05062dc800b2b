import LineExtraction.Unicode.GeneralCategoryTable
import LineExtraction.Unicode.PropertyTable

/-!
# Letters and digits of names

Names of groups are made of letters and digits of any script, those of the latest
database version included.  The classes that a pattern can ask for stop at version 16.0
of the database; names, lower case and text that is shown to a reader also know the
characters that version 17.0 adds, which are listed here.
-/

namespace LineExtraction
namespace Unicode

/-! ## Characters of the latest version -/

namespace RecentTable

/-- The alphabetic characters. -/
def alphabetic : List CodePointRange :=
  [⟨0x88F, 0x88F⟩, ⟨0xC5C, 0xC5C⟩, ⟨0xCDC, 0xCDC⟩, ⟨0xA7CE, 0xA7CF⟩, ⟨0xA7D2, 0xA7D2⟩,
    ⟨0xA7D4, 0xA7D4⟩, ⟨0xA7F1, 0xA7F1⟩, ⟨0x10940, 0x10959⟩, ⟨0x10EC5, 0x10EC7⟩,
    ⟨0x10EFA, 0x10EFB⟩, ⟨0x11B60, 0x11B67⟩, ⟨0x11DB0, 0x11DDB⟩, ⟨0x16EA0, 0x16EB8⟩,
    ⟨0x16EBB, 0x16ED3⟩, ⟨0x16FF2, 0x16FF6⟩, ⟨0x187F8, 0x187FF⟩, ⟨0x18D09, 0x18D1E⟩,
    ⟨0x18D80, 0x18DF2⟩, ⟨0x1E6C0, 0x1E6DE⟩, ⟨0x1E6E0, 0x1E6F5⟩, ⟨0x1E6FE, 0x1E6FF⟩,
    ⟨0x2B73A, 0x2B73F⟩, ⟨0x2CEA2, 0x2CEAD⟩, ⟨0x323B0, 0x33479⟩]

/-- The numbers of any kind. -/
def numeric : List CodePointRange :=
  [⟨0x11DE0, 0x11DE9⟩, ⟨0x16FF4, 0x16FF6⟩]

/-- The characters that show something and do not extend the one before them. -/
def graphic : List CodePointRange :=
  [⟨0x88F, 0x88F⟩, ⟨0xC5C, 0xC5C⟩, ⟨0xCDC, 0xCDC⟩, ⟨0x20C1, 0x20C1⟩, ⟨0x2B96, 0x2B96⟩,
    ⟨0xA7CE, 0xA7CF⟩, ⟨0xA7D2, 0xA7D2⟩, ⟨0xA7D4, 0xA7D4⟩, ⟨0xA7F1, 0xA7F1⟩, ⟨0xFBC3, 0xFBD2⟩,
    ⟨0xFD90, 0xFD91⟩, ⟨0xFDC8, 0xFDCE⟩, ⟨0x10940, 0x10959⟩, ⟨0x10EC5, 0x10EC7⟩,
    ⟨0x10ED0, 0x10ED8⟩, ⟨0x11B61, 0x11B61⟩, ⟨0x11B65, 0x11B65⟩, ⟨0x11B67, 0x11B67⟩,
    ⟨0x11DB0, 0x11DDB⟩, ⟨0x11DE0, 0x11DE9⟩, ⟨0x16EA0, 0x16EB8⟩, ⟨0x16EBB, 0x16ED3⟩,
    ⟨0x16FF2, 0x16FF6⟩, ⟨0x187F8, 0x187FF⟩, ⟨0x18D09, 0x18D1E⟩, ⟨0x18D80, 0x18DF2⟩,
    ⟨0x1CCFA, 0x1CCFC⟩, ⟨0x1CEBA, 0x1CED0⟩, ⟨0x1CEE0, 0x1CEF0⟩, ⟨0x1E6C0, 0x1E6DE⟩,
    ⟨0x1E6E0, 0x1E6E2⟩, ⟨0x1E6E4, 0x1E6E5⟩, ⟨0x1E6E7, 0x1E6ED⟩, ⟨0x1E6F0, 0x1E6F4⟩,
    ⟨0x1E6FE, 0x1E6FF⟩, ⟨0x1F6D8, 0x1F6D8⟩, ⟨0x1F777, 0x1F77A⟩, ⟨0x1F8D0, 0x1F8D8⟩,
    ⟨0x1FA54, 0x1FA57⟩, ⟨0x1FA8A, 0x1FA8A⟩, ⟨0x1FA8E, 0x1FA8E⟩, ⟨0x1FAC8, 0x1FAC8⟩,
    ⟨0x1FACD, 0x1FACD⟩, ⟨0x1FAEA, 0x1FAEA⟩, ⟨0x1FAEF, 0x1FAEF⟩, ⟨0x1FBFA, 0x1FBFA⟩,
    ⟨0x2B73A, 0x2B73F⟩, ⟨0x2CEA2, 0x2CEAD⟩, ⟨0x323B0, 0x33479⟩]

/-- The characters of a letter case. -/
def cased : List CodePointRange :=
  [⟨0xA7CE, 0xA7CF⟩, ⟨0xA7D2, 0xA7D2⟩, ⟨0xA7D4, 0xA7D4⟩, ⟨0xA7F1, 0xA7F1⟩, ⟨0x16EA0, 0x16EB8⟩,
    ⟨0x16EBB, 0x16ED3⟩]

/-- The characters that the search for a cased neighbour passes over. -/
def caseIgnorable : List CodePointRange :=
  [⟨0x1ACF, 0x1ADD⟩, ⟨0x1AE0, 0x1AEB⟩, ⟨0xA7F1, 0xA7F1⟩, ⟨0x10EC5, 0x10EC5⟩,
    ⟨0x10EFA, 0x10EFB⟩, ⟨0x11B60, 0x11B60⟩, ⟨0x11B62, 0x11B64⟩, ⟨0x11B66, 0x11B66⟩,
    ⟨0x11DD9, 0x11DD9⟩, ⟨0x16FF2, 0x16FF3⟩, ⟨0x1E6E3, 0x1E6E3⟩, ⟨0x1E6E6, 0x1E6E6⟩,
    ⟨0x1E6EE, 0x1E6EF⟩, ⟨0x1E6F5, 0x1E6F5⟩, ⟨0x1E6FF, 0x1E6FF⟩]

end RecentTable

/-! ## Letters and digits -/

/-- Whether some range of a list holds the character. -/
def CodePointRange.anyHolds (ranges : List CodePointRange) (char : Char) : Bool :=
  ranges.any (·.contains char.toNat)

/-- Whether the character is alphabetic. -/
def isAlphabetic (char : Char) : Bool :=
  CodePointRange.anyHolds PropertyTable.alphabetic.ranges char ∨
    CodePointRange.anyHolds RecentTable.alphabetic char

/-- The numbers of any kind. -/
def numberTables : List (List CodePointRange) :=
  [GeneralCategoryTable.decimalNumber, GeneralCategoryTable.letterNumber,
    GeneralCategoryTable.otherNumber, RecentTable.numeric]

/-- Whether the character is a number of any kind. -/
def isNumeric (char : Char) : Bool :=
  numberTables.any (CodePointRange.anyHolds · char)

end Unicode
end LineExtraction

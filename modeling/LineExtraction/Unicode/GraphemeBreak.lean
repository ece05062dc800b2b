import LineExtraction.Unicode.GeneralCategory
import LineExtraction.Unicode.PropertyTable

/-!
# Boundaries of user-perceived characters

The properties that decide where text may be cut between two characters as a
reader sees them, and the classes of the property Grapheme_Cluster_Break.
-/

namespace LineExtraction
namespace Unicode
namespace GraphemeBreak

open GeneralCategoryTable

/-! ## Binary properties -/

/-- The characters that extend the one before them: marks that take no space, and some
others. -/
def graphemeExtend : CodePointSet :=
  unionOf [nonspacingMark, enclosingMark, PropertyTable.otherGraphemeExtend.ranges]

/-- The characters that can be what others extend. -/
def graphemeBase : CodePointSet :=
  GeneralCategory.assigned.difference <|
    (unionOf [control, GeneralCategoryTable.format, privateUse, lineSeparator,
      paragraphSeparator]).union graphemeExtend

/-- The signs that remove an inherent vowel. -/
def graphemeLink : CodePointSet :=
  .ofRanges
    [⟨0x94D, 0x94D⟩, ⟨0x9CD, 0x9CD⟩, ⟨0xA4D, 0xA4D⟩, ⟨0xACD, 0xACD⟩, ⟨0xB4D, 0xB4D⟩,
      ⟨0xBCD, 0xBCD⟩, ⟨0xC4D, 0xC4D⟩, ⟨0xCCD, 0xCCD⟩, ⟨0xD3B, 0xD3C⟩, ⟨0xD4D, 0xD4D⟩,
      ⟨0xDCA, 0xDCA⟩, ⟨0xE3A, 0xE3A⟩, ⟨0xEBA, 0xEBA⟩, ⟨0xF84, 0xF84⟩, ⟨0x1039, 0x103A⟩,
      ⟨0x1714, 0x1715⟩, ⟨0x1734, 0x1734⟩, ⟨0x17D2, 0x17D2⟩, ⟨0x1A60, 0x1A60⟩, ⟨0x1B44, 0x1B44⟩,
      ⟨0x1BAA, 0x1BAB⟩, ⟨0x1BF2, 0x1BF3⟩, ⟨0x2D7F, 0x2D7F⟩, ⟨0xA806, 0xA806⟩, ⟨0xA82C, 0xA82C⟩,
      ⟨0xA8C4, 0xA8C4⟩, ⟨0xA953, 0xA953⟩, ⟨0xA9C0, 0xA9C0⟩, ⟨0xAAF6, 0xAAF6⟩, ⟨0xABED, 0xABED⟩,
      ⟨0x10A3F, 0x10A3F⟩, ⟨0x11046, 0x11046⟩, ⟨0x11070, 0x11070⟩, ⟨0x1107F, 0x1107F⟩,
      ⟨0x110B9, 0x110B9⟩, ⟨0x11133, 0x11134⟩, ⟨0x111C0, 0x111C0⟩, ⟨0x11235, 0x11235⟩,
      ⟨0x112EA, 0x112EA⟩, ⟨0x1134D, 0x1134D⟩, ⟨0x113CE, 0x113D0⟩, ⟨0x11442, 0x11442⟩,
      ⟨0x114C2, 0x114C2⟩, ⟨0x115BF, 0x115BF⟩, ⟨0x1163F, 0x1163F⟩, ⟨0x116B6, 0x116B6⟩, ⟨0x1172B, 0x1172B⟩,
      ⟨0x11839, 0x11839⟩, ⟨0x1193D, 0x1193E⟩, ⟨0x119E0, 0x119E0⟩, ⟨0x11A34, 0x11A34⟩,
      ⟨0x11A47, 0x11A47⟩, ⟨0x11A99, 0x11A99⟩, ⟨0x11C3F, 0x11C3F⟩, ⟨0x11D44, 0x11D45⟩,
      ⟨0x11D97, 0x11D97⟩, ⟨0x11F41, 0x11F42⟩, ⟨0x1612F, 0x1612F⟩]

/-- The signs that stand before digits, or other characters, and join them.  The
abbreviation mark stands before letters and is none of them. -/
def numberSigns : CodePointSet :=
  (CodePointSet.mk PropertyTable.prependedConcatenationMark.ranges).difference
    (.ofRange 0x70F 0x70F)

/-- The digits outside the decimal ones that are written as such. -/
def loneDigits : CodePointSet := .ofRange 0x19DA 0x19DA

/-- The binary property of a name in matching form. -/
def property? (name : String) : Option CodePointSet :=
  match name with
  | "graphemeextend" | "grext" => some graphemeExtend
  | "graphemebase" | "grbase" => some graphemeBase
  | "graphemelink" | "grlink" => some graphemeLink
  | _ => none

/-! ## Classes of the break property -/

/-- The modifiers of the skin colour of a pictograph. -/
def skinColours : CodePointRange := ⟨0x1F3FB, 0x1F3FF⟩

/-- The zero width joiner. -/
def joiner : CodePointSet := .ofRange 0x200D 0x200D

/-- Characters that extend the one before them. -/
def extend : CodePointSet :=
  graphemeExtend.union ⟨[skinColours]⟩

/-- Format characters that stand before what they format, and other letters that
join what follows. -/
def prepended : CodePointSet :=
  (CodePointSet.mk PropertyTable.prependedConcatenationMark.ranges).union <| .ofRanges
    [⟨0xD4E, 0xD4E⟩, ⟨0x111C2, 0x111C3⟩, ⟨0x113D1, 0x113D1⟩, ⟨0x1193F, 0x1193F⟩,
      ⟨0x11941, 0x11941⟩, ⟨0x11A3A, 0x11A3A⟩, ⟨0x11A84, 0x11A89⟩, ⟨0x11D46, 0x11D46⟩, ⟨0x11F02, 0x11F02⟩]

/-- Unassigned code points that are reserved for control characters. -/
def reservedControls : List CodePointRange :=
  [⟨0x2065, 0x2065⟩, ⟨0xFFF0, 0xFFF8⟩, ⟨0xE0000, 0xE0000⟩, ⟨0xE0002, 0xE001F⟩,
    ⟨0xE0080, 0xE00FF⟩, ⟨0xE01F0, 0xE0FFF⟩]

/-- Control characters other than the two that end lines. -/
def controls : CodePointSet :=
  (unionOf [control, GeneralCategoryTable.format, lineSeparator, paragraphSeparator,
      reservedControls]).difference <|
    ((prepended.union extend).union joiner).union (.ofRanges [⟨0x0A, 0x0A⟩, ⟨0x0D, 0x0D⟩])

/-- Spacing marks that leave room for a boundary before them. -/
def looseSpacingMarks : List CodePointRange :=
  [⟨0x102B, 0x102C⟩, ⟨0x1038, 0x1038⟩, ⟨0x1062, 0x1064⟩, ⟨0x1067, 0x106D⟩, ⟨0x1083, 0x1083⟩,
    ⟨0x1087, 0x108C⟩, ⟨0x108F, 0x108F⟩, ⟨0x109A, 0x109C⟩, ⟨0x1A61, 0x1A61⟩, ⟨0x1A63, 0x1A64⟩,
    ⟨0xAA7B, 0xAA7B⟩, ⟨0xAA7D, 0xAA7D⟩, ⟨0x11720, 0x11721⟩]

/-- Spacing marks that stay with the character before them. -/
def spacingMarks : CodePointSet :=
  ((CodePointSet.mk spacingMark).difference (graphemeExtend.union ⟨looseSpacingMarks⟩)).union <|
    .ofRanges [⟨0xE33, 0xE33⟩, ⟨0xEB3, 0xEB3⟩]

/-- The first of the Hangul syllables. -/
def firstSyllable : Nat := 0xAC00

/-- How many Hangul syllables have the same lead and vowel. -/
def syllablesPerVowel : Nat := 28

/-- The Hangul syllables without a final consonant, by number. -/
def openSyllables : List Nat :=
  (List.range 399).map fun index => firstSyllable + index * syllablesPerVowel

/-- The Hangul syllables of a lead and a vowel. -/
def leadVowel : CodePointSet :=
  ⟨openSyllables.map fun syllable => ⟨syllable, syllable⟩⟩

/-- The Hangul syllables of a lead, a vowel and a final consonant. -/
def leadVowelTail : CodePointSet :=
  ⟨openSyllables.map fun syllable => ⟨syllable + 1, syllable + syllablesPerVowel - 1⟩⟩

/-- The Hangul vowels, and the vowel signs of another script that joins them alike. -/
def vowels : CodePointSet :=
  .ofRanges
    [⟨0x1160, 0x11A7⟩, ⟨0xD7B0, 0xD7C6⟩, ⟨0x16D63, 0x16D63⟩, ⟨0x16D67, 0x16D6A⟩]

/-- The class of a name in matching form. -/
def named? (name : String) : Option CodePointSet :=
  match name with
  | "cn" | "control" => some controls
  | "cr" => some (.ofRange 0x0D 0x0D)
  | "ex" | "extend" => some extend
  | "l" => some (.ofRanges [⟨0x1100, 0x115F⟩, ⟨0xA960, 0xA97C⟩])
  | "lf" => some (.ofRange 0x0A 0x0A)
  | "lv" => some leadVowel
  | "lvt" => some leadVowelTail
  | "pp" | "prepend" => some prepended
  | "ri" | "regionalindicator" => some ⟨PropertyTable.regionalIndicator.ranges⟩
  | "sm" | "spacingmark" => some spacingMarks
  | "t" => some (.ofRanges [⟨0x11A8, 0x11FF⟩, ⟨0xD7CB, 0xD7FB⟩])
  | "v" => some vowels
  | "zwj" => some joiner
  | _ => none

end GraphemeBreak
end Unicode
end LineExtraction

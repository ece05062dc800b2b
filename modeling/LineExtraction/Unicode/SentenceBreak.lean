import LineExtraction.Unicode.GraphemeBreak

/-!
# Boundaries of sentences

The classes of the property Sentence_Break, which decides where text may be cut
between two sentences.
-/

namespace LineExtraction
namespace Unicode
namespace SentenceBreak

open GeneralCategoryTable

/-- The marks that extend the character before them. -/
def extend : CodePointSet :=
  (GraphemeBreak.graphemeExtend.union ⟨spacingMark⟩).union GraphemeBreak.joiner

/-- The small letters, except those of a script that writes sentences without
capitals. -/
def lower : CodePointSet :=
  (CodePointSet.mk PropertyTable.lowercase.ranges).difference <|
    GraphemeBreak.graphemeExtend.union <|
      .ofRanges [⟨0x10D0, 0x10FA⟩, ⟨0x10FD, 0x10FF⟩]

/-- The capital letters, except those of a script that writes sentences without
capitals. -/
def upper : CodePointSet :=
  (unionOf [PropertyTable.uppercase.ranges, titlecaseLetter]).difference <|
    .ofRanges [⟨0x1C90, 0x1CBA⟩, ⟨0x1CBD, 0x1CBF⟩]

/-- The letters without case. -/
def otherLetter : CodePointSet :=
  ((CodePointSet.mk PropertyTable.alphabetic.ranges).difference <|
    (lower.union upper).union extend).union (.ofRange 0x5F3 0x5F3)

/-- The format characters, except those that join characters or digits, and the tags. -/
def formats : CodePointSet :=
  (CodePointSet.mk GeneralCategoryTable.format).difference <|
    GraphemeBreak.numberSigns.union <|
      .ofRanges [⟨0x200C, 0x200D⟩, ⟨0xE0020, 0xE007F⟩]

/-- The digits with the signs that join them, and the signs used with Arabic digits. -/
def numeric : CodePointSet :=
  ((CodePointSet.mk decimalNumber).union (.ofRange 0x66B 0x66C)).union <|
    GraphemeBreak.numberSigns.union GraphemeBreak.loneDigits

/-- The full stops, which may also end an abbreviation. -/
def ambiguousTerminal : CodePointSet :=
  .ofRanges
    [⟨0x2E, 0x2E⟩, ⟨0x2024, 0x2024⟩, ⟨0xFE52, 0xFE52⟩, ⟨0xFF0E, 0xFF0E⟩]

/-- The marks that end a sentence for certain. -/
def terminal : CodePointSet :=
  (CodePointSet.mk PropertyTable.sentenceTerminal.ranges).difference ambiguousTerminal

/-- Quotation marks and ornaments that are no brackets by their category. -/
def otherClosings : List CodePointRange :=
  [⟨0x22, 0x22⟩, ⟨0x27, 0x27⟩, ⟨0x275B, 0x2760⟩, ⟨0x2E00, 0x2E01⟩, ⟨0x2E06, 0x2E08⟩,
    ⟨0x2E0B, 0x2E0B⟩, ⟨0x1F676, 0x1F678⟩]

/-- Brackets and quotation marks. -/
def close : CodePointSet :=
  unionOf [openPunctuation, closePunctuation, initialPunctuation, finalPunctuation,
    otherClosings]

/-- The separators of lines and paragraphs. -/
def separator : CodePointSet :=
  .ofRanges [⟨0x85, 0x85⟩, ⟨0x2028, 0x2029⟩]

/-- The other white space. -/
def space : CodePointSet :=
  (CodePointSet.mk PropertyTable.whiteSpace.ranges).difference <|
    separator.union (.ofRanges [⟨0x0A, 0x0A⟩, ⟨0x0D, 0x0D⟩])

/-- The class of a name in matching form. -/
def named? (name : String) : Option CodePointSet :=
  match name with
  | "aterm" | "at" => some ambiguousTerminal
  | "cr" => some (.ofRange 0x0D 0x0D)
  | "close" | "cl" => some close
  | "extend" | "ex" => some extend
  | "format" | "fo" => some formats
  | "lf" => some (.ofRange 0x0A 0x0A)
  | "lower" | "lo" => some lower
  | "numeric" | "nu" => some numeric
  | "oletter" | "le" => some otherLetter
  | "scontinue" | "sc" =>
    some <| .ofRanges
      [⟨0x2C, 0x2D⟩, ⟨0x3A, 0x3B⟩, ⟨0x37E, 0x37E⟩, ⟨0x55D, 0x55D⟩, ⟨0x60C, 0x60D⟩,
        ⟨0x7F8, 0x7F8⟩, ⟨0x1802, 0x1802⟩, ⟨0x1808, 0x1808⟩, ⟨0x2013, 0x2014⟩,
        ⟨0x3001, 0x3001⟩, ⟨0xFE10, 0xFE11⟩, ⟨0xFE13, 0xFE14⟩, ⟨0xFE31, 0xFE32⟩,
        ⟨0xFE50, 0xFE51⟩, ⟨0xFE54, 0xFE55⟩, ⟨0xFE58, 0xFE58⟩, ⟨0xFE63, 0xFE63⟩,
        ⟨0xFF0C, 0xFF0D⟩, ⟨0xFF1A, 0xFF1B⟩, ⟨0xFF64, 0xFF64⟩]
  | "sterm" | "st" => some terminal
  | "sep" | "se" => some separator
  | "sp" => some space
  | "upper" | "up" => some upper
  | _ => none

end SentenceBreak
end Unicode
end LineExtraction

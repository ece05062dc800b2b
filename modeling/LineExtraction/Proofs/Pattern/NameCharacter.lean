import LineExtraction.Backtracking.Reader.Reference
import LineExtraction.Linear.Reader.GroupHeader

/-!
# ASCII characters in names of groups

The ASCII characters that the tables take for letters or numbers are the letters and digits
of ASCII.  A range that starts behind ASCII holds none of its characters, so only the first
ranges of the tables count.
-/

namespace LineExtraction
namespace Unicode

/-- The ranges that start within ASCII. -/
def asciiRanges (ranges : List CodePointRange) : List CodePointRange :=
  ranges.filter fun range => range.first.blt 128

theorem anyHolds_asciiRanges
    {char : Char}
    (ascii : char.toNat < 128)
    (ranges : List CodePointRange) :
    CodePointRange.anyHolds (asciiRanges ranges) char = CodePointRange.anyHolds ranges char := by
  rw [CodePointRange.anyHolds, asciiRanges, List.any_filter, CodePointRange.anyHolds]
  congr 1
  funext range
  by_cases within : range.contains char.toNat
  · have low : range.first < 128 := Nat.lt_of_le_of_lt (of_decide_eq_true within).1 ascii
    rw [within, Bool.and_true, Nat.blt_eq.mpr low]
  · rw [Bool.not_eq_true] at within
    rw [within, Bool.and_false]

/-- The tables of letters and numbers, as far as they are about ASCII. -/
theorem asciiRanges_tables :
    asciiRanges PropertyTable.alphabetic.ranges = [⟨65, 90⟩, ⟨97, 122⟩] ∧
      asciiRanges RecentTable.alphabetic = [] ∧
      numberTables.map asciiRanges = [[⟨48, 57⟩], [], [], []] := by
  decide +kernel

theorem isAlphabetic_eq_isAlpha
    {char : Char}
    (ascii : char.toNat < 128) :
    isAlphabetic char = char.isAlpha := by
  obtain ⟨alphabetic, recent, -⟩ := asciiRanges_tables
  rw [isAlphabetic, ← anyHolds_asciiRanges ascii PropertyTable.alphabetic.ranges, alphabetic,
    ← anyHolds_asciiRanges ascii RecentTable.alphabetic, recent]
  change _ = (decide (char.val ≥ 'A'.val ∧ char.val ≤ 'Z'.val) ||
    decide (char.val ≥ 'a'.val) && decide (char.val ≤ 'z'.val))
  simp [CodePointRange.anyHolds, CodePointRange.contains, UInt32.le_iff_toNat_le]

theorem isNumeric_eq_isDigit
    {char : Char}
    (ascii : char.toNat < 128) :
    isNumeric char = char.isDigit := by
  have tables : isNumeric char = (numberTables.map asciiRanges).any (CodePointRange.anyHolds · char) := by
    rw [List.any_map, isNumeric]
    simp only [Function.comp_def, anyHolds_asciiRanges ascii]
  rw [tables, asciiRanges_tables.2.2]
  change _ = (decide (char.val ≥ '0'.val) && decide (char.val ≤ '9'.val))
  simp [CodePointRange.anyHolds, CodePointRange.contains, UInt32.le_iff_toNat_le]

end Unicode

theorem Linear.isNameChar_iff_of_ascii
    {char : Char}
    (ascii : char.toNat < 128)
    (first : Bool) :
    isNameChar first char ↔
      char = '_' ∨ char.isAlpha ∨
        (first = false ∧ (char = '.' ∨ char = '[' ∨ char = ']' ∨ char.isDigit)) := by
  rw [isNameChar, decide_eq_true_iff, Unicode.isAlphabetic_eq_isAlpha ascii,
    Unicode.isNumeric_eq_isDigit ascii, Bool.not_eq_true]

theorem Backtracking.isNameChar_iff_of_ascii
    {char : Char}
    (ascii : char.toNat < 128) :
    isNameChar char ↔ char.isAlpha ∨ char.isDigit ∨ char = '_' := by
  rw [isNameChar, decide_eq_true_iff, Unicode.isAlphabetic_eq_isAlpha ascii,
    Unicode.isNumeric_eq_isDigit ascii]

end LineExtraction

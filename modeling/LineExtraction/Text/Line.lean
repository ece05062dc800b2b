/-!
# Lines of text

The text that patterns are matched against, and places in it.  A position counts
characters; what is reported to the outside counts the bytes of the UTF-8 encoding,
and `byteOffset` goes from one to the other.
-/

namespace LineExtraction

/-- A text to match, as its characters in order. -/
structure Line where
  chars : Array Char
deriving DecidableEq, Repr

namespace Line

/-- The line of a text. -/
def ofString (text : String) : Line := ⟨text.toList.toArray⟩

/-- How many characters the line has. -/
def length (line : Line) : Nat := line.chars.size

/-- The character behind a position. -/
def after? (line : Line) (position : Nat) : Option Char := line.chars[position]?

/-- The character before a position. -/
def before? (line : Line) (position : Nat) : Option Char :=
  match position with
  | 0 => none
  | previous + 1 => line.chars[previous]?

/-- The characters from one position to another. -/
def slice (line : Line) (start stop : Nat) : List Char :=
  (line.chars.toList.drop start).take (stop - start)

/-- The length of characters in UTF-8. -/
def byteLength (chars : List Char) : Nat :=
  (chars.map Char.utf8Size).foldr (· + ·) 0

/-- The byte offset of a position. -/
def byteOffset (line : Line) (position : Nat) : Nat :=
  byteLength (line.chars.toList.take position)

/-- Whether the characters of `text` stand behind a position. -/
def startsWithAt (line : Line) (position : Nat) : List Char → Bool
  | [] => true
  | char :: rest => line.after? position = some char ∧ line.startsWithAt (position + 1) rest

end Line
end LineExtraction

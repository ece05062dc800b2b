import LineExtraction.Backtracking.Reader.Reference

/-!
# Reading escapes

An escape is a backslash and what follows it.  The readers here start right behind
the backslash.  Inside a class an escape is never an assertion or a reference by
name.
-/

namespace LineExtraction
namespace Backtracking

/-- What an escape stands for, and whether it refers to a group by number. -/
structure Escape where
  meaning : Ast
  numbered : Bool
deriving Repr

namespace Escape

/-- An escape that is no numbered reference. -/
def of (meaning : Ast) : Escape := ⟨meaning, false⟩

end Escape

/-! ## Characters by code -/

/-- The character with the code that the digits write. -/
def charOfHex (digits : List Char) : Except SyntaxError Char :=
  let code := hexValue digits
  if code.isValidChar then .ok (Char.ofNat code) else .error .codePointInvalid

/-- The most digits that a code in braces has. -/
def maximalHexDigits : Nat := 8

/-- Read a character by its code in braces, from behind the opening one. -/
def readBracedHex (text : List Char) : Except SyntaxError (Read Char text) :=
  let digits := readWhile isHexDigit text
  have shorter := digits.shorter
  match _ : digits.rest with
  | '}' :: rest =>
    if digits.value.isEmpty ∨ maximalHexDigits < digits.value.length then .error .hexInvalid
    else do
      return ⟨← charOfHex digits.value, rest, by simp_all only [List.length_cons]; omega⟩
  | _ => .error .hexInvalid

/-- Read a character by its code: `count` digits, or digits in braces. -/
def readHex (count : Nat) (text : List Char) : Except SyntaxError (Read Char text) :=
  let digits := text.take count
  if digits.length = count ∧ digits.all isHexDigit then do
    return ⟨← charOfHex digits, text.drop count, by simp only [List.length_drop]; omega⟩
  else
    match text with
    | '{' :: behind => do
      return (← readBracedHex behind).weaken (Read.took_one behind)
    | _ => .error .hexInvalid

/-! ## Classes -/

/-- Read the name of a Unicode class from behind its letter, as it is written. -/
def readUnicodeName (text : List Char) : Except SyntaxError (Read (List Char) text) :=
  match text with
  | [] => .error .unicodeNameUnclosed
  | '{' :: behind =>
    let name := readWhile (· ≠ '}') behind
    have shorter := name.shorter
    match _ : name.rest with
    | [] => .error .unicodeNameUnclosed
    | close :: rest =>
      .ok ⟨'{' :: name.value ++ [close], rest, by simp_all only [List.length_cons]; omega⟩
  | char :: rest => .ok ⟨[char], rest, Read.took_one rest⟩

/-- The hexadecimal digits as a class. -/
def hexClass (negated : Bool) : Ast :=
  .charClass ((if negated then "[^0-9A-Fa-f]" else "[0-9A-Fa-f]").toList) false

/-! ## Characters by letter -/

/-- The letters that mean something outside of classes only, where they are read before
all others. -/
def outsideLetters : List Char := ['k', 'A', 'z', 'B', 'K', 'G']

/-- The character that an escaped character stands for.  Letters that mean nothing
anywhere are reserved. -/
def plainEscape (letter : Char) : Except SyntaxError Char :=
  match letter with
  | 'a' => .ok '\x07'
  | 'b' => .ok '\x08'
  | 'f' => .ok '\x0C'
  | 'n' => .ok '\n'
  | 'r' => .ok '\r'
  | 't' => .ok '\t'
  | 'v' => .ok '\x0B'
  | 'e' => .ok '\x1B'
  | letter =>
    if letter.isAlpha ∧ letter ∉ outsideLetters then .error (.escapeInvalid letter)
    else .ok letter

/-- The assertion of a letter outside classes. -/
def assertionOf? (letter : Char) : Option Ast :=
  match letter with
  | 'A' => some (.assertion .startText)
  | 'z' => some (.assertion .endText)
  | 'b' => some (.assertion (.wordBoundary false))
  | 'B' => some (.assertion (.notWordBoundary false))
  | '<' => some (.assertion (.wordStart false))
  | '>' => some (.assertion (.wordEnd false))
  | 'K' => some .keepOut
  | 'G' => some .continueMatch
  | _ => none

/-- Whether the letter with the text behind it asks for a kind of word boundary
that the dialect does not have. -/
def isBracedBoundary (letter : Char) (text : List Char) : Bool :=
  (letter = 'b' ∨ letter = 'B') ∧ text.head? = some '{'

/-- Read an escape that means the same inside and outside of classes, from behind
its letter. -/
def readCommonEscape (fold : Bool) (letter : Char) (text : List Char) :
    Except SyntaxError (Read Escape text) := do
  match letter with
  | 'h' => return ⟨.of (hexClass false), text, Read.took_none text⟩
  | 'H' => return ⟨.of (hexClass true), text, Read.took_none text⟩
  | 'x' => return (← readHex 2 text).map fun char => .of (.literal char fold)
  | 'u' => return (← readHex 4 text).map fun char => .of (.literal char fold)
  | 'U' => return (← readHex 8 text).map fun char => .of (.literal char fold)
  | letter =>
    if letter ∈ ['d', 'D', 's', 'S', 'w', 'W'] then
      return ⟨.of (.charClass ['\\', letter] fold), text, Read.took_none text⟩
    else if (letter = 'p' ∨ letter = 'P') ∧ ¬ text.isEmpty then
      return (← readUnicodeName text).map fun name =>
        .of (.charClass ('\\' :: letter :: name) fold)
    else
      return ⟨.of (.literal (← plainEscape letter) false), text, Read.took_none text⟩

/-- Read a reference by name from behind the `k`. -/
def readKeyReference (scope : Scope) (text : List Char) :
    Except SyntaxError (Read Nat text) :=
  match text with
  | '\'' :: rest => do
    return (← readNamedReference scope true '\'' rest).weaken (Read.took_one rest)
  | '<' :: rest => do
    return (← readNamedReference scope true '>' rest).weaken (Read.took_one rest)
  | _ => .error .groupNameInvalid

/-- Read an escape from behind its backslash. -/
def readEscape (scope : Scope) (fold inClass : Bool) (text : List Char) :
    Except SyntaxError (Read Escape text) :=
  match text with
  | [] => .error .backslashTrailing
  | letter :: rest =>
    if letter.isDigit then do
      return (← readNumberedReference scope (letter :: rest)).map fun group =>
        ⟨.backreference group, true⟩
    else if ¬ inClass ∧ letter = 'k' then do
      let group ← readKeyReference scope rest
      return (group.map fun group => .of (.backreference group)).weaken (Read.took_one rest)
    else if ¬ inClass ∧ isBracedBoundary letter rest then .error (.escapeInvalid letter)
    else
      match if inClass then none else assertionOf? letter with
      | some assertion => .ok ⟨.of assertion, rest, Read.took_one rest⟩
      | none => do
        return (← readCommonEscape fold letter rest).weaken (Read.took_one rest)

end Backtracking
end LineExtraction

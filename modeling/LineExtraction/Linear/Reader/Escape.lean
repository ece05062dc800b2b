import LineExtraction.Linear.Ast
import LineExtraction.Linear.Blank
import LineExtraction.Linear.SyntaxError
import LineExtraction.Pattern.Quote
import LineExtraction.Text.Numeral

/-!
# Reading escapes

An escape is a backslash and what follows it: a character by its code, a class, an
assertion, or a character that would otherwise have a meaning.  The readers here
start right behind the backslash or behind the letter that they are named for.
-/

namespace LineExtraction
namespace Linear

/-- What one escape, or one plain character, stands for. -/
inductive Primitive where
  | literal (literal : Literal)
  | assertion (kind : Assertion)
  | perl (negated : Bool) (kind : PerlClass)
  | unicode (negated : Bool) (query : ClassQuery)
deriving DecidableEq, Repr

/-! ## Characters by code -/

/-- The character with the code that the digits write. -/
def charOfHex (digits : List Char) : Except SyntaxError Char :=
  let code := hexValue digits
  if code.isValidChar then .ok (Char.ofNat code) else .error .escapeHexInvalid

/-- Read exactly `count` hexadecimal digits. -/
def readHexDigits (verbose : Bool) :
    (count : Nat) → (text : List Char) → Except SyntaxError (Read (List Char) text)
  | 0, text => .ok ⟨[], text, Read.took_none text⟩
  | _ + 1, [] => .error .escapeUnexpectedEnd
  | count + 1, char :: rest =>
    if isHexDigit char then do
      let digits ← readHexDigits verbose count (skipBlank verbose rest)
      return ⟨char :: digits.value, digits.rest, by
        have := digits.shorter
        have := length_skipBlank_le verbose rest
        simp only [List.length_cons]
        omega⟩
    else .error .escapeHexInvalidDigit

/-- Read a code in braces, from behind the opening one. -/
def readBracedHex (verbose : Bool) (text : List Char) : Except SyntaxError (Read Literal text) :=
  have skipped := length_skipBlank_le verbose text
  let digits := readRun verbose isHexDigit (skipBlank verbose text)
  have shorter := digits.shorter
  match _ : digits.rest with
  | [] => .error .escapeUnexpectedEnd
  | '}' :: rest => do
    if digits.value.isEmpty then throw .escapeHexEmpty
    let char ← charOfHex digits.value
    return ⟨⟨char, false⟩, skipBlank verbose rest, by
      have := length_skipBlank_le verbose rest
      simp_all only [List.length_cons]
      omega⟩
  | _ => .error .escapeHexInvalidDigit

/-- Read a code behind its letter: in braces, or as `count` digits. -/
def readHex (verbose : Bool) (count : Nat) (text : List Char) :
    Except SyntaxError (Read Literal text) :=
  have skipped := length_skipBlank_le verbose text
  match _ : skipBlank verbose text with
  | [] => .error .escapeUnexpectedEnd
  | '{' :: body => do
    let literal ← readBracedHex verbose body
    return literal.weaken (by simp_all only [List.length_cons]; omega)
  | first :: body => do
    let digits ← readHexDigits verbose count (first :: body)
    let char ← charOfHex digits.value
    return ⟨⟨char, count = 2⟩, digits.rest, by
      have := digits.shorter
      simp_all only [List.length_cons]
      omega⟩

/-! ## Classes by name -/

/-- Cut a text at the first place where `separator` stands. -/
def splitAt? (separator : List Char) (text : List Char) : Option (List Char × List Char) :=
  match text with
  | [] => none
  | char :: rest =>
    if separator.isPrefixOf (char :: rest) then
      some ([], (char :: rest).drop separator.length)
    else (splitAt? separator rest).map fun parts => (char :: parts.1, parts.2)

/-- The class that a name in braces asks for.  A value is set off by `!=`, which
negates, or by `:` or `=`. -/
def classOfName (negated : Bool) (name : List Char) : Primitive :=
  match splitAt? ['!', '='] name with
  | some (property, value) => .unicode (!negated) (.valued property value)
  | none =>
    match (splitAt? [':'] name).or (splitAt? ['='] name) with
    | some (property, value) => .unicode negated (.valued property value)
    | none => .unicode negated (.named name)

/-- Read the name of a Unicode class behind its letter. -/
def readUnicodeClass (verbose negated : Bool) (text : List Char) :
    Except SyntaxError (Read Primitive text) :=
  match skipped : skipBlank verbose text with
  | [] => .error .escapeUnexpectedEnd
  | '{' :: body =>
    let name := readRun verbose (· ≠ '}') (skipBlank verbose body)
    match left : name.rest with
    | [] => .error .escapeUnexpectedEnd
    | _ :: rest =>
      .ok ⟨classOfName negated name.value, rest,
        Nat.le_of_lt (Nat.lt_trans
          (Nat.lt_of_lt_of_le (name.length_lt left) (length_skipBlank_le verbose body))
          (length_lt_of_skipBlank skipped))⟩
  | '\\' :: _ => .error .unicodeClassInvalid
  | letter :: rest =>
    .ok ⟨.unicode negated (.named [letter]), rest,
      Nat.le_of_lt (length_lt_of_skipBlank skipped)⟩

/-! ## Word boundaries -/

/-- Whether `char` may stand in the name of a special word boundary. -/
def isBoundaryChar (char : Char) : Bool :=
  char.isAlpha ∨ char = '-'

/-- The special word boundary of a name. -/
def boundaryNamed? (name : List Char) : Option Assertion :=
  match String.ofList name with
  | "start" => some .wordStart
  | "end" => some .wordEnd
  | "start-half" => some .wordStartHalf
  | "end-half" => some .wordEndHalf
  | _ => none

/-- Read what may follow `\b`: the name of a special boundary in braces.  Braces
that start with anything else are left for a counted repetition. -/
def readWordBoundary (verbose : Bool) (text : List Char) :
    Except SyntaxError (Read Assertion text) :=
  match text with
  | '{' :: body =>
    have bodySkipped := length_skipBlank_le verbose body
    let name := readRun verbose isBoundaryChar (skipBlank verbose body)
    have shorter := name.shorter
    if (skipBlank verbose body).isEmpty then .error .wordBoundaryUnexpectedEnd
    else if name.value.isEmpty then .ok ⟨.wordBoundary, '{' :: body, Read.left_one body⟩
    else
      match _ : name.rest with
      | '}' :: rest =>
        match boundaryNamed? name.value with
        | some kind =>
          .ok ⟨kind, rest, by
            simp_all only [List.length_cons]
            omega⟩
        | none => .error .wordBoundaryUnrecognized
      | _ => .error .wordBoundaryUnclosed
  | text => .ok ⟨.wordBoundary, text, Read.took_none text⟩

/-! ## All escapes -/

/-- Whether a backslash may stand before `char` without need: every ASCII character
may, letters, digits and angle brackets apart. -/
def isEscapable (char : Char) : Bool :=
  Pattern.isLinearMeta char ∨
    (char.toNat < 0x80 ∧ ¬ char.isAlphanum ∧ char ≠ '<' ∧ char ≠ '>')

/-- The control character that a letter stands for behind a backslash. -/
def controlNamed? (letter : Char) : Option Char :=
  match letter with
  | 'a' => some '\x07'
  | 'f' => some '\x0C'
  | 't' => some '\t'
  | 'n' => some '\n'
  | 'r' => some '\r'
  | 'v' => some '\x0B'
  | _ => none

/-- What an escape of a single character stands for. -/
def escapeOf? (letter : Char) : Option Primitive :=
  match letter with
  | 'd' => some (.perl false .digit)
  | 'D' => some (.perl true .digit)
  | 's' => some (.perl false .space)
  | 'S' => some (.perl true .space)
  | 'w' => some (.perl false .word)
  | 'W' => some (.perl true .word)
  | 'A' => some (.assertion .startText)
  | 'z' => some (.assertion .endText)
  | 'B' => some (.assertion .notWordBoundary)
  | '<' => some (.assertion .wordStart)
  | '>' => some (.assertion .wordEnd)
  | letter =>
    if isEscapable letter then some (.literal ⟨letter, false⟩)
    else (controlNamed? letter).map fun control => .literal ⟨control, false⟩

/-- Read an escape from behind its backslash. -/
def readEscape (verbose : Bool) (text : List Char) : Except SyntaxError (Read Primitive text) :=
  match text with
  | [] => .error .escapeUnexpectedEnd
  | letter :: rest =>
    have behind := Nat.le_succ rest.length
    if letter.isDigit then .error .unsupportedBackreference
    else if letter = 'x' then do
      return ((← readHex verbose 2 rest).map .literal).weaken behind
    else if letter = 'u' then do
      return ((← readHex verbose 4 rest).map .literal).weaken behind
    else if letter = 'U' then do
      return ((← readHex verbose 8 rest).map .literal).weaken behind
    else if letter = 'p' ∨ letter = 'P' then do
      return (← readUnicodeClass verbose (letter = 'P') rest).weaken behind
    else if letter = 'b' then do
      return ((← readWordBoundary verbose rest).map .assertion).weaken behind
    else
      match escapeOf? letter with
      | some value => .ok ⟨value, rest, behind⟩
      | none => .error .escapeUnrecognized

end Linear
end LineExtraction

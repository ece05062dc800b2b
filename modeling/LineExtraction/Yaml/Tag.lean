import LineExtraction.Decoding.DataError
import LineExtraction.Text.Numeral
import LineExtraction.Yaml.Character

/-!
# Tags

A tag says what a node is.  Some tags of the standard name types of scalars; a tag that
starts with an exclamation mark names a variant, and is the name itself if that is all
there is to it.
-/

namespace LineExtraction
namespace Yaml

open Decoding (Fault)

/-- What a tag says. -/
inductive Tag where
  | null
  | bool
  | integer
  | float
  | variant (name : String)
  | other
deriving DecidableEq, Repr

namespace Tag

/-- What the tags of the standard start with. -/
def standardStart : String := "tag:yaml.org,2002:"

/-- The tag that a text writes in full. -/
def ofText (text : String) : Tag :=
  if text = standardStart ++ "null" then null
  else if text = standardStart ++ "bool" then bool
  else if text = standardStart ++ "int" then integer
  else if text = standardStart ++ "float" then float
  else
    match text.toList with
    | ['!'] => variant "!"
    | '!' :: name => variant (String.ofList name)
    | _ => other

/-- The tag that bytes write in full. -/
def ofBytes (bytes : List UInt8) : Tag :=
  match String.fromUTF8? ⟨bytes.toArray⟩ with
  | some text => ofText text
  | none => other

end Tag

/-! ## Reading -/

/-- Whether `char` may stand in a tag. -/
def isTagChar (char : Char) : Bool :=
  isNameChar char || [';', '/', '?', ':', '@', '&', '=', '+', '$', '.', '!', '~', '*', '\'',
    '(', ')'].contains char

/-- Whether `char` may stand between the angle brackets of a tag in full. -/
def isFullTagChar (char : Char) : Bool :=
  isTagChar char || char = ',' || char = '[' || char = ']'

/-- How many more bytes belong to the character that a byte starts. -/
def trailingBytes? (byte : Nat) : Option Nat :=
  if byte < 0x80 then some 0
  else if 0xC0 ≤ byte ∧ byte < 0xE0 then some 1
  else if 0xE0 ≤ byte ∧ byte < 0xF0 then some 2
  else if 0xF0 ≤ byte ∧ byte < 0xF8 then some 3
  else none

/-- How many more bytes are expected behind a byte, where `expected` were in front. -/
def expectedBehind? (expected byte : Nat) : Option Nat :=
  if expected = 0 then trailingBytes? byte
  else if 0x80 ≤ byte ∧ byte < 0xC0 then some (expected - 1)
  else none

/-- Read the bytes of a tag.  A percent sign and two digits write a byte, and `expected`
more of those have to come. -/
def readTagBytes (isMember : Char → Bool) (expected : Nat) :
    (text : List Char) → Except Fault (Read (List UInt8) text)
  | [] => if expected = 0 then .ok ⟨[], [], Read.left_nothing⟩ else .error .illFormed
  | '%' :: first :: second :: rest =>
    if isHexDigit first && isHexDigit second then
      let byte := hexValue [first, second]
      match expectedBehind? expected byte with
      | none => .error .illFormed
      | some expected => do
        let more ← readTagBytes isMember expected rest
        return (more.map (byte.toUInt8 :: ·)).weaken (Read.took_three rest)
    else .error .illFormed
  | char :: rest =>
    if expected ≠ 0 ∨ char = '%' then .error .illFormed
    else if isMember char then do
      let more ← readTagBytes isMember 0 rest
      return (more.map (char.toUInt8 :: ·)).weaken (Read.took_one rest)
    else .ok ⟨[], char :: rest, Read.left_one rest⟩

/-- Read a tag in full from behind its opening bracket. -/
def readFullTag (text : List Char) : Except Fault (Read (Option Tag) text) := do
  let bytes ← readTagBytes isFullTagChar 0 text
  if bytes.value.isEmpty then throw .illFormed
  match rest : bytes.rest with
  | '>' :: behind =>
    return ⟨some (.ofBytes bytes.value), behind, by
      have := bytes.shorter
      simp only [rest, List.length_cons] at this
      omega⟩
  | _ => throw .illFormed

/-- Read the rest of a tag with a handle.  Only the empty handle is known: it stands for
what the tags of the standard start with. -/
def readHandledTag (handle : List Char) (text : List Char) :
    Except Fault (Read (Option Tag) text) := do
  let bytes ← readTagBytes isTagChar 0 text
  if bytes.value.isEmpty then throw .illFormed
  return bytes.map fun bytes =>
    if handle.isEmpty then some (.ofBytes (Tag.standardStart.toUTF8.toList ++ bytes)) else none

/-- Read a tag from behind its exclamation mark, whatever follows it.  A tag with an
unknown handle is none. -/
def readTagBody (text : List Char) : Except Fault (Read (Option Tag) text) :=
  match text with
  | '<' :: rest => do return (← readFullTag rest).weaken (Read.took_one rest)
  | text =>
    let handle := text.takeWhile isNameChar
    match behind : text.dropWhile isNameChar with
    | '!' :: rest => do
      return (← readHandledTag handle rest).weaken (by
        have bound : (text.dropWhile isNameChar).length ≤ text.length :=
          (List.dropWhile_sublist _).length_le
        rw [behind, List.length_cons] at bound
        omega)
    | _ => do
      let bytes ← readTagBytes isTagChar 0 text
      return bytes.map fun bytes => some (.ofBytes ('!'.toUInt8 :: bytes))

/-- Read a tag from behind its exclamation mark. -/
def readTag (inFlow : Bool) (text : List Char) : Except Fault (Read (Option Tag) text) := do
  let tag ← readTagBody text
  if spacedOrDone tag.rest || (inFlow && tag.rest.head? = some ',') then return tag
  throw .illFormed

/-- Whether `char` may stand behind the name of an anchor. -/
def endsAnchor (char : Char) : Bool :=
  isSpacing char || ['?', ':', ',', ']', '\x7d', '%', '@', '\x60'].contains char

/-- Read the name of an anchor. -/
def readAnchor (text : List Char) : Except Fault (Read String text) :=
  let name := text.takeWhile isNameChar
  let rest := text.dropWhile isNameChar
  if name.isEmpty ∨ ! rest.head?.all endsAnchor then .error .illFormed
  else .ok ⟨String.ofList name, rest, (List.dropWhile_sublist _).length_le⟩

end Yaml
end LineExtraction

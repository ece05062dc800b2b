import LineExtraction.Decoding.Format
import LineExtraction.Json.Numeral
import LineExtraction.Text.Numeral

/-!
# JSON documents

A document is read into a tree as far as it is well-formed.  Where it stops being
so the tree has a fault, which matters only to those who get there.  What a string
stands for is worked out while it is read, but a fault in an escape matters only when
the string is wanted.
-/

namespace LineExtraction
namespace Json

open Decoding (Fault Stream)

/-- A value as far as it is well-formed.  A value that breaks off names two faults: the
one that is found by those who want the value and the one found by those who only pass
over it.  A value that is misplaced stands where the name of an entry should, which is a
fault unless the name of a variant is wanted: then it is a value of the wrong type. -/
inductive Node where
  | null
  | bool (value : Bool)
  | number (numeral : Numeral)
  | text (content : Except Fault String)
  | list (items : Stream Node)
  | map (entries : Stream (Node × Node))
  | misplaced (value : Node)
  | broken (wanted passed : Fault)

/-- What is read of a text, and the text behind it unless reading stopped for good. -/
structure Partial (α : Type) (text : List Char) where
  value : α
  rest : Option { rest : List Char // rest.length ≤ text.length }

namespace Partial

/-- Reading that stopped for good. -/
def stopped {α : Type} {text : List Char} (value : α) : Partial α text := ⟨value, none⟩

/-- Read the same off a text that is at least as long. -/
def weaken {α : Type} {text longer : List Char} (part : Partial α text)
    (bound : text.length ≤ longer.length) : Partial α longer :=
  ⟨part.value, part.rest.map fun rest => ⟨rest.1, Nat.le_trans rest.2 bound⟩⟩

/-- Change what was read. -/
def map {α β : Type} {text : List Char} (change : α → β) (part : Partial α text) :
    Partial β text :=
  ⟨change part.value, part.rest⟩

end Partial

/-! ## Blanks and words -/

/-- Whether `char` may stand between tokens. -/
def isBlank (char : Char) : Bool :=
  char = ' ' ∨ char = '\n' ∨ char = '\t' ∨ char = '\r'

/-- Pass over blanks. -/
def skipBlanks (text : List Char) : List Char := text.dropWhile isBlank

theorem length_skipBlanks_le (text : List Char) : (skipBlanks text).length ≤ text.length :=
  (List.dropWhile_sublist _).length_le

/-- Read the rest of a word. -/
def readWord : (word : List Char) → (text : List Char) → Except Fault (Read Unit text)
  | [], text => .ok ⟨(), text, Read.took_none text⟩
  | _ :: _, [] => .error .endsEarly
  | wanted :: word, char :: rest =>
    if char = wanted then do return (← readWord word rest).weaken (Read.took_one rest)
    else .error .illFormed

/-- A node for what was read, or for the fault that was met. -/
def nodeOf {α : Type} {text : List Char} (toNode : α → Node) :
    Except Fault (Read α text) → Partial Node text
  | .error fault => .stopped (.broken fault fault)
  | .ok read => ⟨toNode read.value, some ⟨read.rest, read.shorter⟩⟩

/-- The node of a numeral.  That the text ends within a numeral matters only where its
value is wanted; elsewhere the numeral is just faulty. -/
def numberNode {text : List Char} : Except Fault (Read Numeral text) → Partial Node text
  | .error fault => .stopped (.broken fault .illFormed)
  | .ok read => ⟨.number read.value, some ⟨read.rest, read.shorter⟩⟩

/-! ## Strings -/

/-- Whether a code unit is the first half of a pair. -/
def isLeading (unit : Nat) : Bool := 0xD800 ≤ unit ∧ unit ≤ 0xDBFF

/-- Whether a code unit is the second half of a pair. -/
def isTrailing (unit : Nat) : Bool := 0xDC00 ≤ unit ∧ unit ≤ 0xDFFF

/-- The character of a pair. -/
def charOfPair (leading trailing : Nat) : Char :=
  Char.ofNat (0x10000 + (leading - 0xD800) * 0x400 + (trailing - 0xDC00))

/-- How many bytes a text has in UTF-8. -/
def byteLength (text : List Char) : Nat := (text.map Char.utf8Size).foldr (· + ·) 0

/-- The code unit that four digits at the front of a text write. -/
def codeUnit (text : List Char) : Except Fault Nat :=
  let digits := text.take 4
  if byteLength digits < 4 then .error .endsEarly
  else if digits.length = 4 ∧ digits.all isHexDigit then .ok (hexValue digits)
  else .error .illFormed

/-- The character that a letter behind a backslash stands for. -/
def charOfEscape? (letter : Char) : Option Char :=
  match letter with
  | '"' => some '"'
  | '\\' => some '\\'
  | '/' => some '/'
  | 'b' => some '\x08'
  | 'f' => some '\x0C'
  | 'n' => some '\n'
  | 'r' => some '\r'
  | 't' => some '\t'
  | _ => none

/-- Whether `char` may not stand in a string. -/
def isControl (char : Char) : Bool := char.toNat < 0x20

/-- The text up to behind the closing quote of a string, escapes being only looked at. -/
def stringEnd : (text : List Char) → Except Fault (Read Unit text)
  | [] => .error .endsEarly
  | '"' :: rest => .ok ⟨(), rest, Read.took_one rest⟩
  | '\\' :: [] => .error .endsEarly
  | '\\' :: 'u' :: a :: b :: c :: d :: rest => do
    let _ ← codeUnit [a, b, c, d]
    return (← stringEnd rest).weaken (by simp only [List.length_cons]; omega)
  | '\\' :: letter :: rest =>
    if letter = 'u' then .error (codeUnitFault rest)
    else if (charOfEscape? letter).isSome then do
      return (← stringEnd rest).weaken (Read.took_two rest)
    else .error .illFormed
  | char :: rest =>
    if isControl char then .error .illFormed
    else do return (← stringEnd rest).weaken (Read.took_one rest)
where
  /-- The fault of a code unit with fewer than four characters. -/
  codeUnitFault (text : List Char) : Fault :=
    match codeUnit text with
    | .error fault => fault
    | .ok _ => .illFormed

/-- The second half of a pair, in the text behind the first. -/
def trailingUnit (text : List Char) : Except Fault Nat :=
  match text with
  | [] => .error .endsEarly
  | '\\' :: [] => .error .endsEarly
  | '\\' :: 'u' :: rest => do
    let unit ← codeUnit rest
    if isTrailing unit then return unit else throw .illFormed
  | _ => .error .illFormed

/-- What a string stands for, up to its closing quote. -/
def stringContent (text : List Char) : Except Fault (List Char) :=
  match text with
  | [] => .error .endsEarly
  | '"' :: _ => .ok []
  | '\\' :: [] => .error .endsEarly
  | '\\' :: 'u' :: digits => do
    let unit ← codeUnit digits
    if isLeading unit then
      let trailing ← trailingUnit (digits.drop 4)
      return charOfPair unit trailing :: (← stringContent (digits.drop 10))
    else if isTrailing unit then throw .illFormed
    else return Char.ofNat unit :: (← stringContent (digits.drop 4))
  | '\\' :: letter :: rest =>
    match charOfEscape? letter with
    | some char => do return char :: (← stringContent rest)
    | none => .error .illFormed
  | char :: rest =>
    if isControl char then .error .illFormed
    else do return char :: (← stringContent rest)
termination_by text.length
decreasing_by
  all_goals simp only [List.length_cons, List.length_drop]
  all_goals omega

/-- Read a string from behind its opening quote. -/
def readString (text : List Char) : Partial Node text :=
  let content := (stringContent text).map String.ofList
  match stringEnd text with
  | .ok read => ⟨.text content, some ⟨read.rest, read.shorter⟩⟩
  | .error passed =>
    match content with
    | .error wanted => .stopped (.broken wanted passed)
    | .ok _ => .stopped (.broken passed passed)

/-! ## Values -/

/-- An entry whose key is no name, so that nothing is read behind it. -/
def keyAlone {text : List Char} (key : Node) : Partial (Stream (Node × Node)) text :=
  .stopped (.next (key, .broken .illFormed .illFormed) .done)

mutual

/-- Read a value. -/
def readValue (text : List Char) : Partial Node text :=
  match text with
  | [] => .stopped (.broken .endsEarly .endsEarly)
  | char :: rest =>
    if char = '[' then
      ((readItems rest).map .list).weaken (Read.took_one rest)
    else if char = '\x7b' then
      ((readEntries rest).map .map).weaken (Read.took_one rest)
    else if char = '"' then (readString rest).weaken (Read.took_one rest)
    else if char = 'n' then (nodeOf (fun _ => .null) (readWord "ull".toList rest)).weaken
      (Read.took_one rest)
    else if char = 't' then (nodeOf (fun _ => .bool true) (readWord "rue".toList rest)).weaken
      (Read.took_one rest)
    else if char = 'f' then (nodeOf (fun _ => .bool false) (readWord "alse".toList rest)).weaken
      (Read.took_one rest)
    else if char = '-' ∨ char.isDigit then numberNode (readNumeral (char :: rest))
    else .stopped (.broken .illFormed .illFormed)
termination_by (text.length, 0)

/-- Read the items of a list from behind its opening bracket. -/
def readItems (text : List Char) : Partial (Stream Node) text :=
  have skipped := length_skipBlanks_le text
  match _ : skipBlanks text with
  | [] => .stopped (.broken .endsEarly)
  | char :: rest =>
    if char = ']' then
      ⟨.done, some ⟨rest, by simp_all only [List.length_cons]; omega⟩⟩
    else
      (readItem (char :: rest)).weaken (by simp_all)
termination_by (text.length, 2)
decreasing_by
  all_goals simp_all only [Prod.lex_def]
  all_goals grind

/-- Read an item and the ones behind it. -/
def readItem (text : List Char) : Partial (Stream Node) text :=
  let head := readValue text
  match head.rest with
  | none => .stopped (.next head.value .done)
  | some ⟨behind, shorter⟩ => ((readMoreItems behind).map (.next head.value)).weaken shorter
termination_by (text.length, 1)
decreasing_by
  all_goals simp only [Prod.lex_def]
  all_goals grind

/-- Read what stands behind an item. -/
def readMoreItems (text : List Char) : Partial (Stream Node) text :=
  have skipped := length_skipBlanks_le text
  match _ : skipBlanks text with
  | [] => .stopped (.broken .endsEarly)
  | char :: rest =>
    if char = ']' then
      ⟨.done, some ⟨rest, by simp_all only [List.length_cons]; omega⟩⟩
    else if char = ',' then
      (readItem (skipBlanks rest)).weaken (by
        have := length_skipBlanks_le rest
        simp_all only [List.length_cons]
        omega)
    else .stopped (.broken .illFormed)
termination_by (text.length, 0)
decreasing_by
  have := length_skipBlanks_le rest
  simp_all only [Prod.lex_def, List.length_cons]
  omega

/-- Read the entries of a map from behind its opening brace. -/
def readEntries (text : List Char) : Partial (Stream (Node × Node)) text :=
  have skipped := length_skipBlanks_le text
  match _ : skipBlanks text with
  | [] => .stopped (.broken .endsEarly)
  | char :: rest =>
    if char = '\x7d' then
      ⟨.done, some ⟨rest, by simp_all only [List.length_cons]; omega⟩⟩
    else
      (readEntry (char :: rest)).weaken (by simp_all)
termination_by (text.length, 2)
decreasing_by
  all_goals simp_all only [Prod.lex_def]
  all_goals grind

/-- Read an entry and the ones behind it. -/
def readEntry (text : List Char) : Partial (Stream (Node × Node)) text :=
  match text with
  | [] => keyAlone (.broken .endsEarly .endsEarly)
  | char :: rest =>
    if char = '"' then
      let key := readString rest
      match key.rest with
      | none => .stopped (.next (key.value, .broken .endsEarly .endsEarly) .done)
      | some ⟨behind, shorter⟩ =>
        have skipped := length_skipBlanks_le behind
        match colonBehind : skipBlanks behind with
        | [] => .stopped (.next (key.value, .broken .endsEarly .endsEarly) .done)
        | colon :: value =>
          if colon = ':' then
            have := length_skipBlanks_le value
            have : value.length < behind.length := by
              simp only [colonBehind, List.length_cons] at skipped
              omega
            let content := readValue (skipBlanks value)
            match content.rest with
            | none => .stopped (.next (key.value, content.value) .done)
            | some ⟨more, fewer⟩ =>
              ((readMoreEntries more).map (.next (key.value, content.value))).weaken (by
                simp only [List.length_cons]
                omega)
          else .stopped (.next (key.value, .broken .illFormed .illFormed) .done)
    else keyAlone (.misplaced (readValue (char :: rest)).value)
termination_by (text.length, 1)
decreasing_by
  all_goals simp_all only [Prod.lex_def, List.length_cons]
  · omega
  · omega
  · simp

/-- Read what stands behind an entry. -/
def readMoreEntries (text : List Char) : Partial (Stream (Node × Node)) text :=
  have skipped := length_skipBlanks_le text
  match _ : skipBlanks text with
  | [] => .stopped (.broken .endsEarly)
  | char :: rest =>
    if char = '\x7d' then
      ⟨.done, some ⟨rest, by simp_all only [List.length_cons]; omega⟩⟩
    else if char = ',' then
      (readEntry (skipBlanks rest)).weaken (by
        have := length_skipBlanks_le rest
        simp_all only [List.length_cons]
        omega)
    else .stopped (.broken .illFormed)
termination_by (text.length, 0)
decreasing_by
  have := length_skipBlanks_le rest
  simp_all only [Prod.lex_def, List.length_cons]
  omega

end

/-- A document: its value, and whether anything but blanks stands behind that. -/
structure Document where
  root : Node
  trailing : Bool

/-- Read a document. -/
def readDocument (text : List Char) : Document :=
  let root := readValue (skipBlanks text)
  ⟨root.value, root.rest.any fun rest => ¬ (skipBlanks rest.1).isEmpty⟩

end Json
end LineExtraction

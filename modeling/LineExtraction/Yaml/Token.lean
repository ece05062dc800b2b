import LineExtraction.Decoding.Format
import LineExtraction.Yaml.Character
import LineExtraction.Yaml.Scalar
import LineExtraction.Yaml.Scalar.Block
import LineExtraction.Yaml.Scalar.Flow
import LineExtraction.Yaml.Tag

/-!
# Tokens of YAML

The tokens of a document.  The structure that indentation gives to blocks is spelled out
by tokens of its own.

A document is cut into tokens from left to right.  Whether a node is the key of a map
shows only at the colon behind it, so tokens wait as long as they may still turn out to
belong to a key.  A fault comes after the tokens that no longer had to wait when it was
met.
-/

namespace LineExtraction
namespace Yaml

open Decoding (Fault Stream)

/-- A token.  A tag with an unknown handle is none. -/
inductive Token where
  | documentStart
  | documentEnd
  | blockListStart
  | blockMapStart
  | blockEnd
  | blockEntry
  | flowListStart
  | flowListEnd
  | flowMapStart
  | flowMapEnd
  | flowEntry
  | key
  | value
  | reference (name : String)
  | anchor (name : String)
  | tag (tag : Option Tag)
  | scalar (scalar : Scalar)
deriving DecidableEq, Repr

/-! ## Positions

A position counts characters, lines and the characters of the current line. -/

/-- A position in a document. -/
structure Position where
  index : Nat
  line : Nat
  column : Nat
deriving DecidableEq, Repr

namespace Position

/-- The position in front of a document. -/
def start : Position := ⟨0, 0, 0⟩

/-- The position behind a character that breaks no line. -/
def right (position : Position) : Position :=
  { position with index := position.index + 1, column := position.column + 1 }

/-- The position behind a line break of some characters. -/
def nextLine (position : Position) (characters : Nat) : Position :=
  ⟨position.index + characters, position.line + 1, 0⟩

/-- The position behind a text. -/
def behind (position : Position) : (text : List Char) → Position
  | [] => position
  | '\r' :: '\n' :: rest => (position.nextLine 2).behind rest
  | char :: rest =>
    if isBreak char then (position.nextLine 1).behind rest else position.right.behind rest

end Position

/-! ## Scanning -/

/-- The start of a node that may turn out to be a key: the number of its first token,
where it stands, and whether it must be a key. -/
structure PossibleKey where
  token : Nat
  position : Position
  isRequired : Bool
deriving Repr

/-- The state of scanning.

* `indents` are the columns of the blocks around the position, innermost first;
* `possibleKey` may become a key of the innermost collection, `outerKeys` of the ones
  around it, of which all but the outermost are flow collections;
* `keyAllowed` tells whether a key may start here;
* `waiting` are tokens that have to wait, behind the first `released` ones. -/
structure Scanner where
  position : Position
  indents : List Nat
  possibleKey : Option PossibleKey
  outerKeys : List (Option PossibleKey)
  keyAllowed : Bool
  waiting : List Token
  released : Nat
deriving Repr

namespace Scanner

/-- The state in front of a document. -/
def start : Scanner := ⟨.start, [], none, [], true, [], 0⟩

/-- Whether the position is inside a flow collection. -/
def inFlow (scanner : Scanner) : Bool := ! scanner.outerKeys.isEmpty

/-- The least column of what belongs to the innermost block. -/
def blockIndent (scanner : Scanner) : Nat :=
  match scanner.indents with
  | [] => 0
  | column :: _ => column + 1

/-- Go over a text. -/
def pass (scanner : Scanner) (text : List Char) : Scanner :=
  { scanner with position := scanner.position.behind text }

/-- Put a token behind the waiting ones. -/
def add (scanner : Scanner) (token : Token) : Scanner :=
  { scanner with waiting := scanner.waiting ++ [token] }

/-- Put a token in front of the one with a number. -/
def insertAt (scanner : Scanner) (number : Nat) (token : Token) : Scanner :=
  let index := number - scanner.released
  { scanner with waiting := scanner.waiting.take index ++ token :: scanner.waiting.drop index }

/-- Allow or forbid a key to start here. -/
def allowKey (scanner : Scanner) (allowed : Bool) : Scanner :=
  { scanner with keyAllowed := allowed }

/-! ## Possible keys -/

/-- How many characters a key may have. -/
def keyLimit : Nat := 1024

/-- Whether a possible key is too far behind the position. -/
def isStale (scanner : Scanner) (key : PossibleKey) : Bool :=
  key.position.line < scanner.position.line ∨
    key.position.index + keyLimit < scanner.position.index

/-- Give a possible key up if it is too far behind. -/
def refreshKey (scanner : Scanner) : Option PossibleKey → Except Fault (Option PossibleKey)
  | none => .ok none
  | some key =>
    if scanner.isStale key then
      if key.isRequired then .error .illFormed else .ok none
    else .ok (some key)

/-- Give up all possible keys that are too far behind. -/
def refreshKeys (scanner : Scanner) : Except Fault Scanner := do
  let outerKeys ← scanner.outerKeys.mapM scanner.refreshKey
  let possibleKey ← scanner.refreshKey scanner.possibleKey
  return { scanner with outerKeys := outerKeys, possibleKey := possibleKey }

/-- Give up the possible key of the innermost collection. -/
def dropKey (scanner : Scanner) : Except Fault Scanner :=
  if scanner.possibleKey.any (·.isRequired) then .error .illFormed
  else .ok { scanner with possibleKey := none }

/-- Remember that a key may start here. -/
def saveKey (scanner : Scanner) : Except Fault Scanner :=
  if scanner.keyAllowed then do
    let isRequired := ! scanner.inFlow && scanner.indents.head? = some scanner.position.column
    let number := scanner.released + scanner.waiting.length
    return { ← scanner.dropKey with
      possibleKey := some ⟨number, scanner.position, isRequired⟩ }
  else .ok scanner

/-! ## Blocks -/

/-- Start a block at a column if it is further to the right than the innermost one.  Its
token stands in front of the one with a number. -/
def openBlock (scanner : Scanner) (column number : Nat) (token : Token) : Scanner :=
  if ! scanner.inFlow && scanner.blockIndent ≤ column then
    { scanner.insertAt number token with indents := column :: scanner.indents }
  else scanner

/-- Start a block at the position. -/
def openBlockHere (scanner : Scanner) (token : Token) : Scanner :=
  scanner.openBlock scanner.position.column (scanner.released + scanner.waiting.length) token

/-- End the blocks that satisfy `isOver`. -/
def closeBlocks (scanner : Scanner) (isOver : Nat → Bool) : Scanner :=
  if scanner.inFlow then scanner
  else
    { scanner with
      indents := scanner.indents.dropWhile isOver
      waiting := scanner.waiting ++
        (scanner.indents.takeWhile isOver).map fun _ => Token.blockEnd }

/-! ## Tokens without content -/

/-- Scan a marker of a document. -/
def scanMarker (scanner : Scanner) (token : Token) : Except Fault Scanner := do
  return (← (scanner.closeBlocks fun _ => true).dropKey).allowKey false |>.add token

/-- Scan the start of a flow collection. -/
def scanFlowStart (scanner : Scanner) (token : Token) : Except Fault Scanner := do
  let saved ← scanner.saveKey
  return { saved.add token with
    possibleKey := none
    outerKeys := saved.possibleKey :: saved.outerKeys
    keyAllowed := true }

/-- Scan the end of a flow collection. -/
def scanFlowEnd (scanner : Scanner) (token : Token) : Except Fault Scanner := do
  let dropped := ((← scanner.dropKey).allowKey false).add token
  match dropped.outerKeys with
  | [] => return dropped
  | key :: outerKeys => return { dropped with possibleKey := key, outerKeys := outerKeys }

/-- Scan the comma between entries of a flow collection. -/
def scanFlowEntry (scanner : Scanner) : Except Fault Scanner := do
  return ((← scanner.dropKey).allowKey true).add .flowEntry

/-- Make sure that a block may start here. -/
def blockStart (scanner : Scanner) (token : Token) : Except Fault Scanner :=
  if scanner.inFlow then .ok scanner
  else if scanner.keyAllowed then .ok (scanner.openBlockHere token)
  else .error .illFormed

/-- Scan the indicator of an entry of a list. -/
def scanBlockEntry (scanner : Scanner) : Except Fault Scanner := do
  return ((← (← scanner.blockStart .blockListStart).dropKey).allowKey true).add .blockEntry

/-- Scan the indicator of a key. -/
def scanKey (scanner : Scanner) : Except Fault Scanner := do
  let dropped ← (← scanner.blockStart .blockMapStart).dropKey
  return (dropped.allowKey (! dropped.inFlow)).add .key

/-- Scan the indicator of a value.  It makes a key of what may be one. -/
def scanValue (scanner : Scanner) : Except Fault Scanner := do
  match scanner.possibleKey with
  | some key =>
    let keyed := (scanner.insertAt key.token .key).openBlock key.position.column key.token
      .blockMapStart
    return { keyed with possibleKey := none, keyAllowed := false }.add .value
  | none =>
    let started ← scanner.blockStart .blockMapStart
    return (started.allowKey (! started.inFlow)).add .value

/-! ## Tokens with content -/

/-- Scan a token in front of which a key may start. -/
def scanNode (scanner : Scanner) (token : Token) : Except Fault Scanner := do
  return ((← scanner.saveKey).allowKey false).add token

/-- Scan a plain scalar. -/
def scanPlain (scanner : Scanner) (plain : PlainText) : Except Fault Scanner := do
  let scanned ← scanner.scanNode (.scalar ⟨.plain, String.ofList plain.content⟩)
  return if plain.endsLine then scanned.allowKey true else scanned

/-- Scan a block scalar. -/
def scanBlock (scanner : Scanner) (style : ScalarStyle) (content : List Char) :
    Except Fault Scanner := do
  return ((← scanner.dropKey).allowKey true).add (.scalar ⟨style, String.ofList content⟩)

/-- Whether a plain scalar may start here. -/
def startsPlain (inFlow : Bool) (char : Char) (rest : List Char) : Bool :=
  let isIndicator := ['-', '?', ':', ',', '[', ']', '\x7b', '\x7d', '#', '&', '*', '!', '|', '>',
    '\'', '"', '%', '@', '\x60'].contains char
  ! (isSpacing char || isIndicator) || (char = '-' && ! rest.head?.any isBlank) ||
    (! inFlow && (char = '?' || char = ':') && ! spacedOrDone rest)

/-- The state behind an indicator. -/
def here {text : List Char} (scanner : Scanner) : Read Scanner text :=
  ⟨scanner, text, Read.took_none text⟩

/-- The state behind what was read. -/
def behind {α : Type} {text : List Char} (scanner : Scanner) (read : Read α text) :
    Read Scanner text :=
  read.map fun _ => scanner

/-- Scan the token that starts with `char`.  The position is left in front of it. -/
def scanToken (scanner : Scanner) (char : Char) (rest : List Char) :
    Except Fault (Read Scanner rest) := do
  let inFlow := scanner.inFlow
  let isIndicator := inFlow || spacedOrDone rest
  let atLineStart := scanner.position.column = 0
  if atLineStart ∧ char = '%' then throw .illFormed
  if atLineStart ∧ atDocumentMarker (char :: rest) then
    let token := if char = '-' then Token.documentStart else .documentEnd
    return ⟨← scanner.scanMarker token, rest.drop 2, by simp⟩
  match char with
  | '[' => return (← scanner.scanFlowStart .flowListStart).here
  | '\x7b' => return (← scanner.scanFlowStart .flowMapStart).here
  | ']' => return (← scanner.scanFlowEnd .flowListEnd).here
  | '\x7d' => return (← scanner.scanFlowEnd .flowMapEnd).here
  | ',' => return (← scanner.scanFlowEntry).here
  | '*' =>
    let name ← readAnchor rest
    return (← scanner.scanNode (.reference name.value)).behind name
  | '&' =>
    let name ← readAnchor rest
    return (← scanner.scanNode (.anchor name.value)).behind name
  | '!' =>
    let tag ← readTag inFlow rest
    return (← scanner.scanNode (.tag tag.value)).behind tag
  | '\'' =>
    let content ← readSingleQuoted rest
    let scalar : Scalar := ⟨.singleQuoted, String.ofList content.value⟩
    return (← scanner.scanNode (.scalar scalar)).behind content
  | '"' =>
    let content ← readDoubleQuoted rest
    let scalar : Scalar := ⟨.doubleQuoted, String.ofList content.value⟩
    return (← scanner.scanNode (.scalar scalar)).behind content
  | char =>
    if char = '-' ∧ spacedOrDone rest then return (← scanner.scanBlockEntry).here
    else if char = '?' ∧ isIndicator then return (← scanner.scanKey).here
    else if char = ':' ∧ isIndicator then return (← scanner.scanValue).here
    else if (char = '|' ∨ char = '>') ∧ ! inFlow then
      let content ← readBlock (char = '>') scanner.blockIndent rest
      let style := if char = '>' then ScalarStyle.folded else .literal
      return (← scanner.scanBlock style content.value).behind content
    else if startsPlain inFlow char rest then
      let plain ← readPlain inFlow scanner.blockIndent [char] rest
      return (← scanner.scanPlain plain.value).behind plain
    else throw .illFormed

/-! ## Between tokens -/

/-- Where in the space in front of a token a reader stands: at the start of a line, where
a byte order mark may stand, or behind it, or in a comment. -/
inductive SpaceMode where
  | lineStart
  | inLine
  | comment
deriving DecidableEq, Repr

/-- Read blanks, comments and line breaks in front of a token, and whether a key may
start behind them: it may behind the end of a line outside flow collections.  Where it
may, tabs are no blanks. -/
def readSpace (inFlow keyAllowed : Bool) (mode : SpaceMode) :
    (text : List Char) → Read Bool text
  | [] => ⟨keyAllowed, [], Read.left_nothing⟩
  | char :: rest =>
    if isBreak char then
      (readSpace inFlow (keyAllowed || ! inFlow) .lineStart rest).weaken (Read.took_one rest)
    else if mode = .comment then
      (readSpace inFlow keyAllowed .comment rest).weaken (Read.took_one rest)
    else if char = '#' then
      (readSpace inFlow keyAllowed .comment rest).weaken (Read.took_one rest)
    else if char = ' ' ∨ (char = '\t' ∧ (inFlow ∨ ! keyAllowed)) ∨
        (char = byteOrderMark ∧ mode = .lineStart) then
      (readSpace inFlow keyAllowed .inLine rest).weaken (Read.took_one rest)
    else ⟨keyAllowed, char :: rest, Read.left_one rest⟩

/-- The part of a text in front of a rest of it. -/
def inFrontOf (text rest : List Char) : List Char := text.take (text.length - rest.length)

/-- Pass over what stands in front of a token. -/
def passSpace (scanner : Scanner) (text : List Char) : Read Scanner text :=
  let mode := if scanner.position.column = 0 then SpaceMode.lineStart else .inLine
  let space := readSpace scanner.inFlow scanner.keyAllowed mode text
  space.map fun allowed => (scanner.pass (inFrontOf text space.rest)).allowKey allowed

/-- How many tokens need not wait any longer. -/
def readyCount (scanner : Scanner) : Nat :=
  let keys := (scanner.possibleKey :: scanner.outerKeys).filterMap id
  keys.foldl (fun count key => min count (key.token - scanner.released))
    scanner.waiting.length

/-- Take the tokens that need not wait any longer. -/
def release (scanner : Scanner) : List Token × Scanner :=
  let count := scanner.readyCount
  (scanner.waiting.take count, { scanner with
    waiting := scanner.waiting.drop count
    released := scanner.released + count })

/-- The tokens at the end of a document. -/
def finish (scanner : Scanner) : Except Fault (List Token) := do
  let position := scanner.position
  let below := if position.column = 0 then position else position.nextLine 0
  let closed := { scanner with position := below }.closeBlocks fun _ => true
  return (← (← closed.dropKey).refreshKeys).waiting

/-- Hand tokens out in front of others. -/
def handOut (tokens : List Token) (behind : Stream Token) : Stream Token :=
  tokens.foldr .next behind

/-- The tokens of the rest of a document. -/
def scan (scanner : Scanner) (text : List Char) : Stream Token :=
  let space := scanner.passSpace text
  match space.value.refreshKeys with
  | .error fault => .broken fault
  | .ok refreshed =>
    let closed := refreshed.closeBlocks (refreshed.position.column < ·)
    have := space.shorter
    match _ : space.rest with
    | [] =>
      match closed.finish with
      | .error fault => .broken fault
      | .ok tokens => handOut tokens .done
    | char :: rest =>
      match closed.scanToken char rest with
      | .error fault => .broken fault
      | .ok token =>
        have := token.shorter
        match (token.value.pass (inFrontOf (char :: rest) token.rest)).refreshKeys with
        | .error fault => .broken fault
        | .ok passed =>
          let (ready, next) := passed.release
          handOut ready (next.scan token.rest)
termination_by text.length
decreasing_by
  simp_all only [List.length_cons]
  omega

end Scanner

/-- The tokens of a document.  A byte order mark in front of it takes up a column. -/
def tokens (text : List Char) : Stream Token :=
  if text.all isAllowed then Scanner.start.scan text else .broken .illFormed

end Yaml
end LineExtraction

import LineExtraction.Decoding.Format
import LineExtraction.Yaml.Token

/-!
# Nodes of a document

The tree that the tokens of a document describe, as far as they do.  Where they stop
making sense the tree has a fault, which matters only to those who get there.
-/

namespace LineExtraction
namespace Yaml

open Decoding (Fault Stream)

/-- What may stand in front of a node: a name by which aliases refer to it, and a tag. -/
structure Properties (ρ : Type) where
  anchor : Option ρ
  tag : Option Tag
deriving Repr

/-- A node.  Anchors and aliases are named by values of type `ρ`. -/
inductive Node (ρ : Type) where
  | reference (anchor : ρ)
  | scalar (properties : Properties ρ) (scalar : Scalar)
  | list (properties : Properties ρ) (items : Stream (Node ρ))
  | map (properties : Properties ρ) (entries : Stream (Node ρ × Node ρ))
  | broken (fault : Fault)

/-- No properties. -/
def Properties.none {ρ : Type} : Properties ρ := ⟨.none, .none⟩

/-- The node where none is written. -/
def Node.empty {ρ : Type} : Node ρ := .scalar .none .empty

/-- What is read of tokens, and the tokens behind it unless reading stopped for good.  At
least `least` tokens are taken. -/
structure Parsed (α : Type) (least : Nat) (tokens : Stream Token) where
  value : α
  rest : Option { rest : Stream Token // rest.length + least ≤ tokens.length }

namespace Parsed

variable {α β : Type} {least : Nat} {tokens : Stream Token}

/-- Reading that stopped for good. -/
def stopped (value : α) : Parsed α least tokens := ⟨value, none⟩

/-- What is read without taking a token. -/
def here (value : α) : Parsed α 0 tokens := ⟨value, some ⟨tokens, Nat.le_refl _⟩⟩

/-- What is read by taking one token. -/
def token {token : Token} (value : α) : Parsed α 1 (.next token tokens) :=
  ⟨value, some ⟨tokens, Nat.le_refl _⟩⟩

/-- Read the same off other tokens. -/
def weaken {other : Nat} {longer : Stream Token} (parsed : Parsed α least tokens)
    (bound : tokens.length + other ≤ longer.length + least) : Parsed α other longer :=
  ⟨parsed.value, parsed.rest.map fun rest => ⟨rest.1, by have := rest.2; omega⟩⟩

/-- Read the same behind one more token. -/
def behind {token : Token} (parsed : Parsed α 0 tokens) : Parsed α 1 (.next token tokens) :=
  parsed.weaken (Nat.le_refl _)

/-- Promise less about the number of tokens. -/
def relax (parsed : Parsed α 1 tokens) : Parsed α 0 tokens := parsed.weaken (Nat.le_succ _)

/-- Promise less about the number of tokens, `taken` having been taken before. -/
def relaxBy (taken : Nat) (parsed : Parsed α 1 tokens) : Parsed α (1 - taken) tokens :=
  parsed.weaken (by omega)

/-- What is read without taking a token, unless one must be taken. -/
def hereBehind (taken : Nat) (some : taken ≠ 0) (value : α) : Parsed α (1 - taken) tokens :=
  ⟨value, .some ⟨tokens, by omega⟩⟩

/-- Change what was read. -/
def map (change : α → β) (parsed : Parsed α least tokens) : Parsed β least tokens :=
  ⟨change parsed.value, parsed.rest⟩

end Parsed

/-! ## Properties -/

/-- Properties with the tag as it was read, and the tokens behind them. -/
structure PropertiesRead (tokens : Stream Token) where
  anchor : Option String
  tag : Option (Option Tag)
  taken : Nat
  rest : Stream Token
  bound : rest.length + taken ≤ tokens.length

/-- The properties, unless the tag has an unknown handle. -/
def PropertiesRead.properties? {tokens : Stream Token} (read : PropertiesRead tokens) :
    Option (Properties String) :=
  match read.tag with
  | none => some ⟨read.anchor, none⟩
  | some none => none
  | some (some tag) => some ⟨read.anchor, some tag⟩

/-- Read the properties of a node: an anchor and a tag in any order. -/
def readProperties (tokens : Stream Token) : PropertiesRead tokens :=
  match tokens with
  | .next (.anchor name) (.next (.tag tag) rest) => ⟨some name, some tag, 2, rest, Nat.le_refl _⟩
  | .next (.tag tag) (.next (.anchor name) rest) => ⟨some name, some tag, 2, rest, Nat.le_refl _⟩
  | .next (.anchor name) rest => ⟨some name, none, 1, rest, Nat.le_refl _⟩
  | .next (.tag tag) rest => ⟨none, some tag, 1, rest, Nat.le_refl _⟩
  | tokens => ⟨none, none, 0, tokens, Nat.le_refl _⟩

/-! ## Nodes -/

/-- The tokens that may stand where a node is missing. -/
abbrev Ends := Token → Bool

/-- Behind the indicator of a list entry in a block. -/
def endsBlockItem : Ends
  | .blockEntry | .blockEnd => true
  | _ => false

/-- Behind the indicator of a list entry that is not indented. -/
def endsFlatItem : Ends
  | .blockEntry | .key | .value | .blockEnd => true
  | _ => false

/-- Behind the indicator of a key or a value in a block. -/
def endsBlockPart : Ends
  | .key | .value | .blockEnd => true
  | _ => false

/-- Behind the indicator of a key in a flow map. -/
def endsFlowKey : Ends
  | .value | .flowEntry | .flowMapEnd => true
  | _ => false

/-- Behind the indicator of a value in a flow map. -/
def endsFlowValue : Ends
  | .flowEntry | .flowMapEnd => true
  | _ => false

/-- Behind the indicator of a value in a flow list. -/
def endsPairValue : Ends
  | .flowEntry | .flowListEnd => true
  | _ => false

/-- Behind the indicator of a key in a flow list. -/
def endsPairKey : Ends
  | .value | .flowEntry | .flowListEnd => true
  | _ => false

/-- Where a node may stand: in a block, and there as a list that is not indented. -/
structure NodeContext where
  inBlock : Bool
  allowsFlatList : Bool
deriving DecidableEq, Repr

/-- Nodes of flow collections. -/
def NodeContext.flow : NodeContext := ⟨false, false⟩

/-- Entries of lists in blocks, and whole documents. -/
def NodeContext.block : NodeContext := ⟨true, false⟩

/-- Keys and values of maps in blocks. -/
def NodeContext.blockMap : NodeContext := ⟨true, true⟩

/-- A node that is missing because the tokens make no sense. -/
def Parsed.faulty {least : Nat} {tokens : Stream Token} :
    Parsed (Node String) least tokens :=
  .stopped (.broken .illFormed)

/-- Parts that are missing because the tokens make no sense. -/
def Parsed.faultyParts {α : Type} {least : Nat} {tokens : Stream Token} :
    Parsed (Stream α) least tokens :=
  .stopped (.broken .illFormed)

/-- The node where content is missing, which it may be behind properties of at least one
token. -/
def missing {tokens : Stream Token} (properties : Properties String) (taken : Nat) :
    Parsed (Node String) (1 - taken) tokens :=
  if some : taken = 0 then .faulty else .hereBehind taken some (.scalar properties .empty)

mutual

/-- Read a node. -/
def parseNode (context : NodeContext) (tokens : Stream Token) :
    Parsed (Node String) 1 tokens :=
  match tokens with
  | .next (.reference name) _ => .token (.reference name)
  | tokens =>
    let read := readProperties tokens
    have := read.bound
    match read.properties? with
    | none => .faulty
    | some properties =>
      (parseContent context properties read.taken read.rest).weaken (by omega)
termination_by (tokens.length, 2)
decreasing_by
  have := (readProperties tokens).bound
  simp only [Prod.lex_def]
  omega

/-- Read the content of a node.  It may be missing behind properties, of which `taken`
tokens were taken. -/
def parseContent (context : NodeContext) (properties : Properties String) (taken : Nat)
    (tokens : Stream Token) : Parsed (Node String) (1 - taken) tokens :=
  match tokens with
  | .broken _ => .faulty
  | .done => missing properties taken
  | .next token rest =>
    match token with
    | .scalar scalar => (Parsed.token (.scalar properties scalar)).relaxBy taken
    | .flowListStart =>
      ((parseFlowItems true rest).map (.list properties)).behind.relaxBy taken
    | .flowMapStart =>
      ((parseFlowEntries true rest).map (.map properties)).behind.relaxBy taken
    | .blockEntry =>
      if context.allowsFlatList then
        ((parseFlatEntry rest).map (.list properties)).behind.relaxBy taken
      else missing properties taken
    | .blockListStart =>
      if context.inBlock then
        ((parseBlockItems rest).map (.list properties)).behind.relaxBy taken
      else missing properties taken
    | .blockMapStart =>
      if context.inBlock then
        ((parseBlockEntries rest).map (.map properties)).behind.relaxBy taken
      else missing properties taken
    | _ => missing properties taken
termination_by (tokens.length, 1)
decreasing_by
  all_goals simp only [Prod.lex_def, Stream.length]
  all_goals omega

/-- Read a node that may be missing in front of certain tokens. -/
def parsePart (context : NodeContext) (ends : Ends) (tokens : Stream Token) :
    Parsed (Node String) 0 tokens :=
  match tokens with
  | .broken _ => .faulty
  | .done => .faulty
  | .next token rest =>
    if ends token then .here .empty else (parseNode context (.next token rest)).relax
termination_by (tokens.length, 3)

/-- Read the entries of a list in a block. -/
def parseBlockItems (tokens : Stream Token) : Parsed (Stream (Node String)) 0 tokens :=
  match tokens with
  | .next .blockEntry rest =>
    let item := parsePart .block endsBlockItem rest
    match item.rest with
    | none => .stopped (.next item.value .done)
    | some ⟨behind, bound⟩ =>
      ((parseBlockItems behind).map (.next item.value)).weaken (Nat.le_succ_of_le bound)
  | .next .blockEnd _ => (Parsed.token .done).relax
  | _ => .faultyParts
termination_by (tokens.length, 0)
decreasing_by
  all_goals simp_all only [Prod.lex_def, Stream.length]
  all_goals omega

/-- Read the entries of a list that is not indented, from behind the indicator of the
first one. -/
def parseFlatEntry (tokens : Stream Token) : Parsed (Stream (Node String)) 0 tokens :=
  let item := parsePart .block endsFlatItem tokens
  match item.rest with
  | none => .stopped (.next item.value .done)
  | some ⟨behind, bound⟩ =>
    match behind with
    | .broken _ => .stopped (.next item.value (.broken .illFormed))
    | .next .blockEntry rest =>
      ((parseFlatEntry rest).map (.next item.value)).weaken (Nat.le_of_succ_le bound)
    | behind => ⟨.next item.value .done, some ⟨behind, bound⟩⟩
termination_by (tokens.length, 4)
decreasing_by
  all_goals simp_all only [Prod.lex_def, Stream.length]
  all_goals grind

/-- Read the entries of a map in a block. -/
def parseBlockEntries (tokens : Stream Token) :
    Parsed (Stream (Node String × Node String)) 0 tokens :=
  match tokens with
  | .next .key rest =>
    let key := parsePart .blockMap endsBlockPart rest
    match key.rest with
    | none => .stopped (.next (key.value, .broken .illFormed) .done)
    | some ⟨behind, bound⟩ =>
      let value := parseValue .blockMap endsBlockPart behind
      match value.rest with
      | none => .stopped (.next (key.value, value.value) .done)
      | some ⟨more, fewer⟩ =>
        ((parseBlockEntries more).map (.next (key.value, value.value))).weaken
          (Nat.le_succ_of_le (Nat.le_trans fewer bound))
  | .next .blockEnd _ => (Parsed.token .done).relax
  | _ => .faultyParts
termination_by (tokens.length, 0)
decreasing_by
  all_goals simp_all only [Prod.lex_def, Stream.length]
  all_goals omega

/-- Read a value with its indicator.  Without the indicator it is missing. -/
def parseValue (context : NodeContext) (ends : Ends) (tokens : Stream Token) :
    Parsed (Node String) 0 tokens :=
  match tokens with
  | .next .value rest => (parsePart context ends rest).behind.relax
  | .broken _ => .faulty
  | _ => .here .empty
termination_by (tokens.length, 0)
decreasing_by
  simp only [Prod.lex_def, Stream.length]
  omega

/-- Read the entries of a flow list, behind its start or behind an entry. -/
def parseFlowItems (isFirst : Bool) (tokens : Stream Token) :
    Parsed (Stream (Node String)) 0 tokens :=
  match tokens with
  | .next .flowListEnd _ => (Parsed.token .done).relax
  | .next .flowEntry rest =>
    if isFirst then .faultyParts else (parseFlowItem rest).behind.relax
  | tokens => if isFirst then parseFlowItem tokens else .faultyParts
termination_by (tokens.length, 4)
decreasing_by
  all_goals simp_all only [Prod.lex_def, Stream.length]
  all_goals grind

/-- Read an entry of a flow list and those behind it.  A key makes it a map with one
entry. -/
def parseFlowItem (tokens : Stream Token) : Parsed (Stream (Node String)) 0 tokens :=
  match tokens with
  | .broken _ => .faultyParts
  | .next .flowListEnd _ => (Parsed.token .done).relax
  | .next .key rest =>
    let pair := parsePair rest
    match pair.rest with
    | none => .stopped (.next (.map .none pair.value) .done)
    | some ⟨behind, bound⟩ =>
      ((parseFlowItems false behind).map (.next (.map .none pair.value))).weaken
        (Nat.le_succ_of_le bound)
  | tokens =>
    let item := parseNode .flow tokens
    match item.rest with
    | none => .stopped (.next item.value .done)
    | some ⟨behind, bound⟩ =>
      ((parseFlowItems false behind).map (.next item.value)).weaken (Nat.le_of_succ_le bound)
termination_by (tokens.length, 3)
decreasing_by
  all_goals simp_all only [Prod.lex_def, Stream.length]
  all_goals grind

/-- Read the key of a map with one entry.  Where it is missing, so is the token behind
it. -/
def parsePairKey (tokens : Stream Token) : Parsed (Node String) 1 tokens :=
  match tokens with
  | .broken _ => .faulty
  | .done => .faulty
  | .next token rest =>
    if endsPairKey token then .token .empty else parseNode .flow (.next token rest)
termination_by (tokens.length, 3)

/-- Read the key and the value of a map with one entry. -/
def parsePair (tokens : Stream Token) :
    Parsed (Stream (Node String × Node String)) 0 tokens :=
  let key := parsePairKey tokens
  match key.rest with
  | none => .stopped (.next (key.value, .broken .illFormed) .done)
  | some ⟨behind, bound⟩ =>
    let value := parseValue .flow endsPairValue behind
    match value.rest with
    | none => .stopped (.next (key.value, value.value) .done)
    | some ⟨more, fewer⟩ =>
      if more.isBroken then .stopped (.next (key.value, value.value) (.broken .illFormed))
      else ⟨.next (key.value, value.value) .done, some ⟨more, by omega⟩⟩
termination_by (tokens.length, 4)
decreasing_by
  all_goals simp_all only [Prod.lex_def]
  all_goals grind

/-- Read the entries of a flow map, behind its start or behind an entry. -/
def parseFlowEntries (isFirst : Bool) (tokens : Stream Token) :
    Parsed (Stream (Node String × Node String)) 0 tokens :=
  match tokens with
  | .next .flowMapEnd _ => (Parsed.token .done).relax
  | .next .flowEntry rest =>
    if isFirst then .faultyParts else (parseFlowEntry rest).behind.relax
  | tokens => if isFirst then parseFlowEntry tokens else .faultyParts
termination_by (tokens.length, 4)
decreasing_by
  all_goals simp_all only [Prod.lex_def, Stream.length]
  all_goals grind

/-- Read an entry of a flow map and those behind it.  Without an indicator the node is a
key whose value is missing. -/
def parseFlowEntry (tokens : Stream Token) :
    Parsed (Stream (Node String × Node String)) 0 tokens :=
  match tokens with
  | .broken _ => .faultyParts
  | .next .flowMapEnd _ => (Parsed.token .done).relax
  | .next .key rest =>
    let key := parsePart .flow endsFlowKey rest
    match key.rest with
    | none => .stopped (.next (key.value, .broken .illFormed) .done)
    | some ⟨behind, bound⟩ =>
      let value := parseValue .flow endsFlowValue behind
      match value.rest with
      | none => .stopped (.next (key.value, value.value) .done)
      | some ⟨more, fewer⟩ =>
        ((parseFlowEntries false more).map (.next (key.value, value.value))).weaken
          (Nat.le_succ_of_le (Nat.le_trans fewer bound))
  | tokens =>
    let key := parseNode .flow tokens
    match key.rest with
    | none => .stopped (.next (key.value, .broken .illFormed) .done)
    | some ⟨behind, bound⟩ =>
      if behind.isBroken then .stopped (.next (key.value, .broken .illFormed) .done)
      else
        ((parseFlowEntries false behind).map (.next (key.value, .empty))).weaken
          (Nat.le_of_succ_le bound)
termination_by (tokens.length, 3)
decreasing_by
  all_goals simp_all only [Prod.lex_def, Stream.length]
  all_goals grind

end

/-! ## Documents -/

/-- A document: its root, and whether anything stands behind it that should not. -/
structure Document (ρ : Type) where
  root : Node ρ
  trailing : Bool

/-- Whether tokens behind a document make more than its end. -/
def isTrailing : Stream Token → Bool
  | .done => false
  | .next .documentEnd rest => isTrailing rest
  | _ => true

/-- Whether a document may be without content in front of a token. -/
def endsDocument : Ends
  | .documentStart | .documentEnd => true
  | _ => false

/-- The first document of tokens. -/
def parseDocument (tokens : Stream Token) : Document String :=
  match tokens with
  | .done => ⟨.empty, false⟩
  | .next .documentStart .done => ⟨.empty, false⟩
  | .next .documentStart rest => ofParsed (parsePart .block endsDocument rest)
  | tokens => ofParsed (parseNode .block tokens)
where
  /-- The document with a root. -/
  ofParsed {least : Nat} {tokens : Stream Token} (root : Parsed (Node String) least tokens) :
      Document String :=
    ⟨root.value, root.rest.all fun rest => isTrailing rest.1⟩

end Yaml
end LineExtraction

import LineExtraction.Extraction.Log
import LineExtraction.Text.Line

/-!
# Extraction units

A unit recognises the lines of one definition and cuts them into fields.  How it
does so is up to the matcher inside: a function from lines to the spans of the
fields in the order in which they open.  What it makes of a line is a record: the
kind of line it is, and the fields that were found in it with the text of each and
where it stands, counted in bytes.
-/

namespace LineExtraction

/-! ## Records -/

/-- One captured field. -/
structure Field where
  name : String
  value : String
  start : Nat
  stop : Nat
deriving DecidableEq, Repr

/-- The record of a line: the number and name of its definition, and its fields in
the order in which they open. -/
structure Record where
  index : Nat
  name : String
  fields : List Field
deriving DecidableEq, Repr

/-- Texts by name, in the order of the names. -/
abbrev FieldMap := List (String × String)

namespace FieldMap

/-- Put a text at its name, in place of the one that stands there. -/
def insert (name value : String) : FieldMap → FieldMap
  | [] => [(name, value)]
  | (key, old) :: rest =>
    if name = key then (name, value) :: rest
    else if name < key then (name, value) :: (key, old) :: rest
    else (key, old) :: insert name value rest

end FieldMap

namespace Record

/-- The first field with the given name. -/
def field? (record : Record) (name : String) : Option Field :=
  record.fields.find? (·.name = name)

/-- The text of the first field with the given name. -/
def get? (record : Record) (name : String) : Option String :=
  (record.field? name).map (·.value)

/-- How many fields the record has. -/
def size (record : Record) : Nat := record.fields.length

/-- The texts by the names of the fields.  Of several fields with one name the last
one counts. -/
def toMap (record : Record) : FieldMap :=
  record.fields.foldl (fun map field => FieldMap.insert field.name field.value map) []

end Record

/-! ## Units -/

/-- The bytes from `start` up to `stop`. -/
structure Span where
  start : Nat
  stop : Nat
deriving DecidableEq, Repr

/-- What a matcher has to say about a line: the spans of the fields, or that the line
does not match, or why it gave up. -/
inductive Attempt where
  | spans (fields : List (Option Span))
  | noMatch
  | gaveUp (reason : String)
deriving DecidableEq, Repr

namespace Line

/-- The characters behind the first `count` bytes. -/
def dropBytes (count : Nat) : List Char → List Char
  | [] => []
  | char :: rest => if count = 0 then char :: rest else dropBytes (count - char.utf8Size) rest

/-- The characters of the first `count` bytes. -/
def takeBytes (count : Nat) : List Char → List Char
  | [] => []
  | char :: rest => if count = 0 then [] else char :: takeBytes (count - char.utf8Size) rest

/-- The text that a span covers. -/
def textOf (line : Line) (span : Span) : String :=
  String.ofList (takeBytes (span.stop - span.start) (dropBytes span.start line.chars.toList))

end Line

/-- What recognises and cuts the lines of one definition. -/
structure ExtractionUnit where
  index : Nat
  name : String
  pattern : String
  fields : List String
  attempt : Line → Attempt

namespace ExtractionUnit

/-- The fields of a line whose spans have been found.  A field without a span is left
out. -/
def fieldsOf (names : List String) (line : Line) (spans : List (Option Span)) : List Field :=
  (names.zip spans).filterMap fun (name, span?) =>
    span?.map fun span => ⟨name, line.textOf span, span.start, span.stop⟩

/-- The record of a line, if it is one of the unit's lines. -/
def extract (unit : ExtractionUnit) (line : Line) : Option Record :=
  match unit.attempt line with
  | .spans spans => some ⟨unit.index, unit.name, fieldsOf unit.fields line spans⟩
  | _ => none

/-- The record of a line, with a warning when the matcher gave up. -/
def extractLogged (unit : ExtractionUnit) (line : Line) : Logged (Option Record) :=
  match unit.attempt line with
  | .gaveUp reason =>
    ⟨[⟨.warning, "extraction '" ++ unit.name ++ "' gave up matching: " ++ reason⟩], none⟩
  | _ => .silent (unit.extract line)

theorem extractLogged_value (unit : ExtractionUnit) (line : Line) :
    (unit.extractLogged line).value = unit.extract line := by
  unfold extractLogged extract
  split <;> simp_all [Logged.silent]

end ExtractionUnit

end LineExtraction

import LineExtraction.Compilation.Options

/-!
# Command line arguments

Arguments are read from left to right.  What an option takes is checked only when the
next option or positional argument shows up, or at the end; an argument that makes no
sense at all is refused at once.
-/

namespace LineExtraction
namespace CommandLine

/-- What the arguments ask for. -/
structure Arguments where
  inputs : List String
  definitions : String
  safe : Bool
  backend : Option Backend
  parallel : Bool
  matchedOnly : Bool
  list : Bool
  debug : Bool
deriving DecidableEq, Repr

/-- What to do about candidates that do not extract a line. -/
def Arguments.mode (arguments : Arguments) : ExtractionMode :=
  if arguments.safe then .permissive else .strict

/-- Why arguments ask for no run: they ask for something else, or they are wrong. -/
inductive Refusal where
  | displayHelp
  | displayVersion
  | unknownArgument
  | tooManyValues
  | invalidValue
  | argumentConflict
  | missingArgument
deriving DecidableEq, Repr

/-! ## Options -/

/-- Options without a value. -/
inductive Flag where
  | safe
  | parallel
  | matchedOnly
  | list
  | debug
deriving DecidableEq, Repr

/-- Options with a value. -/
inductive ValueOption where
  | definitions
  | backend
deriving DecidableEq, Repr

/-- What an option is. -/
inductive OptionKind where
  | flag (flag : Flag)
  | value (option : ValueOption)
  | help
  | version
deriving DecidableEq, Repr

/-- The option with a long name. -/
def longOption? (name : String) : Option OptionKind :=
  match name with
  | "definitions" => some (.value .definitions)
  | "safe" => some (.flag .safe)
  | "backend" => some (.value .backend)
  | "parallel" => some (.flag .parallel)
  | "matched-only" => some (.flag .matchedOnly)
  | "list" => some (.flag .list)
  | "debug" => some (.flag .debug)
  | "help" => some .help
  | "version" => some .version
  | _ => none

/-- The option with a short name. -/
def shortOption? (name : Char) : Option OptionKind :=
  match name with
  | 'd' => some (.value .definitions)
  | 'P' => some (.flag .parallel)
  | 'h' => some .help
  | 'V' => some .version
  | _ => none

/-- The engine that a value names. -/
def backendOf? (name : String) : Option Backend :=
  if name = Backend.linear.name then some .linear
  else if name = Backend.backtracking.name then some .backtracking
  else none

/-! ## Reading -/

/-- Arguments that have been read but not checked: an option with the value that it got
so far, or positional arguments. -/
inductive Pending where
  | none
  | value (option : ValueOption) (content : Option String)
  | inputs (inputs : List String)
deriving DecidableEq, Repr

/-- What has been read.  Behind a double dash every argument is positional. -/
structure ReadState where
  inputs : List String
  definitions : Option String
  backend : Option Backend
  flags : List Flag
  pending : Pending
  positionalOnly : Bool
deriving DecidableEq, Repr

namespace ReadState

/-- Nothing has been read. -/
def start : ReadState := ⟨[], none, none, [], .none, false⟩

/-- Set an option to a value.  It must not have one. -/
def assign (state : ReadState) (option : ValueOption) (content : String) :
    Except Refusal ReadState :=
  match option with
  | .definitions =>
    if state.definitions.isSome then .error .argumentConflict
    else if content.isEmpty then .error .invalidValue
    else .ok { state with definitions := content }
  | .backend =>
    if state.backend.isSome then .error .argumentConflict
    else
      match backendOf? content with
      | none => .error .invalidValue
      | some backend => .ok { state with backend := backend }

/-- Check what is pending. -/
def settle (state : ReadState) : Except Refusal ReadState :=
  let settled := { state with pending := .none }
  match state.pending with
  | .none => .ok settled
  | .value _ none => .error .invalidValue
  | .value option (some content) => settled.assign option content
  | .inputs inputs =>
    if inputs.any String.isEmpty then .error .invalidValue
    else .ok { settled with inputs := state.inputs ++ inputs }

/-- Set a flag.  It must not be set. -/
def setFlag (state : ReadState) (flag : Flag) : Except Refusal ReadState := do
  let settled ← state.settle
  if flag ∈ settled.flags then throw .argumentConflict
  return { settled with flags := flag :: settled.flags }

/-- Read an option with a value, which may be attached. -/
def takeOption (state : ReadState) (option : ValueOption) (attached : Option String) :
    Except Refusal ReadState := do
  let settled ← state.settle
  match attached with
  | some content => settled.assign option content
  | none => return { settled with pending := .value option none }

/-- Answer a request for something else than a run. -/
def answer (state : ReadState) (refusal : Refusal) : Except Refusal ReadState := do
  let _ ← state.settle
  throw refusal

/-- Read a long option. -/
def takeLong (state : ReadState) (name : String) (attached : Option String) :
    Except Refusal ReadState :=
  match longOption? name, attached with
  | none, _ => .error .unknownArgument
  | some (.value option), attached => state.takeOption option attached
  | some _, some _ => .error .tooManyValues
  | some (.flag flag), none => state.setFlag flag
  | some .help, none => state.answer .displayHelp
  | some .version, none => state.answer .displayVersion

/-- The value that is attached to a short option, if anything is. -/
def attachedTo (rest : List Char) : Option String :=
  match rest with
  | [] => none
  | '=' :: content => some (String.ofList content)
  | content => some (String.ofList content)

/-- Read short options. -/
def takeShort (state : ReadState) : (names : List Char) → Except Refusal ReadState
  | [] => .ok state
  | name :: rest =>
    match shortOption? name with
    | none => .error .unknownArgument
    | some (.value option) => state.takeOption option (attachedTo rest)
    | some (.flag flag) => do (← state.setFlag flag).takeShort rest
    | some .help => state.answer .displayHelp
    | some .version => state.answer .displayVersion

/-- Read a positional argument. -/
def takePositional (state : ReadState) (argument : String) : Except Refusal ReadState :=
  match state.pending with
  | .inputs inputs => .ok { state with pending := .inputs (inputs ++ [argument]) }
  | _ => do return { ← state.settle with pending := .inputs [argument] }

/-- The name of a long option and the value attached to it. -/
def splitLong (text : List Char) : String × Option String :=
  let name := String.ofList (text.takeWhile (· ≠ '='))
  match text.dropWhile (· ≠ '=') with
  | [] => (name, none)
  | _ :: content => (name, some (String.ofList content))

/-- Read an argument that is no option. -/
def takePlain (state : ReadState) (argument : String) : Except Refusal ReadState :=
  match state.pending with
  | .value option none => .ok { state with pending := .value option (some argument) }
  | _ => state.takePositional argument

/-- Read an argument. -/
def take (state : ReadState) (argument : String) : Except Refusal ReadState :=
  if state.positionalOnly then state.takePositional argument
  else
    match argument.toList with
    | ['-', '-'] => .ok { state with positionalOnly := true }
    | '-' :: '-' :: text =>
      let (name, attached) := splitLong text
      state.takeLong name attached
    | '-' :: name :: names => state.takeShort (name :: names)
    | _ => state.takePlain argument

/-- What the arguments ask for when all have been read. -/
def finish (state : ReadState) : Except Refusal Arguments := do
  let settled ← state.settle
  match settled.definitions with
  | none => throw .missingArgument
  | some definitions =>
    return {
      inputs := settled.inputs
      definitions := definitions
      safe := settled.flags.contains .safe
      backend := settled.backend
      parallel := settled.flags.contains .parallel
      matchedOnly := settled.flags.contains .matchedOnly
      list := settled.flags.contains .list
      debug := settled.flags.contains .debug }

end ReadState

/-- Read arguments. -/
def Arguments.ofList (arguments : List String) : Except Refusal Arguments := do
  (← arguments.foldlM ReadState.take .start).finish

end CommandLine
end LineExtraction

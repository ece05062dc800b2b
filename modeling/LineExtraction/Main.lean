import LineExtraction.CommandLine.Run

/-!
# The program

The command line of line extraction.
-/

namespace LineExtraction
namespace CommandLine

/-- The error of a file that could not be read. -/
def fileErrorOf (error : IO.Error) : Files.FileError :=
  match error with
  | .noFileOrDirectory .. => .notFound
  | .inappropriateType .. => .notDirectory
  | error => .other (toString error)

/-- Read the text of a file. -/
def readFileText (path : String) : IO (Except Files.FileError String) := do
  try
    return Files.textOf (← IO.FS.readBinFile path)
  catch error => return .error (fileErrorOf error)

/-- Read the text of the standard input. -/
def readInputText : IO (Except Files.FileError String) := do
  try
    return Files.textOf (← (← IO.getStdin).readBinToEnd)
  catch error => return .error (fileErrorOf error)

/-- The help text. -/
def helpText : String :=
  "Extract named fields from lines using a catalogue of patterns\n\n" ++
    "Usage: line-extraction [OPTIONS] --definitions <FILE> [INPUTS]...\n"

/-- What is written about arguments that ask for no run. -/
def refusalText : Refusal → String
  | .displayHelp => helpText
  | .displayVersion => "line-extraction 0.1.0\n"
  | .unknownArgument => "error: unexpected argument found\n"
  | .tooManyValues => "error: unexpected value for an argument found\n"
  | .invalidValue => "error: invalid value for an argument\n"
  | .argumentConflict => "error: an argument cannot be used multiple times\n"
  | .missingArgument => "error: the required argument --definitions <FILE> was not provided\n"

end CommandLine
end LineExtraction

open LineExtraction.CommandLine in
/-- Run the program. -/
def main (words : List String) : IO UInt32 := do
  let output ← IO.getStdout
  let errorOutput ← IO.getStderr
  match Arguments.ofList words with
  | .error .displayHelp =>
    output.putStr (refusalText .displayHelp)
    return 0
  | .error .displayVersion =>
    output.putStr (refusalText .displayVersion)
    return 0
  | .error refusal =>
    errorOutput.putStr (refusalText refusal)
    return 2
  | .ok arguments =>
    let outcome ← arguments.run ⟨readFileText, readInputText⟩
    output.putStr outcome.output
    errorOutput.putStr outcome.errorOutput
    match outcome.result with
    | .ok code => return code.toUInt32
    | .error error =>
      errorOutput.putStr ("error: " ++ error.message ++ "\n")
      return 2

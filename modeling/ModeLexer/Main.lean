import ModeLexer.Cli.Run

/-!
# The program

Reads the files and the standard input that the command line asks for, runs it, and writes what it
answers.
-/

namespace ModeLexer.Cli

/-- The reason for which a file cannot be read. -/
def fileError : IO.Error → FileError
  | .noFileOrDirectory .. => .notFound
  | .inappropriateType _ 20 _ => .notADirectory
  | .inappropriateType _ 21 _ => .isADirectory
  | .invalidArgument _ 36 _ => .nameTooLong
  | e => .other (toString e)

/-- The text of bytes. -/
def textOf (bytes : ByteArray) : Except FileError String :=
  match String.fromUTF8? bytes with
  | some text => .ok text
  | none => .error .notText

/-- Reads a file. -/
def readFile (path : String) : IO (Except FileError String) := do
  if path.toList.contains '\x00' then return .error .nameHasNul
  try
    return textOf (← IO.FS.readBinFile path)
  catch e => return .error (fileError e)

/-- Reads the standard input. -/
def readInput : IO (Except FileError String) := do
  try
    return textOf (← (← IO.getStdin).readBinToEnd)
  catch e => return .error (fileError e)

/-- What is printed for a command line that is refused. -/
def usageText : String :=
  "Usage: asmlex [-v]... tokenize <path|-> [-l <language> | -d <file>] [-f <format>]\n" ++
  "       asmlex [-v]... languages\n" ++
  "       asmlex [-v]... check <definition>\n"

/-- Reads what a command line asks for and runs it. -/
def runWithFiles (arguments : List String) : IO Outcome := do
  let (paths, readsInput) := match readCommandLine arguments with
    | .ok (command, _) => (command.files, command.readsInput)
    | .error _ => ([], false)
  let texts ← paths.mapM fun path ↦ return (path, ← readFile path)
  let input ← if readsInput then readInput else pure (.ok "")
  return run (fun path ↦ (texts.lookup path).getD (.error .notFound)) input arguments

end ModeLexer.Cli

/-- Runs the program with its arguments. -/
def main (arguments : List String) : IO UInt32 := do
  let outcome ← ModeLexer.Cli.runWithFiles arguments
  IO.print outcome.stdout
  IO.eprint (outcome.stderr.getD ModeLexer.Cli.usageText)
  return outcome.code.toUInt32

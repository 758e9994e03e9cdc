import FieldPattern.Command.Run

/-!
# The command line

The outermost layer: it gives the commands access to the environment, the standard input and the
files, writes what they leave, and exits with their code.
-/

open FieldPattern

/-- What stands at a path of the file system. -/
def fileAt (path : String) : IO FileState := do
  try
    return .file (← IO.FS.readBinFile path)
  catch e =>
    match e with
    | .inappropriateType .. => return .directory
    | .noFileOrDirectory .. | .noSuchThing .. => return .absent
    | .invalidArgument .. => return .tooLong
    | e => throw e

/-- All of the standard input as a text with unified line ends. -/
def standardInput : IO String := do
  let bytes ← (← IO.getStdin).readBinToEnd
  match Text.decode bytes.toList with
  | .ok text => return String.ofList text
  | .error e => throw (IO.userError e.message)

/-- The host of this process. -/
def processHost : IO (Command.Host IO) := do
  let level ← IO.getEnv Settings.levelVariable
  let library ← IO.getEnv Settings.libraryVariable
  let directory ← IO.currentDir
  return {
    environment := fun name =>
      if name == Settings.levelVariable then level
      else if name == Settings.libraryVariable then library
      else none
    directory := directory.toString
    input := standardInput
    file := fileAt }

/-- Runs the command line. -/
def main (args : List String) : IO UInt32 := do
  let outcome ← Command.runAll (← processHost) args
  IO.print outcome.stdout
  IO.eprint outcome.stderr
  if let some e := outcome.error then IO.eprintln e.message
  return UInt32.ofNat outcome.exit

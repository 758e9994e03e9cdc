import FieldPattern.Path
import FieldPattern.Text.LetterCase

/-!
# Settings of the command line

The log level and the path of the pattern library come from the environment. Options of matchers
never do.
-/

namespace FieldPattern

/-- The settings of a run. -/
structure Settings where
  logLevel : String
  libraryPath : String
  deriving Repr, DecidableEq

namespace Settings

/-- The level that is used when none is set. -/
def defaultLevel : String := "WARNING"

/-- The name of the library file in the working directory. -/
def defaultFile : String := "patterns.yaml"

/-- The variable that sets the log level. -/
def levelVariable : String := "SIMPLEX_LOG_LEVEL"

/-- The variable that sets the library path. -/
def libraryVariable : String := "SIMPLEX_LIBRARY_PATH"

/-- The settings of an environment. Without a library path, or with an empty one, the library is the
default file in the base directory. -/
def ofEnvironment (environment : String → Option String) (base : String) : Settings where
  logLevel := Text.toUpper ((environment levelVariable).getD defaultLevel)
  libraryPath :=
    match environment libraryVariable with
    | some path => if path.isEmpty then Path.child base defaultFile else Path.normal path
    | none => Path.child base defaultFile

end Settings

/-- The names of log levels and their severities. -/
def levelSeverities : List (String × Nat) :=
  [("CRITICAL", 50), ("FATAL", 50), ("ERROR", 40), ("WARN", 30), ("WARNING", 30), ("INFO", 20),
   ("DEBUG", 10), ("NOTSET", 0)]

end FieldPattern

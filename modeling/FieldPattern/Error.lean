import FieldPattern.Document.Fault
import FieldPattern.Text.Utf8
import FieldPattern.Log

/-!
# Errors

One inductive type holds every cause that stops an operation; the wording is in one function. An
*action* is a computation that may stop with an error and writes log records on the way, which stay
written when it stops.
-/

namespace FieldPattern

/-- The kind of a failure that a regular expression engine reports. -/
inductive Failure.Kind where
  | value
  | key
  | runtime
  | type
  | pattern
  deriving Repr, DecidableEq

/-- A failure of a regular expression engine: an ordinary error, which ends the call that met it and
is passed on as a value. What no caller may hold up, such as an interrupt or the end of the process,
is no failure; it is an effect of the monad in which the engine works, and passes through every
call. -/
inductive Failure where
  /-- The value to search is no text. -/
  | notText (kind : String)
  /-- The pattern lies outside the engine's language. -/
  | unknownPattern
  /-- A failure that the engine names itself. -/
  | reported (kind : Failure.Kind) (detail : String)
  deriving Repr, DecidableEq

/-- Why an operation stopped. -/
inductive Error where
  /-- A text was needed. -/
  | notText (kind : String)
  /-- A field marker is no text. -/
  | notLiteral (kind : String)
  /-- A captured number has more digits than are read. -/
  | digitLimit (count : Nat)
  /-- A number has more digits than are written. -/
  | unwritableNumber
  /-- The engine failed. -/
  | engine (failure : Failure)
  /-- The engine refused the pattern of an expression. -/
  | rejected (expression pattern : String) (cause : Failure)
  /-- A library file is malformed. -/
  | unreadable (path : String)
  /-- A library file has no mapping of patterns. -/
  | noPatterns (path : String)
  /-- An entry of a library file has no expression. -/
  | noExpression (path name : String)
  /-- No pattern has that name. -/
  | unknownName (path name : String)
  /-- A library file is no text, or a scalar of it names no value. -/
  | document (fault : Document.Fault)
  /-- A directory stands where a file is needed. -/
  | directory (path : String)
  /-- There is no such file. -/
  | missing (path : String)
  /-- A file stands where a directory is needed. -/
  | notDirectory (path : String)
  /-- A file stands where a directory is to be made. -/
  | occupied (path : String)
  /-- A path, or a name in it, is too long. -/
  | nameTooLong (path : String)
  /-- A path or a setting has a null character in it. -/
  | nullCharacter
  /-- A value that contains itself cannot be told. -/
  | endless
  /-- No log level has that name. -/
  | unknownLevel (name : String)
  deriving Repr, DecidableEq

/-- The message of a failure. -/
def Failure.message : Failure → String
  | notText kind => "expected string or bytes-like object, got '" ++ kind ++ "'"
  | unknownPattern => "unsupported pattern"
  | reported .key detail => Text.quoted detail
  | reported _ detail => detail

namespace Error

/-- The message of the error. -/
def message : Error → String
  | notText kind => (Failure.notText kind).message
  | notLiteral kind => "decoding to str: need a bytes-like object, " ++ kind ++ " found"
  | digitLimit count => Document.digitLimitMessage count
  | unwritableNumber => Document.limitMessage ""
  | engine failure => failure.message
  | rejected expression pattern cause =>
    "Invalid pattern: " ++ cause.message ++ " (expression " ++ Text.quoted expression ++
      ", pattern " ++ Text.quoted pattern ++ ")"
  | unreadable path => "Cannot parse " ++ path
  | noPatterns path => path ++ ": expected a 'patterns' mapping"
  | noExpression path name => path ++ ": pattern '" ++ name ++ "' needs a string 'expression'"
  | unknownName path name => "Unknown pattern '" ++ name ++ "' in " ++ path
  | document fault => fault.message
  | directory path => "[Errno 21] Is a directory: " ++ Text.quoted path
  | missing path => "[Errno 2] No such file or directory: " ++ Text.quoted path
  | notDirectory path => "[Errno 20] Not a directory: " ++ Text.quoted path
  | occupied path => "[Errno 17] File exists: " ++ Text.quoted path
  | nameTooLong path => "[Errno 36] File name too long: " ++ Text.quoted path
  | nullCharacter => "embedded null byte"
  | endless => Document.depthMessage
  | unknownLevel name => "Unknown level: " ++ Text.quoted name

/-- The errors that a user of a pattern library or an expression can mend, as opposed to faults of
values and files. -/
def isUserError : Error → Bool
  | rejected .. | unreadable _ | noPatterns _ | noExpression .. | unknownName .. => true
  | _ => false

end Error

/-- A computation that may stop with an error and writes log records. -/
abbrev Action (m : Type → Type) := ExceptT Error (StateT Log m)

namespace Action

variable {m : Type → Type} [Monad m] {α : Type}

/-- Writes a record. -/
def record (r : LogRecord) : Action m Unit :=
  modify (· ++ [r])

/-- Runs an action of the underlying monad. -/
def perform (x : m α) : Action m α :=
  ExceptT.mk (do return .ok (← (StateT.lift x : StateT Log m α)))

/-- The outcome of an action and the records that it wrote. -/
def report (x : Action m α) : m (Except Error α × Log) :=
  x.run.run []

end Action

end FieldPattern

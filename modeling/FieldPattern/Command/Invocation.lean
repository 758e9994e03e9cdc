import FieldPattern.Command.Arguments
import FieldPattern.Text.Word

/-!
# Invocations

What a user asks for: one of four commands with its settings. Commands are arranged in groups; a
group reads its own options up to the name of a command and leaves the rest to that command.
-/

namespace FieldPattern.Command

/-- A command with its settings. -/
inductive Invocation where
  /-- Shows the pattern and fields of an expression. -/
  | compile (expression : String) (markers : Option String) (strict : Bool)
  /-- Matches an expression against a text, or against the standard input. -/
  | search (expression : String) (text markers : Option String) (global strict weak : Bool)
  /-- Lists the patterns of a library. -/
  | list (path : Option String)
  /-- Matches a pattern of a library. -/
  | run (name : String) (text path : Option String)
  deriving Repr, DecidableEq

def helpOption : OptionSpec := { long := "--help" }
def markersOption : OptionSpec := { long := "--markers", takesValue := true }
def globalOption : OptionSpec := { long := "--global", short := some 'g' }
def strictOption : OptionSpec := { long := "--strict-whitespace" }
def weakOption : OptionSpec := { long := "--weak-parse" }
def pathOption : OptionSpec := { long := "--path", takesValue := true }
def levelOption : OptionSpec := { long := "--log-level", takesValue := true }

/-- Reads the arguments of a command that has no commands of its own. Help goes before complaints
about arguments. -/
def readCommand (specs : List OptionSpec) (args : List String) : Except UsageError Arguments := do
  let a ← readArguments (specs ++ [helpOption]) true args
  if a.has helpOption.long then throw .help
  return a

/-- Reads the arguments of a command on a pattern library. Its path goes before complaints about
arguments. -/
def readLibraryArguments (args : List String) : Except UsageError Arguments := do
  let a ← readCommand [pathOption] args
  if (a.value? pathOption.long).any (·.toList.contains '\x00') then throw .nullCharacter
  return a

/-- One required argument. -/
def oneArgument (name : String) : List String → Except UsageError String
  | [] => .error (.missingArgument name)
  | [v] => .ok v
  | _ :: rest => .error (.extraArguments rest)

/-- One required argument and an optional one. -/
def twoArguments (name : String) : List String → Except UsageError (String × Option String)
  | [] => .error (.missingArgument name)
  | [v] => .ok (v, none)
  | [v, w] => .ok (v, some w)
  | _ :: _ :: rest => .error (.extraArguments rest)

/-- No arguments. -/
def noArguments : List String → Except UsageError Unit
  | [] => .ok ()
  | rest => .error (.extraArguments rest)

/-- The name of a command. -/
inductive Name where
  | compile
  | search
  | list
  | run
  deriving Repr, DecidableEq

/-- The invocation of a command by its arguments. -/
def Name.read (name : Name) (args : List String) : Except UsageError Invocation := do
  match name with
  | .compile =>
    let a ← readCommand [markersOption, strictOption] args
    let expression ← oneArgument "EXPRESSION" a.positional
    return .compile expression (a.value? markersOption.long) (a.has strictOption.long)
  | .search =>
    let a ← readCommand [markersOption, globalOption, strictOption, weakOption] args
    let (expression, text) ← twoArguments "EXPRESSION" a.positional
    return .search expression text (a.value? markersOption.long) (a.has globalOption.long)
      (a.has strictOption.long) (a.has weakOption.long)
  | .list =>
    let a ← readLibraryArguments args
    noArguments a.positional
    return .list (a.value? pathOption.long)
  | .run =>
    let a ← readLibraryArguments args
    let (name, text) ← twoArguments "NAME" a.positional
    return .run name text (a.value? pathOption.long)

/-! ## Groups -/

/-- What a group leaves to a command: the group's own options, the name and the arguments. -/
structure Selection where
  options : Arguments
  name : String
  rest : List String

/-- A word that does not begin with a letter or digit. -/
def looksLikeOption (s : String) : Bool :=
  match s.toList with
  | c :: _ => c == '_' || !Text.isWordChar c
  | [] => false

/-- Reads the options of a group. -/
def readGroup (specs : List OptionSpec) (check : Arguments → Except UsageError Unit)
    (args : List String) : Except UsageError Arguments := do
  if args.isEmpty then throw .nothing
  let a ← readArguments (specs ++ [helpOption]) false args
  if a.has helpOption.long then throw .help
  check a
  return a

/-- Selects a command of a group. A word that is no command but looks like an option is read as one
first. -/
def select (specs : List OptionSpec) (check : Arguments → Except UsageError Unit)
    (commands : List String) (args : List String) : Except UsageError Selection := do
  let a ← readGroup specs check args
  match a.positional with
  | [] => throw .missingCommand
  | name :: rest =>
    if commands.contains name then return ⟨a, name, rest⟩
    else
      if looksLikeOption name then
        let _ ← readGroup specs check a.positional
      throw (.noSuchCommand name (suggestions name commands))

/-- The log levels that may be asked for. -/
def levelChoices : List String := ["debug", "info", "warning", "error"]

/-- An ASCII text in lower case. -/
def lowered (s : String) : String :=
  String.ofList (s.toList.map Char.toLower)

/-- The log level, if one is asked for, is one of the choices. -/
def checkLevel (a : Arguments) : Except UsageError Unit :=
  match a.value? levelOption.long with
  | some v =>
    if levelChoices.contains (lowered v) then .ok ()
    else .error (.invalidChoice levelOption.long v levelChoices)
  | none => .ok ()

/-- The group of all commands. -/
def selectCommand (args : List String) : Except UsageError Selection :=
  select [levelOption] checkLevel ["compile", "match", "library"] args

/-- The commands on pattern libraries. -/
def readLibraryCommand (args : List String) : Except UsageError Invocation := do
  let s ← select [] (fun _ => .ok ()) ["list", "run"] args
  if s.name == "list" then Name.list.read s.rest else Name.run.read s.rest

/-- The command that a selection names. -/
def readSelected (s : Selection) : Except UsageError Invocation :=
  if s.name == "compile" then Name.compile.read s.rest
  else if s.name == "match" then Name.search.read s.rest
  else readLibraryCommand s.rest

end FieldPattern.Command

import FieldPattern.Command.Suggestion
import FieldPattern.Text.Quoted

/-!
# Command line arguments

A command takes options and positional arguments. An option has a long name and possibly a
one-letter name; it is a flag or takes a value, which follows it or is joined to it by an equals
sign. One-letter flags may be joined. Two dashes end the options, and one dash alone is an
argument.
-/

namespace FieldPattern.Command

/-- An option of a command. -/
structure OptionSpec where
  long : String
  short : Option Char := none
  takesValue : Bool := false

/-- Why arguments are refused. -/
inductive UsageError where
  | noSuchOption (name : String) (similar : List String)
  | missingValue (name : String)
  | unwantedValue (name : String)
  | invalidChoice (name value : String) (choices : List String)
  | missingArgument (name : String)
  | extraArguments (values : List String)
  | missingCommand
  | noSuchCommand (name : String) (similar : List String)
  /-- A path has a null character in it. -/
  | nullCharacter
  /-- Nothing was asked for. -/
  | nothing
  /-- Help was asked for. -/
  | help
  deriving Repr, DecidableEq

namespace UsageError

/-- A question after the names that may have been meant, sorted. -/
def question (similar : List String) : String :=
  match similar.mergeSort fun a b => !(b < a) with
  | [] => ""
  | [only] => " Did you mean " ++ Text.quoted only ++ "?"
  | names => " (Did you mean one of: " ++ ", ".intercalate (names.map Text.quoted) ++ "?)"

/-- The message of the error. -/
def message : UsageError → String
  | noSuchOption name similar =>
    "No such option " ++ Text.quoted name ++ "." ++ question similar
  | missingValue name => "Option " ++ Text.quoted name ++ " requires an argument."
  | unwantedValue name => "Option " ++ Text.quoted name ++ " does not take a value."
  | invalidChoice name value choices =>
    "Invalid value for " ++ Text.quoted name ++ ": " ++ Text.quoted value ++ " is not one of " ++
      ", ".intercalate (choices.map Text.quoted) ++ "."
  | missingArgument name => "Missing argument " ++ Text.quoted name ++ "."
  | extraArguments values =>
    "Got unexpected extra argument" ++ (if values.length == 1 then "" else "s") ++ " (" ++
      " ".intercalate values ++ ")"
  | missingCommand => "Missing command."
  | noSuchCommand name similar =>
    "No such command " ++ Text.quoted name ++ "." ++ question similar
  | nullCharacter => "embedded null byte"
  | nothing | help => ""

end UsageError

/-- The options that were given, each with its value if it takes one, and the arguments. -/
structure Arguments where
  options : List (String × Option String) := []
  positional : List String := []

namespace Arguments

/-- The value of the last occurrence of an option. -/
def value? (a : Arguments) (long : String) : Option String :=
  (a.options.reverse.find? (·.1 == long)).bind (·.2)

/-- The option was given. -/
def has (a : Arguments) (long : String) : Bool :=
  a.options.any (·.1 == long)

/-- Puts options before the others. -/
def addOptions (found : List (String × Option String)) (a : Arguments) : Arguments :=
  { a with options := found ++ a.options }

/-- Puts an argument before the others. -/
def addPositional (s : String) (a : Arguments) : Arguments :=
  { a with positional := s :: a.positional }

end Arguments

/-- The options in one argument, and whether the last one took the next argument as its value. -/
structure Taken where
  options : List (String × Option String)
  usedNext : Bool

/-- Completes an option named as `given`: a value is joined to it or is the next argument. -/
def takeValue (o : OptionSpec) (given : String) (joined next : Option String) :
    Except UsageError Taken :=
  match joined, next with
  | some v, _ => .ok ⟨[(o.long, some v)], false⟩
  | none, some v => .ok ⟨[(o.long, some v)], true⟩
  | none, none => .error (.missingValue given)

/-- A long option and the value joined to it, cut at the first equals sign. -/
def cutAtEquals (arg : List Char) : String × Option String :=
  match arg.dropWhile (· != '=') with
  | _ :: v => (String.ofList (arg.takeWhile (· != '=')), some (String.ofList v))
  | [] => (String.ofList arg, none)

/-- The one-letter options in an argument, after its dash. -/
def takeShort (specs : List OptionSpec) (next : Option String) :
    List Char → Except UsageError Taken
  | [] => .ok ⟨[], false⟩
  | c :: r =>
    let name := String.ofList ['-', c]
    match specs.find? (·.short == some c) with
    | none => .error (.noSuchOption name [])
    | some o =>
      if o.takesValue then
        takeValue o name (if r.isEmpty then none else some (String.ofList r)) next
      else (takeShort specs next r).map fun t => { t with options := (o.long, none) :: t.options }

/-- The option with a long name, with its value. -/
def takeLong? (specs : List OptionSpec) (name : String) (joined next : Option String) :
    Option (Except UsageError Taken) :=
  (specs.find? (·.long == name)).map fun o =>
    if o.takesValue then takeValue o name joined next
    else if joined.isSome then .error (.unwantedValue name)
    else .ok ⟨[(o.long, none)], false⟩

/-- The options in an argument that begins with a dash. -/
def takeOption (specs : List OptionSpec) (arg : String) (next : Option String) :
    Except UsageError Taken :=
  let (name, joined) := cutAtEquals arg.toList
  match takeLong? specs name joined next with
  | some taken => taken
  | none =>
    if arg.toList.take 2 == ['-', '-'] then
      .error (.noSuchOption name (suggestions name (specs.map (·.long))))
    else takeShort specs next (arg.toList.drop 1)

/-- The argument is an option. -/
def isOption (arg : String) : Bool :=
  arg.toList.head? == some '-' && 1 < arg.toList.length

/-- Reads the arguments of a command. Options may follow arguments only if they are `mixed`;
otherwise the first argument ends the options. -/
def readArguments (specs : List OptionSpec) (mixed : Bool) :
    List String → Except UsageError Arguments
  | [] => .ok {}
  | arg :: rest =>
    if arg == "--" then .ok ⟨[], rest⟩
    else if isOption arg then
      match takeOption specs arg rest.head? with
      | .error e => .error e
      | .ok taken =>
        if taken.usedNext then
          match rest with
          | _ :: rest => (readArguments specs mixed rest).map (·.addOptions taken.options)
          | [] => .ok ⟨taken.options, []⟩
        else (readArguments specs mixed rest).map (·.addOptions taken.options)
    else if mixed then (readArguments specs mixed rest).map (·.addPositional arg)
    else .ok ⟨[], arg :: rest⟩

end FieldPattern.Command

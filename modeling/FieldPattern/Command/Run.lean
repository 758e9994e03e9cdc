import FieldPattern.Command.Invocation
import FieldPattern.Command.Display
import FieldPattern.JsonLine
import FieldPattern.Library
import FieldPattern.Settings

/-!
# Running commands

A command sees a *host*: the environment, the working directory, the standard input, the files, and
a parser for the documents in them. It leaves an *outcome*: what it wrote to the two outputs, its exit
code, and the error if it broke off. Errors that the user can mend are told on the error output with
exit code 2; a text without a match gives exit code 1.
-/

namespace FieldPattern.Command

/-- What a command can see. -/
structure Host (m : Type → Type) where
  environment : String → Option String
  directory : String
  input : m String
  file : String → m FileState
  parse : Text.Feed → Except Document.Fault Value := Document.ofFeed

/-- What a command leaves. -/
structure Outcome where
  stdout : String
  stderr : String
  exit : Nat
  error : Option Error

/-- What a command reports, and the error if it broke off in its report. -/
structure Report where
  stdout : String := ""
  stderr : String := ""
  exit : Nat := 0
  error : Option Error := none

variable {m : Type → Type} [Monad m]

/-- The text to match: the argument, or else the standard input. -/
def subjectText (h : Host m) (text : Option String) : Action m String :=
  match text with
  | some s => return s
  | none => Action.perform h.input

/-- The occurrences to print: all under the global option, else the first. -/
def occurrences (x : Matcher m) (text : String) : Action m (List FieldValues) := do
  if x.options.global.truthy then x.matchAll (.str text)
  else return (← x.matchFirst (.str text)).toList

/-- One line per occurrence, or a notice that there is none. -/
def reportOccurrences (found : List FieldValues) : Report :=
  if found.isEmpty then { stderr := "No match.\n", exit := 1 }
  else { stdout := JsonLine.lines found }

/-- The markers that an option gives. -/
def markersValue (markers : Option String) : Value :=
  match markers with
  | some s => .str s
  | none => .null

/-- The options of a match command. -/
def searchOptions (markers : Option String) (global strict weak : Bool) : Value :=
  .map [(.str "global", .bool global), (.str "fieldMarkers", markersValue markers),
    (.str "strictWhitespace", .bool strict), (.str "weakParse", .bool weak)]

/-- The options of a compile command. -/
def compileOptions (markers : Option String) (strict : Bool) : Value :=
  .map [(.str "fieldMarkers", markersValue markers), (.str "strictWhitespace", .bool strict)]

/-- Shows a pattern and its fields. -/
def reportCompiled (c : Compiled) : Report :=
  let fields := if c.fields.isEmpty then "(none)" else ", ".intercalate c.fields
  { stdout := "pattern: " ++ c.pattern ++ "\nfields:  " ++ fields ++ "\n" }

/-- One pattern of a library, with its description if it has one. -/
def definitionLine (d : Definition) : Except Error String :=
  let line := "  " ++ d.name ++ ": " ++ d.expression
  if d.description.truthy then
    match d.description.text with
    | some s => .ok (line ++ "  (" ++ s ++ ")\n")
    | none => .error .unwritableNumber
  else .ok (line ++ "\n")

/-- Adds the lines of patterns to a report, up to the first that cannot be written. -/
def addLines (r : Report) : List Definition → Report
  | [] => r
  | d :: rest =>
    match definitionLine d with
    | .ok line => addLines { r with stdout := r.stdout ++ line } rest
    | .error e => { r with error := some e }

/-- The patterns of a library, by name. -/
def reportLibrary (l : Library) : Report :=
  if l.patterns.isEmpty then { stdout := "No patterns defined.\n" }
  else
    addLines { stdout := toString l.patterns.length ++ " pattern(s):\n" }
      (l.patterns.mergeSort fun a b => !(b.name < a.name))

/-- Loads the library of a command, or reports that there is none. -/
def withLibrary (h : Host m) (settings : Settings) (path : Option String)
    (use : Library → Action m Report) : Action m Report := do
  let place := (path.map Path.normal).getD settings.libraryPath
  let file ← Action.perform (h.file place)
  if !file.present then
    return { stderr := "Error: Pattern library not found at " ++ place ++ "\n", exit := 2 }
  let loading := (Library.empty place).loadWith h.parse file
  for r in loading.log do Action.record r
  MonadExcept.ofExcept loading.outcome
  use loading.library

/-- Runs a command. -/
def perform (h : Host m) (settings : Settings) : Invocation → Action m Report
  | .compile expression markers strict => do
    let x : Matcher m ← Matcher.create none (.str expression) (compileOptions markers strict)
    return reportCompiled x.compiled
  | .search expression text markers global strict weak => do
    let x : Matcher m ←
      Matcher.create none (.str expression) (searchOptions markers global strict weak)
    return reportOccurrences (← occurrences x (← subjectText h text))
  | .list path => withLibrary h settings path fun l => return reportLibrary l
  | .run name text path => withLibrary h settings path fun l => do
    let x ← l.build name
    return reportOccurrences (← occurrences x (← subjectText h text))

/-! ## Outcomes -/

/-- How log records are shown. -/
structure LogView where
  /-- The least severity that is shown. -/
  severity : Nat
  /-- Records are shown with their level and channel, not only by their message. -/
  labelled : Bool

/-- The log view of a command that runs without the settings of the whole command line. -/
def LogView.unset : LogView := ⟨30, false⟩

/-- The lines of the records that a view shows. -/
def LogView.render (v : LogView) (log : Log) : String :=
  String.join ((log.filter fun r => v.severity ≤ r.level.severity).map fun r =>
    (if v.labelled then r.line else r.message) ++ "\n")

/-- The outcome of a report, whose texts are made fit for display. -/
def Outcome.ofReport (r : Report) : Outcome :=
  ⟨Display.plain r.stdout, Display.plain r.stderr, if r.error.isSome then 1 else r.exit, r.error⟩

/-- The report of an error that the user can mend. -/
def Report.ofMessage (message : String) : Report :=
  { stderr := "Error: " ++ message ++ "\n", exit := 2 }

/-- The outcome of a refused command line. -/
def Outcome.ofUsage : UsageError → Outcome
  | .help => .ofReport {}
  | .nothing => .ofReport { exit := 2 }
  | .nullCharacter => .ofReport { error := some .nullCharacter }
  | e => .ofReport (.ofMessage e.message)

/-- The outcome of a command that broke off with an error. -/
def Outcome.ofError (e : Error) : Outcome :=
  if e.isUserError then .ofReport (.ofMessage e.message) else .ofReport { error := some e }

/-- The outcome of a command, with the records that it wrote before its own messages. -/
def Outcome.ofAction (view : LogView) (x : Except Error Report × Log) : Outcome :=
  let o : Outcome :=
    match x.1 with
    | .ok r => .ofReport r
    | .error e => .ofError e
  { o with stderr := view.render x.2 ++ o.stderr }

/-- The outcome as it is told in a record of a run: line ends of two characters are told as one. -/
def Outcome.recorded (o : Outcome) : Outcome :=
  { o with stdout := Display.joinLineEnds o.stdout, stderr := Display.joinLineEnds o.stderr }

/-- The settings of the host. -/
def Host.settings (h : Host m) : Settings :=
  Settings.ofEnvironment h.environment h.directory

/-- Runs a command that was read from arguments. -/
def runInvocation (h : Host m) (view : LogView) (read : Except UsageError Invocation) :
    m Outcome := do
  match read with
  | .error e => return .ofUsage e
  | .ok invocation => return .ofAction view (← (perform h h.settings invocation).report)

/-- The log view for the name of a level. -/
def viewOf (level : String) : Except Error LogView :=
  match levelSeverities.lookup level with
  | some severity => .ok ⟨severity, true⟩
  | none => .error (.unknownLevel level)

/-- A command that can be run: the whole command line, or one of its commands by itself. -/
inductive Entry where
  | whole
  | library
  | search
  | compile
  deriving Repr, DecidableEq

/-- Runs the whole command line. The log level is settled before the command reads its arguments. -/
def runAll (h : Host m) (args : List String) : m Outcome := do
  match selectCommand args with
  | .error e => return .ofUsage e
  | .ok s =>
    let asked := (s.options.value? levelOption.long).map Text.toUpper
    match viewOf (asked.getD h.settings.logLevel) with
    | .error e => return .ofError e
    | .ok view => runInvocation h view (readSelected s)

/-- Runs a command. One that runs by itself has no log level and shows warnings as bare messages. -/
def run (h : Host m) (entry : Entry) (args : List String) : m Outcome :=
  match entry with
  | .whole => runAll h args
  | .library => runInvocation h .unset (readLibraryCommand args)
  | .search => runInvocation h .unset (Name.search.read args)
  | .compile => runInvocation h .unset (Name.compile.read args)

end FieldPattern.Command

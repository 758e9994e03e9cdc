import FieldPattern.Document.Content
import FieldPattern.FileState
import FieldPattern.Matcher

/-!
# Pattern libraries

A pattern library holds named expressions with their options, read from a document with a mapping
`patterns`. Loading adds the entries in their order; a name that is there keeps its position and
gets the new definition. At the first entry that has no expression loading stops, and the entries
before it stay.
-/

namespace FieldPattern

/-- A named expression. -/
structure Definition where
  name : String
  expression : String
  description : Value
  options : Options

/-- The definitions loaded so far under their keys, in order, and the path that they come from. -/
structure Library where
  path : String
  table : List (String × Definition)

/-- What a load leaves: the library, the records written, and the error if it stopped early. -/
structure Loading where
  library : Library
  log : Log
  outcome : Except Error Unit

namespace Library

/-- A library without patterns. -/
def empty (path : String) : Library :=
  ⟨Path.normal path, []⟩

/-- The definitions in order. -/
def patterns (l : Library) : List Definition :=
  l.table.map (·.2)

/-- The names in order. -/
def names (l : Library) : List String :=
  l.table.map (·.1)

/-- The definition under a name. -/
def get? (l : Library) (name : String) : Option Definition :=
  (l.table.find? (·.1 == name)).map (·.2)

/-- Sets the definition under a name: one that is there is replaced in its place. -/
def put (l : Library) (name : String) (d : Definition) : Library :=
  if name ∈ l.names then
    { l with table := l.table.map fun e => if e.1 == name then (name, d) else e }
  else { l with table := l.table ++ [(name, d)] }

/-! ## Entries -/

/-- The definition in an entry of a library file. -/
def readEntry (path name : String) (entry : Value) : Action Id Definition := do
  let rejected := Error.noExpression path name
  match entry.expose with
  | .map fields =>
    match (Value.lookup? fields "expression").bind Value.text? with
    | some expression =>
      let options ← Options.resolveLogged entry
      return ⟨name, expression, (Value.lookup? fields "description").getD .null, options⟩
    | none => throw rejected
  | _ => throw rejected

/-- The definition in an entry under a key, with the name under which it goes: the text of the
key. -/
def readKeyed (path : String) (key entry : Value) : Action Id (String × Definition) := do
  match key.text with
  | some name => return (name, ← readEntry path name entry)
  | none => throw .unwritableNumber

/-- Adds entries in order up to the first one that is rejected. -/
def addEntries (l : Library) : List (Value × Value) → Loading
  | [] => ⟨l, [], .ok ()⟩
  | (key, entry) :: rest =>
    match Id.run (readKeyed l.path key entry).report with
    | (.ok (name, d), log) =>
      let next := (l.put name d).addEntries rest
      { next with log := log ++ next.log }
    | (.error e, log) => ⟨l, log, .error e⟩

/-! ## Loading -/

/-- The entries of a document: its mapping `patterns`, which may be left out. -/
def entriesOf? (data : Value) : Option (List (Value × Value)) :=
  match data.expose with
  | .map fields =>
    match (Value.lookup? fields "patterns").map Value.expose with
    | some (.map entries) => some entries
    | some _ => none
    | none => some []
  | _ => none

/-- The record of a load. -/
def loadedRecord (l : Library) : LogRecord :=
  ⟨.debug, .library,
   "Loaded " ++ toString l.patterns.length ++ " pattern(s) from " ++ l.path⟩

/-- Adds the patterns of a document's value. An empty document has none. -/
def update (l : Library) (data : Value) : Loading :=
  if !data.truthy then ⟨l, [], .ok ()⟩
  else
    match entriesOf? data with
    | none => ⟨l, [], .error (.noPatterns l.path)⟩
    | some entries =>
      let loading := l.addEntries entries
      match loading.outcome with
      | .ok _ => { loading with log := loading.log ++ [loading.library.loadedRecord] }
      | .error _ => loading

/-- The value of a library file, with a parser of documents. -/
def readFile (parse : Text.Feed → Except Document.Fault Value) (path : String) (file : FileState) :
    Except Error Value := do
  let feed ← file.read path
  match parse feed with
  | .ok data => return data
  | .error .malformed => throw (.unreadable path)
  | .error fault => throw (.document fault)

/-- Loads what stands at the library's path with a reader of files. A missing file changes
nothing. -/
def loadFrom (read : FileState → Except Error Value) (l : Library) (file : FileState) : Loading :=
  if !file.present then
    ⟨l, [⟨.debug, .library, "Pattern library " ++ l.path ++ " not found"⟩], .ok ()⟩
  else
    match read file with
    | .ok data => l.update data
    | .error e => ⟨l, [], .error e⟩

/-- Loads the document that stands at the library's path, with a parser of documents. -/
def loadWith (l : Library) (parse : Text.Feed → Except Document.Fault Value) (file : FileState) :
    Loading :=
  l.loadFrom (readFile parse l.path) file

/-- Loads the document that stands at the library's path. -/
def load (l : Library) (file : FileState) : Loading :=
  l.loadWith Document.ofFeed file

end Library

/-! ## Matchers -/

/-- Prepares the expression of a definition. -/
def Definition.build {m : Type → Type} [Monad m] (d : Definition) : Action m (Matcher m) :=
  Matcher.create none (.str d.expression) d.options.toValue

/-- Prepares the pattern with a name. -/
def Library.build {m : Type → Type} [Monad m] (l : Library) (name : String) :
    Action m (Matcher m) := do
  match l.get? name with
  | some d => d.build
  | none => throw (.unknownName l.path name)

end FieldPattern

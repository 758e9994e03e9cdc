import FieldPattern.FileState

/-!
# File trees

A *file tree* is what stands below a working directory and around it. A path is followed name by
name, and each name is looked up in a directory: a name may lead back, a directory may be missing on
the way, and names have a greatest length.

Outside of the working directory the usual directories of a system are there, and the null device,
an empty file.
-/

namespace FieldPattern

/-- A place: names that lead to it from the root, or from the directory some levels above the
working directory. -/
structure Place where
  above : Option Nat
  names : List (List Char)
  deriving DecidableEq

namespace Place

/-- The working directory. -/
def here : Place := ⟨some 0, []⟩

/-- The root of all files. -/
def root : Place := ⟨none, []⟩

/-- Where a name leads in the directory at a place. -/
def enter (p : Place) (name : List Char) : Place :=
  if name == ['.', '.'] then
    match p.names, p.above with
    | [], some n => ⟨some (n + 1), []⟩
    | names, _ => { p with names := names.dropLast }
  else { p with names := p.names ++ [name] }

/-- The place from which a path starts. -/
def start (path : String) : Place :=
  if Path.isAbsolute path then root else here

end Place

/-- The directories and files around a working directory. -/
structure FileTree where
  directories : List Place
  files : List (Place × ByteArray)

/-- Where a path leads. -/
inductive Arrival where
  | place (p : Place)
  /-- A directory on the way is missing. -/
  | missing
  /-- A file stands where a directory is needed. -/
  | blocked
  | tooLong

namespace FileTree

/-- The usual directories below the root. -/
def usualDirectories : List String :=
  ["bin", "boot", "dev", "etc", "home", "lib", "media", "mnt", "opt", "proc", "root", "run", "sbin",
   "srv", "sys", "tmp", "usr", "var"]

/-- An empty working directory. -/
def empty : FileTree where
  directories := usualDirectories.map fun d => ⟨none, [d.toList]⟩
  files := [(⟨none, ["dev".toList, "null".toList]⟩, ByteArray.empty)]

/-- What stands at a place. -/
def stateAt (t : FileTree) (p : Place) : FileState :=
  match t.files.find? fun f => f.1 == p with
  | some f => .file f.2
  | none => if p.names.isEmpty || t.directories.contains p then .directory else .absent

/-- The length of a text in bytes. -/
def byteLength (s : List Char) : Nat :=
  (String.ofList s).utf8ByteSize

/-- The greatest length of a name. -/
def nameLimit : Nat := 255

/-- The length that no path has. -/
def pathLimit : Nat := 4096

/-- Follows names from a place. -/
def follow (t : FileTree) (p : Place) : List (List Char) → Arrival
  | [] => .place p
  | name :: rest =>
    match t.stateAt p with
    | .directory =>
      if nameLimit < byteLength name then .tooLong else t.follow (p.enter name) rest
    | .absent => .missing
    | _ => .blocked

/-- Follows a path. The empty path leads nowhere. -/
def reach (t : FileTree) (path : String) : Arrival :=
  if path.isEmpty then .missing
  else if pathLimit ≤ path.utf8ByteSize then .tooLong
  else t.follow (Place.start path) (Path.names path.toList)

/-- A path with a null character leads nowhere. -/
def hasNull (path : String) : Bool :=
  path.toList.contains '\x00'

/-- What stands at a path, seen from the working directory `directory`. -/
def lookup (t : FileTree) (directory path : String) : FileState :=
  let here := Path.names directory.toList
  let there := Path.names path.toList
  let inside := Path.isAbsolute path == Path.isAbsolute directory && here.isPrefixOf there
  if hasNull path then .absent
  else
    match if inside then t.follow Place.here (there.drop here.length) else t.reach path with
    | .place p => t.stateAt p
    | .missing | .blocked => .absent
    | .tooLong => .tooLong

/-! ## Changes -/

/-- A tree with a directory at a place. -/
def addDirectory (t : FileTree) (p : Place) : FileTree :=
  { t with directories := p :: t.directories }

/-- A tree with a file at a place. -/
def setFile (t : FileTree) (p : Place) (bytes : ByteArray) : FileTree :=
  { t with files := (p, bytes) :: t.files.filter (·.1 != p) }

/-- A tree without the file at a place. -/
def dropFile (t : FileTree) (p : Place) : FileTree :=
  { t with files := t.files.filter (·.1 != p) }

/-- Makes the directories that names lead through from a place; `walked` are the names so far. -/
def makeAlong (t : FileTree) (root : List Char) (walked : List (List Char)) (p : Place) :
    List (List Char) → Except Error FileTree
  | [] => .ok t
  | name :: rest =>
    let q := p.enter name
    let walked := walked ++ [name]
    let path := String.ofList (Path.render root walked)
    if nameLimit < byteLength name then .error (.nameTooLong path)
    else
      match t.stateAt q with
      | .directory => t.makeAlong root walked q rest
      | .absent => (t.addDirectory q).makeAlong root walked q rest
      | _ => .error (.occupied path)

/-- Makes a directory and those on the way to it. -/
def makeDirectory (t : FileTree) (path : String) : Except Error FileTree :=
  if hasNull path then .error .nullCharacter
  else if path.isEmpty then .error (.missing path)
  else if pathLimit ≤ path.utf8ByteSize then .error (.nameTooLong path)
  else t.makeAlong (Path.root path.toList) [] (Place.start path) (Path.names path.toList)

/-- The place that a path leads to, or the error of a file operation on it. -/
def locate (t : FileTree) (path : String) : Except Error Place :=
  if hasNull path then .error .nullCharacter
  else
    match t.reach path with
    | .place p => .ok p
    | .missing => .error (.missing path)
    | .blocked => .error (.notDirectory path)
    | .tooLong => .error (.nameTooLong path)

/-- Writes a file, and makes the directories on the way to it. -/
def write (t : FileTree) (path : String) (bytes : ByteArray) : Except Error FileTree := do
  let parent := Path.parent path
  let t ← if parent.isEmpty then .ok t else t.makeDirectory parent
  let p ← t.locate path
  match t.stateAt p with
  | .directory => throw (.directory path)
  | _ => return t.setFile p bytes

/-- Removes a file. -/
def remove (t : FileTree) (path : String) : Except Error FileTree := do
  let p ← t.locate path
  match t.stateAt p with
  | .file _ => return t.dropFile p
  | .directory => throw (.directory path)
  | _ => throw (.missing path)

/-- The tree after writing texts to an empty working directory in turn. -/
def ofTexts (files : List (String × String)) : Except Error FileTree :=
  files.foldlM (fun t f => t.write f.1 f.2.toUTF8) empty

end FileTree

end FieldPattern

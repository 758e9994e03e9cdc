/-!
# Paths

A path is kept in its normal form: repeated slashes and single dots do not count, two dots stay,
and the empty path is the single dot. Two slashes at the start are a root of their own; three or
more are the same as one.
-/

namespace FieldPattern.Path

/-- The parts of a text between slashes. -/
def split (s : List Char) : List (List Char) :=
  s.splitOn '/'

/-- The names in a path, without those that stand for the same directory. -/
def names (path : List Char) : List (List Char) :=
  (split path).filter fun n => !n.isEmpty && n != ['.']

/-- The root that a path starts from, if it starts from one. -/
def root (path : List Char) : List Char :=
  let slashes := (path.takeWhile (· == '/')).length
  if slashes == 0 then [] else if slashes == 2 then ['/', '/'] else ['/']

/-- The text of a root and names. -/
def render (root : List Char) (names : List (List Char)) : List Char :=
  match root, names with
  | [], [] => ['.']
  | _, _ => root ++ ['/'].intercalate names

/-- The normal form of a path. -/
def normal (path : String) : String :=
  String.ofList (render (root path.toList) (names path.toList))

/-- The path of a name inside a directory. -/
def child (directory name : String) : String :=
  String.ofList (render (root directory.toList) (names directory.toList ++ names name.toList))

/-- The path starts from a root. -/
def isAbsolute (path : String) : Bool :=
  path.toList.head? == some '/'

/-- The text before the last slash. -/
def parent (path : String) : String :=
  String.ofList ((path.toList.reverse.dropWhile (· != '/')).drop 1).reverse

end FieldPattern.Path

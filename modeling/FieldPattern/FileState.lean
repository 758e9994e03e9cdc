import FieldPattern.Error
import FieldPattern.Path
import FieldPattern.Text.Feed

/-!
# Files

What can stand at a path: nothing, a directory, or a file with its bytes; some paths are too long to
ask for.
-/

namespace FieldPattern

/-- What stands at a path. -/
inductive FileState where
  | absent
  | directory
  | file (bytes : ByteArray)
  /-- The path, or a name in it, is longer than paths can be. -/
  | tooLong

namespace FileState

/-- Something stands at the path, as far as one can ask. -/
def present : FileState → Bool
  | absent => false
  | _ => true

/-- The text at a path, piece by piece. -/
def read (path : String) : FileState → Except Error Text.Feed
  | absent => .error (.missing path)
  | directory => .error (.directory path)
  | tooLong => .error (.nameTooLong path)
  | file bytes => .ok (Text.Feed.ofBytes bytes)

end FileState

end FieldPattern

import FieldPattern.Document.Fault
import FieldPattern.Text.Feed

/-!
# Sources

A document is read piece by piece, and only as far as its reader needs it. The characters of every
piece are checked when it is read. A *source* is what can be read: a text, and the fault that a
reader meets when it looks further. The first two pieces are read before anything else.
-/

namespace FieldPattern.Document

/-- The characters that a document may hold: no controls but tab and line ends. -/
def isAllowed (c : Char) : Bool :=
  let n := c.toNat
  n == 0x09 || n == 0x0A || n == 0x0D || (0x20 ≤ n && n ≤ 0x7E) || n == 0x85 ||
    (0xA0 ≤ n && n ≤ 0xD7FF) || (0xE000 ≤ n && n ≤ 0xFFFD) || 0x10000 ≤ n

/-- A text that can be read, and the fault behind it. -/
structure Source where
  text : List Char
  beyond : Option Fault := none

namespace Source

/-- The number of pieces that are read at first. -/
def leadingPieces : Nat := 2

/-- The source of a feed. -/
def ofFeed (f : Text.Feed) : Except Fault Source :=
  let (first, later) := f.pieces.splitAt leadingPieces
  let readable := later.takeWhile (·.all isAllowed)
  let failure := f.error.map Fault.undecodable
  if first.length < leadingPieces && f.error.isSome then .error (failure.getD .malformed)
  else if !first.all (·.all isAllowed) then .error .malformed
  else
    .ok {
      text := first.flatten ++ readable.flatten
      beyond := if readable.length < later.length then some .malformed else failure }

end Source

end FieldPattern.Document

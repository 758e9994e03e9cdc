import FieldPattern.Document.Source

/-!
# Cursors

A cursor is a place in a document: the text that remains, the number of characters before it, and
the line and column. A byte order mark takes no column. *Reading* is a computation on a cursor
that may stop with a fault. It stops with the fault behind the text when it looks further than the
text goes. To move past a character is to look at the one after it.
-/

namespace FieldPattern.Document

/-- The character ends a line. -/
def isBreak (c : Char) : Bool :=
  c == '\n' || c.toNat == 0x85 || c.toNat == 0x2028 || c.toNat == 0x2029

/-- A space or a tab. -/
def isSpaceOrTab (c : Char) : Bool :=
  c == ' ' || c == '\t'

/-- Nothing follows on the line. -/
def endsLine : Option Char → Bool
  | none => true
  | some c => isBreak c

/-- A space follows, or nothing on the line. -/
def endsItem (c : Option Char) : Bool :=
  endsLine c || c == some ' '

/-- A space or tab follows, or nothing on the line. -/
def endsWord (c : Option Char) : Bool :=
  endsItem c || c == some '\t'

/-- A character of a name of an anchor, a handle or a directive. -/
def isNameChar (c : Char) : Bool :=
  ('0' ≤ c && c ≤ '9') || ('A' ≤ c && c ≤ 'Z') || ('a' ≤ c && c ≤ 'z') || c == '-' || c == '_'

/-- A place in a document. -/
structure Cursor where
  rest : List Char
  /-- The fault behind the text. -/
  beyond : Option Fault
  /-- The number of characters of the whole text. -/
  total : Nat
  index : Nat := 0
  line : Nat := 0
  column : Nat := 0

namespace Cursor

/-- The place before the first character. -/
def start (s : Source) : Cursor :=
  { rest := s.text, beyond := s.beyond, total := s.text.length }

/-- One more than the number of characters that remain. -/
def bound (c : Cursor) : Nat :=
  c.total - c.index + 1

/-- The place after the next character. -/
def next (c : Cursor) : Cursor :=
  match c.rest with
  | [] => c
  | d :: r =>
    if isBreak d then { c with rest := r, index := c.index + 1, line := c.line + 1, column := 0 }
    else
      let width := if d.toNat == 0xFEFF then 0 else 1
      { c with rest := r, index := c.index + 1, column := c.column + width }

/-- The place some characters further on. -/
def forward (c : Cursor) : Nat → Cursor
  | 0 => c
  | n + 1 => c.next.forward n

end Cursor

/-- A computation on a cursor. -/
abbrev Reading := StateT Cursor (Except Fault)

namespace Reading

/-- Stops if the text ends before a number of characters and a fault is behind it. -/
def need (n : Nat) : Reading Unit := do
  let c ← get
  match c.beyond with
  | some fault => if (c.rest.take n).length < n then throw fault
  | none => return ()

/-- The next characters up to a number: all that are there, if the document ends before. -/
def look (n : Nat) : Reading (List Char) := do
  need n
  return (← get).rest.take n

/-- The character some places ahead, if the document goes on that far. -/
def ahead (n : Nat) : Reading (Option Char) := do
  need (n + 1)
  return (← get).rest[n]?

/-- The next character, if there is one. -/
def peek : Reading (Option Char) :=
  ahead 0

/-- The longest run of characters with a property, which the next one ends. -/
def lookWhile (p : Char → Bool) : Reading (List Char) := do
  let found := (← get).rest.takeWhile p
  need (found.length + 1)
  return found

/-- Moves on by some characters. -/
def forward (n : Nat) : Reading Unit := do
  need (n + 1)
  modify (·.forward n)

/-- Reads the longest run of characters with a property. -/
def takeWhile (p : Char → Bool) : Reading (List Char) := do
  let found ← lookWhile p
  forward found.length
  return found

/-- One more than the number of characters that remain. -/
def bound : Reading Nat := do
  return (← get).bound

/-- Moves past a run of characters with a property. -/
def skipWhile (p : Char → Bool) : Reading Unit := do
  let _ ← takeWhile p

/-- Three characters that separate documents follow, if they are at the start of a line. -/
def atSeparator : Reading Bool := do
  let mark ← look 3
  if mark == ['-', '-', '-'] || mark == ['.', '.', '.'] then return endsWord (← ahead 3)
  else return false

/-- Stops unless a condition holds. -/
def require (b : Bool) : Reading Unit :=
  if b then return () else throw .malformed

/-- Reads a line end, if one follows. All kinds count as a line feed but the line and paragraph
separators, which stay. -/
def lineBreak : Reading (List Char) := do
  match ← peek with
  | some c =>
    if isBreak c then
      forward 1
      return if c.toNat == 0x2028 || c.toNat == 0x2029 then [c] else ['\n']
    else return []
  | none => return []

/-- Moves past spaces and a comment to the end of the line, where nothing else may stand. -/
def restOfLine : Reading Unit := do
  skipWhile (· == ' ')
  if (← peek) == some '#' then skipWhile (!isBreak ·)
  require (endsLine (← peek))
  let _ ← lineBreak

/-- A number spelled by exactly `n` hexadecimal digits, which follow. -/
def hexNumber (n : Nat) : Reading Nat := do
  let digits := ((← get).rest.take n).takeWhile fun c => (Text.hexValue? c).isSome
  need (min (digits.length + 1) n)
  match Text.hexNumber? digits with
  | some value => do
    require (digits.length == n)
    return value
  | none => throw .malformed

end Reading

end FieldPattern.Document

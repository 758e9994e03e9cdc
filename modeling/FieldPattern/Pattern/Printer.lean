import FieldPattern.Pattern.Atom

/-!
# The text of a pattern

Patterns are written in the usual notation of regular expressions. A character that could be read as
anything but itself is written with a backslash before it.
-/

namespace FieldPattern

/-- The characters that are written with a backslash: brackets, repetition signs, anchors, the
signs of character sets and comments, and the blanks of ASCII. -/
def specialChars : List Char :=
  ['(', ')', '[', ']', '\x7b', '\x7d', '?', '*', '+', '-', '|', '^', '$', '\\', '.', '&', '~', '#',
   ' ', '\t', '\n', '\r', '\x0b', '\x0c']

/-- The character is written with a backslash. -/
def isSpecial (c : Char) : Bool :=
  specialChars.contains c

/-- A character that stands for itself. -/
def escapeChar (c : Char) : List Char :=
  if isSpecial c then ['\\', c] else [c]

/-- The text of an atom. -/
def Atom.print : Atom → List Char
  | .literal c => escapeChar c
  | .blanks => "\\s+".toList
  | .word => "(\\w+)".toList
  | .shortText => "(.*?)".toList
  | .longText => "(.*)".toList

namespace Pattern

/-- The text of a pattern. -/
def print (p : Pattern) : List Char :=
  p.flatMap Atom.print

/-- The pattern text of a literal text. -/
def escape (strict : Bool) (s : List Char) : List Char :=
  print (ofLiteral strict s)

/-- The pattern text that finds one field between markers. -/
def fieldText (left right : List Char) : List Char :=
  escape true left ++ "(\\w+)(\\*?)".toList ++ escape true right

end Pattern

end FieldPattern

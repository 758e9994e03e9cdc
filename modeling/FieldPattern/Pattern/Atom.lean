import FieldPattern.Text.Blank

/-!
# Patterns

A pattern is a list of atoms: fixed characters, elastic white space, and three kinds of captures. It
is the part of the language of regular expressions that field expressions need.
-/

namespace FieldPattern

/-- One step of a pattern. -/
inductive Atom where
  /-- This character. -/
  | literal (c : Char)
  /-- One or more blanks, as many as possible. -/
  | blanks
  /-- Captures one or more word characters, as many as possible. -/
  | word
  /-- Captures any text within a line, as little as possible. -/
  | shortText
  /-- Captures any text within a line, as much as possible. -/
  | longText
  deriving Repr, DecidableEq

/-- A pattern. -/
abbrev Pattern := List Atom

/-- The atom captures what it matches. -/
def Atom.isCapture : Atom → Bool
  | .literal _ | .blanks => false
  | .word | .shortText | .longText => true

namespace Pattern

/-- The pattern of a text in which every run of blanks is elastic. -/
def elastic : List Char → Pattern
  | [] => []
  | c :: r =>
    if Text.isBlank c then
      if r.head?.any Text.isBlank then elastic r else .blanks :: elastic r
    else .literal c :: elastic r

/-- The pattern of a text: each character itself, or with elastic white space. -/
def ofLiteral (strict : Bool) (s : List Char) : Pattern :=
  if strict then s.map .literal else elastic s

end Pattern

end FieldPattern

import FieldPattern.Expression.Layout
import FieldPattern.Text.Quoted

/-!
# Field tokens

A token is a field together with its place in the expression: the offset and length of its text,
markers included.
-/

namespace FieldPattern

/-- A field occurrence in an expression. -/
structure Token where
  name : List Char
  start : Nat
  length : Nat
  multiplicity : Multiplicity
  deriving Repr, DecidableEq

namespace Token

/-- The offset just past the token. -/
def stop (t : Token) : Nat :=
  t.start + t.length

/-- The token captures any text. -/
def isMultiWord (t : Token) : Bool :=
  t.multiplicity == .multiWord

/-- The token as a message shows it. -/
def describe (t : Token) : String :=
  "FieldToken(" ++ Text.quoted (String.ofList t.name) ++ ", " ++ t.multiplicity.name ++
    ", pos=" ++ toString t.start ++ ")"

/-- The tokens of segments of which the first begins at an offset. -/
def ofSegments (left right : List Char) : (offset : Nat) → List Segment → List Token
  | _, [] => []
  | offset, s :: rest =>
    let start := offset + s.gap.length
    let length := (s.field.raw left right).length
    ⟨s.field.name, start, length, s.field.multiplicity⟩ ::
      ofSegments left right (start + length) rest

end Token

/-- The tokens of an expression in order. -/
def Layout.tokens (left right : List Char) (l : Layout) : List Token :=
  Token.ofSegments left right 0 l.segments

/-- The tokens of an expression that is given as text. -/
def Token.ofText (left right expression : List Char) : List Token :=
  (Layout.ofText left right expression).tokens left right

end FieldPattern

import FieldPattern.Expression.Token
import FieldPattern.Pattern.Printer
import FieldPattern.Markers

/-!
# Compiled expressions

An expression becomes a pattern with one capture per field, and the list of its field names.
Literal text and markers match themselves, with elastic white space unless it is to match exactly.
A field of one word captures a word; a field of any text captures as little as possible, except
when it ends the expression and no right marker follows it, where it takes the rest of the line.

Captures belong to names by position, so a name that occurs twice is listed twice.
-/

namespace FieldPattern

/-- A pattern and the names of its captures, in order. -/
structure Compiled where
  atoms : Pattern
  fields : List String

/-- The capture of a field; `ends` tells that the match may run on to the end of the line. -/
def Multiplicity.capture (ends : Bool) : Multiplicity → Atom
  | .singleWord => .word
  | .multiWord => if ends then .longText else .shortText

namespace Compiled

/-- The text of the pattern. -/
def pattern (c : Compiled) : String :=
  String.ofList c.atoms.print

/-- The pattern of a field between its markers. -/
def fieldAtoms (strict : Bool) (left right : List Char) (ends : Bool) (f : Field) : Pattern :=
  Pattern.ofLiteral strict left ++ f.multiplicity.capture ends :: Pattern.ofLiteral strict right

/-- The pattern of the segments of a layout and the text after them. -/
def layoutAtoms (strict : Bool) (left right remainder : List Char) : List Segment → Pattern
  | [] => Pattern.ofLiteral strict remainder
  | s :: rest =>
    let ends := rest.isEmpty && remainder.isEmpty && right.isEmpty
    Pattern.ofLiteral strict s.gap ++ fieldAtoms strict left right ends s.field ++
      layoutAtoms strict left right remainder rest

/-- Compiles a layout. -/
def ofLayout (strict : Bool) (left right : List Char) (l : Layout) : Compiled :=
  ⟨layoutAtoms strict left right l.remainder l.segments,
   l.fields.map fun f => String.ofList f.name⟩

/-- Compiles an expression. -/
def ofText (strict : Bool) (left right expression : List Char) : Compiled :=
  ofLayout strict left right (Layout.ofText left right expression)

/-- The record of a compilation. -/
def logRecord (expression : String) (c : Compiled) : LogRecord :=
  ⟨.debug, .compiler,
   "Compiled expression " ++ Text.quoted expression ++ " to " ++ Text.quoted c.pattern ++
     " with fields [" ++ ", ".intercalate (c.fields.map Text.quoted) ++ "]"⟩

end Compiled

/-- Both markers as texts; the left one is checked first. -/
def Markers.texts (m : Markers) : Except Error (List Char × List Char) :=
  match m.left.text?, m.right.text? with
  | some left, some right => .ok (left.toList, right.toList)
  | none, _ => .error (.notLiteral m.left.kind)
  | some _, none => .error (.notLiteral m.right.kind)

/-- The text of an expression, together with the texts of the markers, which are checked first. -/
def expressionTexts (expression : Value) (markers : Markers) :
    Except Error (String × List Char × List Char) := do
  let (left, right) ← markers.texts
  match expression.text? with
  | some s => return (s, left, right)
  | none => throw (.notText expression.kind)

/-- Compiles an expression given as a value, writing the record of it. -/
def Compiled.ofValue {m : Type → Type} [Monad m] (expression : Value) (markers : Markers)
    (strict : Bool) : Action m (String × Compiled) := do
  let (text, left, right) ← MonadExcept.ofExcept (expressionTexts expression markers)
  let compiled := Compiled.ofText strict left right text.toList
  Action.record (compiled.logRecord text)
  return (text, compiled)

/-- The pattern text of a literal text given as a value. Exact matching and elastic matching differ
in the error for a value that is no text. -/
def escapeValue (strict : Bool) (v : Value) : Except Error String :=
  match v.text? with
  | some s => .ok (String.ofList (Pattern.escape strict s.toList))
  | none => .error (if strict then .notLiteral v.kind else .notText v.kind)

end FieldPattern

/-!
# Lexemes

A document is read as a sequence of lexemes: the marks that open, divide and close collections, the
properties of nodes, and scalars. Indentation has become marks as well.
-/

namespace FieldPattern.Document

/-- A directive line. -/
inductive Directive where
  | version (major : Nat)
  | tag (handle lead : List Char)
  | other
  deriving Repr, DecidableEq

/-- A lexeme of a document. -/
inductive Lexeme where
  | directive (d : Directive)
  | documentStart
  | documentEnd
  /-- The indentation of a block sequence begins. -/
  | sequenceIndent
  /-- The indentation of a block mapping begins. -/
  | mappingIndent
  /-- The innermost indentation ends. -/
  | dedent
  | openSequence
  | closeSequence
  | openMapping
  | closeMapping
  /-- The dash of a block sequence. -/
  | entry
  /-- The comma of a flow collection. -/
  | comma
  | key
  | value
  | alias (name : List Char)
  | anchor (name : List Char)
  /-- A tag: a handle, if it is written with one, and the text after it. -/
  | tag (handle : Option (List Char)) (suffix : List Char)
  | scalar (text : List Char) (plain : Bool)
  deriving Repr, DecidableEq

end FieldPattern.Document

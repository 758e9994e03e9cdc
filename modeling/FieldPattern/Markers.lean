import FieldPattern.Error

/-!
# Field markers

Field markers are the texts on the two sides of a field name in an expression, such as `<` and `>`
in `<name>: <value>`. They can be given in several shapes, and every shape resolves to one pair:

* nothing, or anything empty: no markers, so every word is a field;
* a text: its two halves, where an odd middle character belongs to both sides;
* a sequence of two: the two sides;
* a mapping or record with `left` and `right`: these two, an absent one counting as empty.

Every other shape resolves to no markers, with a warning.
-/

namespace FieldPattern

/-- The texts around a field name. Markers that are given as such are kept as they are, even if a
side is no text. -/
structure Markers where
  left : Value
  right : Value

namespace Markers

/-- The markers with these two texts. -/
def ofTexts (left right : String) : Markers :=
  ⟨.str left, .str right⟩

/-- No markers: every word is a field. -/
def bare : Markers := ofTexts "" ""

/-- There is no marker on either side. -/
def isBare (m : Markers) : Bool :=
  !m.left.truthy && !m.right.truthy

/-- The halves of a text; the middle character of an odd one belongs to both. -/
def ofText (s : String) : Markers :=
  let n := s.toList.length
  ofTexts (String.ofList (s.toList.take (n / 2 + n % 2))) (String.ofList (s.toList.drop (n / 2)))

/-- The text of one side; nothing counts as empty. -/
def side : Value → Except Error String
  | .null => .ok ""
  | v => match v.text with
    | some s => .ok s
    | none => .error .unwritableNumber

/-- The specification is a pair of markers already, which resolving keeps. -/
def isSettled : Value → Bool
  | .markers .. => true
  | _ => false

/-- The markers with the texts of two values. -/
def ofSides (left right : Value) : Except Error Markers := do
  return ofTexts (← side left) (← side right)

/-- What a marker specification denotes. -/
def resolve (spec : Value) : Except Error Markers :=
  if !spec.truthy then .ok bare
  else
    match spec.expose with
    | .markers left right => .ok ⟨left, right⟩
    | .str s => .ok (ofText s)
    | .list [l, r] | .tuple [l, r] => ofSides l r
    | .map entries =>
      ofSides ((Value.lookup? entries "left").getD .null)
        ((Value.lookup? entries "right").getD .null)
    | .record attributes =>
      ofSides ((Value.attribute? attributes "left").getD .null)
        ((Value.attribute? attributes "right").getD .null)
    | _ => .ok bare

/-- The specification has one of the shapes that denote markers. -/
def isRecognized (spec : Value) : Bool :=
  match spec.expose with
  | .markers .. | .str _ | .map _ => true
  | .list items | .tuple items => items.length == 2
  | .record attributes =>
    (Value.attribute? attributes "left").isSome || (Value.attribute? attributes "right").isSome
  | _ => !spec.truthy

/-- The warning about a specification whose shape denotes no markers. -/
def warning? (spec : Value) : Option LogRecord :=
  if !spec.truthy || isRecognized spec then none
  else
    let shown := spec.quoted?.getD ""
    let text :=
      match spec.expose with
      | .list _ | .tuple _ =>
        "Field markers " ++ shown ++ " must have exactly two elements, using bare word fields"
      | _ => "Unrecognized field markers " ++ shown ++ ", using bare word fields"
    some ⟨.warning, .markers, text⟩

/-- Resolves a specification, writing the warning that it deserves. -/
def resolveLogged {m : Type → Type} [Monad m] (spec : Value) : Action m Markers := do
  if let some w := warning? spec then Action.record w
  match resolve spec with
  | .ok markers => return markers
  | .error e => throw e

end Markers

end FieldPattern

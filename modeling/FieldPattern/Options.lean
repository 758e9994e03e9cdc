import FieldPattern.Markers

/-!
# Options

A matcher has four options: whether matching reports every occurrence, the field markers, whether
white space of the expression is matched exactly, and whether captured texts are weakly parsed. They
are given as a mapping, as a text of flags in which `g` asks for every occurrence, or as settled
options; every other shape leaves the defaults.
-/

namespace FieldPattern

/-- The settled options of a matcher. Flags of options that were given as settled are kept as they
are; they act by their truth. -/
structure Options where
  global : Value
  markers : Markers
  strict : Value
  weak : Value

namespace Options

/-- First occurrence only, no markers, elastic white space, no weak parsing. -/
def default : Options := ⟨.bool false, .bare, .bool false, .bool false⟩

/-- The spellings of an option as a key, the preferred one first. -/
structure Key where
  first : String
  second : String

def globalKey : Key := ⟨"global", "global_"⟩
def markersKey : Key := ⟨"fieldMarkers", "field_markers"⟩
def strictKey : Key := ⟨"strictWhitespace", "strict_whitespace"⟩
def weakKey : Key := ⟨"weakParse", "weak_parse"⟩

/-- The value under a key. A present first spelling decides, even if its value is nothing. -/
def Key.value (key : Key) (entries : List (Value × Value)) : Value :=
  ((Value.lookup? entries key.first).orElse fun _ => Value.lookup? entries key.second).getD .null

/-- A flag of a mapping: the truth of its value. -/
def Key.flag (key : Key) (entries : List (Value × Value)) : Value :=
  .bool (key.value entries).truthy

/-- The part of an options value that specifies markers. -/
def markerSpec (spec : Value) : Value :=
  match spec.expose with
  | .map entries => markersKey.value entries
  | .options _ left right _ _ => .markers left right
  | _ => .markers (.str "") (.str "")

/-- The options of a mapping. -/
def ofEntries (entries : List (Value × Value)) : Except Error Options := do
  let markers ← Markers.resolve (markersKey.value entries)
  return ⟨globalKey.flag entries, markers, strictKey.flag entries, weakKey.flag entries⟩

/-- The options of a text of flags. -/
def ofFlags (flags : String) : Options :=
  { default with global := .bool (flags.toList.contains 'g') }

/-- What an options value denotes. -/
def resolve (spec : Value) : Except Error Options :=
  match spec.expose with
  | .options global left right strict weak => .ok ⟨global, ⟨left, right⟩, strict, weak⟩
  | .str flags => .ok (ofFlags flags)
  | .map entries => ofEntries entries
  | _ => .ok default

/-- The options are settled already, and resolving keeps them. -/
def isSettled : Value → Bool
  | .options .. => true
  | _ => false

/-- The options as a settled value. -/
def toValue (o : Options) : Value :=
  .options o.global o.markers.left o.markers.right o.strict o.weak

/-- Settles flags as they are, together with a specification of markers. -/
def settle {m : Type → Type} [Monad m] (global markerSpec strict weak : Value) :
    Action m Options := do
  return ⟨global, ← Markers.resolveLogged markerSpec, strict, weak⟩

/-- Resolves an options value, writing the warning that its markers deserve. -/
def resolveLogged {m : Type → Type} [Monad m] (spec : Value) : Action m Options := do
  if let some w := Markers.warning? (markerSpec spec) then Action.record w
  match resolve spec with
  | .ok options => return options
  | .error e => throw e

end Options

end FieldPattern

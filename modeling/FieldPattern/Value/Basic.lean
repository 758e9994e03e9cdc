import FieldPattern.Calendar
import FieldPattern.Decimal.Binary

/-!
# Values

Settings of a matcher and entries of a pattern library are dynamic values: scalars, sequences, sets,
ordered mappings, plain records of attributes, and markers or options that were settled before.

The collections of a document may be shared and may even contain themselves. They are kept in a
*pool*, where each one refers to the others by number. Such a value is looked at by *exposing* its
outermost layer; the layers below it come out as values of the same pool.
-/

namespace FieldPattern

/-- A value of a setting or of a document. -/
inductive Value where
  | null
  | bool (b : Bool)
  | int (n : Int)
  | float (x : Float)
  | str (s : String)
  | bytes (bs : List UInt8)
  | list (items : List Value)
  | tuple (items : List Value)
  /-- A mapping, its entries in the order in which their keys first occurred. -/
  | map (entries : List (Value × Value))
  /-- A set of scalars, in the order in which it is shown. -/
  | set (items : List Value)
  | date (d : Date)
  | moment (m : Moment)
  /-- A record that is no mapping. -/
  | record (attributes : List (String × Value))
  /-- Field markers that need no resolving. -/
  | markers (left right : Value)
  /-- Options that need no resolving. -/
  | options (global left right strict weak : Value)
  /-- Inside a pool, the collection of that pool with a number. -/
  | link (number : Nat)
  /-- The collection of a pool with a number. -/
  | pooled (pool : Array Value) (number : Nat)
  deriving Inhabited

namespace Value

/-- A part of a collection of a pool, seen from outside. -/
def outside (pool : Array Value) : Value → Value
  | link n => pooled pool n
  | v => v

/-- The value with its outermost layer in the open. -/
def expose : Value → Value
  | pooled pool n =>
    match pool[n]? with
    | some (list items) => list (items.map (outside pool))
    | some (tuple items) => tuple (items.map (outside pool))
    | some (map entries) => map (entries.map fun e => (outside pool e.1, outside pool e.2))
    | some v => v
    | none => null
  | v => v

/-- Whether a value counts as true: not nothing, zero or empty. -/
def truthy (v : Value) : Bool :=
  match v.expose with
  | null => false
  | bool b => b
  | int n => n != 0
  | float x => x != 0.0
  | str s => !s.isEmpty
  | bytes bs => !bs.isEmpty
  | list items | tuple items | set items => !items.isEmpty
  | map entries => !entries.isEmpty
  | _ => true

/-- The name of a value's kind in messages. -/
def kind (v : Value) : String :=
  match v.expose with
  | null => "NoneType"
  | bool _ => "bool"
  | int _ => "int"
  | float _ => "float"
  | str _ => "str"
  | bytes _ => "bytes"
  | list _ => "list"
  | tuple _ => "tuple"
  | map _ => "dict"
  | set _ => "set"
  | date _ => "datetime.date"
  | moment _ => "datetime.datetime"
  | record _ => "types.SimpleNamespace"
  | markers .. => "FieldMarkers"
  | options .. => "SimplexOptions"
  | link _ | pooled .. => "object"

/-- The text, if the value is one. -/
def text? : Value → Option String
  | str s => some s
  | _ => none

/-- The whole number that a key stands for: truth values are 0 and 1, and a double with no
fraction is the integer it equals. -/
def wholeNumber? : Value → Option Int
  | bool b => some (if b then 1 else 0)
  | int n => some n
  | float x =>
    match Decimal.classify x with
    | .finite b => b.toInt?
    | _ => none
  | _ => none

/-- Two scalars are the same key of a mapping. Numbers agree by value across kinds; a not-a-number
is the same key as itself. -/
def sameKey (a b : Value) : Bool :=
  match a, b with
  | str s, str t => s == t
  | null, null => true
  | bytes s, bytes t => s == t
  | date d, date e => d == e
  | moment m, moment n => m.same n
  | a, b =>
    match a.wholeNumber?, b.wholeNumber? with
    | some m, some n => m == n
    | none, none =>
      match a, b with
      | float x, float y => x == y || (x.isNaN && y.isNaN)
      | _, _ => false
    | _, _ => false

/-- The value under a key of an entry list. -/
def lookup? (entries : List (Value × Value)) (key : String) : Option Value :=
  (entries.find? fun e => e.1.sameKey (str key)).map (·.2)

/-- The attribute of a record. -/
def attribute? (attributes : List (String × Value)) (name : String) : Option Value :=
  (attributes.find? fun a => a.1 == name).map (·.2)

end Value

end FieldPattern

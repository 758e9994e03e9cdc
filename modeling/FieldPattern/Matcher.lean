import FieldPattern.Expression.Compiled
import FieldPattern.Engine.Basic
import FieldPattern.Options
import FieldPattern.Coercion

/-!
# Matchers

A matcher is an expression that was compiled once, with its options. Matching a text gives the value
of every field, either of the first occurrence or of all of them. It does not change the matcher.

Captures are paired with field names by position. A group that took no part gives no value, and of
the groups with the same name the last one decides, while the name keeps its first position.
-/

namespace FieldPattern

/-- The values of the fields of one occurrence, in the order of the fields. -/
abbrev FieldValues := List (String × Datum)

/-- What matching a text gives: the first occurrence, if any, or the list of all. -/
inductive Answer where
  | first (values : Option FieldValues)
  | all (values : List FieldValues)
  deriving DecidableEq

namespace FieldValues

/-- Sets a field: one that has a value keeps its position, a new one goes to the end. -/
def put (values : FieldValues) (name : String) (d : Datum) : FieldValues :=
  if values.any (·.1 == name) then values.map fun e => if e.1 == name then (name, d) else e
  else values ++ [(name, d)]

/-- The datum of a captured text. -/
def datum (weak : Bool) (s : String) : Except Error Datum :=
  if weak then coerce s else .ok (.text s)

/-- Adds the captures of further fields from left to right. -/
def extend (weak : Bool) (values : FieldValues) : List String → Captures → Except Error FieldValues
  | name :: names, some s :: groups => do
    let d ← datum weak s
    extend weak (put values name d) names groups
  | _ :: names, none :: groups => extend weak values names groups
  | _, _ => .ok values

/-- The values of the fields that captures give. -/
def ofCaptures (weak : Bool) (fields : List String) (groups : Captures) :
    Except Error FieldValues :=
  extend weak [] fields groups

end FieldValues

/-- An expression ready to match. -/
structure Matcher (m : Type → Type) where
  expression : String
  options : Options
  compiled : Compiled
  regex : Regex m

namespace Matcher

variable {m : Type → Type} [Monad m]

/-- Prepares an expression. The options are resolved first; then the markers, the expression and at
last the engine are asked. -/
def create (engine : Option (Engine m)) (expression options : Value) : Action m (Matcher m) := do
  let settled ← Options.resolveLogged options
  let (text, compiled) ← Compiled.ofValue expression settled.markers settled.strict.truthy
  match ← Action.perform ((Engine.choose engine).compile compiled.pattern) with
  | .ok regex => return ⟨text, settled, compiled, regex⟩
  | .error failure => throw (.rejected text compiled.pattern failure)

/-- The matcher as a message shows it. -/
def describe (x : Matcher m) : String :=
  "Simplex(" ++ Text.quoted x.expression ++ ", pattern=" ++ Text.quoted x.compiled.pattern ++ ")"

/-- The field values of captures, under the options of the matcher. -/
def valuesOf (x : Matcher m) (groups : Captures) : Except Error FieldValues :=
  FieldValues.ofCaptures x.options.weak.truthy x.compiled.fields groups

/-- The record of a scan. -/
def scanRecord (x : Matcher m) (count : Nat) : LogRecord :=
  ⟨.debug, .matcher, Text.quoted x.expression ++ " matched " ++ toString count ++ " time(s)"⟩

/-- The field values of the first occurrence in a text. -/
def matchFirst (x : Matcher m) (text : Value) : Action m (Option FieldValues) := do
  match ← Action.perform (x.regex.search text) with
  | .error failure => throw (.engine failure)
  | .ok none => return none
  | .ok (some hit) => return some (← MonadExcept.ofExcept (x.valuesOf hit.groups))

/-- The field values of the matches of a scan. They are taken one by one, so a match that has none is
told before a failure behind it. -/
def valuesOfScan (x : Matcher m) (found : Scan) : Except Error (List FieldValues) := do
  let values ← found.hits.mapM fun hit => x.valuesOf hit.groups
  match found.failure with
  | some failure => throw (.engine failure)
  | none => return values

/-- The field values of all occurrences in a text, from left to right. -/
def matchAll (x : Matcher m) (text : Value) : Action m (List FieldValues) := do
  let found ← Action.perform (x.regex.scan text)
  let values ← MonadExcept.ofExcept (x.valuesOfScan found)
  Action.record (x.scanRecord values.length)
  return values

/-- Matches a text as the options ask: all occurrences under the global option, else the first. -/
def run (x : Matcher m) (text : Value) : Action m Answer := do
  if x.options.global.truthy then return .all (← x.matchAll text)
  else return .first (← x.matchFirst text)

end Matcher

end FieldPattern

import FieldPattern.Error
import FieldPattern.Pattern.Match
import FieldPattern.Pattern.Reader

/-!
# Regular expression engines

A matcher asks three things of an engine: to compile a pattern, to find its first occurrence in a
text, and to find all of them. Any engine that can do so may be plugged in; `m` is the monad in
which it works, so an engine may keep a state. The standard engine reads the pattern and searches
by decomposition.
-/

namespace FieldPattern

/-- What an engine captured, one entry per group; a group that took no part has none. -/
abbrev Captures := List (Option String)

/-- One match that an engine reports: what its groups captured, and the offsets at which it starts
and stops. -/
structure Hit where
  groups : Captures
  start : Nat
  stop : Nat
  deriving Repr, DecidableEq

/-- What a scan of a text gives: its matches one after another, and the failure that breaks it off if
it does not come to its end. -/
structure Scan where
  hits : List Hit
  failure : Option Failure := none
  deriving Repr, DecidableEq

namespace Scan

/-- A scan that gives all matches at once, or fails before the first one. -/
def ofExcept : Except Failure (List Hit) → Scan
  | .ok hits => ⟨hits, none⟩
  | .error failure => ⟨[], some failure⟩

/-- The matches of a scan that comes to its end. -/
def toExcept (s : Scan) : Except Failure (List Hit) :=
  match s.failure with
  | none => .ok s.hits
  | some failure => .error failure

@[simp] theorem toExcept_ofExcept (r : Except Failure (List Hit)) : (ofExcept r).toExcept = r := by
  cases r <;> rfl

end Scan

/-- A compiled pattern: how to search for it. -/
structure Regex (m : Type → Type) where
  /-- The first occurrence in a text. -/
  search : Value → m (Except Failure (Option Hit))
  /-- All occurrences in a text. -/
  scan : Value → m Scan

/-- An engine. One that is not `ready` is passed over in favour of the standard engine. -/
structure Engine (m : Type → Type) where
  ready : Bool := true
  compile : String → m (Except Failure (Regex m))

namespace Occurrence

/-- The occurrence as an engine reports it. Every group of a pattern takes part in every match. -/
def hit (o : Occurrence) : Hit :=
  ⟨o.captures.map fun c => some (String.ofList c), o.start, o.stop⟩

end Occurrence

namespace Engine

/-- The text to search. -/
def subject (v : Value) : Except Failure (List Char) :=
  match v.text? with
  | some s => .ok s.toList
  | none => .error (.notText v.kind)

variable {m : Type → Type} [Monad m]

/-- The compiled form of a pattern in the standard engine. -/
def regexOf (flags : Flags) (p : Pattern) : Regex m where
  search v := pure ((subject v).map fun s => (p.search? flags s).map (·.hit))
  scan v := pure (.ofExcept ((subject v).map fun s => (p.findAll flags s).map (·.hit)))

/-- The standard engine. -/
def standard (flags : Flags) : Engine m where
  compile text := pure
    (match Pattern.read? text.toList with
     | some p => .ok (regexOf flags p)
     | none => .error .unknownPattern)

/-- Compiles a pattern and finds its first occurrence in a text. -/
def first (e : Engine m) (pattern : String) (text : Value) : m (Except Failure (Option Hit)) := do
  match ← e.compile pattern with
  | .ok regex => regex.search text
  | .error failure => return .error failure

/-- Compiles a pattern and finds all its occurrences in a text. -/
def all (e : Engine m) (pattern : String) (text : Value) : m (Except Failure (List Hit)) := do
  match ← e.compile pattern with
  | .ok regex => return (← regex.scan text).toExcept
  | .error failure => return .error failure

/-- The engine to use when `given` was asked for. -/
def choose (given : Option (Engine m)) : Engine m :=
  match given with
  | some e => if e.ready then e else standard {}
  | none => standard {}

end Engine

end FieldPattern

import FieldPattern.Engine.Basic

/-!
# Scripted engines

A scripted engine does not search: it gives prepared answers and keeps the list of the calls that it
received. It shows what a matcher asks of its engine.
-/

namespace FieldPattern

/-- A call that an engine received. -/
inductive EngineCall where
  | compile (pattern : String)
  | search (text : Value)
  | scan (text : Value)

/-- Prepared answers: what every search and scan finds, or the failure of an operation. -/
structure Script where
  captures : List Captures := []
  ready : Bool := true
  compileFailure : Option Failure := none
  searchFailure : Option Failure := none
  scanFailure : Option Failure := none

namespace Script

/-- The prepared matches. They stand nowhere in a text, so their offsets are zero. -/
def hits (s : Script) : List Hit :=
  s.captures.map fun groups => ⟨groups, 0, 0⟩

/-- The failure if there is one, else the answer. -/
def orFail {α : Type} (failure : Option Failure) (answer : α) : Except Failure α :=
  match failure with
  | some f => .error f
  | none => .ok answer

/-- The compiled form of every pattern. -/
def regex (s : Script) : Regex (StateM (List EngineCall)) where
  search text := do
    modify (· ++ [.search text])
    return orFail s.searchFailure s.hits.head?
  scan text := do
    modify (· ++ [.scan text])
    return .ofExcept (orFail s.scanFailure s.hits)

/-- The engine that follows the script. -/
def engine (s : Script) : Engine (StateM (List EngineCall)) where
  ready := s.ready
  compile pattern := do
    modify (· ++ [.compile pattern])
    return orFail s.compileFailure s.regex

end Script

end FieldPattern

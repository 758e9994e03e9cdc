import FieldPattern.Error
import FieldPattern.Text.Digit

/-!
# Weak parsing

A captured text that is clearly a number or a truth value may be taken as one: ASCII digits alone
are a natural number, the words `true` and `false` are truth values, and every other text stays
what it is. Numbers of more than 4300 digits, leading zeros counted, are refused.
-/

namespace FieldPattern

/-- What a field of a match holds. -/
inductive Datum where
  | text (s : String)
  | number (n : Nat)
  | truth (b : Bool)
  deriving Repr, DecidableEq

/-- The datum as a value. -/
def Datum.toValue : Datum → Value
  | text s => .str s
  | number n => .int n
  | truth b => .bool b

/-- The text is a decimal numeral of ASCII digits. -/
def isNumeral (s : List Char) : Bool :=
  !s.isEmpty && s.all Text.isAsciiDigit

/-- The number that ASCII digits spell. -/
def numeralValue (s : List Char) : Nat :=
  s.foldl (fun acc c => acc * 10 + (c.toNat - '0'.toNat)) 0

/-- Takes a text as the number or truth value that it clearly is. -/
def coerce (s : String) : Except Error Datum :=
  if isNumeral s.toList then
    if digitLimit < s.toList.length then .error (.digitLimit s.toList.length)
    else .ok (.number (numeralValue s.toList))
  else if s == "true" then .ok (.truth true)
  else if s == "false" then .ok (.truth false)
  else .ok (.text s)

/-- Weak parsing of any value: only texts can be parsed. -/
def coerceValue (v : Value) : Except Error Datum :=
  match v.text? with
  | some s => coerce s
  | none => .error (.notText v.kind)

end FieldPattern

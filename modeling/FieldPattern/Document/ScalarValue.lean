import FieldPattern.Decimal.Read
import FieldPattern.Document.Tag
import FieldPattern.Document.Fault
import FieldPattern.Text.Base64
import FieldPattern.Text.LetterCase

/-!
# Values of scalars

The text of a scalar and its type give its value. A text that its type does not read is a fault.
-/

namespace FieldPattern.Document

namespace Scalar

/-- A number without its grouping underscores. -/
def ungrouped (s : List Char) : List Char :=
  s.filter (· != '_')

/-- Splits the sign off a number; something must stand in it. -/
def signed (s : List Char) : Except Fault (Bool × List Char) :=
  if s.isEmpty then .error .emptyNumber
  else .ok (Decimal.splitSign s)

/-- The number of decimal digits that a text begins with, after its sign. -/
def leadingDigits (s : List Char) : Nat :=
  ((Decimal.integerParts 10 s).2.takeWhile fun c => (Text.digitValue? c).isSome).length

/-- An integer in a base. Only decimal digits are limited in number. -/
def intIn (base : Nat) (s : List Char) : Except Fault Int :=
  if base == 10 && digitLimit < leadingDigits s then .error (.digitLimit (leadingDigits s))
  else
    match Decimal.readInteger? base s with
    | some n => .ok n
    | none => .error (.notInteger base s)

/-- The number with these digits in base sixty. -/
def inSixties (digits : List Int) : Int :=
  digits.foldl (fun acc d => acc * 60 + d) 0

/-- An integer: binary, hexadecimal, octal after a zero, in base sixty with colons, or decimal. -/
def int (text : List Char) : Except Fault Int := do
  let (negative, s) ← signed (ungrouped text)
  let n ←
    match s with
    | [] => throw .emptyNumber
    | ['0'] => pure 0
    | '0' :: 'b' :: r => intIn 2 r
    | '0' :: 'x' :: r => intIn 16 r
    | '0' :: _ => intIn 8 s
    | _ =>
      if s.contains ':' then inSixties <$> (Form.colonParts s).mapM (intIn 10)
      else intIn 10 s
  return if negative then -n else n

/-- A double in a text. -/
def floatIn (s : List Char) : Except Fault Float :=
  match Decimal.readFloat? s with
  | some x => .ok x
  | none => .error (.notFloat s)

/-- The most digits in base sixty that a double is read from: the unit of a further one would
exceed all doubles. -/
def sixtiesLimit : Nat := 174

/-- The number with these digits in base sixty, summed from the last digit on. -/
def floatInSixties (digits : List Float) : Except Fault Float :=
  if sixtiesLimit < digits.length then .error .floatOverflow
  else
    let add (state : Float × Nat) (d : Float) : Float × Nat :=
      (state.1 + d * Float.ofNat state.2, state.2 * 60)
    .ok (digits.reverse.foldl add (0.0, 1)).1

/-- The text names the one not-a-number that all such texts share. -/
def isNamedNaN (text : List Char) : Bool :=
  let lower := (Text.toLower (String.ofList (ungrouped text))).toList
  (Decimal.splitSign lower).2 == ".nan".toList

/-- A fraction: infinite, not a number, in base sixty with colons, or decimal. -/
def float (text : List Char) : Except Fault Float := do
  let lower := (Text.toLower (String.ofList (ungrouped text))).toList
  let (negative, s) ← signed lower
  let x ←
    if s == ".inf".toList then pure (1.0 / 0.0)
    else if s == ".nan".toList then pure (0.0 / 0.0)
    else if s.contains ':' then floatInSixties (← (Form.colonParts s).mapM floatIn)
    else floatIn s
  return if negative then -x else x

/-- A truth value. -/
def bool (text : List Char) : Except Fault Bool :=
  let lower := Text.toLower (String.ofList text)
  match Form.truthWords.lookup lower with
  | some b => .ok b
  | none => .error (.notBoolean lower)

/-- The microseconds that the digits of a fraction of a second name. -/
def micros (fraction : List Char) : Nat :=
  let six := fraction.take 6 ++ List.replicate (6 - fraction.length) '0'
  six.foldl (fun acc c => acc * 10 + (c.toNat - '0'.toNat)) 0

/-- A date or moment. A line feed at the end does not count. -/
def timestamp (text : List Char) : Except Fault Value :=
  match Form.stamp? (withoutFinalBreak text) with
  | none => .error .notTimestamp
  | some stamp =>
    match stamp.time with
    | none =>
      match Date.of stamp.year stamp.month stamp.day with
      | .ok d => .ok (.date d)
      | .error e => .error (.calendar e)
    | some (hour, minute, second, fraction) =>
      match Moment.of stamp.year stamp.month stamp.day hour minute second (micros fraction)
          stamp.offset with
      | .ok m => .ok (.moment m)
      | .error e => .error (.calendar e)

/-- Bytes in base sixty-four. -/
def bytes (text : List Char) : Except Fault Value :=
  if text.all fun c => c.toNat < 0x80 then
    match Text.readBase64? text with
    | some bs => .ok (.bytes bs)
    | none => .error .malformed
  else .error .malformed

/-- The value of a text under a type of scalars. -/
def value (tag : Tag) (text : List Char) : Except Fault Value :=
  match tag with
  | .null => .ok .null
  | .bool => (bool text).map Value.bool
  | .int => (int text).map Value.int
  | .float => (float text).map Value.float
  | .timestamp => timestamp text
  | .binary => bytes text
  | .str => .ok (.str (String.ofList text))
  | _ => .error .malformed

end Scalar

end FieldPattern.Document

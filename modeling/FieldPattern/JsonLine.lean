import FieldPattern.Matcher
import FieldPattern.Text.Hex

/-!
# Matches as lines of JSON

The field values of one occurrence are written as one JSON object on one line, in the order of the
fields. All characters outside printable ASCII are escaped, those beyond the basic plane as two
units of sixteen bits.
-/

namespace FieldPattern.JsonLine

/-- The escape of one unit of sixteen bits. -/
def unitEscape (n : Nat) : List Char :=
  '\\' :: 'u' :: Text.hexText 4 n

/-- One character of a JSON string. -/
def char (c : Char) : List Char :=
  if c == '"' then ['\\', '"']
  else if c == '\\' then ['\\', '\\']
  else if c == '\n' then ['\\', 'n']
  else if c == '\r' then ['\\', 'r']
  else if c == '\t' then ['\\', 't']
  else if c == '\x08' then ['\\', 'b']
  else if c == '\x0c' then ['\\', 'f']
  else if ' ' ≤ c && c ≤ '~' then [c]
  else if c.toNat < 0x10000 then unitEscape c.toNat
  else
    let n := c.toNat - 0x10000
    unitEscape (0xD800 + n / 0x400) ++ unitEscape (0xDC00 + n % 0x400)

/-- A JSON string. -/
def string (s : String) : List Char :=
  '"' :: (s.toList.flatMap char ++ ['"'])

/-- A JSON text of a datum. -/
def datum : Datum → List Char
  | .text s => string s
  | .number n => Nat.toDigits 10 n
  | .truth b => if b then "true".toList else "false".toList

/-- One member of an object. -/
def member (e : String × Datum) : List Char :=
  string e.1 ++ ':' :: ' ' :: datum e.2

/-- The object of the field values of an occurrence. -/
def object (values : FieldValues) : List Char :=
  '\x7b' :: ([',', ' '].intercalate (values.map member) ++ ['\x7d'])

/-- One line per occurrence. -/
def lines (found : List FieldValues) : String :=
  String.ofList (found.flatMap fun values => object values ++ ['\n'])

end FieldPattern.JsonLine

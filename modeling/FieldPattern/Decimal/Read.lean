import FieldPattern.Text.Digit
import FieldPattern.Text.Blank

/-!
# Reading numbers

Integers in a base and decimal fractions, as written by hand: blanks around the number and a sign
are allowed, and the digits of every decimal script count.
-/

namespace FieldPattern.Decimal

/-- The double nearest to `mantissa * 10 ^ exponent`. Numbers far outside the range of doubles are
zero or infinite without computing the power. -/
def nearest (mantissa : Nat) (exponent : Int) : Float :=
  let top : Int := (Nat.toDigits 10 mantissa).length + exponent
  if mantissa == 0 || top < -400 then 0.0
  else if 400 < top then 1.0 / 0.0
  else if exponent < 0 then Float.ofScientific mantissa true exponent.natAbs
  else Float.ofScientific mantissa false exponent.natAbs

/-- A blank that may surround a number: any but the information separators of ASCII. -/
def isMargin (c : Char) : Bool :=
  Text.isAsciiBlank c || (0x80 ≤ c.toNat && Text.isBlank c)

/-- The text without blanks at its ends. -/
def stripBlanks (s : List Char) : List Char :=
  ((s.dropWhile isMargin).reverse.dropWhile isMargin).reverse

/-- Splits a sign off; `true` means negative. -/
def splitSign : List Char → Bool × List Char
  | '-' :: r => (true, r)
  | '+' :: r => (false, r)
  | s => (false, s)

/-- The value of a letter or digit as a digit of a base above ten. -/
def letterDigit? (c : Char) : Option Nat :=
  (Text.digitValue? c).orElse fun _ =>
    if 'a' ≤ c && c ≤ 'z' then some (c.toNat - 'a'.toNat + 10)
    else if 'A' ≤ c && c ≤ 'Z' then some (c.toNat - 'A'.toNat + 10)
    else none

/-- The number that digits spell in a base; `none` for a foreign digit. -/
def positional? (base : Nat) (digits : List Char) : Option Nat :=
  digits.foldlM (fun acc c =>
    match letterDigit? c with
    | some d => if d < base then some (acc * base + d) else none
    | none => none) 0

/-- The letter that may follow a zero to announce a base. -/
def baseLetter? : Nat → Option Char
  | 2 => some 'b'
  | 8 => some 'o'
  | 16 => some 'x'
  | _ => none

/-- Drops `0b`, `0o` or `0x` where it announces the base in use. -/
def dropBaseMark (base : Nat) : List Char → List Char
  | '0' :: c :: r => if baseLetter? base == some c.toLower then r else '0' :: c :: r
  | s => s

/-- The sign and digits of an integer text. -/
def integerParts (base : Nat) (s : List Char) : Bool × List Char :=
  let (negative, digits) := splitSign (stripBlanks s)
  (negative, dropBaseMark base digits)

/-- The integer that a text spells in a base. -/
def readInteger? (base : Nat) (s : List Char) : Option Int :=
  let (negative, digits) := integerParts base s
  if digits.isEmpty then none
  else (positional? base digits).map fun n => if negative then -(n : Int) else n

/-- A run of decimal digits, as its number, its length and the rest. -/
def takeDigits (s : List Char) : Nat × Nat × List Char :=
  let run := s.takeWhile fun c => (Text.digitValue? c).isSome
  ((positional? 10 run).getD 0, run.length, s.drop run.length)

/-- An exponent part that ends the text: nothing, or `e`, a sign and digits. -/
def readExponent? : List Char → Option Int
  | [] => some 0
  | 'e' :: r =>
    let (negative, digits) := splitSign r
    match takeDigits digits with
    | (n, k, []) => if k == 0 then none else some (if negative then -(n : Int) else n)
    | _ => none
  | _ => none

/-- The double that a lower-case text without a sign spells. -/
def readUnsigned? (s : List Char) : Option Float :=
  if s == "inf".toList || s == "infinity".toList then some (1.0 / 0.0)
  else if s == "nan".toList then some (0.0 / 0.0)
  else
    let (whole, wholeLength, rest) := takeDigits s
    let (part, partLength, tail) :=
      match rest with
      | '.' :: r => takeDigits r
      | r => (0, 0, r)
    if wholeLength + partLength == 0 then none
    else (readExponent? tail).map fun e =>
      nearest (whole * Nat.pow 10 partLength + part) (e - partLength)

/-- The double that a lower-case text spells. -/
def readFloat? (s : List Char) : Option Float :=
  let (negative, digits) := splitSign (stripBlanks s)
  (readUnsigned? digits).map fun x => if negative then -x else x

end FieldPattern.Decimal

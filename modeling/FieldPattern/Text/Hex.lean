/-!
# Hexadecimal code units

Code points are spelled in escapes as lower-case hexadecimal numbers of a fixed width.
-/

namespace FieldPattern.Text

/-- The lower-case hexadecimal digit of a value below sixteen. -/
def hexDigit (n : Nat) : Char :=
  if n < 10 then Char.ofNat ('0'.toNat + n) else Char.ofNat ('a'.toNat + (n - 10))

/-- The last `width` hexadecimal digits of `n`, high digits first. -/
def hexText : (width n : Nat) → List Char
  | 0, _ => []
  | w + 1, n => hexText w (n / 16) ++ [hexDigit (n % 16)]

/-- The value of a hexadecimal digit in either case. -/
def hexValue? (c : Char) : Option Nat :=
  if '0' ≤ c && c ≤ '9' then some (c.toNat - '0'.toNat)
  else if 'a' ≤ c && c ≤ 'f' then some (c.toNat - 'a'.toNat + 10)
  else if 'A' ≤ c && c ≤ 'F' then some (c.toNat - 'A'.toNat + 10)
  else none

/-- The number that a list of hexadecimal digits spells; `none` if one is not a digit. -/
def hexNumber? (digits : List Char) : Option Nat :=
  digits.foldlM (fun acc c => (hexValue? c).map (acc * 16 + ·)) 0

theorem hexValue?_hexDigit : ∀ n < 16, hexValue? (hexDigit n) = some n := by
  decide

end FieldPattern.Text

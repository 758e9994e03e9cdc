/-!
# Binary fractions

A finite double is exactly `mantissa * 2 ^ exponent`, up to its sign. This view is read off the bit
pattern, so that the decimal texts of doubles are found in exact arithmetic.
-/

namespace FieldPattern.Decimal

/-- The number `mantissa * 2 ^ exponent`, negated if `negative`. -/
structure Binary where
  negative : Bool
  mantissa : Nat
  exponent : Int

/-- What a double is. -/
inductive Class where
  | nan
  | infinite (negative : Bool)
  | finite (value : Binary)

/-- The leading bit of the mantissa of a normal double, which is not stored. -/
def implicitBit : Nat := 1 <<< 52

/-- Decodes the bit pattern: one sign bit, eleven exponent bits, fifty-two fraction bits. -/
def classify (x : Float) : Class :=
  let bits : Nat := x.toBits.toNat
  let negative := bits >>> 63 == 1
  let biased : Nat := (bits >>> 52) % 0x800
  let fraction : Nat := bits % implicitBit
  if biased == 0x7FF then
    if fraction == 0 then .infinite negative else .nan
  else if biased == 0 then .finite ⟨negative, fraction, -1074⟩
  else .finite ⟨negative, fraction + implicitBit, (biased : Int) - 1075⟩

/-- The integer that the number is, if it is one. -/
def Binary.toInt? (b : Binary) : Option Int :=
  let signed (n : Nat) : Int := if b.negative then -(n : Int) else n
  if 0 ≤ b.exponent then some (signed (b.mantissa <<< b.exponent.toNat))
  else
    let unit := 1 <<< (-b.exponent).toNat
    if b.mantissa % unit == 0 then some (signed (b.mantissa / unit)) else none

end FieldPattern.Decimal

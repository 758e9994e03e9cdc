import FieldPattern.Decimal.Shortest

/-!
# Decimal notation of doubles

Doubles are written with the fewest digits that read back, positionally when the decimal point falls
between four zeros after it and sixteen digits before it, and with an exponent of at least two
digits otherwise. A whole number keeps `.0`.
-/

namespace FieldPattern.Decimal

/-- The choices that a decimal notation leaves open. -/
structure Notation where
  /-- The least power of ten of the first digit that is still written positionally. -/
  least : Int
  /-- The power of ten of the first digit from which on an exponent is written. -/
  limit : Int
  /-- The least number of digits of an exponent. -/
  exponentWidth : Nat

/-- The digits of a natural number. -/
def digitsOf (n : Nat) : List Char :=
  Nat.toDigits 10 n

/-- `e`, the sign and the padded digits of an exponent. -/
def Notation.exponentText (n : Notation) (e : Int) : List Char :=
  let ds := digitsOf e.natAbs
  'e' :: (if e < 0 then '-' else '+') :: (List.replicate (n.exponentWidth - ds.length) '0' ++ ds)

/-- The text of a positive decimal. -/
def Notation.write (n : Notation) (s : Scientific) : List Char :=
  let ds := digitsOf s.digits
  let point : Int := ds.length + s.exponent
  if n.least ≤ point - 1 && point - 1 < n.limit then
    if point ≤ 0 then '0' :: '.' :: (List.replicate (-point).toNat '0' ++ ds)
    else if ds.length ≤ point.toNat then
      ds ++ List.replicate (point.toNat - ds.length) '0' ++ ['.', '0']
    else ds.take point.toNat ++ '.' :: ds.drop point.toNat
  else
    let fraction := ds.drop 1
    ds.take 1 ++ (if fraction.isEmpty then [] else '.' :: fraction) ++ n.exponentText (point - 1)

/-- Positional from `0.0001` up to below `10 ^ 16`, two exponent digits. -/
def plain : Notation := ⟨-4, 16, 2⟩

/-- The text of a double. -/
def text (x : Float) : String :=
  match classify x with
  | .nan => "nan"
  | .infinite negative => if negative then "-inf" else "inf"
  | .finite b =>
    let digits :=
      if b.mantissa == 0 then ['0', '.', '0'] else plain.write (shortest b.mantissa b.exponent)
    String.ofList (if b.negative then '-' :: digits else digits)

end FieldPattern.Decimal

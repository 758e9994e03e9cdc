import FieldPattern.Decimal.Binary

/-!
# Shortest decimals

The fewest decimal digits that read back as the same double. The reals that round to
`m * 2 ^ q` form an interval around it (with its ends exactly when `m` is even). For one digit, two
digits and so on the two neighbours of the value on that decimal grid are tested; the first grid
with a hit wins, and of two hits the nearer one. Seventeen digits always suffice.
-/

namespace FieldPattern.Decimal

/-- The decimal `digits * 10 ^ exponent`. -/
structure Scientific where
  digits : Nat
  exponent : Int
  deriving Repr, DecidableEq

/-- `a * 10 ^ k` and `b`, both multiplied by the power of ten that makes them whole. -/
def scaled (a : Nat) (k : Int) (b : Nat) : Nat × Nat :=
  if 0 ≤ k then (a * Nat.pow 10 k.toNat, b) else (a, b * Nat.pow 10 (-k).toNat)

/-- The interval of reals that round to a double, as numerators over `den`. -/
structure Interval where
  low : Nat
  value : Nat
  high : Nat
  den : Nat
  closed : Bool

/-- The reals that round to `m * 2 ^ q`. Below a power of two the doubles are twice as dense. -/
def Interval.around (m : Nat) (q : Int) : Interval :=
  let half := if m == implicitBit && q > -1074 then 1 else 2
  let scale := if 0 ≤ q - 2 then 1 <<< (q - 2).toNat else 1
  let den := if 0 ≤ q - 2 then 1 else 1 <<< (2 - q).toNat
  ⟨(4 * m - half) * scale, 4 * m * scale, (4 * m + 2) * scale, den, m % 2 == 0⟩

/-- The decimal lies in the interval. -/
def Interval.holds (i : Interval) (s : Scientific) : Bool :=
  let (a, low) := scaled (s.digits * i.den) s.exponent i.low
  let (b, high) := scaled (s.digits * i.den) s.exponent i.high
  if i.closed then low ≤ a && b ≤ high else low < a && b < high

/-- The number of steps of `10 ^ k` below the value, rounded down. -/
def Interval.floorAt (i : Interval) (k : Int) : Nat :=
  let (unit, value) := scaled i.den k i.value
  value / unit

/-- The greatest `p` in the search range with `10 ^ p` at most the value: the range is walked
downwards from `top`. -/
def Interval.magnitude (i : Interval) (top : Int) : (fuel : Nat) → Int
  | 0 => top
  | fuel + 1 => if i.floorAt top == 0 then i.magnitude (top - 1) fuel else top

/-- The nearer of the two neighbours of the value on the grid `10 ^ k` that lie in the interval;
of two equally near ones the even one. -/
def Interval.onGrid? (i : Interval) (k : Int) : Option Scientific :=
  let below : Scientific := ⟨i.floorAt k, k⟩
  let above : Scientific := ⟨below.digits + 1, k⟩
  match i.holds below, i.holds above with
  | true, false => some below
  | false, true => some above
  | false, false => none
  | true, true =>
    let (twice, value) := scaled ((2 * below.digits + 1) * i.den) k (2 * i.value)
    if value < twice || (value == twice && below.digits % 2 == 0) then some below else some above

/-- Drops trailing zeros of the digits. -/
def Scientific.trim (s : Scientific) : (fuel : Nat) → Scientific
  | 0 => s
  | fuel + 1 =>
    if s.digits != 0 && s.digits % 10 == 0 then
      Scientific.trim ⟨s.digits / 10, s.exponent + 1⟩ fuel
    else s

/-- The shortest decimal that reads back as `m * 2 ^ q`, for a positive `m`. -/
def shortest (m : Nat) (q : Int) : Scientific :=
  let i := Interval.around m q
  let p := i.magnitude 309 640
  let hit := (List.range 17).findSome? fun n : Nat => i.onGrid? (p - (n : Int))
  (hit.getD ⟨i.floorAt (p - 16), p - 16⟩).trim 17

end FieldPattern.Decimal

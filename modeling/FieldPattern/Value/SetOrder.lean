import FieldPattern.Value.Basic

/-!
# The order of a set

The members of a set are shown in the order of their places in a table whose size is a power of two.
A number is sought from its residue on, where large numbers and fractions are reduced modulo the
prime `2 ^ 61 - 1` first: at that place and, where the table is long enough, at the next nine; then
from a further place, on which the higher bits of the residue have some influence. The first free
place is its own. Members that are no numbers come last, in the order in which they were given.
-/

namespace FieldPattern.Value

/-- The prime by which numbers are reduced. -/
def reductionPrime : Nat := (1 <<< 61) - 1

/-- The residue of a number with a size and a sign. Minus one has the residue of minus two. -/
def signedResidue (negative : Bool) (size : Nat) : Int :=
  let r : Int := (size % reductionPrime : Nat)
  if !negative then r else if r == 1 then -2 else -r

/-- The residue of a number. Powers of two repeat after sixty-one of them. -/
def residue? : Value → Option Int
  | bool b => some (if b then 1 else 0)
  | int n => some (signedResidue (n < 0) n.natAbs)
  | float x =>
    match Decimal.classify x with
    | .finite b => some (signedResidue b.negative (b.mantissa <<< (b.exponent % 61).toNat))
    | .infinite negative => some (signedResidue negative 314159)
    | .nan => none
  | _ => none

/-- The size of the table for a number of members. -/
def tableSize (members : Nat) : Nat :=
  let least := if members < 5 then 0 else 2 * members
  (List.range members).foldl (fun size _ => if size ≤ least then 2 * size else size) 8

/-- The number of neighbours of a place that are looked at before a further place. -/
def neighbours : Nat := 9

/-- The first free place from `place` on; `bits` are those that still have influence. `fuel` bounds
the number of further places. -/
def freePlace (size : Nat) (taken : List Nat) : (fuel place bits : Nat) → Nat
  | 0, place, _ => place
  | fuel + 1, place, bits =>
    let count := if place + neighbours < size then neighbours + 1 else 1
    match (List.range' place count).find? (!taken.contains ·) with
    | some free => free
    | none => freePlace size taken fuel ((place * 5 + 1 + bits / 32) % size) (bits / 32)

/-- The bits of a residue in a word of sixty-four. -/
def wordBits (residue : Int) : Nat :=
  (residue % ((1 <<< 64 : Nat) : Int)).toNat

/-- The members of a set in the order in which it is shown. -/
def shownOrder (members : List Value) : List Value :=
  let size := tableSize members.length
  let put (placed : List (Nat × Value)) (v : Value) : List (Nat × Value) :=
    match v.residue? with
    | some r =>
      let bits := wordBits r
      (freePlace size (placed.map (·.1)) (size + 16) (bits % size) bits, v) :: placed
    | none => placed
  let placed := (members.foldl put []).mergeSort fun a b => a.1 ≤ b.1
  placed.map (·.2) ++ members.filter (·.residue?.isNone)

end FieldPattern.Value

/-!
# Suggestions for misspelt names

Two texts are compared by what they have in common: their longest common block, and then, left and
right of it, the same again. They are similar if the common blocks make up at least six tenths of
both texts together.
-/

namespace FieldPattern.Command

/-- The length of the common beginning of two texts. -/
def commonStart : List Char → List Char → Nat
  | a :: r, b :: s => if a == b then commonStart r s + 1 else 0
  | _, _ => 0

/-- A common block of two texts: where it starts in each, and its length. -/
structure Block where
  left : Nat
  right : Nat
  length : Nat

/-- The longest common block; of equally long ones the first in the first text, then in the
second. -/
def longestBlock (a b : List Char) : Block :=
  (List.range a.length).foldl (fun best i =>
    (List.range b.length).foldl (fun best j =>
      let n := commonStart (a.drop i) (b.drop j)
      if best.length < n then ⟨i, j, n⟩ else best) best) ⟨0, 0, 0⟩

/-- The number of characters in common blocks; `fuel` is at least the length of the first text. -/
def commonLength : (fuel : Nat) → List Char → List Char → Nat
  | 0, _, _ => 0
  | fuel + 1, a, b =>
    let block := longestBlock a b
    if block.length == 0 then 0
    else commonLength fuel (a.take block.left) (b.take block.right) + block.length +
      commonLength fuel (a.drop (block.left + block.length)) (b.drop (block.right + block.length))

/-- How much of two texts is common, and the length of both together. -/
structure Likeness where
  common : Nat
  total : Nat

/-- The likeness of two texts. -/
def likeness (a b : String) : Likeness :=
  let (x, y) := (a.toList, b.toList)
  ⟨commonLength (x.length + 1) x y, x.length + y.length⟩

/-- The texts are similar. -/
def Likeness.isClose (l : Likeness) : Bool :=
  3 * l.total ≤ 10 * l.common

/-- The names that are similar to a word, the most similar ones first, at most three. -/
def suggestions (word : String) (names : List String) : List String :=
  let scored := (names.map fun n => (n, likeness n word)).filter (·.2.isClose)
  let sorted := scored.mergeSort fun x y =>
    let (p, q) := (x.2.common * y.2.total, y.2.common * x.2.total)
    q < p || (p == q && y.1 < x.1)
  (sorted.take 3).map (·.1)

end FieldPattern.Command

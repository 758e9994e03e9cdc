import FieldPattern.Engine.Basic
import FieldPattern.Expression.Compiled
import FieldPattern.Proofs.Pattern.Order

/-!
# What searching finds

A search tries every offset from the left and takes the decomposition that is found at the first
offset that has one (`search?_cases`). With what decompositions are (`fits_of_decompose?`,
`decompose?_isSome_of_fits`), this says of all pieces that fit a pattern where they can stand in the
text: nowhere if nothing is found, and not before the occurrence otherwise.

The standard engine reads the text of a pattern and searches with what it read, which is the pattern
itself (`find_eq`).
-/

namespace FieldPattern
namespace Pattern

theorem decompose?_eq_none_iff {f : Flags} {p : Pattern} {s : List Char} :
    decompose? f false p s = none ↔ ∀ pieces, p.Fits f pieces → ¬ pieces.flatten <+: s := by
  rw [decompose?_eq_none_iff_not_stands]
  constructor
  · intro h pieces hfits hprefix
    exact h pieces ⟨hfits, hprefix, fun hm => absurd hm Bool.false_ne_true⟩
  · intro h pieces hstands
    exact h pieces hstands.fits hstands.isPrefix

theorem searchFrom?_cases (f : Flags) (p : Pattern) (start : Nat) (s : List Char) :
    (searchFrom? f p start s = none ∧ ∀ i, decompose? f false p (s.drop i) = none) ∨
      ∃ i pieces, i ≤ s.length ∧ (∀ j, j < i → decompose? f false p (s.drop j) = none) ∧
        decompose? f false p (s.drop i) = some pieces ∧
          searchFrom? f p start s = some (Occurrence.ofPieces p (start + i) pieces) := by
  induction s generalizing start with
  | nil =>
    cases hd : decompose? f false p [] with
    | none =>
      left
      refine ⟨by rw [searchFrom?, occursAt?, hd]; rfl, ?_⟩
      intro i
      rw [List.drop_nil, hd]
    | some pieces =>
      right
      refine ⟨0, pieces, Nat.le_refl 0, fun j hj => absurd hj (Nat.not_lt_zero j), hd, ?_⟩
      rw [searchFrom?, occursAt?, hd]
      rfl
  | cons c r ih =>
    cases hd : decompose? f false p (c :: r) with
    | none =>
      have hskip : searchFrom? f p start (c :: r) = searchFrom? f p (start + 1) r := by
        rw [searchFrom?, occursAt?, hd]
        rfl
      rcases ih (start + 1) with ⟨hnone, hall⟩ | ⟨i, pieces, hi, hbefore, hpieces, hfound⟩
      · left
        refine ⟨by rw [hskip, hnone], ?_⟩
        intro i
        cases i with
        | zero => exact hd
        | succ i => exact hall i
      · right
        refine ⟨i + 1, pieces, Nat.succ_le_succ hi, ?_, hpieces, ?_⟩
        · intro j hj
          cases j with
          | zero => exact hd
          | succ j => exact hbefore j (Nat.lt_of_succ_lt_succ hj)
        · rw [hskip, hfound, Nat.add_assoc, Nat.add_comm 1 i]
    | some pieces =>
      right
      refine ⟨0, pieces, Nat.zero_le _, fun j hj => absurd hj (Nat.not_lt_zero j), hd, ?_⟩
      rw [searchFrom?, occursAt?, hd]
      rfl

/-- A search finds nothing if no offset has a decomposition, and otherwise the decomposition at the
first offset that has one. -/
theorem search?_cases (f : Flags) (p : Pattern) (s : List Char) :
    (search? f p s = none ∧ ∀ i, decompose? f false p (s.drop i) = none) ∨
      ∃ i pieces, i ≤ s.length ∧ (∀ j, j < i → decompose? f false p (s.drop j) = none) ∧
        decompose? f false p (s.drop i) = some pieces ∧
          search? f p s = some (Occurrence.ofPieces p i pieces) := by
  have h := searchFrom?_cases f p 0 s
  simp only [Nat.zero_add] at h
  exact h

/-- What is found at the beginning of a text is found first. -/
theorem search?_eq_of_decompose? {f : Flags} {p : Pattern} {s : List Char}
    {pieces : List (List Char)} (h : decompose? f false p s = some pieces) :
    search? f p s = some (Occurrence.ofPieces p 0 pieces) := by
  rcases search?_cases f p s with ⟨-, hall⟩ | ⟨i, others, -, hbefore, hothers, hfound⟩
  · have hnone := hall 0
    rw [List.drop_zero, h] at hnone
    cases hnone
  · cases i with
    | zero =>
      rw [List.drop_zero, h] at hothers
      rw [hfound, Option.some.inj hothers]
    | succ i =>
      have hnone := hbefore 0 i.succ_pos
      rw [List.drop_zero, h] at hnone
      cases hnone

end Pattern

/-! ## The standard engine -/

namespace Compiled

/-- What the standard engine finds first in a text when it is given the pattern of an expression. -/
def find (flags : Flags) (c : Compiled) (text : List Char) : Except Failure (Option Hit) :=
  Id.run ((Engine.standard flags).first c.pattern (.str (String.ofList text)))

theorem read?_pattern (c : Compiled) : Pattern.read? c.pattern.toList = some c.atoms := by
  rw [pattern, String.toList_ofList, Pattern.read?_print]

theorem regexOf_search (flags : Flags) (p : Pattern) (text : List Char) :
    (Engine.regexOf flags p : Regex Id).search (.str (String.ofList text)) =
      .ok ((p.search? flags text).map Occurrence.hit) := by
  show Except.ok ((p.search? flags (String.ofList text).toList).map Occurrence.hit) = _
  rw [String.toList_ofList]

/-- The standard engine compiles the pattern of an expression to its atoms. -/
theorem compile_pattern {m : Type → Type} [Monad m] (flags : Flags) (c : Compiled) :
    (Engine.standard flags : Engine m).compile c.pattern =
      pure (.ok (Engine.regexOf flags c.atoms)) := by
  rw [Engine.standard]
  simp only [read?_pattern]

/-- The engine searches with the atoms of the expression, and it never fails. -/
theorem find_eq (flags : Flags) (c : Compiled) (text : List Char) :
    c.find flags text = .ok ((c.atoms.search? flags text).map Occurrence.hit) := by
  rw [find, Engine.first, compile_pattern]
  exact regexOf_search flags c.atoms text

end Compiled
end FieldPattern

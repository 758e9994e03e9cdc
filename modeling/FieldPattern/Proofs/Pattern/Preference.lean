import FieldPattern.Proofs.Pattern.Literal

/-!
# What backtracking prefers

An atom lists its choices in the order in which they are tried: the shortest text first for one kind
of capture, the longest first everywhere else (`choices_pairwise`). The decomposition that is found
takes at each atom the first choice that can be completed, so a choice that can be completed is
never better than the one taken (`prefers_of_decompose?`). Behind the pieces of the first atoms it
is again the decomposition found for the atoms that remain (`exists_of_decompose?_append`).
-/

namespace FieldPattern

/-- A piece of the first length is tried before one of the second. -/
def Atom.Prefers : Atom → Nat → Nat → Prop
  | .shortText, m, n => m < n
  | .literal _, m, n | .blanks, m, n | .word, m, n | .longText, m, n => n < m

/-! ## The order of the choices -/

theorem runChoices_lt {p : Char → Bool} {n : Nat} {s : List Char} :
    ∀ x ∈ runChoices p n s, n < x.length := by
  intro x hx
  obtain ⟨piece, hne, -, -, hlen⟩ := mem_runChoices_iff.1 hx
  have hpos := List.length_pos_iff.2 hne
  omega

theorem runChoices_pairwise (p : Char → Bool) (n : Nat) (s : List Char) :
    (runChoices p n s).Pairwise fun x y => x.length < y.length := by
  induction s generalizing n with
  | nil => exact List.Pairwise.nil
  | cons c r ih =>
    rw [runChoices]
    split
    · exact List.Pairwise.cons runChoices_lt (ih (n + 1))
    · exact List.Pairwise.nil

theorem Atom.choices_pairwise (f : Flags) (a : Atom) (s : List Char) :
    (a.choices f s).Pairwise fun x y => a.Prefers x.length y.length := by
  cases a with
  | literal c =>
    cases s with
    | nil => exact List.Pairwise.nil
    | cons d r =>
      rw [choices]
      split
      · exact List.pairwise_singleton _ _
      · exact List.Pairwise.nil
  | blanks => exact List.pairwise_reverse.2 (runChoices_pairwise _ 0 s)
  | word => exact List.pairwise_reverse.2 (runChoices_pairwise _ 0 s)
  | shortText => exact List.Pairwise.cons runChoices_lt (runChoices_pairwise _ 0 s)
  | longText =>
    rw [choices, List.pairwise_append]
    refine ⟨List.pairwise_reverse.2 (runChoices_pairwise _ 0 s), List.pairwise_singleton _ _, ?_⟩
    intro x hx y hy
    obtain rfl := List.mem_singleton.1 hy
    exact runChoices_lt x (List.mem_reverse.1 hx)

namespace Pattern

/-! ## The decomposition that is found -/

/-- What is found for an atom and the atoms after it: a piece that the atom admits, and what is
found behind it. -/
theorem decompose?_cons {f : Flags} {a : Atom} {p : Pattern} {s : List Char}
    {pieces : List (List Char)} (h : decompose? f false (a :: p) s = some pieces) :
    ∃ piece others rest, pieces = piece :: others ∧ a.Admits f piece ∧ s = piece ++ rest ∧
      decompose? f false p rest = some others := by
  obtain ⟨x, hx, hrest⟩ := List.exists_of_findSome?_eq_some h
  obtain ⟨others, hothers, rfl⟩ := Option.map_eq_some_iff.1 hrest
  obtain ⟨piece, hpiece, hs, hlen⟩ := Atom.mem_choices_iff.1 hx
  rw [Bool.false_and] at hothers
  refine ⟨piece, others, x.rest, ?_, hpiece, hs, hothers⟩
  rw [hs, hlen, List.take_left]

/-- Behind the pieces of the first atoms, what is found is what is found for the remaining ones. -/
theorem exists_of_decompose?_append {f : Flags} {p q : Pattern} {s : List Char}
    {pieces : List (List Char)} (h : decompose? f false (p ++ q) s = some pieces) :
    ∃ front back rest, pieces = front ++ back ∧ p.Fits f front ∧ s = front.flatten ++ rest ∧
      decompose? f false q rest = some back := by
  induction p generalizing s pieces with
  | nil => exact ⟨[], pieces, s, rfl, trivial, rfl, h⟩
  | cons a p ih =>
    obtain ⟨piece, others, rest, rfl, hpiece, rfl, hothers⟩ := decompose?_cons h
    obtain ⟨front, back, tail, rfl, hfront, rfl, hback⟩ := ih hothers
    exact ⟨piece :: front, back, tail, rfl, ⟨hpiece, hfront⟩, by simp, hback⟩

/-- A piece that can be completed is not better than the one that is found. -/
theorem prefers_of_decompose? {f : Flags} {a : Atom} {p : Pattern} {s rest : List Char}
    {piece other : List Char} {others : List (List Char)}
    (h : decompose? f false (a :: p) s = some (piece :: others)) (hs : s = other ++ rest)
    (hadmits : a.Admits f other) (hrest : (decompose? f false p rest).isSome) :
    other.length = piece.length ∨ a.Prefers piece.length other.length := by
  obtain ⟨before, x, after, hchoices, hx, hbefore⟩ := List.findSome?_eq_some_iff.1 h
  have hlen : x.length = piece.length := by
    obtain ⟨others', -, hcons⟩ := Option.map_eq_some_iff.1 hx
    have hmem : x ∈ a.choices f s := by simp [hchoices]
    obtain ⟨y, -, hy, hylen⟩ := Atom.mem_choices_iff.1 hmem
    rw [hy, hylen, List.take_left, List.cons.injEq] at hcons
    rw [hylen, hcons.1]
  have hother : ⟨other.length, rest⟩ ∈ a.choices f s :=
    Atom.mem_choices_iff.2 ⟨other, hadmits, hs, rfl⟩
  have hpairwise := Atom.choices_pairwise f a s
  rw [hchoices] at hother hpairwise
  rcases List.mem_append.1 hother with hmem | hmem
  · have hnone := hbefore _ hmem
    rw [Option.map_eq_none_iff, Bool.false_and] at hnone
    rw [hnone] at hrest
    cases hrest
  · rcases List.mem_cons.1 hmem with rfl | hmem
    · exact Or.inl hlen
    · right
      rw [List.pairwise_append, List.pairwise_cons] at hpairwise
      rw [← hlen]
      exact hpairwise.2.1.1 _ hmem

end Pattern
end FieldPattern

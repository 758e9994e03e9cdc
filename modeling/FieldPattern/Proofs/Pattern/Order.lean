import FieldPattern.Proofs.Pattern.Preference

/-!
# The order of decompositions

The pieces of two decompositions are compared atom by atom from the left. At the first atom to which
they give pieces of different lengths, the one whose piece this atom tries first *precedes* the
other. Of all decompositions that stand at the head of a text, what is found is the one that
precedes the others (`decompose?_eq_some_iff`), and nothing is found only where none stands
(`decompose?_eq_none_iff_not_stands`).

Both hold also of the search that may not stay where it is. It has the same order of trials, but
decompositions all of whose pieces are empty do not count.
-/

namespace FieldPattern

theorem Atom.Prefers.asymm {a : Atom} {m n : Nat} (h : a.Prefers m n) : ¬ a.Prefers n m := by
  cases a <;> simp only [Atom.Prefers] at h ⊢ <;> omega

namespace Pattern

/-- The pieces fit the pattern and are a beginning of the text, and they are not all empty if the
search must move. -/
structure Stands (f : Flags) (mustMove : Bool) (p : Pattern) (s : List Char)
    (pieces : List (List Char)) : Prop where
  fits : p.Fits f pieces
  isPrefix : pieces.flatten <+: s
  moves : mustMove = true → pieces.flatten ≠ []

/-- The pieces `xs` are tried before `ys`. -/
def Precedes : Pattern → (xs ys : List (List Char)) → Prop
  | a :: p, x :: xs, y :: ys =>
    a.Prefers x.length y.length ∨ (x.length = y.length ∧ Precedes p xs ys)
  | _, _, _ => False

/-- The pieces stand at the head of the text, and they are tried before all others that do. -/
structure IsFirst (f : Flags) (mustMove : Bool) (p : Pattern) (s : List Char)
    (pieces : List (List Char)) : Prop where
  stands : p.Stands f mustMove s pieces
  precedes : ∀ others, p.Stands f mustMove s others → others = pieces ∨ p.Precedes pieces others

/-! ## One order -/

theorem Precedes.asymm {p : Pattern} {xs ys : List (List Char)} (h : p.Precedes xs ys) :
    ¬ p.Precedes ys xs := by
  induction p generalizing xs ys with
  | nil => cases h
  | cons a p ih =>
    cases xs with
    | nil => cases h
    | cons x xs =>
      cases ys with
      | nil => cases h
      | cons y ys =>
        rintro (hback | ⟨heq, hback⟩)
        · rcases h with h | ⟨heq, -⟩
          · exact h.asymm hback
          · rw [heq] at hback
            exact hback.asymm hback
        · rcases h with h | ⟨-, h⟩
          · rw [heq] at h
            exact h.asymm h
          · exact ih h hback

/-- At most one decomposition is tried before all others. -/
theorem IsFirst.unique {f : Flags} {mustMove : Bool} {p : Pattern} {s : List Char}
    {xs ys : List (List Char)} (hx : p.IsFirst f mustMove s xs) (hy : p.IsFirst f mustMove s ys) :
    xs = ys := by
  rcases hx.precedes ys hy.stands with heq | hxy
  · exact heq.symm
  · rcases hy.precedes xs hx.stands with heq | hyx
    · exact heq
    · exact absurd hyx hxy.asymm

/-! ## What stands behind a piece -/

theorem Stands.nil_iff {f : Flags} {mustMove : Bool} {s : List Char} {pieces : List (List Char)} :
    Stands f mustMove [] s pieces ↔ pieces = [] ∧ mustMove = false := by
  constructor
  · rintro ⟨hfits, -, hmoves⟩
    obtain rfl := List.length_eq_zero_iff.1 hfits.length_eq
    refine ⟨rfl, ?_⟩
    by_contra hmust
    exact hmoves (by simpa using hmust) rfl
  · rintro ⟨rfl, rfl⟩
    exact ⟨trivial, List.nil_prefix, fun h => absurd h Bool.false_ne_true⟩

/-- A decomposition is a choice for the first atom and a decomposition of the rest of the text, which
must move only if that choice did not. -/
theorem Stands.cons_iff {f : Flags} {mustMove : Bool} {a : Atom} {p : Pattern} {s : List Char}
    {pieces : List (List Char)} :
    Stands f mustMove (a :: p) s pieces ↔
      ∃ piece rest others, pieces = piece :: others ∧ s = piece ++ rest ∧ a.Admits f piece ∧
        p.Stands f (mustMove && piece.length == 0) rest others := by
  constructor
  · rintro ⟨hfits, hprefix, hmoves⟩
    cases pieces with
    | nil => cases hfits
    | cons piece others =>
      obtain ⟨t, rfl⟩ := hprefix
      refine ⟨piece, others.flatten ++ t, others, rfl, by simp, hfits.1, hfits.2,
        List.prefix_append _ _, ?_⟩
      intro hmust hnil
      rw [Bool.and_eq_true, beq_iff_eq, List.length_eq_zero_iff] at hmust
      apply hmoves hmust.1
      rw [List.flatten_cons, hmust.2, hnil]
      rfl
  · rintro ⟨piece, rest, others, rfl, rfl, hpiece, hothers⟩
    refine ⟨⟨hpiece, hothers.fits⟩, ?_, ?_⟩
    · rw [List.flatten_cons]
      exact (List.prefix_append_right_inj _).2 hothers.isPrefix
    · intro hmust hnil
      rw [List.flatten_cons, List.append_eq_nil_iff] at hnil
      exact hothers.moves (by rw [hmust, hnil.1]; rfl) hnil.2

/-! ## What is found -/

theorem decompose?_eq_none_iff_not_stands {f : Flags} {mustMove : Bool} {p : Pattern}
    {s : List Char} : decompose? f mustMove p s = none ↔ ∀ pieces, ¬ p.Stands f mustMove s pieces := by
  constructor
  · intro h pieces hstands
    have hsome := decompose?_isSome_of_fits hstands.fits hstands.isPrefix hstands.moves
    rw [h] at hsome
    cases hsome
  · intro h
    cases hd : decompose? f mustMove p s with
    | none => rfl
    | some pieces =>
      obtain ⟨hfits, hprefix, hmoves⟩ := fits_of_decompose? hd
      exact absurd ⟨hfits, hprefix, hmoves⟩ (h pieces)

/-- The choice that is taken can be completed, those tried before it cannot, and all others come
later. -/
theorem exists_choice_of_decompose? {f : Flags} {mustMove : Bool} {a : Atom} {p : Pattern}
    {s : List Char} {pieces : List (List Char)}
    (h : decompose? f mustMove (a :: p) s = some pieces) :
    ∃ piece rest others, pieces = piece :: others ∧ s = piece ++ rest ∧
      decompose? f (mustMove && piece.length == 0) p rest = some others ∧
        ∀ x ∈ a.choices f s,
          decompose? f (mustMove && x.length == 0) p x.rest = none ∨
            x = ⟨piece.length, rest⟩ ∨ a.Prefers piece.length x.length := by
  obtain ⟨before, y, after, hchoices, hy, hbefore⟩ := List.findSome?_eq_some_iff.1 h
  obtain ⟨others, hothers, rfl⟩ := Option.map_eq_some_iff.1 hy
  have hmem : y ∈ a.choices f s := by simp [hchoices]
  obtain ⟨piece, -, hs, hlen⟩ := Atom.mem_choices_iff.1 hmem
  refine ⟨piece, y.rest, others, ?_, hs, ?_, ?_⟩
  · rw [hs, hlen, List.take_left]
  · rw [← hlen]
    exact hothers
  · intro x hx
    have hpairwise := Atom.choices_pairwise f a s
    rw [hchoices] at hx hpairwise
    rcases List.mem_append.1 hx with hx | hx
    · exact Or.inl (Option.map_eq_none_iff.1 (hbefore x hx))
    · right
      rcases List.mem_cons.1 hx with rfl | hx
      · left
        rw [← hlen]
      · right
        rw [List.pairwise_append, List.pairwise_cons] at hpairwise
        rw [← hlen]
        exact hpairwise.2.1.1 x hx

theorem isFirst_of_decompose? {f : Flags} {mustMove : Bool} {p : Pattern} {s : List Char}
    {pieces : List (List Char)} (h : decompose? f mustMove p s = some pieces) :
    p.IsFirst f mustMove s pieces := by
  obtain ⟨hfits, hprefix, hmoves⟩ := fits_of_decompose? h
  refine ⟨⟨hfits, hprefix, hmoves⟩, ?_⟩
  clear hfits hprefix hmoves
  induction p generalizing mustMove s pieces with
  | nil =>
    intro others hothers
    obtain ⟨rfl, rfl⟩ := Stands.nil_iff.1 hothers
    rw [decompose?, if_neg Bool.false_ne_true] at h
    exact Or.inl (Option.some.inj h)
  | cons a p ih =>
    intro others hothers
    obtain ⟨piece, rest, tail, rfl, hs, htail, hchoices⟩ := exists_choice_of_decompose? h
    obtain ⟨other, rest', tail', rfl, hs', hother, htail'⟩ := Stands.cons_iff.1 hothers
    have hmem : ⟨other.length, rest'⟩ ∈ a.choices f s :=
      Atom.mem_choices_iff.2 ⟨other, hother, hs', rfl⟩
    rcases hchoices _ hmem with hnone | heq | hprefers
    · exact absurd htail' (decompose?_eq_none_iff_not_stands.1 hnone tail')
    · obtain ⟨hlen, rfl⟩ := Choice.mk.inj heq
      obtain rfl : other = piece := (List.append_inj_left (hs'.symm.trans hs) hlen)
      rcases ih htail tail' htail' with rfl | hprecedes
      · exact Or.inl rfl
      · exact Or.inr (Or.inr ⟨rfl, hprecedes⟩)
    · exact Or.inr (Or.inl hprefers)

/-- What is found is the decomposition that is tried before all others. -/
theorem decompose?_eq_some_iff {f : Flags} {mustMove : Bool} {p : Pattern} {s : List Char}
    {pieces : List (List Char)} :
    decompose? f mustMove p s = some pieces ↔ p.IsFirst f mustMove s pieces := by
  constructor
  · exact isFirst_of_decompose?
  · intro h
    cases hd : decompose? f mustMove p s with
    | none => exact absurd h.stands (decompose?_eq_none_iff_not_stands.1 hd pieces)
    | some others => rw [h.unique (isFirst_of_decompose? hd)]

end Pattern
end FieldPattern

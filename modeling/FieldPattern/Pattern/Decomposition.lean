import FieldPattern.Pattern.Match

/-!
# Decompositions

What it means for pieces to fit a pattern, said without the search: piece by piece, each atom admits
its own. The choices of an atom are exactly the beginnings of a text that it admits. Hence the
decomposition that the search finds fits (`fits_of_decompose?`), and where some decomposition fits,
the search finds one (`decompose?_isSome_of_fits`).
-/

namespace FieldPattern

/-! ## Runs -/

theorem mem_runChoices_iff {p : Char → Bool} {n : Nat} {s : List Char} {x : Choice} :
    x ∈ runChoices p n s ↔
      ∃ piece, piece ≠ [] ∧ (∀ c ∈ piece, p c = true) ∧ s = piece ++ x.rest ∧
        x.length = n + piece.length := by
  induction s generalizing n with
  | nil =>
    simp only [runChoices, List.not_mem_nil, false_iff]
    rintro ⟨piece, hne, -, hs, -⟩
    exact hne (List.append_eq_nil_iff.1 hs.symm).1
  | cons c r ih =>
    simp only [runChoices]
    constructor
    · intro h
      split at h
      · next hc =>
        rcases List.mem_cons.1 h with rfl | h
        · exact ⟨[c], by simp, by simpa using hc, rfl, rfl⟩
        · obtain ⟨piece, -, hp, hr, hl⟩ := ih.1 h
          refine ⟨c :: piece, by simp, ?_, by simp [← hr], by simp [hl]; omega⟩
          simpa [hc] using hp
      · cases h
    · rintro ⟨_ | ⟨d, piece⟩, hne, hp, hs, hl⟩
      · exact absurd rfl hne
      · simp only [List.cons_append, List.cons.injEq] at hs
        obtain ⟨rfl, hr⟩ := hs
        rw [if_pos (hp c (by simp))]
        rcases piece with _ | ⟨e, piece⟩
        · obtain ⟨length, rest⟩ := x
          simp_all
        · refine List.mem_cons_of_mem _ (ih.2 ⟨e :: piece, by simp, ?_, hr, ?_⟩)
          · exact fun c hc => hp c (List.mem_cons_of_mem _ hc)
          · simp [hl]; omega

/-! ## Atoms -/

namespace Atom

/-- What an atom's piece may be: the character itself, a run of blanks or word characters, or any
text within a line. -/
def Admits (f : Flags) : Atom → List Char → Prop
  | .literal c, piece => ∃ d, piece = [d] ∧ f.same c d = true
  | .blanks, piece => piece ≠ [] ∧ ∀ d ∈ piece, f.isBlank d = true
  | .word, piece => piece ≠ [] ∧ ∀ d ∈ piece, f.isWord d = true
  | .shortText, piece | .longText, piece => ∀ d ∈ piece, f.isText d = true

theorem mem_textChoices_iff {f : Flags} {s : List Char} {x : Choice} :
    (x = ⟨0, s⟩ ∨ x ∈ runChoices f.isText 0 s) ↔
      ∃ piece, (∀ d ∈ piece, f.isText d = true) ∧ s = piece ++ x.rest ∧
        x.length = piece.length := by
  rw [mem_runChoices_iff]
  constructor
  · rintro (rfl | ⟨piece, -, hp, hs, hl⟩)
    · exact ⟨[], by simp⟩
    · exact ⟨piece, hp, hs, by simpa using hl⟩
  · rintro ⟨piece, hp, hs, hl⟩
    by_cases h0 : piece = []
    · left
      subst h0
      obtain ⟨l, r⟩ := x
      simp_all
    · exact .inr ⟨piece, h0, hp, hs, by simpa using hl⟩

/-- The choices of an atom are the beginnings of the text that it admits. -/
theorem mem_choices_iff {f : Flags} {a : Atom} {s : List Char} {x : Choice} :
    x ∈ a.choices f s ↔
      ∃ piece, a.Admits f piece ∧ s = piece ++ x.rest ∧ x.length = piece.length := by
  cases a with
  | literal c =>
    cases s with
    | nil =>
      simp only [choices, List.not_mem_nil, false_iff, Admits]
      rintro ⟨_, ⟨d, rfl, -⟩, hs, -⟩
      simp at hs
    | cons d r =>
      obtain ⟨l, rest⟩ := x
      simp only [choices, Admits]
      constructor
      · intro h
        split at h
        · next hc =>
          simp only [List.mem_singleton, Choice.mk.injEq] at h
          exact ⟨[d], ⟨d, rfl, hc⟩, by simp [h.2], h.1⟩
        · cases h
      · rintro ⟨_, ⟨e, rfl, he⟩, hs, hl⟩
        simp only [List.cons_append, List.nil_append, List.cons.injEq] at hs
        obtain ⟨rfl, rfl⟩ := hs
        simp only [List.length_singleton] at hl
        simp [he, hl]
  | blanks => simp [choices, Admits, mem_runChoices_iff, and_assoc]
  | word => simp [choices, Admits, mem_runChoices_iff, and_assoc]
  | shortText => simpa [choices, Admits] using mem_textChoices_iff
  | longText =>
    simp only [choices, List.mem_append, List.mem_reverse, List.mem_singleton, Admits]
    exact or_comm.trans mem_textChoices_iff

end Atom

/-! ## Patterns -/

namespace Pattern

/-- The pieces fit the atoms one by one. -/
def Fits (f : Flags) : Pattern → List (List Char) → Prop
  | [], [] => True
  | a :: p, piece :: pieces => a.Admits f piece ∧ Fits f p pieces
  | _, _ => False

/-- The decomposition that is found fits the pattern and is a beginning of the text. -/
theorem fits_of_decompose? {f : Flags} {mustMove : Bool} {p : Pattern} {s : List Char}
    {pieces : List (List Char)} (h : decompose? f mustMove p s = some pieces) :
    p.Fits f pieces ∧ pieces.flatten <+: s ∧ (mustMove = true → pieces.flatten ≠ []) := by
  induction p generalizing mustMove s pieces with
  | nil =>
    simp only [decompose?] at h
    split at h
    · cases h
    · next hm => cases h; simp_all [Fits]
  | cons a p ih =>
    simp only [decompose?] at h
    obtain ⟨x, hx, hr⟩ := List.exists_of_findSome?_eq_some h
    obtain ⟨pieces, hp, rfl⟩ := Option.map_eq_some_iff.1 hr
    obtain ⟨piece, ha, hs, hl⟩ := Atom.mem_choices_iff.1 hx
    obtain ⟨hf, hpre, hm⟩ := ih hp
    have ht : s.take x.length = piece := by rw [hs, hl, List.take_left]
    rw [ht]
    refine ⟨⟨ha, hf⟩, ?_, ?_⟩
    · rw [hs, List.flatten_cons]
      exact (List.prefix_append_right_inj _).2 hpre
    · intro hmust h0
      simp only [List.flatten_cons, List.append_eq_nil_iff] at h0
      exact hm (by simp [hmust, hl, h0.1]) h0.2

/-- Where some decomposition fits, one is found. -/
theorem decompose?_isSome_of_fits {f : Flags} {mustMove : Bool} {p : Pattern} {s : List Char}
    {pieces : List (List Char)} (h : p.Fits f pieces) (hs : pieces.flatten <+: s)
    (hm : mustMove = true → pieces.flatten ≠ []) : (decompose? f mustMove p s).isSome := by
  induction p generalizing mustMove s pieces with
  | nil =>
    rcases pieces with _ | ⟨piece, pieces⟩
    · cases mustMove <;> simp_all [decompose?]
    · cases h
  | cons a p ih =>
    rcases pieces with _ | ⟨piece, pieces⟩
    · cases h
    · obtain ⟨ha, hf⟩ := h
      obtain ⟨t, rfl⟩ := hs
      simp only [decompose?, List.findSome?_isSome_iff, Option.isSome_map]
      refine ⟨⟨piece.length, pieces.flatten ++ t⟩, ?_, ih hf (List.prefix_append _ _) ?_⟩
      · exact Atom.mem_choices_iff.2 ⟨piece, ha, by simp, rfl⟩
      · intro hmove h0
        simp only [Bool.and_eq_true, beq_iff_eq, List.length_eq_zero_iff] at hmove
        exact hm hmove.1 (by simp [hmove.2, h0])

end Pattern
end FieldPattern

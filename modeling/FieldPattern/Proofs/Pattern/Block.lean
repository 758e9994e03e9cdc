import FieldPattern.Proofs.Pattern.Preference
import FieldPattern.Text.Word
import Mathlib.Data.List.TakeWhile

/-!
# Blocks of literal text

Between two fields an expression has a block of literal text: a right marker, a gap and a left
marker, compiled one by one. A run of blanks may go on from one of them to the next, and then
several atoms share it, so the pieces of the atoms are not determined by the text. Two other things
are, and they are what carries a match from one field to the next.

* Where the block ends: pieces that fit the same block in the same text end at the same place, up to
  blanks (`dropWhile_blank_eq`).
* How far the block goes on with word characters, and whether it holds anything else
  (`takeWhile_isWordChar_eq`). So a word before a block that holds more than word characters is
  determined (`word_eq_of_block`), and a word before the last block is the longest one
  (`word_eq_of_last_block`).
-/

namespace FieldPattern
namespace Pattern

/-- The pattern has characters and elastic white space only; next to elastic white space, the
characters are no blanks. -/
def IsLiteral (strict : Bool) (p : Pattern) : Prop :=
  ∀ a ∈ p, (∃ c, a = .literal c ∧ (strict = true ∨ Text.isBlank c = false)) ∨
    (a = .blanks ∧ strict = false)

/-- The pattern of a block of literal text, and the text itself. -/
structure Block (strict : Bool) (p : Pattern) (s : List Char) : Prop where
  isLiteral : p.IsLiteral strict
  exists_fits : ∃ pieces, p.Fits {} pieces ∧ pieces.flatten = s

theorem Block.nil (strict : Bool) : Block strict [] [] where
  isLiteral _ ha := by cases ha
  exists_fits := ⟨[], trivial, rfl⟩

/-- The pattern of a literal text, and a text that stands for it. -/
theorem Block.of_standsFor {strict : Bool} {piece s : List Char}
    (h : StandsFor strict piece s) : Block strict (Pattern.ofLiteral strict piece) s where
  isLiteral _ ha := mem_ofLiteral ha
  exists_fits := exists_fits_ofLiteral_iff.2 h

theorem Block.ofLiteral (strict : Bool) (s : List Char) :
    Block strict (Pattern.ofLiteral strict s) s :=
  .of_standsFor (standsFor_refl strict s)

theorem Block.append {strict : Bool} {p q : Pattern} {s t : List Char} (hp : Block strict p s)
    (hq : Block strict q t) : Block strict (p ++ q) (s ++ t) where
  isLiteral a ha := (List.mem_append.1 ha).elim (hp.isLiteral a) (hq.isLiteral a)
  exists_fits := by
    obtain ⟨front, hfront, rfl⟩ := hp.exists_fits
    obtain ⟨back, hback, rfl⟩ := hq.exists_fits
    exact ⟨front ++ back, fits_append_iff.2 ⟨front, back, rfl, hfront, hback⟩,
      List.flatten_append⟩

theorem Block.captures_eq_nil {strict : Bool} {p : Pattern} {s : List Char} (h : Block strict p s)
    (pieces : List (List Char)) : p.captures pieces = [] := by
  apply Pattern.captures_eq_nil
  intro a ha
  rcases h.isLiteral a ha with ⟨c, rfl, -⟩ | ⟨rfl, -⟩ <;> rfl

/-! ## Two ways to fit one block -/

/-- A character that elastic white space may take. -/
def isElastic (strict : Bool) (c : Char) : Bool :=
  !strict && Text.isBlank c

theorem isElastic_eq_false {strict : Bool} {c : Char}
    (h : strict = true ∨ Text.isBlank c = false) : isElastic strict c = false := by
  rcases h with rfl | hc
  · rfl
  · rw [isElastic, hc, Bool.and_false]

theorem isWordChar_eq_false_of_isElastic {strict : Bool} {c : Char}
    (h : isElastic strict c = true) : Text.isWordChar c = false := by
  rw [isElastic, Bool.and_eq_true] at h
  exact Text.isWordChar_eq_false_of_isBlank h.2

/-- White space takes nothing from the beginning of a word. -/
theorem dropWhile_isElastic_word (strict : Bool) {w : List Char} (s : List Char)
    (h : Atom.word.Admits {} w) : (w ++ s).dropWhile (isElastic strict) = w ++ s := by
  obtain ⟨hne, hword⟩ := h
  obtain ⟨c, r, rfl⟩ := List.exists_cons_of_ne_nil hne
  have hc : ¬ isElastic strict c = true := by
    intro helastic
    have hyes : Text.isWordChar c = true := hword c List.mem_cons_self
    rw [isWordChar_eq_false_of_isElastic helastic] at hyes
    cases hyes
  rw [List.cons_append, List.dropWhile_cons_of_neg hc]

theorem IsLiteral.tail {strict : Bool} {a : Atom} {p : Pattern} (h : IsLiteral strict (a :: p)) :
    p.IsLiteral strict :=
  fun b hb => h b (List.mem_cons_of_mem a hb)

/-- An atom of a block is a character that white space does not take, with the piece that is this
character, or elastic white space, with a piece of blanks. -/
theorem IsLiteral.head_cases {strict : Bool} {a : Atom} {p : Pattern}
    (h : IsLiteral strict (a :: p)) :
    (∃ c, isElastic strict c = false ∧ ∀ piece, a.Admits {} piece → piece = [c]) ∨
      ∀ piece, a.Admits {} piece → piece ≠ [] ∧ ∀ c ∈ piece, isElastic strict c = true := by
  rcases h a List.mem_cons_self with ⟨c, rfl, hc⟩ | ⟨rfl, rfl⟩
  · left
    refine ⟨c, isElastic_eq_false hc, ?_⟩
    rintro piece ⟨d, rfl, hd⟩
    have hcd : c = d := by simpa [Flags.same] using hd
    rw [hcd]
  · right
    rintro piece ⟨hne, hblank⟩
    exact ⟨hne, hblank⟩

/-- Pieces that fit a block in the same text up to blanks end at the same place up to blanks. -/
theorem dropWhile_blank_eq {strict : Bool} {p : Pattern} (hp : p.IsLiteral strict)
    {xs ys : List (List Char)} (hx : p.Fits {} xs) (hy : p.Fits {} ys) {s t : List Char}
    (h : (xs.flatten ++ s).dropWhile (isElastic strict) =
      (ys.flatten ++ t).dropWhile (isElastic strict)) :
    s.dropWhile (isElastic strict) = t.dropWhile (isElastic strict) := by
  induction p generalizing xs ys with
  | nil =>
    obtain rfl := List.length_eq_zero_iff.1 hx.length_eq
    obtain rfl := List.length_eq_zero_iff.1 hy.length_eq
    exact h
  | cons a p ih =>
    cases xs with
    | nil => cases hx
    | cons x xs =>
      cases ys with
      | nil => cases hy
      | cons y ys =>
        apply ih hp.tail hx.2 hy.2
        simp only [List.flatten_cons, List.append_assoc] at h
        rcases hp.head_cases with ⟨c, hc, hall⟩ | hall
        · rw [hall x hx.1, hall y hy.1, List.singleton_append, List.singleton_append,
            List.dropWhile_cons_of_neg (by simp [hc]), List.dropWhile_cons_of_neg (by simp [hc]),
            List.cons.injEq] at h
          rw [h.2]
        · rwa [List.dropWhile_append_of_pos (hall x hx.1).2,
            List.dropWhile_append_of_pos (hall y hy.1).2] at h

/-- All pieces that fit a block begin with the same word characters, and hold others if one of them
does. -/
theorem takeWhile_isWordChar_eq {strict : Bool} {p : Pattern} (hp : p.IsLiteral strict)
    {xs ys : List (List Char)} (hx : p.Fits {} xs) (hy : p.Fits {} ys) :
    xs.flatten.takeWhile Text.isWordChar = ys.flatten.takeWhile Text.isWordChar ∧
      xs.flatten.all Text.isWordChar = ys.flatten.all Text.isWordChar := by
  induction p generalizing xs ys with
  | nil =>
    obtain rfl := List.length_eq_zero_iff.1 hx.length_eq
    obtain rfl := List.length_eq_zero_iff.1 hy.length_eq
    exact ⟨rfl, rfl⟩
  | cons a p ih =>
    cases xs with
    | nil => cases hx
    | cons x xs =>
      cases ys with
      | nil => cases hy
      | cons y ys =>
        rw [List.flatten_cons, List.flatten_cons]
        rcases hp.head_cases with ⟨c, -, hall⟩ | hall
        · obtain ⟨htake, hword⟩ := ih hp.tail hx.2 hy.2
          rw [hall x hx.1, hall y hy.1, List.singleton_append, List.singleton_append,
            List.takeWhile_cons, List.takeWhile_cons, List.all_cons, List.all_cons, htake, hword]
          exact ⟨rfl, rfl⟩
        · -- both pieces begin with a blank, which is no word character
          have hstop : ∀ z zs, a.Admits {} z →
              (z ++ zs).takeWhile Text.isWordChar = [] ∧
                (z ++ zs).all Text.isWordChar = false := by
            intro z zs hz
            obtain ⟨hne, helastic⟩ := hall z hz
            obtain ⟨c, r, rfl⟩ := List.exists_cons_of_ne_nil hne
            have hc := isWordChar_eq_false_of_isElastic (helastic c List.mem_cons_self)
            rw [List.cons_append, List.takeWhile_cons_of_neg (by simp [hc]), List.all_cons, hc]
            exact ⟨rfl, rfl⟩
          rw [(hstop x _ hx.1).1, (hstop y _ hy.1).1, (hstop x _ hx.1).2, (hstop y _ hy.1).2]
          exact ⟨rfl, rfl⟩

theorem Block.all_isWordChar_eq {strict : Bool} {p : Pattern} {s t : List Char}
    (hs : Block strict p s) (ht : Block strict p t) :
    s.all Text.isWordChar = t.all Text.isWordChar := by
  obtain ⟨xs, hx, rfl⟩ := hs.exists_fits
  obtain ⟨ys, hy, rfl⟩ := ht.exists_fits
  exact (takeWhile_isWordChar_eq hs.isLiteral hx hy).2

/-! ## The word before a block -/

theorem takeWhile_append_of_all_eq_false {q : Char → Bool} {s : List Char} (t : List Char)
    (h : s.all q = false) : (s ++ t).takeWhile q = s.takeWhile q := by
  induction s with
  | nil => cases h
  | cons c s ih =>
    rw [List.cons_append, List.takeWhile_cons, List.takeWhile_cons]
    rw [List.all_cons, Bool.and_eq_false_iff] at h
    rcases h with hc | hs
    · rw [hc]
      rfl
    · rw [ih hs]

/-- A word is determined by the block after it if the block holds more than word characters: both
ways to read the text reach the same first character that is none. -/
theorem word_eq_of_block {strict : Bool} {p : Pattern} {b : List Char} (hp : Block strict p b)
    (hb : b.all Text.isWordChar = false) {xs : List (List Char)} (hx : p.Fits {} xs)
    {v w rest t : List Char} (hv : ∀ c ∈ v, Text.isWordChar c = true)
    (hw : ∀ c ∈ w, Text.isWordChar c = true) (hrest : xs.flatten <+: rest)
    (h : v ++ (b ++ t) = w ++ rest) : w = v := by
  obtain ⟨ys, hy, rfl⟩ := hp.exists_fits
  obtain ⟨tail, rfl⟩ := hrest
  obtain ⟨htake, hall⟩ := takeWhile_isWordChar_eq hp.isLiteral hx hy
  have hwords := congrArg (List.takeWhile Text.isWordChar) h
  rw [List.takeWhile_append_of_pos hv, List.takeWhile_append_of_pos hw,
    takeWhile_append_of_all_eq_false _ hb, takeWhile_append_of_all_eq_false _ (hall.trans hb),
    htake] at hwords
  exact (List.append_cancel_right hwords).symm

theorem takeWhile_eq_self_of_all {q : Char → Bool} {s : List Char} (h : s.all q = true) :
    s.takeWhile q = s :=
  List.takeWhile_eq_self_iff.2 (List.all_eq_true.1 h)

/-- A word before a last block of word characters is the longest one that leaves the block. -/
theorem word_eq_of_last_block {strict : Bool} {p : Pattern} {b : List Char}
    (hp : Block strict p b) (hb : b.all Text.isWordChar = true) {v w : List Char}
    {back : List (List Char)} (hv : Atom.word.Admits {} v)
    (h : decompose? {} false (.word :: p) (v ++ b) = some (w :: back)) : w = v := by
  obtain ⟨ys, hy, rfl⟩ := hp.exists_fits
  obtain ⟨_, _, rest, ⟨⟩, -, htext, hback⟩ := decompose?_cons h
  obtain ⟨hx, ⟨tail, rfl⟩, -⟩ := fits_of_decompose? hback
  obtain ⟨htake, hall⟩ := takeWhile_isWordChar_eq hp.isLiteral hx hy
  have hsame : back.flatten = ys.flatten := by
    rw [takeWhile_eq_self_of_all hb, takeWhile_eq_self_of_all (hall.trans hb)] at htake
    exact htake
  have hsome : (decompose? {} false p ys.flatten).isSome :=
    decompose?_isSome_of_fits hy List.prefix_rfl fun hm => absurd hm Bool.false_ne_true
  have hlen := congrArg List.length htext
  simp only [List.length_append, hsame] at hlen
  rcases prefers_of_decompose? h rfl hv hsome with heq | hlt
  · exact (List.append_inj htext heq).1.symm
  · have hlt : v.length < w.length := hlt
    omega

/-! ## The end of the last block -/

theorem getLast?_of_literal_last {p : Pattern} {c : Char} {pieces : List (List Char)}
    (h : Fits {} (p ++ [.literal c]) pieces) : pieces.flatten.getLast? = some c := by
  obtain ⟨front, back, rfl, -, hback⟩ := fits_append_iff.1 h
  obtain ⟨last, rfl⟩ := List.length_eq_one_iff.1 hback.length_eq
  obtain ⟨d, rfl, hd⟩ := hback.1
  have hcd : c = d := by simpa [Flags.same] using hd
  rw [hcd]
  simp

/-- Behind a last character that white space does not take, nothing that white space takes is left
over. -/
theorem eq_nil_of_literal_last {strict : Bool} {p : Pattern} {c : Char} {front rest : List Char}
    {pieces : List (List Char)} (h : Fits {} (p ++ [.literal c]) pieces)
    (hc : isElastic strict c = false) (hs : front ++ rest = pieces.flatten)
    (hrest : ∀ d ∈ rest, isElastic strict d = true) : rest = [] := by
  by_contra hne
  have hlast := getLast?_of_literal_last h
  rw [← hs, List.getLast?_append_of_ne_nil _ hne] at hlast
  have helastic := hrest c (List.mem_of_getLast? hlast)
  rw [hc] at helastic
  cases helastic

/-- White space at the end of a pattern leaves no blanks over. -/
theorem eq_nil_of_blanks_last {p : Pattern} {s rest : List Char} {pieces : List (List Char)}
    (h : decompose? {} false (p ++ [.blanks]) s = some pieces) (hs : s = pieces.flatten ++ rest)
    (hrest : ∀ c ∈ rest, Text.isBlank c = true) : rest = [] := by
  obtain ⟨front, back, tail, rfl, -, htail, hback⟩ := exists_of_decompose?_append h
  obtain ⟨piece, others, left, rfl, hpiece, rfl, hothers⟩ := decompose?_cons hback
  obtain rfl : others = [] := by
    rw [decompose?, if_neg Bool.false_ne_true] at hothers
    exact (Option.some.inj hothers).symm
  obtain rfl : left = rest := by
    rw [hs] at htail
    simpa using htail.symm
  have hadmits : Atom.blanks.Admits {} (piece ++ left) := by
    refine ⟨by simp [hpiece.1], ?_⟩
    intro c hc
    rcases List.mem_append.1 hc with hc | hc
    · exact hpiece.2 c hc
    · exact hrest c hc
  rcases prefers_of_decompose? hback (List.append_nil _).symm hadmits rfl with heq | hlt
  · rw [List.length_append] at heq
    exact List.length_eq_zero_iff.1 (by omega)
  · have hlt : (piece ++ left).length < piece.length := hlt
    rw [List.length_append] at hlt
    omega

/-- What is found for a block in its own text is all of it: blanks that are left over would have
been taken by the white space before them. -/
theorem flatten_eq_of_block {strict : Bool} {p : Pattern} {b : List Char} (hp : Block strict p b)
    {pieces : List (List Char)} (h : decompose? {} false p b = some pieces) :
    pieces.flatten = b := by
  obtain ⟨ys, hy, hys⟩ := hp.exists_fits
  obtain ⟨hx, ⟨rest, hrest⟩, -⟩ := fits_of_decompose? h
  have helastic : ∀ c ∈ rest, isElastic strict c = true := by
    have hdrop := dropWhile_blank_eq hp.isLiteral hx hy (s := rest) (t := [])
      (by rw [hrest, hys, List.append_nil])
    exact List.dropWhile_eq_nil_iff.1 hdrop
  have hnil : rest = [] := by
    rcases List.eq_nil_or_concat p with rfl | ⟨init, a, rfl⟩
    · obtain rfl := List.length_eq_zero_iff.1 hy.length_eq
      obtain rfl : b = [] := hys.symm
      exact (List.append_eq_nil_iff.1 hrest).2
    · rw [List.concat_eq_append] at hp h hy
      rcases hp.isLiteral a (by simp) with ⟨c, rfl, hc⟩ | ⟨rfl, rfl⟩
      · exact eq_nil_of_literal_last hy (isElastic_eq_false hc) (hrest.trans hys.symm) helastic
      · exact eq_nil_of_blanks_last h hrest.symm helastic
  rw [← hrest, hnil, List.append_nil]

end Pattern
end FieldPattern

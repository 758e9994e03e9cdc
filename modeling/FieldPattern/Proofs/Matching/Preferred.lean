import FieldPattern.Proofs.Expression.Denotation
import FieldPattern.Proofs.Pattern.Search

/-!
# Which occurrence is chosen

Where an expression occurs in a text, its pieces can often be cut in several ways. Two ways are
compared at the first atom to which they give different pieces: a run of blanks, a word and the rest
of a line are better if they are longer, any other text is better if it is shorter (`Preferred`).
The occurrence that a search finds is the best one of those at the first place that has any, in its
captures and in where it ends (`find_isMostPreferred`).

The best piece of one atom may leave no text that fits the atoms behind it, and then a worse one is
taken. So the best decomposition is not made of best pieces, and it is compared as a whole with every
other one. The comparison in the order of trials goes by lengths; at one place in a text this comes to
the same, since up to the first difference both decompositions have cut the same text.
-/

namespace FieldPattern
namespace Pattern

/-- The decompositions are the same up to an atom that prefers the piece of the first one. -/
inductive Preferred : Pattern → (xs ys : List (List Char)) → Prop
  | here {a : Atom} {x y : List Char} (p : Pattern) (xs ys : List (List Char))
      (h : a.Prefers x.length y.length) : Preferred (a :: p) (x :: xs) (y :: ys)
  | behind {p : Pattern} {xs ys : List (List Char)} (a : Atom) (x : List Char)
      (h : Preferred p xs ys) : Preferred (a :: p) (x :: xs) (x :: ys)

variable {p : Pattern} {xs ys : List (List Char)}

theorem Preferred.precedes (h : p.Preferred xs ys) : p.Precedes xs ys := by
  induction h with
  | here _ _ _ h => exact Or.inl h
  | behind _ _ _ ih => exact Or.inr ⟨rfl, ih⟩

/-- At one place of a text, pieces of the same length are the same. -/
theorem Precedes.preferred (h : p.Precedes xs ys) {s : List Char} (hxs : xs.flatten <+: s)
    (hys : ys.flatten <+: s) : p.Preferred xs ys := by
  induction p generalizing xs ys s with
  | nil => cases h
  | cons a p ih =>
    cases xs with
    | nil => cases h
    | cons x xs =>
      cases ys with
      | nil => cases h
      | cons y ys =>
        rw [List.flatten_cons] at hxs hys
        rcases h with h | ⟨hlen, h⟩
        · exact .here p xs ys h
        · obtain ⟨tail, rfl⟩ := (List.prefix_append x _).trans hxs
          have hy : y <+: x ++ tail := (List.prefix_append y _).trans hys
          obtain rfl : y = x := by
            rw [List.prefix_iff_eq_take.1 hy, ← hlen, List.take_left]
          rw [List.prefix_append_right_inj] at hxs hys
          exact .behind a y (ih h hxs hys)

/-- Of two decompositions at most one is preferred to the other. -/
theorem Preferred.asymm (h : p.Preferred xs ys) : ¬ p.Preferred ys xs :=
  fun hback => h.precedes.asymm hback.precedes

/-- The pieces fit the pattern and are a beginning of the text, and they are preferred to all others
of this kind. -/
structure IsMostPreferred (f : Flags) (p : Pattern) (s : List Char) (pieces : List (List Char)) :
    Prop where
  fits : p.Fits f pieces
  isPrefix : pieces.flatten <+: s
  preferred : ∀ others, p.Fits f others → others.flatten <+: s → others ≠ pieces →
    p.Preferred pieces others ∧ ¬ p.Preferred others pieces

/-- The decomposition that is tried first is preferred to all others. -/
theorem isFirst_iff_isMostPreferred {f : Flags} {s : List Char} {pieces : List (List Char)} :
    p.IsFirst f false s pieces ↔ p.IsMostPreferred f s pieces := by
  constructor
  · rintro ⟨hstands, hprecedes⟩
    refine ⟨hstands.fits, hstands.isPrefix, ?_⟩
    intro others hfits hothers hne
    rcases hprecedes others ⟨hfits, hothers, fun h => absurd h Bool.false_ne_true⟩ with heq | h
    · exact absurd heq hne
    · have hpreferred := h.preferred hstands.isPrefix hothers
      exact ⟨hpreferred, hpreferred.asymm⟩
  · intro h
    refine ⟨⟨h.fits, h.isPrefix, fun hm => absurd hm Bool.false_ne_true⟩, ?_⟩
    intro others hothers
    by_cases heq : others = pieces
    · exact Or.inl heq
    · exact Or.inr (h.preferred others hothers.fits hothers.isPrefix heq).1.precedes

/-- A search finds the decomposition tried first at the first place that has any. -/
theorem search?_eq_some_iff {f : Flags} {s : List Char} {o : Occurrence} :
    p.search? f s = some o ↔
      (∀ a, a < o.start → ∀ others, p.Fits f others → ¬ others.flatten <+: s.drop a) ∧
        ∃ pieces, p.IsFirst f false (s.drop o.start) pieces ∧
          o = Occurrence.ofPieces p o.start pieces := by
  constructor
  · intro h
    rcases search?_cases f p s with ⟨hnone, -⟩ | ⟨i, pieces, -, hbefore, hpieces, hfound⟩
    · rw [hnone] at h
      cases h
    · rw [hfound] at h
      obtain rfl := Option.some.inj h
      refine ⟨fun a ha => decompose?_eq_none_iff.1 (hbefore a ha), pieces, ?_, rfl⟩
      exact decompose?_eq_some_iff.1 hpieces
  · rintro ⟨hbefore, pieces, hfirst, ho⟩
    rcases search?_cases f p s with ⟨-, hall⟩ | ⟨i, others, -, hnone, hothers, hfound⟩
    · have hpieces := decompose?_eq_some_iff.2 hfirst
      rw [hall o.start] at hpieces
      cases hpieces
    · have hpieces := decompose?_eq_some_iff.2 hfirst
      -- an earlier place would have a decomposition, or this one would have none
      obtain rfl : i = o.start := by
        rcases Nat.lt_trichotomy i o.start with hlt | heq | hgt
        · obtain ⟨hfits, hprefix, -⟩ := fits_of_decompose? hothers
          exact absurd hprefix (hbefore i hlt others hfits)
        · exact heq
        · rw [hnone o.start hgt] at hpieces
          cases hpieces
      rw [hpieces] at hothers
      rw [hfound, ← Option.some.inj hothers, ← ho]

end Pattern

/-- A search with an expression reports a match exactly if no place before its start has a
decomposition, and at its start it has the captures and the end of the decomposition that is
preferred to every other one there. The atoms are those of the tokens of the expression. -/
theorem find_isMostPreferred (flags : Flags) (strict : Bool) (left right e text : List Char)
    (hit : Hit) :
    (Compiled.ofText strict left right e).find flags text = .ok (some hit) ↔
      (∀ a, a < hit.start → ∀ others, (Pattern.ofText strict left right e).Fits flags others →
        ¬ others.flatten <+: text.drop a) ∧
      ∃ pieces,
        (Pattern.ofText strict left right e).IsMostPreferred flags (text.drop hit.start) pieces ∧
        hit.groups = ((Pattern.ofText strict left right e).captures pieces).map
          (fun v => some (String.ofList v)) ∧
        hit.stop = hit.start + pieces.flatten.length := by
  rw [Compiled.find_eq, atoms_ofText, Except.ok.injEq, Option.map_eq_some_iff]
  generalize Pattern.ofText strict left right e = p
  constructor
  · rintro ⟨o, hfound, rfl⟩
    obtain ⟨hbefore, pieces, hfirst, ho⟩ := Pattern.search?_eq_some_iff.1 hfound
    refine ⟨hbefore, pieces, Pattern.isFirst_iff_isMostPreferred.1 hfirst, ?_, ?_⟩
    · rw [ho]
      rfl
    · rw [ho]
      rfl
  · rintro ⟨hbefore, pieces, hbest, hgroups, hstop⟩
    have hfirst := Pattern.isFirst_iff_isMostPreferred.2 hbest
    refine ⟨Occurrence.ofPieces p hit.start pieces,
      Pattern.search?_eq_some_iff.2 ⟨hbefore, pieces, hfirst, rfl⟩, ?_⟩
    obtain ⟨groups, start, stop⟩ := hit
    dsimp only at hgroups hstop
    rw [hgroups, hstop]
    rfl

/-- The first field could end at either colon, but behind the first one no field begins. The last field
takes the rest of the line. -/
example : (Compiled.ofText false ['<'] [] "<a*: <b <c*".toList).find {}
    "<x: y: <zz \t <u <v\n".toList = .ok (some ⟨[some "x: y", some "zz", some "u <v"], 0, 18⟩) := by
  rfl

end FieldPattern

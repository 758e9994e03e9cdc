import FieldPattern.Proofs.Pattern.Block
import FieldPattern.Proofs.Pattern.Grammar
import FieldPattern.Proofs.Pattern.Search
import FieldPattern.Proofs.Text.Collapse

/-!
# The language of an escaped text

A literal text is escaped to a regular expression. With exact white space this matches the text
itself and nothing else; with elastic white space it matches the texts that collapse to the same
text (`matchesAll_escape`). The reading of the expression is unique, so it does not matter which
characters are escaped, only that none is read as something else.

Escaping two texts in a row is escaping the joined text, except with elastic white space where a run
of blanks goes through the joint: then each of the two texts asks for a blank of its own. This is
why a gap and a marker, or two markers, cannot share one blank.
-/

namespace FieldPattern
namespace Pattern

open Text (collapse)

/-- The regular expression with this text matches the whole of `s`. -/
def MatchesAll (text s : List Char) : Prop :=
  ∃ (p : Pattern) (pieces : List (List Char)),
    p.IsReading text ∧ p.Fits {} pieces ∧ pieces.flatten = s

/-! ## What is matched -/

theorem standsFor_iff {strict : Bool} {t s : List Char} :
    StandsFor strict t s ↔ if strict then s = t else collapse s = collapse t := by
  cases strict with
  | true => exact Iff.rfl
  | false => exact Text.respaced_iff_collapse_eq.trans eq_comm

/-- An escaped text matches the texts that stand for it. -/
theorem matchesAll_escape_iff {strict : Bool} {t s : List Char} :
    MatchesAll (escape strict t) s ↔ StandsFor strict t s := by
  rw [← exists_fits_ofLiteral_iff]
  constructor
  · rintro ⟨p, pieces, hreading, hfits, hs⟩
    obtain rfl := isReading_unique hreading (isReading_print (ofLiteral strict t))
    exact ⟨pieces, hfits, hs⟩
  · rintro ⟨pieces, hfits, hs⟩
    exact ⟨_, pieces, isReading_print _, hfits, hs⟩

/-- A search with an escaped text takes the whole of `s` exactly if `s` stands for the text: blanks
that are left over would have been taken. -/
theorem find_literal_eq_iff {strict : Bool} {t s : List Char} :
    Compiled.find {} ⟨ofLiteral strict t, []⟩ s = .ok (some ⟨[], 0, s.length⟩) ↔
      StandsFor strict t s := by
  rw [Compiled.find_eq]
  constructor
  · intro h
    obtain ⟨o, hfound, ho⟩ := Option.map_eq_some_iff.1 (Except.ok.inj h)
    rcases search?_cases {} (ofLiteral strict t) s with
      ⟨hnone, -⟩ | ⟨i, pieces, -, -, hpieces, hsome⟩
    · rw [hnone] at hfound
      cases hfound
    · obtain rfl := Option.some.inj (hsome.symm.trans hfound)
      obtain ⟨hfits, hprefix, -⟩ := fits_of_decompose? hpieces
      obtain ⟨-, rfl, hstop⟩ := Hit.mk.inj ho
      rw [List.drop_zero] at hprefix
      have hlength : pieces.flatten.length = s.length := by
        simpa [Occurrence.ofPieces] using hstop
      exact exists_fits_ofLiteral_iff.1 ⟨pieces, hfits, hprefix.eq_of_length hlength⟩
  · intro h
    have hblock := Block.of_standsFor h
    obtain ⟨ys, hfits, hys⟩ := hblock.exists_fits
    have hsome : (decompose? {} false (ofLiteral strict t) s).isSome :=
      decompose?_isSome_of_fits hfits ⟨[], by rw [List.append_nil, hys]⟩ fun hm =>
        absurd hm Bool.false_ne_true
    obtain ⟨pieces, hpieces⟩ := Option.isSome_iff_exists.1 hsome
    rw [search?_eq_of_decompose? hpieces, Occurrence.ofPieces, hblock.captures_eq_nil,
      flatten_eq_of_block hblock hpieces, Nat.zero_add]
    rfl

/-! ## Joined texts -/

theorem print_append (p q : Pattern) : print (p ++ q) = print p ++ print q :=
  List.flatMap_append

/-- Different patterns are printed differently. -/
theorem print_inj {p q : Pattern} : print p = print q ↔ p = q := by
  constructor
  · intro h
    have hp := isReading_print p
    rw [h] at hp
    exact isReading_unique hp (isReading_print q)
  · rintro rfl
    rfl

/-- The atom of a character in a text in which every run is a single blank. -/
def elasticAtom (c : Char) : Atom :=
  if Text.isBlank c then .blanks else .literal c

/-- A text has one atom for each character of the collapsed text. -/
theorem elastic_eq_map_collapse (s : List Char) : elastic s = (collapse s).map elasticAtom := by
  induction s with
  | nil => rfl
  | cons c r ih =>
    rw [elastic, Text.collapse_cons, ih]
    by_cases hc : Text.isBlank c = true
    · rw [if_pos hc, if_pos hc]
      split
      · rfl
      · rw [List.map_cons, elasticAtom, if_pos (by decide)]
    · rw [if_neg hc, if_neg hc, List.map_cons, elasticAtom, if_neg hc]

theorem elastic_append_iff {s t : List Char} :
    elastic (s ++ t) = elastic s ++ elastic t ↔
      s.getLast?.any Text.isBlank = false ∨ t.head?.any Text.isBlank = false := by
  simp only [elastic_eq_map_collapse, ← List.map_append]
  constructor
  · intro h
    by_contra hboth
    rw [not_or, Bool.not_eq_false, Bool.not_eq_false] at hboth
    have hlonger := Text.length_collapse_append hboth.1 hboth.2
    have hsame := congrArg List.length h
    rw [List.length_map, List.length_map] at hsame
    omega
  · intro h
    rw [Text.collapse_append h]

theorem escape_append_iff {strict : Bool} {s t : List Char} :
    escape strict (s ++ t) = escape strict s ++ escape strict t ↔
      strict = true ∨ s.getLast?.any Text.isBlank = false ∨ t.head?.any Text.isBlank = false := by
  rw [escape, escape, escape, ← print_append, print_inj]
  cases strict with
  | true => exact iff_of_true List.map_append (Or.inl rfl)
  | false =>
    rw [or_iff_right Bool.false_ne_true]
    exact elastic_append_iff

/-- The regular expression of an escaped text matches the whole of a text exactly if this is the
same text, or with elastic white space, if both collapse to the same text, so that their runs of
blanks correspond and all other characters are the same; and then a search takes all of it. Escaping
goes through a joint of texts, unless white space is elastic and blanks meet there. -/
theorem matchesAll_escape (strict : Bool) (t : List Char) :
    (∀ s, MatchesAll (escape strict t) s ↔ if strict then s = t else collapse s = collapse t) ∧
    (∀ s, collapse s = collapse t ↔ Text.Respaced t s) ∧
    (∀ s, Id.run ((Engine.standard {}).first (String.ofList (escape strict t))
        (.str (String.ofList s))) = .ok (some ⟨[], 0, s.length⟩) ↔
      MatchesAll (escape strict t) s) ∧
    (∀ u, escape strict (t ++ u) = escape strict t ++ escape strict u ↔
      strict = true ∨ t.getLast?.any Text.isBlank = false ∨
        u.head?.any Text.isBlank = false) := by
  refine ⟨fun s => ?_, fun s => ?_, fun s => ?_, fun u => escape_append_iff⟩
  · exact matchesAll_escape_iff.trans standsFor_iff
  · exact eq_comm.trans Text.respaced_iff_collapse_eq.symm
  · exact find_literal_eq_iff.trans matchesAll_escape_iff.symm

example : escape false "a.b \t[c]".toList = "a\\.b\\s+\\[c\\]".toList := by
  decide

end Pattern
end FieldPattern

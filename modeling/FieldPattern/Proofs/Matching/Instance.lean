import FieldPattern.Proofs.Pattern.Search

/-!
# Instances of an expression

A text is an *instance* of an expression when it has, one after another, a text for each gap, for
each left marker, for each field and for each right marker, and at the end a text for the remainder.
A text stands for a literal one if it is equal to it, or respaced if white space is elastic; a field
holds one word, or any text without a line end.

The notion is said on the expression, without its pattern. The pieces that fit the pattern give
exactly the instances (`exists_fits_layoutAtoms_iff`), so searching finds the leftmost instance in
a text together with the texts of its fields.
-/

namespace FieldPattern

open Pattern (StandsFor ofLiteral)

/-- What a field of this multiplicity may hold. -/
def Multiplicity.Accepts : Multiplicity → List Char → Prop
  | .singleWord, v => v ≠ [] ∧ ∀ c ∈ v, Text.isWordChar c = true
  | .multiWord, v => ∀ c ∈ v, c ≠ '\n'

/-- The text `s` is made of texts for segments, with these values of the fields, and a text for the
remainder. -/
def Segment.AreInstance (strict : Bool) (left right remainder : List Char) :
    List Segment → (values : List (List Char)) → (s : List Char) → Prop
  | [], [], s => StandsFor strict remainder s
  | seg :: segments, v :: values, s =>
    ∃ gap l r tail, s = gap ++ (l ++ (v ++ (r ++ tail))) ∧
      StandsFor strict seg.gap gap ∧ StandsFor strict left l ∧
        seg.field.multiplicity.Accepts v ∧ StandsFor strict right r ∧
          AreInstance strict left right remainder segments values tail
  | _, _, _ => False

/-- The text `s` is an instance of the layout with these values of its fields. -/
def Layout.IsInstance (strict : Bool) (left right : List Char) (l : Layout)
    (values : List (List Char)) (s : List Char) : Prop :=
  Segment.AreInstance strict left right l.remainder l.segments values s

/-! ## Instances are what fits the pattern -/

section Fits

variable {strict : Bool} {left right remainder : List Char}

theorem capture_admits_iff {ends : Bool} {m : Multiplicity} {v : List Char} :
    (m.capture ends).Admits {} v ↔ m.Accepts v := by
  cases m with
  | singleWord => rfl
  | multiWord =>
    have htext : (∀ c ∈ v, Flags.isText {} c = true) ↔ ∀ c ∈ v, c ≠ '\n' := by
      simp [Flags.isText]
    cases ends <;> exact htext

theorem isCapture_capture (ends : Bool) (m : Multiplicity) :
    (m.capture ends).isCapture = true := by
  cases m <;> cases ends <;> rfl

/-- Pieces of the pattern of a segment are those of the gap and the left marker, the text of the
field, and those of the right marker and of the rest. -/
theorem fits_segment_iff {ends : Bool} {seg : Segment} {rest : Pattern}
    {pieces : List (List Char)} :
    (ofLiteral strict seg.gap ++ Compiled.fieldAtoms strict left right ends seg.field ++
        rest).Fits {} pieces ↔
      ∃ gap l v r tail, pieces = gap ++ (l ++ v :: (r ++ tail)) ∧
        (ofLiteral strict seg.gap).Fits {} gap ∧ (ofLiteral strict left).Fits {} l ∧
          seg.field.multiplicity.Accepts v ∧ (ofLiteral strict right).Fits {} r ∧
            rest.Fits {} tail := by
  rw [Compiled.fieldAtoms]
  constructor
  · intro h
    obtain ⟨front, tail, rfl, hfront, htail⟩ := Pattern.fits_append_iff.1 h
    obtain ⟨gap, field, rfl, hgap, hfield⟩ := Pattern.fits_append_iff.1 hfront
    obtain ⟨l, others, rfl, hl, hothers⟩ := Pattern.fits_append_iff.1 hfield
    cases others with
    | nil => cases hothers
    | cons v r =>
      exact ⟨gap, l, v, r, tail, by simp, hgap, hl, capture_admits_iff.1 hothers.1, hothers.2,
        htail⟩
  · rintro ⟨gap, l, v, r, tail, rfl, hgap, hl, hv, hr, htail⟩
    refine Pattern.fits_append_iff.2 ⟨gap ++ (l ++ v :: r), tail, by simp, ?_, htail⟩
    refine Pattern.fits_append_iff.2 ⟨gap, l ++ v :: r, rfl, hgap, ?_⟩
    exact Pattern.fits_append_iff.2 ⟨l, v :: r, rfl, hl, capture_admits_iff.2 hv, hr⟩

theorem captures_ofLiteral (s : List Char) (pieces : List (List Char)) :
    (ofLiteral strict s).captures pieces = [] :=
  Pattern.captures_eq_nil fun _ ha => Pattern.isCapture_of_mem_ofLiteral ha

/-- Of the pieces of a segment, only the text of the field is captured. -/
theorem captures_segment {ends : Bool} {seg : Segment} {rest : Pattern}
    {gap l r tail : List (List Char)} {v : List Char}
    (hgap : (ofLiteral strict seg.gap).Fits {} gap) (hl : (ofLiteral strict left).Fits {} l)
    (hr : (ofLiteral strict right).Fits {} r) :
    (ofLiteral strict seg.gap ++ Compiled.fieldAtoms strict left right ends seg.field ++
        rest).captures (gap ++ (l ++ v :: (r ++ tail))) = v :: rest.captures tail := by
  rw [Compiled.fieldAtoms, List.append_assoc, List.append_assoc, Pattern.captures_append hgap,
    captures_ofLiteral, List.nil_append, Pattern.captures_append hl, captures_ofLiteral,
    List.nil_append, List.cons_append, Pattern.captures, if_pos (isCapture_capture _ _),
    Pattern.captures_append hr, captures_ofLiteral, List.nil_append]

/-- The pattern of segments fits exactly their instances, and captures the values of the fields. -/
theorem exists_fits_layoutAtoms_iff {segments : List Segment} {values : List (List Char)}
    {s : List Char} :
    (∃ pieces, (Compiled.layoutAtoms strict left right remainder segments).Fits {} pieces ∧
        pieces.flatten = s ∧
          (Compiled.layoutAtoms strict left right remainder segments).captures pieces = values) ↔
      Segment.AreInstance strict left right remainder segments values s := by
  induction segments generalizing values s with
  | nil =>
    rw [Compiled.layoutAtoms]
    constructor
    · rintro ⟨pieces, hpieces, hs, rfl⟩
      rw [captures_ofLiteral]
      exact Pattern.exists_fits_ofLiteral_iff.1 ⟨pieces, hpieces, hs⟩
    · intro h
      cases values with
      | nil =>
        obtain ⟨pieces, hpieces, hs⟩ := Pattern.exists_fits_ofLiteral_iff.2 h
        exact ⟨pieces, hpieces, hs, captures_ofLiteral _ _⟩
      | cons => cases h
  | cons seg segments ih =>
    rw [Compiled.layoutAtoms]
    constructor
    · rintro ⟨pieces, hpieces, rfl, rfl⟩
      obtain ⟨gap, l, v, r, tail, rfl, hgap, hl, hv, hr, htail⟩ := fits_segment_iff.1 hpieces
      rw [captures_segment hgap hl hr]
      refine ⟨gap.flatten, l.flatten, r.flatten, tail.flatten, by simp, ?_, ?_, hv, ?_, ?_⟩
      · exact Pattern.exists_fits_ofLiteral_iff.1 ⟨gap, hgap, rfl⟩
      · exact Pattern.exists_fits_ofLiteral_iff.1 ⟨l, hl, rfl⟩
      · exact Pattern.exists_fits_ofLiteral_iff.1 ⟨r, hr, rfl⟩
      · exact ih.1 ⟨tail, htail, rfl, rfl⟩
    · intro h
      cases values with
      | nil => cases h
      | cons v values =>
        obtain ⟨g, m, n, t, rfl, hg, hm, hv, hn, ht⟩ := h
        obtain ⟨gap, hgap, rfl⟩ := Pattern.exists_fits_ofLiteral_iff.2 hg
        obtain ⟨l, hl, rfl⟩ := Pattern.exists_fits_ofLiteral_iff.2 hm
        obtain ⟨r, hr, rfl⟩ := Pattern.exists_fits_ofLiteral_iff.2 hn
        obtain ⟨tail, htail, rfl, rfl⟩ := ih.2 ht
        refine ⟨gap ++ (l ++ v :: (r ++ tail)), ?_, by simp, captures_segment hgap hl hr⟩
        exact fits_segment_iff.2 ⟨gap, l, v, r, tail, rfl, hgap, hl, hv, hr, htail⟩

end Fits

/-! ## Searching finds the leftmost instance -/

section Find

variable {strict : Bool} {left right : List Char} {l : Layout} {text : List Char}

/-- Where no decomposition is found, no instance stands in the text. -/
theorem not_isInstance_of_decompose? {a b : Nat} {values : List (List Char)}
    (h : Pattern.decompose? {} false (Compiled.ofLayout strict left right l).atoms
      (text.drop a) = none) : ¬ l.IsInstance strict left right values (text.extract a b) := by
  intro hinstance
  obtain ⟨pieces, hfits, hflatten, -⟩ := exists_fits_layoutAtoms_iff.2 hinstance
  apply Pattern.decompose?_eq_none_iff.1 h pieces hfits
  rw [hflatten, List.extract_eq_take_drop]
  exact List.take_prefix _ _

/-- A decomposition that is found covers an instance, whose values it captures. -/
theorem isInstance_of_decompose? {a : Nat} {pieces : List (List Char)}
    (h : Pattern.decompose? {} false (Compiled.ofLayout strict left right l).atoms
      (text.drop a) = some pieces) :
    l.IsInstance strict left right
      ((Compiled.ofLayout strict left right l).atoms.captures pieces)
      (text.extract a (a + pieces.flatten.length)) := by
  obtain ⟨hfits, hprefix, -⟩ := Pattern.fits_of_decompose? h
  have hextract : text.extract a (a + pieces.flatten.length) = pieces.flatten := by
    rw [List.extract_eq_take_drop, Nat.add_sub_cancel_left]
    exact (List.prefix_iff_eq_take.1 hprefix).symm
  rw [hextract]
  exact exists_fits_layoutAtoms_iff.1 ⟨pieces, hfits, rfl, rfl⟩

end Find

/-- Searching a text with an expression finds nothing exactly if no piece of the text is an instance
of the expression. Otherwise it finds an instance with its values, and none begins before it. -/
theorem find_isInstance (strict : Bool) (left right e text : List Char) :
    ∃ answer, (Compiled.ofText strict left right e).find {} text = .ok answer ∧
      (answer = none ↔ ∀ a b values,
        ¬ (Layout.ofText left right e).IsInstance strict left right values (text.extract a b)) ∧
      ∀ hit, answer = some hit →
        hit.start ≤ hit.stop ∧ hit.stop ≤ text.length ∧
        (∃ values, hit.groups = values.map (fun v => some (String.ofList v)) ∧
          (Layout.ofText left right e).IsInstance strict left right values
            (text.extract hit.start hit.stop)) ∧
        ∀ a b values, a < hit.start →
          ¬ (Layout.ofText left right e).IsInstance strict left right values
            (text.extract a b) := by
  let c := Compiled.ofText strict left right e
  refine ⟨_, Compiled.find_eq {} c text, ?_⟩
  rcases Pattern.search?_cases {} c.atoms text with
    ⟨hnone, hall⟩ | ⟨i, pieces, hi, hbefore, hpieces, hfound⟩
  · rw [hnone]
    refine ⟨⟨fun _ a b values => not_isInstance_of_decompose? (hall a), fun _ => rfl⟩, ?_⟩
    intro hit hhit
    cases hhit
  · have hinstance := isInstance_of_decompose? hpieces
    rw [hfound]
    refine ⟨⟨?_, fun h => absurd hinstance (h _ _ _)⟩, ?_⟩
    · intro h
      cases h
    · rintro hit ⟨⟩
      obtain ⟨-, hprefix, -⟩ := Pattern.fits_of_decompose? hpieces
      have hlen := hprefix.length_le
      rw [List.length_drop] at hlen
      refine ⟨Nat.le_add_right _ _, ?_, ⟨c.atoms.captures pieces, rfl, hinstance⟩, ?_⟩
      · show i + pieces.flatten.length ≤ text.length
        omega
      · intro a b values ha
        exact not_isInstance_of_decompose? (hbefore a ha)

end FieldPattern

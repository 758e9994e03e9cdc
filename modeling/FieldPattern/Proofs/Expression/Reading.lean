import FieldPattern.Expression.Layout
import Mathlib.Data.List.TakeWhile

/-!
# What the reader of fields reads

A field *stands* at the head of a text when the text begins with the left marker, a name of word
characters, the star if the field has one, and the right marker. Several fields may stand at one
place: a longer name may run over what a shorter one takes for the right marker, and a star may
belong to the field or to the marker. The reader takes the field with the longest name, with the
star if it can (`read?_eq_some_iff`), and it finds nothing only where no field stands
(`read?_eq_none_iff`).

The layout of an expression follows: either no field stands anywhere in the expression, or the
layout begins with the literal text before the first place where one does, then the field read
there, and goes on with the layout of the text after it (`ofText_cases`). Every invariant of layouts
is derived from this one statement through `ofText_induction`.
-/

namespace FieldPattern
namespace Field

/-- The field, between its markers, stands at the head of the text. -/
structure StandsAt (left right s : List Char) (f : Field) : Prop where
  name_ne_nil : f.name ≠ []
  name_word : ∀ c ∈ f.name, Text.isWordChar c = true
  raw_prefix_text : f.raw left right <+: s

/-! ## Closing a name -/

theorem closing?_eq_none_iff {right rest : List Char} :
    closing? right rest = none ↔ ∀ m : Multiplicity, ¬ m.star ++ right <+: rest := by
  unfold closing?
  constructor
  · intro h m
    split at h
    · cases h
    · next hstar =>
      split at h
      · cases h
      · next hplain =>
        rw [List.isPrefixOf_iff_prefix] at hstar hplain
        cases m with
        | singleWord => exact hplain
        | multiWord => exact hstar
  · intro h
    have hstar : ¬ '*' :: right <+: rest := h .multiWord
    have hplain : ¬ right <+: rest := h .singleWord
    rw [← List.isPrefixOf_iff_prefix] at hstar hplain
    rw [if_neg hstar, if_neg hplain]

/-- The star is taken whenever the right marker follows it. -/
theorem multiWord_of_closing? {right rest : List Char} {m : Multiplicity}
    (h : closing? right rest = some m) (hstar : '*' :: right <+: rest) : m = .multiWord := by
  rw [← List.isPrefixOf_iff_prefix] at hstar
  rw [closing?, if_pos hstar] at h
  exact (Option.some.inj h).symm

/-! ## The longest name -/

theorem longest?_eq_none_iff {right s : List Char} {n : Nat} :
    longest? right s n = none ↔ ∀ k, k < n → closing? right (s.drop (k + 1)) = none := by
  induction n with
  | zero => simp [longest?]
  | succ n ih =>
    unfold longest?
    constructor
    · intro h
      split at h
      · cases h
      · next hn =>
        intro k hk
        rcases Nat.lt_succ_iff_lt_or_eq.1 hk with hlt | rfl
        · exact ih.1 h k hlt
        · exact hn
    · intro h
      rw [h n (Nat.lt_succ_self n)]
      exact ih.2 fun k hk => h k (Nat.lt_succ_of_lt hk)

/-- The name that is found ends at the last place where a name can be closed. -/
theorem exists_of_longest? {right s : List Char} {n : Nat} {f : Field}
    (h : longest? right s n = some f) :
    ∃ k, k < n ∧ f.name = s.take (k + 1) ∧
      closing? right (s.drop (k + 1)) = some f.multiplicity ∧
      ∀ j, k < j → j < n → closing? right (s.drop (j + 1)) = none := by
  induction n with
  | zero => cases h
  | succ n ih =>
    unfold longest? at h
    split at h
    · next m hm =>
      cases h
      exact ⟨n, Nat.lt_succ_self n, rfl, hm, fun j hj hjn => absurd hjn (by omega)⟩
    · next hn =>
      obtain ⟨k, hk, hname, hclose, hlater⟩ := ih h
      refine ⟨k, Nat.lt_succ_of_lt hk, hname, hclose, ?_⟩
      intro j hj hjn
      rcases Nat.lt_succ_iff_lt_or_eq.1 hjn with hlt | rfl
      · exact hlater j hj hlt
      · exact hn

/-! ## Names inside the run of word characters -/

theorem length_takeWhile_le {p : Char → Bool} {name rest : List Char}
    (hname : ∀ c ∈ name, p c = true) : name.length ≤ ((name ++ rest).takeWhile p).length := by
  rw [List.takeWhile_append_of_pos hname, List.length_append]
  omega

theorem mem_take_takeWhile {p : Char → Bool} {s : List Char} {k : Nat}
    (hk : k ≤ (s.takeWhile p).length) : ∀ c ∈ s.take k, p c = true := by
  intro c hc
  have hsub : s.take k <+: s.takeWhile p := by
    apply List.prefix_of_prefix_length_le (List.take_prefix k s) (List.takeWhile_prefix p)
    rw [List.length_take]
    omega
  exact List.mem_takeWhile_imp (hsub.subset hc)

theorem length_take_of_le_takeWhile {p : Char → Bool} {s : List Char} {k : Nat}
    (hk : k ≤ (s.takeWhile p).length) : (s.take k).length = k := by
  have hle := (List.takeWhile_prefix p (l := s)).length_le
  rw [List.length_take]
  omega

/-- Past the left marker, a field that stands is a name inside the first run of word characters that
can be closed where it ends. -/
theorem standsAt_append_iff {left right body : List Char} {f : Field} :
    f.StandsAt left right (left ++ body) ↔
      f.name ≠ [] ∧ f.name.length ≤ (body.takeWhile Text.isWordChar).length ∧
        f.name = body.take f.name.length ∧
          f.multiplicity.star ++ right <+: body.drop f.name.length := by
  constructor
  · rintro ⟨hne, hword, hraw⟩
    rw [raw, List.append_assoc, List.append_assoc, List.prefix_append_right_inj] at hraw
    obtain ⟨t, rfl⟩ := hraw
    rw [List.append_assoc f.name]
    refine ⟨hne, length_takeWhile_le hword, ?_, ?_⟩
    · rw [List.take_left]
    · rw [List.drop_left]
      exact List.prefix_append _ _
  · rintro ⟨hne, hlen, hname, hclose⟩
    refine ⟨hne, ?_, ?_⟩
    · rw [hname]
      exact mem_take_takeWhile hlen
    · rw [raw, List.append_assoc, List.append_assoc, List.prefix_append_right_inj]
      have hbody : f.name ++ body.drop f.name.length = body := by
        conv => lhs; lhs; rw [hname]
        exact List.take_append_drop _ _
      rw [← hbody]
      exact (List.prefix_append_right_inj _).2 hclose

theorem StandsAt.exists_body {left right s : List Char} {f : Field}
    (h : f.StandsAt left right s) : ∃ body, s = left ++ body := by
  obtain ⟨t, rfl⟩ := h.raw_prefix_text
  exact ⟨f.name ++ f.multiplicity.star ++ right ++ t, by simp [raw]⟩

/-- At one place the length of a name determines the name. -/
theorem StandsAt.name_eq {left right s : List Char} {f g : Field} (hf : f.StandsAt left right s)
    (hg : g.StandsAt left right s) (hlen : f.name.length = g.name.length) : f.name = g.name := by
  obtain ⟨body, rfl⟩ := hf.exists_body
  obtain ⟨-, -, hfname, -⟩ := standsAt_append_iff.1 hf
  obtain ⟨-, -, hgname, -⟩ := standsAt_append_iff.1 hg
  rw [hfname, hgname, hlen]

/-! ## The reader -/

theorem read?_append (left right body : List Char) :
    read? left right (left ++ body) =
      longest? right body (body.takeWhile Text.isWordChar).length := by
  have hleft : left.isPrefixOf (left ++ body) = true :=
    List.isPrefixOf_iff_prefix.2 (List.prefix_append _ _)
  rw [read?, if_pos hleft, List.drop_left]

/-- Nothing is read only where no field stands. -/
theorem read?_eq_none_iff {left right s : List Char} :
    read? left right s = none ↔ ∀ f : Field, ¬ f.StandsAt left right s := by
  constructor
  · intro h f hf
    obtain ⟨body, rfl⟩ := hf.exists_body
    rw [read?_append, longest?_eq_none_iff] at h
    obtain ⟨hne, hlen, -, hclose⟩ := standsAt_append_iff.1 hf
    obtain ⟨k, hk⟩ := Nat.exists_eq_succ_of_ne_zero (List.length_pos_iff.2 hne).ne'
    have hnone := h k (by omega)
    rw [← Nat.succ_eq_add_one, ← hk, closing?_eq_none_iff] at hnone
    exact hnone f.multiplicity hclose
  · intro h
    by_cases hleft : left <+: s
    · obtain ⟨body, rfl⟩ := hleft
      rw [read?_append, longest?_eq_none_iff]
      intro k hk
      rw [closing?_eq_none_iff]
      intro m hclose
      have hlen : (body.take (k + 1)).length = k + 1 := length_take_of_le_takeWhile hk
      refine h ⟨body.take (k + 1), m⟩ (standsAt_append_iff.2 ⟨?_, ?_, ?_, ?_⟩)
      · intro h0
        exact Nat.succ_ne_zero k (hlen.symm.trans (congrArg List.length h0))
      · rw [hlen]
        exact hk
      · rw [hlen]
      · rw [hlen]
        exact hclose
    · rw [← List.isPrefixOf_iff_prefix] at hleft
      rw [read?, if_neg hleft]

/-- What is read stands in the text, and no field with a longer name does. -/
theorem standsAt_of_read? {left right s : List Char} {f : Field}
    (h : read? left right s = some f) :
    f.StandsAt left right s ∧
      ∀ g : Field, g.StandsAt left right s → g.name.length ≤ f.name.length := by
  have hraw := isPrefix_of_read? h
  obtain ⟨t, rfl⟩ := hraw
  have hbody : f.raw left right ++ t = left ++ (f.name ++ f.multiplicity.star ++ right ++ t) := by
    simp [raw]
  rw [hbody] at h ⊢
  generalize f.name ++ f.multiplicity.star ++ right ++ t = body at h ⊢
  rw [read?_append] at h
  obtain ⟨k, hk, hname, hclose, hlater⟩ := exists_of_longest? h
  have hlen : f.name.length = k + 1 := by
    rw [hname]
    exact length_take_of_le_takeWhile hk
  constructor
  · rw [standsAt_append_iff, hlen]
    refine ⟨?_, hk, hname, isPrefix_of_closing? hclose⟩
    intro h0
    rw [h0] at hlen
    cases hlen
  · intro g hg
    obtain ⟨hne, hglen, -, hgclose⟩ := standsAt_append_iff.1 hg
    obtain ⟨j, hj⟩ := Nat.exists_eq_succ_of_ne_zero (List.length_pos_iff.2 hne).ne'
    by_contra hlt
    have hnone := hlater j (by omega) (by omega)
    rw [← Nat.succ_eq_add_one, ← hj, closing?_eq_none_iff] at hnone
    exact hnone g.multiplicity hgclose

/-- The star is read whenever a field with the same name and a star stands in the text. -/
theorem multiWord_of_read? {left right s : List Char} {f : Field}
    (h : read? left right s = some f)
    (hstar : (Field.mk f.name .multiWord).StandsAt left right s) : f.multiplicity = .multiWord := by
  obtain ⟨body, rfl⟩ := hstar.exists_body
  rw [read?_append] at h
  obtain ⟨k, hk, hname, hclose, -⟩ := exists_of_longest? h
  obtain ⟨-, -, -, hpre⟩ := standsAt_append_iff.1 hstar
  have hlen : f.name.length = k + 1 := by
    rw [hname]
    exact length_take_of_le_takeWhile hk
  simp only [hlen] at hpre
  exact multiWord_of_closing? hclose hpre

/-- A field is read exactly if it stands in the text, no field with a longer name does, and the star
is not left out where it could be taken. -/
theorem read?_eq_some_iff {left right s : List Char} {f : Field} :
    read? left right s = some f ↔
      f.StandsAt left right s ∧
        (∀ g : Field, g.StandsAt left right s → g.name.length ≤ f.name.length) ∧
        ((Field.mk f.name .multiWord).StandsAt left right s → f.multiplicity = .multiWord) := by
  constructor
  · intro h
    obtain ⟨hstands, hlongest⟩ := standsAt_of_read? h
    exact ⟨hstands, hlongest, multiWord_of_read? h⟩
  · rintro ⟨hstands, hlongest, hstar⟩
    cases hread : read? left right s with
    | none => exact absurd hstands (read?_eq_none_iff.1 hread f)
    | some g =>
      obtain ⟨hgstands, hglongest⟩ := standsAt_of_read? hread
      have hname : g.name = f.name :=
        hgstands.name_eq hstands (Nat.le_antisymm (hlongest g hgstands) (hglongest f hstands))
      obtain ⟨name, m⟩ := f
      obtain ⟨name', m'⟩ := g
      obtain rfl : name' = name := hname
      have hmultiplicity : m' = m := by
        cases m with
        | multiWord => exact multiWord_of_read? hread hstands
        | singleWord =>
          cases m' with
          | singleWord => rfl
          | multiWord => exact (hstar hgstands).symm
      rw [hmultiplicity]

/-- The same field is read in texts in which the same fields stand. -/
theorem read?_congr {left right s t : List Char}
    (h : ∀ f : Field, f.StandsAt left right s ↔ f.StandsAt left right t) :
    read? left right s = read? left right t := by
  apply Option.ext
  intro f
  simp only [read?_eq_some_iff, h]

end Field

/-! ## The layout -/

namespace Layout

theorem scan_eq_drop (left right : List Char) (skip : Nat) (s : List Char) :
    scan left right skip s = ofText left right (s.drop skip) := by
  induction s generalizing skip with
  | nil => simp [scan, ofText]
  | cons c r ih =>
    cases skip with
    | zero => rfl
    | succ k =>
      rw [scan, ih, List.drop_succ_cons]

/-- Where a field is read, it is the first one, and the layout of the text after it follows. -/
theorem ofText_raw_append {left right e : List Char} {f : Field}
    (h : Field.read? left right (f.raw left right ++ e) = some f) :
    ofText left right (f.raw left right ++ e) = (ofText left right e).addField f := by
  have hne := Field.name_ne_nil_of_read? h
  have hraw : f.raw left right ≠ [] := by simp [Field.raw, hne]
  obtain ⟨c, r, hcr⟩ := List.exists_cons_of_ne_nil hraw
  rw [hcr] at h ⊢
  rw [ofText, List.cons_append, scan, ← List.cons_append, h]
  simp only [scan_eq_drop, hcr, List.length_cons, Nat.add_sub_cancel, List.drop_left]

/-- Where no field is read, the first character is literal text. -/
theorem ofText_cons {left right r : List Char} {c : Char}
    (h : Field.read? left right (c :: r) = none) :
    ofText left right (c :: r) = (ofText left right r).prepend c := by
  rw [ofText, scan, h]
  rfl

theorem foldr_prepend_cons (s : List Char) (seg : Segment) (segments : List Segment)
    (remainder : List Char) : s.foldr prepend ⟨seg :: segments, remainder⟩ =
      ⟨{ seg with gap := s ++ seg.gap } :: segments, remainder⟩ := by
  induction s with
  | nil => rfl
  | cons c s ih =>
    rw [List.foldr_cons, ih]
    rfl

theorem foldr_prepend_nil (s remainder : List Char) :
    s.foldr prepend ⟨[], remainder⟩ = ⟨[], s ++ remainder⟩ := by
  induction s with
  | nil => rfl
  | cons c s ih =>
    rw [List.foldr_cons, ih]
    rfl

/-- A text in which no field is read goes before the layout of what follows it. -/
theorem ofText_append {left right s rest : List Char}
    (h : ∀ p, p < s.length → Field.read? left right ((s ++ rest).drop p) = none) :
    ofText left right (s ++ rest) = s.foldr prepend (ofText left right rest) := by
  induction s with
  | nil => rfl
  | cons c s ih =>
    have hfirst : Field.read? left right (c :: (s ++ rest)) = none := h 0 (Nat.succ_pos _)
    have hrest := ih fun p hp => h (p + 1) (Nat.succ_lt_succ hp)
    rw [List.cons_append, ofText_cons hfirst, hrest]
    rfl

/-- The layout of an expression begins with the first field that is read in it. -/
theorem ofText_cases (left right e : List Char) :
    ((∀ p, Field.read? left right (e.drop p) = none) ∧ ofText left right e = ⟨[], e⟩) ∨
      ∃ gap f rest, e = gap ++ f.raw left right ++ rest ∧
        (∀ p, p < gap.length → Field.read? left right (e.drop p) = none) ∧
          Field.read? left right (f.raw left right ++ rest) = some f ∧
            ofText left right e = ⟨⟨gap, f⟩ :: (ofText left right rest).segments,
              (ofText left right rest).remainder⟩ := by
  induction e with
  | nil =>
    have hnone : Field.read? left right [] = none := by
      rw [Field.read?_eq_none_iff]
      intro f hf
      have hempty : left = [] ∧ f.name = [] ∧ f.multiplicity.star = [] ∧ right = [] := by
        simpa [Field.raw] using hf.raw_prefix_text
      exact hf.name_ne_nil hempty.2.1
    exact Or.inl ⟨fun p => by rw [List.drop_nil, hnone], rfl⟩
  | cons c r ih =>
    cases hread : Field.read? left right (c :: r) with
    | some f =>
      obtain ⟨rest, hrest⟩ := Field.isPrefix_of_read? hread
      rw [← hrest] at hread ⊢
      exact Or.inr ⟨[], f, rest, rfl, fun p hp => absurd hp (Nat.not_lt_zero p), hread,
        ofText_raw_append hread⟩
    | none =>
      have hprepend := ofText_cons hread
      rcases ih with ⟨hnone, htext⟩ | ⟨gap, f, rest, hr, hgap, hf, htext⟩
      · left
        refine ⟨?_, by rw [hprepend, htext]; rfl⟩
        intro p
        cases p with
        | zero => exact hread
        | succ p => exact hnone p
      · right
        refine ⟨c :: gap, f, rest, by simp [hr], ?_, hf, by rw [hprepend, htext]; rfl⟩
        intro p hp
        cases p with
        | zero => exact hread
        | succ p => exact hgap p (by simpa using hp)

/-- Induction along the fields of an expression. -/
theorem ofText_induction {left right : List Char} {motive : List Char → Layout → Prop}
    (done : ∀ e, (∀ p, Field.read? left right (e.drop p) = none) → motive e ⟨[], e⟩)
    (field : ∀ gap f rest,
      (∀ p, p < gap.length →
        Field.read? left right ((gap ++ f.raw left right ++ rest).drop p) = none) →
      Field.read? left right (f.raw left right ++ rest) = some f →
      motive rest (ofText left right rest) →
      motive (gap ++ f.raw left right ++ rest)
        ⟨⟨gap, f⟩ :: (ofText left right rest).segments, (ofText left right rest).remainder⟩)
    (e : List Char) : motive e (ofText left right e) := by
  induction hn : e.length using Nat.strong_induction_on generalizing e with
  | _ n ih =>
    rcases ofText_cases left right e with ⟨hnone, htext⟩ | ⟨gap, f, rest, he, hgap, hf, htext⟩
    · rw [htext]
      exact done e hnone
    · have hname := List.length_pos_iff.2 (Field.name_ne_nil_of_read? hf)
      have hshort : rest.length < n := by
        rw [← hn, he]
        simp only [Field.raw, List.length_append]
        omega
      rw [htext]
      subst he
      exact field gap f rest hgap hf (ih rest.length hshort rest rfl)

end Layout
end FieldPattern

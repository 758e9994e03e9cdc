import FieldPattern.Proofs.Expression.Reading
import FieldPattern.Proofs.Matching.Instance
import FieldPattern.Proofs.Pattern.Block

/-!
# Filling in an expression

An expression is filled in when each name, with its star if there is one, is replaced by a value.
The result is an instance of the expression, so searching it finds a match at its beginning. If
every field is a field of one word, the match is all of the text and gives the values back. This
holds of every instance, also of one in which blanks were respaced (`find_of_isInstance`).

This is no matter of course. A word capture takes as many characters as it can, and what follows
the field may begin with word characters. But between two fields of an expression there is always a
character that no word holds: otherwise a longer name would have been read in place of the first
field (`isChain_isApart`). Behind the last field there may be word characters only, and then the
longest word that leaves room for them is the value.
-/

namespace FieldPattern

open Pattern (Block ofLiteral)

/-- The text of segments with values in place of names and stars, and of the remainder. -/
def Segment.fill (left right remainder : List Char) :
    List Segment → (values : List (List Char)) → List Char
  | seg :: segments, v :: values =>
    seg.gap ++ (left ++ (v ++ (right ++ fill left right remainder segments values)))
  | _, _ => remainder

namespace Layout

/-- The expression with values in place of names and stars. -/
def fill (left right : List Char) (l : Layout) (values : List (List Char)) : List Char :=
  Segment.fill left right l.remainder l.segments values

/-- There is one value for each field, of the kind that the field holds. -/
def Accepts (l : Layout) (values : List (List Char)) : Prop :=
  List.Forall₂ (fun f v => f.multiplicity.Accepts v) l.fields values

end Layout

/-! ## Fields are apart -/

/-- Between two fields, of which the first holds one word, stands a character that no word holds. -/
def Segment.IsApart (left right : List Char) (s t : Segment) : Prop :=
  s.field.multiplicity = .singleWord → (right ++ (t.gap ++ left)).all Text.isWordChar = false

/-- If only word characters stood between two fields, both names and what is between them would be
one name, longer than the one that is read. -/
theorem isApart_of_read? {left right gap rest : List Char} {f g : Field} {k : List Char}
    (hf : Field.read? left right (f.raw left right ++ (gap ++ g.raw left right ++ rest)) = some f)
    (hg : Field.read? left right (g.raw left right ++ rest) = some g) :
    Segment.IsApart left right ⟨k, f⟩ ⟨gap, g⟩ := by
  intro hsingle
  by_contra hall
  have hbetween : ∀ c ∈ right ++ (gap ++ left), Text.isWordChar c = true := by
    rw [Bool.not_eq_false] at hall
    exact List.all_eq_true.1 hall
  obtain ⟨hfstands, hlongest⟩ := Field.standsAt_of_read? hf
  obtain ⟨hgstands, -⟩ := Field.standsAt_of_read? hg
  let name := f.name ++ (right ++ (gap ++ left)) ++ g.name
  have hstands : (Field.mk name g.multiplicity).StandsAt left right
      (f.raw left right ++ (gap ++ g.raw left right ++ rest)) := by
    refine ⟨by simp [name, hgstands.name_ne_nil], ?_, rest, ?_⟩
    · intro c hc
      rcases List.mem_append.1 hc with hc | hc
      · rcases List.mem_append.1 hc with hc | hc
        · exact hfstands.name_word c hc
        · exact hbetween c hc
      · exact hgstands.name_word c hc
    · have hstar : f.multiplicity.star = [] := by
        rw [show f.multiplicity = .singleWord from hsingle]
        rfl
      simp [Field.raw, hstar, name]
  have hle : name.length ≤ f.name.length := hlongest _ hstands
  have hpos := List.length_pos_iff.2 hgstands.name_ne_nil
  simp only [name, List.length_append] at hle
  omega

/-- The fields of an expression are apart. -/
theorem isChain_isApart (left right e : List Char) :
    (Layout.ofText left right e).segments.IsChain (Segment.IsApart left right) := by
  apply Layout.ofText_induction (motive := fun _ l => l.segments.IsChain _)
  · intro e _
    exact List.IsChain.nil
  · intro gap f rest _ hread ih
    rcases Layout.ofText_cases left right rest with
      ⟨-, htext⟩ | ⟨gap', g, tail, rfl, -, hread', htext⟩
    · rw [htext]
      exact List.IsChain.singleton _
    · rw [htext] at ih ⊢
      exact List.IsChain.cons_cons (isApart_of_read? hread hread') ih

/-! ## Words between blocks -/

section Word

variable {strict : Bool}

/-- Behind a block, the search for a word begins where the block ends. -/
theorem exists_of_decompose?_word {p q : Pattern} {b v t : List Char} {pieces : List (List Char)}
    (hp : Block strict p b) (hv : Atom.word.Admits {} v)
    (h : Pattern.decompose? {} false (p ++ .word :: q) (b ++ (v ++ t)) = some pieces) :
    ∃ front w back rest, pieces = front ++ w :: back ∧ p.Fits {} front ∧ front.flatten = b ∧
      Atom.word.Admits {} w ∧ v ++ t = w ++ rest ∧
        Pattern.decompose? {} false (.word :: q) (v ++ t) = some (w :: back) ∧
          Pattern.decompose? {} false q rest = some back := by
  obtain ⟨front, others, tail, rfl, hfront, htail, hothers⟩ :=
    Pattern.exists_of_decompose?_append h
  obtain ⟨w, back, rest, rfl, hw, rfl, hback⟩ := Pattern.decompose?_cons hothers
  obtain ⟨ys, hy, hys⟩ := hp.exists_fits
  have hsame := Pattern.dropWhile_blank_eq hp.isLiteral hfront hy (s := w ++ rest) (t := v ++ t)
    (by rw [hys, ← htail])
  -- both texts begin with a word, so no blank is left in front of them
  rw [Pattern.dropWhile_isElastic_word strict rest hw,
    Pattern.dropWhile_isElastic_word strict t hv] at hsame
  have hflatten : front.flatten = b := by
    rw [hsame] at htail
    exact (List.append_cancel_right htail).symm
  rw [hsame] at hothers
  exact ⟨front, w, back, rest, rfl, hfront, hflatten, hw, hsame.symm, hothers, hback⟩

/-- The word that is found before a block is the one that stands there, if the block holds more than
word characters or ends the text. -/
theorem word_eq_of_decompose? {p q : Pattern} {b v w t rest : List Char}
    {back : List (List Char)} (hp : Block strict p b) (hv : Atom.word.Admits {} v)
    (hw : Atom.word.Admits {} w) (htext : v ++ (b ++ t) = w ++ rest)
    (hfound : Pattern.decompose? {} false (.word :: (p ++ q)) (v ++ (b ++ t)) = some (w :: back))
    (hback : Pattern.decompose? {} false (p ++ q) rest = some back)
    (hcase : b.all Text.isWordChar = false ∨ (q = [] ∧ t = [])) : w = v := by
  by_cases hb : b.all Text.isWordChar = true
  · rcases hcase with hcase | ⟨rfl, rfl⟩
    · rw [hb] at hcase
      cases hcase
    · rw [List.append_nil, List.append_nil] at hfound
      exact Pattern.word_eq_of_last_block hp hb hv hfound
  · obtain ⟨hfits, hrest, -⟩ := Pattern.fits_of_decompose? hback
    obtain ⟨xs, ys, rfl, hxs, -⟩ := Pattern.fits_append_iff.1 hfits
    rw [List.flatten_append] at hrest
    have hfront : xs.flatten <+: rest := (List.prefix_append _ _).trans hrest
    exact Pattern.word_eq_of_block hp (by simpa using hb) hxs hv.2 hw.2 hfront htext

end Word

/-! ## What is found in an instance -/

section Found

variable {strict : Bool} {left right remainder : List Char}

variable (strict remainder) in
/-- Behind a field of one word stands a block that holds more than word characters, or the last
block of the expression. -/
theorem exists_block_after {s : Segment} {segments : List Segment} {values : List (List Char)}
    {r text : List Char} (hs : s.field.multiplicity = .singleWord)
    (hchain : (s :: segments).IsChain (Segment.IsApart left right))
    (hr : Pattern.StandsFor strict right r)
    (htext : Segment.AreInstance strict left right remainder segments values text) :
    ∃ p q b t, Block strict p b ∧
      ofLiteral strict right ++ Compiled.layoutAtoms strict left right remainder segments =
        p ++ q ∧
      r ++ text = b ++ t ∧ (b.all Text.isWordChar = false ∨ (q = [] ∧ t = [])) := by
  have hright := Block.of_standsFor hr
  cases segments with
  | nil =>
    cases values with
    | cons => cases htext
    | nil =>
      refine ⟨_, [], _, [], hright.append (Block.of_standsFor htext), ?_, ?_, Or.inr ⟨rfl, rfl⟩⟩
      · rw [Compiled.layoutAtoms, List.append_nil]
      · rw [List.append_nil]
  | cons t segments =>
    cases values with
    | nil => cases htext
    | cons v values =>
      obtain ⟨gap, l, r', tail, rfl, hgap, hl, -⟩ := htext
      have hapart : Segment.IsApart left right s t := (List.isChain_cons_cons.1 hchain).1
      have hblock := hright.append ((Block.of_standsFor hgap).append (Block.of_standsFor hl))
      have hown := (Block.ofLiteral strict right).append
        ((Block.ofLiteral strict t.gap).append (Block.ofLiteral strict left))
      obtain ⟨q, hq⟩ : ∃ q, Compiled.layoutAtoms strict left right remainder (t :: segments) =
          ofLiteral strict t.gap ++ ofLiteral strict left ++ q := by
        rw [Compiled.layoutAtoms, Compiled.fieldAtoms]
        simp only [List.append_assoc]
        exact ⟨_, rfl⟩
      refine ⟨_, q, _, v ++ (r' ++ tail), hblock, ?_, ?_, Or.inl ?_⟩
      · rw [hq]
        simp only [List.append_assoc]
      · simp only [List.append_assoc]
      · rw [hblock.all_isWordChar_eq hown]
        exact hapart hs

/-- If every field holds one word, what is found for the rest of an expression in the rest of an
instance captures the values and is all of the text. The block in front of the first field is
kept apart, since it may begin with the right marker of the field before. -/
theorem captures_eq_of_decompose? {segments : List Segment} {values : List (List Char)}
    {p : Pattern} {b text : List Char} {pieces : List (List Char)}
    (hsingle : ∀ s ∈ segments, s.field.multiplicity = .singleWord)
    (hchain : segments.IsChain (Segment.IsApart left right))
    (htext : Segment.AreInstance strict left right remainder segments values text)
    (hp : Block strict p b)
    (h : Pattern.decompose? {} false
      (p ++ Compiled.layoutAtoms strict left right remainder segments) (b ++ text) =
        some pieces) :
    (p ++ Compiled.layoutAtoms strict left right remainder segments).captures pieces = values ∧
      pieces.flatten = b ++ text := by
  induction segments generalizing values text p b pieces with
  | nil =>
    cases values with
    | cons => cases htext
    | nil =>
      have hblock := hp.append (Block.of_standsFor htext)
      exact ⟨hblock.captures_eq_nil pieces, Pattern.flatten_eq_of_block hblock h⟩
  | cons s segments ih =>
    cases values with
    | nil => cases htext
    | cons v values =>
      obtain ⟨gap, l, r, tail, rfl, hgap, hl, hv, hr, htail⟩ := htext
      have hs := hsingle s List.mem_cons_self
      have hword : Atom.word.Admits {} v := by
        rw [hs] at hv
        exact hv
      -- the pattern and the text, cut at the first field
      have hpattern : p ++ Compiled.layoutAtoms strict left right remainder (s :: segments) =
          (p ++ (ofLiteral strict s.gap ++ ofLiteral strict left)) ++ .word ::
            (ofLiteral strict right ++
              Compiled.layoutAtoms strict left right remainder segments) := by
        rw [Compiled.layoutAtoms, Compiled.fieldAtoms, hs]
        simp [Multiplicity.capture]
      have hcut : b ++ (gap ++ (l ++ (v ++ (r ++ tail)))) =
          (b ++ (gap ++ l)) ++ (v ++ (r ++ tail)) := by
        simp
      have hfront : Block strict (p ++ (ofLiteral strict s.gap ++ ofLiteral strict left))
          (b ++ (gap ++ l)) :=
        hp.append ((Block.of_standsFor hgap).append (Block.of_standsFor hl))
      rw [hpattern, hcut] at h ⊢
      obtain ⟨front, w, back, rest, rfl, hfits, hflatten, hw, hrest, hfound, hback⟩ :=
        exists_of_decompose?_word hfront hword h
      obtain ⟨p', q, b', t, hblock, hq, ht, hcase⟩ :=
        exists_block_after strict remainder hs hchain hr htail
      obtain rfl : w = v := by
        rw [hq, ht] at hfound
        rw [ht] at hrest
        rw [hq] at hback
        exact word_eq_of_decompose? hblock hword hw hrest hfound hback hcase
      obtain rfl := List.append_cancel_left hrest
      obtain ⟨hcaptures, hall⟩ := ih (fun t ht => hsingle t (List.mem_cons_of_mem s ht))
        (List.isChain_cons.1 hchain).2 htail (Block.of_standsFor hr) hback
      constructor
      · rw [Pattern.captures_append hfits, hfront.captures_eq_nil, List.nil_append,
          Pattern.captures, if_pos (show Atom.word.isCapture = true from rfl), hcaptures]
      · rw [List.flatten_append, List.flatten_cons, hflatten, hall]

/-- An instance of an expression is found from its beginning on. -/
theorem exists_decompose?_of_isInstance {l : Layout} {values : List (List Char)}
    {text : List Char} (h : l.IsInstance strict left right values text) :
    ∃ pieces, Pattern.decompose? {} false (Compiled.ofLayout strict left right l).atoms text =
      some pieces := by
  obtain ⟨pieces, hfits, hflatten, -⟩ := exists_fits_layoutAtoms_iff.2 h
  have hprefix : pieces.flatten <+: text := ⟨[], by rw [List.append_nil, hflatten]⟩
  exact Option.isSome_iff_exists.1
    (Pattern.decompose?_isSome_of_fits hfits hprefix fun hm => absurd hm Bool.false_ne_true)

/-- If every field of an expression holds one word, searching an instance finds all of it with its
values. -/
theorem find_of_isInstance {e text : List Char} {values : List (List Char)}
    (hsingle : ∀ f ∈ (Layout.ofText left right e).fields, f.multiplicity = .singleWord)
    (h : (Layout.ofText left right e).IsInstance strict left right values text) :
    (Compiled.ofText strict left right e).find {} text =
      .ok (some ⟨values.map fun v => some (String.ofList v), 0, text.length⟩) := by
  obtain ⟨pieces, hpieces⟩ := exists_decompose?_of_isInstance h
  have hfields : ∀ s ∈ (Layout.ofText left right e).segments,
      s.field.multiplicity = .singleWord :=
    fun s hs => hsingle s.field (List.mem_map_of_mem hs)
  obtain ⟨hcaptures, hflatten⟩ := captures_eq_of_decompose? hfields
    (isChain_isApart left right e) h (Block.nil strict) hpieces
  have hgroups : (Compiled.ofText strict left right e).atoms.captures pieces = values := hcaptures
  have hall : pieces.flatten = text := hflatten
  have hfound : Pattern.decompose? {} false (Compiled.ofText strict left right e).atoms text =
      some pieces := hpieces
  rw [Compiled.find_eq, Pattern.search?_eq_of_decompose? hfound, Occurrence.ofPieces, hgroups,
    hall, Nat.zero_add]
  rfl

end Found

/-! ## Filling in and searching -/

theorem Segment.areInstance_fill {strict : Bool} {left right remainder : List Char}
    {segments : List Segment} {values : List (List Char)}
    (h : List.Forall₂ (fun s v => s.field.multiplicity.Accepts v) segments values) :
    Segment.AreInstance strict left right remainder segments values
      (Segment.fill left right remainder segments values) := by
  induction h with
  | nil => exact Pattern.standsFor_refl strict remainder
  | @cons s v segments values hv _ ih =>
    exact ⟨s.gap, left, right, _, rfl, Pattern.standsFor_refl strict s.gap,
      Pattern.standsFor_refl strict left, hv, Pattern.standsFor_refl strict right, ih⟩

namespace Layout

theorem Accepts.forall₂_segments {l : Layout} {values : List (List Char)} (h : l.Accepts values) :
    List.Forall₂ (fun s v => s.field.multiplicity.Accepts v) l.segments values :=
  (List.forall₂_map_left_iff (R := fun (f : Field) v => f.multiplicity.Accepts v)).1 h

/-- With its own names and stars, an expression is filled in as it stands. -/
theorem fill_name_star (left right e : List Char) :
    (ofText left right e).fill left right
      ((ofText left right e).fields.map fun f => f.name ++ f.multiplicity.star) = e := by
  have hfill : ∀ (remainder : List Char) (segments : List Segment),
      Segment.fill left right remainder segments
        (segments.map fun s => s.field.name ++ s.field.multiplicity.star) =
          toText left right ⟨segments, remainder⟩ := by
    intro remainder segments
    induction segments with
    | nil => rfl
    | cons s segments ih =>
      rw [List.map_cons, Segment.fill, ih]
      simp [toText, Field.raw]
  have htext := toText_ofText left right e
  rw [fields, List.map_map, fill]
  exact (hfill _ _).trans htext

/-- The fields of an expression accept their own names and stars. -/
theorem accepts_name_star (left right e : List Char) :
    (ofText left right e).Accepts
      ((ofText left right e).fields.map fun f => f.name ++ f.multiplicity.star) := by
  apply ofText_induction (motive := fun _ l => l.Accepts (l.fields.map _))
  · intro e _
    exact List.Forall₂.nil
  · intro gap f rest _ hread ih
    refine List.Forall₂.cons ?_ ih
    obtain ⟨hstands, -⟩ := Field.standsAt_of_read? hread
    obtain ⟨name, m⟩ := f
    cases m with
    | singleWord =>
      show Multiplicity.singleWord.Accepts (name ++ [])
      rw [List.append_nil]
      exact ⟨hstands.name_ne_nil, hstands.name_word⟩
    | multiWord =>
      show ∀ c ∈ name ++ ['*'], c ≠ '\n'
      intro c hc hnewline
      rw [hnewline] at hc
      rcases List.mem_append.1 hc with hc | hc
      · exact absurd (hstands.name_word _ hc) (by decide)
      · exact absurd hc (by decide)

end Layout

/-- A filled text is an instance. -/
theorem Layout.Accepts.isInstance_fill (strict : Bool) {left right e : List Char}
    {values : List (List Char)} (h : (ofText left right e).Accepts values) :
    (ofText left right e).IsInstance strict left right values
      ((ofText left right e).fill left right values) :=
  Segment.areInstance_fill h.forall₂_segments

/-- A text filled in is found from its beginning on. -/
theorem exists_decompose?_fill (strict : Bool) {left right e : List Char}
    {values : List (List Char)} (h : (Layout.ofText left right e).Accepts values) :
    ∃ pieces, Pattern.decompose? {} false (Compiled.ofText strict left right e).atoms
      ((Layout.ofText left right e).fill left right values) = some pieces :=
  exists_decompose?_of_isInstance (h.isInstance_fill strict)

/-- If every field holds one word, searching a filled text finds all of it with its values. -/
theorem find_fill_of_singleWord (strict : Bool) {left right e : List Char}
    {values : List (List Char)}
    (hsingle : ∀ f ∈ (Layout.ofText left right e).fields, f.multiplicity = .singleWord)
    (h : (Layout.ofText left right e).Accepts values) :
    (Compiled.ofText strict left right e).find {}
        ((Layout.ofText left right e).fill left right values) =
      .ok (some ⟨values.map fun v => some (String.ofList v), 0,
        ((Layout.ofText left right e).fill left right values).length⟩) :=
  find_of_isInstance hsingle (h.isInstance_fill strict)

/-- Searching a text that an expression was filled to finds a match at its beginning. If every field
holds one word, the match is the whole text and its captures are the values; so the expression
itself is matched, and each field captures its own name. -/
theorem find_fill (strict : Bool) (left right e : List Char) :
    (∀ values, (Layout.ofText left right e).Accepts values →
      ∃ hit, (Compiled.ofText strict left right e).find {}
          ((Layout.ofText left right e).fill left right values) = .ok (some hit) ∧
        hit.start = 0) ∧
    ((∀ f ∈ (Layout.ofText left right e).fields, f.multiplicity = .singleWord) →
      (∀ values, (Layout.ofText left right e).Accepts values →
        (Compiled.ofText strict left right e).find {}
            ((Layout.ofText left right e).fill left right values) =
          .ok (some ⟨values.map fun v => some (String.ofList v), 0,
            ((Layout.ofText left right e).fill left right values).length⟩)) ∧
      (Compiled.ofText strict left right e).find {} e =
        .ok (some ⟨(Layout.ofText left right e).fields.map fun f => some (String.ofList f.name),
          0, e.length⟩)) := by
  constructor
  · intro values hvalues
    obtain ⟨pieces, hpieces⟩ := exists_decompose?_fill strict hvalues
    let c := Compiled.ofText strict left right e
    refine ⟨(Occurrence.ofPieces c.atoms 0 pieces).hit, ?_, rfl⟩
    rw [Compiled.find_eq, Pattern.search?_eq_of_decompose? hpieces]
    rfl
  · intro hsingle
    refine ⟨fun values hvalues => find_fill_of_singleWord strict hsingle hvalues, ?_⟩
    have hown := find_fill_of_singleWord strict hsingle (Layout.accepts_name_star left right e)
    have hnames : ((Layout.ofText left right e).fields.map fun f =>
        f.name ++ f.multiplicity.star) = (Layout.ofText left right e).fields.map Field.name := by
      apply List.map_congr_left
      intro f hf
      rw [hsingle f hf]
      exact List.append_nil f.name
    rw [Layout.fill_name_star, hnames, List.map_map] at hown
    exact hown

/-- The names and values run over into the right marker, which is a word character here. -/
theorem find_fill_word_marker :
    (∀ f ∈ (Layout.ofText [] ['x'] "axx bx".toList).fields, f.multiplicity = .singleWord) ∧
      (Layout.ofText [] ['x'] "axx bx".toList).Accepts ["xx".toList, "x".toList] ∧
        (Compiled.ofText false [] ['x'] "axx bx".toList).find {} "xxx xx".toList =
          .ok (some ⟨[some "xx", some "x"], 0, 6⟩) := by
  have hlayout : Layout.ofText [] ['x'] "axx bx".toList =
      ⟨[⟨[], ⟨['a', 'x'], .singleWord⟩⟩, ⟨[' '], ⟨['b'], .singleWord⟩⟩], []⟩ := by
    decide
  have hsingle : ∀ f ∈ (Layout.ofText [] ['x'] "axx bx".toList).fields,
      f.multiplicity = .singleWord := by
    rw [hlayout]
    decide
  have haccepts : (Layout.ofText [] ['x'] "axx bx".toList).Accepts
      ["xx".toList, "x".toList] := by
    rw [hlayout]
    exact .cons ⟨by decide, List.all_eq_true.1 (by decide)⟩
      (.cons ⟨by decide, List.all_eq_true.1 (by decide)⟩ .nil)
  have hfound := ((find_fill false [] ['x'] "axx bx".toList).2 hsingle).1 _ haccepts
  rw [hlayout] at hfound
  exact ⟨hsingle, haccepts, hfound⟩

end FieldPattern

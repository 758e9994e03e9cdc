import FieldPattern.Expression.Compiled
import FieldPattern.Proofs.Expression.Reading

/-!
# Renaming fields

The names of fields are not part of what an expression matches: with markers that have no word
characters, an expression in which every name is replaced by some other word has the same pattern, and
its fields are the new names (`compiled_renamed`).

The renamed expression is read anew, so each of its fields has to be found again, at its place and with
its star, and nothing else may be found. Both rest on where a name can end. A name is a run of word
characters, no marker has one, and so what follows a name is decided by the text up to the next name,
which is not renamed (`read?_rename`). In the literal text before a field nothing could be read. What
is read there now would have to take in something of the new name (`StandsAt.raw_isPrefix_or`), hence
begin in the middle of a name, and then the old name would not have been read from there either.

A marker with word characters would break this, since a new name can complete it. Between the markers
`-` and `-b` the only field of `-a-c-b` is `c`, but in `-a-b-b` the field `a` is read first.
-/

namespace FieldPattern

/-- A text that can be the name of a field. -/
def IsName (name : List Char) : Prop :=
  name ≠ [] ∧ ∀ c ∈ name, Text.isWordChar c = true

instance : DecidablePred IsName := fun name =>
  decidable_of_iff (name ≠ [] ∧ name.all Text.isWordChar = true) (by rw [IsName, List.all_eq_true])

/-- The layout with other names for its fields, in order. -/
def Layout.rename (l : Layout) (names : List (List Char)) : Layout where
  segments := List.zipWith (fun s name => ⟨s.gap, ⟨name, s.field.multiplicity⟩⟩) l.segments names
  remainder := l.remainder

/-- The expression with other names for its fields, in order. -/
def renamed (left right e : List Char) (names : List (List Char)) : List Char :=
  ((Layout.ofText left right e).rename names).toText left right

/-! ## Texts up to a word -/

/-- A text without word characters that begins another one begins it before the first word. -/
theorem isPrefix_of_not_word {s t r : List Char} {c : Char}
    (hs : ∀ d ∈ s, Text.isWordChar d = false) (hc : Text.isWordChar c = true)
    (h : s <+: t ++ c :: r) : s <+: t := by
  rcases Nat.lt_or_ge t.length s.length with hlt | hge
  · have hword : t ++ [c] <+: s := by
      apply List.prefix_of_prefix_length_le ⟨r, by simp⟩ h
      rw [List.length_append, List.length_singleton]
      omega
    have hfalse := hs c (hword.subset (by simp))
    rw [hc] at hfalse
    cases hfalse
  · exact List.prefix_of_prefix_length_le h (List.prefix_append _ _) hge

/-- A text without word characters that comes before a word, as it comes behind another text, is
empty, and the other text is the word. -/
theorem eq_nil_of_append_comm {t d m : List Char} (ht : ∀ c ∈ t, Text.isWordChar c = false)
    (hd : d ≠ []) (h : t ++ m = d ++ t) (hm : ∀ c ∈ m, Text.isWordChar c = true) :
    t = [] ∧ ∀ c ∈ d, Text.isWordChar c = true := by
  have hlen := congrArg List.length h
  simp only [List.length_append] at hlen
  have hmne : m ≠ [] := by
    rintro rfl
    have hpos := List.length_pos_iff.2 hd
    rw [List.length_nil] at hlen
    omega
  have hnil : t = [] := by
    by_contra hne
    have hlast := congrArg List.getLast? h
    rw [List.getLast?_append, List.getLast?_append, List.getLast?_eq_some_getLast hmne,
      List.getLast?_eq_some_getLast hne, Option.some_or, Option.some_or] at hlast
    have htrue := hm _ (List.getLast_mem hmne)
    rw [Option.some.inj hlast, ht _ (List.getLast_mem hne)] at htrue
    cases htrue
  subst hnil
  rw [List.nil_append, List.append_nil] at h
  exact ⟨rfl, h ▸ hm⟩

/-- The texts are the same, or they are the same up to a place where both have a word character. -/
def AgreeToWord (s t : List Char) : Prop :=
  s = t ∨ ∃ common c r d u, s = common ++ c :: r ∧ t = common ++ d :: u ∧
    Text.isWordChar c = true ∧ Text.isWordChar d = true

namespace AgreeToWord

variable {s t : List Char}

/-- Behind the same text, a text without word characters that begins the one begins the other. -/
theorem isPrefix (h : AgreeToWord s t) {u v : List Char} (hu : ∀ c ∈ u, Text.isWordChar c = false)
    (hbegins : u <+: v ++ t) : u <+: v ++ s := by
  rcases h with rfl | ⟨common, c, r, d, w, rfl, rfl, -, hd⟩
  · exact hbegins
  · rw [← List.append_assoc] at hbegins ⊢
    exact (isPrefix_of_not_word hu hd hbegins).trans (List.prefix_append _ _)

/-- If the one begins with a word character, so does the other. -/
theorem exists_cons (h : AgreeToWord s t) {d : Char} {u : List Char} (ht : t = d :: u)
    (hd : Text.isWordChar d = true) : ∃ c r, s = c :: r ∧ Text.isWordChar c = true := by
  rcases h with rfl | ⟨common, c, r, d', u', rfl, rfl, hc, -⟩
  · exact ⟨d, u, ht, hd⟩
  · cases common with
    | nil => exact ⟨c, r, rfl, hc⟩
    | cons a common =>
      obtain ⟨rfl, -⟩ := List.cons.inj ht
      exact ⟨a, _, rfl, hd⟩

end AgreeToWord

/-! ## What is read -/

namespace Field

variable {left right : List Char}

theorem isWordChar_star {m : Multiplicity} : ∀ c ∈ m.star, Text.isWordChar c = false := by
  cases m with
  | singleWord => exact fun c hc => absurd hc List.not_mem_nil
  | multiWord =>
    intro c hc
    rw [List.mem_singleton.1 hc]
    decide

/-- A field with a word character in it is one word from its left marker up to that character. -/
theorem StandsAt.isWordChar_of_raw {s : List Char} {g : Field} (h : g.StandsAt left right s)
    (hright : ∀ c ∈ right, Text.isWordChar c = false) {m more : List Char} {c : Char}
    (hraw : g.raw left right = left ++ (m ++ c :: more)) (hc : Text.isWordChar c = true) :
    ∀ x ∈ m, Text.isWordChar x = true := by
  simp only [raw, List.append_assoc, List.append_right_inj] at hraw
  rcases List.append_eq_append_iff.1 hraw.symm with ⟨as, hname, -⟩ | ⟨as, -, hclosing⟩
  · intro x hx
    exact h.name_word x (by rw [hname]; exact List.mem_append_left _ hx)
  · have hmem : c ∈ g.multiplicity.star ++ right := by
      rw [hclosing]
      simp
    rcases List.mem_append.1 hmem with hmem | hmem
    · rw [isWordChar_star c hmem] at hc
      cases hc
    · rw [hright c hmem] at hc
      cases hc

/-- What stands in a text in front of a name, with the left marker of that name, ends before the name.
Otherwise its own name would have to run on into that name, through the left marker. -/
theorem StandsAt.raw_isPrefix_or (hleft : ∀ c ∈ left, Text.isWordChar c = false)
    (hright : ∀ c ∈ right, Text.isWordChar c = false) {d r : List Char} {c : Char} {g : Field}
    (hd : d ≠ []) (hc : Text.isWordChar c = true) (h : g.StandsAt left right (d ++ left ++ c :: r)) :
    g.raw left right <+: d ++ left ∨ (left = [] ∧ ∀ x ∈ d, Text.isWordChar x = true) := by
  have hraw := h.raw_prefix_text
  rcases Nat.lt_or_ge (d ++ left).length (g.raw left right).length with hlt | hge
  · right
    obtain ⟨more, hmore⟩ : d ++ left ++ [c] <+: g.raw left right := by
      apply List.prefix_of_prefix_length_le ⟨r, by simp⟩ hraw
      rw [List.length_append, List.length_singleton]
      omega
    -- `m` is what the field has behind its left marker and before `c`
    have hown : left <+: g.raw left right :=
      ⟨_, by rw [raw, List.append_assoc, List.append_assoc]⟩
    obtain ⟨m, hm⟩ : left <+: d ++ left := by
      apply List.prefix_of_prefix_length_le hown ⟨c :: more, by rw [← hmore]; simp⟩
      rw [List.length_append]
      omega
    have hfield : g.raw left right = left ++ (m ++ c :: more) := by
      rw [← hmore, ← hm]
      simp
    exact eq_nil_of_append_comm hleft hd hm (h.isWordChar_of_raw hright hfield hc)
  · left
    exact List.prefix_of_prefix_length_le hraw ⟨c :: r, by simp⟩ hge

/-- In the literal text before a field, nothing is read after a renaming that was not read before. -/
theorem read?_drop_rename (hleft : ∀ c ∈ left, Text.isWordChar c = false)
    (hright : ∀ c ∈ right, Text.isWordChar c = false) {gap rest rest' name : List Char} {f : Field}
    (hgap : ∀ p, p < gap.length → read? left right ((gap ++ f.raw left right ++ rest).drop p) = none)
    (hf : IsName f.name) (hname : IsName name) :
    ∀ p, p < gap.length →
      read? left right ((gap ++ (Field.mk name f.multiplicity).raw left right ++ rest').drop p) =
        none := by
  intro p hp
  have hnone := hgap p hp
  rw [List.append_assoc, List.drop_append_of_le_length (Nat.le_of_lt hp)] at hnone ⊢
  have hd : gap.drop p ≠ [] := by
    rw [ne_eq, List.drop_eq_nil_iff]
    omega
  generalize gap.drop p = d at hd hnone ⊢
  rw [read?_eq_none_iff] at hnone ⊢
  intro g hg
  obtain ⟨c, more, rfl⟩ := List.exists_cons_of_ne_nil hname.1
  have htext : d ++ ((Field.mk (c :: more) f.multiplicity).raw left right ++ rest') =
      d ++ left ++ c :: (more ++ f.multiplicity.star ++ right ++ rest') := by
    simp [raw]
  rw [htext] at hg
  rcases hg.raw_isPrefix_or hleft hright hd (hname.2 c List.mem_cons_self) with hbefore | ⟨rfl, hall⟩
  · refine hnone g ⟨hg.name_ne_nil, hg.name_word, hbefore.trans ⟨?_, ?_⟩⟩
    · exact f.name ++ f.multiplicity.star ++ right ++ rest
    · simp [raw]
  · -- the old name would have been read from there, together with the text before it
    refine hnone ⟨d ++ f.name, f.multiplicity⟩ ⟨?_, ?_, rest, ?_⟩
    · exact List.append_ne_nil_of_left_ne_nil hd _
    · intro x hx
      rcases List.mem_append.1 hx with hx | hx
      · exact hall x hx
      · exact hf.2 x hx
    · simp [raw]

/-- If a word character can follow a field, the field ends with its name. -/
theorem eq_nil_of_cons_prefix {m : Multiplicity} (hright : ∀ c ∈ right, Text.isWordChar c = false)
    {c : Char} {more rest : List Char} (hc : Text.isWordChar c = true)
    (h : c :: more <+: m.star ++ (right ++ rest)) : m = .singleWord ∧ right = [] := by
  cases m with
  | multiWord =>
    obtain ⟨rfl, -⟩ := List.cons_prefix_cons.1 h
    exact absurd hc (by decide)
  | singleWord =>
    cases right with
    | nil => exact ⟨rfl, rfl⟩
    | cons b right =>
      obtain ⟨rfl, -⟩ := List.cons_prefix_cons.1 h
      rw [hright c List.mem_cons_self] at hc
      cases hc

/-- Behind a new name stands no longer one, if behind the old name there was none. -/
theorem length_le_of_rename (hright : ∀ c ∈ right, Text.isWordChar c = false)
    {rest rest' name : List Char} {f g : Field}
    (hread : read? left right (f.raw left right ++ rest) = some f)
    (hrest : AgreeToWord rest rest')
    (hg : g.StandsAt left right ((Field.mk name f.multiplicity).raw left right ++ rest')) :
    g.name.length ≤ name.length := by
  obtain ⟨hf, hlongest⟩ := standsAt_of_read? hread
  by_contra hlong
  have hbegins : g.name <+: name ++ (f.multiplicity.star ++ (right ++ rest')) := by
    have hraw := hg.raw_prefix_text
    simp only [raw, List.append_assoc, List.prefix_append_right_inj] at hraw
    exact (List.prefix_append _ _).trans hraw
  obtain ⟨more, hmore⟩ : name <+: g.name :=
    List.prefix_of_prefix_length_le (List.prefix_append _ _) hbegins (by omega)
  cases more with
  | nil =>
    rw [List.append_nil] at hmore
    rw [hmore] at hlong
    exact hlong (Nat.le_refl _)
  | cons c more =>
    have hc : Text.isWordChar c = true := hg.name_word c (by rw [← hmore]; simp)
    rw [← hmore, List.prefix_append_right_inj] at hbegins
    obtain ⟨hm, rfl⟩ := eq_nil_of_cons_prefix hright hc hbegins
    obtain ⟨tail, htail⟩ := hbegins
    rw [hm] at htail
    -- then the old name would have been longer by one character
    obtain ⟨d, r, rfl, hd⟩ := hrest.exists_cons htail.symm hc
    have hlonger : (Field.mk (f.name ++ [d]) .singleWord).StandsAt left []
        (f.raw left [] ++ d :: r) := by
      refine ⟨by simp, ?_, r, by simp [raw, hm, Multiplicity.star]⟩
      intro x hx
      rcases List.mem_append.1 hx with hx | hx
      · exact hf.name_word x hx
      · rw [List.mem_singleton.1 hx]
        exact hd
    have hle := hlongest _ hlonger
    rw [List.length_append, List.length_singleton] at hle
    omega

/-- A field that is read is read after a renaming, with its star. -/
theorem read?_rename (hright : ∀ c ∈ right, Text.isWordChar c = false)
    {rest rest' name : List Char} {f : Field}
    (hread : read? left right (f.raw left right ++ rest) = some f) (hname : IsName name)
    (hrest : AgreeToWord rest rest') :
    read? left right ((Field.mk name f.multiplicity).raw left right ++ rest') =
      some ⟨name, f.multiplicity⟩ := by
  obtain ⟨hf, -, hstar⟩ := read?_eq_some_iff.1 hread
  rw [read?_eq_some_iff]
  refine ⟨⟨hname.1, hname.2, List.prefix_append _ _⟩,
    fun g hg => length_le_of_rename hright hread hrest hg, ?_⟩
  rintro ⟨-, -, hbegins⟩
  cases hm : f.multiplicity with
  | multiWord => rfl
  | singleWord =>
    have hclosing : ∀ c ∈ '*' :: right, Text.isWordChar c = false := by
      intro c hc
      rcases List.mem_cons.1 hc with rfl | hc
      · decide
      · exact hright c hc
    simp only [raw, hm, Multiplicity.star, List.append_assoc, List.prefix_append_right_inj,
      List.nil_append, List.singleton_append] at hbegins
    have hold : '*' :: right <+: right ++ rest := hrest.isPrefix hclosing hbegins
    have hmulti : f.multiplicity = .multiWord := by
      refine hstar ⟨hf.name_ne_nil, hf.name_word, ?_⟩
      simpa only [raw, hm, Multiplicity.star, List.append_assoc, List.prefix_append_right_inj,
        List.nil_append, List.singleton_append] using hold
    rw [hm] at hmulti
    exact hmulti

end Field

/-! ## The layout -/

namespace Layout

variable {left right : List Char}

theorem isName_of_read? {s : List Char} {f : Field} (h : Field.read? left right s = some f) :
    IsName f.name :=
  ⟨(Field.standsAt_of_read? h).1.name_ne_nil, (Field.standsAt_of_read? h).1.name_word⟩

/-- An expression and a renamed one agree up to the first name. -/
theorem agreeToWord_renamed (left right e : List Char) {names : List (List Char)}
    (hlen : names.length = (ofText left right e).segments.length)
    (hnames : ∀ name ∈ names, IsName name) : AgreeToWord e (renamed left right e names) := by
  rw [renamed]
  rcases ofText_cases left right e with ⟨-, htext⟩ | ⟨gap, f, rest, rfl, -, hread, htext⟩
  · rw [htext]
    exact Or.inl rfl
  · rw [htext] at hlen ⊢
    cases names with
    | nil => cases hlen
    | cons name names =>
      obtain ⟨hne, hword⟩ := isName_of_read? hread
      obtain ⟨hne', hword'⟩ := hnames name List.mem_cons_self
      obtain ⟨c, r, hc⟩ := List.exists_cons_of_ne_nil hne
      obtain ⟨d, u, rfl⟩ := List.exists_cons_of_ne_nil hne'
      refine Or.inr ⟨gap ++ left, c, r ++ f.multiplicity.star ++ right ++ rest, d,
        u ++ f.multiplicity.star ++ right ++
          toText left right (rename (ofText left right rest) names), ?_, ?_,
        hword c (by simp [hc]), hword' d (by simp)⟩
      · simp [Field.raw, hc]
      · simp [rename, toText, Field.raw]

/-- The layout of a renamed expression is the renamed layout. -/
theorem ofText_renamed (hleft : ∀ c ∈ left, Text.isWordChar c = false)
    (hright : ∀ c ∈ right, Text.isWordChar c = false) (e : List Char) {names : List (List Char)}
    (hlen : names.length = (ofText left right e).segments.length)
    (hnames : ∀ name ∈ names, IsName name) :
    ofText left right (renamed left right e names) = (ofText left right e).rename names := by
  rw [renamed]
  revert names
  apply ofText_induction (motive := fun _ l => ∀ {names : List (List Char)},
    names.length = l.segments.length → (∀ name ∈ names, IsName name) →
      ofText left right ((l.rename names).toText left right) = l.rename names)
  · intro e hnone names _ _
    have hall : ofText left right (e ++ []) = e.foldr prepend (ofText left right []) := by
      apply ofText_append
      intro p _
      rw [List.append_nil]
      exact hnone p
    have hempty : ofText left right [] = ⟨[], []⟩ := rfl
    rw [List.append_nil, hempty, foldr_prepend_nil, List.append_nil] at hall
    exact hall
  · intro gap f rest hgap hread ih names hlen hnames
    cases names with
    | nil => cases hlen
    | cons name names =>
      have hname : IsName name := hnames name List.mem_cons_self
      have hnames' : ∀ name ∈ names, IsName name :=
        fun n hn => hnames n (List.mem_cons_of_mem _ hn)
      have hlen' : names.length = (ofText left right rest).segments.length := by
        simpa using hlen
      have hfield := Field.read?_rename hright hread hname
        (agreeToWord_renamed left right rest hlen' hnames')
      have hbefore : ∀ p, p < gap.length → Field.read? left right
          ((gap ++ ((Field.mk name f.multiplicity).raw left right ++
            renamed left right rest names)).drop p) = none := by
        rw [← List.append_assoc]
        exact Field.read?_drop_rename hleft hright hgap (isName_of_read? hread) hname
      have htext : toText left right (rename ⟨⟨gap, f⟩ :: (ofText left right rest).segments,
          (ofText left right rest).remainder⟩ (name :: names)) =
          gap ++ ((Field.mk name f.multiplicity).raw left right ++
            renamed left right rest names) := by
        simp [rename, toText, renamed]
      rw [htext, ofText_append hbefore, ofText_raw_append hfield, addField, foldr_prepend_cons,
        List.append_nil, renamed, ih hlen' hnames']
      rfl

/-- The captures and the literal texts are those of the layout before the renaming. -/
theorem layoutAtoms_rename (strict : Bool) (left right : List Char) {l : Layout}
    {names : List (List Char)} (hlen : names.length = l.segments.length) :
    Compiled.layoutAtoms strict left right (l.rename names).remainder (l.rename names).segments =
      Compiled.layoutAtoms strict left right l.remainder l.segments := by
  obtain ⟨segments, remainder⟩ := l
  dsimp only [rename] at hlen ⊢
  induction segments generalizing names with
  | nil => rw [List.zipWith_nil_left]
  | cons s segments ih =>
    cases names with
    | nil => cases hlen
    | cons name names =>
      have hlen' : names.length = segments.length := by simpa using hlen
      have hlast : (List.zipWith (fun s name => Segment.mk s.gap ⟨name, s.field.multiplicity⟩)
          segments names).isEmpty = segments.isEmpty := by
        rw [Bool.eq_iff_iff, List.isEmpty_iff, List.isEmpty_iff, ← List.length_eq_zero_iff,
          ← List.length_eq_zero_iff, List.length_zipWith, hlen', Nat.min_self]
      rw [List.zipWith_cons_cons, Compiled.layoutAtoms, Compiled.layoutAtoms, ih hlen', hlast]
      rfl

theorem names_rename {l : Layout} {names : List (List Char)}
    (hlen : names.length = l.segments.length) : (l.rename names).fields.map (·.name) = names := by
  apply List.ext_getElem
  · simp [fields, rename, hlen]
  · intro i _ _
    simp [fields, rename]

end Layout

/-- Between markers without word characters, the names of the fields do not influence the pattern:
with other names in their places, an expression has the same pattern, and its fields are the new
names. -/
theorem compiled_renamed (strict : Bool) {left right : List Char}
    (hleft : ∀ c ∈ left, Text.isWordChar c = false)
    (hright : ∀ c ∈ right, Text.isWordChar c = false) (e : List Char) {names : List (List Char)}
    (hlen : names.length = (Compiled.ofText strict left right e).fields.length)
    (hnames : ∀ name ∈ names, IsName name) :
    Compiled.ofText strict left right (renamed left right e names) =
      { Compiled.ofText strict left right e with fields := names.map String.ofList } := by
  have hsegments : names.length = (Layout.ofText left right e).segments.length := by
    rw [hlen, Compiled.ofText, Compiled.ofLayout, Layout.fields, List.length_map, List.length_map]
  have hfields := Layout.names_rename hsegments
  rw [Compiled.ofText, Layout.ofText_renamed hleft hright e hsegments hnames, Compiled.ofLayout,
    Layout.layoutAtoms_rename strict left right hsegments]
  conv => rhs; rw [← hfields, List.map_map]
  rfl

/-- The right marker is twice the left one, and pieces of both stand in the literal text. -/
theorem compiled_renamed_overlapping :
    renamed ['*'] ['*', '*'] "**a*** *b**c*d** e***".toList
        ["i_1".toList, "2".toList, "xyz".toList] = "**i_1*** *2**c*xyz** e***".toList ∧
      Compiled.ofText false ['*'] ['*', '*'] "**i_1*** *2**c*xyz** e***".toList =
        { Compiled.ofText false ['*'] ['*', '*'] "**a*** *b**c*d** e***".toList with
          fields := ["i_1", "2", "xyz"] } := by
  have hstar : Text.isWordChar '*' = false := by decide
  have hleft : ∀ c ∈ ['*'], Text.isWordChar c = false := by simp [hstar]
  have hright : ∀ c ∈ ['*', '*'], Text.isWordChar c = false := by simp [hstar]
  have hnames : ∀ name ∈ ["i_1".toList, "2".toList, "xyz".toList], IsName name := by decide
  have hlen : ["i_1".toList, "2".toList, "xyz".toList].length =
      (Compiled.ofText false ['*'] ['*', '*'] "**a*** *b**c*d** e***".toList).fields.length := by
    decide
  have htext : renamed ['*'] ['*', '*'] "**a*** *b**c*d** e***".toList
      ["i_1".toList, "2".toList, "xyz".toList] = "**i_1*** *2**c*xyz** e***".toList := by decide
  have hcompiled := compiled_renamed false hleft hright _ hlen hnames
  rw [htext] at hcompiled
  exact ⟨htext, hcompiled⟩

/-- With a word character in a marker, a new name can complete the marker. -/
example :
    (Compiled.ofText false ['-'] ['-', 'b'] "-a-c-b".toList).fields = ["c"] ∧
      renamed ['-'] ['-', 'b'] "-a-c-b".toList [['b']] = "-a-b-b".toList ∧
        (Compiled.ofText false ['-'] ['-', 'b'] "-a-b-b".toList).fields = ["a"] := by
  decide

end FieldPattern

import FieldPattern.Markers
import FieldPattern.Proofs.Matching.Filling
import FieldPattern.Proofs.Text.Collapse

/-!
# Runs of blanks across markers

With elastic white space a run of blanks of the expression should match any blanks. But the gap in
front of a field, its markers and the text behind the last field are compiled one by one. A run that
goes through two of them becomes white space twice, and each asks for a blank of its own. So a
filled expression is matched in another spacing exactly if this has, in place of each run, at least
as many blanks as there are pieces that the run goes through.

This is said by collapsing the pieces one by one (`Layout.fillCollapsed`): there each run has one
blank for each piece, and the texts that are matched are those to which it can be stretched
(`findsAtStart_respaced_iff`). With one blank for each run only those expressions are matched in
which no run goes through two pieces.
-/

namespace FieldPattern

open Text (Respaced Stretched collapse IsSingleSpaced)

/-- The expression with values in place of names and stars, and with gaps, markers and remainder
collapsed one by one. -/
def Layout.fillCollapsed (left right : List Char) (l : Layout) (values : List (List Char)) :
    List Char :=
  Segment.fill (collapse left) (collapse right) (collapse l.remainder)
    (l.segments.map fun s => { s with gap := collapse s.gap }) values

/-- The first match in the text begins where the text does and has these captures. -/
def Compiled.FindsAtStart (c : Compiled) (values : List (List Char)) (text : List Char) : Prop :=
  ∃ hit, c.find {} text = .ok (some hit) ∧ hit.start = 0 ∧
    hit.groups = values.map fun v => some (String.ofList v)

/-! ## Instances are stretched -/

section Instance

variable {left right : List Char}

theorem Multiplicity.isBlank_of_accepts {v : List Char}
    (h : Multiplicity.singleWord.Accepts v) : ∀ c ∈ v, Text.isBlank c = false := by
  intro c hc
  by_contra hblank
  have hword := Text.isWordChar_eq_false_of_isBlank (by simpa using hblank)
  rw [h.2 c hc] at hword
  cases hword

theorem Segment.areInstance_iff_stretched {remainder t : List Char} {segments : List Segment}
    {values : List (List Char)}
    (hsingle : ∀ s ∈ segments, s.field.multiplicity = .singleWord)
    (hvalues : List.Forall₂ (fun s v => s.field.multiplicity.Accepts v) segments values) :
    AreInstance false left right remainder segments values t ↔
      Stretched (fill (collapse left) (collapse right) (collapse remainder)
        (segments.map fun s => { s with gap := collapse s.gap }) values) t := by
  induction hvalues generalizing t with
  | nil => exact Text.stretched_collapse_iff.symm
  | @cons s v segments values hv _ ih =>
    have hsolid : ∀ c ∈ v, Text.isBlank c = false := by
      rw [hsingle s List.mem_cons_self] at hv
      exact Multiplicity.isBlank_of_accepts hv
    have hrest := fun t => ih (t := t) fun u hu => hsingle u (List.mem_cons_of_mem s hu)
    simp only [List.map_cons, fill, Text.stretched_append_iff, Text.stretched_collapse_iff,
      Text.stretched_solid_iff hsolid]
    constructor
    · rintro ⟨gap, l, r, tail, rfl, hgap, hl, -, hr, htail⟩
      exact ⟨gap, _, rfl, hgap, l, _, rfl, hl, v, _, rfl, rfl, r, tail, rfl, hr,
        (hrest tail).1 htail⟩
    · rintro ⟨gap, _, rfl, hgap, l, _, rfl, hl, _, _, rfl, rfl, r, tail, rfl, hr, htail⟩
      exact ⟨gap, l, r, tail, rfl, hgap, hl, hv, hr, (hrest tail).2 htail⟩

/-- With elastic white space, the instances of an expression with these words as values are the
texts to which the collapsed filling can be stretched. -/
theorem Layout.isInstance_iff_stretched {e t : List Char} {values : List (List Char)}
    (hsingle : ∀ f ∈ (ofText left right e).fields, f.multiplicity = .singleWord)
    (hvalues : (ofText left right e).Accepts values) :
    (ofText left right e).IsInstance false left right values t ↔
      Stretched ((ofText left right e).fillCollapsed left right values) t :=
  Segment.areInstance_iff_stretched (fun s hs => hsingle s.field (List.mem_map_of_mem hs))
    hvalues.forall₂_segments

theorem Layout.collapse_fillCollapsed {e : List Char} {values : List (List Char)}
    (hsingle : ∀ f ∈ (ofText left right e).fields, f.multiplicity = .singleWord)
    (hvalues : (ofText left right e).Accepts values) :
    collapse ((ofText left right e).fillCollapsed left right values) =
      collapse ((ofText left right e).fill left right values) :=
  ((isInstance_iff_stretched hsingle hvalues).1 (hvalues.isInstance_fill false)).collapse_eq

end Instance

/-! ## What is matched -/

section Match

variable {left right e t : List Char} {values : List (List Char)}

/-- A match at the start covers an instance with which the text begins. -/
theorem exists_isInstance_of_findsAtStart {strict : Bool}
    (h : (Compiled.ofText strict left right e).FindsAtStart values t) :
    ∃ front more, t = front ++ more ∧
      (Layout.ofText left right e).IsInstance strict left right values front := by
  obtain ⟨hit, hfind, hstart, hgroups⟩ := h
  rw [Compiled.find_eq] at hfind
  obtain ⟨o, ho, rfl⟩ := Option.map_eq_some_iff.1 (Except.ok.inj hfind)
  rcases Pattern.search?_cases {} (Compiled.ofText strict left right e).atoms t with
    ⟨hnone, -⟩ | ⟨i, pieces, -, -, hpieces, hsome⟩
  · rw [hnone] at ho
    cases ho
  · obtain rfl := Option.some.inj (hsome.symm.trans ho)
    obtain rfl : i = 0 := hstart
    have hcaptures : (Compiled.ofText strict left right e).atoms.captures pieces = values := by
      refine List.map_injective_iff.2 (fun u v huv => ?_) hgroups
      exact String.ofList_injective (Option.some.inj huv)
    have hinstance := isInstance_of_decompose? hpieces
    rw [List.extract_eq_take_drop, Nat.zero_add, Nat.sub_zero, List.drop_zero] at hinstance
    let n := pieces.flatten.length
    refine ⟨t.take n, t.drop n, (List.take_append_drop n t).symm, ?_⟩
    rw [← hcaptures]
    exact hinstance

/-- In another spacing, a filled expression is matched exactly if the collapsed filling can be
stretched to it. -/
theorem findsAtStart_respaced_iff
    (hsingle : ∀ f ∈ (Layout.ofText left right e).fields, f.multiplicity = .singleWord)
    (hvalues : (Layout.ofText left right e).Accepts values)
    (ht : Respaced ((Layout.ofText left right e).fill left right values) t) :
    (Compiled.ofText false left right e).FindsAtStart values t ↔
      Stretched ((Layout.ofText left right e).fillCollapsed left right values) t := by
  constructor
  · intro h
    obtain ⟨front, more, rfl, hinstance⟩ := exists_isInstance_of_findsAtStart h
    have hfront := (Layout.isInstance_iff_stretched hsingle hvalues).1 hinstance
    have hcollapse : collapse (front ++ more) = collapse front := by
      rw [← hfront.collapse_eq, Layout.collapse_fillCollapsed hsingle hvalues]
      exact (Text.respaced_iff_collapse_eq.1 ht).symm
    rcases Text.blanks_of_collapse_append hcollapse with rfl | ⟨hlast, hmore⟩
    · rw [List.append_nil]
      exact hfront
    · exact hfront.append_blanks hlast hmore
  · intro h
    have hinstance := (Layout.isInstance_iff_stretched hsingle hvalues).2 h
    exact ⟨_, find_of_isInstance hsingle hinstance, rfl, rfl⟩

/-- Let an expression of fields of one word be filled in, and white space be elastic. A text in
which the runs of blanks are replaced by others is matched from its start, with these values,
exactly if each run has a blank for each piece of the expression that it goes through; and then the
whole text is matched. If each run is replaced by a single blank, this is so exactly if no two
blanks meet where the collapsed pieces are joined. -/
theorem find_respaced_fill
    (hsingle : ∀ f ∈ (Layout.ofText left right e).fields, f.multiplicity = .singleWord)
    (hvalues : (Layout.ofText left right e).Accepts values) :
    (∀ t, Respaced ((Layout.ofText left right e).fill left right values) t →
      ((Compiled.ofText false left right e).FindsAtStart values t ↔
        Stretched ((Layout.ofText left right e).fillCollapsed left right values) t) ∧
      ((Compiled.ofText false left right e).FindsAtStart values t →
        (Compiled.ofText false left right e).find {} t =
          .ok (some ⟨values.map fun v => some (String.ofList v), 0, t.length⟩))) ∧
    ∀ t, Respaced ((Layout.ofText left right e).fill left right values) t → IsSingleSpaced t →
      ((Compiled.ofText false left right e).FindsAtStart values t ↔
        IsSingleSpaced ((Layout.ofText left right e).fillCollapsed left right values)) := by
  constructor
  · intro t ht
    have hfinds := findsAtStart_respaced_iff hsingle hvalues ht
    refine ⟨hfinds, fun h => ?_⟩
    exact find_of_isInstance hsingle
      ((Layout.isInstance_iff_stretched hsingle hvalues).2 (hfinds.1 h))
  · intro t ht hspaced
    rw [findsAtStart_respaced_iff hsingle hvalues ht]
    constructor
    · intro h
      exact h.isSingleSpaced hspaced
    · intro h
      rw [h.stretched_iff, Text.respaced_iff_collapse_eq,
        Layout.collapse_fillCollapsed hsingle hvalues]
      exact Text.respaced_iff_collapse_eq.1 ht

/-- The run in front of the field goes through the gap and the left marker. It may become a space
and a tab, but not a single space. -/
theorem find_respaced_fill_colon :
    (∀ f ∈ (Layout.ofText " <".toList "> ".toList "k:  <a> ".toList).fields,
        f.multiplicity = .singleWord) ∧
      (Layout.ofText " <".toList "> ".toList "k:  <a> ".toList).Accepts ["x".toList] ∧
        (Compiled.ofText false " <".toList "> ".toList "k:  <a> ".toList).FindsAtStart
          ["x".toList] "k: \t<x>\n".toList ∧
        ¬ (Compiled.ofText false " <".toList "> ".toList "k:  <a> ".toList).FindsAtStart
          ["x".toList] "k: <x>\n".toList := by
  have hlayout : Layout.ofText " <".toList "> ".toList "k:  <a> ".toList =
      ⟨[⟨['k', ':', ' '], ⟨['a'], .singleWord⟩⟩], []⟩ := by
    decide
  have hsingle : ∀ f ∈ (Layout.ofText " <".toList "> ".toList "k:  <a> ".toList).fields,
      f.multiplicity = .singleWord := by
    rw [hlayout]
    decide
  have haccepts : (Layout.ofText " <".toList "> ".toList "k:  <a> ".toList).Accepts
      ["x".toList] := by
    rw [hlayout]
    exact .cons ⟨by decide, List.all_eq_true.1 (by decide)⟩ .nil
  obtain ⟨hrespaced, hsingleSpaced⟩ := find_respaced_fill hsingle haccepts
  rw [hlayout] at hrespaced hsingleSpaced
  refine ⟨hsingle, haccepts, ?_, ?_⟩
  · refine (hrespaced _ ?_).1.2
      ⟨["k", ":", " ", "\t", "<", "x", ">", "\n"].map String.toList, ?_, rfl⟩
    · exact ⟨["k:", " \t", "<x>", "\n"].map String.toList, by decide, rfl⟩
    · decide
  · have hrun : Respaced "k:  <x> ".toList "k: <x>\n".toList :=
      ⟨["k:", " ", "<x>", "\n"].map String.toList, by decide, rfl⟩
    intro h
    exact absurd ((hsingleSpaced _ hrun (by decide)).1 h) (by decide)

/-- It is not so that white space of an expression is matched by any white space: the run between
the two fields goes through a right and a left marker, and a single space is not enough for it. The
markers are what the text ` <> ` denotes. -/
theorem not_findsAtStart_adjacent_markers :
    Markers.resolve (.str " <> ") = .ok (.ofTexts " <" "> ") ∧
      ¬ ∀ (left right e : List Char) (values : List (List Char)) (t : List Char),
        (∀ f ∈ (Layout.ofText left right e).fields, f.multiplicity = .singleWord) →
        (Layout.ofText left right e).Accepts values →
        Respaced ((Layout.ofText left right e).fill left right values) t → IsSingleSpaced t →
          (Compiled.ofText false left right e).FindsAtStart values t := by
  constructor
  · rfl
  intro h
  have hlayout : Layout.ofText " <".toList "> ".toList " <a>  <b> ".toList =
      ⟨[⟨[], ⟨['a'], .singleWord⟩⟩, ⟨[], ⟨['b'], .singleWord⟩⟩], []⟩ := by
    decide
  have hnone : (Compiled.ofText false " <".toList "> ".toList " <a>  <b> ".toList).find {}
      " <x> <y> ".toList = .ok none := by
    rfl
  have hfinds := h " <".toList "> ".toList " <a>  <b> ".toList ["x".toList, "y".toList]
    " <x> <y> ".toList
  rw [hlayout] at hfinds
  obtain ⟨hit, hfind, -⟩ := hfinds (by decide)
    (.cons ⟨by decide, List.all_eq_true.1 (by decide)⟩
      (.cons ⟨by decide, List.all_eq_true.1 (by decide)⟩ .nil))
    ⟨[" ", "<x>", " ", "<y>", " "].map String.toList, by decide, rfl⟩ (by decide)
  cases hnone.symm.trans hfind

end Match
end FieldPattern

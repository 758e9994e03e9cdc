import FieldPattern.Expression.Compiled
import FieldPattern.Proofs.Expression.Reading
import FieldPattern.Proofs.Pattern.Literal

/-!
# Expressions that are spaced differently

With elastic white space and markers without blanks, the compiled form of an expression does not tell
how its blanks are spaced (`compiled_respaced`). A field has no blanks then, so no run of blanks goes
through a field, and the fields that stand at the head of a text stand at the head of its respacing
as well (`read?_respaced`). Both expressions are read in step: what is no blank is read in both, and a
run of blanks goes before what follows it, in the one expression as in the other. The layouts that
come out have the same fields and respaced texts between them, and to elastic white space these are
the same.

A marker with a blank in it would break the first step. It is not respaced along with the
expression, so a field that stood there stands there no more.
-/

namespace FieldPattern

/-! ## Literal texts -/

/-- A run in front of a text is a run in front of any beginning of that text. -/
theorem Text.IsRun.of_prefix {blank : Bool} {run rest s : List Char} (h : IsRun blank run rest)
    (hs : s <+: rest) : IsRun blank run s where
  ne_nil := h.ne_nil
  isBlank_eq := h.isBlank_eq
  head_ne c hc := by
    obtain ⟨tail, rfl⟩ := hs
    apply h.head_ne
    rw [List.head?_append, hc]
    rfl

theorem Pattern.elastic_respaced {s t : List Char} (h : Text.Respaced s t) :
    elastic s = elastic t := by
  induction s using Text.runs_induction generalizing t with
  | nil => rw [Text.respaced_nil_iff.1 h]
  | append blank run rest hrun ih =>
    cases blank with
    | true =>
      obtain ⟨new, tail, rfl, hnew, htail⟩ := (Text.respaced_run_iff hrun).1 h
      rw [elastic_append_of_blank hrun, elastic_append_of_blank hnew, ih htail]
    | false =>
      obtain ⟨tail, rfl, htail⟩ := (Text.respaced_append_of_solid hrun.isBlank_eq).1 h
      rw [elastic_append_of_not_blank rest hrun.isBlank_eq,
        elastic_append_of_not_blank tail hrun.isBlank_eq, ih htail]

/-! ## Fields -/

namespace Field

variable {left right : List Char}

/-- Between markers without blanks, a field has no blanks. -/
theorem StandsAt.isBlank_raw {s : List Char} {f : Field} (h : f.StandsAt left right s)
    (hleft : ∀ c ∈ left, Text.isBlank c = false) (hright : ∀ c ∈ right, Text.isBlank c = false) :
    ∀ c ∈ f.raw left right, Text.isBlank c = false := by
  intro c hc
  rcases List.mem_append.1 hc with hc | hc
  · rcases List.mem_append.1 hc with hc | hc
    · rcases List.mem_append.1 hc with hc | hc
      · exact hleft c hc
      · by_contra hblank
        have hword := Text.isWordChar_eq_false_of_isBlank (by simpa using hblank)
        rw [h.name_word c hc] at hword
        cases hword
    · cases hm : f.multiplicity with
      | singleWord =>
        rw [hm] at hc
        cases hc
      | multiWord =>
        rw [hm] at hc
        rw [List.mem_singleton.1 hc]
        decide
  · exact hright c hc

/-- No field stands where a blank is. -/
theorem read?_eq_none_of_isBlank (hleft : ∀ c ∈ left, Text.isBlank c = false)
    (hright : ∀ c ∈ right, Text.isBlank c = false) {c : Char} (hc : Text.isBlank c = true)
    (r : List Char) : read? left right (c :: r) = none := by
  rw [read?_eq_none_iff]
  intro f hf
  have hraw : f.raw left right ≠ [] := by simp [raw, hf.name_ne_nil]
  obtain ⟨d, more, hd⟩ := List.exists_cons_of_ne_nil hraw
  have hsolid := hf.isBlank_raw hleft hright
  have hbegins := hf.raw_prefix_text
  rw [hd] at hsolid hbegins
  rw [List.cons_prefix_cons] at hbegins
  have hfalse := hsolid d List.mem_cons_self
  rw [hbegins.1, hc] at hfalse
  cases hfalse

/-- The same field is read in a text and in its respacing. -/
theorem read?_respaced (hleft : ∀ c ∈ left, Text.isBlank c = false)
    (hright : ∀ c ∈ right, Text.isBlank c = false) {s t : List Char} (h : Text.Respaced s t) :
    read? left right s = read? left right t := by
  apply read?_congr
  intro f
  constructor
  · intro hf
    exact ⟨hf.name_ne_nil, hf.name_word,
      (h.prefix_iff (hf.isBlank_raw hleft hright)).1 hf.raw_prefix_text⟩
  · intro hf
    exact ⟨hf.name_ne_nil, hf.name_word,
      (h.prefix_iff (hf.isBlank_raw hleft hright)).2 hf.raw_prefix_text⟩

end Field

/-! ## Layouts -/

namespace Layout

/-- The layouts have the same fields, and the texts around these are respaced. -/
structure IsRespaced (l l' : Layout) : Prop where
  segments : List.Forall₂ (fun s s' => s.field = s'.field ∧ Text.Respaced s.gap s'.gap)
    l.segments l'.segments
  remainder : Text.Respaced l.remainder l'.remainder

/-- The literal text with which a layout begins. -/
def opening : Layout → List Char
  | ⟨[], remainder⟩ => remainder
  | ⟨s :: _, _⟩ => s.gap

theorem opening_isPrefix (left right e : List Char) : (ofText left right e).opening <+: e := by
  have htext := toText_ofText left right e
  cases hl : ofText left right e with
  | mk segments remainder =>
    rw [hl] at htext
    cases segments with
    | nil => exact ⟨[], by rw [List.append_nil]; exact htext⟩
    | cons s segments =>
      rw [← htext]
      simp only [opening, toText, List.flatMap_cons, List.append_assoc]
      exact List.prefix_append _ _

namespace IsRespaced

variable {l l' : Layout}

theorem prepend {c : Char} (hc : Text.isBlank c = false) (h : l.IsRespaced l') :
    (l.prepend c).IsRespaced (l'.prepend c) := by
  obtain ⟨segments, remainder⟩ := l
  obtain ⟨segments', remainder'⟩ := l'
  obtain ⟨hsegments, hremainder⟩ := h
  cases hsegments with
  | nil => exact ⟨.nil, (Text.respaced_cons_iff hc).2 ⟨_, rfl, hremainder⟩⟩
  | cons hs hsegments =>
    exact ⟨.cons ⟨hs.1, (Text.respaced_cons_iff hc).2 ⟨_, rfl, hs.2⟩⟩ hsegments, hremainder⟩

/-- Runs of blanks may go before the layouts, if no blanks come next. -/
theorem foldr_prepend {run new : List Char} (hrun : Text.IsRun true run l.opening)
    (hnew : Text.IsRun true new l'.opening) (h : l.IsRespaced l') :
    (run.foldr Layout.prepend l).IsRespaced (new.foldr Layout.prepend l') := by
  obtain ⟨segments, remainder⟩ := l
  obtain ⟨segments', remainder'⟩ := l'
  obtain ⟨hsegments, hremainder⟩ := h
  cases hsegments with
  | nil =>
    rw [foldr_prepend_nil, foldr_prepend_nil]
    exact ⟨.nil, (Text.respaced_run_iff hrun).2 ⟨new, remainder', rfl, hnew, hremainder⟩⟩
  | @cons s s' segments segments' hs hsegments =>
    rw [foldr_prepend_cons, foldr_prepend_cons]
    refine ⟨.cons ⟨hs.1, ?_⟩ hsegments, hremainder⟩
    exact (Text.respaced_run_iff hrun).2 ⟨new, s'.gap, rfl, hnew, hs.2⟩

theorem addField (f : Field) (h : l.IsRespaced l') : (l.addField f).IsRespaced (l'.addField f) :=
  ⟨.cons ⟨rfl, Text.respaced_refl []⟩ h.segments, h.remainder⟩

end IsRespaced

variable {left right : List Char}

/-- In a run of blanks nothing is read. -/
theorem ofText_run_append (hleft : ∀ c ∈ left, Text.isBlank c = false)
    (hright : ∀ c ∈ right, Text.isBlank c = false) {run : List Char}
    (hrun : ∀ c ∈ run, Text.isBlank c = true) (rest : List Char) :
    ofText left right (run ++ rest) = run.foldr prepend (ofText left right rest) := by
  apply ofText_append
  intro p hp
  rw [List.drop_append_of_le_length (Nat.le_of_lt hp), List.drop_eq_getElem_cons hp,
    List.cons_append]
  exact Field.read?_eq_none_of_isBlank hleft hright (hrun _ (List.getElem_mem hp)) _

/-- The layouts of an expression and of its respacing. The two expressions are read in step: a
character that is no blank, a field, or a run of blanks at a time. -/
theorem ofText_respaced (hleft : ∀ c ∈ left, Text.isBlank c = false)
    (hright : ∀ c ∈ right, Text.isBlank c = false) {e e' : List Char} (h : Text.Respaced e e') :
    (ofText left right e).IsRespaced (ofText left right e') := by
  induction hn : e.length using Nat.strong_induction_on generalizing e e' with
  | _ n ih =>
    subst hn
    rcases h.cases with
      ⟨rfl, rfl⟩ | ⟨c, r, r', hc, rfl, rfl, hr⟩ | ⟨run, new, rest, tail, hrun, hnew, rfl, rfl, htail⟩
    · exact ⟨.nil, Text.respaced_refl []⟩
    · have hsame := Field.read?_respaced hleft hright h
      cases hread : Field.read? left right (c :: r) with
      | none =>
        rw [ofText_cons hread, ofText_cons (hsame.symm.trans hread)]
        exact (ih r.length (Nat.lt_succ_self _) hr rfl).prepend hc
      | some f =>
        have hsolid := (Field.standsAt_of_read? hread).1.isBlank_raw hleft hright
        have hname := List.length_pos_iff.2 (Field.name_ne_nil_of_read? hread)
        obtain ⟨rest, hrest⟩ := Field.isPrefix_of_read? hread
        rw [hread] at hsame
        rw [← hrest] at h hread ih ⊢
        obtain ⟨tail, htail, hrespaced⟩ := (Text.respaced_append_of_solid hsolid).1 h
        rw [htail] at hsame ⊢
        rw [ofText_raw_append hread, ofText_raw_append hsame.symm]
        refine (ih rest.length ?_ hrespaced rfl).addField f
        simp only [Field.raw, List.length_append]
        omega
    · have hpos := List.length_pos_iff.2 hrun.ne_nil
      rw [ofText_run_append hleft hright hrun.isBlank_eq,
        ofText_run_append hleft hright hnew.isBlank_eq]
      refine (ih rest.length ?_ htail rfl).foldr_prepend ?_ ?_
      · rw [List.length_append]
        omega
      · exact hrun.of_prefix (opening_isPrefix left right rest)
      · exact hnew.of_prefix (opening_isPrefix left right tail)

end Layout

/-! ## Compiled expressions -/

namespace Layout.IsRespaced

variable {left right : List Char} {l l' : Layout}

theorem layoutAtoms_eq (h : l.IsRespaced l') :
    Compiled.layoutAtoms false left right l.remainder l.segments =
      Compiled.layoutAtoms false left right l'.remainder l'.segments := by
  have hempty : l.remainder.isEmpty = l'.remainder.isEmpty := by
    rw [Bool.eq_iff_iff, List.isEmpty_iff, List.isEmpty_iff]
    exact h.remainder.eq_nil_iff
  obtain ⟨segments, remainder⟩ := l
  obtain ⟨segments', remainder'⟩ := l'
  obtain ⟨hsegments, hremainder⟩ := h
  dsimp only at hsegments hremainder hempty ⊢
  induction hsegments with
  | nil => exact Pattern.elastic_respaced hremainder
  | @cons s s' segments segments' hs hsegments ih =>
    have hgap : Pattern.ofLiteral false s.gap = Pattern.ofLiteral false s'.gap :=
      Pattern.elastic_respaced hs.2
    have hlast : segments.isEmpty = segments'.isEmpty := by
      cases hsegments <;> rfl
    rw [Compiled.layoutAtoms, Compiled.layoutAtoms, ih, hgap, hs.1, hlast, hempty]

theorem ofLayout_eq (h : l.IsRespaced l') :
    Compiled.ofLayout false left right l = Compiled.ofLayout false left right l' := by
  have hfields : l.fields = l'.fields := by
    rw [Layout.fields, Layout.fields, ← List.forall₂_eq_eq_eq, List.forall₂_map_left_iff,
      List.forall₂_map_right_iff]
    exact h.segments.imp fun _ _ hs => hs.1
  rw [Compiled.ofLayout, Compiled.ofLayout, h.layoutAtoms_eq, hfields]

end Layout.IsRespaced

/-- With elastic white space and markers without blanks, an expression is compiled to the same pattern
and the same fields however its blanks are spaced. -/
theorem compiled_respaced {left right e e' : List Char}
    (hleft : ∀ c ∈ left, Text.isBlank c = false) (hright : ∀ c ∈ right, Text.isBlank c = false)
    (h : Text.Respaced e e') :
    Compiled.ofText false left right e = Compiled.ofText false left right e' :=
  (Layout.ofText_respaced hleft hright h).ofLayout_eq

/-- The last field takes the rest of the line in both expressions, though it is at different
offsets. -/
theorem compiled_respaced_star_marker :
    Text.Respaced " x*k*  *v*".toList "\t\nx*k*\u2003*v*".toList ∧
      Compiled.ofText false ['*'] [] " x*k*  *v*".toList =
        Compiled.ofText false ['*'] [] "\t\nx*k*\u2003*v*".toList ∧
      (Compiled.ofText false ['*'] [] "\t\nx*k*\u2003*v*".toList).pattern =
        "\\s+x\\*(.*?)\\s+\\*(.*)" := by
  have hleft : ∀ c ∈ ['*'], Text.isBlank c = false := by
    simp [Text.isBlank]
  have hright : ∀ c ∈ ([] : List Char), Text.isBlank c = false := by
    simp
  have hrespaced : Text.Respaced " x*k*  *v*".toList "\t\nx*k*\u2003*v*".toList := by
    let pieces := ["\t\n", "x*k*", "\u2003", "*v*"].map String.toList
    exact ⟨pieces, by decide, rfl⟩
  exact ⟨hrespaced, compiled_respaced hleft hright hrespaced, by decide⟩

end FieldPattern

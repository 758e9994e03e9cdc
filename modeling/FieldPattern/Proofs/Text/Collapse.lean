import FieldPattern.Proofs.Text.Runs

/-!
# Collapsing and stretching

A text is *collapsed* by putting a single space for each of its runs of blanks. Two texts collapse
to the same one exactly if one is a respacing of the other (`respaced_iff_collapse_eq`).

A text is *stretched* when each single blank, not each run, becomes a text of blanks. So a run never
gets shorter. Stretching the collapsed text and respacing the text itself is the same
(`stretched_collapse_iff`), but only stretching can be done piece by piece (`stretched_append_iff`):
where two pieces meet in blanks, each of them keeps a blank of its own.
-/

namespace FieldPattern.Text

/-! ## Collapsing -/

theorem IsRun.head?_any {run rest : List Char} (h : IsRun true run rest) :
    rest.head?.any isBlank = false := by
  cases hd : rest.head? with
  | none => rfl
  | some d => exact h.head_ne d hd

/-- The text with a single space in place of each run of blanks. -/
def collapse (s : List Char) : List Char :=
  (runs s).flatMap fun run => if run.all isBlank then [' '] else run

@[simp] theorem collapse_nil : collapse [] = [] := rfl

theorem collapse_append_run {blank : Bool} {run rest : List Char} (h : IsRun blank run rest) :
    collapse (run ++ rest) = (if blank then [' '] else run) ++ collapse rest := by
  rw [collapse, runs_append h, List.flatMap_cons, h.all_isBlank, collapse]

/-- A text is collapsed character by character. -/
theorem collapse_cons (c : Char) (r : List Char) :
    collapse (c :: r) =
      if isBlank c then if r.head?.any isBlank then collapse r else ' ' :: collapse r
      else c :: collapse r := by
  obtain ⟨run, rest, hcr, hrun⟩ := IsRun.exists_of_cons c r
  obtain ⟨d, others, rfl⟩ := List.exists_cons_of_ne_nil hrun.ne_nil
  rw [List.cons_append] at hcr
  obtain ⟨rfl, rfl⟩ := List.cons.inj hcr
  rw [← List.cons_append, collapse_append_run hrun]
  cases others with
  | nil =>
    cases hc : isBlank c with
    | false => simp
    | true =>
      rw [hc] at hrun
      simp [hrun.head?_any]
  | cons d others =>
    -- the rest of the run is a run of its own
    have htail : IsRun (isBlank c) (d :: others) rest := hrun.drop (i := 1) (by simp)
    rw [collapse_append_run htail]
    have hd : isBlank d = isBlank c := htail.isBlank_eq d List.mem_cons_self
    cases hc : isBlank c with
    | false => simp
    | true => simp [hd, hc]

theorem collapse_cons_of_not_blank {c : Char} (hc : isBlank c = false) (r : List Char) :
    collapse (c :: r) = c :: collapse r := by
  rw [collapse_cons, hc, if_neg Bool.false_ne_true]

/-- Where no run goes through the joint, two texts are collapsed one by one. -/
theorem collapse_append {s t : List Char}
    (h : s.getLast?.any isBlank = false ∨ t.head?.any isBlank = false) :
    collapse (s ++ t) = collapse s ++ collapse t := by
  induction s with
  | nil => rfl
  | cons c r ih =>
    cases r with
    | nil =>
      rw [List.singleton_append, collapse_cons, collapse_cons]
      cases hc : isBlank c with
      | false => rfl
      | true =>
        have ht : t.head?.any isBlank = false := h.resolve_left (by simp [hc])
        simp [ht]
    | cons d r =>
      rw [List.getLast?_cons_cons] at h
      rw [List.cons_append, collapse_cons, collapse_cons, ih h]
      by_cases hc : isBlank c = true
      · by_cases hd : isBlank d = true <;> simp [hc, hd]
      · simp [hc]

/-- A run that goes through the joint is collapsed to one space and not to two. -/
theorem length_collapse_append {s t : List Char} (hs : s.getLast?.any isBlank = true)
    (ht : t.head?.any isBlank = true) :
    (collapse (s ++ t)).length + 1 = (collapse s ++ collapse t).length := by
  induction s with
  | nil => cases hs
  | cons c r ih =>
    cases r with
    | nil =>
      have hc : isBlank c = true := hs
      rw [List.singleton_append, collapse_cons, collapse_cons, hc, ht]
      simp
    | cons d r =>
      rw [List.getLast?_cons_cons] at hs
      have hr := ih hs
      rw [List.length_append] at hr ⊢
      rw [List.cons_append, collapse_cons, collapse_cons]
      by_cases hc : isBlank c = true
      · by_cases hd : isBlank d = true
        · simpa [hc, hd] using hr
        · simp [hc, hd] at hr ⊢
          omega
      · simp [hc] at hr ⊢
        omega

/-! ## Stretching -/

/-- A blank becomes some non-empty text of blanks, any other character stays as it is. -/
def CharStretched (c : Char) (new : List Char) : Prop :=
  if isBlank c then new ≠ [] ∧ ∀ d ∈ new, isBlank d = true else new = [c]

instance (c : Char) (new : List Char) : Decidable (CharStretched c new) :=
  decidable_of_iff (if isBlank c then new ≠ [] ∧ new.all isBlank = true else new = [c])
    (by simp only [CharStretched, List.all_eq_true])

/-- The text `t` is `s` with each blank replaced by one or more blanks. -/
def Stretched (s t : List Char) : Prop :=
  ∃ pieces, List.Forall₂ CharStretched s pieces ∧ t = pieces.flatten

theorem CharStretched.ne_nil {c : Char} {new : List Char} (h : CharStretched c new) :
    new ≠ [] := by
  rw [CharStretched] at h
  split at h
  · exact h.1
  · rw [h]
    exact List.cons_ne_nil c []

theorem CharStretched.isBlank_eq {c : Char} {new : List Char} (h : CharStretched c new) :
    ∀ d ∈ new, isBlank d = isBlank c := by
  rw [CharStretched] at h
  intro d hd
  split at h
  · next hc => rw [h.2 d hd, hc]
  · rw [h] at hd
    rw [List.mem_singleton.1 hd]

theorem stretched_nil_iff {t : List Char} : Stretched [] t ↔ t = [] := by
  constructor
  · rintro ⟨pieces, hpieces, rfl⟩
    cases hpieces
    rfl
  · rintro rfl
    exact ⟨[], List.Forall₂.nil, rfl⟩

theorem stretched_cons_iff {c : Char} {r t : List Char} :
    Stretched (c :: r) t ↔
      ∃ new tail, t = new ++ tail ∧ CharStretched c new ∧ Stretched r tail := by
  constructor
  · rintro ⟨pieces, hpieces, rfl⟩
    obtain ⟨new, others, hnew, hothers, rfl⟩ := List.forall₂_cons_left_iff.1 hpieces
    exact ⟨new, others.flatten, List.flatten_cons, hnew, others, hothers, rfl⟩
  · rintro ⟨new, tail, rfl, hnew, others, hothers, rfl⟩
    exact ⟨new :: others, List.Forall₂.cons hnew hothers, List.flatten_cons.symm⟩

/-- A text is stretched piece by piece. -/
theorem stretched_append_iff {s s' t : List Char} :
    Stretched (s ++ s') t ↔ ∃ a b, t = a ++ b ∧ Stretched s a ∧ Stretched s' b := by
  induction s generalizing t with
  | nil =>
    constructor
    · intro h
      exact ⟨[], t, rfl, stretched_nil_iff.2 rfl, h⟩
    · rintro ⟨a, b, rfl, ha, hb⟩
      rw [stretched_nil_iff.1 ha]
      exact hb
  | cons c s ih =>
    rw [List.cons_append, stretched_cons_iff]
    constructor
    · rintro ⟨new, tail, rfl, hnew, htail⟩
      obtain ⟨a, b, rfl, ha, hb⟩ := ih.1 htail
      exact ⟨new ++ a, b, (List.append_assoc new a b).symm,
        stretched_cons_iff.2 ⟨new, a, rfl, hnew, ha⟩, hb⟩
    · rintro ⟨_, b, rfl, ha, hb⟩
      obtain ⟨new, a, rfl, hnew, ha⟩ := stretched_cons_iff.1 ha
      exact ⟨new, a ++ b, List.append_assoc new a b, hnew, ih.2 ⟨a, b, rfl, ha, hb⟩⟩

/-- A text without blanks stays as it is. -/
theorem stretched_solid_iff {s t : List Char} (hs : ∀ c ∈ s, isBlank c = false) :
    Stretched s t ↔ t = s := by
  induction s generalizing t with
  | nil => exact stretched_nil_iff
  | cons c s ih =>
    have hc : ∀ new, CharStretched c new ↔ new = [c] := by
      intro new
      rw [CharStretched, hs c List.mem_cons_self, if_neg Bool.false_ne_true]
    simp only [stretched_cons_iff, hc, ih fun d hd => hs d (List.mem_cons_of_mem c hd)]
    constructor
    · rintro ⟨_, _, rfl, rfl, rfl⟩
      rfl
    · rintro rfl
      exact ⟨[c], s, rfl, rfl, rfl⟩

/-- Stretching the collapsed text is respacing the text. -/
theorem stretched_collapse_iff {s t : List Char} : Stretched (collapse s) t ↔ Respaced s t := by
  induction s using runs_induction generalizing t with
  | nil => rw [collapse_nil, stretched_nil_iff, respaced_nil_iff]
  | append blank run rest hrun ih =>
    rw [collapse_append_run hrun, respaced_append_iff hrun, stretched_append_iff]
    have hfront : ∀ new, Stretched (if blank then [' '] else run) new ↔ RunRespaced run new := by
      intro new
      rw [RunRespaced, hrun.all_isBlank]
      cases blank with
      | false => exact stretched_solid_iff hrun.isBlank_eq
      | true =>
        simp only [if_true, stretched_cons_iff, stretched_nil_iff]
        have hspace : ∀ new, CharStretched ' ' new ↔ new ≠ [] ∧ ∀ d ∈ new, isBlank d = true := by
          intro new
          rw [CharStretched, if_pos (by decide)]
        constructor
        · rintro ⟨_, _, rfl, hnew, rfl⟩
          rw [List.append_nil]
          exact (hspace _).1 hnew
        · intro hnew
          exact ⟨new, [], (List.append_nil new).symm, (hspace new).2 hnew, rfl⟩
    simp only [hfront, ih]

/-- Stretching does not change whether a text begins with a blank. -/
theorem Stretched.head?_any {s t : List Char} (h : Stretched s t) :
    t.head?.any isBlank = s.head?.any isBlank := by
  cases s with
  | nil =>
    rw [stretched_nil_iff.1 h]
  | cons c r =>
    obtain ⟨new, tail, rfl, hnew, -⟩ := stretched_cons_iff.1 h
    obtain ⟨d, new, rfl⟩ := List.exists_cons_of_ne_nil hnew.ne_nil
    exact hnew.isBlank_eq d List.mem_cons_self

theorem collapse_blanks_append {new : List Char} (hne : new ≠ [])
    (hnew : ∀ d ∈ new, isBlank d = true) (r : List Char) :
    collapse (new ++ r) = if r.head?.any isBlank then collapse r else ' ' :: collapse r := by
  induction new with
  | nil => exact absurd rfl hne
  | cons d new ih =>
    rw [List.cons_append, collapse_cons, if_pos (hnew d List.mem_cons_self)]
    cases new with
    | nil => rfl
    | cons e new =>
      have he : isBlank e = true := hnew e (List.mem_cons_of_mem d List.mem_cons_self)
      rw [ih (List.cons_ne_nil e new) fun c hc => hnew c (List.mem_cons_of_mem d hc)]
      rw [List.cons_append, List.head?_cons, Option.any_some, he, if_pos rfl]

/-- Stretching does not change what a text collapses to. -/
theorem Stretched.collapse_eq {s t : List Char} (h : Stretched s t) : collapse s = collapse t := by
  induction s generalizing t with
  | nil => rw [stretched_nil_iff.1 h]
  | cons c r ih =>
    obtain ⟨new, tail, rfl, hnew, htail⟩ := stretched_cons_iff.1 h
    rw [collapse_cons, ih htail, ← htail.head?_any]
    rw [CharStretched] at hnew
    split
    · next hc =>
      rw [if_pos hc] at hnew
      exact (collapse_blanks_append hnew.1 hnew.2 tail).symm
    · next hc =>
      rw [if_neg hc] at hnew
      rw [hnew, List.singleton_append, collapse_cons, if_neg hc]

/-- Two texts are respacings of each other exactly if they collapse to the same text. -/
theorem respaced_iff_collapse_eq {s t : List Char} : Respaced s t ↔ collapse s = collapse t := by
  constructor
  · intro h
    have hspaces : Stretched (collapse s) s := stretched_collapse_iff.2 (respaced_refl s)
    rw [← hspaces.collapse_eq]
    exact (stretched_collapse_iff.2 h).collapse_eq
  · intro h
    have ht : Stretched (collapse t) t := stretched_collapse_iff.2 (respaced_refl t)
    rw [← h] at ht
    exact stretched_collapse_iff.1 ht

/-- Further blanks may go behind a stretched text that ends in a blank. -/
theorem Stretched.append_blanks {s t more : List Char} (h : Stretched s t)
    (hlast : t.getLast?.any isBlank = true) (hmore : ∀ c ∈ more, isBlank c = true) :
    Stretched s (t ++ more) := by
  rcases List.eq_nil_or_concat s with rfl | ⟨front, c, rfl⟩
  · rw [stretched_nil_iff.1 h] at hlast
    cases hlast
  · rw [List.concat_eq_append] at h ⊢
    obtain ⟨a, b, rfl, ha, hb⟩ := stretched_append_iff.1 h
    obtain ⟨new, tail, rfl, hnew, htail⟩ := stretched_cons_iff.1 hb
    obtain rfl := stretched_nil_iff.1 htail
    rw [List.append_nil, List.getLast?_append_of_ne_nil _ hnew.ne_nil] at hlast
    have hc : isBlank c = true := by
      cases hd : new.getLast? with
      | none => rw [hd] at hlast; cases hlast
      | some d =>
        rw [hd] at hlast
        rw [← hnew.isBlank_eq d (List.mem_of_getLast? hd)]
        exact hlast
    have hlonger : CharStretched c (new ++ more) := by
      rw [CharStretched, if_pos hc] at hnew ⊢
      refine ⟨List.append_ne_nil_of_left_ne_nil hnew.1 more, ?_⟩
      intro d hd
      rcases List.mem_append.1 hd with hd | hd
      · exact hnew.2 d hd
      · exact hmore d hd
    refine stretched_append_iff.2 ⟨a, new ++ more, by simp, ha, ?_⟩
    exact stretched_cons_iff.2 ⟨new ++ more, [], by simp, hlonger, stretched_nil_iff.2 rfl⟩

theorem collapse_eq_nil_iff {s : List Char} : collapse s = [] ↔ s = [] := by
  have h : Respaced s [] ↔ collapse s = collapse [] := respaced_iff_collapse_eq
  rw [collapse_nil] at h
  rw [← h]
  exact ⟨fun hs => hs.eq_nil_iff.2 rfl, fun hs => by rw [hs]; exact respaced_refl []⟩

/-- A text that collapses as its beginning does goes on from there with blanks only, and does so
only behind a blank. -/
theorem blanks_of_collapse_append {s u : List Char} (h : collapse (s ++ u) = collapse s) :
    u = [] ∨ s.getLast?.any isBlank = true ∧ ∀ c ∈ u, isBlank c = true := by
  by_cases hjoint : s.getLast?.any isBlank = false ∨ u.head?.any isBlank = false
  · left
    rw [collapse_append hjoint] at h
    exact collapse_eq_nil_iff.1 (List.append_right_eq_self.1 h)
  · right
    rw [not_or, Bool.not_eq_false, Bool.not_eq_false] at hjoint
    obtain ⟨hlast, hhead⟩ := hjoint
    refine ⟨hlast, ?_⟩
    cases u with
    | nil => cases hhead
    | cons c r =>
      obtain ⟨run, rest, hcr, hrun⟩ := IsRun.exists_of_cons c r
      have hc : isBlank c = true := hhead
      rw [hc] at hrun
      rw [hcr] at h ⊢
      -- the run only makes the last run of the beginning longer, so nothing comes behind it
      have hlonger : Stretched (collapse s) (s ++ run) :=
        (stretched_collapse_iff.2 (respaced_refl s)).append_blanks hlast hrun.isBlank_eq
      have hsame := respaced_iff_collapse_eq.1 (stretched_collapse_iff.1 hlonger)
      rw [← List.append_assoc, collapse_append (Or.inr hrun.head?_any), ← hsame] at h
      rw [collapse_eq_nil_iff.1 (List.append_right_eq_self.1 h), List.append_nil]
      exact hrun.isBlank_eq

/-! ## Single spacing -/

/-- No two blanks stand next to each other. -/
def IsSingleSpaced (s : List Char) : Prop :=
  s.IsChain fun c d => ¬ (isBlank c = true ∧ isBlank d = true)

instance (s : List Char) : Decidable (IsSingleSpaced s) :=
  inferInstanceAs (Decidable (s.IsChain _))

theorem isSingleSpaced_cons_iff {c : Char} {r : List Char} :
    IsSingleSpaced (c :: r) ↔
      (isBlank c = true → r.head?.any isBlank = false) ∧ IsSingleSpaced r := by
  rw [IsSingleSpaced, List.isChain_cons]
  have hhead : (∀ d ∈ r.head?, ¬ (isBlank c = true ∧ isBlank d = true)) ↔
      (isBlank c = true → r.head?.any isBlank = false) := by
    cases r.head? <;> simp
  rw [hhead, IsSingleSpaced]

/-- Stretching a single-spaced text is respacing it. -/
theorem IsSingleSpaced.stretched_iff {s t : List Char} (h : IsSingleSpaced s) :
    Stretched s t ↔ Respaced s t := by
  rw [← stretched_collapse_iff]
  induction s generalizing t with
  | nil => rfl
  | cons c r ih =>
    obtain ⟨hhead, hr⟩ := isSingleSpaced_cons_iff.1 h
    cases hc : isBlank c with
    | false => simp only [collapse_cons_of_not_blank hc, stretched_cons_iff, ih hr]
    | true =>
      have hspace : ∀ new, CharStretched ' ' new ↔ CharStretched c new := by
        intro new
        rw [CharStretched, CharStretched, if_pos hc, if_pos (by decide)]
      rw [collapse_cons, hc, if_pos rfl, hhead hc, if_neg Bool.false_ne_true]
      simp only [stretched_cons_iff, ih hr, hspace]

/-- A text is single-spaced if it is stretched to a single-spaced one. -/
theorem Stretched.isSingleSpaced {s t : List Char} (h : Stretched s t) (ht : IsSingleSpaced t) :
    IsSingleSpaced s := by
  induction s generalizing t with
  | nil => exact List.IsChain.nil
  | cons c r ih =>
    obtain ⟨new, tail, rfl, hnew, htail⟩ := stretched_cons_iff.1 h
    obtain ⟨-, hchain, hjoint⟩ := List.isChain_append.1 ht
    refine isSingleSpaced_cons_iff.2 ⟨?_, ih htail hchain⟩
    intro hc
    rw [← htail.head?_any]
    cases hd : tail.head? with
    | none => rfl
    | some d =>
      have hlast := List.getLast?_eq_getLast_of_ne_nil hnew.ne_nil
      have hblank := hnew.isBlank_eq _ (List.getLast_mem hnew.ne_nil)
      have hnot := hjoint _ hlast d hd
      rw [hblank] at hnot
      simpa [hc] using hnot

end FieldPattern.Text

import FieldPattern.Text.Blank
import Mathlib.Data.List.SplitBy
import Mathlib.Data.List.Forall2
import Mathlib.Data.List.TakeWhile

/-!
# Runs of blanks

A text is cut into maximal blocks that hold blanks only or no blanks at all, its *runs*. Functions
that treat blanks by the run are described block by block: `runs_induction` peels one run off the
front of a text, and `runs_append` says that this is how `runs` cuts.

A text is *respaced* when each run of blanks is replaced by some other non-empty run of blanks.
-/

namespace FieldPattern.Text

/-- The text cut into maximal blocks of blanks and of other characters. -/
def runs (s : List Char) : List (List Char) :=
  s.splitBy fun c d => isBlank c == isBlank d

/-- The text `run` is a maximal block in front of `rest`; `blank` tells which kind it is. -/
structure IsRun (blank : Bool) (run rest : List Char) : Prop where
  ne_nil : run ≠ []
  isBlank_eq : ∀ c ∈ run, isBlank c = blank
  head_ne : ∀ c, rest.head? = some c → isBlank c = !blank

namespace IsRun

variable {blank : Bool} {run rest : List Char}

theorem all_isBlank (h : IsRun blank run rest) : run.all isBlank = blank := by
  cases blank with
  | true => exact List.all_eq_true.2 h.isBlank_eq
  | false =>
    obtain ⟨c, tail, rfl⟩ := List.exists_cons_of_ne_nil h.ne_nil
    rw [List.all_cons, h.isBlank_eq c List.mem_cons_self, Bool.false_and]

theorem isBlank_head (h : IsRun blank run rest) {c : Char} (hc : (run ++ rest).head? = some c) :
    isBlank c = blank := by
  obtain ⟨d, tail, rfl⟩ := List.exists_cons_of_ne_nil h.ne_nil
  obtain rfl := Option.some.inj hc
  exact h.isBlank_eq d List.mem_cons_self

theorem drop (h : IsRun blank run rest) {i : Nat} (hi : i < run.length) :
    IsRun blank (run.drop i) rest where
  ne_nil hnil := absurd (List.drop_eq_nil_iff.1 hnil) (by omega)
  isBlank_eq c hc := h.isBlank_eq c (List.mem_of_mem_drop hc)
  head_ne := h.head_ne

theorem exists_of_cons (c : Char) (r : List Char) :
    ∃ run rest, c :: r = run ++ rest ∧ IsRun (isBlank c) run rest := by
  let p : Char → Bool := fun d => isBlank d == isBlank c
  refine ⟨(c :: r).takeWhile p, (c :: r).dropWhile p, List.takeWhile_append_dropWhile.symm, ?_⟩
  refine ⟨?_, ?_, ?_⟩
  · simp [p]
  · intro d hd
    have hpd : p d = true := List.mem_takeWhile_imp hd
    exact beq_iff_eq.1 hpd
  · intro d hd
    have hfalse := List.head?_dropWhile_not p (c :: r)
    rw [hd] at hfalse
    have hne : isBlank d ≠ isBlank c := by simpa [p] using hfalse
    cases hc : isBlank c <;> cases hd : isBlank d <;> simp_all

end IsRun

theorem runs_append {blank : Bool} {run rest : List Char} (h : IsRun blank run rest) :
    runs (run ++ rest) = run :: runs rest := by
  have hbreak : ∀ x ∈ run.getLast?, ∀ y ∈ rest.head?, (isBlank x == isBlank y) = false := by
    intro x hx y hy
    rw [h.isBlank_eq x (List.mem_of_getLast? hx), h.head_ne y hy]
    cases blank <;> rfl
  have hchain : run.IsChain fun c d => (isBlank c == isBlank d) = true := by
    apply List.Pairwise.isChain
    apply List.pairwise_of_forall_mem_list
    intro c hc d hd
    rw [h.isBlank_eq c hc, h.isBlank_eq d hd, beq_self_eq_true]
  rw [runs, List.splitBy_append hbreak, List.splitBy_of_isChain h.ne_nil hchain]
  rfl

/-- Induction along the runs of a text. -/
theorem runs_induction {motive : List Char → Prop} (nil : motive [])
    (append : ∀ blank run rest, IsRun blank run rest → motive rest → motive (run ++ rest))
    (s : List Char) : motive s := by
  induction hn : s.length using Nat.strong_induction_on generalizing s with
  | _ n ih =>
    cases s with
    | nil => exact nil
    | cons c r =>
      obtain ⟨run, rest, hs, hrun⟩ := IsRun.exists_of_cons c r
      have hpos := List.length_pos_iff.2 hrun.ne_nil
      have hshort : rest.length < n := by
        rw [← hn, hs, List.length_append]
        omega
      rw [hs]
      exact append _ run rest hrun (ih rest.length hshort rest rfl)

/-! ## Respacing -/

/-- A run of blanks becomes some non-empty text of blanks, any other run stays as it is. -/
def RunRespaced (run new : List Char) : Prop :=
  if run.all isBlank then new ≠ [] ∧ ∀ c ∈ new, isBlank c = true else new = run

instance (run new : List Char) : Decidable (RunRespaced run new) :=
  decidable_of_iff (if run.all isBlank then new ≠ [] ∧ new.all isBlank = true else new = run)
    (by simp only [RunRespaced, List.all_eq_true])

/-- The text `t` is `s` with each maximal run of blanks replaced by some non-empty text of
blanks. -/
def Respaced (s t : List Char) : Prop :=
  ∃ pieces, List.Forall₂ RunRespaced (runs s) pieces ∧ t = pieces.flatten

theorem respaced_nil_iff {t : List Char} : Respaced [] t ↔ t = [] := by
  constructor
  · rintro ⟨pieces, hpieces, rfl⟩
    cases hpieces
    rfl
  · rintro rfl
    exact ⟨[], List.Forall₂.nil, rfl⟩

theorem respaced_append_iff {blank : Bool} {run rest t : List Char} (h : IsRun blank run rest) :
    Respaced (run ++ rest) t ↔
      ∃ new tail, t = new ++ tail ∧ RunRespaced run new ∧ Respaced rest tail := by
  rw [Respaced, runs_append h]
  constructor
  · rintro ⟨pieces, hpieces, rfl⟩
    obtain ⟨new, others, hnew, hothers, rfl⟩ := List.forall₂_cons_left_iff.1 hpieces
    exact ⟨new, others.flatten, List.flatten_cons, hnew, others, hothers, rfl⟩
  · rintro ⟨new, tail, rfl, hnew, others, hothers, rfl⟩
    exact ⟨new :: others, List.Forall₂.cons hnew hothers, List.flatten_cons.symm⟩

theorem runRespaced_refl {blank : Bool} {run rest : List Char} (h : IsRun blank run rest) :
    RunRespaced run run := by
  rw [RunRespaced, h.all_isBlank]
  cases blank with
  | true => exact ⟨h.ne_nil, h.isBlank_eq⟩
  | false => rfl

theorem respaced_refl (s : List Char) : Respaced s s := by
  induction s using runs_induction with
  | nil => exact respaced_nil_iff.2 rfl
  | append blank run rest hrun ih =>
    exact (respaced_append_iff hrun).2 ⟨run, rest, rfl, runRespaced_refl hrun, ih⟩

/-! ## The head of a respaced text -/

/-- What is no blank stays where it is. -/
theorem respaced_append_of_not_blank {run rest t : List Char}
    (hrun : ∀ c ∈ run, isBlank c = false) (hhead : ∀ c, rest.head? = some c → isBlank c = true) :
    Respaced (run ++ rest) t ↔ ∃ tail, t = run ++ tail ∧ Respaced rest tail := by
  by_cases hne : run = []
  · subst hne
    simp
  · have h : IsRun false run rest := ⟨hne, hrun, hhead⟩
    rw [respaced_append_iff h]
    simp only [RunRespaced, h.all_isBlank, Bool.false_eq_true, if_false]
    constructor
    · rintro ⟨_, tail, rfl, rfl, htail⟩
      exact ⟨tail, rfl, htail⟩
    · rintro ⟨tail, rfl, htail⟩
      exact ⟨run, tail, rfl, rfl, htail⟩

theorem respaced_cons_iff {c : Char} {r t : List Char} (hc : isBlank c = false) :
    Respaced (c :: r) t ↔ ∃ tail, t = c :: tail ∧ Respaced r tail := by
  obtain ⟨run, rest, hcr, hrun⟩ := IsRun.exists_of_cons c r
  rw [hc] at hrun
  obtain ⟨d, others, rfl⟩ := List.exists_cons_of_ne_nil hrun.ne_nil
  rw [List.cons_append] at hcr
  obtain ⟨rfl, rfl⟩ := List.cons.inj hcr
  have hothers : ∀ e ∈ others, isBlank e = false :=
    fun e he => hrun.isBlank_eq e (List.mem_cons_of_mem c he)
  rw [← List.cons_append, respaced_append_of_not_blank hrun.isBlank_eq hrun.head_ne]
  simp only [respaced_append_of_not_blank hothers hrun.head_ne]
  constructor
  · rintro ⟨tail, rfl, htail⟩
    exact ⟨others ++ tail, rfl, tail, rfl, htail⟩
  · rintro ⟨_, rfl, tail, rfl, htail⟩
    exact ⟨tail, rfl, htail⟩

/-- A text without blanks stays as it is, whatever follows it. -/
theorem respaced_append_of_solid {s r t : List Char} (hs : ∀ c ∈ s, isBlank c = false) :
    Respaced (s ++ r) t ↔ ∃ tail, t = s ++ tail ∧ Respaced r tail := by
  induction s generalizing t with
  | nil => simp
  | cons c s ih =>
    have htail : ∀ d ∈ s, isBlank d = false := fun d hd => hs d (List.mem_cons_of_mem c hd)
    rw [List.cons_append, respaced_cons_iff (hs c List.mem_cons_self)]
    constructor
    · rintro ⟨u, rfl, hu⟩
      obtain ⟨tail, rfl, hr⟩ := (ih htail).1 hu
      exact ⟨tail, rfl, hr⟩
    · rintro ⟨tail, rfl, hr⟩
      exact ⟨s ++ tail, rfl, (ih htail).2 ⟨tail, rfl, hr⟩⟩

/-- A run of blanks becomes a run of blanks, since what comes behind it keeps its first
character. -/
theorem respaced_run_iff {run rest t : List Char} (h : IsRun true run rest) :
    Respaced (run ++ rest) t ↔
      ∃ new tail, t = new ++ tail ∧ IsRun true new tail ∧ Respaced rest tail := by
  rw [respaced_append_iff h]
  simp only [RunRespaced, h.all_isBlank, if_true]
  constructor
  · rintro ⟨new, tail, rfl, ⟨hne, hnew⟩, htail⟩
    refine ⟨new, tail, rfl, ⟨hne, hnew, ?_⟩, htail⟩
    cases rest with
    | nil =>
      rw [respaced_nil_iff.1 htail]
      intro c hc
      cases hc
    | cons d rest =>
      have hd : isBlank d = false := h.head_ne d rfl
      obtain ⟨tail, rfl, -⟩ := (respaced_cons_iff hd).1 htail
      exact h.head_ne
  · rintro ⟨new, tail, rfl, hnew, htail⟩
    exact ⟨new, tail, rfl, ⟨hnew.ne_nil, hnew.isBlank_eq⟩, htail⟩

/-- A text and its respacing are both empty, or they begin with the same character and this is no
blank, or both begin with a run of blanks. What comes behind is respaced again. -/
theorem Respaced.cases {s t : List Char} (h : Respaced s t) :
    (s = [] ∧ t = []) ∨
      (∃ c r r', isBlank c = false ∧ s = c :: r ∧ t = c :: r' ∧ Respaced r r') ∨
        ∃ run new rest tail, IsRun true run rest ∧ IsRun true new tail ∧ s = run ++ rest ∧
          t = new ++ tail ∧ Respaced rest tail := by
  cases s with
  | nil => exact Or.inl ⟨rfl, respaced_nil_iff.1 h⟩
  | cons c r =>
    right
    cases hc : isBlank c with
    | false =>
      obtain ⟨r', rfl, hr⟩ := (respaced_cons_iff hc).1 h
      exact Or.inl ⟨c, r, r', hc, rfl, rfl, hr⟩
    | true =>
      obtain ⟨run, rest, hcr, hrun⟩ := IsRun.exists_of_cons c r
      rw [hc] at hrun
      rw [hcr] at h ⊢
      obtain ⟨new, tail, rfl, hnew, htail⟩ := (respaced_run_iff hrun).1 h
      exact Or.inr ⟨run, new, rest, tail, hrun, hnew, rfl, rfl, htail⟩

theorem Respaced.eq_nil_iff {s t : List Char} (h : Respaced s t) : s = [] ↔ t = [] := by
  rcases h.cases with
    ⟨rfl, rfl⟩ | ⟨c, r, r', -, rfl, rfl, -⟩ | ⟨run, new, rest, tail, hrun, hnew, rfl, rfl, -⟩
  · exact Iff.rfl
  · exact iff_of_false (List.cons_ne_nil c r) (List.cons_ne_nil c r')
  · exact iff_of_false (List.append_ne_nil_of_left_ne_nil hrun.ne_nil rest)
      (List.append_ne_nil_of_left_ne_nil hnew.ne_nil tail)

/-- A text and its respacing begin with the same texts without blanks. -/
theorem Respaced.prefix_iff {s t u : List Char} (hu : ∀ c ∈ u, isBlank c = false)
    (h : Respaced s t) : u <+: s ↔ u <+: t := by
  induction u generalizing s t with
  | nil => simp
  | cons c u ih =>
    have hc := hu c List.mem_cons_self
    rcases h.cases with
      ⟨rfl, rfl⟩ | ⟨d, r, r', -, rfl, rfl, hr⟩ | ⟨run, new, rest, tail, hrun, hnew, rfl, rfl, -⟩
    · exact Iff.rfl
    · rw [List.cons_prefix_cons, List.cons_prefix_cons,
        ih (fun d hd => hu d (List.mem_cons_of_mem c hd)) hr]
    · -- neither text begins with a character that is no blank
      have hnot : ∀ {run rest : List Char}, IsRun true run rest → ¬ c :: u <+: run ++ rest := by
        rintro run rest hrun ⟨more, hmore⟩
        have hblank := hrun.isBlank_head (c := c) (by rw [← hmore]; rfl)
        rw [hc] at hblank
        cases hblank
      exact iff_of_false (hnot hrun) (hnot hnew)

end FieldPattern.Text

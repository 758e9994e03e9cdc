import FieldPattern.Proofs.Pattern.Scan
import Mathlib.Data.List.Forall2

/-!
# Patterns that do not see how blanks are spaced

A pattern is *spaced* if its atoms are characters that are no blanks, words, and elastic white space
that does not stand twice in a row. In two texts that differ in their runs of blanks only, such a
pattern is found in the same places, and its captures hold the same words
(`captures_findAll_respaced`).

The reason is that white space takes a run of blanks as a whole: behind a part of the run stands a
blank, and no other atom takes one (`decompose?_blanks`). So what is behind the pieces that were
found is in both texts the same up to the spacing, and the scan goes on there. Where nothing stands
at the beginning of a run, nothing stands inside it either, and the scan passes over the whole run,
however long it is (`scanAt_run`).
-/

namespace FieldPattern

open Text (IsRun Respaced)

/-! ## Choices that correspond -/

/-- Of two lists whose members correspond, the first successes correspond. -/
theorem rel_findSome? {α β γ δ : Type} {R : α → β → Prop} {S : γ → δ → Prop}
    {f : α → Option γ} {g : β → Option δ} {xs : List α} {ys : List β}
    (hstep : ∀ x y, R x y → Option.Rel S (f x) (g y)) (h : List.Forall₂ R xs ys) :
    Option.Rel S (xs.findSome? f) (ys.findSome? g) := by
  have hall : List.Forall₂ S (xs.filterMap f) (ys.filterMap g) :=
    List.rel_filterMap (fun {x y} hxy => hstep x y hxy) h
  rw [← List.head?_filterMap, ← List.head?_filterMap]
  generalize xs.filterMap f = found at hall ⊢
  generalize ys.filterMap g = found' at hall ⊢
  cases hall with
  | nil => exact Option.Rel.none
  | cons hfirst => exact Option.Rel.some hfirst

theorem rel_map {α β γ δ : Type} {R : α → β → Prop} {S : γ → δ → Prop} {f : α → γ} {g : β → δ}
    {x : Option α} {y : Option β} (hstep : ∀ a b, R a b → S (f a) (g b)) (h : Option.Rel R x y) :
    Option.Rel S (x.map f) (y.map g) := by
  cases h with
  | none => exact Option.Rel.none
  | some hab => exact Option.Rel.some (hstep _ _ hab)

theorem runChoices_eq_nil {q : Char → Bool} {s : List Char} (n : Nat)
    (h : ∀ c, s.head? = some c → q c = false) : runChoices q n s = [] := by
  cases s with
  | nil => rfl
  | cons c r => rw [runChoices, h c rfl, if_neg Bool.false_ne_true]

/-- The longest choice is the whole run, and each shorter one leaves more of it. -/
theorem exists_runChoices_append {q : Char → Bool} {run rest : List Char} (hne : run ≠ [])
    (hrun : ∀ c ∈ run, q c = true) (hrest : ∀ c, rest.head? = some c → q c = false) (n : Nat) :
    ∃ shorter, runChoices q n (run ++ rest) = shorter ++ [⟨n + run.length, rest⟩] ∧
      ∀ x ∈ shorter, ∃ c, x.rest.head? = some c ∧ q c = true := by
  induction run generalizing n with
  | nil => exact absurd rfl hne
  | cons c run ih =>
    rw [List.cons_append, runChoices, if_pos (hrun c List.mem_cons_self)]
    cases run with
    | nil =>
      refine ⟨[], ?_, by simp⟩
      rw [List.nil_append, runChoices_eq_nil (n + 1) hrest]
      rfl
    | cons d run =>
      obtain ⟨shorter, hchoices, hshorter⟩ :=
        ih (by simp) (fun e he => hrun e (List.mem_cons_of_mem c he)) (n + 1)
      refine ⟨⟨n + 1, d :: run ++ rest⟩ :: shorter, ?_, ?_⟩
      · rw [hchoices, List.cons_append, List.length_cons (a := c), Nat.add_right_comm]
        rfl
      · intro x hx
        rcases List.mem_cons.1 hx with rfl | hx
        · exact ⟨d, rfl, hrun d (by simp)⟩
        · exact hshorter x hx

/-- The choices take the same piece of two texts, which is `n` characters shorter than they say, and
what they leave differs in the spacing only. -/
def Choice.Alike (n : Nat) (s t : List Char) (x y : Choice) : Prop :=
  ∃ piece, s = piece ++ x.rest ∧ t = piece ++ y.rest ∧ x.length = n + piece.length ∧
    y.length = n + piece.length ∧ Respaced x.rest y.rest

theorem forall₂_runChoices_isWordChar {s t : List Char} (h : Respaced s t) (n : Nat) :
    List.Forall₂ (Choice.Alike n s t) (runChoices Text.isWordChar n s)
      (runChoices Text.isWordChar n t) := by
  induction s generalizing t n with
  | nil =>
    obtain rfl := Text.respaced_nil_iff.1 h
    exact List.Forall₂.nil
  | cons c r ih =>
    rcases h.cases with ⟨⟨⟩, -⟩ | ⟨_, _, r', -, ⟨⟩, rfl, hr⟩ |
      ⟨run, new, rest, tail, hrun, hnew, hs, rfl, -⟩
    · rw [runChoices, runChoices]
      split
      · refine List.Forall₂.cons ⟨[c], rfl, rfl, rfl, rfl, hr⟩ ((ih hr (n + 1)).imp ?_)
        rintro x y ⟨piece, rfl, rfl, hx, hy, hrest⟩
        refine ⟨c :: piece, rfl, rfl, ?_, ?_, hrest⟩ <;> rw [List.length_cons] <;> omega
      · exact List.Forall₂.nil
    · rw [hs, runChoices_eq_nil n fun d hd => Text.isWordChar_eq_false_of_isBlank (hrun.isBlank_head hd),
        runChoices_eq_nil n fun d hd => Text.isWordChar_eq_false_of_isBlank (hnew.isBlank_head hd)]
      exact List.Forall₂.nil

/-! ## Spaced patterns -/

/-- An atom that takes no blank. -/
def Atom.IsSolid : Atom → Prop
  | .literal c => Text.isBlank c = false
  | .word => True
  | .blanks | .shortText | .longText => False

theorem Atom.IsSolid.choices_eq_nil {a : Atom} (ha : a.IsSolid) {s : List Char}
    (h : ∀ c, s.head? = some c → Text.isBlank c = true) : a.choices {} s = [] := by
  cases a with
  | literal c =>
    cases s with
    | nil => rfl
    | cons d r =>
      have hne : c ≠ d := by
        rintro rfl
        exact absurd (h c rfl) (by rw [show Text.isBlank c = false from ha]; exact Bool.false_ne_true)
      rw [choices, if_neg (by simpa [Flags.same] using hne)]
  | word =>
    rw [choices, List.reverse_eq_nil_iff]
    exact runChoices_eq_nil 0 fun c hc => Text.isWordChar_eq_false_of_isBlank (h c hc)
  | blanks => cases ha
  | shortText => cases ha
  | longText => cases ha

theorem Atom.IsSolid.forall₂_choices {a : Atom} (ha : a.IsSolid) {s t : List Char}
    (h : Respaced s t) : List.Forall₂ (Choice.Alike 0 s t) (a.choices {} s) (a.choices {} t) := by
  rcases h.cases with ⟨rfl, rfl⟩ | ⟨c, r, r', -, rfl, rfl, hr⟩ |
      ⟨run, new, rest, tail, hrun, hnew, rfl, rfl, -⟩
  · rw [ha.choices_eq_nil (by simp)]
    exact List.Forall₂.nil
  · cases a with
    | literal d =>
      rw [choices, choices]
      split
      · exact List.Forall₂.cons ⟨[c], rfl, rfl, rfl, rfl, hr⟩ List.Forall₂.nil
      · exact List.Forall₂.nil
    | word => exact List.rel_reverse (forall₂_runChoices_isWordChar h 0)
    | blanks => cases ha
    | shortText => cases ha
    | longText => cases ha
  · rw [ha.choices_eq_nil fun _ => hrun.isBlank_head, ha.choices_eq_nil fun _ => hnew.isBlank_head]
    exact List.Forall₂.nil

namespace Pattern

/-- Apart from elastic white space that does not stand twice in a row, no atom takes a blank. -/
structure IsSpaced (p : Pattern) : Prop where
  isSolid : ∀ a ∈ p, a ≠ .blanks → a.IsSolid
  isChain : p.IsChain fun a b => a = .blanks → b ≠ .blanks

namespace IsSpaced

variable {a : Atom} {p : Pattern}

theorem tail (h : IsSpaced (a :: p)) : p.IsSpaced where
  isSolid b hb := h.isSolid b (List.mem_cons_of_mem a hb)
  isChain := h.isChain.tail

/-- Behind elastic white space stands an atom that takes no blank, or nothing. -/
theorem isSolid_head (h : IsSpaced (.blanks :: p)) : ∀ b ∈ p.head?, b.IsSolid := by
  intro b hb
  cases p with
  | nil => cases hb
  | cons c p =>
    obtain rfl := Option.some.inj hb
    exact h.isSolid c (by simp) ((List.isChain_cons_cons.1 h.isChain).1 rfl)

theorem ne_nil_of_admits (h : IsSpaced (a :: p)) {piece : List Char} (hpiece : a.Admits {} piece) :
    piece ≠ [] := by
  have ha := h.isSolid a List.mem_cons_self
  cases a with
  | literal c =>
    obtain ⟨d, rfl, -⟩ := hpiece
    simp
  | blanks => exact hpiece.1
  | word => exact hpiece.1
  | shortText => cases ha (by simp)
  | longText => cases ha (by simp)

/-- A spaced pattern is found nowhere in the empty text. -/
theorem length_pos (h : p.IsSpaced) (hne : p ≠ []) {m : Bool} {s : List Char}
    {pieces : List (List Char)} (hd : decompose? {} m p s = some pieces) :
    0 < pieces.flatten.length := by
  obtain ⟨b, q, rfl⟩ := List.exists_cons_of_ne_nil hne
  obtain ⟨hfits, -, -⟩ := fits_of_decompose? hd
  cases pieces with
  | nil => cases hfits
  | cons piece others =>
    have hpos := List.length_pos_iff.2 (h.ne_nil_of_admits hfits.1)
    rw [List.flatten_cons, List.length_append]
    omega

end IsSpaced

/-- Between two spaced patterns stands one that takes no blank. -/
theorem IsSpaced.append_solid {p q r : Pattern} (hp : p.IsSpaced) (hq : ∀ a ∈ q, a.IsSolid)
    (hne : q ≠ []) (hr : r.IsSpaced) : IsSpaced (p ++ (q ++ r)) where
  isSolid a ha hblanks := by
    rcases List.mem_append.1 ha with ha | ha
    · exact hp.isSolid a ha hblanks
    · exact (List.mem_append.1 ha).elim (hq a) (hr.isSolid a · hblanks)
  isChain := by
    have hq' : ∀ a ∈ q, a ≠ .blanks := by
      rintro a ha rfl
      exact hq _ ha
    have hchain : q.IsChain fun a b => a = .blanks → b ≠ .blanks := by
      apply List.Pairwise.isChain
      exact List.pairwise_of_forall_mem_list fun a ha b hb _ => hq' b hb
    refine hp.isChain.append (hchain.append hr.isChain ?_) ?_
    · intro a ha b _ hblanks
      exact absurd hblanks (hq' a (List.mem_of_getLast? ha))
    · intro a _ b hb _
      rw [List.head?_append_of_ne_nil _ hne] at hb
      exact hq' b (List.mem_of_head? hb)

theorem isSpaced_elastic (s : List Char) : IsSpaced (elastic s) where
  isSolid a ha hblanks := by
    rcases mem_ofLiteral (show a ∈ ofLiteral false s from ha) with ⟨c, rfl, hc⟩ | ⟨rfl, -⟩
    · exact hc.resolve_left Bool.false_ne_true
    · exact absurd rfl hblanks
  isChain := by
    induction s with
    | nil => exact List.isChain_nil
    | cons c r ih =>
      rw [elastic]
      split
      · split
        · exact ih
        · next hhead =>
          rw [List.isChain_cons]
          refine ⟨?_, ih⟩
          rintro b hb - rfl
          cases r with
          | nil => cases hb
          | cons d r =>
            have hd : ¬ Text.isBlank d = true := hhead
            rw [elastic, if_neg hd] at hb
            cases hb
      · rw [List.isChain_cons]
        exact ⟨fun _ _ hblanks => Atom.noConfusion hblanks, ih⟩

theorem elastic_ne_nil {s : List Char} (h : s ≠ []) : elastic s ≠ [] := by
  induction s with
  | nil => exact absurd rfl h
  | cons c r ih =>
    rw [elastic]
    split
    · split
      · next hhead =>
        apply ih
        rintro rfl
        cases hhead
      · exact List.cons_ne_nil _ _
    · exact List.cons_ne_nil _ _

theorem isSolid_of_mem_elastic {s : List Char} (h : ∀ c ∈ s, Text.isBlank c = false) {a : Atom}
    (ha : a ∈ elastic s) : a.IsSolid := by
  have hs := elastic_append_of_not_blank [] h
  rw [List.append_nil] at hs
  rw [hs, elastic, List.append_nil] at ha
  obtain ⟨c, hc, rfl⟩ := List.mem_map.1 ha
  exact h c hc

/-! ## What is found at one place -/

section Decompose

variable {a : Atom} {p : Pattern} {run rest : List Char}

theorem decompose?_of_isSolid (ha : a.IsSolid) (h : IsRun true run rest) (m : Bool) :
    decompose? {} m (a :: p) (run ++ rest) = none := by
  rw [decompose?, ha.choices_eq_nil fun _ => h.isBlank_head]
  rfl

theorem decompose?_blanks_of_not_blank {s : List Char}
    (h : ∀ c, s.head? = some c → Text.isBlank c = false) (m : Bool) :
    decompose? {} m (.blanks :: p) s = none := by
  have hchoices : Atom.blanks.choices {} s = [] :=
    List.reverse_eq_nil_iff.2 (runChoices_eq_nil 0 h)
  rw [decompose?, hchoices]
  rfl

/-- Elastic white space takes a run of blanks as a whole. -/
theorem decompose?_blanks (hp : IsSpaced (.blanks :: p)) (h : IsRun true run rest) :
    decompose? {} false (.blanks :: p) (run ++ rest) =
      (decompose? {} false p rest).map (run :: ·) := by
  obtain ⟨shorter, hchoices, hshorter⟩ :=
    exists_runChoices_append h.ne_nil h.isBlank_eq (fun c hc => h.head_ne c hc) 0
  have hlist : Atom.blanks.choices {} (run ++ rest) = ⟨run.length, rest⟩ :: shorter.reverse := by
    rw [Atom.choices]
    show (runChoices Text.isBlank 0 (run ++ rest)).reverse = _
    rw [hchoices, List.reverse_concat, Nat.zero_add]
  rw [decompose?, hlist, List.findSome?_cons, Bool.false_and, List.take_left]
  cases hrest : decompose? {} false p rest with
  | some others => rfl
  | none =>
    rw [Option.map_none, List.findSome?_eq_none_iff]
    intro x hx
    rw [Bool.false_and, Option.map_eq_none_iff]
    obtain ⟨c, hc, hblank⟩ := hshorter x (List.mem_reverse.1 hx)
    cases p with
    | nil => cases hrest
    | cons b q =>
      have hb : b.choices {} x.rest = [] := by
        apply (hp.isSolid_head b rfl).choices_eq_nil
        intro d hd
        rw [hc] at hd
        rwa [← Option.some.inj hd]
      rw [decompose?, hb]
      rfl

/-- The decompositions have the same captures, and what they leave of the texts differs in the
spacing only. -/
structure Alike (p : Pattern) (s t : List Char) (xs ys : List (List Char)) : Prop where
  captures_eq : p.captures xs = p.captures ys
  respaced : Respaced (s.drop xs.flatten.length) (t.drop ys.flatten.length)

theorem Alike.cons {s t x y : List Char} {xs ys : List (List Char)}
    (hxy : a.isCapture = true → x = y) (h : p.Alike s t xs ys) :
    Alike (a :: p) (x ++ s) (y ++ t) (x :: xs) (y :: ys) where
  captures_eq := by
    rw [captures, captures, h.captures_eq]
    split
    · next ha => rw [hxy ha]
    · rfl
  respaced := by
    rw [List.flatten_cons, List.flatten_cons, List.length_append, List.length_append,
      List.drop_length_add_append, List.drop_length_add_append]
    exact h.respaced

/-- At the heads of two texts that differ in the spacing only, a spaced pattern finds decompositions
that correspond, or nothing. -/
theorem rel_decompose? (hp : p.IsSpaced) {s t : List Char} (h : Respaced s t) :
    Option.Rel (p.Alike s t) (decompose? {} false p s) (decompose? {} false p t) := by
  induction p generalizing s t with
  | nil => exact Option.Rel.some ⟨rfl, h⟩
  | cons a p ih =>
    by_cases ha : a = .blanks
    · subst ha
      rcases h.cases with ⟨rfl, rfl⟩ | ⟨c, r, r', hc, rfl, rfl, -⟩ |
          ⟨run, new, rest, tail, hrun, hnew, rfl, rfl, hrest⟩
      · exact Option.Rel.none
      · have hhead : ∀ s d, (c :: s).head? = some d → Text.isBlank d = false := by
          rintro s d ⟨⟩
          exact hc
        rw [decompose?_blanks_of_not_blank (hhead r), decompose?_blanks_of_not_blank (hhead r')]
        exact Option.Rel.none
      · rw [decompose?_blanks hp hrun, decompose?_blanks hp hnew]
        exact rel_map (fun _ _ => Alike.cons (by simp [Atom.isCapture])) (ih hp.tail hrest)
    · rw [decompose?, decompose?]
      refine rel_findSome? ?_ ((hp.isSolid a List.mem_cons_self ha).forall₂_choices h)
      rintro x y ⟨piece, rfl, rfl, hx, hy, hrest⟩
      rw [Nat.zero_add] at hx hy
      rw [hx, hy, List.take_left, List.take_left, Bool.false_and]
      exact rel_map (fun _ _ => Alike.cons fun _ => rfl) (ih hp.tail hrest)

end Decompose

/-! ## What the scan finds -/

section Scan

variable {p : Pattern} {text : List Char}

/-- Where nothing stands at the beginning of a run of blanks, nothing stands inside it. -/
theorem decompose?_drop_run (hp : p.IsSpaced) {run rest : List Char} (h : IsRun true run rest)
    (hnone : decompose? {} false p (run ++ rest) = none) {i : Nat} (hi : i < run.length) :
    decompose? {} false p (run.drop i ++ rest) = none := by
  cases p with
  | nil => cases hnone
  | cons a p =>
    by_cases ha : a = .blanks
    · subst ha
      rw [decompose?_blanks hp h, Option.map_eq_none_iff] at hnone
      rw [decompose?_blanks hp (h.drop hi), hnone]
      rfl
    · exact decompose?_of_isSolid (hp.isSolid a List.mem_cons_self ha) (h.drop hi) false

theorem drop_add_length {front rest : List Char} {q : Nat} (hq : q ≤ text.length)
    (h : text.drop q = front ++ rest) :
    q + front.length ≤ text.length ∧ text.drop (q + front.length) = rest := by
  have hlen := congrArg List.length h
  rw [List.length_drop, List.length_append] at hlen
  refine ⟨by omega, ?_⟩
  rw [← List.drop_drop, h, List.drop_left]

/-- There the scan passes over the whole run. -/
theorem scanAt_run (hp : p.IsSpaced) {run rest : List Char} (h : IsRun true run rest) {q : Nat}
    (hq : q ≤ text.length) (htext : text.drop q = run ++ rest)
    (hnone : decompose? {} false p (text.drop q) = none) :
    scanAt {} p text q = scanAt {} p text (q + run.length) := by
  apply scanAt_add (drop_add_length hq htext).1
  intro i hi
  rw [← List.drop_drop, htext, List.drop_append_of_le_length (by omega)]
  rw [htext] at hnone
  exact decompose?_drop_run hp h hnone hi

theorem scanAt_of_drop_eq_nil {q : Nat} (hq : q ≤ text.length) (htext : text.drop q = [])
    (hnone : decompose? {} false p (text.drop q) = none) : scanAt {} p text q = [] := by
  have hend := List.drop_eq_nil_iff.1 htext
  rw [scanAt_of_decompose?_eq_none hq hnone, scanAt, if_neg (by omega)]

/-- One step of the scans of two texts, from places behind which they differ in the spacing only.
They both end, or both pass on to such places, and what they report on the way has the same
captures. -/
theorem scanAt_respaced_step (hp : p.IsSpaced) (hne : p ≠ []) {s t : List Char} {q r : Nat}
    (hq : q ≤ s.length) (hr : r ≤ t.length) (h : Respaced (s.drop q) (t.drop r)) :
    (scanAt {} p s q = [] ∧ scanAt {} p t r = []) ∨
      ∃ q' r' found found', q < q' ∧ q' ≤ s.length ∧ r' ≤ t.length ∧
        Respaced (s.drop q') (t.drop r') ∧ scanAt {} p s q = found ++ scanAt {} p s q' ∧
          scanAt {} p t r = found' ++ scanAt {} p t r' ∧
            found.map Occurrence.captures = found'.map Occurrence.captures := by
  have hrel := rel_decompose? hp h
  cases hs : decompose? {} false p (s.drop q) <;>
    cases ht : decompose? {} false p (t.drop r) <;> rw [hs, ht] at hrel
  case none.some => cases hrel
  case some.none => cases hrel
  case none.none =>
    rcases h.cases with ⟨hs', ht'⟩ | ⟨c, u, v, -, hs', ht', huv⟩ |
        ⟨run, new, u, v, hrun, hnew, hs', ht', huv⟩
    · exact Or.inl ⟨scanAt_of_drop_eq_nil hq hs' hs, scanAt_of_drop_eq_nil hr ht' ht⟩
    · obtain ⟨hq', hu⟩ := drop_add_length hq (show s.drop q = [c] ++ u from hs')
      obtain ⟨hr', hv⟩ := drop_add_length hr (show t.drop r = [c] ++ v from ht')
      right
      refine ⟨q + 1, r + 1, [], [], Nat.lt_succ_self q, hq', hr', ?_,
        scanAt_of_decompose?_eq_none hq hs, scanAt_of_decompose?_eq_none hr ht, rfl⟩
      rw [show s.drop (q + 1) = u from hu, show t.drop (r + 1) = v from hv]
      exact huv
    · obtain ⟨hq', hu⟩ := drop_add_length hq hs'
      obtain ⟨hr', hv⟩ := drop_add_length hr ht'
      have hpos := List.length_pos_iff.2 hrun.ne_nil
      right
      refine ⟨q + run.length, r + new.length, [], [], by omega, hq', hr', ?_,
        scanAt_run hp hrun hq hs' hs, scanAt_run hp hnew hr ht' ht, rfl⟩
      rw [hu, hv]
      exact huv
  case some.some xs ys =>
    obtain ⟨⟨hcaptures, hrest⟩⟩ := hrel
    rw [List.drop_drop, List.drop_drop] at hrest
    right
    refine ⟨_, _, [Occurrence.ofPieces p q xs], [Occurrence.ofPieces p r ys], ?_, ?_, ?_, hrest,
      scanAt_of_decompose?_eq_some hq hs (hp.length_pos hne hs),
      scanAt_of_decompose?_eq_some hr ht (hp.length_pos hne ht), ?_⟩
    · have hpos := hp.length_pos hne hs
      omega
    · exact stop_ofPieces_le hq (isFirst_of_decompose? hs).stands
    · exact stop_ofPieces_le hr (isFirst_of_decompose? ht).stands
    · rw [List.map_singleton, List.map_singleton]
      exact congrArg (fun c => [c]) hcaptures

/-- From places behind which two texts differ in the spacing only, the scan finds the same
captures. -/
theorem captures_scanAt_respaced (hp : p.IsSpaced) (hne : p ≠ []) {s t : List Char} {q r : Nat}
    (hq : q ≤ s.length) (hr : r ≤ t.length) (h : Respaced (s.drop q) (t.drop r)) :
    (scanAt {} p s q).map Occurrence.captures = (scanAt {} p t r).map Occurrence.captures := by
  induction hn : s.length - q using Nat.strong_induction_on generalizing q r with
  | _ n ih =>
    rcases scanAt_respaced_step hp hne hq hr h with ⟨hs, ht⟩ |
        ⟨q', r', found, found', hlt, hq', hr', h', hs, ht, hfound⟩
    · rw [hs, ht]
    · rw [hs, ht, List.map_append, List.map_append, hfound,
        ih (s.length - q') (by omega) hq' hr' h' rfl]

/-- In texts that differ in the spacing only, a spaced pattern is found equally often, with the same
captures. -/
theorem captures_findAll_respaced (hp : p.IsSpaced) (hne : p ≠ []) {s t : List Char}
    (h : Respaced s t) :
    (findAll {} p s).map Occurrence.captures = (findAll {} p t).map Occurrence.captures := by
  rw [findAll_eq_scanAt, findAll_eq_scanAt]
  exact captures_scanAt_respaced hp hne (Nat.zero_le _) (Nat.zero_le _) h

end Scan

end Pattern
end FieldPattern

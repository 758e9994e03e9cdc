import FieldPattern.Proofs.Pattern.Search

/-!
# What scanning finds

A scan goes on where its last occurrence ends. The state it carries is that occurrence alone: where
it ends (`resume`), and whether it was empty, in which case the same place is tried again, now for
a decomposition that moves (`retries`).

A list of occurrences is *complete* behind the last one before it when each occurrence is what the
order of trials prefers at its place, and at the places between one occurrence and the next, and
behind the last one up to the end of the text, nothing stands (`IsComplete`). What the scan finds
is complete (`isComplete_findAll`). That occurrences neither meet nor repeat follows from
completeness alone (`IsComplete.pairwise`).
-/

namespace FieldPattern
namespace Pattern

variable {f : Flags} {p : Pattern} {text : List Char}

/-- The offset at which the scan goes on after its last occurrence. -/
def resume (last : Option Occurrence) : Nat :=
  (last.map Occurrence.stop).getD 0

/-- The last occurrence was empty and ends at this offset, so only what moves counts there. -/
def retries (last : Option Occurrence) (q : Nat) : Bool :=
  last.any fun o => o.length == 0 && o.stop == q

/-- Nothing that counts stands at the offset. -/
def IsFree (f : Flags) (p : Pattern) (text : List Char) (last : Option Occurrence) (q : Nat) :
    Prop :=
  ∀ pieces, ¬ p.Stands f (retries last q) (text.drop q) pieces

/-- The occurrence is the one that the order of trials prefers at its place. -/
def IsPreferred (f : Flags) (p : Pattern) (text : List Char) (last : Option Occurrence)
    (o : Occurrence) : Prop :=
  ∃ pieces, p.IsFirst f (retries last o.start) (text.drop o.start) pieces ∧
    o = Occurrence.ofPieces p o.start pieces

/-- Behind the last occurrence, these are all. -/
def IsComplete (f : Flags) (p : Pattern) (text : List Char) :
    (last : Option Occurrence) → List Occurrence → Prop
  | last, [] => ∀ q, resume last ≤ q → q ≤ text.length → IsFree f p text last q
  | last, o :: rest =>
    resume last ≤ o.start ∧ o.stop ≤ text.length ∧ IsPreferred f p text last o ∧
      (∀ q, resume last ≤ q → q < o.start → IsFree f p text last q) ∧
        IsComplete f p text (some o) rest

/-! ## Occurrences at one place -/

theorem length_ofPieces (p : Pattern) (start : Nat) (pieces : List (List Char)) :
    (Occurrence.ofPieces p start pieces).length = pieces.flatten.length := by
  rw [Occurrence.length, Occurrence.ofPieces, Nat.add_sub_cancel_left]

theorem stop_ofPieces_le {start : Nat} {mustMove : Bool} {pieces : List (List Char)}
    (hstart : start ≤ text.length) (h : p.Stands f mustMove (text.drop start) pieces) :
    (Occurrence.ofPieces p start pieces).stop ≤ text.length := by
  have hlen := h.isPrefix.length_le
  rw [List.length_drop] at hlen
  rw [Occurrence.ofPieces]
  show start + pieces.flatten.length ≤ text.length
  omega

/-! ## The scan, place by place -/

/-- What the scan finds from an offset on. Behind the end of the text there is no further place. -/
def scanAt (f : Flags) (p : Pattern) (text : List Char) (q : Nat) : List Occurrence :=
  if q ≤ text.length then scanFrom f p 0 q (text.drop q) else []

theorem findAll_eq_scanAt (f : Flags) (p : Pattern) (text : List Char) :
    findAll f p text = scanAt f p text 0 := by
  rw [findAll, scanAt, if_pos (Nat.zero_le _), List.drop_zero]

theorem scanFrom_eq_drop {skip : Nat} {s : List Char} (hskip : skip ≤ s.length) (start : Nat) :
    scanFrom f p skip start s = scanFrom f p 0 (start + skip) (s.drop skip) := by
  induction s generalizing skip start with
  | nil =>
    obtain rfl : skip = 0 := Nat.le_zero.1 hskip
    rfl
  | cons c r ih =>
    cases skip with
    | zero => rfl
    | succ skip =>
      rw [scanFrom, ih (Nat.le_of_succ_le_succ hskip), List.drop_succ_cons, Nat.add_assoc,
        Nat.add_comm 1 skip]

/-- Past a place the scan moves by what the occurrences there cover, and by one character at
least. -/
theorem scanAt_eq_append {start : Nat} (hstart : start ≤ text.length)
    (hcovered : start + covered (occurrencesAt f p start (text.drop start)) ≤ text.length) :
    scanAt f p text start = occurrencesAt f p start (text.drop start) ++
      scanAt f p text (start + max 1 (covered (occurrencesAt f p start (text.drop start)))) := by
  rw [scanAt, if_pos hstart]
  generalize hs : text.drop start = s at hcovered ⊢
  have hlen : s.length = text.length - start := by rw [← hs, List.length_drop]
  cases s with
  | nil =>
    have hend : text.length = start := by
      rw [List.length_nil] at hlen
      omega
    rw [scanFrom, scanAt, if_neg (by omega), List.append_nil]
  | cons c r =>
    generalize hk : covered (occurrencesAt f p start (c :: r)) = k at hcovered ⊢
    rw [List.length_cons] at hlen
    have hr : ∀ n, r.drop n = text.drop (start + 1 + n) := by
      intro n
      rw [← List.drop_drop, ← List.drop_drop, hs, List.drop_one, List.tail_cons]
    have hmax : start + max 1 k = start + 1 + (k - 1) := by omega
    have hskip : k - 1 ≤ r.length := by omega
    rw [scanFrom, hk, hmax, scanAt, if_pos (by omega)]
    show _ ++ scanFrom f p (k - 1) (start + 1) r = _
    rw [scanFrom_eq_drop hskip, hr]

/-- At a place where nothing stands the scan moves on by one character. Otherwise it reports what is
found there and goes on behind it; if that is empty, it reports behind it what moves from the same
place, and goes on behind this, or else moves on by one character. -/
theorem scanAt_cases {start : Nat} (hstart : start ≤ text.length) :
    (decompose? f false p (text.drop start) = none ∧
        scanAt f p text start = scanAt f p text (start + 1)) ∨
      ∃ pieces, decompose? f false p (text.drop start) = some pieces ∧
        ((0 < pieces.flatten.length ∧
            scanAt f p text start = Occurrence.ofPieces p start pieces ::
              scanAt f p text (start + pieces.flatten.length)) ∨
          (pieces.flatten.length = 0 ∧ decompose? f true p (text.drop start) = none ∧
            scanAt f p text start = Occurrence.ofPieces p start pieces ::
              scanAt f p text (start + 1)) ∨
          (pieces.flatten.length = 0 ∧
            ∃ further, decompose? f true p (text.drop start) = some further ∧
              scanAt f p text start = Occurrence.ofPieces p start pieces ::
                Occurrence.ofPieces p start further ::
                  scanAt f p text (start + further.flatten.length))) := by
  have hstep := scanAt_eq_append (f := f) (p := p) hstart
  have hstop : ∀ {m pieces}, decompose? f m p (text.drop start) = some pieces →
      start + pieces.flatten.length ≤ text.length :=
    fun hd => stop_ofPieces_le hstart (isFirst_of_decompose? hd).stands
  rw [occurrencesAt, occursAt?, occursAt?] at hstep
  cases hd : decompose? f false p (text.drop start) with
  | none =>
    rw [hd] at hstep
    exact Or.inl ⟨rfl, hstep hstart⟩
  | some pieces =>
    refine Or.inr ⟨pieces, rfl, ?_⟩
    simp only [hd, Option.map_some, length_ofPieces] at hstep
    by_cases hlen : pieces.flatten.length = 0
    · right
      rw [if_pos (by simp [hlen])] at hstep
      cases hm : decompose? f true p (text.drop start) with
      | none =>
        rw [hm] at hstep
        simp only [Option.map_none, Option.toList_none, covered, length_ofPieces, hlen] at hstep
        exact Or.inl ⟨hlen, rfl, hstep hstart⟩
      | some further =>
        have hmoves := List.length_pos_iff.2 ((isFirst_of_decompose? hm).stands.moves rfl)
        rw [hm] at hstep
        simp only [Option.map_some, Option.toList_some, covered, length_ofPieces, hlen,
          Nat.zero_add, Nat.add_zero, max_eq_right (Nat.succ_le_of_lt hmoves)] at hstep
        exact Or.inr ⟨hlen, further, rfl, hstep (hstop hm)⟩
    · left
      have hpos := Nat.pos_of_ne_zero hlen
      rw [if_neg (by simpa using hlen)] at hstep
      simp only [covered, length_ofPieces, Nat.add_zero,
        max_eq_right (Nat.succ_le_of_lt hpos)] at hstep
      exact ⟨hpos, hstep (hstop hd)⟩

theorem scanAt_of_decompose?_eq_none {start : Nat} (hstart : start ≤ text.length)
    (h : decompose? f false p (text.drop start) = none) :
    scanAt f p text start = scanAt f p text (start + 1) := by
  rcases scanAt_cases (f := f) (p := p) hstart with ⟨-, hscan⟩ | ⟨pieces, hsome, -⟩
  · exact hscan
  · rw [h] at hsome
    cases hsome

/-- The scan passes over places where nothing stands. -/
theorem scanAt_add {start n : Nat} (hend : start + n ≤ text.length)
    (h : ∀ i, i < n → decompose? f false p (text.drop (start + i)) = none) :
    scanAt f p text start = scanAt f p text (start + n) := by
  induction n with
  | zero => rfl
  | succ n ih =>
    rw [ih (by omega) fun i hi => h i (by omega),
      scanAt_of_decompose?_eq_none (by omega) (h n (by omega)), Nat.add_assoc]

theorem scanAt_of_decompose?_eq_some {start : Nat} {pieces : List (List Char)}
    (hstart : start ≤ text.length)
    (h : decompose? f false p (text.drop start) = some pieces) (hpos : 0 < pieces.flatten.length) :
    scanAt f p text start = Occurrence.ofPieces p start pieces ::
      scanAt f p text (start + pieces.flatten.length) := by
  rcases scanAt_cases (f := f) (p := p) hstart with ⟨hnone, -⟩ | ⟨others, hothers, hscan⟩
  · rw [h] at hnone
    cases hnone
  · obtain rfl := Option.some.inj (h.symm.trans hothers)
    rcases hscan with ⟨-, hscan⟩ | ⟨hempty, -⟩ | ⟨hempty, -⟩
    · exact hscan
    · omega
    · omega

/-! ## The scan is complete -/

theorem retries_eq_false_of_lt {last : Option Occurrence} {q : Nat} (h : resume last < q) :
    retries last q = false := by
  cases last with
  | none => rfl
  | some o =>
    have hne : o.stop ≠ q := Nat.ne_of_lt h
    rw [retries, Option.any_some, beq_eq_false_iff_ne.2 hne, Bool.and_false]

theorem retries_ofPieces (start q : Nat) (pieces : List (List Char)) :
    retries (some (Occurrence.ofPieces p start pieces)) q =
      (pieces.flatten.length == 0 && start + pieces.flatten.length == q) := by
  rw [retries, Option.any_some, length_ofPieces]
  rfl

/-- Behind an empty occurrence the same place is tried again. -/
theorem resume_of_empty {start : Nat} {pieces : List (List Char)}
    (h : pieces.flatten.length = 0) :
    resume (some (Occurrence.ofPieces p start pieces)) = start ∧
      retries (some (Occurrence.ofPieces p start pieces)) start = true := by
  constructor
  · show start + pieces.flatten.length = start
    rw [h, Nat.add_zero]
  · rw [retries_ofPieces, h, Nat.add_zero, beq_self_eq_true, beq_self_eq_true, Bool.and_self]

/-- The step of the scan that reports an occurrence: behind it, all that is left is found. -/
theorem IsComplete.cons {last : Option Occurrence} {start : Nat} {pieces : List (List Char)}
    {rest : List Occurrence} (hstart : start ≤ text.length) (hresume : resume last ≤ start)
    (hpieces : decompose? f (retries last start) p (text.drop start) = some pieces)
    (hfree : ∀ q, resume last ≤ q → q < start → IsFree f p text last q)
    (hrest : IsComplete f p text (some (Occurrence.ofPieces p start pieces)) rest) :
    IsComplete f p text last (Occurrence.ofPieces p start pieces :: rest) := by
  have hfirst := isFirst_of_decompose? hpieces
  exact ⟨hresume, stop_ofPieces_le hstart hfirst.stands, ⟨pieces, hfirst, rfl⟩, hfree, hrest⟩

/-- From a place that was not tried before, and before which nothing was missed, the scan finds all
that is left. -/
theorem isComplete_scanAt {last : Option Occurrence} {start : Nat}
    (hstart : start ≤ text.length + 1) (hresume : resume last ≤ start)
    (hretries : retries last start = false)
    (hfree : ∀ q, resume last ≤ q → q < start → IsFree f p text last q) :
    IsComplete f p text last (scanAt f p text start) := by
  induction hn : text.length + 1 - start using Nat.strong_induction_on
    generalizing last start with
  | _ n ih =>
    by_cases hend : start ≤ text.length
    · rcases scanAt_cases (f := f) (p := p) hend with
        ⟨hnone, hscan⟩ | ⟨pieces, hpieces, hcases⟩
      · rw [hscan]
        refine ih _ (by omega) (by omega) (by omega) (retries_eq_false_of_lt (by omega)) ?_ rfl
        intro q hq hlt
        rcases Nat.lt_succ_iff_lt_or_eq.1 hlt with hlt | rfl
        · exact hfree q hq hlt
        · rw [← hretries] at hnone
          exact decompose?_eq_none_iff_not_stands.1 hnone
      · have hfirst : decompose? f (retries last start) p (text.drop start) = some pieces := by
          rw [hretries]
          exact hpieces
        -- behind an occurrence that moves, the scan starts afresh
        have hbehind : ∀ {m moved}, decompose? f m p (text.drop start) = some moved →
            0 < moved.flatten.length →
              IsComplete f p text (some (Occurrence.ofPieces p start moved))
                (scanAt f p text (start + moved.flatten.length)) := by
          intro m moved hmoved hpos
          have hstop : start + moved.flatten.length ≤ text.length :=
            stop_ofPieces_le hend (isFirst_of_decompose? hmoved).stands
          refine ih _ (by omega) (by omega) (Nat.le_refl _) ?_ ?_ rfl
          · rw [retries_ofPieces, beq_eq_false_iff_ne.2 hpos.ne', Bool.false_and]
          · intro q hq hlt
            exact absurd hq (Nat.not_le.2 hlt)
        rcases hcases with
          ⟨hpos, hscan⟩ | ⟨hlen, hnone, hscan⟩ | ⟨hlen, further, hfurther, hscan⟩
        · rw [hscan]
          exact IsComplete.cons hend hresume hfirst hfree (hbehind hpieces hpos)
        · obtain ⟨hresume', hagain⟩ := @resume_of_empty p start pieces hlen
          rw [hscan]
          refine IsComplete.cons hend hresume hfirst hfree ?_
          refine ih _ (by omega) (by omega) (by omega) (retries_eq_false_of_lt (by omega)) ?_ rfl
          intro q hq hlt
          obtain rfl : q = start := by omega
          rw [IsFree, hagain]
          exact decompose?_eq_none_iff_not_stands.1 hnone
        · obtain ⟨hresume', hagain⟩ := @resume_of_empty p start pieces hlen
          rw [hscan]
          refine IsComplete.cons hend hresume hfirst hfree ?_
          have hmoves := (isFirst_of_decompose? hfurther).stands.moves rfl
          have hpos := List.length_pos_iff.2 hmoves
          refine IsComplete.cons hend hresume'.le ?_ ?_ (hbehind hfurther hpos)
          · rw [hagain]
            exact hfurther
          · intro q hq hlt
            omega
    · rw [scanAt, if_neg hend]
      intro q hq hlen
      exact hfree q hq (by omega)

theorem isComplete_findAll (f : Flags) (p : Pattern) (text : List Char) :
    IsComplete f p text none (findAll f p text) := by
  rw [findAll_eq_scanAt]
  exact isComplete_scanAt (Nat.zero_le _) (Nat.le_refl 0) rfl
    fun q _ hlt => absurd hlt (Nat.not_lt_zero q)

/-! ## What completeness says of the spans -/

namespace IsComplete

variable {last : Option Occurrence} {found before rest : List Occurrence}

theorem start_le_stop {o : Occurrence} (h : IsPreferred f p text last o) : o.start ≤ o.stop := by
  obtain ⟨pieces, -, ho⟩ := h
  rw [ho]
  exact Nat.le_add_right _ _

/-- An occurrence where an empty one was reported is not empty again. -/
theorem start_lt_stop {o : Occurrence} (h : IsPreferred f p text last o)
    (hretries : retries last o.start = true) : o.start < o.stop := by
  obtain ⟨pieces, hfirst, ho⟩ := h
  have hmoves := List.length_pos_iff.2 (hfirst.stands.moves hretries)
  rw [ho]
  show o.start < o.start + pieces.flatten.length
  omega

/-- Behind an occurrence there is no place before its end, and behind an empty one all that is
reported reaches further than it. -/
theorem bounds (h : IsComplete f p text last found) :
    ∀ o ∈ found, resume last ≤ o.start ∧ o.start ≤ o.stop ∧ o.stop ≤ text.length ∧
      (retries last (resume last) = true → resume last < o.stop) := by
  induction found generalizing last with
  | nil =>
    intro o ho
    cases ho
  | cons first rest ih =>
    obtain ⟨hresume, hstop, hpreferred, -, hrest⟩ := h
    have hle := start_le_stop hpreferred
    have hmoves : retries last (resume last) = true → resume last < first.stop := by
      intro hretries
      rcases Nat.lt_or_eq_of_le hresume with hlt | heq
      · omega
      · rw [heq] at hretries ⊢
        exact start_lt_stop hpreferred hretries
    intro o ho
    rcases List.mem_cons.1 ho with rfl | ho
    · exact ⟨hresume, hle, hstop, hmoves⟩
    · obtain ⟨hafter, hbounds⟩ := ih hrest o ho
      have hafter : first.stop ≤ o.start := hafter
      refine ⟨by omega, hbounds.1, hbounds.2.1, ?_⟩
      intro hretries
      have hlt := hmoves hretries
      omega

/-- Of two occurrences the later one begins where the first ends or behind it, and if the first is
empty it ends further on. -/
theorem pairwise (h : IsComplete f p text last found) :
    found.Pairwise fun o o' => o.stop ≤ o'.start ∧ (o.length = 0 → o.stop < o'.stop) := by
  induction found generalizing last with
  | nil => exact List.Pairwise.nil
  | cons first rest ih =>
    obtain ⟨-, -, -, -, hrest⟩ := h
    refine List.Pairwise.cons ?_ (ih hrest)
    intro o ho
    obtain ⟨hafter, -, -, hmoves⟩ := hrest.bounds o ho
    refine ⟨hafter, fun hempty => hmoves ?_⟩
    rw [retries, Option.any_some, hempty]
    exact beq_self_eq_true first.stop

/-- No span is reported twice. -/
theorem nodup_spans (h : IsComplete f p text last found) :
    (found.map fun o => (o.start, o.stop)).Nodup := by
  rw [List.Nodup, List.pairwise_map]
  have hbounds : ∀ o ∈ found, o.start ≤ o.stop := fun o ho => (h.bounds o ho).2.1
  refine List.Pairwise.imp_of_mem ?_ h.pairwise
  rintro o o' ho - ⟨hafter, hmoves⟩ heq
  obtain ⟨hstart, hstop⟩ := Prod.mk.inj heq
  have hle := hbounds o ho
  have hempty : o.length = 0 := by
    rw [Occurrence.length]
    omega
  have hlt := hmoves hempty
  omega

/-- What is left of a complete list is complete behind the last occurrence before it. -/
theorem behind (h : IsComplete f p text last (before ++ rest)) :
    IsComplete f p text (before.getLast?.or last) rest := by
  induction before generalizing last with
  | nil => exact h
  | cons o before ih =>
    have hrest := ih h.2.2.2.2
    rw [List.getLast?_cons]
    cases hlast : before.getLast? with
    | none =>
      rw [hlast] at hrest
      exact hrest
    | some o' =>
      rw [hlast] at hrest
      exact hrest

/-- Nothing that counts stands between the last occurrence before the rest and the first of the
rest, or the end of the text. -/
theorem isFree (h : IsComplete f p text last rest) {q : Nat} (hq : q ≤ text.length)
    (hresume : resume last ≤ q) (hrest : ∀ o ∈ rest.head?, q < o.start) :
    IsFree f p text last q := by
  cases rest with
  | nil => exact h q hresume hq
  | cons o rest =>
    obtain ⟨-, -, -, hfree, -⟩ := h
    exact hfree q hresume (hrest o rfl)

end IsComplete

/-! ## The first occurrence -/

/-- What is found first is the first of all occurrences: it stands at the first place where anything
stands, and it is what the order of trials prefers there. -/
theorem head?_findAll (f : Flags) (p : Pattern) (text : List Char) :
    (findAll f p text).head? = search? f p text := by
  have hcomplete := isComplete_findAll f p text
  cases hfound : findAll f p text with
  | nil =>
    rw [hfound] at hcomplete
    rcases search?_cases f p text with ⟨hnone, -⟩ | ⟨i, pieces, hi, -, hpieces, -⟩
    · rw [hnone]
      rfl
    · exact absurd (isFirst_of_decompose? hpieces).stands (hcomplete i (Nat.zero_le i) hi pieces)
  | cons o rest =>
    rw [hfound] at hcomplete
    obtain ⟨-, -, ⟨pieces, hfirst, ho⟩, hfree, -⟩ := hcomplete
    have hhere : decompose? f false p (text.drop o.start) = some pieces :=
      decompose?_eq_some_iff.2 hfirst
    rcases search?_cases f p text with ⟨-, hall⟩ | ⟨i, others, hi, hbefore, hothers, hsearch⟩
    · rw [hall] at hhere
      cases hhere
    · obtain rfl : i = o.start := by
        rcases Nat.lt_trichotomy i o.start with hlt | heq | hgt
        · exact absurd (isFirst_of_decompose? hothers).stands
            (hfree i (Nat.zero_le i) hlt others)
        · exact heq
        · rw [hbefore _ hgt] at hhere
          cases hhere
      rw [hhere] at hothers
      rw [hsearch, ← Option.some.inj hothers, ← ho]
      rfl

end Pattern
end FieldPattern

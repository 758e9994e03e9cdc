import FieldPattern.Expression.Token
import FieldPattern.Proofs.Expression.Reading

/-!
# Tokens are leftmost and longest

The fields that may stand in an expression are its *candidates*: an offset, the length of a name,
and whether a star is taken. The tokens of an expression are the candidates that a left-to-right
reading with a preference for long names and for stars selects, and nothing is left over behind the
last one (`areLeftmostLongest_ofText`).

What this says of the tokens as a list of spans is drawn from it without looking at the reader
again: the spans are in order, do not meet and cover the expression together with the text between
them. Without markers the names are the runs of word characters
(`AreLeftmostLongest.isWordRun_iff`).
-/

namespace FieldPattern

/-- At offset `p` the expression reads the left marker, a name of `n` word characters, the star if
`m` has one, and the right marker. -/
def IsCandidate (left right e : List Char) (p n : Nat) (m : Multiplicity) : Prop :=
  ∃ name : List Char, name.length = n ∧ (Field.mk name m).StandsAt left right (e.drop p)

namespace Token

/-- The text of a token, markers included. -/
def raw (left right : List Char) (t : Token) : List Char :=
  (Field.mk t.name t.multiplicity).raw left right

/-- The token is the first candidate from offset `base` on, with the longest name there. -/
structure IsLeftmostLongest (left right e : List Char) (base : Nat) (t : Token) : Prop where
  base_le : base ≤ t.start
  candidate : IsCandidate left right e t.start t.name.length t.multiplicity
  leftmost : ∀ p n m, base ≤ p → p < t.start → ¬ IsCandidate left right e p n m
  longest : ∀ n m, IsCandidate left right e t.start n m → n ≤ t.name.length
  multiWord_iff : t.multiplicity = .multiWord ↔
    IsCandidate left right e t.start t.name.length .multiWord
  length_eq : t.length = (t.raw left right).length
  extract_eq : e.extract t.start t.stop = t.raw left right

/-- Each token is leftmost and longest from the end of the one before, the first one from offset
`base`, and no candidate remains behind the last one. -/
def AreLeftmostLongest (left right e : List Char) : (base : Nat) → List Token → Prop
  | base, [] => ∀ p n m, base ≤ p → ¬ IsCandidate left right e p n m
  | base, t :: rest =>
    t.IsLeftmostLongest left right e base ∧ AreLeftmostLongest left right e t.stop rest

/-- The text before, between and behind tokens, together with their own. -/
def cover (left right e : List Char) : (base : Nat) → List Token → List Char
  | base, [] => e.drop base
  | base, t :: rest =>
    e.extract base t.start ++ t.raw left right ++ cover left right e t.stop rest

end Token

/-! ## The tokens of a layout -/

section Scan

variable {left right : List Char}

theorem not_isCandidate_of_read? {e : List Char} {p n : Nat} {m : Multiplicity}
    (h : Field.read? left right (e.drop p) = none) : ¬ IsCandidate left right e p n m := by
  rintro ⟨name, -, hstands⟩
  exact Field.read?_eq_none_iff.1 h _ hstands

/-- What the reader finds at an offset is a leftmost longest token, if it finds nothing before. -/
theorem isLeftmostLongest_of_read? {e : List Char} {base p : Nat} {f : Field} (hp : base ≤ p)
    (hbefore : ∀ q, base ≤ q → q < p → Field.read? left right (e.drop q) = none)
    (hread : Field.read? left right (e.drop p) = some f) :
    Token.IsLeftmostLongest left right e base
      ⟨f.name, p, (f.raw left right).length, f.multiplicity⟩ where
  base_le := hp
  candidate := ⟨f.name, rfl, (Field.standsAt_of_read? hread).1⟩
  leftmost q n m hq hqp := not_isCandidate_of_read? (hbefore q hq hqp)
  longest := by
    rintro n m ⟨name, rfl, hstands⟩
    exact (Field.standsAt_of_read? hread).2 _ hstands
  multiWord_iff := by
    constructor
    · intro hm
      rw [← hm]
      exact ⟨f.name, rfl, (Field.standsAt_of_read? hread).1⟩
    · rintro ⟨name, hlen, hstands⟩
      have hname : name = f.name := hstands.name_eq (Field.standsAt_of_read? hread).1 hlen
      rw [hname] at hstands
      exact Field.multiWord_of_read? hread hstands
  length_eq := rfl
  extract_eq := by
    obtain ⟨t, ht⟩ := Field.isPrefix_of_read? hread
    have hstop : p + (f.raw left right).length - p = (f.raw left right).length := by omega
    rw [Token.stop, List.extract_eq_take_drop, hstop, ← ht, List.take_left]
    rfl

/-- Behind any beginning of an expression, the tokens of the layout of the rest are leftmost and
longest. -/
theorem areLeftmostLongest_ofSegments (rest : List Char) :
    ∀ pre e : List Char, e = pre ++ rest →
      Token.AreLeftmostLongest left right e pre.length
        (Token.ofSegments left right pre.length (Layout.ofText left right rest).segments) := by
  apply Layout.ofText_induction
    (motive := fun rest l => ∀ pre e : List Char, e = pre ++ rest →
      Token.AreLeftmostLongest left right e pre.length
        (Token.ofSegments left right pre.length l.segments))
  · rintro rest hnone pre e rfl p n m hp
    obtain ⟨q, rfl⟩ := Nat.exists_eq_add_of_le hp
    apply not_isCandidate_of_read?
    rw [List.drop_length_add_append]
    exact hnone q
  · rintro gap f rest hgap hread ih pre e rfl
    constructor
    · apply isLeftmostLongest_of_read? (Nat.le_add_right _ _)
      · intro q hq hqgap
        obtain ⟨i, rfl⟩ := Nat.exists_eq_add_of_le hq
        rw [List.drop_length_add_append]
        exact hgap i (Nat.lt_of_add_lt_add_left hqgap)
      · rw [List.drop_length_add_append, List.append_assoc, List.drop_left]
        exact hread
    · have htail := ih (pre ++ gap ++ f.raw left right) _ rfl
      simp only [List.length_append] at htail
      simpa [Token.stop] using htail

theorem areLeftmostLongest_ofText (left right e : List Char) :
    Token.AreLeftmostLongest left right e 0 (Token.ofText left right e) :=
  areLeftmostLongest_ofSegments e [] e rfl

end Scan

/-! ## Spans -/

namespace Token

variable {left right e : List Char} {base : Nat} {t : Token} {tokens : List Token}

/-- The text at a token's offset is the token and what follows it. -/
theorem IsLeftmostLongest.drop_start (h : t.IsLeftmostLongest left right e base) :
    e.drop t.start = t.raw left right ++ e.drop t.stop := by
  rw [← h.extract_eq, List.extract_eq_take_drop, stop, Nat.add_sub_cancel_left, ← List.drop_drop,
    List.take_append_drop]

theorem IsLeftmostLongest.start_lt_stop (h : t.IsLeftmostLongest left right e base) :
    t.start < t.stop := by
  obtain ⟨name, hlen, hstands⟩ := h.candidate
  have hname := List.length_pos_iff.2 hstands.name_ne_nil
  have hraw : t.name.length ≤ (t.raw left right).length := by
    simp only [raw, Field.raw, List.length_append]
    omega
  have hpos : 0 < t.name.length := by
    rw [← hlen]
    exact hname
  rw [stop, h.length_eq]
  omega

theorem IsLeftmostLongest.stop_le_length (h : t.IsLeftmostLongest left right e base) :
    t.stop ≤ e.length := by
  have hlt := h.start_lt_stop
  have hlen := congrArg List.length h.drop_start
  rw [List.length_append, ← h.length_eq, List.length_drop, List.length_drop] at hlen
  rw [stop] at hlt ⊢
  rw [stop] at hlen
  omega

theorem AreLeftmostLongest.base_le (h : AreLeftmostLongest left right e base tokens) :
    ∀ u ∈ tokens, base ≤ u.start := by
  induction tokens generalizing base with
  | nil => simp
  | cons t rest ih =>
    obtain ⟨ht, hrest⟩ := h
    intro u hu
    rcases List.mem_cons.1 hu with rfl | hu
    · exact ht.base_le
    · have hlt := ht.start_lt_stop
      have hle := ih hrest u hu
      have hbase := ht.base_le
      omega

/-- The spans of tokens are in order and do not meet. -/
theorem AreLeftmostLongest.pairwise (h : AreLeftmostLongest left right e base tokens) :
    tokens.Pairwise fun t u => t.stop ≤ u.start := by
  induction tokens generalizing base with
  | nil => exact List.Pairwise.nil
  | cons t rest ih =>
    obtain ⟨-, hrest⟩ := h
    exact List.Pairwise.cons hrest.base_le (ih hrest)

theorem AreLeftmostLongest.exists_isLeftmostLongest
    (h : AreLeftmostLongest left right e base tokens) :
    ∀ t ∈ tokens, ∃ b, t.IsLeftmostLongest left right e b := by
  induction tokens generalizing base with
  | nil => simp
  | cons t rest ih =>
    obtain ⟨ht, hrest⟩ := h
    intro u hu
    rcases List.mem_cons.1 hu with rfl | hu
    · exact ⟨base, ht⟩
    · exact ih hrest u hu

/-- Tokens and the text around them make up the expression. -/
theorem AreLeftmostLongest.cover_eq (h : AreLeftmostLongest left right e base tokens) :
    cover left right e base tokens = e.drop base := by
  induction tokens generalizing base with
  | nil => rfl
  | cons t rest ih =>
    obtain ⟨ht, hrest⟩ := h
    have hgap : e.extract base t.start ++ e.drop t.start = e.drop base := by
      obtain ⟨k, hk⟩ := Nat.exists_eq_add_of_le ht.base_le
      rw [List.extract_eq_take_drop, hk, Nat.add_sub_cancel_left, ← List.drop_drop,
        List.take_append_drop]
    rw [cover, ih hrest, List.append_assoc, ← ht.drop_start, hgap]

end Token

/-! ## Runs of word characters -/

/-- The character at an offset is a word character. -/
def IsWordAt (e : List Char) (i : Nat) : Prop :=
  ∃ c, e[i]? = some c ∧ Text.isWordChar c = true

/-- The offsets from `a` up to `b` are a maximal run of word characters. -/
structure IsWordRun (e : List Char) (a b : Nat) : Prop where
  lt : a < b
  isWordAt : ∀ i, a ≤ i → i < b → IsWordAt e i
  not_before : ∀ i, i + 1 = a → ¬ IsWordAt e i
  not_after : ¬ IsWordAt e b

theorem IsWordRun.stop_unique {e : List Char} {a b c : Nat} (hb : IsWordRun e a b)
    (hc : IsWordRun e a c) : b = c := by
  by_contra hne
  rcases Nat.lt_or_gt_of_ne hne with hlt | hlt
  · exact hb.not_after (hc.isWordAt b (Nat.le_of_lt hb.lt) hlt)
  · exact hc.not_after (hb.isWordAt c (Nat.le_of_lt hc.lt) hlt)

/-- Word characters at `n` offsets from `p` on are a text of `n` word characters. -/
theorem length_take_of_isWordAt {e : List Char} {p n : Nat} (hn : 1 ≤ n)
    (h : ∀ i, p ≤ i → i < p + n → IsWordAt e i) :
    ((e.drop p).take n).length = n ∧ ∀ c ∈ (e.drop p).take n, Text.isWordChar c = true := by
  have hlen : ((e.drop p).take n).length = n := by
    obtain ⟨c, hc, -⟩ := h (p + n - 1) (by omega) (by omega)
    have hlt := (List.getElem?_eq_some_iff.1 hc).1
    rw [List.length_take, List.length_drop]
    omega
  refine ⟨hlen, ?_⟩
  intro c hc
  obtain ⟨j, hj, hcj⟩ := List.getElem_of_mem hc
  have hjn : j < n := by
    rw [← hlen]
    exact hj
  obtain ⟨d, hd, hdword⟩ := h (p + j) (by omega) (by omega)
  have hcd : some c = some d := by
    rw [← hd, ← hcj, ← List.getElem?_eq_getElem, List.getElem?_take_of_lt hjn,
      List.getElem?_drop]
  cases hcd
  exact hdword

/-- Without markers, candidates are blocks of word characters, with any star that follows. -/
theorem isCandidate_bare_iff {e : List Char} {p n : Nat} {m : Multiplicity} :
    IsCandidate [] [] e p n m ↔
      1 ≤ n ∧ (∀ i, p ≤ i → i < p + n → IsWordAt e i) ∧
        (m = .multiWord → e[p + n]? = some '*') := by
  constructor
  · rintro ⟨name, rfl, hne, hword, t, ht⟩
    simp only [Field.raw, List.nil_append, List.append_nil] at ht hne hword
    have hat : ∀ j, e[p + j]? = (name ++ m.star ++ t)[j]? := by
      intro j
      rw [ht, List.getElem?_drop]
    refine ⟨List.length_pos_iff.2 hne, ?_, ?_⟩
    · intro i hi hin
      obtain ⟨j, rfl⟩ := Nat.exists_eq_add_of_le hi
      have hj : j < name.length := by omega
      refine ⟨name[j], ?_, hword _ (List.getElem_mem hj)⟩
      rw [hat, List.append_assoc, List.getElem?_append_left hj, List.getElem?_eq_getElem hj]
    · rintro rfl
      rw [hat, List.append_assoc, List.getElem?_append_right (Nat.le_refl _)]
      simp [Multiplicity.star]
  · rintro ⟨hn, hword, hstar⟩
    obtain ⟨hlen, hall⟩ := length_take_of_isWordAt hn hword
    refine ⟨(e.drop p).take n, hlen, ?_, hall, ?_⟩
    · intro h0
      have hzero := hlen.symm.trans (congrArg List.length h0)
      rw [List.length_nil] at hzero
      omega
    · simp only [Field.raw, List.nil_append, List.append_nil]
      cases m with
      | singleWord =>
        rw [Multiplicity.star, List.append_nil]
        exact List.take_prefix n _
      | multiWord =>
        obtain ⟨hlt, hat⟩ := List.getElem?_eq_some_iff.1 (hstar rfl)
        refine ⟨e.drop (p + n + 1), ?_⟩
        have htail : Multiplicity.multiWord.star ++ e.drop (p + n + 1) = e.drop (p + n) := by
          rw [List.drop_eq_getElem_cons hlt, hat]
          rfl
        rw [List.append_assoc, htail, ← List.drop_drop, List.take_append_drop]

namespace Token

variable {e : List Char} {base : Nat} {t : Token} {tokens : List Token}

/-- A word character begins a candidate of one character. -/
theorem isCandidate_bare_of_isWordAt {p : Nat} (h : IsWordAt e p) :
    IsCandidate [] [] e p 1 .singleWord := by
  refine isCandidate_bare_iff.2 ⟨Nat.le_refl 1, ?_, by simp⟩
  intro i hi hip
  obtain rfl : i = p := by omega
  exact h

theorem IsLeftmostLongest.isWordAt_bare (h : t.IsLeftmostLongest [] [] e base) {i : Nat}
    (hi : t.start ≤ i) (hin : i < t.start + t.name.length) : IsWordAt e i :=
  (isCandidate_bare_iff.1 h.candidate).2.1 i hi hin

theorem IsLeftmostLongest.not_isWordAt_before (h : t.IsLeftmostLongest [] [] e base) {p : Nat}
    (hp : base ≤ p) (hpt : p < t.start) : ¬ IsWordAt e p := by
  intro hword
  exact h.leftmost p 1 .singleWord hp hpt (isCandidate_bare_of_isWordAt hword)

/-- Without markers a name cannot be followed by a word character: it would be longer. -/
theorem IsLeftmostLongest.not_isWordAt_after (h : t.IsLeftmostLongest [] [] e base) :
    ¬ IsWordAt e (t.start + t.name.length) := by
  intro hword
  have hlonger : IsCandidate [] [] e t.start (t.name.length + 1) .singleWord := by
    refine isCandidate_bare_iff.2 ⟨by omega, ?_, by simp⟩
    intro i hi hin
    rcases Nat.lt_or_ge i (t.start + t.name.length) with hlt | hge
    · exact h.isWordAt_bare hi hlt
    · obtain rfl : i = t.start + t.name.length := by omega
      exact hword
  have hle := h.longest _ _ hlonger
  omega

/-- Without markers a star is taken exactly where one follows the name. -/
theorem IsLeftmostLongest.multiWord_bare_iff (h : t.IsLeftmostLongest [] [] e base) :
    t.multiplicity = .multiWord ↔ e[t.start + t.name.length]? = some '*' := by
  obtain ⟨hpos, hword, -⟩ := isCandidate_bare_iff.1 h.candidate
  rw [h.multiWord_iff, isCandidate_bare_iff]
  constructor
  · rintro ⟨-, -, hstar⟩
    exact hstar rfl
  · intro hstar
    exact ⟨hpos, hword, fun _ => hstar⟩

theorem IsLeftmostLongest.name_eq_extract (h : t.IsLeftmostLongest [] [] e base) :
    t.name = e.extract t.start (t.start + t.name.length) := by
  rw [List.extract_eq_take_drop, h.drop_start, Nat.add_sub_cancel_left, raw, Field.raw,
    List.nil_append, List.append_nil, List.append_assoc, List.take_left]

theorem IsLeftmostLongest.stop_bare (h : t.IsLeftmostLongest [] [] e base) :
    t.stop = t.start + t.name.length + t.multiplicity.star.length := by
  rw [stop, h.length_eq, raw, Field.raw, List.nil_append, List.append_nil, List.length_append,
    Nat.add_assoc]

/-- No run of word characters goes on across the end of a token. -/
theorem IsLeftmostLongest.not_isWordAt_stop (h : t.IsLeftmostLongest [] [] e base) {i : Nat}
    (hi : i + 1 = t.stop) (hword : IsWordAt e i) : ¬ IsWordAt e t.stop := by
  have hstop := h.stop_bare
  cases hm : t.multiplicity with
  | singleWord =>
    rw [hm, Multiplicity.star, List.length_nil, Nat.add_zero] at hstop
    rw [hstop]
    exact h.not_isWordAt_after
  | multiWord =>
    rw [hm, Multiplicity.star, List.length_singleton] at hstop
    obtain rfl : i = t.start + t.name.length := by omega
    exact absurd hword h.not_isWordAt_after

/-- The name of a token is a maximal run, if no run goes on across the place where the search for
the token began. -/
theorem IsLeftmostLongest.isWordRun (h : t.IsLeftmostLongest [] [] e base)
    (hbase : ∀ i, i + 1 = base → IsWordAt e i → ¬ IsWordAt e base) :
    IsWordRun e t.start (t.start + t.name.length) where
  lt := by
    have hpos := (isCandidate_bare_iff.1 h.candidate).1
    omega
  isWordAt i hi hin := h.isWordAt_bare hi hin
  not_before := by
    intro i hi hword
    have hpos := (isCandidate_bare_iff.1 h.candidate).1
    have hbaseLe := h.base_le
    rcases Nat.lt_or_ge i base with hlt | hge
    · obtain hstart : t.start = base := by omega
      have hhead := h.isWordAt_bare (Nat.le_refl t.start) (by omega)
      rw [hstart] at hhead
      exact hbase i (by omega) hword hhead
    · exact h.not_isWordAt_before hge (by omega) hword
  not_after := h.not_isWordAt_after

/-- Without markers the names are the maximal runs of word characters. -/
theorem AreLeftmostLongest.isWordRun_iff (h : AreLeftmostLongest [] [] e base tokens)
    (hbase : ∀ i, i + 1 = base → IsWordAt e i → ¬ IsWordAt e base) {a b : Nat} (ha : base ≤ a) :
    IsWordRun e a b ↔ ∃ t ∈ tokens, t.start = a ∧ t.start + t.name.length = b := by
  induction tokens generalizing base with
  | nil =>
    constructor
    · intro hrun
      have hword := hrun.isWordAt a (Nat.le_refl a) hrun.lt
      exact absurd (isCandidate_bare_of_isWordAt hword) (h a 1 .singleWord ha)
    · rintro ⟨t, ht, -⟩
      cases ht
  | cons t rest ih =>
    obtain ⟨ht, hrest⟩ := h
    have hrun := ht.isWordRun hbase
    have hstop := ht.stop_bare
    have htail := ih hrest fun i hi hword => ht.not_isWordAt_stop hi hword
    constructor
    · intro hab
      have hhead := hab.isWordAt a (Nat.le_refl a) hab.lt
      rcases Nat.lt_trichotomy a t.start with hlt | rfl | hgt
      · exact absurd hhead (ht.not_isWordAt_before ha hlt)
      · exact ⟨t, List.mem_cons_self, rfl, hrun.stop_unique hab⟩
      · -- the run begins behind the name, hence behind the star as well
        have hbehind : t.stop ≤ a := by
          by_contra hinside
          obtain ⟨k, rfl⟩ := Nat.exists_eq_succ_of_ne_zero (Nat.ne_of_gt (Nat.zero_lt_of_lt hgt))
          rcases Nat.lt_or_ge k (t.start + t.name.length) with hk | hk
          · exact hab.not_before k rfl (ht.isWordAt_bare (by omega) hk)
          · have hstar : t.multiplicity.star.length ≤ 1 := by
              cases t.multiplicity <;> decide
            omega
        obtain ⟨u, hu, hspan⟩ := (htail hbehind).1 hab
        exact ⟨u, List.mem_cons_of_mem _ hu, hspan⟩
    · rintro ⟨u, hu, rfl, rfl⟩
      rcases List.mem_cons.1 hu with rfl | hu
      · exact hrun
      · exact (htail (hrest.base_le u hu)).2 ⟨u, hu, rfl, rfl⟩

end Token

/-! ## The tokens of an expression -/

/-- The tokens of an expression are its leftmost longest candidates. Hence their spans are in order
and do not meet, they make up the expression with the text around them, and without markers the
names are the maximal runs of word characters, each with the star that follows it if there is one.
-/
theorem tokens_areLeftmostLongest (left right e : List Char) :
    Token.AreLeftmostLongest left right e 0 (Token.ofText left right e) ∧
      ((Token.ofText left right e).Pairwise fun t u => t.stop ≤ u.start) ∧
      (∀ t ∈ Token.ofText left right e, t.start < t.stop ∧ t.stop ≤ e.length) ∧
      Token.cover left right e 0 (Token.ofText left right e) = e ∧
      (∀ a b, IsWordRun e a b ↔
        ∃ t ∈ Token.ofText [] [] e, t.start = a ∧ t.start + t.name.length = b) ∧
      ∀ t ∈ Token.ofText [] [] e, t.name = e.extract t.start (t.start + t.name.length) ∧
        (t.multiplicity = .multiWord ↔ e[t.start + t.name.length]? = some '*') ∧
        t.stop = t.start + t.name.length + t.multiplicity.star.length := by
  have htokens := areLeftmostLongest_ofText left right e
  have hbare := areLeftmostLongest_ofText [] [] e
  refine ⟨htokens, htokens.pairwise, ?_, htokens.cover_eq, ?_, ?_⟩
  · intro t ht
    obtain ⟨b, hb⟩ := htokens.exists_isLeftmostLongest t ht
    exact ⟨hb.start_lt_stop, hb.stop_le_length⟩
  · intro a b
    exact hbare.isWordRun_iff (fun i hi => absurd hi (Nat.succ_ne_zero i)) (Nat.zero_le a)
  · intro t ht
    obtain ⟨b, hb⟩ := hbare.exists_isLeftmostLongest t ht
    exact ⟨hb.name_eq_extract, hb.multiWord_bare_iff, hb.stop_bare⟩

-- The right marker begins with a star: one star belongs to the marker, and only a second one to the
-- field.
example : Token.ofText ['<'] ['*', '>'] "<a*> <b**>".toList =
    [⟨['a'], 0, 4, .singleWord⟩, ⟨['b'], 5, 5, .multiWord⟩] := by
  decide

end FieldPattern

import FieldPattern.Proofs.Pattern.Literal
import FieldPattern.Proofs.Pattern.Search

/-!
# Relaxing a matcher

A way to match is *relaxed* when white space of the expression becomes elastic, when text fields may
cross line ends, when words, blanks and letters are no longer those of ASCII only, or when case does
not count any more. The relaxed pattern may be another one, so pieces that fit the strict pattern need not fit
it. But a text that the one covers is covered by the other as well (`Pattern.Relaxes`), with the
blanks of a run in one piece instead of many. This passes through patterns in a row, so it holds of
whole expressions, and a search that found an occurrence finds one that starts no later
(`find_relaxed`).

Elastic white space takes the place of every blank, while blanks in the ASCII reading are fewer. So
what becomes elastic must not be read in the ASCII way; otherwise a line separator of the expression
would match itself before and nothing afterwards. Case is no such obstacle: a character matches
itself whether case counts or not, letters that are the same in the ASCII reading are so in all
scripts, and no letter matches a blank (`Flags.isBlank_of_same`).
-/

namespace FieldPattern

open Pattern (ofLiteral runAtoms)

/-! ## Flags -/

/-- With the flags `g`, characters are compared and classified no more strictly than with `f`. -/
structure Flags.IsRelaxed (f g : Flags) : Prop where
  ignoreCase : f.ignoreCase = true → g.ignoreCase = true
  dotAll : f.dotAll = true → g.dotAll = true
  ascii : g.ascii = true → f.ascii = true

namespace Flags.IsRelaxed

variable {f g : Flags} {c d : Char}

theorem same (h : f.IsRelaxed g) (hsame : f.same c d = true) : g.same c d = true := by
  unfold Flags.same at hsame
  by_cases hf : f.ignoreCase = true
  · unfold Flags.same
    rw [if_pos hf] at hsame
    rw [if_pos (h.ignoreCase hf)]
    by_cases hg : g.ascii = true
    · rw [if_pos (h.ascii hg)] at hsame
      rwa [if_pos hg]
    · rw [if_neg hg]
      split at hsame
      · exact Text.sameLetter_of_sameAsciiLetter hsame
      · exact hsame
  · rw [if_neg hf, beq_iff_eq] at hsame
    rw [hsame]
    exact g.same_refl d

theorem isWord (h : f.IsRelaxed g) (hword : f.isWord c = true) : g.isWord c = true := by
  unfold Flags.isWord at hword ⊢
  cases hg : g.ascii with
  | true =>
    rw [h.ascii hg] at hword
    exact hword
  | false =>
    split at hword
    · exact Text.isWordChar_of_isAsciiWordChar hword
    · exact hword

theorem isBlank (h : f.IsRelaxed g) (hblank : f.isBlank c = true) : g.isBlank c = true := by
  unfold Flags.isBlank at hblank ⊢
  cases hg : g.ascii with
  | true =>
    rw [h.ascii hg] at hblank
    exact hblank
  | false =>
    split at hblank
    · exact Text.isBlank_of_isAsciiBlank hblank
    · exact hblank

theorem isText (h : f.IsRelaxed g) (htext : f.isText c = true) : g.isText c = true := by
  unfold Flags.isText at htext ⊢
  rcases Bool.or_eq_true_iff.1 htext with hdot | hline
  · rw [h.dotAll hdot, Bool.true_or]
  · rw [hline, Bool.or_true]

/-- What an atom admits it still admits. -/
theorem admits (h : f.IsRelaxed g) {a : Atom} {piece : List Char} (hadmits : a.Admits f piece) :
    a.Admits g piece := by
  cases a with
  | literal c =>
    obtain ⟨d, rfl, hsame⟩ := hadmits
    exact ⟨d, rfl, h.same hsame⟩
  | blanks => exact ⟨hadmits.1, fun d hd => h.isBlank (hadmits.2 d hd)⟩
  | word => exact ⟨hadmits.1, fun d hd => h.isWord (hadmits.2 d hd)⟩
  | shortText => exact fun d hd => h.isText (hadmits d hd)
  | longText => exact fun d hd => h.isText (hadmits d hd)

end Flags.IsRelaxed

/-- Only blanks match a blank. -/
theorem Flags.isBlank_of_same {f : Flags} {c d : Char} (hsame : f.same c d = true)
    (hc : Text.isBlank c = true) : Text.isBlank d = true := by
  apply Text.isBlank_of_sameLetter _ hc
  unfold Flags.same at hsame
  split at hsame
  · split at hsame
    · exact Text.sameLetter_of_sameAsciiLetter hsame
    · exact hsame
  · rw [beq_iff_eq.1 hsame]
    exact Text.sameLetter_refl d

/-! ## Patterns -/

namespace Pattern

/-- The text is made of pieces that fit the pattern. -/
def Covers (f : Flags) (p : Pattern) (s : List Char) : Prop :=
  ∃ pieces, p.Fits f pieces ∧ pieces.flatten = s

/-- What the pattern `p` covers with the flags `f`, the pattern `q` covers with the flags `g`. -/
def Relaxes (f : Flags) (p : Pattern) (g : Flags) (q : Pattern) : Prop :=
  ∀ s, p.Covers f s → q.Covers g s

theorem covers_append_iff {f : Flags} {p q : Pattern} {s : List Char} :
    (p ++ q).Covers f s ↔ ∃ a b, s = a ++ b ∧ p.Covers f a ∧ q.Covers f b := by
  constructor
  · rintro ⟨pieces, hpieces, rfl⟩
    obtain ⟨front, back, rfl, hfront, hback⟩ := fits_append_iff.1 hpieces
    exact ⟨_, _, List.flatten_append, ⟨front, hfront, rfl⟩, ⟨back, hback, rfl⟩⟩
  · rintro ⟨a, b, rfl, ⟨front, hfront, rfl⟩, ⟨back, hback, rfl⟩⟩
    exact ⟨front ++ back, fits_append_iff.2 ⟨front, back, rfl, hfront, hback⟩,
      List.flatten_append⟩

section Relax

variable {f g : Flags} {p p' q q' : Pattern}

theorem Fits.relax (h : f.IsRelaxed g) {pieces : List (List Char)} (hfits : p.Fits f pieces) :
    p.Fits g pieces := by
  induction p generalizing pieces with
  | nil =>
    cases pieces with
    | nil => trivial
    | cons => cases hfits
  | cons a p ih =>
    cases pieces with
    | nil => cases hfits
    | cons piece pieces => exact ⟨h.admits hfits.1, ih hfits.2⟩

/-- With relaxed flags, a pattern covers what it covered. -/
theorem Relaxes.of_flags (h : f.IsRelaxed g) (p : Pattern) : Relaxes f p g p :=
  fun _ ⟨pieces, hfits, hs⟩ => ⟨pieces, hfits.relax h, hs⟩

theorem Relaxes.append (hp : Relaxes f p g p') (hq : Relaxes f q g q') :
    Relaxes f (p ++ q) g (p' ++ q') := by
  intro s hs
  obtain ⟨a, b, rfl, ha, hb⟩ := covers_append_iff.1 hs
  exact covers_append_iff.2 ⟨a, b, rfl, hp a ha, hq b hb⟩

/-- Characters that match a run of blanks one by one are one piece of elastic white space. -/
theorem relaxes_blanks (hascii : g.ascii = false) {run : List Char} (hne : run ≠ [])
    (hblank : ∀ c ∈ run, Text.isBlank c = true) : Relaxes f (run.map .literal) g [.blanks] := by
  rintro s ⟨pieces, hpieces, rfl⟩
  have hall : ∀ d ∈ pieces.flatten, Text.isBlank d = true := by
    clear hne
    induction run generalizing pieces with
    | nil =>
      obtain rfl := List.length_eq_zero_iff.1 hpieces.length_eq
      simp
    | cons c run ih =>
      cases pieces with
      | nil => cases hpieces
      | cons piece pieces =>
        obtain ⟨⟨d, rfl, hsame⟩, hrest⟩ := hpieces
        intro e he
        rcases List.mem_cons.1 he with rfl | he
        · exact Flags.isBlank_of_same hsame (hblank c List.mem_cons_self)
        · exact ih (fun c hc => hblank c (List.mem_cons_of_mem _ hc)) pieces hrest e he
  refine ⟨[pieces.flatten], ⟨⟨?_, ?_⟩, trivial⟩, List.flatten_singleton⟩
  · obtain ⟨c, rest, rfl⟩ := List.exists_cons_of_ne_nil hne
    cases pieces with
    | nil => cases hpieces
    | cons piece pieces =>
      obtain ⟨d, rfl, -⟩ := hpieces.1
      simp
  · intro d hd
    rw [Flags.isBlank, hascii]
    exact hall d hd

/-- White space of a literal text may become elastic. -/
theorem relaxes_elastic (h : f.IsRelaxed g) (hascii : g.ascii = false) (s : List Char) :
    Relaxes f (s.map .literal) g (elastic s) := by
  induction s using Text.runs_induction with
  | nil => exact Relaxes.of_flags h []
  | append blank run rest hrun ih =>
    rw [elastic_append hrun, List.map_append, runAtoms, hrun.all_isBlank]
    apply Relaxes.append _ ih
    cases blank with
    | true => exact relaxes_blanks hascii hrun.ne_nil hrun.isBlank_eq
    | false => exact Relaxes.of_flags h _

theorem relaxes_ofLiteral (h : f.IsRelaxed g) {strict strict' : Bool}
    (hstrict : strict' = true → strict = true)
    (hascii : strict = true → strict' = false → g.ascii = false) (s : List Char) :
    Relaxes f (ofLiteral strict s) g (ofLiteral strict' s) := by
  cases strict with
  | true =>
    cases strict' with
    | true => exact Relaxes.of_flags h _
    | false => exact relaxes_elastic h (hascii rfl rfl) s
  | false =>
    cases strict' with
    | true => cases hstrict rfl
    | false => exact Relaxes.of_flags h _

end Relax

/-- A relaxed search finds something where the strict one did or before. -/
theorem exists_search?_of_relaxes {f g : Flags} {p q : Pattern} (h : Relaxes f p g q)
    {s : List Char} {o : Occurrence} (ho : p.search? f s = some o) :
    ∃ o', q.search? g s = some o' ∧ o'.start ≤ o.start := by
  rcases search?_cases f p s with ⟨hnone, -⟩ | ⟨i, pieces, -, -, hpieces, hfound⟩
  · rw [hnone] at ho
    cases ho
  · obtain rfl := Option.some.inj (hfound.symm.trans ho)
    obtain ⟨hfits, hprefix, -⟩ := fits_of_decompose? hpieces
    obtain ⟨others, hothers, hsame⟩ := h _ ⟨pieces, hfits, rfl⟩
    have hstands : decompose? g false q (s.drop i) ≠ none := by
      intro hnone
      apply decompose?_eq_none_iff.1 hnone others hothers
      rw [hsame]
      exact hprefix
    rcases search?_cases g q s with ⟨-, hall⟩ | ⟨j, pieces', -, hbefore, -, hfound'⟩
    · exact absurd (hall i) hstands
    · refine ⟨_, hfound', ?_⟩
      show j ≤ i
      by_contra hlt
      exact hstands (hbefore i (Nat.lt_of_not_le hlt))

end Pattern

/-! ## Expressions -/

section Compile

variable {f g : Flags} {strict strict' : Bool}

theorem relaxes_layoutAtoms (h : f.IsRelaxed g) (hstrict : strict' = true → strict = true)
    (hascii : strict = true → strict' = false → g.ascii = false)
    (left right remainder : List Char) (segments : List Segment) :
    Pattern.Relaxes f (Compiled.layoutAtoms strict left right remainder segments)
      g (Compiled.layoutAtoms strict' left right remainder segments) := by
  have hliteral := Pattern.relaxes_ofLiteral h hstrict hascii
  induction segments with
  | nil => exact hliteral remainder
  | cons seg rest ih =>
    refine ((hliteral seg.gap).append ?_).append ih
    have hfield := Pattern.Relaxes.of_flags h [seg.field.multiplicity.capture
      (rest.isEmpty && remainder.isEmpty && right.isEmpty)]
    exact (hliteral left).append (hfield.append (hliteral right))

end Compile

/-- If a search with an expression finds an occurrence, then it also finds one that starts there or
before, whichever of these are relaxed: exact white space becomes elastic, unless blanks are those of
ASCII only; text fields may cross line ends; words, blanks and letters are no longer those of ASCII
only; case does not count. The fields stay the same. -/
theorem find_relaxed {f g : Flags} {strict strict' : Bool} (h : f.IsRelaxed g)
    (hstrict : strict' = true → strict = true)
    (hascii : strict = true → strict' = false → g.ascii = false) (left right e text : List Char) :
    (Compiled.ofText strict' left right e).fields = (Compiled.ofText strict left right e).fields ∧
      ∀ hit, (Compiled.ofText strict left right e).find f text = .ok (some hit) →
        ∃ hit', (Compiled.ofText strict' left right e).find g text = .ok (some hit') ∧
          hit'.start ≤ hit.start := by
  refine ⟨rfl, ?_⟩
  intro hit hhit
  rw [Compiled.find_eq] at hhit
  obtain ⟨o, ho, rfl⟩ := Option.map_eq_some_iff.1 (Except.ok.inj hhit)
  have hrelaxes := relaxes_layoutAtoms h hstrict hascii left right
    (Layout.ofText left right e).remainder (Layout.ofText left right e).segments
  obtain ⟨o', ho', hle⟩ := Pattern.exists_search?_of_relaxes hrelaxes ho
  refine ⟨o'.hit, ?_, hle⟩
  rw [Compiled.find_eq]
  exact congrArg (fun found => Except.ok (found.map Occurrence.hit)) ho'

/-- The blanks of the markers and a line separator between the fields become elastic, and the ASCII
reading is dropped. A letter beyond ASCII is a word then, and a match starts there already. -/
theorem find_relaxed_separator :
    (Compiled.ofText true "< ".toList " >".toList "< a >\u2028< b* >".toList).find
        ⟨false, false, true⟩ "< é > < 1 >\u2028< p\tq >".toList =
          .ok (some ⟨[some "1", some "p\tq"], 6, 19⟩) ∧
      ∃ hit, (Compiled.ofText false "< ".toList " >".toList "< a >\u2028< b* >".toList).find
        ⟨true, true, false⟩ "< é > < 1 >\u2028< p\tq >".toList = .ok (some hit) ∧
          hit.start ≤ 6 := by
  have hfound : (Compiled.ofText true "< ".toList " >".toList "< a >\u2028< b* >".toList).find
      ⟨false, false, true⟩ "< é > < 1 >\u2028< p\tq >".toList =
        .ok (some ⟨[some "1", some "p\tq"], 6, 19⟩) := by
    rfl
  have hrelaxed : Flags.IsRelaxed ⟨false, false, true⟩ ⟨true, true, false⟩ :=
    ⟨by decide, by decide, by decide⟩
  exact ⟨hfound, (find_relaxed hrelaxed (by decide) (by decide) _ _ _ _).2 _ hfound⟩

/-- A capital with an accent is no ASCII letter, so its case counts as long as letters are. -/
example :
    (Compiled.ofText false ['<'] ['>'] "É <a>".toList).find ⟨true, false, true⟩ "é <x>".toList =
        .ok none ∧
      (Compiled.ofText false ['<'] ['>'] "É <a>".toList).find ⟨true, false, false⟩ "é <x>".toList =
        .ok (some ⟨[some "x"], 0, 5⟩) :=
  ⟨rfl, rfl⟩

end FieldPattern

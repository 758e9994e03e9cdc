import FieldPattern.Pattern.Decomposition
import FieldPattern.Proofs.Text.Runs

/-!
# The pattern of a literal text

The pattern of a literal text with elastic white space has one atom for each run of blanks and one
for each other character (`ofLiteral_eq_literalAtoms`). The texts that it fits are those in which
the runs are replaced by other runs (`exists_fits_ofLiteral_iff`).

Pieces that fit two patterns in a row are pieces for the first and then pieces for the second, and
the captures of a pattern in a row are read off in the same way.
-/

namespace FieldPattern
namespace Pattern

/-! ## Patterns in a row -/

theorem Fits.length_eq {f : Flags} {p : Pattern} {pieces : List (List Char)}
    (h : p.Fits f pieces) : pieces.length = p.length := by
  induction p generalizing pieces with
  | nil =>
    cases pieces with
    | nil => rfl
    | cons => cases h
  | cons a p ih =>
    cases pieces with
    | nil => cases h
    | cons piece pieces => rw [List.length_cons, List.length_cons, ih h.2]

theorem fits_append_iff {f : Flags} {p q : Pattern} {pieces : List (List Char)} :
    (p ++ q).Fits f pieces ↔
      ∃ front back, pieces = front ++ back ∧ p.Fits f front ∧ q.Fits f back := by
  induction p generalizing pieces with
  | nil =>
    constructor
    · intro h
      exact ⟨[], pieces, rfl, trivial, h⟩
    · rintro ⟨front, back, rfl, hfront, hback⟩
      obtain rfl := List.length_eq_zero_iff.1 hfront.length_eq
      exact hback
  | cons a p ih =>
    cases pieces with
    | nil =>
      constructor
      · intro h
        cases h
      · rintro ⟨front, back, hnil, hfront, -⟩
        obtain ⟨rfl, -⟩ := List.append_eq_nil_iff.1 hnil.symm
        cases hfront
    | cons piece pieces =>
      constructor
      · rintro ⟨hpiece, hpieces⟩
        obtain ⟨front, back, rfl, hfront, hback⟩ := ih.1 hpieces
        exact ⟨piece :: front, back, rfl, ⟨hpiece, hfront⟩, hback⟩
      · rintro ⟨front, back, hpieces, hfront, hback⟩
        cases front with
        | nil => cases hfront
        | cons first front =>
          obtain ⟨rfl, rfl⟩ := List.cons.inj hpieces
          exact ⟨hfront.1, ih.2 ⟨front, back, rfl, hfront.2, hback⟩⟩

theorem captures_append {f : Flags} {p q : Pattern} {front back : List (List Char)}
    (h : p.Fits f front) : (p ++ q).captures (front ++ back) =
      p.captures front ++ q.captures back := by
  induction p generalizing front with
  | nil =>
    obtain rfl := List.length_eq_zero_iff.1 h.length_eq
    rfl
  | cons a p ih =>
    cases front with
    | nil => cases h
    | cons piece front =>
      simp only [List.cons_append, captures, ih h.2]
      split <;> rfl

theorem captures_eq_nil {p : Pattern} {pieces : List (List Char)}
    (h : ∀ a ∈ p, a.isCapture = false) : p.captures pieces = [] := by
  induction p generalizing pieces with
  | nil => cases pieces <;> rfl
  | cons a p ih =>
    cases pieces with
    | nil => rfl
    | cons piece pieces =>
      rw [captures, h a List.mem_cons_self, if_neg Bool.false_ne_true]
      exact ih fun b hb => h b (List.mem_cons_of_mem a hb)

/-! ## Literal texts -/

/-- The atoms of one run. -/
def runAtoms (run : List Char) : Pattern :=
  if run.all Text.isBlank then [.blanks] else run.map .literal

/-- The atoms of a literal text: its characters in order, where every run of blanks is one atom
unless white space is to match exactly. -/
def literalAtoms (strict : Bool) (s : List Char) : Pattern :=
  if strict then s.map .literal else (Text.runs s).flatMap runAtoms

theorem elastic_append_of_blank {run rest : List Char} (h : Text.IsRun true run rest) :
    elastic (run ++ rest) = .blanks :: elastic rest := by
  obtain ⟨hne, hblank, hhead⟩ := h
  induction run with
  | nil => exact absurd rfl hne
  | cons c run ih =>
    rw [List.cons_append, elastic, if_pos (hblank c List.mem_cons_self)]
    cases run with
    | nil =>
      have hlast : ¬ (([] : List Char) ++ rest).head?.any Text.isBlank = true := by
        cases hrest : rest.head? with
        | none => simp [hrest]
        | some d => simp [hrest, hhead d hrest]
      rw [if_neg hlast]
      rfl
    | cons d run =>
      have hnext : ((d :: run) ++ rest).head?.any Text.isBlank = true :=
        hblank d (List.mem_cons_of_mem c List.mem_cons_self)
      rw [if_pos hnext]
      exact ih (by simp) fun e he => hblank e (List.mem_cons_of_mem c he)

theorem elastic_append_of_not_blank {run : List Char} (rest : List Char)
    (h : ∀ c ∈ run, Text.isBlank c = false) :
    elastic (run ++ rest) = run.map .literal ++ elastic rest := by
  induction run with
  | nil => rfl
  | cons c run ih =>
    have hc : ¬ Text.isBlank c = true := by simp [h c List.mem_cons_self]
    rw [List.cons_append, elastic, if_neg hc, ih fun d hd => h d (List.mem_cons_of_mem c hd)]
    rfl

theorem elastic_append {blank : Bool} {run rest : List Char} (h : Text.IsRun blank run rest) :
    elastic (run ++ rest) = runAtoms run ++ elastic rest := by
  rw [runAtoms, h.all_isBlank]
  cases blank with
  | true => exact elastic_append_of_blank h
  | false => exact elastic_append_of_not_blank rest h.isBlank_eq

theorem ofLiteral_eq_literalAtoms (strict : Bool) (s : List Char) :
    ofLiteral strict s = literalAtoms strict s := by
  cases strict with
  | true => rfl
  | false =>
    show elastic s = (Text.runs s).flatMap runAtoms
    induction s using Text.runs_induction with
    | nil => rfl
    | append blank run rest hrun ih =>
      rw [elastic_append hrun, Text.runs_append hrun, List.flatMap_cons, ih]

/-- Literal texts give characters and elastic white space only, and the characters beside elastic
white space are no blanks. -/
theorem mem_ofLiteral {strict : Bool} {s : List Char} {a : Atom} (h : a ∈ ofLiteral strict s) :
    (∃ c, a = .literal c ∧ (strict = true ∨ Text.isBlank c = false)) ∨
      (a = .blanks ∧ strict = false) := by
  cases strict with
  | true =>
    obtain ⟨c, -, rfl⟩ := List.mem_map.1 h
    exact Or.inl ⟨c, rfl, Or.inl rfl⟩
  | false =>
    change a ∈ elastic s at h
    induction s with
    | nil => cases h
    | cons c r ih =>
      rw [elastic] at h
      by_cases hc : Text.isBlank c = true
      · rw [if_pos hc] at h
        split at h
        · exact ih h
        · rcases List.mem_cons.1 h with rfl | h
          · exact Or.inr ⟨rfl, rfl⟩
          · exact ih h
      · rw [if_neg hc] at h
        rcases List.mem_cons.1 h with rfl | h
        · exact Or.inl ⟨c, rfl, Or.inr (by simpa using hc)⟩
        · exact ih h

theorem isCapture_of_mem_ofLiteral {strict : Bool} {s : List Char} {a : Atom}
    (h : a ∈ ofLiteral strict s) : a.isCapture = false := by
  rcases mem_ofLiteral h with ⟨c, rfl, -⟩ | ⟨rfl, -⟩ <;> rfl

/-! ## The texts that a literal text fits -/

/-- The text `s` stands where the expression has the literal text `piece`: it is equal to it, or
respaced if white space is elastic. -/
def StandsFor (strict : Bool) (piece s : List Char) : Prop :=
  if strict then s = piece else Text.Respaced piece s

theorem standsFor_refl (strict : Bool) (piece : List Char) : StandsFor strict piece piece := by
  cases strict with
  | true => rfl
  | false => exact Text.respaced_refl piece

theorem fits_map_literal_iff {run : List Char} {pieces : List (List Char)} :
    Fits {} (run.map .literal) pieces ↔ pieces = run.map ([·]) := by
  induction run generalizing pieces with
  | nil => cases pieces <;> simp [Fits]
  | cons c run ih =>
    cases pieces with
    | nil => simp [Fits]
    | cons piece pieces =>
      rw [List.map_cons, List.map_cons, Fits, ih, List.cons.injEq]
      simp [Atom.Admits, Flags.same]

theorem exists_fits_map_literal_iff {run s : List Char} :
    (∃ pieces, Fits {} (run.map .literal) pieces ∧ pieces.flatten = s) ↔ s = run := by
  have hflatten : (run.map ([·])).flatten = run := by
    rw [← List.flatMap_def, List.flatMap_singleton']
  constructor
  · rintro ⟨pieces, hpieces, rfl⟩
    rw [fits_map_literal_iff.1 hpieces, hflatten]
  · rintro rfl
    exact ⟨_, fits_map_literal_iff.2 rfl, hflatten⟩

theorem exists_fits_runAtoms_iff {run s : List Char} :
    (∃ pieces, Fits {} (runAtoms run) pieces ∧ pieces.flatten = s) ↔ Text.RunRespaced run s := by
  rw [runAtoms, Text.RunRespaced]
  split
  · constructor
    · rintro ⟨pieces, hpieces, rfl⟩
      obtain ⟨piece, rfl⟩ := List.length_eq_one_iff.1 hpieces.length_eq
      rw [List.flatten_singleton]
      exact hpieces.1
    · intro hs
      exact ⟨[s], ⟨hs, trivial⟩, List.flatten_singleton⟩
  · exact exists_fits_map_literal_iff

/-- The pattern of a literal text fits exactly the texts that stand for it. -/
theorem exists_fits_ofLiteral_iff {strict : Bool} {piece s : List Char} :
    (∃ pieces, Fits {} (ofLiteral strict piece) pieces ∧ pieces.flatten = s) ↔
      StandsFor strict piece s := by
  cases strict with
  | true => exact exists_fits_map_literal_iff
  | false =>
    show (∃ pieces, Fits {} (elastic piece) pieces ∧ pieces.flatten = s) ↔ Text.Respaced piece s
    induction piece using Text.runs_induction generalizing s with
    | nil =>
      rw [Text.respaced_nil_iff]
      exact @exists_fits_map_literal_iff [] s
    | append blank run rest hrun ih =>
      rw [elastic_append hrun, Text.respaced_append_iff hrun]
      constructor
      · rintro ⟨pieces, hpieces, rfl⟩
        obtain ⟨front, back, rfl, hfront, hback⟩ := fits_append_iff.1 hpieces
        exact ⟨front.flatten, back.flatten, List.flatten_append,
          exists_fits_runAtoms_iff.1 ⟨front, hfront, rfl⟩, ih.1 ⟨back, hback, rfl⟩⟩
      · rintro ⟨new, tail, rfl, hnew, htail⟩
        obtain ⟨front, hfront, rfl⟩ := exists_fits_runAtoms_iff.2 hnew
        obtain ⟨back, hback, rfl⟩ := ih.2 htail
        exact ⟨front ++ back, fits_append_iff.2 ⟨front, back, rfl, hfront, hback⟩,
          List.flatten_append⟩

end Pattern
end FieldPattern

import FieldPattern.Proofs.Expression.Denotation
import FieldPattern.Proofs.Matching.Session
import FieldPattern.Proofs.Pattern.Spacing

/-!
# Matching texts that are spaced differently

With elastic white space, an expression whose fields hold one word each has a spaced pattern
(`isSpaced_ofText`): blanks of the expression become elastic white space, the markers have none, and
a word has none either. So a matcher gives the same replies to two texts that differ in their runs
of blanks only (`replies_respaced`).

Markers with blanks would break this. The right marker of one field and the text behind it may then
each ask for a blank of their own, and a text has to have two blanks there. A field of any text would
hold the blanks themselves.
-/

namespace FieldPattern

open Pattern (literalAtoms elastic)

/-! ## The pattern is spaced -/

theorem literalAtoms_false (s : List Char) : literalAtoms false s = elastic s :=
  (Pattern.ofLiteral_eq_literalAtoms false s).symm

section Compile

variable {left right e : List Char}

theorem isSpaced_atoms (hleft : ∀ c ∈ left, Text.isBlank c = false)
    (hright : ∀ c ∈ right, Text.isBlank c = false) (base : Nat) {tokens : List Token}
    (hwords : ∀ t ∈ tokens, t.multiplicity = .singleWord) :
    (Token.atoms false left right e base tokens).IsSpaced := by
  induction tokens generalizing base with
  | nil =>
    rw [Token.atoms, literalAtoms_false]
    exact Pattern.isSpaced_elastic _
  | cons t rest ih =>
    have hrest := ih t.stop fun u hu => hwords u (List.mem_cons_of_mem t hu)
    have hgroup : t.group right e = .word :=
      Token.group_eq_word_iff.2 (hwords t List.mem_cons_self)
    rw [Token.atoms, hgroup, literalAtoms_false, literalAtoms_false, literalAtoms_false,
      List.append_assoc]
    refine (Pattern.isSpaced_elastic _).append_solid ?_ (by simp) hrest
    intro a ha
    rcases List.mem_append.1 ha with ha | ha
    · exact Pattern.isSolid_of_mem_elastic hleft ha
    · rcases List.mem_cons.1 ha with rfl | ha
      · trivial
      · exact Pattern.isSolid_of_mem_elastic hright ha

theorem atoms_ne_nil (he : e ≠ []) : Pattern.ofText false left right e ≠ [] := by
  rw [Pattern.ofText]
  cases Token.ofText left right e with
  | nil =>
    rw [Token.atoms, literalAtoms_false, List.drop_zero]
    exact Pattern.elastic_ne_nil he
  | cons t rest =>
    rw [Token.atoms]
    simp

/-- With elastic white space, the pattern of an expression all of whose fields hold one word does
not see how blanks are spaced. -/
theorem isSpaced_ofText (hleft : ∀ c ∈ left, Text.isBlank c = false)
    (hright : ∀ c ∈ right, Text.isBlank c = false) (he : e ≠ [])
    (hwords : ∀ t ∈ Token.ofText left right e, t.multiplicity = .singleWord) :
    (Compiled.ofText false left right e).atoms.IsSpaced ∧
      (Compiled.ofText false left right e).atoms ≠ [] := by
  rw [atoms_ofText]
  exact ⟨isSpaced_atoms hleft hright 0 hwords, atoms_ne_nil he⟩

end Compile

/-! ## The replies -/

namespace Matcher

/-- The values of an occurrence depend on its captures only, so a matcher does the same with texts
in which its pattern has the same captures. -/
theorem outcome_eq_of_captures {m : Type → Type} {x : Matcher m} {s t : String}
    (h : (x.compiled.atoms.findAll {} s.toList).map Occurrence.captures =
      (x.compiled.atoms.findAll {} t.toList).map Occurrence.captures) :
    x.outcome (.matchAll (.str s)) = x.outcome (.matchAll (.str t)) ∧
      x.outcome (.run (.str s)) = x.outcome (.run (.str t)) := by
  let values : List (List Char) → Except Error FieldValues :=
    fun captures => x.valuesOf (captures.map fun c => some (String.ofList c))
  have hall : x.allValues (.str s) = x.allValues (.str t) := by
    have heach : ∀ found : List Occurrence,
        found.mapM x.valuesAt = (found.map Occurrence.captures).mapM values := by
      intro found
      rw [List.mapM_map]
      rfl
    rw [allValues_str, allValues_str, heach, heach, h]
  have hfirst : x.firstValues (.str s) = x.firstValues (.str t) := by
    have hhead : ∀ s, x.firstValues (.str s) =
        match ((x.compiled.atoms.findAll {} s.toList).map Occurrence.captures).head? with
        | none => .ok none
        | some captures => (values captures).map some := by
      intro s
      rw [firstValues_str, List.head?_map]
      cases (x.compiled.atoms.findAll {} s.toList).head? <;> rfl
    rw [hhead, hhead, h]
  simp only [outcome, hall, hfirst, and_self]

end Matcher

open Matcher (Request)

/-- With elastic white space, markers without blanks, and fields that hold one word each, a matcher
on the standard engine replies the same to two texts that differ in their runs of blanks only: when
asked for all occurrences, and when asked for what its options say. It does reply with values,
except that weak parsing refuses a numeral that is too long, and then it does so for both texts. -/
theorem replies_respaced {e left right : String} {options global strict weak : Value}
    (hoptions : Options.resolve options = .ok ⟨global, .ofTexts left right, strict, weak⟩)
    (hstrict : strict.truthy = false)
    (hleft : ∀ c ∈ left.toList, Text.isBlank c = false)
    (hright : ∀ c ∈ right.toList, Text.isBlank c = false)
    (he : e.toList ≠ [])
    (hwords : ∀ t ∈ Token.ofText left.toList right.toList e.toList, t.multiplicity = .singleWord)
    {s t : String} (h : Text.Respaced s.toList t.toList) :
    ∃ (x : Matcher Id) (log : Log) (all : Except Error (List FieldValues))
        (answer : Except Error Answer),
      (Matcher.create none (.str e) options : Action Id (Matcher Id)).report = (.ok x, log) ∧
        x.Replies (.matchAll (.str s)) (all.map .all) ∧
        x.Replies (.matchAll (.str t)) (all.map .all) ∧
        x.Replies (.run (.str s)) answer ∧ x.Replies (.run (.str t)) answer ∧
        ∀ error, answer = .error error ∨ all = .error error →
          weak.truthy = true ∧ ∃ n, digitLimit < n ∧ error = .digitLimit n := by
  let settled : Options := ⟨global, .ofTexts left right, strict, weak⟩
  let x : Matcher Id := Matcher.ofTexts settled e left.toList right.toList
  have hprepared : Matcher.prepared (.str e) options = .ok x :=
    Matcher.prepared_eq_ok_iff.2 ⟨settled, e, left.toList, right.toList, hoptions, rfl, rfl⟩
  have hstandard := Matcher.isStandard_of_prepared hprepared
  obtain ⟨log, hlog⟩ := Matcher.create_report_eq_ok_iff.2 hprepared
  have hatoms : x.compiled.atoms =
      (Compiled.ofText false left.toList right.toList e.toList).atoms := by
    show (Compiled.ofText strict.truthy _ _ _).atoms = _
    rw [hstrict]
  obtain ⟨hspaced, hne⟩ := isSpaced_ofText hleft hright he hwords
  rw [← hatoms] at hspaced hne
  obtain ⟨hall, hrun⟩ :=
    Matcher.outcome_eq_of_captures (Pattern.captures_findAll_respaced hspaced hne h)
  refine ⟨x, log, x.allValues (.str s), x.outcome (.run (.str s)), hlog, ?_, ?_, ?_, ?_, ?_⟩
  · exact (Matcher.replies_iff hstandard).2 rfl
  · exact (Matcher.replies_iff hstandard).2 hall.symm
  · exact (Matcher.replies_iff hstandard).2 rfl
  · exact (Matcher.replies_iff hstandard).2 hrun.symm
  · rintro error (herror | herror)
    · exact Matcher.exists_digitLimit_of_outcome (Or.inl herror)
    · have houtcome : x.outcome (.matchAll (.str s)) = .error error := by
        rw [Matcher.outcome, herror]
        rfl
      exact Matcher.exists_digitLimit_of_outcome (Or.inr houtcome)

/-- Line ends and tabs in place of spaces. -/
theorem replies_respaced_lines :
    ∃ (x : Matcher Id) (log : Log) (all : Except Error (List FieldValues)),
      (Matcher.create none (.str "<k>: <v>") (.map [(.str "fieldMarkers", .str "<>")]) :
          Action Id (Matcher Id)).report = (.ok x, log) ∧
        x.Replies (.matchAll (.str "<a>: <1>  <b>: <2>")) (all.map .all) ∧
        x.Replies (.matchAll (.str "<a>:\n\t<1> <b>:\r<2>")) (all.map .all) := by
  have hoptions : Options.resolve (.map [(.str "fieldMarkers", .str "<>")]) =
      .ok ⟨.bool false, .ofTexts "<" ">", .bool false, .bool false⟩ := by
    rfl
  have hleft : ∀ c ∈ "<".toList, Text.isBlank c = false := by
    simp [Text.isBlank]
  have hright : ∀ c ∈ ">".toList, Text.isBlank c = false := by
    simp [Text.isBlank]
  have hwords : ∀ t ∈ Token.ofText "<".toList ">".toList "<k>: <v>".toList,
      t.multiplicity = .singleWord := by
    decide
  have hrespaced :
      Text.Respaced "<a>: <1>  <b>: <2>".toList "<a>:\n\t<1> <b>:\r<2>".toList := by
    let pieces := ["<a>:", "\n\t", "<1>", " ", "<b>:", "\r", "<2>"].map String.toList
    exact ⟨pieces, by decide, rfl⟩
  obtain ⟨x, log, all, -, hx, hs, ht, -⟩ :=
    replies_respaced hoptions rfl hleft hright (by decide) hwords hrespaced
  exact ⟨x, log, all, hx, hs, ht⟩

end FieldPattern

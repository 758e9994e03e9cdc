import FieldPattern.Expression.Compiled
import FieldPattern.Pattern.Reader
import FieldPattern.Proofs.Expression.LeftmostLongest
import FieldPattern.Proofs.Pattern.Grammar
import FieldPattern.Proofs.Pattern.Literal

/-!
# What a compiled expression says

The pattern of an expression is said here once more, from its tokens and the text cut out between
their offsets: for each token the atoms of the text before it, of the left marker, its capture, and
the atoms of the right marker, and at the end the atoms of the text behind the last token
(`Token.atoms`). The compiled pattern is that one (`atoms_ofText`), and its text can be read in no
other way.

A field takes the rest of the line only if its token ends the expression and no right marker is
left to be found. Since tokens do not meet, this can be the last token only.
-/

namespace FieldPattern

open Pattern (literalAtoms)

namespace Token

/-- The capture of a token: a word, or any text, up to the end of the line if the token ends the
expression and there is no right marker. -/
def group (right e : List Char) (t : Token) : Atom :=
  match t.multiplicity with
  | .singleWord => .word
  | .multiWord => if t.stop = e.length ∧ right = [] then .longText else .shortText

/-- The atoms of tokens, of the text before each of them from offset `base` on, and of the text
behind the last one. -/
def atoms (strict : Bool) (left right e : List Char) : (base : Nat) → List Token → Pattern
  | base, [] => literalAtoms strict (e.drop base)
  | base, t :: rest =>
    literalAtoms strict (e.extract base t.start) ++
      (literalAtoms strict left ++ t.group right e :: literalAtoms strict right) ++
        atoms strict left right e t.stop rest

end Token

/-- The atoms of an expression, from its tokens. -/
def Pattern.ofText (strict : Bool) (left right e : List Char) : Pattern :=
  Token.atoms strict left right e 0 (Token.ofText left right e)

/-! ## The compiled pattern -/

section Compile

variable {strict : Bool} {left right : List Char}

theorem Layout.isEmpty_ofText (e : List Char) :
    ((ofText left right e).segments.isEmpty && (ofText left right e).remainder.isEmpty) =
      e.isEmpty := by
  cases e with
  | nil => rfl
  | cons c r =>
    rw [List.isEmpty_cons, Bool.and_eq_false_iff]
    by_contra hboth
    simp only [not_or, Bool.not_eq_false, List.isEmpty_iff] at hboth
    have htext := toText_ofText left right (c :: r)
    rw [toText, hboth.1, hboth.2] at htext
    cases htext

/-- The capture of a field is that of its token: the match may run on to the end of the line exactly
if nothing is left of the expression. -/
theorem capture_eq_group (left right : List Char) {e rest : List Char} {t : Token}
    (hlen : e.length = t.stop + rest.length) :
    t.multiplicity.capture ((Layout.ofText left right rest).segments.isEmpty &&
      (Layout.ofText left right rest).remainder.isEmpty && right.isEmpty) = t.group right e := by
  rw [Layout.isEmpty_ofText, Token.group]
  cases t.multiplicity with
  | singleWord => rfl
  | multiWord =>
    have hlast : rest = [] ↔ t.stop = e.length := by
      rw [← List.length_eq_zero_iff]
      omega
    have hends : (rest.isEmpty && right.isEmpty) = true ↔ t.stop = e.length ∧ right = [] := by
      rw [Bool.and_eq_true, List.isEmpty_iff, List.isEmpty_iff, hlast]
    by_cases h : t.stop = e.length ∧ right = []
    · rw [Multiplicity.capture, if_pos h, if_pos (hends.2 h)]
    · rw [Multiplicity.capture, if_neg h, if_neg (fun hb => h (hends.1 hb))]

/-- Behind any beginning of an expression, the pattern of the layout of the rest has the atoms of
its tokens. -/
theorem layoutAtoms_ofText (rest : List Char) :
    ∀ pre e : List Char, e = pre ++ rest →
      Compiled.layoutAtoms strict left right (Layout.ofText left right rest).remainder
          (Layout.ofText left right rest).segments =
        Token.atoms strict left right e pre.length
          (Token.ofSegments left right pre.length (Layout.ofText left right rest).segments) := by
  apply Layout.ofText_induction
    (motive := fun rest l => ∀ pre e : List Char, e = pre ++ rest →
      Compiled.layoutAtoms strict left right l.remainder l.segments =
        Token.atoms strict left right e pre.length
          (Token.ofSegments left right pre.length l.segments))
  · rintro rest - pre e rfl
    rw [Compiled.layoutAtoms, Token.ofSegments, Token.atoms, List.drop_left,
      Pattern.ofLiteral_eq_literalAtoms]
  · intro gap f rest _ _ ih pre e he
    have htail := ih (pre ++ gap ++ f.raw left right) e (by rw [he]; simp)
    have hgap : e.extract pre.length (pre.length + gap.length) = gap := by
      rw [he, List.extract_eq_take_drop, List.drop_left, Nat.add_sub_cancel_left,
        List.append_assoc, List.take_left]
    have hlen : e.length = pre.length + gap.length + (f.raw left right).length + rest.length := by
      rw [he]
      simp only [List.length_append]
      omega
    have hgroup := capture_eq_group left right
      (t := ⟨f.name, pre.length + gap.length, (f.raw left right).length, f.multiplicity⟩) hlen
    simp only [List.length_append] at htail
    simp only [Compiled.layoutAtoms, Compiled.fieldAtoms, Token.ofSegments, Token.atoms,
      Pattern.ofLiteral_eq_literalAtoms, Token.stop]
    rw [hgap, ← hgroup, htail]

/-- The compiled pattern of an expression has the atoms of its tokens. -/
theorem atoms_ofText (strict : Bool) (left right e : List Char) :
    (Compiled.ofText strict left right e).atoms = Pattern.ofText strict left right e :=
  layoutAtoms_ofText e [] e rfl

theorem map_name_ofSegments (left right : List Char) (base : Nat) (segments : List Segment) :
    (Token.ofSegments left right base segments).map (·.name) = segments.map (·.field.name) := by
  induction segments generalizing base with
  | nil => rfl
  | cons s rest ih => rw [Token.ofSegments, List.map_cons, List.map_cons, ih]

end Compile

/-! ## Captures -/

namespace Token

variable {strict : Bool} {left right e : List Char} {base : Nat} {t : Token} {tokens : List Token}

theorem isCapture_group (t : Token) : (t.group right e).isCapture = true := by
  rw [group]
  cases t.multiplicity with
  | singleWord => rfl
  | multiWord =>
    dsimp only
    split <;> rfl

theorem group_eq_word_iff : t.group right e = .word ↔ t.multiplicity = .singleWord := by
  rw [group]
  cases t.multiplicity with
  | singleWord => simp
  | multiWord =>
    simp only [reduceCtorEq, iff_false]
    split <;> exact Atom.noConfusion

theorem group_eq_longText_iff : t.group right e = .longText ↔
    t.multiplicity = .multiWord ∧ t.stop = e.length ∧ right = [] := by
  rw [group]
  cases t.multiplicity with
  | singleWord => simp
  | multiWord => simp

theorem filter_isCapture_literalAtoms (s : List Char) :
    (literalAtoms strict s).filter Atom.isCapture = [] := by
  rw [← Pattern.ofLiteral_eq_literalAtoms, List.filter_eq_nil_iff]
  intro a ha
  simp [Pattern.isCapture_of_mem_ofLiteral ha]

/-- The captures of a pattern are those of the tokens, in order. -/
theorem filter_isCapture_atoms (strict : Bool) (left right e : List Char) (base : Nat)
    (tokens : List Token) :
    (atoms strict left right e base tokens).filter Atom.isCapture =
      tokens.map (group right e) := by
  induction tokens generalizing base with
  | nil => exact filter_isCapture_literalAtoms _
  | cons t rest ih =>
    rw [atoms, List.filter_append, List.filter_append, List.filter_append, List.filter_cons,
      if_pos (isCapture_group t), filter_isCapture_literalAtoms, filter_isCapture_literalAtoms,
      filter_isCapture_literalAtoms, ih]
    rfl

/-- The pattern ends with what the last token and the text behind it give. -/
theorem exists_atoms_concat (strict : Bool) (left right e : List Char) (base : Nat)
    (front : List Token) (t : Token) :
    ∃ before, atoms strict left right e base (front ++ [t]) =
      before ++ t.group right e ::
        (literalAtoms strict right ++ literalAtoms strict (e.drop t.stop)) := by
  induction front generalizing base with
  | nil =>
    refine ⟨literalAtoms strict (e.extract base t.start) ++ literalAtoms strict left, ?_⟩
    rw [List.nil_append, atoms, atoms]
    simp only [List.append_assoc, List.cons_append]
  | cons u front ih =>
    obtain ⟨before, hbefore⟩ := @ih u.stop
    refine ⟨literalAtoms strict (e.extract base u.start) ++
      (literalAtoms strict left ++ u.group right e :: literalAtoms strict right) ++ before, ?_⟩
    rw [List.cons_append, atoms, hbefore]
    simp only [List.append_assoc]

/-- A token that ends the expression is the last one. -/
theorem AreLeftmostLongest.eq_concat (h : AreLeftmostLongest left right e base tokens)
    (ht : t ∈ tokens) (hstop : t.stop = e.length) :
    ∃ front, tokens = front ++ [t] ∧ ∀ u ∈ front, u.stop < e.length := by
  have hspan : ∀ u ∈ tokens, u.start < u.stop ∧ u.stop ≤ e.length := by
    intro u hu
    obtain ⟨b, hb⟩ := h.exists_isLeftmostLongest u hu
    exact ⟨hb.start_lt_stop, hb.stop_le_length⟩
  have hpairwise := h.pairwise
  obtain ⟨front, back, rfl⟩ := List.append_of_mem ht
  rw [List.pairwise_append, List.pairwise_cons] at hpairwise
  obtain ⟨-, ⟨hback, -⟩, hfront⟩ := hpairwise
  have hnil : back = [] := by
    rw [List.eq_nil_iff_forall_not_mem]
    intro u hu
    have hle := hback u hu
    have hu := hspan u (List.mem_append_right _ (List.mem_cons_of_mem _ hu))
    omega
  refine ⟨front, by rw [hnil], ?_⟩
  intro u hu
  have hle := hfront u hu t List.mem_cons_self
  have ht := hspan t ht
  omega

/-- The rest of a line is captured exactly if the last token holds any text and ends the expression,
and there is no right marker. -/
theorem AreLeftmostLongest.longText_mem_iff (h : AreLeftmostLongest left right e base tokens) :
    .longText ∈ atoms strict left right e base tokens ↔
      ∃ t, tokens.getLast? = some t ∧ t.multiplicity = .multiWord ∧ t.stop = e.length ∧
        right = [] := by
  have hfilter : .longText ∈ atoms strict left right e base tokens ↔
      ∃ t ∈ tokens, t.group right e = .longText := by
    rw [← List.mem_map, ← filter_isCapture_atoms strict left right e base tokens,
      List.mem_filter]
    simp [Atom.isCapture]
  rw [hfilter]
  constructor
  · rintro ⟨t, ht, hgroup⟩
    have hends := group_eq_longText_iff.1 hgroup
    obtain ⟨front, rfl, -⟩ := h.eq_concat ht hends.2.1
    exact ⟨t, List.getLast?_concat, hends⟩
  · rintro ⟨t, hlast, hends⟩
    exact ⟨t, List.mem_of_getLast? hlast, group_eq_longText_iff.2 hends⟩

/-- Where the rest of a line is captured, this is the last atom, and the only one of its kind. -/
theorem AreLeftmostLongest.longText_last (h : AreLeftmostLongest left right e base tokens)
    (hmem : .longText ∈ atoms strict left right e base tokens) :
    (atoms strict left right e base tokens).getLast? = some .longText ∧
      (atoms strict left right e base tokens).count .longText = 1 := by
  obtain ⟨t, hlast, hends⟩ := h.longText_mem_iff.1 hmem
  obtain ⟨front, rfl, hfront⟩ := h.eq_concat (List.mem_of_getLast? hlast) hends.2.1
  have hgroup := group_eq_longText_iff.2 hends
  constructor
  · obtain ⟨before, hatoms⟩ := exists_atoms_concat strict left right e base front t
    have hliteral : literalAtoms strict [] = [] := by cases strict <;> rfl
    rw [hatoms, hgroup, hends.2.1, hends.2.2, List.drop_length, hliteral, List.append_nil,
      List.getLast?_concat]
  · have hcount : (atoms strict left right e base (front ++ [t])).count .longText =
        ((front ++ [t]).map (group right e)).count .longText := by
      rw [← filter_isCapture_atoms strict left right e base, List.count_filter rfl]
    have hnone : (front.map (group right e)).count .longText = 0 := by
      rw [List.count_eq_zero]
      intro hmem
      obtain ⟨u, hu, hgroup⟩ := List.mem_map.1 hmem
      have hlt := hfront u hu
      have hstop := (group_eq_longText_iff.1 hgroup).2.1
      omega
    rw [hcount, List.map_append, List.count_append, hnone, List.map_singleton, hgroup]
    rfl

end Token

/-! ## Reading the text of the pattern -/

/-- The text of the pattern of an expression has one reading: the atoms of its tokens and of the
text around them. Its captures are those of the fields, in order; a field captures a word exactly if
it is a field of one word, and the rest of the line is captured exactly if the last token may hold
any text and ends the expression without a right marker, in which case nothing comes after it. -/
theorem pattern_isReading_iff (strict : Bool) (left right e : List Char) :
    (∀ p : Pattern, p.IsReading (Compiled.ofText strict left right e).pattern.toList ↔
        p = Pattern.ofText strict left right e) ∧
      Pattern.read? (Compiled.ofText strict left right e).pattern.toList =
        some (Pattern.ofText strict left right e) ∧
      (Compiled.ofText strict left right e).fields =
        (Token.ofText left right e).map (fun t => String.ofList t.name) ∧
      (Pattern.ofText strict left right e).filter Atom.isCapture =
        (Token.ofText left right e).map (Token.group right e) ∧
      (∀ t ∈ Token.ofText left right e,
        t.group right e = .word ↔ t.multiplicity = .singleWord) ∧
      (.longText ∈ Pattern.ofText strict left right e ↔
        ∃ t, (Token.ofText left right e).getLast? = some t ∧ t.multiplicity = .multiWord ∧
          t.stop = e.length ∧ right = []) ∧
      (.longText ∈ Pattern.ofText strict left right e →
        (Pattern.ofText strict left right e).getLast? = some .longText ∧
          (Pattern.ofText strict left right e).count .longText = 1) := by
  have hleftmost := areLeftmostLongest_ofText left right e
  have htext : (Compiled.ofText strict left right e).pattern.toList =
      (Pattern.ofText strict left right e).print := by
    rw [Compiled.pattern, String.toList_ofList, atoms_ofText]
  have hfields : (Compiled.ofText strict left right e).fields =
      (Token.ofText left right e).map (fun t => String.ofList t.name) := by
    have hnames := map_name_ofSegments left right 0 (Layout.ofText left right e).segments
    have hofList := congrArg (List.map String.ofList) hnames
    simp only [List.map_map] at hofList
    simp only [Compiled.ofText, Compiled.ofLayout, Layout.fields, List.map_map]
    exact hofList.symm
  refine ⟨?_, ?_, hfields, Token.filter_isCapture_atoms strict left right e 0 _,
    fun t _ => Token.group_eq_word_iff, hleftmost.longText_mem_iff, hleftmost.longText_last⟩
  · intro p
    rw [htext]
    constructor
    · intro hp
      exact Pattern.isReading_unique hp (Pattern.isReading_print _)
    · rintro rfl
      exact Pattern.isReading_print _
  · rw [htext]
    exact Pattern.read?_print _

example : (Compiled.ofText false ['<'] ['>'] "a.b <x>:  <y*>".toList).pattern =
    "a\\.b\\s+<(\\w+)>:\\s+<(.*?)>" := by
  decide

end FieldPattern

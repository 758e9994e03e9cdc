import FieldPattern.Text.Word

/-!
# The layout of an expression

An expression is literal text with *fields* in it. A field is a name of word characters between the
two field markers; a star directly after the name lets the field capture any text instead of one
word. The layout of an expression lists its fields, each with the literal text before it, and the
text that remains after the last one.

A field starts as far to the left as possible, and of the names that fit there the longest is taken;
a star is read as part of the field whenever the right marker follows it. The layout keeps every
character of the expression (`Layout.toText_ofText`).
-/

namespace FieldPattern

/-- How much text a field captures. -/
inductive Multiplicity where
  | singleWord
  | multiWord
  deriving Repr, DecidableEq

/-- The name of a multiplicity. -/
def Multiplicity.name : Multiplicity → String
  | singleWord => "SINGLE_WORD"
  | multiWord => "MULTI_WORD"

/-- The star of a field that captures any text. -/
def Multiplicity.star : Multiplicity → List Char
  | singleWord => []
  | multiWord => ['*']

/-- A field of an expression, without its markers. -/
structure Field where
  name : List Char
  multiplicity : Multiplicity
  deriving Repr, DecidableEq

/-- A field with the literal text before it. -/
structure Segment where
  gap : List Char
  field : Field
  deriving Repr, DecidableEq

/-- Fields in order, then the remaining text. -/
structure Layout where
  segments : List Segment
  remainder : List Char
  deriving Repr, DecidableEq

namespace Field

/-- The text of a field between markers. -/
def raw (left right : List Char) (f : Field) : List Char :=
  left ++ f.name ++ f.multiplicity.star ++ right

/-- How a field whose name ends here is completed: by a star and the right marker, or by the right
marker alone. -/
def closing? (right rest : List Char) : Option Multiplicity :=
  if ('*' :: right).isPrefixOf rest then some .multiWord
  else if right.isPrefixOf rest then some .singleWord
  else none

/-- The field with the longest name of at most `n` characters of `s`. -/
def longest? (right s : List Char) : (n : Nat) → Option Field
  | 0 => none
  | n + 1 =>
    match closing? right (s.drop (n + 1)) with
    | some multiplicity => some ⟨s.take (n + 1), multiplicity⟩
    | none => longest? right s n

/-- The field that starts at the head of a text. -/
def read? (left right s : List Char) : Option Field :=
  if left.isPrefixOf s then
    let body := s.drop left.length
    longest? right body (body.takeWhile Text.isWordChar).length
  else none

end Field

namespace Layout

/-- Puts literal text before everything else. -/
def prepend (c : Char) : Layout → Layout
  | ⟨[], remainder⟩ => ⟨[], c :: remainder⟩
  | ⟨s :: rest, remainder⟩ => ⟨{ s with gap := c :: s.gap } :: rest, remainder⟩

/-- Puts a field before everything else. -/
def addField (f : Field) (l : Layout) : Layout :=
  ⟨⟨[], f⟩ :: l.segments, l.remainder⟩

/-- The layout of a text of which the first `skip` characters belong to a field that was read. -/
def scan (left right : List Char) : (skip : Nat) → List Char → Layout
  | _, [] => ⟨[], []⟩
  | skip + 1, _ :: r => scan left right skip r
  | 0, c :: r =>
    match Field.read? left right (c :: r) with
    | some f => (scan left right ((f.raw left right).length - 1) r).addField f
    | none => (scan left right 0 r).prepend c

/-- The layout of an expression. -/
def ofText (left right expression : List Char) : Layout :=
  scan left right 0 expression

/-- The expression that a layout describes. -/
def toText (left right : List Char) (l : Layout) : List Char :=
  (l.segments.flatMap fun s => s.gap ++ s.field.raw left right) ++ l.remainder

/-- The fields in order. -/
def fields (l : Layout) : List Field :=
  l.segments.map (·.field)

end Layout

/-! ## What a field reads -/

namespace Field

theorem isPrefix_of_closing? {right rest : List Char} {m : Multiplicity}
    (h : closing? right rest = some m) : m.star ++ right <+: rest := by
  unfold closing? at h
  split at h
  · cases h; simp_all [Multiplicity.star]
  · split at h
    · cases h; simp_all [Multiplicity.star]
    · cases h

theorem of_longest? {right s : List Char} {n : Nat} {f : Field} (h : longest? right s n = some f) :
    f.name ++ f.multiplicity.star ++ right <+: s ∧ ∃ k, k + 1 ≤ n ∧ f.name = s.take (k + 1) := by
  induction n with
  | zero => cases h
  | succ n ih =>
    unfold longest? at h
    split at h
    · next m hm =>
      cases h
      refine ⟨?_, n, Nat.le_refl _, rfl⟩
      have rest := isPrefix_of_closing? hm
      rw [List.append_assoc]
      conv => rhs; rw [← List.take_append_drop (n + 1) s]
      exact (List.prefix_append_right_inj _).2 rest
    · obtain ⟨h1, k, hk, h2⟩ := ih h
      exact ⟨h1, k, by omega, h2⟩

theorem isPrefix_of_read? {left right s : List Char} {f : Field} (h : read? left right s = some f) :
    f.raw left right <+: s := by
  unfold read? at h
  split at h
  · next hl =>
    rw [List.isPrefixOf_iff_prefix] at hl
    obtain ⟨t, rfl⟩ := hl
    simp only [List.drop_left] at h
    simpa [raw] using (of_longest? h).1
  · cases h

theorem name_ne_nil_of_read? {left right s : List Char} {f : Field}
    (h : read? left right s = some f) : f.name ≠ [] := by
  unfold read? at h
  split at h
  · obtain ⟨-, k, hk, hf⟩ := of_longest? h
    rw [hf]
    intro h0
    have := congrArg List.length h0
    have hle := (List.takeWhile_sublist Text.isWordChar (l := s.drop left.length)).length_le
    simp at this hle
    omega
  · cases h

end Field

/-! ## The text of a layout -/

namespace Layout

@[simp] theorem toText_prepend (left right : List Char) (c : Char) (l : Layout) :
    (l.prepend c).toText left right = c :: l.toText left right := by
  obtain ⟨_ | ⟨s, rest⟩, r⟩ := l <;> simp [prepend, toText]

@[simp] theorem toText_addField (left right : List Char) (f : Field) (l : Layout) :
    (l.addField f).toText left right = f.raw left right ++ l.toText left right := by
  simp [addField, toText]

theorem toText_scan (left right : List Char) (skip : Nat) (s : List Char) :
    (scan left right skip s).toText left right = s.drop skip := by
  induction s generalizing skip with
  | nil => simp [scan, toText]
  | cons c r ih =>
    cases skip with
    | succ k => simp [scan, ih]
    | zero =>
      unfold scan
      split
      · next f hf =>
        obtain ⟨t, ht⟩ := Field.isPrefix_of_read? hf
        have hpos : 0 < (f.raw left right).length := by
          have := List.length_pos_iff.2 (Field.name_ne_nil_of_read? hf)
          simp only [Field.raw, List.length_append]
          omega
        rw [toText_addField, ih, List.drop_zero]
        obtain ⟨n, hn⟩ : ∃ n, (f.raw left right).length = n + 1 :=
          ⟨_, (Nat.succ_pred_eq_of_pos hpos).symm⟩
        have tail : r.drop ((f.raw left right).length - 1) =
            (c :: r).drop (f.raw left right).length := by
          rw [hn]
          simp
        rw [tail, ← ht, List.drop_left]
      · simp [ih]

/-- A layout keeps every character of its expression. -/
theorem toText_ofText (left right s : List Char) : (ofText left right s).toText left right = s := by
  simpa [ofText] using toText_scan left right 0 s

end Layout

end FieldPattern

import FieldPattern.Pattern.Printer

/-!
# Reading patterns

The reader accepts the texts that the printer writes: escaped and plain characters, elastic white
space and the three captures. Special characters must be escaped, and only they may be. Hence
reading what was printed gives the pattern back (`read?_print`).
-/

namespace FieldPattern.Pattern

/-- Reads a pattern; `none` for a text outside the language. -/
def read? : List Char → Option Pattern
  | [] => some []
  | '\\' :: 's' :: '+' :: r => (read? r).map (.blanks :: ·)
  | '(' :: '\\' :: 'w' :: '+' :: ')' :: r => (read? r).map (.word :: ·)
  | '(' :: '.' :: '*' :: '?' :: ')' :: r => (read? r).map (.shortText :: ·)
  | '(' :: '.' :: '*' :: ')' :: r => (read? r).map (.longText :: ·)
  | '\\' :: c :: r => if isSpecial c then (read? r).map (.literal c :: ·) else none
  | c :: r => if isSpecial c then none else (read? r).map (.literal c :: ·)

theorem isSpecial_backslash : isSpecial '\\' = true := by decide

theorem isSpecial_bracket : isSpecial '(' = true := by decide

theorem isSpecial_letter : isSpecial 's' = false := by decide

/-- Printed atoms are read one by one, whatever follows. -/
theorem read?_print_append (p : Pattern) (r : List Char) :
    read? (print p ++ r) = (read? r).map (p ++ ·) := by
  induction p with
  | nil => simp [print]
  | cons a p ih =>
    have split : print (a :: p) ++ r = a.print ++ (print p ++ r) := by simp [print]
    rw [split]
    cases a with
    | literal c =>
      by_cases hc : isSpecial c = true
      · have hs : c ≠ 's' := by
          rintro rfl
          simp [isSpecial_letter] at hc
        simp only [Atom.print, escapeChar, hc, if_true, List.cons_append, List.nil_append]
        rw [read?] <;> simp_all [Function.comp_def]
      · have hb : c ≠ '\\' := by
          rintro rfl
          exact hc isSpecial_backslash
        have ho : c ≠ '(' := by
          rintro rfl
          exact hc isSpecial_bracket
        simp only [Atom.print, escapeChar, hc, Bool.false_eq_true, if_false, List.cons_append,
          List.nil_append]
        rw [read?] <;> simp_all [Function.comp_def]
    | blanks => simp [Atom.print, read?, ih, Function.comp_def]
    | word => simp [Atom.print, read?, ih, Function.comp_def]
    | shortText => simp [Atom.print, read?, ih, Function.comp_def]
    | longText => simp [Atom.print, read?, ih, Function.comp_def]

theorem read?_print (p : Pattern) : read? (print p) = some p := by
  simpa [read?] using read?_print_append p []

end FieldPattern.Pattern

import FieldPattern.Pattern.Reader
import Mathlib.Data.List.Basic

/-!
# The written form of a pattern

The texts that patterns have among regular expressions are built from six forms: a character that is
no metacharacter, a character other than a letter or digit behind a backslash, and one form for
elastic white space and for each kind of capture. Plain and escaped characters are taken as
widely as regular expressions take them, so a text may write more characters with a backslash than
the printer does, or fewer.

No form is the beginning of another, whatever follows (`nextAtom?_append`). So a text is the written
form of at most one pattern, and no character of one piece can join with those of the next
(`isReading_unique`). The printer writes a pattern in these forms (`isReading_print`).
-/

namespace FieldPattern

/-- The characters that mean something other than themselves in a regular expression. -/
def metaChars : List Char :=
  ['\\', '.', '^', '$', '*', '+', '?', '\x7b', '\x7d', '[', ']', '(', ')', '|']

/-- How an atom may be written. Behind a backslash, letters and digits name classes and groups. -/
def Atom.IsForm : Atom → List Char → Prop
  | .literal c, form =>
    (form = [c] ∧ metaChars.contains c = false) ∨ (form = ['\\', c] ∧ c.isAlphanum = false)
  | .blanks, form => form = "\\s+".toList
  | .word, form => form = "(\\w+)".toList
  | .shortText, form => form = "(.*?)".toList
  | .longText, form => form = "(.*)".toList

namespace Pattern

/-- The text is written in the forms of the atoms, one after another. -/
def IsReading : Pattern → List Char → Prop
  | [], text => text = []
  | a :: p, text => ∃ form rest, text = form ++ rest ∧ a.IsForm form ∧ IsReading p rest

/-! ## One reading -/

/-- The first atom of a written form, and the text after it. -/
def nextAtom? : List Char → Option (Atom × List Char)
  | [] => none
  | '\\' :: 's' :: '+' :: r => some (.blanks, r)
  | '(' :: '\\' :: 'w' :: '+' :: ')' :: r => some (.word, r)
  | '(' :: '.' :: '*' :: '?' :: ')' :: r => some (.shortText, r)
  | '(' :: '.' :: '*' :: ')' :: r => some (.longText, r)
  | '\\' :: c :: r => if c.isAlphanum then none else some (.literal c, r)
  | c :: r => if metaChars.contains c then none else some (.literal c, r)

/-- The first atom is found whatever follows it. -/
theorem nextAtom?_append {a : Atom} {form : List Char} (h : a.IsForm form) (rest : List Char) :
    nextAtom? (form ++ rest) = some (a, rest) := by
  cases a with
  | literal c =>
    rcases h with ⟨rfl, hc⟩ | ⟨rfl, hc⟩
    · have hbackslash : c ≠ '\\' := by
        rintro rfl
        exact absurd hc (by decide)
      have hbracket : c ≠ '(' := by
        rintro rfl
        exact absurd hc (by decide)
      rw [List.singleton_append, nextAtom?, hc, if_neg Bool.false_ne_true]
      · exact fun _ h => absurd h hbackslash
      · exact fun _ h => absurd h hbracket
      · exact fun _ h => absurd h hbracket
      · exact fun _ h => absurd h hbracket
      · exact fun _ _ h => absurd h hbackslash
    · have hs : c ≠ 's' := by
        rintro rfl
        exact absurd hc (by decide)
      show nextAtom? ('\\' :: c :: rest) = some (.literal c, rest)
      rw [nextAtom?, hc, if_neg Bool.false_ne_true]
      exact fun _ h => absurd h hs
  | blanks => subst h; rfl
  | word => subst h; rfl
  | shortText => subst h; rfl
  | longText => subst h; rfl

/-- A text is the written form of one pattern at most. -/
theorem isReading_unique {p q : Pattern} {text : List Char} (hp : p.IsReading text)
    (hq : q.IsReading text) : p = q := by
  induction p generalizing q text with
  | nil =>
    obtain rfl : text = [] := hp
    cases q with
    | nil => rfl
    | cons b q =>
      obtain ⟨form, rest, htext, hform, -⟩ := hq
      have hnext := nextAtom?_append hform rest
      rw [← htext] at hnext
      cases hnext
  | cons a p ih =>
    obtain ⟨form, rest, rfl, hform, hrest⟩ := hp
    have hnext := nextAtom?_append hform rest
    cases q with
    | nil =>
      have hnil : form ++ rest = [] := hq
      rw [hnil] at hnext
      cases hnext
    | cons b q =>
      obtain ⟨form', rest', htext, hform', hrest'⟩ := hq
      rw [htext, nextAtom?_append hform' rest'] at hnext
      obtain ⟨rfl, rfl⟩ := Prod.mk.inj (Option.some.inj hnext)
      rw [ih hrest hrest']

/-! ## What the printer writes -/

theorem isForm_print (a : Atom) : a.IsForm a.print := by
  cases a with
  | literal c =>
    show (escapeChar c = [c] ∧ _) ∨ (escapeChar c = ['\\', c] ∧ _)
    by_cases hc : isSpecial c = true
    · right
      have hall : specialChars.all (fun d => !d.isAlphanum) = true := by decide
      have hnot := List.all_eq_true.1 hall c (List.contains_iff_mem.1 hc)
      exact ⟨by rw [escapeChar, if_pos hc], by simpa using hnot⟩
    · left
      have hall : metaChars.all isSpecial = true := by decide
      refine ⟨by rw [escapeChar, if_neg hc], ?_⟩
      by_contra hmeta
      exact hc (List.all_eq_true.1 hall c (List.contains_iff_mem.1 (by simpa using hmeta)))
  | blanks => rfl
  | word => rfl
  | shortText => rfl
  | longText => rfl

/-- The text of a pattern is a written form of it. -/
theorem isReading_print (p : Pattern) : p.IsReading (print p) := by
  induction p with
  | nil => rfl
  | cons a p ih => exact ⟨a.print, print p, List.flatMap_cons, isForm_print a, ih⟩

end Pattern
end FieldPattern

import FieldPattern.Coercion
import Mathlib.Data.List.Basic
import Mathlib.Data.List.Induction

/-!
# Numerals

A numeral is a text of ASCII digits, and may begin with any number of zeros. What stands behind
these is the decimal notation of its value, which begins with a zero for the number zero alone. So a
numeral is taken apart in one way into zeros and a decimal notation
(`exists_eq_zeros_append_toDigits`, `withoutLeadingZeros_append_toDigits`), and two numerals with
one value differ in the zeros only.

Weak parsing takes every numeral as its value, up to a length; a longer one is the only text that it
refuses (`coerce_eq_error_iff`).
-/

namespace FieldPattern

/-! ## Decimal notation -/

theorem isAsciiDigit_of_mem_toDigits {n : Nat} {c : Char} (h : c ∈ Nat.toDigits 10 n) :
    Text.isAsciiDigit c = true := by
  have hdigit := Char.isDigit_iff_toNat.1 (Nat.isDigit_of_mem_toDigits (by decide) (by decide) h)
  rw [Text.isAsciiDigit, Bool.and_eq_true, decide_eq_true_eq, decide_eq_true_eq]
  exact hdigit

theorem exists_cons_toDigits (n : Nat) :
    ∃ c r, Nat.toDigits 10 n = c :: r ∧ Text.isAsciiDigit c = true := by
  cases hdigits : Nat.toDigits 10 n with
  | nil => exact absurd hdigits Nat.toDigits_ne_nil
  | cons c r => exact ⟨c, r, rfl, isAsciiDigit_of_mem_toDigits (hdigits ▸ List.mem_cons_self)⟩

theorem numeralValue_toDigits (n : Nat) : numeralValue (Nat.toDigits 10 n) = n := by
  have hvalue := Nat.ofDigitChars_ten_toDigits (n := n)
  rw [Nat.ofDigitChars_eq_foldl] at hvalue
  simp only [Nat.mul_comm 10] at hvalue
  exact hvalue

/-- Only zero is written with a zero in front. -/
theorem toDigits_of_head? {n : Nat} (h : (Nat.toDigits 10 n).head? = some '0') :
    Nat.toDigits 10 n = ['0'] := by
  induction n using Nat.strongRecOn with
  | ind n ih =>
    rw [Nat.toDigits_eq_if (by decide)] at h ⊢
    split at h
    · next hlt =>
      rw [if_pos hlt, Option.some.inj h]
    · next hge =>
      rw [List.head?_append_of_ne_nil _ Nat.toDigits_ne_nil] at h
      have hzero := numeralValue_toDigits (n / 10)
      rw [ih (n / 10) (by omega) h] at hzero
      have : n / 10 = 0 := hzero.symm
      omega

theorem toList_toString (n : Nat) : (toString n).toList = Nat.toDigits 10 n := by
  rw [Nat.toString_eq_repr, Nat.toList_repr]

/-! ## Zeros in front -/

/-- A text of zeros. -/
def zeros (n : Nat) : String :=
  String.ofList (List.replicate n '0')

theorem toList_zeros (n : Nat) : (zeros n).toList = List.replicate n '0' := by
  rw [zeros, String.toList_ofList]

theorem length_zeros (n : Nat) : (zeros n).toList.length = n := by
  rw [toList_zeros, List.length_replicate]

theorem numeralValue_zeros_append (k : Nat) (s : List Char) :
    numeralValue (List.replicate k '0' ++ s) = numeralValue s := by
  induction k with
  | zero => rfl
  | succ k ih => rw [List.replicate_succ, List.cons_append, ← ih, numeralValue, numeralValue,
      List.foldl_cons, Nat.zero_mul, Nat.zero_add, Nat.sub_self]

/-- The text from its first digit other than zero on; of nothing but zeros one is left. -/
def withoutLeadingZeros : List Char → List Char
  | '0' :: c :: s => withoutLeadingZeros (c :: s)
  | s => s

theorem withoutLeadingZeros_of_head? {s : List Char} (h : s.head? ≠ some '0') :
    withoutLeadingZeros s = s := by
  unfold withoutLeadingZeros
  split
  · exact absurd rfl h
  · rfl

theorem withoutLeadingZeros_append_toDigits (k n : Nat) :
    withoutLeadingZeros (List.replicate k '0' ++ Nat.toDigits 10 n) = Nat.toDigits 10 n := by
  induction k with
  | zero =>
    rw [List.replicate_zero, List.nil_append]
    by_cases hhead : (Nat.toDigits 10 n).head? = some '0'
    · rw [toDigits_of_head? hhead]
      rfl
    · exact withoutLeadingZeros_of_head? hhead
  | succ k ih =>
    obtain ⟨c, r, hrest⟩ := List.exists_cons_of_ne_nil
      (List.append_ne_nil_of_right_ne_nil (List.replicate k '0') (Nat.toDigits_ne_nil (n := n)))
    rw [hrest] at ih
    rw [List.replicate_succ, List.cons_append, hrest, withoutLeadingZeros, ih]

/-! ## Numerals -/

theorem isNumeral_iff {s : List Char} :
    isNumeral s = true ↔ s ≠ [] ∧ ∀ c ∈ s, Text.isAsciiDigit c = true := by
  simp [isNumeral]

theorem isNumeral_zeros_append (k n : Nat) :
    isNumeral (List.replicate k '0' ++ Nat.toDigits 10 n) = true := by
  rw [isNumeral_iff]
  refine ⟨List.append_ne_nil_of_right_ne_nil _ Nat.toDigits_ne_nil, fun c hc => ?_⟩
  rcases List.mem_append.1 hc with hzero | hdigit
  · rw [List.eq_of_mem_replicate hzero]
    decide
  · exact isAsciiDigit_of_mem_toDigits hdigit

theorem numeralValue_concat (s : List Char) (c : Char) :
    numeralValue (s ++ [c]) = 10 * numeralValue s + (c.toNat - '0'.toNat) := by
  rw [numeralValue, List.foldl_append, List.foldl_cons, List.foldl_nil, Nat.mul_comm 10,
    numeralValue]

theorem toDigits_of_isAsciiDigit {c : Char} (h : Text.isAsciiDigit c = true) :
    c.toNat - '0'.toNat < 10 ∧ Nat.toDigits 10 (c.toNat - '0'.toNat) = [c] := by
  rw [Text.isAsciiDigit, Bool.and_eq_true, decide_eq_true_eq, decide_eq_true_eq] at h
  obtain ⟨hlow, hhigh⟩ : '0'.toNat ≤ c.toNat ∧ c.toNat ≤ '9'.toNat := h
  have hlt : c.toNat - '0'.toNat < 10 := by
    have : '9'.toNat = '0'.toNat + 9 := by decide
    omega
  refine ⟨hlt, ?_⟩
  have hchar : (c.toNat - '0'.toNat).digitChar = c := by
    apply Char.toNat_inj.1
    rw [Nat.toNat_digitChar_of_lt_ten hlt]
    exact Nat.add_sub_cancel' hlow
  rw [Nat.toDigits_of_lt_base hlt, hchar]

/-- A numeral is the decimal notation of its value, behind zeros. One more digit is one more zero
and then this digit alone, as long as the value is zero, and else one more digit of the notation. -/
theorem exists_eq_zeros_append_toDigits {s : List Char} (h : isNumeral s = true) :
    ∃ k, s = List.replicate k '0' ++ Nat.toDigits 10 (numeralValue s) := by
  induction s using List.reverseRecOn with
  | nil => exact absurd h Bool.false_ne_true
  | append_singleton s c ih =>
    obtain ⟨-, hdigits⟩ := isNumeral_iff.1 h
    obtain ⟨hlt, hc⟩ := toDigits_of_isAsciiDigit (hdigits c (by simp))
    rw [numeralValue_concat]
    by_cases hnil : s = []
    · refine ⟨0, ?_⟩
      have hvalue : numeralValue [] = 0 := rfl
      rw [hnil, hvalue, Nat.mul_zero, Nat.zero_add, hc]
      rfl
    · obtain ⟨k, hk⟩ := ih (isNumeral_iff.2 ⟨hnil, fun d hd => hdigits d (by simp [hd])⟩)
      by_cases hzero : numeralValue s = 0
      · refine ⟨k + 1, ?_⟩
        rw [hzero, Nat.toDigits_zero, ← List.replicate_succ'] at hk
        rw [hzero, Nat.mul_zero, Nat.zero_add, hc, ← hk]
      · refine ⟨k, ?_⟩
        rw [← Nat.toDigits_append_toDigits (by decide) (Nat.pos_of_ne_zero hzero) hlt, hc,
          ← List.append_assoc, ← hk]

/-! ## Numerals that are too long -/

/-- The text is a numeral too long to be taken as a number. -/
def isOverlong (s : String) : Bool :=
  isNumeral s.toList && decide (digitLimit < s.toList.length)

theorem lt_length_of_isOverlong {s : String} (h : isOverlong s = true) :
    digitLimit < s.toList.length :=
  of_decide_eq_true (Bool.and_eq_true_iff.1 h).2

theorem coerce_eq_error_iff {s : String} {e : Error} :
    coerce s = .error e ↔ isOverlong s = true ∧ e = .digitLimit s.toList.length := by
  rw [isOverlong, coerce]
  by_cases hnumeral : isNumeral s.toList = true
  · by_cases hlong : digitLimit < s.toList.length
    · simp [hnumeral, hlong, eq_comm]
    · simp [hnumeral, hlong]
  · simp only [hnumeral, Bool.false_and, Bool.false_eq_true, if_false, false_and, iff_false]
    split
    · exact nofun
    · split <;> exact nofun

theorem exists_coerce_of_not_isOverlong {s : String} (h : isOverlong s = false) :
    ∃ d, coerce s = .ok d := by
  cases hcoerce : coerce s with
  | ok d => exact ⟨d, rfl⟩
  | error e =>
    rw [(coerce_eq_error_iff.1 hcoerce).1] at h
    cases h

theorem isOverlong_zeros {n : Nat} (h : digitLimit < n) : isOverlong (zeros n) = true := by
  have hpos : n ≠ 0 := Nat.ne_zero_of_lt h
  rw [isOverlong, length_zeros, decide_eq_true h, isNumeral, toList_zeros]
  simp [hpos, Text.isAsciiDigit]

end FieldPattern

import FieldPattern.Proofs.Coercion.Numeral

/-!
# Weak parsing reads decimals and nothing else

A text of ASCII digits is taken as the number that it writes, zeros in front allowed, and the number
gives the text back but for these zeros. A text of more than 4300 digits is refused, also where all
of them are zeros. The two words for truth values are taken as these, and every other text stays as
it is; digits of other scripts, signs, blanks and line ends are enough for that
(`coerce_reads_decimals`).

So a datum has a single text, except that numbers have one for each count of zeros. This needs that
the three kinds of data come from texts of three kinds, which is said by one equivalence for each of
them.
-/

namespace FieldPattern

/-- ASCII digits, and at least one of them. -/
def IsDigits (s : String) : Prop :=
  s ≠ "" ∧ ∀ c ∈ s.toList, '0' ≤ c ∧ c ≤ '9'

theorem isNumeral_toList_iff {s : String} : isNumeral s.toList = true ↔ IsDigits s := by
  simp [isNumeral_iff, IsDigits, Text.isAsciiDigit]

theorem isDigits_zeros_append (k n : Nat) : IsDigits (zeros k ++ toString n) := by
  rw [← isNumeral_toList_iff, String.toList_append, toList_zeros, toList_toString]
  exact isNumeral_zeros_append k n

theorem numeralValue_zeros_append_toString (k n : Nat) :
    numeralValue (zeros k ++ toString n).toList = n := by
  rw [String.toList_append, toList_zeros, toList_toString, numeralValue_zeros_append,
    numeralValue_toDigits]

theorem exists_eq_zeros_append_toString {s : String} (h : IsDigits s) :
    ∃ k, s = zeros k ++ toString (numeralValue s.toList) := by
  obtain ⟨k, hk⟩ := exists_eq_zeros_append_toDigits (isNumeral_toList_iff.2 h)
  refine ⟨k, String.toList_inj.1 ?_⟩
  rw [String.toList_append, toList_zeros, toList_toString, ← hk]

theorem withoutLeadingZeros_append_toString (k n : Nat) :
    withoutLeadingZeros (zeros k ++ toString n).toList = (toString n).toList := by
  rw [String.toList_append, toList_zeros, toList_toString, withoutLeadingZeros_append_toDigits]

/-! ## The texts of a datum -/

theorem coerce_of_isDigits {s : String} (h : IsDigits s) :
    coerce s = if 4300 < s.length then .error (.digitLimit s.length)
      else .ok (.number (numeralValue s.toList)) := by
  rw [coerce, if_pos (isNumeral_toList_iff.2 h), String.length_toList, digitLimit]

theorem coerce_of_not_isDigits {s : String} (h : ¬ IsDigits s) :
    coerce s =
      .ok (if s = "true" then .truth true else if s = "false" then .truth false else .text s) := by
  rw [← isNumeral_toList_iff] at h
  rw [coerce, if_neg h]
  by_cases htrue : s = "true"
  · simp [htrue]
  · by_cases hfalse : s = "false"
    · simp [hfalse]
    · simp [htrue, hfalse]

theorem coerce_word (b : Bool) : coerce (toString b) = .ok (.truth b) := by
  have hword : ¬ IsDigits (toString b) := by
    rw [← isNumeral_toList_iff]
    cases b <;> decide
  rw [coerce_of_not_isDigits hword]
  cases b <;> rfl

/-- The texts that a datum can come from. -/
def Datum.IsWritten (s : String) : Datum → Prop
  | number n => ∃ k, s = zeros k ++ toString n
  | truth b => s = toString b
  | text t => s = t

theorem isWritten_of_coerce {s : String} {d : Datum} (h : coerce s = .ok d) : d.IsWritten s := by
  by_cases hdigits : IsDigits s
  · rw [coerce_of_isDigits hdigits] at h
    split at h
    · cases h
    · rw [← Except.ok.inj h]
      exact exists_eq_zeros_append_toString hdigits
  · rw [coerce_of_not_isDigits hdigits] at h
    rw [← Except.ok.inj h]
    split
    · next htrue => exact htrue
    · split
      · next hfalse => exact hfalse
      · rfl

/-- A text of at most 4300 ASCII digits is taken as the number that it writes behind some zeros, and
a longer one is refused. The words of the truth values are taken as these, and every other text
stays as it is. So different texts give the same datum only where they are numerals that differ in
zeros at the front. -/
theorem coerce_reads_decimals :
    (∀ s, IsDigits s → s.length ≤ 4300 →
        ∃ n k : Nat, coerce s = .ok (.number n) ∧ s = zeros k ++ toString n ∧
          toString n = String.ofList (withoutLeadingZeros s.toList)) ∧
      (∀ n k : Nat, k + (toString n).length ≤ 4300 →
        coerce (zeros k ++ toString n) = .ok (.number n)) ∧
      (∀ s, IsDigits s → 4300 < s.length → coerce s = .error (.digitLimit s.length)) ∧
      coerce "true" = .ok (.truth true) ∧ coerce "false" = .ok (.truth false) ∧
      (∀ s, ¬ IsDigits s → s ≠ "true" → s ≠ "false" → coerce s = .ok (.text s)) ∧
      ∀ s t d, coerce s = .ok d → coerce t = .ok d →
        s = t ∨ ∃ n j k : Nat, s = zeros j ++ toString n ∧ t = zeros k ++ toString n := by
  refine ⟨?_, ?_, ?_, coerce_word true, coerce_word false, ?_, ?_⟩
  · intro s hs hlength
    obtain ⟨k, hk⟩ := exists_eq_zeros_append_toString hs
    refine ⟨numeralValue s.toList, k, ?_, hk, ?_⟩
    · rw [coerce_of_isDigits hs, if_neg (Nat.not_lt.2 hlength)]
    · have hrest := withoutLeadingZeros_append_toString k (numeralValue s.toList)
      rw [← hk] at hrest
      rw [hrest, String.ofList_toList]
  · intro n k hlength
    have hshort : (zeros k ++ toString n).length ≤ 4300 := by
      rwa [String.length_append, ← String.length_toList (s := zeros k), length_zeros]
    rw [coerce_of_isDigits (isDigits_zeros_append k n), if_neg (Nat.not_lt.2 hshort),
      numeralValue_zeros_append_toString]
  · intro s hs hlength
    rw [coerce_of_isDigits hs, if_pos hlength]
  · intro s hs htrue hfalse
    rw [coerce_of_not_isDigits hs, if_neg htrue, if_neg hfalse]
  · intro s t d hs ht
    have hs' := isWritten_of_coerce hs
    have ht' := isWritten_of_coerce ht
    cases d with
    | number n =>
      obtain ⟨j, hj⟩ := hs'
      obtain ⟨k, hk⟩ := ht'
      exact Or.inr ⟨n, j, k, hj, hk⟩
    | truth b => exact Or.inl (hs'.trans ht'.symm)
    | text u => exact Or.inl (hs'.trans ht'.symm)

/-- Zeros count as digits, the last one of them stays, and neither a line end nor a digit of another
script belongs to a numeral. -/
theorem coerce_reads_decimals_padded :
    (IsDigits "0070" ∧ ∃ n k : Nat, coerce "0070" = .ok (.number n) ∧
        "0070" = zeros k ++ toString n ∧
          toString n = String.ofList (withoutLeadingZeros "0070".toList)) ∧
      coerce (zeros 4299 ++ toString 0) = .ok (.number 0) ∧
      (IsDigits (zeros 4301) ∧
        coerce (zeros 4301) = .error (.digitLimit (zeros 4301).length)) ∧
      (¬ IsDigits "70\n" ∧ coerce "70\n" = .ok (.text "70\n")) ∧
      (¬ IsDigits "٧" ∧ coerce "٧" = .ok (.text "٧")) ∧
      ("007" = "7" ∨ ∃ n j k : Nat, "007" = zeros j ++ toString n ∧
        "7" = zeros k ++ toString n) := by
  obtain ⟨hnumber, hpadded, hlong, -, -, htext, hunique⟩ := coerce_reads_decimals
  have hdigits : IsDigits "0070" := isNumeral_toList_iff.1 (by decide)
  have hlength : 4300 < (zeros 4301).length := by
    rw [← String.length_toList, length_zeros]
    decide
  have hzeros : IsDigits (zeros 4301) :=
    isNumeral_toList_iff.1 (Bool.and_eq_true_iff.1 (isOverlong_zeros (by decide))).1
  have hline : ¬ IsDigits "70\n" := isNumeral_toList_iff.not.1 (by decide)
  have hscript : ¬ IsDigits "٧" := isNumeral_toList_iff.not.1 (by decide)
  refine ⟨⟨hdigits, hnumber "0070" hdigits (by decide)⟩, hpadded 0 4299 (by decide),
    ⟨hzeros, hlong _ hzeros hlength⟩, ⟨hline, htext _ hline (by decide) (by decide)⟩,
    ⟨hscript, htext _ hscript (by decide) (by decide)⟩, ?_⟩
  exact hunique "007" "7" (.number 7) (by decide) (by decide)

end FieldPattern

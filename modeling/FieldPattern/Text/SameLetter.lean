import FieldPattern.Text.Blank
import FieldPattern.Text.LetterCase

/-!
# Letters without regard to case

Two characters are *the same letter* if they have the same lower case, where a lower case is one
character. This leaves apart some small letters that share a capital: the two small sigmas, the long
s, the dotless i, and variants of Greek and Cyrillic letters. They are listed in groups, and the
letters of a group are the same as well.

What is the same in the ASCII reading is so in the full one (`sameLetter_of_sameAsciiLetter`), and
only a blank is the same as a blank (`isBlank_of_sameLetter`). The latter is a fact about the tables:
no letter has a blank for its lower case, and there is none in the groups.
-/

namespace FieldPattern.Text

/-- The lower case of a character as one character. The dotted capital I gives up its dot. -/
def lowerLetter (c : Char) : Char :=
  (lowerChar c).headD c

/-- The code points of different small letters that share a capital. -/
def letterVariants : List (List Nat) :=
  [[0x69, 0x131], [0x73, 0x17F], [0xB5, 0x3BC], [0x345, 0x3B9, 0x1FBE], [0x390, 0x1FD3],
    [0x3B0, 0x1FE3], [0x3B2, 0x3D0], [0x3B5, 0x3F5], [0x3B8, 0x3D1], [0x3BA, 0x3F0], [0x3C0, 0x3D6],
    [0x3C1, 0x3F1], [0x3C2, 0x3C3], [0x3C6, 0x3D5], [0x432, 0x1C80], [0x434, 0x1C81],
    [0x43E, 0x1C82], [0x441, 0x1C83], [0x442, 0x1C84, 0x1C85], [0x44A, 0x1C86], [0x463, 0x1C87],
    [0x1C88, 0xA64B], [0x1E61, 0x1E9B], [0xFB05, 0xFB06]]

/-- One small letter, or two that share a capital. -/
def areVariants (c d : Char) : Bool :=
  c == d || letterVariants.any fun group => group.contains c.toNat && group.contains d.toNat

/-- The same letter, in the full reading. -/
def sameLetter (c d : Char) : Bool :=
  areVariants (lowerLetter c) (lowerLetter d)

/-- The same letter, in the ASCII reading. -/
def sameAsciiLetter (c d : Char) : Bool :=
  c.toLower == d.toLower

theorem sameLetter_refl (c : Char) : sameLetter c c = true := by
  simp [sameLetter, areVariants]

theorem sameAsciiLetter_refl (c : Char) : sameAsciiLetter c c = true := by
  simp [sameAsciiLetter]

/-! ## The two readings -/

theorem toNat_toLower (c : Char) : c.toLower.toNat =
    if 0x41 ≤ c.toNat ∧ c.toNat ≤ 0x5A then c.toNat + 0x20 else c.toNat := by
  unfold Char.toLower
  split
  · next h =>
    have hlow : 0x41 ≤ c.toNat := UInt32.le_iff_toNat_le.1 h.1
    have hhigh : c.toNat ≤ 0x5A := UInt32.le_iff_toNat_le.1 h.2
    rw [if_pos ⟨hlow, hhigh⟩]
    show (c.val + _).toNat = c.val.toNat + _
    rw [UInt32.toNat_add]
    exact Nat.mod_eq_of_lt (Nat.lt_of_le_of_lt (Nat.add_le_add_right hhigh _) (by decide))
  · next h =>
    rw [if_neg]
    rintro ⟨hlow, hhigh⟩
    exact h ⟨UInt32.le_iff_toNat_le.2 hlow, UInt32.le_iff_toNat_le.2 hhigh⟩

theorem lowerLetter_of_ascii {c : Char} (h : c.toNat < 0x80) : lowerLetter c = c.toLower := by
  simp [lowerLetter, lowerChar, h]

/-- Letters of the ASCII reading stay the same. -/
theorem sameLetter_of_sameAsciiLetter {c d : Char} (h : sameAsciiLetter c d = true) :
    sameLetter c d = true := by
  have hlower : c.toLower = d.toLower := beq_iff_eq.1 h
  have hcode := congrArg Char.toNat hlower
  rw [toNat_toLower, toNat_toLower] at hcode
  by_cases hc : c.toNat < 0x80
  · have hd : d.toNat < 0x80 := by
      split at hcode <;> split at hcode <;> omega
    simp [sameLetter, areVariants, lowerLetter_of_ascii hc, lowerLetter_of_ascii hd, hlower]
  · have hcd : c = d := Char.toNat_inj.1 (by split at hcode <;> split at hcode <;> omega)
    rw [hcd]
    exact sameLetter_refl d

/-! ## Blanks -/

theorem CaseRun.exists_of_lookup {runs : List CaseRun} {n m : Nat} (h : lookup runs n = some m) :
    ∃ r ∈ runs, r.first ≤ n ∧ n ≤ r.last ∧ m = (Int.ofNat n + r.shift).toNat := by
  obtain ⟨r, hfind, rfl⟩ := Option.map_eq_some_iff.1 h
  have hr := List.find?_some hfind
  simp only [Bool.and_eq_true, decide_eq_true_eq] at hr
  exact ⟨r, List.mem_of_find?_eq_some hfind, hr.1.1, hr.1.2, rfl⟩

theorem lowerLetter_of_isBlank {c : Char} (h : isBlank c = true) : lowerLetter c = c := by
  have hall : ∀ n ∈ blankCodes, lowerLetter (Char.ofNat n) = Char.ofNat n := by decide +kernel
  have hc := hall _ (isBlank_iff_mem.1 h)
  rwa [Char.ofNat_toNat] at hc

/-- No letter has a blank for its lower case. -/
theorem lookup_notMem_blankCodes {n m : Nat} (h : CaseRun.lookup lowerRuns n = some m) :
    m ∉ blankCodes := by
  have hruns : (lowerRuns.all fun r => blankCodes.all fun b =>
      b < r.first + r.shift || r.last + r.shift < b) = true := by
    decide +kernel
  obtain ⟨r, hr, hfirst, hlast, rfl⟩ := CaseRun.exists_of_lookup h
  intro hmem
  have hr := List.all_eq_true.1 (List.all_eq_true.1 hruns r hr) _ hmem
  simp only [Bool.or_eq_true, decide_eq_true_eq] at hr
  have hzero : 0 ∉ blankCodes := by decide
  have hne : (Int.ofNat n + r.shift).toNat ≠ 0 := fun h => hzero (h ▸ hmem)
  rw [Int.ofNat_eq_natCast] at hr hne
  omega

theorem mem_blankCodes_of_isBlank_ofNat {n : Nat} (h : isBlank (Char.ofNat n) = true) :
    n ∈ blankCodes := by
  rw [isBlank_iff_mem, Char.ofNat] at h
  by_cases hn : n.isValidChar
  · rw [dif_pos hn] at h
    exact h
  · rw [dif_neg hn] at h
    exact absurd h (by decide)

theorem isBlank_of_isBlank_lowerLetter {c : Char} (h : isBlank (lowerLetter c) = true) :
    isBlank c = true := by
  by_cases hascii : c.toNat < 0x80
  · rw [lowerLetter_of_ascii hascii, isBlank_iff_mem, toNat_toLower] at h
    rw [isBlank_iff_mem]
    have houtside : ∀ n ∈ blankCodes, n < 0x41 ∨ 0x7A < n := by decide
    have := houtside _ h
    rwa [if_neg (by split at this <;> omega)] at h
  · rw [lowerLetter, lowerChar, if_neg hascii] at h
    split at h
    · cases h
    · cases hlookup : CaseRun.lookup lowerRuns c.toNat with
      | none => simpa [hlookup] using h
      | some m =>
        rw [hlookup] at h
        exact absurd (mem_blankCodes_of_isBlank_ofNat h) (lookup_notMem_blankCodes hlookup)

/-- Only a blank is the same as a blank. -/
theorem isBlank_of_sameLetter {c d : Char} (hsame : sameLetter c d = true)
    (hc : isBlank c = true) : isBlank d = true := by
  rw [sameLetter, lowerLetter_of_isBlank hc, areVariants, Bool.or_eq_true, beq_iff_eq] at hsame
  rcases hsame with hlower | hvariant
  · exact isBlank_of_isBlank_lowerLetter (hlower ▸ hc)
  · have hgroups : (letterVariants.all fun group =>
        blankCodes.all fun b => !group.contains b) = true := by
      decide +kernel
    obtain ⟨group, hgroup, hboth⟩ := List.any_eq_true.1 hvariant
    have hnot := List.all_eq_true.1 (List.all_eq_true.1 hgroups group hgroup) _
      (isBlank_iff_mem.1 hc)
    simp only [Bool.and_eq_true] at hboth
    rw [hboth.1] at hnot
    cases hnot

end FieldPattern.Text

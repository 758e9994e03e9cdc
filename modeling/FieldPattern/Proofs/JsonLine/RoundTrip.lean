import FieldPattern.JsonLine.Reader
import FieldPattern.Proofs.Coercion.Numeral
import FieldPattern.Proofs.Matching.FieldValues
import Mathlib.Algebra.Group.Nat.Defs

/-!
# Lines of JSON are read back

Whatever text a character stands in, its JSON form is read as the units that spell it, and no unit
of another character can be mistaken for one of these; so strings are read back, and with them the
members of an object, one after another. An object is read back as it was, in the same order, if no
name occurs twice in it (`read_object`).
-/

namespace FieldPattern

/-! ## Hexadecimal numbers -/

namespace Text

/-- A number that fits is spelled by its digits. -/
theorem hexNumber?_hexText {width n : Nat} (h : n < 16 ^ width) :
    hexNumber? (hexText width n) = some n := by
  induction width generalizing n with
  | zero =>
    rw [Nat.lt_one_iff.1 h]
    rfl
  | succ w ih =>
    have hhigh : n / 16 < 16 ^ w := by
      rw [Nat.pow_succ] at h
      omega
    have hread := ih hhigh
    rw [hexNumber?] at hread
    rw [hexText, hexNumber?, List.foldlM_append, hread]
    simp only [Option.bind_eq_bind, Option.bind_some, List.foldlM_cons, List.foldlM_nil,
      hexValue?_hexDigit _ (Nat.mod_lt n (by decide)), Option.map_some]
    rw [Nat.div_add_mod']
    rfl

end Text

namespace JsonLine

open Text (hexDigit hexText hexNumber?_hexText)

/-! ## Characters -/

/-- The units of a character spell it, whatever follows. -/
theorem ofUnits_units_append (c : Char) (us : List Nat) :
    ofUnits (units c ++ us) = (ofUnits us).map (c :: ·) := by
  have hvalid : c.toNat < 0xD800 ∨ 0xDFFF < c.toNat ∧ c.toNat < 0x110000 := c.valid
  rw [units]
  split
  · next hlow =>
    have hleads : leads c.toNat = false := by
      simp only [leads, Bool.and_eq_false_iff, decide_eq_false_iff_not]
      omega
    have htrails : trails c.toNat = false := by
      simp only [trails, Bool.and_eq_false_iff, decide_eq_false_iff_not]
      omega
    cases us with
    | nil =>
      show ofUnits [c.toNat] = some [c]
      rw [ofUnits, hleads, htrails, Bool.or_false, if_neg Bool.false_ne_true, Char.ofNat_toNat]
    | cons k us =>
      rw [List.singleton_append, ofUnits, hleads, htrails, if_neg Bool.false_ne_true,
        if_neg Bool.false_ne_true, Char.ofNat_toNat]
  · next hhigh =>
    have hleads : leads (0xD800 + (c.toNat - 0x10000) / 0x400) = true := by
      simp only [leads, Bool.and_eq_true, decide_eq_true_eq]
      omega
    have htrails : trails (0xDC00 + (c.toNat - 0x10000) % 0x400) = true := by
      simp only [trails, Bool.and_eq_true, decide_eq_true_eq]
      omega
    have hvalue : 0x10000 + (0xD800 + (c.toNat - 0x10000) / 0x400 - 0xD800) * 0x400 +
        (0xDC00 + (c.toNat - 0x10000) % 0x400 - 0xDC00) = c.toNat := by
      omega
    rw [List.cons_append, List.cons_append, List.nil_append, ofUnits, if_pos hleads, if_pos htrails,
      hvalue, Char.ofNat_toNat]

theorem ofUnits_flatMap_units (s : List Char) : ofUnits (s.flatMap units) = some s := by
  induction s with
  | nil => rfl
  | cons c s ih => rw [List.flatMap_cons, ofUnits_units_append, ih, Option.map_some]

theorem prepend_prepend (us vs : List Nat) (found : Option (List Nat × List Char)) :
    prepend us (prepend vs found) = prepend (us ++ vs) found := by
  cases found with
  | none => rfl
  | some p =>
    show some (us ++ (vs ++ p.1), p.2) = some (us ++ vs ++ p.1, p.2)
    rw [List.append_assoc]

theorem readUnits_unitEscape {n : Nat} (h : n < 0x10000) (rest : List Char) :
    readUnits (unitEscape n ++ rest) = prepend [n] (readUnits rest) := by
  have hdigits : hexText 4 n = [hexDigit (n / 16 / 16 / 16 % 16), hexDigit (n / 16 / 16 % 16),
      hexDigit (n / 16 % 16), hexDigit (n % 16)] :=
    rfl
  have hread : Text.hexNumber? (hexText 4 n) = some n := hexNumber?_hexText h
  rw [hdigits] at hread
  rw [unitEscape, hdigits]
  simp only [List.cons_append, List.nil_append]
  rw [readUnits, hread, Option.bind_some]

/-- The JSON forms of a character: an escape by another character, the character itself, the escape
of its unit, and the escapes of its two units. -/
inductive Form (c : Char) : List Char → Prop where
  | escape {e : Char} (he : e ≠ 'u') (h : escaped? e = some c) : Form c ['\\', e]
  | plain (hquote : c ≠ '"') (hslash : c ≠ '\\') (hlow : ' ' ≤ c) (hhigh : c ≤ '~') : Form c [c]
  | unit (h : c.toNat < 0x10000) : Form c (unitEscape c.toNat)
  | pair (h : 0x10000 ≤ c.toNat) : Form c (unitEscape (0xD800 + (c.toNat - 0x10000) / 0x400) ++
      unitEscape (0xDC00 + (c.toNat - 0x10000) % 0x400))

theorem form_char (c : Char) : Form c (char c) := by
  rw [char]
  split
  · next h => exact .escape (by decide) (congrArg some (eq_of_beq h).symm)
  next hquote =>
  split
  · next h => exact .escape (by decide) (congrArg some (eq_of_beq h).symm)
  next hslash =>
  split
  · next h => exact .escape (by decide) (congrArg some (eq_of_beq h).symm)
  split
  · next h => exact .escape (by decide) (congrArg some (eq_of_beq h).symm)
  split
  · next h => exact .escape (by decide) (congrArg some (eq_of_beq h).symm)
  split
  · next h => exact .escape (by decide) (congrArg some (eq_of_beq h).symm)
  split
  · next h => exact .escape (by decide) (congrArg some (eq_of_beq h).symm)
  split
  · next h =>
    rw [Bool.and_eq_true, decide_eq_true_eq, decide_eq_true_eq] at h
    rw [beq_iff_eq] at hquote hslash
    exact .plain hquote hslash h.1 h.2
  split
  · next h => exact .unit h
  · next h => exact .pair (Nat.le_of_not_lt h)

/-- A JSON form of a character is read as the units of the character. -/
theorem readUnits_form {c : Char} {form : List Char} (h : Form c form) (rest : List Char) :
    readUnits (form ++ rest) = prepend (units c) (readUnits rest) := by
  have hvalid : c.toNat < 0xD800 ∨ 0xDFFF < c.toNat ∧ c.toNat < 0x110000 := c.valid
  cases h with
  | @escape e he h =>
    show readUnits ('\\' :: e :: rest) = _
    rw [readUnits, h, Option.bind_some]
    intro a b c d r heq
    exact absurd heq he
  | plain hquote hslash hlow hhigh =>
    have hraw : (c < ' ' || c == '\\') = false := by
      rw [Bool.or_eq_false_iff, decide_eq_false_iff_not, beq_eq_false_iff_ne]
      exact ⟨Char.not_lt.2 hlow, hslash⟩
    show readUnits (c :: rest) = _
    rw [readUnits, hraw, if_neg Bool.false_ne_true]
    · exact hquote
    · exact fun _ _ _ _ _ h => absurd h hslash
    · exact fun _ _ h => absurd h hslash
  | unit h => rw [readUnits_unitEscape h, units, if_pos h]
  | pair h =>
    rw [List.append_assoc, readUnits_unitEscape (by omega), readUnits_unitEscape (by omega),
      prepend_prepend, units, if_neg (Nat.not_lt.2 h)]
    rfl

theorem readUnits_flatMap_char (s rest : List Char) :
    readUnits (s.flatMap char ++ '"' :: rest) = some (s.flatMap units, rest) := by
  induction s with
  | nil => rfl
  | cons c s ih =>
    rw [List.flatMap_cons, List.append_assoc, readUnits_form (form_char c), ih]
    rfl

theorem readString_append (s : String) (rest : List Char) :
    readString (s.toList.flatMap char ++ '"' :: rest) = some (s, rest) := by
  rw [readString, readUnits_flatMap_char]
  simp [ofUnits_flatMap_units]

/-! ## Data -/

/-- No digit stands in front of the text. -/
def StopsNumber (rest : List Char) : Prop :=
  ∀ c ∈ rest.head?, Text.isAsciiDigit c = false

theorem stopsNumber_cons {c : Char} (h : Text.isAsciiDigit c = false) (rest : List Char) :
    StopsNumber (c :: rest) := by
  rintro c' ⟨⟩
  exact h

theorem takeWhile_toDigits_append (n : Nat) {rest : List Char} (h : StopsNumber rest) :
    (Nat.toDigits 10 n ++ rest).takeWhile Text.isAsciiDigit = Nat.toDigits 10 n := by
  rw [List.takeWhile_append_of_pos fun c => isAsciiDigit_of_mem_toDigits]
  cases rest with
  | nil => rw [List.takeWhile_nil, List.append_nil]
  | cons c rest =>
    rw [List.takeWhile_cons_of_neg (by rw [h c rfl]; exact Bool.false_ne_true), List.append_nil]

theorem readNumber_append (n : Nat) {rest : List Char} (h : StopsNumber rest) :
    readNumber (Nat.toDigits 10 n ++ rest) = some (n, rest) := by
  have hwritten : ((Nat.toDigits 10 n).isEmpty || ((Nat.toDigits 10 n).head? == some '0' &&
      Nat.toDigits 10 n != ['0'])) = false := by
    rw [Bool.or_eq_false_iff, Bool.and_eq_false_imp]
    constructor
    · exact List.isEmpty_eq_false_iff.2 Nat.toDigits_ne_nil
    · intro hhead
      rw [toDigits_of_head? (eq_of_beq hhead)]
      rfl
  rw [readNumber, takeWhile_toDigits_append n h, hwritten, if_neg Bool.false_ne_true,
    numeralValue_toDigits, List.drop_left]

/-- A datum is read back if no digit follows. -/
theorem readDatum_append (d : Datum) {rest : List Char} (h : StopsNumber rest) :
    readDatum (datum d ++ rest) = some (d, rest) := by
  cases d with
  | text s =>
    show readDatum ('"' :: (s.toList.flatMap char ++ ['"'] ++ rest)) = _
    rw [readDatum, List.append_assoc, List.singleton_append, readString_append, Option.map_some]
  | number n =>
    have hhead : ∀ c r, Nat.toDigits 10 n ++ rest = c :: r → Text.isAsciiDigit c = true := by
      intro c r heq
      obtain ⟨c', r', hdigits, hdigit⟩ := exists_cons_toDigits n
      rw [hdigits] at heq
      cases heq
      exact hdigit
    rw [datum, readDatum, readNumber_append n h, Option.map_some]
    · exact fun r heq => absurd (hhead _ _ heq) (by decide)
    · exact fun r heq => absurd (hhead _ _ heq) (by decide)
    · exact fun r heq => absurd (hhead _ _ heq) (by decide)
  | truth b => cases b <;> rfl

/-! ## Objects -/

/-- A datum does not begin with white space. -/
theorem skipSpace_datum (d : Datum) (rest : List Char) :
    skipSpace (datum d ++ rest) = datum d ++ rest := by
  cases d with
  | text s => rfl
  | number n =>
    obtain ⟨c, r, hdigits, hdigit⟩ := exists_cons_toDigits n
    have hspace : ¬ isSpace c = true := by
      rw [isSpace, Bool.or_eq_true, Bool.or_eq_true, Bool.or_eq_true, beq_iff_eq, beq_iff_eq,
        beq_iff_eq, beq_iff_eq]
      rintro (((rfl | rfl) | rfl) | rfl) <;> exact absurd hdigit (by decide)
    rw [datum, hdigits, List.cons_append, skipSpace, List.dropWhile_cons_of_neg hspace]
  | truth b => cases b <;> rfl

theorem readMember_append (e : String × Datum) {rest : List Char} (h : StopsNumber rest) :
    readMember (member e ++ rest) = some (e, skipSpace rest) := by
  have htext : member e ++ rest =
      '"' :: (e.1.toList.flatMap char ++ '"' :: ':' :: ' ' :: (datum e.2 ++ rest)) := by
    simp [member, string]
  have hopen : skipSpace (member e ++ rest) = member e ++ rest := by
    rw [htext]
    rfl
  have hcolon : skipSpace (':' :: ' ' :: (datum e.2 ++ rest)) =
      ':' :: ' ' :: (datum e.2 ++ rest) :=
    rfl
  have hblank : skipSpace (' ' :: (datum e.2 ++ rest)) = datum e.2 ++ rest :=
    skipSpace_datum e.2 rest
  rw [readMember, hopen, htext]
  simp only [readString_append, Option.bind_eq_bind, Option.bind_some, hcolon, hblank,
    readDatum_append e.2 h]
  rfl

theorem readMembers_cons_blank (values : FieldValues) (s : List Char) :
    readMembers values (' ' :: s) = readMembers values s := by
  rw [readMembers.eq_def, readMembers.eq_def values s]
  rfl

/-- Members are read back one after another. -/
theorem readMembers_append (values : FieldValues) (e : String × Datum) (es : FieldValues)
    (rest : List Char) :
    readMembers values ([',', ' '].intercalate ((e :: es).map member) ++ '\x7d' :: rest) =
      some ((e :: es).foldl (fun values e => values.put e.1 e.2) values, rest) := by
  induction es generalizing values e with
  | nil =>
    have hmember : readMember (member e ++ '\x7d' :: rest) = some (e, '\x7d' :: rest) :=
      readMember_append e (stopsNumber_cons (by decide) _)
    rw [List.map_singleton, List.intercalate_singleton, readMembers_of_close hmember]
    rfl
  | cons e' es ih =>
    have hmember : readMember (member e ++ ',' :: ' ' ::
        ([',', ' '].intercalate ((e' :: es).map member) ++ '\x7d' :: rest)) = some (e, ',' :: ' ' ::
          ([',', ' '].intercalate ((e' :: es).map member) ++ '\x7d' :: rest)) :=
      readMember_append e (stopsNumber_cons (by decide) _)
    have hrest := ih (values.put e.1 e.2) e'
    rw [List.map_cons, List.map_cons, List.intercalate_cons_cons, ← List.map_cons]
    simp only [List.append_assoc, List.cons_append, List.nil_append]
    rw [readMembers_of_comma hmember, readMembers_cons_blank, hrest]
    rfl

/-- An object without a repeated name is read back as it was. -/
theorem read_object {values : FieldValues} (h : values.names.Nodup) :
    read (object values) = some values := by
  cases values with
  | nil => rfl
  | cons e es =>
    have hquote : ∃ t, [',', ' '].intercalate ((e :: es).map member) ++ ['\x7d'] = '"' :: t := by
      rw [List.map_cons]
      cases es.map member with
      | nil => exact ⟨_, congrArg (· ++ ['\x7d']) List.intercalate_singleton⟩
      | cons m ms => exact ⟨_, congrArg (· ++ ['\x7d']) List.intercalate_cons_cons⟩
    have hnames : (FieldValues.names ([] ++ e :: es)).Nodup := h
    have hmembers := readMembers_append [] e es []
    rw [FieldValues.foldl_put hnames, List.nil_append] at hmembers
    obtain ⟨t, ht⟩ := hquote
    rw [ht] at hmembers
    have hobject : readObject ('"' :: t) = some (e :: es, []) := hmembers
    rw [object, ht]
    show (readObject ('"' :: t)).bind _ = _
    rw [hobject]
    rfl

/-- The reader does not ask for the form that is written. -/
example : read "\t\x7b \"a\" :12,\"\\ud83d\\uDE00\\/\": \"x\\n\" ,\"a\":false \x7d ".toList =
    some [("a", .truth false), ("😀/", .text "x\n")] := by
  decide +kernel

/-! ## Printable characters

A line of JSON holds printable characters of ASCII only, whatever the field values hold. -/

/-- All characters are printable and in ASCII. -/
def IsPlain (s : List Char) : Prop :=
  ∀ c ∈ s, ' ' ≤ c ∧ c ≤ '~'

instance (s : List Char) : Decidable (IsPlain s) :=
  List.decidableBAll _ s

theorem isPlain_cons {c : Char} {s : List Char} :
    IsPlain (c :: s) ↔ (' ' ≤ c ∧ c ≤ '~') ∧ IsPlain s :=
  List.forall_mem_cons

theorem isPlain_append {s t : List Char} : IsPlain (s ++ t) ↔ IsPlain s ∧ IsPlain t :=
  List.forall_mem_append

theorem isPlain_hexText (width n : Nat) : IsPlain (hexText width n) := by
  have hdigit : ∀ k < 16, ' ' ≤ hexDigit k ∧ hexDigit k ≤ '~' := by decide
  induction width generalizing n with
  | zero => exact List.forall_mem_nil _
  | succ w ih =>
    rw [hexText, isPlain_append]
    exact ⟨ih (n / 16), List.forall_mem_singleton.2 (hdigit _ (Nat.mod_lt n (by decide)))⟩

theorem isPlain_unitEscape (n : Nat) : IsPlain (unitEscape n) :=
  isPlain_cons.2 ⟨by decide, isPlain_cons.2 ⟨by decide, isPlain_hexText 4 n⟩⟩

theorem isPlain_form {c : Char} {form : List Char} (h : Form c form) : IsPlain form := by
  cases h with
  | @escape e he h =>
    have hshown : ' ' ≤ e ∧ e ≤ '~' := by
      rw [escaped?.eq_def] at h
      split at h <;> cases h <;> decide
    exact isPlain_cons.2 ⟨by decide, List.forall_mem_singleton.2 hshown⟩
  | plain hquote hslash hlow hhigh => exact List.forall_mem_singleton.2 ⟨hlow, hhigh⟩
  | unit h => exact isPlain_unitEscape _
  | pair h => exact isPlain_append.2 ⟨isPlain_unitEscape _, isPlain_unitEscape _⟩

theorem isPlain_string (s : String) : IsPlain (string s) := by
  rw [string, isPlain_cons, isPlain_append]
  refine ⟨by decide, ?_, by decide⟩
  intro x hx
  obtain ⟨c, -, hc⟩ := List.mem_flatMap.1 hx
  exact isPlain_form (form_char c) x hc

theorem isPlain_datum (d : Datum) : IsPlain (datum d) := by
  cases d with
  | text s => exact isPlain_string s
  | number n =>
    intro c hc
    have hdigit := isAsciiDigit_of_mem_toDigits hc
    rw [Text.isAsciiDigit, Bool.and_eq_true, decide_eq_true_eq, decide_eq_true_eq] at hdigit
    exact ⟨Char.le_trans (by decide) hdigit.1, Char.le_trans hdigit.2 (by decide)⟩
  | truth b => cases b <;> decide

theorem isPlain_object (values : FieldValues) : IsPlain (object values) := by
  have hmember : ∀ e : String × Datum, IsPlain (member e) := by
    intro e
    rw [member, isPlain_append, isPlain_cons, isPlain_cons]
    exact ⟨isPlain_string e.1, by decide, by decide, isPlain_datum e.2⟩
  have hmembers : IsPlain ([',', ' '].intercalate (values.map member)) := by
    induction values with
    | nil => exact List.forall_mem_nil _
    | cons e es ih =>
      cases es with
      | nil =>
        rw [List.map_singleton, List.intercalate_singleton]
        exact hmember e
      | cons e' es =>
        rw [List.map_cons] at ih
        rw [List.map_cons, List.map_cons, List.intercalate_cons_cons, isPlain_append, isPlain_append]
        exact ⟨⟨hmember e, by decide⟩, ih⟩
  rw [object, isPlain_cons, isPlain_append]
  exact ⟨by decide, hmembers, by decide⟩

end JsonLine
end FieldPattern

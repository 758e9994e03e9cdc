import FieldPattern.JsonLine

/-!
# Reading lines of JSON

A line of JSON is read as an object whose members are texts, natural numbers and truth values; any
other text is refused. All of JSON's freedom in writing such an object is allowed: white space
between the lexemes, and every escape of a character. A string is read as units of sixteen bits
first, as its escapes give one unit each; two of them may spell one character. A name that occurs
twice keeps its first position and gets its last datum.
-/

namespace FieldPattern.JsonLine

/-! ## Units -/

/-- The units of sixteen bits that spell a character. -/
def units (c : Char) : List Nat :=
  if c.toNat < 0x10000 then [c.toNat]
  else [0xD800 + (c.toNat - 0x10000) / 0x400, 0xDC00 + (c.toNat - 0x10000) % 0x400]

/-- The unit begins a character of two units. -/
def leads (n : Nat) : Bool :=
  0xD800 ≤ n && n < 0xDC00

/-- The unit ends a character of two units. -/
def trails (n : Nat) : Bool :=
  0xDC00 ≤ n && n < 0xE000

/-- The characters that units spell, unless a unit of two has no partner. -/
def ofUnits : List Nat → Option (List Char)
  | [] => some []
  | [n] => if leads n || trails n then none else some [Char.ofNat n]
  | n :: k :: rest =>
    if leads n then
      if trails k then
        (ofUnits rest).map (Char.ofNat (0x10000 + (n - 0xD800) * 0x400 + (k - 0xDC00)) :: ·)
      else none
    else if trails n then none
    else (ofUnits (k :: rest)).map (Char.ofNat n :: ·)

/-! ## Strings -/

/-- The character that stands behind a backslash for another one, or for itself. -/
def escaped? : Char → Option Char
  | '"' => some '"'
  | '\\' => some '\\'
  | '/' => some '/'
  | 'b' => some '\x08'
  | 'f' => some '\x0c'
  | 'n' => some '\n'
  | 'r' => some '\r'
  | 't' => some '\t'
  | _ => none

/-- Units in front of what was read. -/
def prepend (us : List Nat) (found : Option (List Nat × List Char)) :
    Option (List Nat × List Char) :=
  found.map fun p => (us ++ p.1, p.2)

/-- The units of a string behind its opening quote, and the text behind its closing quote. -/
def readUnits : List Char → Option (List Nat × List Char)
  | [] => none
  | '"' :: r => some ([], r)
  | '\\' :: 'u' :: a :: b :: c :: d :: r =>
    (Text.hexNumber? [a, b, c, d]).bind fun n => prepend [n] (readUnits r)
  | '\\' :: e :: r => (escaped? e).bind fun c => prepend (units c) (readUnits r)
  | c :: r => if c < ' ' || c == '\\' then none else prepend (units c) (readUnits r)

/-- The string behind an opening quote, and the text behind it. -/
def readString (s : List Char) : Option (String × List Char) := do
  let (us, r) ← readUnits s
  let chars ← ofUnits us
  return (String.ofList chars, r)

/-! ## Objects -/

/-- White space between lexemes. -/
def isSpace (c : Char) : Bool :=
  c == ' ' || c == '\t' || c == '\n' || c == '\r'

/-- The text without the white space in front. -/
def skipSpace (s : List Char) : List Char :=
  s.dropWhile isSpace

/-- The natural number in front of a text. Only zero begins with the digit zero. -/
def readNumber (s : List Char) : Option (Nat × List Char) :=
  let digits := s.takeWhile Text.isAsciiDigit
  if digits.isEmpty || (digits.head? == some '0' && digits != ['0']) then none
  else some (numeralValue digits, s.drop digits.length)

/-- The datum in front of a text. -/
def readDatum : List Char → Option (Datum × List Char)
  | '"' :: r => (readString r).map fun p => (.text p.1, p.2)
  | 't' :: 'r' :: 'u' :: 'e' :: r => some (.truth true, r)
  | 'f' :: 'a' :: 'l' :: 's' :: 'e' :: r => some (.truth false, r)
  | s => (readNumber s).map fun p => (.number p.1, p.2)

/-- The member in front of a text. -/
def readMember (s : List Char) : Option ((String × Datum) × List Char) :=
  match skipSpace s with
  | '"' :: r => do
    let (name, r) ← readString r
    match skipSpace r with
    | ':' :: r => do
      let (d, r) ← readDatum (skipSpace r)
      return ((name, d), skipSpace r)
    | _ => none
  | _ => none

/-! ## Lengths

What is read is shorter, so reading one member after another ends. -/

theorem length_of_prepend {us vs : List Nat} {found : Option (List Nat × List Char)}
    {r : List Char} (h : prepend us found = some (vs, r)) : ∃ ws, found = some (ws, r) := by
  obtain ⟨p, hp, heq⟩ := Option.map_eq_some_iff.1 h
  cases heq
  exact ⟨p.1, hp⟩

theorem length_readUnits {s r : List Char} {us : List Nat} (h : readUnits s = some (us, r)) :
    r.length < s.length := by
  fun_induction readUnits s generalizing us with
  | case1 => cases h
  | case2 rest =>
    cases h
    exact Nat.lt_succ_self _
  | case3 a b c d rest ih =>
    obtain ⟨n, -, h⟩ := Option.bind_eq_some_iff.1 h
    obtain ⟨ws, h⟩ := length_of_prepend h
    have hlt := ih h
    simp only [List.length_cons]
    omega
  | case4 e rest _ ih =>
    obtain ⟨c, -, h⟩ := Option.bind_eq_some_iff.1 h
    obtain ⟨ws, h⟩ := length_of_prepend h
    have hlt := ih h
    simp only [List.length_cons]
    omega
  | case5 => cases h
  | case6 c rest _ _ _ _ ih =>
    obtain ⟨ws, h⟩ := length_of_prepend h
    have hlt := ih h
    simp only [List.length_cons]
    omega

theorem length_readString {s r : List Char} {t : String} (h : readString s = some (t, r)) :
    r.length < s.length := by
  obtain ⟨⟨us, rest⟩, hunits, h⟩ := Option.bind_eq_some_iff.1 h
  obtain ⟨chars, -, h⟩ := Option.bind_eq_some_iff.1 h
  cases h
  exact length_readUnits hunits

theorem length_skipSpace (s : List Char) : (skipSpace s).length ≤ s.length :=
  (List.dropWhile_sublist _).length_le

theorem length_readDatum {s r : List Char} {d : Datum} (h : readDatum s = some (d, r)) :
    r.length ≤ s.length := by
  rw [readDatum.eq_def] at h
  split at h
  · next rest =>
    obtain ⟨⟨t, rest'⟩, hstring, h⟩ := Option.map_eq_some_iff.1 h
    cases h
    rw [List.length_cons]
    exact Nat.le_succ_of_le (Nat.le_of_lt (length_readString hstring))
  · cases h
    simp only [List.length_cons]
    omega
  · cases h
    simp only [List.length_cons]
    omega
  · obtain ⟨⟨n, rest⟩, hnumber, h⟩ := Option.map_eq_some_iff.1 h
    cases h
    rw [readNumber] at hnumber
    split at hnumber
    · cases hnumber
    · cases hnumber
      rw [List.length_drop]
      omega

theorem length_readMember {s r : List Char} {e : String × Datum}
    (h : readMember s = some (e, r)) : r.length < s.length := by
  have hs := length_skipSpace s
  rw [readMember] at h
  split at h
  · next name hname =>
    obtain ⟨⟨t, behind⟩, hstring, h⟩ := Option.bind_eq_some_iff.1 h
    have hlt := length_readString hstring
    have hbehind := length_skipSpace behind
    dsimp only at h
    split at h
    · next after hafter =>
      obtain ⟨⟨d, rest⟩, hdatum, h⟩ := Option.bind_eq_some_iff.1 h
      cases h
      have hle := length_readDatum hdatum
      have hrest := length_skipSpace rest
      have hskip := length_skipSpace after
      rw [hname, List.length_cons] at hs
      rw [hafter, List.length_cons] at hbehind
      show (skipSpace rest).length < s.length
      omega
    · cases h
  · cases h

/-- The members of an object behind its opening brace or a comma, set one after another, and the
text behind its closing brace. -/
def readMembers (values : FieldValues) (s : List Char) : Option (FieldValues × List Char) :=
  match _hmember : readMember s with
  | some ((name, d), ',' :: r) => readMembers (values.put name d) r
  | some ((name, d), '\x7d' :: r) => some (values.put name d, r)
  | _ => none
termination_by s.length
decreasing_by
  have hlt := length_readMember _hmember
  rw [List.length_cons] at hlt
  omega

theorem readMembers_of_comma {values : FieldValues} {s r : List Char} {e : String × Datum}
    (h : readMember s = some (e, ',' :: r)) :
    readMembers values s = readMembers (values.put e.1 e.2) r := by
  rw [readMembers]
  split
  · next name d r' hmember =>
    rw [h] at hmember
    cases hmember
    rfl
  · next name d r' hmember =>
    rw [h] at hmember
    cases hmember
  · next hcomma _ => exact absurd h (hcomma e.1 e.2 r)

theorem readMembers_of_close {values : FieldValues} {s r : List Char} {e : String × Datum}
    (h : readMember s = some (e, '\x7d' :: r)) :
    readMembers values s = some (values.put e.1 e.2, r) := by
  rw [readMembers]
  split
  · next name d r' hmember =>
    rw [h] at hmember
    cases hmember
  · next name d r' hmember =>
    rw [h] at hmember
    cases hmember
    rfl
  · next _ hclose => exact absurd h (hclose e.1 e.2 r)

/-- The object behind an opening brace, and the text behind it. -/
def readObject (s : List Char) : Option (FieldValues × List Char) :=
  match skipSpace s with
  | '\x7d' :: r => some ([], r)
  | s => readMembers [] s

/-- The object that a text is. -/
def read (s : List Char) : Option FieldValues := do
  match skipSpace s with
  | '\x7b' :: r => do
    let (values, r) ← readObject r
    if (skipSpace r).isEmpty then return values else none
  | _ => none

end FieldPattern.JsonLine

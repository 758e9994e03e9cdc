import FieldPattern.Text.Digit

/-!
# Types of nodes

A tag gives the type of a node. A plain scalar without a tag has the type that its form suggests:
nothing, a truth value, a number, a date; anything else is a text. Two forms are marks for mappings:
`<<` merges another mapping and `=` stands for the mapping's own value. The signs of tags, anchors
and aliases, each by itself, have a type without values.
-/

namespace FieldPattern.Document

/-- The type of a node. -/
inductive Tag where
  | null
  | bool
  | int
  | float
  | timestamp
  | binary
  | str
  | merge
  | self
  | seq
  | map
  | set
  /-- A mapping that is a sequence of its entries. -/
  | omap
  /-- A sequence of pairs. -/
  | pairs
  /-- A tag that names no type with values. -/
  | unknown
  deriving Repr, DecidableEq

/-- A date and possibly a time as they are written. -/
structure Stamp where
  year : Nat
  month : Nat
  day : Nat
  /-- Hour, minute, second, and the digits of the fraction. -/
  time : Option (Nat × Nat × Nat × List Char)
  /-- The distance from universal time in seconds. -/
  offset : Option Int

namespace Form

open Text (isAsciiDigit)

/-- A digit or the underscore, which may group digits. -/
def isGrouped (c : Char) : Bool :=
  isAsciiDigit c || c == '_'

/-- Drops a sign. -/
def unsigned : List Char → List Char
  | '-' :: r | '+' :: r => r
  | s => s

/-- A text all of whose characters have a property, and which has at least one. -/
def isRun (p : Char → Bool) (s : List Char) : Bool :=
  !s.isEmpty && s.all p

/-- The parts of a text between colons. -/
def colonParts (s : List Char) : List (List Char) :=
  s.splitOn ':'

/-- A part of a number in base sixty after the first: one digit, or two below sixty. -/
def isSixtieth : List Char → Bool
  | [a] => isAsciiDigit a
  | [a, b] => '0' ≤ a && a ≤ '5' && isAsciiDigit b
  | _ => false

/-- The text is empty or is an exponent: a letter, a sign and digits. -/
def isExponent : List Char → Bool
  | [] => true
  | e :: sign :: r => (e == 'e' || e == 'E') && (sign == '+' || sign == '-') && isRun isAsciiDigit r
  | _ => false

/-- The digits after a decimal point and an exponent. -/
def isFraction (s : List Char) : Bool :=
  isExponent (s.dropWhile isGrouped)

/-- The form of a decimal integer: no leading zero but zero itself. -/
def isDecimal : List Char → Bool
  | ['0'] => true
  | c :: r => '1' ≤ c && c ≤ '9' && r.all isGrouped
  | [] => false

/-- The form of an integer. -/
def isInt (s : List Char) : Bool :=
  match unsigned s with
  | '0' :: 'b' :: r => isRun (fun c => c == '0' || c == '1' || c == '_') r
  | '0' :: 'x' :: r =>
    isRun (fun c => isGrouped c || ('a' ≤ c && c ≤ 'f') || ('A' ≤ c && c ≤ 'F')) r
  | r =>
    isDecimal r ||
      (match r with
       | '0' :: t => isRun (fun c => ('0' ≤ c && c ≤ '7') || c == '_') t
       | _ => false) ||
      (match colonParts r with
       | first :: parts@(_ :: _) => first != ['0'] && isDecimal first && parts.all isSixtieth
       | _ => false)

/-- The form of a fraction: it has a point, and an exponent has a sign. -/
def isFloat (s : List Char) : Bool :=
  let r := unsigned s
  let whole := r.takeWhile isGrouped
  let hasWhole := r.head?.any isAsciiDigit
  (match r.dropWhile isGrouped with
   | '.' :: t => hasWhole && isFraction t
   | ':' :: _ =>
     match (r.takeWhile (· != '.'), r.dropWhile (· != '.')) with
     | (sixty, '.' :: t) =>
       hasWhole && t.all isGrouped && ((colonParts sixty).drop 1).all isSixtieth &&
         (colonParts sixty).head? == some whole
     | _ => false
   | _ => false) ||
  (match s with
   | '.' :: t => t.head?.any isAsciiDigit && isFraction t
   | _ => false) ||
  [".inf", ".Inf", ".INF"].any (·.toList == r) || [".nan", ".NaN", ".NAN"].any (·.toList == s)

/-- The words for truth values, in lower case. -/
def truthWords : List (String × Bool) :=
  [("yes", true), ("no", false), ("true", true), ("false", false), ("on", true), ("off", false)]

/-- A word in lower case, with a capital, or in upper case. -/
def isCased (word : String) (s : List Char) : Bool :=
  let lower := word.toList
  let upper := lower.map Char.toUpper
  s == lower || s == upper || s == upper.take 1 ++ lower.drop 1

/-- The form of a truth value. -/
def isBool (s : List Char) : Bool :=
  truthWords.any fun w => isCased w.1 s

/-- The form of nothing. -/
def isNull (s : List Char) : Bool :=
  s.isEmpty || s == ['~'] || isCased "null" s

/-- Reads between `least` and `most` digits. -/
def digits? (least most : Nat) (s : List Char) : Option (Nat × List Char) :=
  let run := (s.take most).takeWhile isAsciiDigit
  if run.length < least then none
  else some (run.foldl (fun acc c => acc * 10 + (c.toNat - '0'.toNat)) 0, s.drop run.length)

/-- Reads one character. -/
def char? (c : Char) : List Char → Option (List Char)
  | d :: r => if c == d then some r else none
  | [] => none

/-- Spaces and tabs. -/
def skipSpaces (s : List Char) : List Char :=
  s.dropWhile fun c => c == ' ' || c == '\t'

/-- What separates a date from a time: the letter T or spaces. -/
def dateTimeGap? : List Char → Option (List Char)
  | 'T' :: r | 't' :: r => some r
  | c :: r => if c == ' ' || c == '\t' then some (skipSpaces r) else none
  | [] => none

/-- The distance from universal time that ends a moment. -/
def offset? (s : List Char) : Option (Option Int) :=
  match skipSpaces s with
  | [] => if s.isEmpty then some none else none
  | ['Z'] => some (some 0)
  | sign :: r =>
    if sign == '+' || sign == '-' then do
      let (hours, rest) ← digits? 1 2 r
      let minutes ←
        match rest with
        | [] => some 0
        | ':' :: t =>
          match digits? 2 2 t with
          | some (m, []) => some m
          | _ => none
        | _ => none
      let seconds : Int := hours * 3600 + minutes * 60
      some (some (if sign == '-' then -seconds else seconds))
    else none

/-- The fraction of a second, if one follows a point. -/
def secondFraction : List Char → List Char × List Char
  | '.' :: r => (r.takeWhile isAsciiDigit, r.dropWhile isAsciiDigit)
  | s => ([], s)

/-- Reads a date and possibly a time. -/
def stamp? (s : List Char) : Option Stamp := do
  let (year, s) ← digits? 4 4 s
  let s ← char? '-' s
  let (month, s) ← digits? 1 2 s
  let s ← char? '-' s
  let (day, s) ← digits? 1 2 s
  if s.isEmpty then return ⟨year, month, day, none, none⟩
  let s ← dateTimeGap? s
  let (hour, s) ← digits? 1 2 s
  let s ← char? ':' s
  let (minute, s) ← digits? 2 2 s
  let s ← char? ':' s
  let (second, s) ← digits? 2 2 s
  let (fraction, s) := secondFraction s
  let offset ← offset? s
  return ⟨year, month, day, some (hour, minute, second, fraction), offset⟩

/-- The form of a date or moment: a date alone has two digits for month and day. -/
def isTimestamp (s : List Char) : Bool :=
  match stamp? s with
  | some stamp => stamp.time.isSome || s.length == 10
  | none => false

end Form

/-- A line feed at the very end of a text does not count for its form. -/
def withoutFinalBreak (s : List Char) : List Char :=
  if s.length > 1 && s.getLast? == some '\n' then s.dropLast else s

namespace Tag

/-- The type that the form of a plain scalar suggests. -/
def ofForm (text : List Char) : Tag :=
  let s := withoutFinalBreak text
  if Form.isBool s then .bool
  else if Form.isFloat s then .float
  else if Form.isInt s then .int
  else if s == ['<', '<'] then .merge
  else if Form.isNull s then .null
  else if Form.isTimestamp s then .timestamp
  else if s == ['='] then .self
  else if s == ['!'] || s == ['&'] || s == ['*'] then .unknown
  else .str

/-- The beginning of the tags of the types. -/
def typePrefix : String := "tag:yaml.org,2002:"

/-- The names of the types. -/
def typeNames : List (String × Tag) :=
  [("null", .null), ("bool", .bool), ("int", .int), ("float", .float), ("timestamp", .timestamp),
   ("binary", .binary), ("str", .str), ("merge", .merge), ("value", .self), ("seq", .seq),
   ("map", .map), ("set", .set), ("omap", .omap), ("pairs", .pairs)]

/-- The type that a tag in full names. -/
def ofText (text : List Char) : Tag :=
  ((typeNames.find? fun n => (typePrefix ++ n.1).toList == text).map (·.2)).getD .unknown

end Tag

end FieldPattern.Document

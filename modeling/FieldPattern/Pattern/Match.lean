import FieldPattern.Pattern.Atom
import FieldPattern.Text.SameLetter
import FieldPattern.Text.Word

/-!
# Matching

A *decomposition* of a text by a pattern cuts a beginning of the text into one piece per atom. Each
atom lists the pieces that it may match, in the order in which they are tried, and the first choice
that lets the remaining atoms match is taken. Thus the decomposition found is the first one
in the lexicographic order of the choices.

Searching tries every start from the left. The scan for all occurrences continues at the end of an
occurrence; after an empty one it tries the same place again for a non-empty one before it moves on.
-/

namespace FieldPattern

/-- How characters are compared and classified. -/
structure Flags where
  /-- Letters match regardless of case. -/
  ignoreCase : Bool := false
  /-- A text capture may cross line ends. -/
  dotAll : Bool := false
  /-- Words, blanks and letters with a case are those of ASCII. -/
  ascii : Bool := false
  deriving Repr, DecidableEq

namespace Flags

/-- The fixed character `c` matches `d`. -/
def same (f : Flags) (c d : Char) : Bool :=
  if f.ignoreCase then (if f.ascii then Text.sameAsciiLetter c d else Text.sameLetter c d)
  else c == d

@[simp] theorem same_refl (f : Flags) (c : Char) : f.same c c = true := by
  unfold same
  split
  · split
    · exact Text.sameAsciiLetter_refl c
    · exact Text.sameLetter_refl c
  · exact beq_self_eq_true c

/-- A word character. -/
def isWord (f : Flags) (c : Char) : Bool :=
  if f.ascii then Text.isAsciiWordChar c else Text.isWordChar c

/-- A blank. -/
def isBlank (f : Flags) (c : Char) : Bool :=
  if f.ascii then Text.isAsciiBlank c else Text.isBlank c

/-- A character that a text capture may hold. -/
def isText (f : Flags) (c : Char) : Bool :=
  f.dotAll || c != '\n'

end Flags

/-- A possible piece at the head of a text: its length and the text after it. -/
structure Choice where
  length : Nat
  rest : List Char
  deriving Repr, DecidableEq

/-- The pieces that are one or more characters with a property, shortest first; `n` characters were
taken before. -/
def runChoices (p : Char → Bool) (n : Nat) : List Char → List Choice
  | [] => []
  | c :: r => if p c then ⟨n + 1, r⟩ :: runChoices p (n + 1) r else []

namespace Atom

/-- The pieces that the atom may match at the head of a text, in the order of preference. -/
def choices (f : Flags) : Atom → List Char → List Choice
  | literal _, [] => []
  | literal c, d :: r => if f.same c d then [⟨1, r⟩] else []
  | blanks, s => (runChoices f.isBlank 0 s).reverse
  | word, s => (runChoices f.isWord 0 s).reverse
  | shortText, s => ⟨0, s⟩ :: runChoices f.isText 0 s
  | longText, s => (runChoices f.isText 0 s).reverse ++ [⟨0, s⟩]

end Atom

namespace Pattern

/-- The most preferred decomposition of a beginning of `s`, one piece per atom. If `mustMove` is set
the pieces may not all be empty. -/
def decompose? (f : Flags) : (mustMove : Bool) → Pattern → List Char → Option (List (List Char))
  | mustMove, [], _ => if mustMove then none else some []
  | mustMove, a :: rest, s =>
    (a.choices f s).findSome? fun choice =>
      (decompose? f (mustMove && choice.length == 0) rest choice.rest).map
        (s.take choice.length :: ·)

/-- The pieces that captures hold. -/
def captures : Pattern → List (List Char) → List (List Char)
  | a :: rest, piece :: pieces =>
    if a.isCapture then piece :: captures rest pieces else captures rest pieces
  | _, _ => []

end Pattern

/-- An occurrence of a pattern in a text: its offsets and what its captures hold. -/
structure Occurrence where
  captures : List (List Char)
  start : Nat
  stop : Nat
  deriving Repr, DecidableEq

namespace Occurrence

/-- The occurrence that a decomposition at an offset describes. -/
def ofPieces (p : Pattern) (start : Nat) (pieces : List (List Char)) : Occurrence :=
  ⟨p.captures pieces, start, start + pieces.flatten.length⟩

/-- The number of characters of the occurrence. -/
def length (o : Occurrence) : Nat :=
  o.stop - o.start

end Occurrence

namespace Pattern

/-- The occurrence that starts at the head of a text, whose offset is `start`. -/
def occursAt? (f : Flags) (mustMove : Bool) (p : Pattern) (start : Nat) (s : List Char) :
    Option Occurrence :=
  (decompose? f mustMove p s).map (Occurrence.ofPieces p start)

/-- The first occurrence in a text whose offset is `start`. -/
def searchFrom? (f : Flags) (p : Pattern) (start : Nat) : List Char → Option Occurrence
  | [] => occursAt? f false p start []
  | c :: r => (occursAt? f false p start (c :: r)).orElse fun _ => searchFrom? f p (start + 1) r

/-- The first occurrence in a text. -/
def search? (f : Flags) (p : Pattern) (s : List Char) : Option Occurrence :=
  searchFrom? f p 0 s

/-- The occurrences that the scan reports at one place: an empty one may be followed by a non-empty
one. -/
def occurrencesAt (f : Flags) (p : Pattern) (start : Nat) (s : List Char) : List Occurrence :=
  match occursAt? f false p start s with
  | none => []
  | some o =>
    if o.length == 0 then o :: (occursAt? f true p start s).toList else [o]

/-- The number of characters that occurrences at one place cover. -/
def covered : List Occurrence → Nat
  | [] => 0
  | o :: rest => o.length + covered rest

/-- All occurrences in a text whose offset is `start`, the first `skip` characters of which belong
to an occurrence that was reported. -/
def scanFrom (f : Flags) (p : Pattern) : (skip start : Nat) → List Char → List Occurrence
  | _, start, [] => occurrencesAt f p start []
  | skip + 1, start, _ :: r => scanFrom f p skip (start + 1) r
  | 0, start, c :: r =>
    let here := occurrencesAt f p start (c :: r)
    here ++ scanFrom f p (covered here - 1) (start + 1) r

/-- All occurrences in a text, from left to right. -/
def findAll (f : Flags) (p : Pattern) (s : List Char) : List Occurrence :=
  scanFrom f p 0 0 s

end Pattern

end FieldPattern

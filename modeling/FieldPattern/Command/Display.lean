/-!
# Texts for display

A text that goes to an output other than a terminal loses the control sequences of terminals. A
control sequence begins with an escape character and a bracket; parameters and intermediate
characters follow, and a final character ends it. What remains is not looked at again.
-/

namespace FieldPattern.Command.Display

/-- The number of characters of the control sequence that a text begins with; zero for none. -/
def sequenceLength : List Char → Nat
  | '\x1b' :: '[' :: r =>
    let parameters := r.takeWhile fun c => '0' ≤ c && c ≤ '?'
    let rest := r.drop parameters.length
    let between := rest.takeWhile fun c => ' ' ≤ c && c ≤ '/'
    match rest.drop between.length with
    | c :: _ => if '@' ≤ c && c ≤ '~' then parameters.length + between.length + 3 else 0
    | [] => 0
  | _ => 0

/-- The rest of a text without control sequences, after `skip` characters of one. -/
def dropSequences : (skip : Nat) → List Char → List Char
  | _, [] => []
  | skip + 1, _ :: r => dropSequences skip r
  | 0, c :: r =>
    match sequenceLength (c :: r) with
    | 0 => c :: dropSequences 0 r
    | n + 1 => dropSequences n r

/-- The text without control sequences. -/
def plain (s : String) : String :=
  String.ofList (dropSequences 0 s.toList)

/-- A carriage return before a line feed is left out. -/
def dropReturns : List Char → List Char
  | '\r' :: '\n' :: r => '\n' :: dropReturns r
  | c :: r => c :: dropReturns r
  | [] => []

/-- The text with line ends of one character where there were two. -/
def joinLineEnds (s : String) : String :=
  String.ofList (dropReturns s.toList)

end FieldPattern.Command.Display

import FieldPattern.Document.Cursor

/-!
# Scalars

A scalar is written in one of four styles: plain, in single quotes, in double quotes with escapes,
or as an indented block that keeps or folds its lines. In all of them but the block that keeps its
lines, a single line end inside the scalar counts as a space and further ones stay.
-/

namespace FieldPattern.Document.Reading

/-! ## Quoted scalars -/

/-- Line ends and the spaces around them, inside a quoted scalar. -/
def quotedBreaks : (fuel : Nat) → Reading (List Char)
  | 0 => return []
  | fuel + 1 => do
    require (!(← atSeparator))
    skipWhile isSpaceOrTab
    match ← lineBreak with
    | [] => return []
    | b => return b ++ (← quotedBreaks fuel)

/-- A line end folded together with the empty lines after it. -/
def folded (lineEnd further : List Char) : List Char :=
  if lineEnd != ['\n'] then lineEnd ++ further
  else if further.isEmpty then [' ']
  else further

/-- A run of spaces inside a quoted scalar: kept within a line, folded with line ends. -/
def quotedSpaces : Reading (List Char) := do
  let spaces ← takeWhile isSpaceOrTab
  require (← peek).isSome
  match ← lineBreak with
  | [] => return spaces
  | b => return folded b (← quotedBreaks (← bound))

/-- The character of a one-letter escape. -/
def escapeChar? : Char → Option Char
  | '0' => some '\x00'
  | 'a' => some '\x07'
  | 'b' => some '\x08'
  | 't' | '\t' => some '\t'
  | 'n' => some '\n'
  | 'v' => some '\x0b'
  | 'f' => some '\x0c'
  | 'r' => some '\r'
  | 'e' => some '\x1b'
  | ' ' => some ' '
  | '"' => some '"'
  | '\\' => some '\\'
  | '/' => some '/'
  | 'N' => some '\u0085'
  | '_' => some '\u00a0'
  | 'L' => some '\u2028'
  | 'P' => some '\u2029'
  | _ => none

/-- The number of hexadecimal digits of a code point escape. -/
def escapeWidth? : Char → Option Nat
  | 'x' => some 2
  | 'u' => some 4
  | 'U' => some 8
  | _ => none

/-- What an escape stands for; an escaped line end stands for nothing. -/
def escaped : Reading (List Char) := do
  forward 1
  let some c ← peek | throw .malformed
  if let some d := escapeChar? c then
    forward 1
    return [d]
  else if let some width := escapeWidth? c then
    forward 1
    let n ← hexNumber width
    if 0x80000000 ≤ n then throw .characterOverflow
    if 0x110000 ≤ n then throw .noSuchCharacter
    if !n.isValidChar then throw .surrogate
    forward width
    return [Char.ofNat n]
  else if isBreak c then
    let _ ← lineBreak
    quotedBreaks (← bound)
  else throw .malformed

/-- A character that ends a run inside a quoted scalar. -/
def endsQuotedRun (c : Char) : Bool :=
  c == '\'' || c == '"' || c == '\\' || isSpaceOrTab c || isBreak c

/-- The part of a quoted scalar up to the next space, line end or closing quote. -/
def quotedWord (double : Bool) : (fuel : Nat) → Reading (List Char)
  | 0 => return []
  | fuel + 1 => do
    let run ← takeWhile (!endsQuotedRun ·)
    match ← peek with
    | some '\'' =>
      if double then
        forward 1
        return run ++ '\'' :: (← quotedWord double fuel)
      else if (← ahead 1) == some '\'' then
        forward 2
        return run ++ '\'' :: (← quotedWord double fuel)
      else return run
    | some '"' =>
      if double then return run
      else
        forward 1
        return run ++ '"' :: (← quotedWord double fuel)
    | some '\\' =>
      if double then
        let chars ← escaped
        return run ++ chars ++ (← quotedWord double fuel)
      else
        forward 1
        return run ++ '\\' :: (← quotedWord double fuel)
    | _ => return run

/-- The words of a quoted scalar up to its closing quote, and the spaces between them. -/
def quotedTail (double : Bool) : (fuel : Nat) → Reading (List Char)
  | 0 => throw .malformed
  | fuel + 1 => do
    if (← peek) == some (if double then '"' else '\'') then return []
    else
      let spaces ← quotedSpaces
      let word ← quotedWord double (← bound)
      return spaces ++ word ++ (← quotedTail double fuel)

/-- A quoted scalar. -/
def quoted (double : Bool) : Reading (List Char) := do
  forward 1
  let word ← quotedWord double (← bound)
  let tail ← quotedTail double (← bound)
  forward 1
  return word ++ tail

/-! ## Plain scalars -/

/-- The place is inside a flow collection, or a plain scalar could not go on there for another
reason: the length of the longest run of characters that a plain scalar may hold. -/
def plainRun (flow : Bool) : List Char → Nat
  | [] => 0
  | c :: r =>
    if isSpaceOrTab c || isBreak c then 0
    else if c == ':' && (endsWord r.head? ||
        (flow && (r.head?.any fun d => [',', '[', ']', '\x7b', '\x7d'].contains d))) then 0
    else if flow && [',', '?', '[', ']', '\x7b', '\x7d'].contains c then 0
    else plainRun flow r + 1

/-- Empty lines between the lines of a plain scalar; `none` if a document separator follows one. -/
def plainBreaks : (fuel : Nat) → Reading (Option (List Char))
  | 0 => return some []
  | fuel + 1 => do
    skipWhile (· == ' ')
    match ← lineBreak with
    | [] => return some []
    | b =>
      if ← atSeparator then return none
      else return (← plainBreaks fuel).map (b ++ ·)

/-- What stands between two runs of a plain scalar. -/
structure PlainSpaces where
  text : List Char
  /-- A line ended. -/
  newLine : Bool

/-- The spaces after a run of a plain scalar; no text means that the scalar ends here. -/
def plainSpaces : Reading PlainSpaces := do
  let spaces ← takeWhile (· == ' ')
  match ← lineBreak with
  | [] => return ⟨spaces, false⟩
  | b =>
    if ← atSeparator then return ⟨[], true⟩
    else
      match ← plainBreaks (← bound) with
      | none => return ⟨[], true⟩
      | some further => return ⟨folded b further, true⟩

/-- A plain scalar. -/
structure Plain where
  text : List Char
  /-- The spaces that were read after the last run crossed a line end. -/
  newLine : Bool

/-- The runs of a plain scalar with the spaces between them, after some spaces that may have crossed
a line end. Outside flow collections its lines are indented by at least `indent`. -/
def plainRuns (flow : Bool) (indent : Int) : (fuel : Nat) → (before : PlainSpaces) → Reading Plain
  | 0, before => return ⟨[], before.newLine⟩
  | fuel + 1, before => do
    if (← peek) == some '#' then return ⟨[], before.newLine⟩
    let n := plainRun flow (← get).rest
    if (← ahead n) == some ':' then let _ ← ahead (n + 1)
    if n == 0 then return ⟨[], before.newLine⟩
    let run ← look n
    forward n
    let after ← plainSpaces
    let column : Int := (← get).column
    if after.text.isEmpty || (← peek) == some '#' || (!flow && column < indent) then
      return ⟨before.text ++ run, after.newLine⟩
    else
      let further ← plainRuns flow indent fuel after
      return { further with text := before.text ++ run ++ further.text }

/-- A plain scalar. -/
def plain (flow : Bool) (indent : Int) : Reading Plain := do
  plainRuns flow indent (← bound) ⟨[], false⟩

/-! ## Block scalars -/

/-- What happens to the line ends at the end of a block scalar. -/
inductive Chomping where
  | strip
  | clip
  | keep
  deriving Repr, DecidableEq

/-- The chomping sign, if one follows. -/
def chompingSign? : Reading (Option Chomping) := do
  match ← peek with
  | some '+' => forward 1; return some .keep
  | some '-' => forward 1; return some .strip
  | _ => return none

/-- The indentation digit, if one follows; it is not zero. -/
def indentDigit? : Reading (Option Nat) := do
  match ← peek with
  | some c =>
    if '0' ≤ c && c ≤ '9' then
      require (c != '0')
      forward 1
      return some (c.toNat - '0'.toNat)
    else return none
  | none => return none

/-- The signs after the mark of a block scalar, in either order. -/
def blockSigns : Reading (Chomping × Option Nat) := do
  let signs ← do
    match ← chompingSign? with
    | some chomping => pure (chomping, ← indentDigit?)
    | none =>
      match ← indentDigit? with
      | some n => pure ((← chompingSign?).getD .clip, some n)
      | none => pure (.clip, none)
  require (endsItem (← peek))
  return signs

/-- Leading empty lines of a block scalar, and the greatest column that their spaces reach. -/
def leadingLines : (fuel : Nat) → (column : Nat) → Reading (List Char × Nat)
  | 0, column => return ([], column)
  | fuel + 1, column => do
    if (← peek) == some ' ' then
      forward 1
      leadingLines fuel (max column (← get).column)
    else
      match ← lineBreak with
      | [] => return ([], column)
      | b =>
        let (more, widest) ← leadingLines fuel column
        return (b ++ more, widest)

/-- Moves to a column, but only past spaces. -/
def indentTo (column : Nat) : Reading Unit := do
  let c ← get
  forward ((c.rest.take (column - c.column)).takeWhile (· == ' ')).length

/-- Empty lines inside a block scalar of some indentation. -/
def blockBreaks (indent : Nat) : (fuel : Nat) → Reading (List Char)
  | 0 => return []
  | fuel + 1 => do
    indentTo indent
    match ← lineBreak with
    | [] => return []
    | b => return b ++ (← blockBreaks indent fuel)

/-- A line of a block scalar follows. -/
def atBlockLine (indent : Nat) : Reading Bool := do
  if (← get).column == indent then return (← peek).isSome
  else return false

/-- The lines of a block scalar, and the line ends after the last one: its own and those of empty
lines. -/
def blockLines (fold : Bool) (indent : Nat) : (fuel : Nat) → (breaks : List Char) →
    Reading (List Char × List Char × List Char)
  | 0, breaks => return ([], [], breaks)
  | fuel + 1, breaks => do
    let flush := !((← peek).any isSpaceOrTab)
    let line ← takeWhile (!isBreak ·)
    let lineEnd ← lineBreak
    let further ← blockBreaks indent (← bound)
    if ← atBlockLine indent then
      let joint :=
        if fold && lineEnd == ['\n'] && flush && !((← peek).any isSpaceOrTab) then
          if further.isEmpty then [' '] else []
        else lineEnd
      let (text, tail) ← blockLines fold indent fuel further
      return (breaks ++ line ++ joint ++ text, tail)
    else return (breaks ++ line, lineEnd, further)

/-- A block scalar inside a collection indented by `parent`. -/
def block (fold : Bool) (parent : Int) : Reading (List Char) := do
  forward 1
  let (chomping, digit) ← blockSigns
  restOfLine
  let least := (max (parent + 1) 1).toNat
  let fuel ← bound
  let (breaks, indent) ←
    match digit with
    | some n => do
      let indent := least + n - 1
      pure (← blockBreaks indent fuel, indent)
    | none => do
      let (breaks, widest) ← leadingLines fuel 0
      pure (breaks, max least widest)
  let (text, lineEnd, further) ←
    if ← atBlockLine indent then blockLines fold indent fuel breaks else pure ([], [], breaks)
  return text ++ (if chomping == .strip then [] else lineEnd) ++
    (if chomping == .keep then further else [])

end FieldPattern.Document.Reading

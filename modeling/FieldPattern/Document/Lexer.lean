import FieldPattern.Document.Property
import FieldPattern.Document.Scalar

/-!
# Cutting a document into lexemes

Indentation opens and closes block collections, so the lexer keeps the columns of the open ones.
In a mapping the key of an entry is known as a key only when its colon is read: until then every
node that may be a key is remembered with the position of its first lexeme, one per depth of flow
collections, and the key mark is put there afterwards. Such a key lies on one line and is not
longer than 1024 characters.

A lexeme is *settled* when no key mark can be put before it any more. If the text cannot be cut
further, a reader of the lexemes notices it when it asks for a lexeme that was not settled before
the failure, so those are withheld.
-/

namespace FieldPattern.Document

/-- A node that may turn out to be a key. -/
structure PendingKey where
  /-- The depth of flow collections at which it stands. -/
  depth : Nat
  /-- The number of lexemes before it. -/
  position : Nat
  /-- Nothing but a key can stand there. -/
  required : Bool
  index : Nat
  line : Nat
  column : Nat

/-- The state of the lexer. -/
structure Lexer where
  cursor : Cursor
  lexemes : Array Lexeme := #[]
  /-- The number of open flow collections. -/
  depth : Nat := 0
  /-- The column of the innermost open block collection. -/
  indent : Int := -1
  /-- The columns of the other open block collections, inner ones first. -/
  outer : List Int := []
  /-- A key may start at the next node. -/
  keyAllowed : Bool := true
  pending : List PendingKey := []
  /-- The number of settled lexemes. -/
  settled : Nat := 0

/-- A computation of the lexer. What was read stays when it stops. -/
abbrev Lexing := ExceptT Fault (StateM Lexer)

namespace Lexing

/-- Runs a reading at the lexer's place. -/
def read {α : Type} (r : Reading α) : Lexing α := do
  match r.run (← get).cursor with
  | .ok (x, cursor) =>
    modify fun l => { l with cursor := cursor }
    return x
  | .error fault => throw fault

/-- Adds a lexeme. -/
def emit (x : Lexeme) : Lexing Unit :=
  modify fun l => { l with lexemes := l.lexemes.push x }

/-- Reads a mark of some characters. -/
def emitMark (length : Nat) (x : Lexeme) : Lexing Unit := do
  read (Reading.forward length)
  emit x

/-- Allows or forbids a key at the next node. -/
def allowKey (b : Bool) : Lexing Unit :=
  modify fun l => { l with keyAllowed := b }

/-- The place is outside all flow collections. -/
def inBlock : Lexing Bool := do
  return (← get).depth == 0

/-! ## Indentation -/

/-- Closes the block collections that are indented further than a column; `fuel` is at least their
number. -/
def closeTo (column : Int) : (fuel : Nat) → Lexing Unit
  | 0 => return ()
  | fuel + 1 => do
    let l ← get
    if column < l.indent then
      modify fun l => { l with indent := l.outer.head?.getD (-1), outer := l.outer.tail }
      emit .dedent
      closeTo column fuel

/-- Ends the block collections that the column leaves. In flow collections columns mean nothing. -/
def unwind (column : Int) : Lexing Unit := do
  if ← inBlock then closeTo column ((← get).outer.length + 1)

/-- Opens a block collection at a column, unless one is open there: whether it did. -/
def openAt (column : Nat) : Lexing Bool := do
  let l ← get
  if l.indent < (column : Int) then
    set { l with indent := column, outer := l.indent :: l.outer }
    return true
  else return false

/-! ## Keys -/

/-- Forgets the pending key of the current depth, which must not be a required one. -/
def dropKey : Lexing Unit := do
  let l ← get
  match l.pending.find? (·.depth == l.depth) with
  | some k =>
    if k.required then throw .malformed
    set { l with pending := l.pending.filter (·.depth != l.depth) }
  | none => return ()

/-- Remembers that the next node may be a key. -/
def offerKey : Lexing Unit := do
  if (← get).keyAllowed then
    dropKey
    let l ← get
    let c := l.cursor
    let required := l.depth == 0 && l.indent == (c.column : Int)
    let key : PendingKey := ⟨l.depth, l.lexemes.size, required, c.index, c.line, c.column⟩
    set { l with pending := key :: l.pending }

/-- A pending key that has become too long or whose line has ended. -/
def isStale (c : Cursor) (k : PendingKey) : Bool :=
  k.line != c.line || 1024 < c.index - k.index

/-- Forgets stale keys, none of which may be required. -/
def dropStaleKeys : Lexing Unit := do
  let l ← get
  if l.pending.any fun k => k.required && isStale l.cursor k then throw .malformed
  set { l with pending := l.pending.filter (!isStale l.cursor ·) }

/-- Puts a lexeme in front of those from a position on. -/
def insertAt (position : Nat) (x : Lexeme) : Lexing Unit :=
  modify fun l => { l with lexemes := l.lexemes.insertIdxIfInBounds position x }

/-! ## Lexemes -/

/-- Moves past spaces, comments and line ends to the next lexeme; `fuel` is at least the number of
lines. -/
def skipToLexeme : (fuel : Nat) → Lexing Unit
  | 0 => return ()
  | fuel + 1 => do
    read (Reading.skipWhile (· == ' '))
    if (← read Reading.peek) == some '#' then read (Reading.skipWhile (!isBreak ·))
    match ← read Reading.lineBreak with
    | [] => return ()
    | _ => do
      if ← inBlock then allowKey true
      skipToLexeme fuel

/-- A line that belongs to no document ends all collections. -/
def leaveBlocks : Lexing Unit := do
  unwind (-1)
  dropKey
  allowKey false

/-- The start of a flow collection. -/
def openFlow (x : Lexeme) : Lexing Unit := do
  offerKey
  modify fun l => { l with depth := l.depth + 1 }
  allowKey true
  emitMark 1 x

/-- The end of a flow collection. -/
def closeFlow (x : Lexeme) : Lexing Unit := do
  dropKey
  modify fun l => { l with depth := l.depth - 1 }
  allowKey false
  emitMark 1 x

/-- The comma of a flow collection. -/
def flowComma : Lexing Unit := do
  allowKey true
  dropKey
  emitMark 1 .comma

/-- The dash of a block sequence. -/
def blockEntry : Lexing Unit := do
  if ← inBlock then
    if !(← get).keyAllowed then throw .malformed
    if ← openAt (← get).cursor.column then emit .sequenceIndent
  allowKey true
  dropKey
  emitMark 1 .entry

/-- The question mark before a key. -/
def explicitKey : Lexing Unit := do
  if ← inBlock then
    if !(← get).keyAllowed then throw .malformed
    if ← openAt (← get).cursor.column then emit .mappingIndent
  allowKey (← inBlock)
  dropKey
  emitMark 1 .key

/-- The colon before a value: it makes the pending node of this depth a key. -/
def mappingValue : Lexing Unit := do
  let l ← get
  match l.pending.find? (·.depth == l.depth) with
  | some k =>
    set { l with pending := l.pending.filter (·.depth != l.depth) }
    insertAt k.position .key
    if ← inBlock then
      if ← openAt k.column then insertAt k.position .mappingIndent
    allowKey false
  | none =>
    if ← inBlock then
      if !(← get).keyAllowed then throw .malformed
      if ← openAt (← get).cursor.column then emit .mappingIndent
    allowKey (← inBlock)
    dropKey
  emitMark 1 .value

/-- A lexeme that may begin a key and after which no key may begin. -/
def node (r : Reading Lexeme) : Lexing Unit := do
  offerKey
  allowKey false
  emit (← read r)

/-- A block scalar. -/
def blockScalar (fold : Bool) : Lexing Unit := do
  allowKey true
  dropKey
  let text ← read (Reading.block fold (← get).indent)
  emit (.scalar text false)

/-- A plain scalar. A key may begin after it if it ended with its line. -/
def plainScalar : Lexing Unit := do
  offerKey
  allowKey false
  let l ← get
  let p ← read (Reading.plain (l.depth != 0) (l.indent + 1))
  allowKey p.newLine
  emit (.scalar p.text true)

/-- A character that begins no plain scalar, whatever follows. -/
def isIndicator (c : Char) : Bool :=
  isSpaceOrTab c || isBreak c ||
    ['-', '?', ':', ',', '[', ']', '\x7b', '\x7d', '#', '&', '*', '!', '|', '>', '\'', '"', '%',
     '@', '\x60'].contains c

/-- A plain scalar can begin with `c` before `d`. -/
def beginsPlain (inBlock : Bool) (c : Char) (d : Option Char) : Bool :=
  !isIndicator c || (!endsWord d && (c == '-' || (inBlock && (c == '?' || c == ':'))))

/-- A line that separates documents begins here. -/
def atDocumentMark (sign : Char) : Reading Bool := do
  if (← get).column == 0 && (← Reading.peek) == some sign then
    if (← Reading.look 3) == [sign, sign, sign] then return endsWord (← Reading.ahead 3)
    else return false
  else return false

/-- Reads the lexeme that begins with `c`. -/
def lexeme (c : Char) : Lexing Unit := do
  let d ← read (Reading.ahead 1)
  let block ← inBlock
  if c == '%' && (← get).cursor.column == 0 then
    leaveBlocks
    emit (.directive (← read Reading.directive))
  else if ← read (atDocumentMark '-') then
    leaveBlocks
    emitMark 3 .documentStart
  else if ← read (atDocumentMark '.') then
    leaveBlocks
    emitMark 3 .documentEnd
  else if c == '[' then openFlow .openSequence
  else if c == '\x7b' then openFlow .openMapping
  else if c == ']' then closeFlow .closeSequence
  else if c == '\x7d' then closeFlow .closeMapping
  else if c == ',' then flowComma
  else if c == '-' && endsWord d then blockEntry
  else if c == '?' && (!block || endsWord d) then explicitKey
  else if c == ':' && (!block || endsWord d) then mappingValue
  else if c == '*' then node (Lexeme.alias <$> Reading.anchorName)
  else if c == '&' then node (Lexeme.anchor <$> Reading.anchorName)
  else if c == '!' then node ((fun t => Lexeme.tag t.1 t.2) <$> Reading.tag)
  else if c == '|' && block then blockScalar false
  else if c == '>' && block then blockScalar true
  else if c == '\'' then node ((Lexeme.scalar · false) <$> Reading.quoted false)
  else if c == '"' then node ((Lexeme.scalar · false) <$> Reading.quoted true)
  else if beginsPlain block c d then plainScalar
  else throw .malformed

/-- Reads the next lexeme with the marks of indentation before it: whether there was one. -/
def step : Lexing Bool := do
  skipToLexeme (← get).cursor.bound
  dropStaleKeys
  unwind (← get).cursor.column
  match ← read Reading.peek with
  | some c =>
    lexeme c
    return true
  | none =>
    unwind (-1)
    dropKey
    modify fun l => { l with pending := [] }
    return false

/-- Settles the lexemes before the first pending key. -/
def settle : Lexing Unit := do
  dropStaleKeys
  modify fun l =>
    { l with settled := l.pending.foldl (fun n k => min n k.position) l.lexemes.size }

/-- Reads all lexemes; `fuel` exceeds their number. -/
def all : (fuel : Nat) → Lexing Unit
  | 0 => return ()
  | fuel + 1 => do
    settle
    if ← step then all fuel

end Lexing

/-- The lexemes of a document as far as they are settled, and the fault after them if the text
cannot be cut further. -/
structure Lexemes where
  list : List Lexeme
  fault : Option Fault

/-- Cuts a document into lexemes. A byte order mark at its start is skipped. -/
def Lexemes.ofSource (s : Source) : Lexemes :=
  let start := Cursor.start s
  let cursor := if s.text.head?.any (·.toNat == 0xFEFF) then start.next else start
  let (outcome, l) := (Lexing.all (start.total + 2)).run.run { cursor := cursor }
  match outcome with
  | .ok _ => ⟨l.lexemes.toList, none⟩
  | .error fault => ⟨l.lexemes.toList.take l.settled, some fault⟩

end FieldPattern.Document

import FieldPattern.Text.Utf8

/-!
# Reading a file piece by piece

A reader asks a file for pieces of 4096 characters, of which only the last may be shorter. The file
is decoded in blocks of 8192 bytes, or more where the last block suggests that more bytes will be
needed. Characters that a piece leaves over wait for the next one. A carriage return at the end of a
block waits as well, since a line feed may follow it.

What a file gives is its *feed*: the pieces, and the error at which decoding stops. The piece for
which the bad block was decoded is lost.
-/

namespace FieldPattern.Text

/-- The number of characters in a piece. -/
def pieceLength : Nat := 4096

/-- The least number of bytes in a block. -/
def blockSize : Nat := 8192

/-- What a file gives. -/
structure Feed where
  pieces : List (List Char)
  error : Option DecodeError

/-- The state of reading a file. -/
structure FeedState where
  bytes : List UInt8
  /-- The bytes of a sequence that the last block cuts off. -/
  pending : List UInt8 := []
  /-- A carriage return waits. -/
  held : Bool := false
  /-- Decoded characters that belong to no piece yet. -/
  ready : List Char := []
  /-- The number of bytes of the last block, and of characters that it gave. -/
  spent : Nat := 0
  gained : Nat := 0

namespace FeedState

/-- The number of bytes to decode next when some characters are missing. -/
def nextSize (s : FeedState) (missing : Nat) : Nat :=
  max blockSize (if s.gained < s.spent then s.spent * missing / s.gained else missing)

/-- The characters of a block with a carriage return before it, and whether the block ends with one
that has to wait. -/
def joinLines (held final : Bool) (chars : List Char) : List Char × Bool :=
  let joined := if held && (final || !chars.isEmpty) then '\r' :: chars else chars
  let waits := if chars.isEmpty && !final then held else !final && joined.getLast? == some '\r'
  (unifyLineEnds (if waits && !chars.isEmpty then joined.dropLast else joined), waits)

/-- Decodes the next block. -/
def refill (s : FeedState) (missing : Nat) : Except DecodeError FeedState := do
  let size := s.nextSize missing
  let block := s.bytes.take size
  let d ← decodeBlock block.isEmpty 0 0 (s.pending ++ block)
  let (chars, held) := joinLines s.held block.isEmpty d.chars
  return {
    bytes := s.bytes.drop size
    pending := d.pending
    held := held
    ready := chars
    spent := if chars.isEmpty then 0 else block.length
    gained := chars.length }

/-- Some characters, or all if there are fewer; `fuel` exceeds the number of blocks. -/
def take : (fuel missing : Nat) → FeedState → Except DecodeError (List Char × FeedState)
  | 0, _, s => .ok ([], s)
  | fuel + 1, missing, s => do
    let part := s.ready.take missing
    let left := { s with ready := s.ready.drop missing }
    if part.length == missing then return (part, left)
    else
      let next ← left.refill (missing - part.length)
      if left.bytes.isEmpty && next.ready.isEmpty then return (part, next)
      else
        let (rest, last) ← take fuel (missing - part.length) next
        return (part ++ rest, last)

/-- The feed of the rest of a file; `fuel` exceeds the number of pieces and of blocks. -/
def feed : (fuel : Nat) → FeedState → Feed
  | 0, _ => ⟨[], none⟩
  | fuel + 1, s =>
    match s.take fuel pieceLength with
    | .error e => ⟨[], some e⟩
    | .ok ([], _) => ⟨[], none⟩
    | .ok (piece, next) =>
      let rest := next.feed fuel
      { rest with pieces := piece :: rest.pieces }

end FeedState

/-- The feed of a file. -/
def Feed.ofBytes (bytes : ByteArray) : Feed :=
  let s : FeedState := { bytes := bytes.toList }
  s.feed (bytes.size + 4)

end FieldPattern.Text

import FieldPattern.Text.Hex

/-!
# Decoding bytes

Bytes are decoded from UTF-8 block by block. A sequence that a block cuts off is carried over to the
next block, and the position of a bad sequence is counted from the start of the carried bytes. Line
ends of all three kinds become line feeds.
-/

namespace FieldPattern.Text

/-- Why bytes are no UTF-8. -/
inductive DecodeError.Reason where
  | start
  | continuation
  | truncated
  deriving Repr, DecidableEq

/-- A bad sequence: its first byte, its position, and how many of its bytes were taken. -/
structure DecodeError where
  byte : Nat
  position : Nat
  count : Nat
  reason : DecodeError.Reason
  deriving Repr, DecidableEq

/-- The wording of the reason. -/
def DecodeError.Reason.message : Reason → String
  | start => "invalid start byte"
  | continuation => "invalid continuation byte"
  | truncated => "unexpected end of data"

/-- The message of a decoding error. -/
def DecodeError.message (e : DecodeError) : String :=
  let place :=
    if e.count ≤ 1 then
      "byte 0x" ++ String.ofList (hexText 2 e.byte) ++ " in position " ++ toString e.position
    else
      "bytes in position " ++ toString e.position ++ "-" ++ toString (e.position + e.count - 1)
  "'utf-8' codec can't decode " ++ place ++ ": " ++ e.reason.message

/-- The number of bytes of the sequence that a byte starts, zero if it starts none. -/
def sequenceLength (lead : Nat) : Nat :=
  if lead < 0x80 then 1
  else if 0xC2 ≤ lead && lead ≤ 0xDF then 2
  else if 0xE0 ≤ lead && lead ≤ 0xEF then 3
  else if 0xF0 ≤ lead && lead ≤ 0xF4 then 4
  else 0

/-- Whether a byte may stand at an index of a sequence. The second byte of some sequences is
restricted, which rules out overlong forms, surrogates and numbers beyond the last code point. -/
def continues (lead index byte : Nat) : Bool :=
  let low :=
    if index == 1 && lead == 0xE0 then 0xA0 else if index == 1 && lead == 0xF0 then 0x90 else 0x80
  let high :=
    if index == 1 && lead == 0xED then 0x9F else if index == 1 && lead == 0xF4 then 0x8F else 0xBF
  low ≤ byte && byte ≤ high

/-- The number of further bytes of a sequence that are there and fit. -/
def fitting (lead index : Nat) : List UInt8 → Nat
  | [] => 0
  | b :: r => if continues lead index b.toNat then fitting lead (index + 1) r + 1 else 0

/-- The bytes start the sequence of a surrogate, and no more of it is there. -/
def cutsSurrogate : List UInt8 → Bool
  | [lead, second] => lead == 0xED && 0xA0 ≤ second && second ≤ 0xBF
  | _ => false

/-- The code point of a complete sequence. -/
def sequenceValue (lead : Nat) (length : Nat) (tail : List UInt8) : Nat :=
  let head := if length == 1 then lead else lead % (1 <<< (7 - length))
  tail.foldl (fun acc b => acc * 64 + b.toNat % 64) head

/-- A decoded block: its characters and the bytes of a sequence that the block cuts off. -/
structure Decoded where
  chars : List Char
  pending : List UInt8

/-- Decodes one block from a position on, jumping over `skip` bytes. At the end of the file no
sequence may stay incomplete. A surrogate is an error, but not before its third byte is there. -/
def decodeBlock (final : Bool) : (skip position : Nat) → List UInt8 → Except DecodeError Decoded
  | _, _, [] => .ok ⟨[], []⟩
  | skip + 1, position, _ :: r => decodeBlock final skip (position + 1) r
  | 0, position, b :: r =>
    let lead := b.toNat
    let length := sequenceLength lead
    if length == 0 then .error ⟨lead, position, 1, .start⟩
    else
      let tail := r.take (length - 1)
      let fit := fitting lead 1 tail
      if fit + 1 == length then
        (decodeBlock final (length - 1) (position + 1) r).map fun d =>
          { d with chars := Char.ofNat (sequenceValue lead length tail) :: d.chars }
      else if !final && cutsSurrogate (b :: r) then .ok ⟨[], b :: r⟩
      else if fit < tail.length then .error ⟨lead, position, fit + 1, .continuation⟩
      else if final then .error ⟨lead, position, fit + 1, .truncated⟩
      else .ok ⟨[], b :: r⟩

/-- Line ends of all kinds as line feeds. -/
def unifyLineEnds : List Char → List Char
  | '\r' :: '\n' :: r => '\n' :: unifyLineEnds r
  | '\r' :: r => '\n' :: unifyLineEnds r
  | c :: r => c :: unifyLineEnds r
  | [] => []

/-- The text that bytes spell as a whole. -/
def decode (bytes : List UInt8) : Except DecodeError (List Char) :=
  (decodeBlock true 0 0 bytes).map fun d => unifyLineEnds d.chars

end FieldPattern.Text

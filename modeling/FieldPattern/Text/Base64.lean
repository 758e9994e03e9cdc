/-!
# Base sixty-four

Bytes are written with sixty-four characters of six bits each, four characters for three bytes. A
reader passes over every character outside the alphabet. Two or more characters of a group may stand
for fewer bytes if equals signs fill the group; the text ends there.
-/

namespace FieldPattern.Text

/-- The six bits of a character of the alphabet. -/
def sextet? (c : Char) : Option Nat :=
  if 'A' ≤ c && c ≤ 'Z' then some (c.toNat - 'A'.toNat)
  else if 'a' ≤ c && c ≤ 'z' then some (c.toNat - 'a'.toNat + 26)
  else if '0' ≤ c && c ≤ '9' then some (c.toNat - '0'.toNat + 52)
  else if c == '+' then some 62
  else if c == '/' then some 63
  else none

/-- Reads the rest of a text, after `place` characters of a group and `pads` equals signs; `carry`
holds the bits that make no byte yet. `none` if the last group stays incomplete. -/
def readSextets? (place carry pads : Nat) : List Char → Option (List UInt8)
  | [] => if place == 0 then some [] else none
  | c :: r =>
    if c == '=' then
      if 2 ≤ place && 4 ≤ place + pads + 1 then some []
      else readSextets? place carry (pads + 1) r
    else
      match sextet? c with
      | none => readSextets? place carry pads r
      | some bits =>
        if place == 0 then readSextets? 1 bits 0 r
        else
          let kept := 6 - 2 * place
          let byte := UInt8.ofNat (carry <<< (2 * place) ||| bits >>> kept)
          (readSextets? ((place + 1) % 4) (bits % (1 <<< kept)) 0 r).map (byte :: ·)

/-- The bytes that a text in base sixty-four spells. -/
def readBase64? (s : List Char) : Option (List UInt8) :=
  readSextets? 0 0 0 s

end FieldPattern.Text

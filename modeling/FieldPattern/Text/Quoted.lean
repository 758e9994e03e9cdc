import FieldPattern.Text.Hex
import FieldPattern.Text.Printable

/-!
# Quoted texts

A text inside a message is quoted so that its ends and its invisible characters show. The quote is
`'`, or `"` when the text holds a `'` and no `"`. A backslash and the quote in use are escaped, the
three common controls have short escapes, and every other unprintable character is spelled by its
code point in two, four or eight hexadecimal digits. Bytes are quoted in the same way.
-/

namespace FieldPattern.Text

/-- The quote that delimits the text. -/
def quoteFor (s : List Char) : Char :=
  if s.contains '\'' && !s.contains '"' then '"' else '\''

/-- The escape that spells a code point, as short as it fits. -/
def codeEscape (n : Nat) : List Char :=
  if n ≤ 0xFF then '\\' :: 'x' :: hexText 2 n
  else if n ≤ 0xFFFF then '\\' :: 'u' :: hexText 4 n
  else '\\' :: 'U' :: hexText 8 n

/-- One character inside a text delimited by `quote`. -/
def quotedChar (quote c : Char) : List Char :=
  if c == quote || c == '\\' then ['\\', c]
  else if c == '\n' then ['\\', 'n']
  else if c == '\r' then ['\\', 'r']
  else if c == '\t' then ['\\', 't']
  else if isPrintable c then [c]
  else codeEscape c.toNat

/-- The text in quotes. -/
def quoted (s : String) : String :=
  let quote := quoteFor s.toList
  String.ofList (quote :: (s.toList.flatMap (quotedChar quote) ++ [quote]))

/-- Bytes in quotes, with a mark before them: only the printable ASCII ones are shown as they
are. -/
def quotedBytes (bs : List UInt8) : String :=
  let codes := bs.map fun b => Char.ofNat b.toNat
  let quote := quoteFor codes
  let shown := codes.flatMap fun c =>
    if c.toNat < 0x80 then quotedChar quote c else codeEscape c.toNat
  String.ofList ('b' :: quote :: (shown ++ [quote]))

end FieldPattern.Text

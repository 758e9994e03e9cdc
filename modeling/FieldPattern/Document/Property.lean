import FieldPattern.Document.Cursor
import FieldPattern.Document.Lexeme
import FieldPattern.Text.Utf8

/-!
# Names, tags and directives

The properties of a node are an anchor, which names it, and a tag, which gives its type. A tag is
written with a handle that stands for its beginning, or in full between angle brackets. Directives
are lines before a document that tell the version of the format or introduce handles.
-/

namespace FieldPattern.Document.Reading

/-- A character that may follow the name of an anchor. -/
def endsName (c : Option Char) : Bool :=
  endsWord c ||
    match c with
    | some d => ['?', ':', ',', ']', '\x7d', '%', '@', '\x60'].contains d
    | none => true

/-- The name after the sign of an anchor or alias. -/
def anchorName : Reading (List Char) := do
  forward 1
  let name ← takeWhile isNameChar
  require (!name.isEmpty)
  require (endsName (← peek))
  return name

/-- A character of a tag that stands for itself. -/
def isTagChar (c : Char) : Bool :=
  isNameChar c ||
    [';', '/', '?', ':', '@', '&', '=', '+', '$', ',', '.', '!', '~', '*', '\'', '(', ')', '[',
     ']'].contains c

/-- Bytes written as a percent sign and two hexadecimal digits each. -/
def percentBytes : (fuel : Nat) → Reading (List UInt8)
  | 0 => return []
  | fuel + 1 => do
    if (← peek) == some '%' then
      forward 1
      let n ← hexNumber 2
      forward 2
      return UInt8.ofNat n :: (← percentBytes fuel)
    else return []

/-- The characters that escaped bytes spell in UTF-8. -/
def percentChars : Reading (List Char) := do
  let bytes ← percentBytes (← bound)
  match Text.decodeBlock true 0 0 bytes with
  | .ok d => return d.chars
  | .error _ => throw .malformed

/-- The characters of a tag, escaped ones included. -/
def tagChars : (fuel : Nat) → Reading (List Char)
  | 0 => return []
  | fuel + 1 => do
    let run ← takeWhile isTagChar
    if (← peek) == some '%' then
      let escaped ← percentChars
      return run ++ escaped ++ (← tagChars fuel)
    else return run

/-- The text of a tag, which is not empty. -/
def tagText : Reading (List Char) := do
  let start := (← get).index
  let text ← tagChars (← bound)
  require (start < (← get).index)
  return text

/-- A handle: an exclamation mark alone, or a name between two of them. -/
def handle : Reading (List Char) := do
  require ((← peek) == some '!')
  forward 1
  if (← peek) == some ' ' then return ['!']
  let name ← takeWhile isNameChar
  if (← peek) == some '!' then
    forward 1
    return '!' :: (name ++ ['!'])
  else throw .malformed

/-- A handle follows: there is a second exclamation mark before the tag ends. -/
def hasHandle : Reading Bool := do
  let name := ((← get).rest.drop 1).takeWhile fun c => !endsItem (some c) && c != '!'
  return (← ahead (name.length + 1)) == some '!'

/-- A tag: its handle, if it has one, and its text. -/
def tag : Reading (Option (List Char) × List Char) := do
  let read : Option (List Char) × List Char ← do
    if (← ahead 1) == some '<' then
      forward 2
      let text ← tagText
      require ((← peek) == some '>')
      forward 1
      pure (none, text)
    else if endsWord (← ahead 1) then
      forward 1
      pure (none, ['!'])
    else if ← hasHandle then
      let h ← handle
      pure (some h, ← tagText)
    else
      forward 1
      pure (some ['!'], ← tagText)
  require (endsItem (← peek))
  return read

/-- A decimal number of a directive. -/
def directiveNumber : Reading Nat := do
  let digits ← lookWhile fun c => '0' ≤ c && c ≤ '9'
  require (!digits.isEmpty)
  if digitLimit < digits.length then throw (.digitLimit digits.length)
  forward digits.length
  return digits.foldl (fun acc c => acc * 10 + (c.toNat - '0'.toNat)) 0

/-- The two numbers of a version. -/
def version : Reading Directive := do
  skipWhile (· == ' ')
  let major ← directiveNumber
  require ((← peek) == some '.')
  forward 1
  let _ ← directiveNumber
  require (endsItem (← peek))
  return .version major

/-- A handle and the text that it stands for. -/
def handleDefinition : Reading Directive := do
  skipWhile (· == ' ')
  let h ← handle
  require ((← peek) == some ' ')
  skipWhile (· == ' ')
  let lead ← tagText
  require (endsItem (← peek))
  return .tag h lead

/-- A directive line. -/
def directive : Reading Directive := do
  forward 1
  let name ← takeWhile isNameChar
  require (!name.isEmpty)
  require (endsItem (← peek))
  let d ←
    if name == "YAML".toList then version
    else if name == "TAG".toList then handleDefinition
    else do
      skipWhile (!isBreak ·)
      pure .other
  restOfLine
  return d

end FieldPattern.Document.Reading

import FieldPattern.Calendar
import FieldPattern.Text.Quoted
import FieldPattern.Text.Utf8
import FieldPattern.Value.Render

/-!
# Faults of documents

A document that breaks the rules of its format is *malformed*; which rule it breaks is not told
apart. A scalar that has the right form for its type but names no value of it (an impossible date,
a number that is none) is a fault of its own, and so is a number or a nesting that is too large.
-/

namespace FieldPattern.Document

/-- Why a document has no value. -/
inductive Fault where
  /-- The text is no document of the format. -/
  | malformed
  /-- The bytes of the document are no text. -/
  | undecodable (error : Text.DecodeError)
  /-- Collections, or references from own values to own values, are nested too deeply. -/
  | tooDeep
  /-- An escape names a code point beyond the last one. -/
  | noSuchCharacter
  /-- An escape names half of a surrogate pair: a code point, but no character. Texts are made of
  characters here, so a document with such an escape is out of scope and is refused. -/
  | surrogate
  /-- An escape names a number that no code point can have. -/
  | characterOverflow
  /-- A scalar marked as an integer is none in its base. -/
  | notInteger (base : Nat) (text : List Char)
  /-- An integer has more decimal digits than are read. -/
  | digitLimit (count : Nat)
  /-- A scalar marked as a fraction is none. -/
  | notFloat (text : List Char)
  /-- A number in base sixty has too many parts for a fraction. -/
  | floatOverflow
  /-- A number has no digits at all. -/
  | emptyNumber
  /-- A scalar marked as a truth value is none. -/
  | notBoolean (text : String)
  /-- A scalar marked as a date or moment has not the form of one. -/
  | notTimestamp
  /-- A mapping is marked as a date or moment. -/
  | mappingTimestamp
  /-- A date or moment does not exist. -/
  | calendar (error : CalendarError)
  deriving Repr, DecidableEq

/-- The quoted form of a rejected integer, cut to 200 characters. -/
def rejectedInteger (text : List Char) : String :=
  String.ofList ((Text.quoted (String.ofList text)).toList.take 200)

/-- The message for a number with more digits than are read or written, with a detail in its
middle. -/
def limitMessage (detail : String) : String :=
  "Exceeds the limit (" ++ toString digitLimit ++ " digits) for integer string conversion" ++
    detail ++ "; use sys.set_int_max_str_digits() to increase the limit"

/-- The message for a number with more digits than are read. -/
def digitLimitMessage (count : Nat) : String :=
  limitMessage (": value has " ++ toString count ++ " digits")

/-- The message for a nesting that is too deep. -/
def depthMessage : String := "maximum recursion depth exceeded"

namespace Fault

/-- The message of the fault. -/
def message : Fault → String
  | malformed => "malformed document"
  | undecodable error => error.message
  | tooDeep => depthMessage
  | noSuchCharacter => "chr() arg not in range(0x110000)"
  | surrogate => "surrogates not allowed"
  | characterOverflow => "Python int too large to convert to C int"
  | notInteger base text =>
    "invalid literal for int() with base " ++ toString base ++ ": " ++ rejectedInteger text
  | digitLimit count => digitLimitMessage count
  | notFloat text => "could not convert string to float: " ++ Text.quoted (String.ofList text)
  | floatOverflow => "int too large to convert to float"
  | emptyNumber => "string index out of range"
  | notBoolean text => Text.quoted text
  | notTimestamp => "'NoneType' object has no attribute 'groupdict'"
  | mappingTimestamp => "expected string or bytes-like object, got 'list'"
  | calendar error => error.message

end Fault

end FieldPattern.Document

/-!
# Log records

What the library reports on the way is data: a list of records in the order in which they were
written. A record belongs to a *channel*, the part of the library that wrote it.
-/

namespace FieldPattern

/-- The weight of a record. -/
inductive Level where
  | debug
  | warning
  deriving Repr, DecidableEq

/-- The part of the library that writes a record. -/
inductive Channel where
  | markers
  | compiler
  | matcher
  | library
  deriving Repr, DecidableEq

/-- One record. -/
structure LogRecord where
  level : Level
  channel : Channel
  message : String
  deriving Repr, DecidableEq

/-- The records written so far. -/
abbrev Log := List LogRecord

namespace Level

/-- The name of the level. -/
def name : Level → String
  | debug => "DEBUG"
  | warning => "WARNING"

/-- The severity of the level on the usual scale. -/
def severity : Level → Nat
  | debug => 10
  | warning => 30

end Level

/-- The name of the channel. -/
def Channel.name : Channel → String
  | markers => "simplex.markers"
  | compiler => "simplex.compiler"
  | matcher => "simplex.matcher"
  | library => "simplex.library"

/-- A record on one line. -/
def LogRecord.line (r : LogRecord) : String :=
  r.level.name ++ " " ++ r.channel.name ++ ": " ++ r.message

end FieldPattern

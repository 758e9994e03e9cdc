import FieldPattern.Value.Basic
import FieldPattern.Decimal.Notation
import FieldPattern.Text.Quoted

/-!
# Texts of values

Every value has a *quoted form*, in which texts are in quotes, and a *plain form*, which differs
from it for a text (the text itself) and for dates. An integer of more than 4300 digits has no text
in either form.

Values of any depth have a text here. That a writer runs out of stack on a value which is nested too
deeply is left out, since the depth at which this happens depends on where the writer was called. The
limit on the nesting of documents (`Document.Fault.tooDeep`) is another one: it does not bound the
depth of a value whose collections refer to one another.
-/

namespace FieldPattern

/-- The most decimal digits of an integer that are read or written. -/
def digitLimit : Nat := 4300

/-- The text of an integer within the digit limit. -/
def integerText? (n : Int) : Option String :=
  let digits := Nat.toDigits 10 n.natAbs
  if digitLimit < digits.length then none
  else some (String.ofList (if n < 0 then '-' :: digits else digits))

/-- `name(part, part, …)`. -/
def callText (name : String) (parts : List String) : String :=
  name ++ "(" ++ ", ".intercalate parts ++ ")"

/-- The quoted form of a distance from universal time. -/
def offsetQuoted (o : Int) : String :=
  if o == 0 then "datetime.timezone.utc"
  else callText "datetime.timezone" [CalendarError.spanText o]

/-- The quoted form of a date. -/
def Date.quoted (d : Date) : String :=
  callText "datetime.date" ([d.year, d.month, d.day].map toString)

/-- The quoted form of a moment: seconds and microseconds only where needed. -/
def Moment.quoted (m : Moment) : String :=
  let small :=
    if m.micro != 0 then [m.second, m.micro] else if m.second != 0 then [m.second] else []
  callText "datetime.datetime"
    (([m.date.year, m.date.month, m.date.day, m.hour, m.minute] ++ small).map toString ++
      (match m.offset with | some o => ["tzinfo=" ++ offsetQuoted o] | none => []))

namespace Value

/-! ## Scalars -/

/-- The quoted form of a scalar; `none` for an integer that exceeds the digit limit, and for what is
no scalar. -/
def scalarText? : Value → Option String
  | null => some "None"
  | bool b => some (if b then "True" else "False")
  | int n => integerText? n
  | float x => some (Decimal.text x)
  | str s => some (Text.quoted s)
  | bytes bs => some (Text.quotedBytes bs)
  | date d => some d.quoted
  | moment m => some m.quoted
  | _ => none

/-! ## Collections

A collection is written from the texts of its parts. -/

/-- Parts divided by commas. -/
def joined (parts : List String) : String :=
  ", ".intercalate parts

/-- A sequence. -/
def listText (parts : List String) : String :=
  "[" ++ joined parts ++ "]"

/-- A fixed sequence; a comma follows an only part. -/
def tupleText : List String → String
  | [only] => "(" ++ only ++ ",)"
  | parts => "(" ++ joined parts ++ ")"

/-- One entry of a mapping. -/
def entryText (key value : String) : String :=
  key ++ ": " ++ value

/-- A mapping, from the texts of its entries. -/
def mapText (parts : List String) : String :=
  "\x7b" ++ joined parts ++ "\x7d"

/-- A set. -/
def setText : List String → String
  | [] => "set()"
  | parts => "\x7b" ++ joined parts ++ "\x7d"

/-- The quoted form of a collection of a pool that is written inside the collections `within`. One
of these stands there as its empty form with three dots. `fuel` exceeds the number of the others. -/
def pooledText? (pool : Array Value) : (fuel : Nat) → (within : List Nat) → Nat → Option String
  | 0, _, _ => none
  | fuel + 1, within, n =>
    let part (v : Value) : Option String :=
      match v with
      | link m => pooledText? pool fuel (n :: within) m
      | v => v.scalarText?
    let again := within.contains n
    match pool[n]? with
    | some (list items) => if again then some "[...]" else (items.mapM part).map listText
    | some (tuple items) => if again then some "(...)" else (items.mapM part).map tupleText
    | some (set items) => (items.mapM part).map setText
    | some (map entries) =>
      if again then some "\x7b...\x7d"
      else
        let shown (e : Value × Value) : Option String := do
          return entryText (← part e.1) (← part e.2)
        (entries.mapM shown).map mapText
    | _ => none

/-! ## Values -/

mutual

/-- The quoted form; `none` if an integer in the value exceeds the digit limit. -/
def quoted? : Value → Option String
  | list items => (quotedItems? items).map listText
  | tuple items => (quotedItems? items).map tupleText
  | set items => (quotedItems? items).map setText
  | map entries => (quotedEntries? entries).map mapText
  | record attributes => (quotedAttributes? attributes).map (callText "namespace")
  | markers left right => do
      some (callText "FieldMarkers" ["left=" ++ (← quoted? left), "right=" ++ (← quoted? right)])
  | options global left right strict weak => do
      some (callText "SimplexOptions"
        ["global_=" ++ (← quoted? global),
         "field_markers=" ++
            callText "FieldMarkers" ["left=" ++ (← quoted? left), "right=" ++ (← quoted? right)],
         "strict_whitespace=" ++ (← quoted? strict), "weak_parse=" ++ (← quoted? weak)])
  | pooled pool n => pooledText? pool (pool.size + 1) [] n
  | v => v.scalarText?

/-- The quoted forms of a sequence of values. -/
def quotedItems? : List Value → Option (List String)
  | [] => some []
  | v :: r => do some ((← quoted? v) :: (← quotedItems? r))

/-- The quoted forms of the entries of a mapping. -/
def quotedEntries? : List (Value × Value) → Option (List String)
  | [] => some []
  | (k, v) :: r => do some (entryText (← quoted? k) (← quoted? v) :: (← quotedEntries? r))

/-- The quoted forms of the attributes of a record; an attribute without a name is not shown. -/
def quotedAttributes? : List (String × Value) → Option (List String)
  | [] => some []
  | (k, v) :: r =>
    if k.isEmpty then quotedAttributes? r
    else do some ((k ++ "=" ++ (← quoted? v)) :: (← quotedAttributes? r))

end

/-- The plain form; `none` if an integer in the value exceeds the digit limit. -/
def text : Value → Option String
  | str s => some s
  | date d => some d.text
  | moment m => some m.text
  | v => v.quoted?

/-! ## Trees -/

/-- The tree of a collection of a pool; `none` if it has more than `fuel` levels. -/
def pooledTree? (pool : Array Value) : (fuel : Nat) → Nat → Option Value
  | 0, _ => none
  | fuel + 1, n =>
    let part (v : Value) : Option Value :=
      match v with
      | link m => pooledTree? pool fuel m
      | v => some v
    match pool[n]? with
    | some (list items) => (items.mapM part).map list
    | some (tuple items) => (items.mapM part).map tuple
    | some (map entries) =>
      let unfolded (e : Value × Value) : Option (Value × Value) := do
        return (← part e.1, ← part e.2)
      (entries.mapM unfolded).map map
    | v => v

/-- The value without a pool; `none` if it contains itself. Without a cycle no path through a pool
is longer than the pool. -/
def tree? : Value → Option Value
  | pooled pool n => pooledTree? pool pool.size n
  | v => some v

end Value

end FieldPattern

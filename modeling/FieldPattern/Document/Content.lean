import FieldPattern.Document.Node
import FieldPattern.Document.ScalarValue
import FieldPattern.Value.SetOrder

/-!
# The value of a document

Every node has a value of its type. A scalar is read when it is met. A collection is a number of a
pool when it is met, and what is in it is found later: the collections wait in a queue, so a
document is worked through level by level, and the first fault on the way is the one that counts.

Before a mapping is read it is *flattened*: the entries of the mappings that it merges come before
its own, which override them, and of several mappings merged as a sequence the first one decides.
Flattening changes the node for good, also where other nodes refer to it, and so does making a text
of the mark of an own value where it is used as a key. Keys must be scalars.
-/

namespace FieldPattern.Document

/-- The state of working through a graph. -/
structure Builder where
  nodes : Array Node
  /-- More than the number of merging entries. -/
  merges : Nat
  /-- The values of the nodes that were met. -/
  values : Array (Option Value)
  /-- The collections by the numbers of their nodes, and pairs after them. -/
  pool : Array Value
  /-- Collections that wait, the last one first. -/
  waiting : List Nat := []

/-- A computation on a graph. -/
abbrev Building := StateT Builder (Except Fault)

/-- One more than the number of entries of all mappings. -/
def Node.mergeBound (nodes : Array Node) : Nat :=
  nodes.foldl (fun n x => match x.body with
    | .mapping entries => n + entries.length
    | _ => n) 1

/-- The state before any node was met. -/
def Builder.start (nodes : Array Node) : Builder where
  nodes := nodes
  merges := Node.mergeBound nodes
  values := Array.replicate nodes.size none
  pool := Array.replicate nodes.size .null

namespace Building

/-- The node with a number. -/
def node (n : Nat) : Building Node := do
  return ((← get).nodes[n]?).getD Node.absent

/-- The entries of a node that is a mapping. -/
def entries? (n : Nat) : Building (Option (List (Nat × Nat))) := do
  match (← node n).body with
  | .mapping entries => return some entries
  | _ => return none

/-- Changes a node. -/
def change (n : Nat) (x : Node) : Building Unit :=
  modify fun b => { b with nodes := b.nodes.setIfInBounds n x }

/-- The type of a node. -/
def tag (n : Nat) : Building Tag := do
  return (← node n).tag

/-! ## Scalars -/

/-- The text of a node that is to be a scalar. A mapping has the text of its own value. -/
def scalarText : (fuel : Nat) → Nat → Building (List Char)
  | 0, _ => throw .tooDeep
  | fuel + 1, n => do
    match (← node n).body with
    | .scalar text => return text
    | .sequence _ => throw .malformed
    | .mapping entries => do
      match ← entries.findM? fun e => do return (← tag e.1) == .self with
      | some e => scalarText fuel e.2
      | none => throw .malformed

/-- The value of a node whose type is that of a scalar. -/
def scalar (n : Nat) : Building Value := do
  let x ← node n
  if x.tag == .unknown || x.tag == .merge || x.tag == .self then throw .malformed
  let text ← scalarText ((← get).nodes.size + 1) n
  match x.tag, x.body with
  | .timestamp, .mapping _ => throw .mappingTimestamp
  | t, _ => MonadExcept.ofExcept (Scalar.value t text)

/-! ## Merging -/

/-- The entry merges another mapping. -/
def isMerge (e : Nat × Nat) : Building Bool := do
  return (← tag e.1) == .merge

/-- Takes the first merging entry out of a mapping: its value, if there is such an entry. -/
def takeMerge (n : Nat) : Building (Option Nat) := do
  let x ← node n
  match x.body with
  | .mapping entries => do
    match ← entries.findM? isMerge with
    | some e =>
      change n { x with body := .mapping (entries.erase e) }
      return some e.2
    | none => return none
  | _ => return none

/-- In the keys of a mapping the mark of an own value is a text. -/
def plainKeys (n : Nat) : Building Unit := do
  for e in (← entries? n).getD [] do
    let k ← node e.1
    if k.tag == .self then change e.1 { k with tag := .str }

/-- Puts entries before those of a mapping. -/
def addEntries (n : Nat) (imported : List (Nat × Nat)) : Building Unit := do
  let x ← node n
  match x.body with
  | .mapping entries => change n { x with body := .mapping (imported ++ entries) }
  | _ => return ()

/-- Flattens a mapping; anything else is malformed. A mapping that merges itself may be flattened
inside its own flattening, which leaves no entries to merge. Every step inwards takes such an entry
out of some mapping, so `fuel` need only exceed their number. -/
def flatten : (fuel : Nat) → Nat → Building (List (Nat × Nat))
  | 0, _ => throw .tooDeep
  | fuel + 1, n => do
    let some entries ← entries? n | throw .malformed
    let merging ← entries.filterM isMerge
    let imports ← merging.mapM fun _ => do
      match ← takeMerge n with
      | none => return []
      | some source =>
        match (← node source).body with
        | .mapping _ => flatten fuel source
        | .sequence items => return (← items.mapM (flatten fuel)).reverse.flatten
        | .scalar _ => throw .malformed
    let imported := imports.flatten
    if !imported.isEmpty then addEntries n imported
    plainKeys n
    return (← entries? n).getD []

/-! ## Collections -/

/-- The type is that of a collection. -/
def isCollection : Tag → Bool
  | .seq | .map | .set | .omap | .pairs => true
  | _ => false

/-- The value of a node: a collection is met as its number, and waits from then on. -/
def value (n : Nat) : Building Value := do
  match ((← get).values[n]?).getD none with
  | some v => return v
  | none => do
    let collection := isCollection (← tag n)
    let v ← if collection then pure (Value.link n) else scalar n
    modify fun b =>
      { b with
        values := b.values.setIfInBounds n (some v)
        waiting := if collection then n :: b.waiting else b.waiting }
    return v

/-- A key of a mapping. The owner tells apart what is equal to nothing, not even to itself. -/
structure Key where
  value : Value
  owner : Nat

/-- The key is not a number. -/
def Key.isNaN (k : Key) : Bool :=
  match k.value with
  | .float x => x.isNaN
  | _ => false

/-- Two keys are the same. -/
def Key.same (a b : Key) : Bool :=
  if a.isNaN && b.isNaN then a.owner == b.owner else a.value.sameKey b.value

/-- Sets a key: a key that is there keeps its position, a new one goes to the end. -/
def put (entries : List (Key × Value)) (key : Key) (value : Value) : List (Key × Value) :=
  if entries.any fun e => e.1.same key then
    entries.map fun e => if e.1.same key then (e.1, value) else e
  else entries ++ [(key, value)]

/-- The key of a node. All texts that name a not-a-number by its mark have the same owner. -/
def key (n : Nat) : Building Key := do
  if isCollection (← tag n) then throw .malformed
  let v ← value n
  let k : Key := ⟨v, n + 1⟩
  if k.isNaN then
    let text ← scalarText ((← get).nodes.size + 1) n
    return if Scalar.isNamedNaN text then { k with owner := 0 } else k
  else return k

/-- The entries of a mapping after flattening, each key once. -/
def mapping (n : Nat) : Building (List (Value × Value)) := do
  let entries ← flatten (← get).merges n
  let found ← entries.foldlM (fun found e => do
    let k ← key e.1
    return put found k (← value e.2)) []
  return found.map fun e => (e.1.value, e.2)

/-- The only entry of a mapping that stands for a pair, which is added to the pool. -/
def pair (n : Nat) : Building Value := do
  match ← entries? n with
  | some [(k, v)] => do
    let first ← value k
    let second ← value v
    let place := (← get).pool.size
    modify fun b => { b with pool := b.pool.push (.tuple [first, second]) }
    return .link place
  | _ => throw .malformed

/-- What is in a collection. -/
def content (n : Nat) : Building Value := do
  let x ← node n
  match x.tag, x.body with
  | .seq, .sequence items => return .list (← items.mapM value)
  | .map, .mapping _ => return .map (← mapping n)
  | .set, .mapping _ => return .set (Value.shownOrder ((← mapping n).map (·.1)))
  | .omap, .sequence items | .pairs, .sequence items => return .list (← items.mapM pair)
  | _, _ => throw .malformed

/-- Finds what is in a collection that waits. -/
def settle (n : Nat) : Building Unit := do
  let v ← content n
  modify fun b => { b with pool := b.pool.setIfInBounds n v }

/-- Works through the collections that wait, level by level; `fuel` exceeds the number of nodes. -/
def settleAll : (fuel : Nat) → Building Unit
  | 0 => return ()
  | fuel + 1 => do
    let level := (← get).waiting.reverse
    if !level.isEmpty then
      modify fun b => { b with waiting := [] }
      level.forM settle
      settleAll fuel

end Building

/-- The value of a graph. -/
def Graph.value (g : Graph) : Except Fault Value := do
  let build : Building Value := do
    let v ← Building.value g.root
    Building.settleAll (g.nodes.size + 1)
    return v
  let (v, b) ← build.run (Builder.start g.nodes)
  return v.outside b.pool

/-- The value of a document; nothing for an empty one. -/
def valueOf (s : Source) : Except Fault Value := do
  match ← Graph.ofLexemes (Lexemes.ofSource s) with
  | none => return .null
  | some g => g.value

/-- The value of the document in a text that is read piece by piece. -/
def ofFeed (feed : Text.Feed) : Except Fault Value :=
  Source.ofFeed feed >>= valueOf

end FieldPattern.Document

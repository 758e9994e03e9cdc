import FieldPattern.Document.Lexer
import FieldPattern.Document.Tag

/-!
# Nodes

The lexemes of a document describe a graph of nodes: scalars, sequences and mappings, each with its
type. Nodes have numbers in the order in which they begin, and a collection holds the numbers of the
nodes in it. An alias is the number of the node that carries its anchor, so a node may stand in
several places, and a collection may stand in itself. A document has one root; an empty text has
none.
-/

namespace FieldPattern.Document

/-- What a node consists of. -/
inductive Body where
  | scalar (text : List Char)
  | sequence (items : List Nat)
  | mapping (entries : List (Nat × Nat))
  deriving Inhabited

/-- A node of a document. -/
structure Node where
  tag : Tag
  body : Body

/-- A scalar that is not written at all. -/
def Node.absent : Node := ⟨.null, .scalar []⟩

/-- The nodes of a document by their numbers, and the number of the root. -/
structure Graph where
  nodes : Array Node
  root : Nat

/-- The state of a reader of lexemes. -/
structure Composer where
  lexemes : List Lexeme
  /-- The fault behind the last lexeme. -/
  fault : Option Fault
  /-- What handles of tags stand for. -/
  handles : List (List Char × List Char) := []
  anchors : List (List Char × Nat) := []
  nodes : Array Node := #[]
  /-- The number of collections around the next node. -/
  depth : Nat := 0

/-- A computation that consumes lexemes. -/
abbrev Composing := StateT Composer (Except Fault)

/-- The properties of a node: its anchor, and its tag in full. -/
structure Properties where
  anchor : Option (List Char) := none
  tag : Option (List Char) := none

namespace Composing

/-- The next lexeme, or nothing at the end of the document. -/
def peek : Composing (Option Lexeme) := do
  let c ← get
  match c.lexemes, c.fault with
  | x :: _, _ => return some x
  | [], none => return none
  | [], some fault => throw fault

/-- Consumes a lexeme. -/
def skip : Composing Unit :=
  modify fun c => { c with lexemes := c.lexemes.tail }

/-- Consumes a lexeme if it is the next one: whether it was. -/
def accept (x : Lexeme) : Composing Bool := do
  if (← peek) == some x then
    skip
    return true
  else return false

/-- Consumes a lexeme that must be the next one. -/
def expect (x : Lexeme) : Composing Unit := do
  if !(← accept x) then throw .malformed

/-- One of some lexemes is the next one. -/
def atAny (xs : List Lexeme) : Composing Bool := do
  match ← peek with
  | some x => return xs.contains x
  | none => return false

/-! ## Properties -/

/-- An anchor, if one follows. -/
def anchor? : Composing (Option (List Char)) := do
  match ← peek with
  | some (.anchor name) => skip; return some name
  | _ => return none

/-- A tag, if one follows, as it is written. -/
def tag? : Composing (Option (Option (List Char) × List Char)) := do
  match ← peek with
  | some (.tag handle suffix) => skip; return some (handle, suffix)
  | _ => return none

/-- The tag in full: a handle is replaced by what it stands for. -/
def fullTag (handle : Option (List Char)) (suffix : List Char) : Composing (List Char) := do
  match handle with
  | none => return suffix
  | some h =>
    match (← get).handles.lookup h with
    | some lead => return lead ++ suffix
    | none => throw .malformed

/-- The properties before a node, in either order. -/
def properties : Composing Properties := do
  let before ← anchor?
  let written ← tag?
  let anchor ← if before.isSome then pure before else if written.isSome then anchor? else pure none
  match written with
  | some (handle, suffix) => return ⟨anchor, some (← fullTag handle suffix)⟩
  | none => return ⟨anchor, none⟩

/-- The type of a collection: the tag `!` leaves it open. -/
def collectionTag (p : Properties) (implied : Tag) : Tag :=
  match p.tag with
  | none | some ['!'] => implied
  | some t => Tag.ofText t

/-- The type of a scalar: a plain one without a tag, and one with the tag `!`, has the type of its
form. -/
def scalarTag (p : Properties) (plain : Bool) (text : List Char) : Tag :=
  match p.tag with
  | none => if plain then Tag.ofForm text else .str
  | some ['!'] => Tag.ofForm text
  | some t => Tag.ofText t

/-- Names a node. -/
def setAnchor (p : Properties) (n : Nat) : Composing Unit :=
  match p.anchor with
  | some name => modify fun c => { c with anchors := (name, n) :: c.anchors }
  | none => return ()

/-- No two nodes have the same name. -/
def checkAnchor (p : Properties) : Composing Unit := do
  match p.anchor with
  | some name => if ((← get).anchors.lookup name).isSome then throw .malformed
  | none => return ()

/-! ## Nodes

The functions below take turns. Each turn but a bounded number consumes a lexeme, so four turns per
lexeme are enough. Collections may be nested up to a limit. -/

/-- The greatest number of collections around a node. -/
def depthLimit : Nat := 488

/-- Adds a node: its number. -/
def add (x : Node) : Composing Nat := do
  let n := (← get).nodes.size
  modify fun c => { c with nodes := c.nodes.push x }
  return n

/-- Adds a scalar under its name. -/
def addScalar (p : Properties) (plain : Bool) (text : List Char) : Composing Nat := do
  checkAnchor p
  let n ← add ⟨scalarTag p plain text, .scalar text⟩
  setAnchor p n
  return n

/-- Adds a collection under its name before its body is read, so that the body may refer to it. -/
def addCollection (p : Properties) (implied : Tag) (body : Composing Body) : Composing Nat := do
  checkAnchor p
  let tag := collectionTag p implied
  let n ← add ⟨tag, .sequence []⟩
  setAnchor p n
  let depth := (← get).depth
  if depth == depthLimit then throw .tooDeep
  modify fun c => { c with depth := depth + 1 }
  let b ← body
  modify fun c => { c with depth := depth, nodes := c.nodes.setIfInBounds n ⟨tag, b⟩ }
  return n

/-- A node of which only properties are written. -/
def emptyScalar (p : Properties) : Composing Nat := do
  if p.anchor.isNone && p.tag.isNone then throw .malformed
  addScalar p true []

mutual

/-- A node. Block collections, and sequences that are not indented, are allowed where a flag says
so. -/
def node (block unindented : Bool) : (fuel : Nat) → Composing Nat
  | 0 => throw .malformed
  | fuel + 1 => do
    if let some (.alias name) ← peek then
      skip
      match (← get).anchors.lookup name with
      | some n => return n
      | none => throw .malformed
    let p ← properties
    let seq (items : Composing (List Nat)) : Composing Nat :=
      addCollection p .seq (Body.sequence <$> items)
    let map (entries : Composing (List (Nat × Nat))) : Composing Nat :=
      addCollection p .map (Body.mapping <$> entries)
    match ← peek with
    | some .entry =>
      if unindented then seq (unindentedItems fuel)
      else emptyScalar p
    | some (.scalar text plain) =>
      skip
      addScalar p plain text
    | some .openSequence => skip; seq (flowItems true fuel)
    | some .openMapping => skip; map (flowEntries true fuel)
    | some .sequenceIndent =>
      if block then do skip; seq (blockItems fuel)
      else emptyScalar p
    | some .mappingIndent =>
      if block then do skip; map (blockEntries fuel)
      else emptyScalar p
    | _ => emptyScalar p

/-- A node, or nothing where one of some lexemes follows. -/
def nodeUnless (ends : List Lexeme) (block unindented : Bool) :
    (fuel : Nat) → Composing Nat
  | 0 => throw .malformed
  | fuel + 1 => do
    if ← atAny ends then add Node.absent
    else node block unindented fuel

/-- The items of an indented sequence. -/
def blockItems : (fuel : Nat) → Composing (List Nat)
  | 0 => throw .malformed
  | fuel + 1 => do
    if ← accept .entry then
      let n ← nodeUnless [.entry, .dedent] true false fuel
      return n :: (← blockItems fuel)
    else
      expect .dedent
      return []

/-- The items of a sequence that has the indentation of the mapping around it. -/
def unindentedItems : (fuel : Nat) → Composing (List Nat)
  | 0 => throw .malformed
  | fuel + 1 => do
    if ← accept .entry then
      let n ← nodeUnless [.entry, .key, .value, .dedent] true false fuel
      return n :: (← unindentedItems fuel)
    else return []

/-- The entries of an indented mapping. -/
def blockEntries : (fuel : Nat) → Composing (List (Nat × Nat))
  | 0 => throw .malformed
  | fuel + 1 => do
    let ends := [Lexeme.key, .value, .dedent]
    if ← accept .key then
      let k ← nodeUnless ends true true fuel
      let v ← if ← accept .value then nodeUnless ends true true fuel else add Node.absent
      return (k, v) :: (← blockEntries fuel)
    else
      expect .dedent
      return []

/-- The items of a sequence in brackets; a pair with a colon is a mapping of one entry. -/
def flowItems (first : Bool) : (fuel : Nat) → Composing (List Nat)
  | 0 => throw .malformed
  | fuel + 1 => do
    if ← accept .closeSequence then return []
    if !first then expect .comma
    if ← accept .key then
      let pair : Composing Body := do
        let ends := [Lexeme.comma, .closeSequence]
        let k ← nodeUnless (.value :: ends) false false fuel
        let v ← if ← accept .value then nodeUnless ends false false fuel
          else add Node.absent
        return .mapping [(k, v)]
      let n ← addCollection {} .map pair
      return n :: (← flowItems false fuel)
    else if ← accept .closeSequence then return []
    else
      let n ← node false false fuel
      return n :: (← flowItems false fuel)

/-- The entries of a mapping in braces; a node without a colon is a key without a value. -/
def flowEntries (first : Bool) : (fuel : Nat) → Composing (List (Nat × Nat))
  | 0 => throw .malformed
  | fuel + 1 => do
    if ← accept .closeMapping then return []
    if !first then expect .comma
    if ← accept .key then
      let k ← nodeUnless [.value, .comma, .closeMapping] false false fuel
      let v ← if ← accept .value then nodeUnless [.comma, .closeMapping] false false fuel
        else add Node.absent
      return (k, v) :: (← flowEntries false fuel)
    else if ← accept .closeMapping then return []
    else
      let k ← node false false fuel
      let v ← add Node.absent
      return (k, v) :: (← flowEntries false fuel)

end

/-! ## Documents -/

/-- The handles that need no directive. -/
def standardHandles : List (List Char × List Char) :=
  [(['!'], ['!']), (['!', '!'], Tag.typePrefix.toList)]

/-- Reads directives, each of which may be given once. -/
def directives (seenVersion : Bool) (handles : List (List Char × List Char)) :
    (fuel : Nat) → Composing (List (List Char × List Char))
  | 0 => return handles
  | fuel + 1 => do
    match ← peek with
    | some (.directive d) =>
      skip
      match d with
      | .version major =>
        if seenVersion || major != 1 then throw .malformed
        directives true handles fuel
      | .tag h lead =>
        if (handles.lookup h).isSome then throw .malformed
        directives seenVersion ((h, lead) :: handles) fuel
      | .other => directives seenVersion handles fuel
    | _ => return handles

/-- Marks of the end of a document. -/
def skipEnds : (fuel : Nat) → Composing Unit
  | 0 => return ()
  | fuel + 1 => do
    if ← accept .documentEnd then skipEnds fuel

/-- A lexeme that ends the content of a document. -/
def endsContent : Option Lexeme → Bool
  | none | some (.directive _) | some .documentStart | some .documentEnd => true
  | _ => false

/-- The root of a document that begins with directives or a mark. -/
def explicitDocument (fuel : Nat) : Composing Nat := do
  let handles ← directives false [] fuel
  modify fun c => { c with handles := handles ++ standardHandles }
  expect .documentStart
  if endsContent (← peek) then add Node.absent
  else node true false fuel

/-- The graph of the only document, if there is one. -/
def document (fuel : Nat) : Composing (Option Graph) := do
  let root ←
    match ← peek with
    | none => return none
    | some (.directive _) | some .documentStart => explicitDocument fuel
    | some _ => do
      modify fun c => { c with handles := standardHandles }
      node true false fuel
  skipEnds fuel
  if (← peek).isSome then throw .malformed
  return some ⟨(← get).nodes, root⟩

end Composing

/-- The graph that the lexemes of a document describe. -/
def Graph.ofLexemes (xs : Lexemes) : Except Fault (Option Graph) :=
  (Composing.document (4 * xs.list.length + 8)).run' { lexemes := xs.list, fault := xs.fault }

end FieldPattern.Document

import SchemaBindings.Yaml.Tag
import SchemaBindings.Yaml.Token

/-!
The nodes of a document, read from its tokens. Nodes are known by their numbers: an alias is the number
of the node whose anchor it names, so that a node may stand at several places and even within itself.
-/

namespace SchemaBindings.Yaml

set_option autoImplicit false

open Text (Codes)

inductive Node
  | scalar (tag : Tag) (text : Codes)
  | sequence (tag : Tag) (items : List Nat)
  | mapping (tag : Tag) (entries : List (Nat × Nat))
  deriving Repr

namespace Node

def tag : Node → Tag
  | scalar t _ => t
  | sequence t _ => t
  | mapping t _ => t

def withTag (t : Tag) : Node → Node
  | scalar _ text => scalar t text
  | sequence _ items => sequence t items
  | mapping _ entries => mapping t entries

def empty : Node := scalar .null []

end Node

structure Graph where
  nodes : Array Node
  root : Nat

structure NodeSource where
  tokens : Tokens
  handles : List (String × String)
  anchors : List (String × Nat) := []
  nodes : Array Node := #[]

abbrev NodeReader := StateT NodeSource (Except Error)

namespace NodeReader

def peek : NodeReader (Option Token) := do
  let s ← get
  match s.tokens.list, s.tokens.fault with
  | t :: _, _ => return some t
  | [], some e => throw e
  | [], none => return none

def modifyTokens (f : List Token → List Token) : NodeReader Unit :=
  modify fun s => { s with tokens := { s.tokens with list := f s.tokens.list } }

def skip : NodeReader Unit := modifyTokens (·.drop 1)

def fail {α : Type} : NodeReader α := throw .malformed

def take (t : Token) : NodeReader Bool := do
  if (← peek) == some t then
    skip
    return true
  else return false

def expect (t : Token) : NodeReader Unit := do
  if !(← take t) then fail

def isAt (ts : List Token) : NodeReader Bool := do
  match ← peek with
  | some t => return ts.contains t
  | none => return false

def optionalAnchor : NodeReader (Option String) := do
  match ← peek with
  | some (.anchor name) => do skip; return some name
  | _ => return none

def optionalTag : NodeReader (Option (Option String × String)) := do
  match ← peek with
  | some (.tag handle ending) => do skip; return some (handle, ending)
  | _ => return none

def tagName : Option String × String → NodeReader String
  | (none, ending) => return ending
  | (some h, ending) => do
    match (← get).handles.lookup h with
    | some start => return start ++ ending
    | none => fail

def properties : NodeReader (Option String × Option String) := do
  let (anchor, tag) ← match ← optionalAnchor with
    | some a => do pure (some a, ← optionalTag)
    | none => do
      match ← optionalTag with
      | some t => do pure (← optionalAnchor, some t)
      | none => pure (none, none)
  return (anchor, ← tag.mapM tagName)

/-- A tag that leaves it open what the node is. -/
def isOpenTag (tag : Option String) : Bool := tag.isNone || tag == some "!"

def collectionTag (tag : Option String) (default : Tag) : Tag :=
  if isOpenTag tag then default else (tag.map Tag.ofName).getD default

def scalarTag (tag : Option String) (plain : Bool) (text : Codes) : Tag :=
  let shown := text.map Codes.shownChar
  match tag with
  | none => if plain then Plain.tag shown else .string
  | some "!" => Plain.tag shown
  | some name => Tag.ofName name

/-- A new node, which aliases may name from now on. No two nodes have one anchor. -/
def create (anchor : Option String) (n : Node) : NodeReader Nat := do
  let s ← get
  let number := s.nodes.size
  let anchors ← match anchor with
    | none => pure s.anchors
    | some a => if (s.anchors.lookup a).isSome then fail else pure ((a, number) :: s.anchors)
  set { s with nodes := s.nodes.push n, anchors }
  return number

/-- A new node whose content is read once it is there. -/
def createFrom {α : Type} (anchor : Option String) (make : List α → Node)
    (read : NodeReader (List α)) : NodeReader Nat := do
  let number ← create anchor (make [])
  let content ← read
  modify fun s => { s with nodes := s.nodes.setIfInBounds number (make content) }
  return number

def empty : NodeReader Nat := create none .empty

inductive Place
  | flow
  | block
  /-- A sequence here need not be indented. -/
  | entry
  deriving DecidableEq, Repr

mutual

/-- Reads a node. Each call has less fuel than the one before, and no document has more calls within
each other than tokens, up to a factor. -/
def node (fuel : Nat) (place : Place) : NodeReader Nat := do
  let fuel + 1 := fuel | fail
  if let some (.aliasOf name) ← peek then
    skip
    match (← get).anchors.lookup name with
    | some n => return n
    | none => fail
  else
    let (anchor, tag) ← properties
    let sequence := createFrom anchor (Node.sequence (collectionTag tag .sequence))
    let mapping := createFrom anchor (Node.mapping (collectionTag tag .mapping))
    let scalar (plain : Bool) (text : Codes) : NodeReader Nat :=
      create anchor (.scalar (scalarTag tag plain text) text)
    let t ← peek
    if place = .entry ∧ t = some .item then sequence (looseItems fuel)
    else match t with
      | some (.scalar text plain) => do skip; scalar plain text
      | some .flowSequenceStart => do skip; sequence (flowItems fuel true)
      | some .flowMappingStart => do skip; mapping (flowEntries fuel true)
      | some .sequenceStart =>
        if place = .flow then orEmpty anchor tag (scalar true []) else do skip; sequence (items fuel)
      | some .mappingStart =>
        if place = .flow then orEmpty anchor tag (scalar true []) else do skip; mapping (entries fuel)
      | _ => orEmpty anchor tag (scalar true [])
where
  orEmpty (anchor tag : Option String) (read : NodeReader Nat) : NodeReader Nat :=
    if anchor.isNone && tag.isNone then fail else read

def nodeUnless (fuel : Nat) (place : Place) (ends : List Token) : NodeReader Nat := do
  let fuel + 1 := fuel | fail
  if ← isAt ends then empty else node fuel place

def items (fuel : Nat) : NodeReader (List Nat) := do
  let fuel + 1 := fuel | fail
  if ← take .item then
    let n ← nodeUnless fuel .block [.item, .blockEnd]
    return n :: (← items fuel)
  else
    expect .blockEnd
    return []

/-- The items of a sequence that has the indentation of the mapping around it. -/
def looseItems (fuel : Nat) : NodeReader (List Nat) := do
  let fuel + 1 := fuel | fail
  if ← take .item then
    let n ← nodeUnless fuel .block [.item, .key, .value, .blockEnd]
    return n :: (← looseItems fuel)
  else return []

def entries (fuel : Nat) : NodeReader (List (Nat × Nat)) := do
  let fuel + 1 := fuel | fail
  let ends : List Token := [.key, .value, .blockEnd]
  if ← take .key then
    let k ← nodeUnless fuel .entry ends
    let v ← if ← take .value then nodeUnless fuel .entry ends else empty
    return (k, v) :: (← entries fuel)
  else
    expect .blockEnd
    return []

/-- The items between brackets; a comma has to come before each but the first. -/
def flowItems (fuel : Nat) (first : Bool) : NodeReader (List Nat) := do
  let fuel + 1 := fuel | fail
  if ← take .flowSequenceEnd then return []
  else
    if !first then expect .comma
    if ← take .flowSequenceEnd then return []
    else if ← take .key then
      let number ← createFrom none (Node.mapping .mapping) do
        let k ← nodeUnless fuel .flow [.value, .comma, .flowSequenceEnd]
        let v ← if ← take .value then nodeUnless fuel .flow [.comma, .flowSequenceEnd] else empty
        return [(k, v)]
      return number :: (← flowItems fuel false)
    else
      let n ← node fuel .flow
      return n :: (← flowItems fuel false)

def flowEntries (fuel : Nat) (first : Bool) : NodeReader (List (Nat × Nat)) := do
  let fuel + 1 := fuel | fail
  if ← take .flowMappingEnd then return []
  else
    if !first then expect .comma
    if ← take .flowMappingEnd then return []
    else if ← take .key then
      let k ← nodeUnless fuel .flow [.value, .comma, .flowMappingEnd]
      let v ← if ← take .value then nodeUnless fuel .flow [.comma, .flowMappingEnd] else empty
      return (k, v) :: (← flowEntries fuel false)
    else
      let k ← node fuel .flow
      return (k, ← empty) :: (← flowEntries fuel false)

end

def defaultHandles : List (String × String) := [("!", "!"), ("!!", Tag.common)]

/-- Reads directives. A version is given at most once, and no handle twice. -/
def directives (versioned : Bool) (handles : List (String × String)) :
    Nat → NodeReader (List (String × String))
  | 0 => fail
  | fuel + 1 => do
    match ← peek with
    | some (.directive d) => do
      skip
      match d with
      | .version major =>
        if versioned || major != 1 then fail else directives true handles fuel
      | .tag handle start =>
        if (handles.lookup handle).isSome then fail
        else directives versioned ((handle, start) :: handles) fuel
      | .other => directives versioned handles fuel
    | _ => return handles

def isDocumentMark : Token → Bool
  | .directive _ | .documentStart | .documentEnd => true
  | _ => false

def content (fuel : Nat) : NodeReader Nat := do
  match ← peek with
  | none => empty
  | some t => if isDocumentMark t then empty else node fuel .block

/-- Reads all tokens as one document, if there are any. A second document is refused at its start. -/
def document (fuel : Nat) : NodeReader (Option Nat) := do
  match ← peek with
  | none => return none
  | some t =>
    let root ← if isDocumentMark t && t != .documentEnd then do
        let own ← directives false [] fuel
        expect .documentStart
        modify fun s => { s with handles := own ++ defaultHandles }
        content fuel
      else node fuel .block
    modifyTokens (·.dropWhile (· == .documentEnd))
    if (← peek).isSome then
      let _ ← directives false [] fuel
      fail
    return some root

end NodeReader

open NodeReader in
def Graph.ofTokens (tokens : Tokens) : Except Error (Option Graph) := do
  let (root, s) ← StateT.run (document (4 * tokens.list.length + 4)) ⟨tokens, defaultHandles, [], #[]⟩
  return root.map (⟨s.nodes, ·⟩)

end SchemaBindings.Yaml

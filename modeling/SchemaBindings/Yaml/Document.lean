import SchemaBindings.Bytes.Base64
import SchemaBindings.Yaml.Graph
import SchemaBindings.Yaml.Number

/-!
The values of documents. Of several entries of a mapping with one key the last counts; an entry that
merges other mappings counts less than the entries beside it. What a collection holds is looked at
after the collection itself, and in the order in which collections are come upon: this order decides
which of several faults is the one that is found.
-/

namespace SchemaBindings.Yaml

set_option autoImplicit false

open Text (Codes)

def timestampOf (t : Codes) : Except Error Datum :=
  match Timestamp.ofText? (dropLineFeed (t.map Codes.shownChar)) with
  | none => .error .noTimestamp
  | some t =>
    match t.fault? with
    | some fault => .error (.calendar fault)
    | none => .ok (if t.clock.isSome then .dateTime else .date)

def bytesOf (t : Codes) : Except Error Datum :=
  match Base64.decodeLoosely? (t.map Codes.shownChar) with
  | some bytes => .ok (.bytes ⟨bytes.toArray⟩)
  | none => .error .malformed

def stringOf (t : Codes) : Datum :=
  match t.string? with
  | some s => .string s
  | none => .brokenString t

def scalarText (nodes : Array Node) : Nat → Node → Except Error Codes
  | _, .scalar _ text => .ok text
  | fuel, .mapping _ entries =>
    let isOwn (n : Nat) : Bool := nodes[n]?.any fun k => k.tag == .value
    match entries.find? (fun e => isOwn e.1), fuel with
    | some (_, v), fuel + 1 => scalarText nodes fuel (nodes.getD v .empty)
    | some _, 0 => .error .endless
    | none, _ => .error .malformed
  | _, .sequence .. => .error .malformed

/-- The value of a node whose tag is one of scalars. The tags that nobody knows have none. -/
def scalarValue (nodes : Array Node) (n : Node) : Except Error Datum := do
  let text := scalarText nodes nodes.size n
  match n.tag, n with
  | .null, _ => return (← text.map fun _ => .null)
  | .bool, _ => return .bool (← boolOf (← text))
  | .int, _ => return .int (← intOf (← text))
  | .float, _ => return .float (← floatOf (← text))
  | .timestamp, .scalar _ t => timestampOf t
  | .timestamp, _ => do
    let _ ← text
    throw .mappedTimestamp
  | .binary, _ => bytesOf (← text)
  | .string, _ => return stringOf (← text)
  | _, _ => throw .malformed

def sameKey : Datum → Datum → Bool
  | .null, .null => true
  | .bool a, .bool b => a == b
  | .int a, .int b => a == b
  | .string a, .string b => a == b
  | .brokenString a, .brokenString b => a == b
  | .bool a, .int b | .int b, .bool a => (if a then 1 else 0) == b
  | .float a, .float b => a == b
  | .bytes a, .bytes b => a == b
  | _, _ => false

def setEntry {α : Type} (entries : List (Datum × α)) (k : Datum) (v : α) : List (Datum × α) :=
  if entries.any fun e => sameKey e.1 k then
    entries.map fun e => if sameKey e.1 k then (e.1, v) else e
  else entries ++ [(k, v)]

/-- A value whose parts are known by the numbers of their nodes. Keys are scalars. -/
inductive Value
  | scalar (d : Datum)
  | list (items : List Nat)
  | pairs (items : List (Nat × Nat))
  | set (keys : List Datum)
  | map (entries : List (Datum × Nat))

namespace Value

def ofTag? : Tag → Option Value
  | .sequence => some (list [])
  | .orderedMap | .pairs => some (pairs [])
  | .set => some (set [])
  | .mapping => some (map [])
  | _ => none

def datum (parts : Array Datum) : Value → Datum
  | scalar d => d
  | list items => .list (items.map (parts.getD · .null))
  | pairs items => .list (items.map fun (a, b) => .pair (parts.getD a .null) (parts.getD b .null))
  | set keys => .set keys
  | map entries => .map (entries.map fun (k, v) => (k, parts.getD v .null))

/-- A collection may hold itself, so what lies deeper than this is cut. No setting does. -/
def depthLimit : Nat := 16

def table (values : Array (Option Value)) : Nat → Array Datum
  | 0 => values.map fun v => (v.map (datum #[])).getD .null
  | depth + 1 =>
    let parts := table values depth
    values.map fun v => (v.map (datum parts)).getD .null

end Value

structure Builder where
  /-- Entries that merge other mappings are replaced by theirs as the need arises. -/
  nodes : Array Node
  values : Array (Option Value)
  waiting : List Nat := []

abbrev Building := StateT Builder (Except Error)

namespace Builder

def fail {α : Type} : Building α := throw .malformed

def node (n : Nat) : Building Node := do return (← get).nodes.getD n .empty

def tagOf (b : Builder) (n : Nat) : Tag := (b.nodes.getD n .empty).tag

def entries (n : Nat) : Building (List (Nat × Nat)) := do
  match ← node n with
  | .mapping _ entries => return entries
  | _ => fail

def setNode (n : Nat) (f : Node → Node) : Building Unit :=
  modify fun b => { b with nodes := b.nodes.modify n f }

def setEntries (n : Nat) (entries : List (Nat × Nat)) : Building Unit :=
  setNode n fun x => .mapping x.tag entries

def setValue (n : Nat) (v : Value) : Building Unit :=
  modify fun b => { b with values := b.values.setIfInBounds n (some v) }

/-- Puts merged entries before the own ones of a mapping, from one of its entries on. The key for the
value itself becomes a text. -/
def flatten (merged : List (Nat × Nat)) (n start : Nat) : Nat → Building Unit
  | 0 => fail
  | fuel + 1 => do
    let own ← entries n
    let b ← get
    let kept := (own.drop start).takeWhile fun e => b.tagOf e.1 != .merge
    kept.forM fun e => if b.tagOf e.1 == .value then setNode e.1 (·.withTag .string) else pure ()
    let index := start + kept.length
    match own[index]? with
    | none => setEntries n (merged ++ own)
    | some (_, v) => do
      setEntries n (own.eraseIdx index)
      let entriesOf (n : Nat) : Building (List (Nat × Nat)) := do
        let _ ← entries n
        flatten [] n 0 fuel
        entries n
      let more ← match ← node v with
        | .scalar .. => fail
        | .mapping .. => entriesOf v
        | .sequence _ items => do pure (← items.mapM entriesOf).reverse.flatten
      flatten (merged ++ more) n index fuel

/-- Enough to flatten mappings within each other, as each step drops an entry that merges. -/
def flattenFuel (b : Builder) : Nat :=
  let merges : Node → Nat
    | .mapping _ entries => entries.countP fun e => b.tagOf e.1 == .merge
    | _ => 0
  (b.nodes.toList.map merges).foldr (· + ·) 0 + 1

def visit (n : Nat) : Building Unit := do
  let b ← get
  if (b.values.getD n none).isNone then
    let x ← node n
    match Value.ofTag? x.tag with
    | some v =>
      setValue n v
      modify fun b => { b with waiting := n :: b.waiting }
    | none => setValue n (.scalar (← scalarValue b.nodes x))

def key (n : Nat) : Building Datum := do
  visit n
  match (← get).values.getD n none with
  | some (.scalar d) => return d
  | _ => fail

def items (n : Nat) : Building (List Nat) := do
  match ← node n with
  | .sequence _ items => return items
  | _ => fail

def pair (n : Nat) : Building (Nat × Nat) := do
  let [(k, v)] ← entries n | fail
  visit k
  visit v
  return (k, v)

def mapEntries (n : Nat) : Building (List (Datum × Nat)) := do
  let _ ← entries n
  flatten [] n 0 (← get).flattenFuel
  (← entries n).foldlM (fun done (k, v) => do
    let d ← key k
    visit v
    return setEntry done d v) []

def fill (n : Nat) : Building Unit := do
  match (← get).values.getD n none with
  | some (.list _) => do
    let items ← items n
    items.forM visit
    setValue n (.list items)
  | some (.pairs _) => do setValue n (.pairs (← (← items n).mapM pair))
  | some (.set _) => do setValue n (.set ((← mapEntries n).map Prod.fst))
  | some (.map _) => do setValue n (.map (← mapEntries n))
  | _ => return

/-- Fills what waits, and then what waits after that. -/
def fillAll : Nat → Building Unit
  | 0 => return
  | fuel + 1 => do
    let waiting := (← get).waiting.reverse
    if !waiting.isEmpty then
      modify fun b => { b with waiting := [] }
      waiting.forM fill
      fillAll fuel

end Builder

open Builder in
def Graph.value (g : Graph) : Except Error Datum := do
  let build : Building Unit := do
    visit g.root
    fillAll (g.nodes.size + 1)
  let ((), b) ← build.run { nodes := g.nodes, values := g.nodes.map fun _ => none }
  return (Value.table b.values Value.depthLimit).getD g.root .null

def read (bytes : ByteArray) : Except Error Datum := do
  match ← Graph.ofTokens (Tokens.ofSource (Source.ofBytes bytes)) with
  | some g => g.value
  | none => return .null

end SchemaBindings.Yaml

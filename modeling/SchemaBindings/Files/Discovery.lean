import SchemaBindings.Files.Disk
import SchemaBindings.Files.IgnoreRules
import SchemaBindings.Settings.Basic

/-!
Finding the scripts below a root. Names that start with a dot are passed over, and so is what the
ignore file names; a folder that is passed over is not entered. Files come in the order of the names
along their paths.
-/

namespace SchemaBindings

set_option autoImplicit false

open Text

namespace FileTree

def isHidden (name : String) : Bool := name.toList.head? = some '.'

/-- A place below the root as ignore files see it. -/
def relative (place : List String) : String := "/".intercalate place

mutual

/-- The places of the files below a folder that stands at a place, in the order of names. -/
def filesBelow (ignored : String → Bool) (place : List String) : FileTree → List (List String)
  | file _ => []
  | folder children =>
    ((childFiles ignored place children).mergeSort fun a b => decide (a.1 ≤ b.1)).flatMap Prod.snd

def childFiles (ignored : String → Bool) (place : List String) :
    List (String × FileTree) → List (String × List (List String))
  | [] => []
  | (name, child) :: rest =>
    let here := place ++ [name]
    (name,
      if isHidden name then []
      else match child with
        | file _ => if ignored (relative here) then [] else [here]
        | folder children =>
          if ignored (relative here ++ "/") then []
          else filesBelow ignored here (folder children))
      :: childFiles ignored place rest

end

end FileTree

def hasExtension (extensions : List String) (name : String) : Bool :=
  (extensions.map lower).contains (lower (Path.nameSuffix name))

def FileTree.scripts (t : FileTree) (ignored : String → Bool) (extensions : List String) :
    List (List String) :=
  (t.filesBelow ignored []).filter fun place =>
    hasExtension extensions (place.getLast?.getD "")

inductive DiscoveryError
  | noRoot (root : Path)
  | rootNotFolder (root : Path)
  | file (e : FileError)
  | encoding (e : Utf8.DecodeError)
  | rule (e : IgnoreRuleError)
  deriving DecidableEq, Repr

def DiscoveryError.message : DiscoveryError → String
  | noRoot root => "Schema root not found: " ++ root.toString
  | rootNotFolder root => "Schema root is not a directory: " ++ root.toString
  | file e => e.message
  | encoding e => e.message
  | rule e => e.message

namespace Disk

/-- The rules of an ignore file; one that is not there has none. -/
def ignoreRules (d : Disk) (p : Path) : Except DiscoveryError (List IgnoreRule) := do
  if ← (d.exists? p).mapError .file then
    let bytes ← (d.read p).mapError .file
    let text ← (Utf8.decode bytes).mapError .encoding
    (IgnoreRule.ofText (String.ofList (unifyNewlines text.toList))).mapError .rule
  else return []

def scripts (d : Disk) (root : Path) (ignoreFile : String) (extensions : List String) :
    Except DiscoveryError (List (List String)) := do
  let some node ← (d.find? root).mapError .file | throw (.noRoot root)
  if !node.isFolder then throw (.rootNotFolder root)
  let rules ← d.ignoreRules (root.child ignoreFile)
  return node.scripts (IgnoreRule.ignores rules) extensions

end Disk

structure ScriptFiles where
  tables : List Path
  seeds : List Path
  deriving DecidableEq, Repr

def liesIn (folder : String) (place : List String) : Bool :=
  place.dropLast.any fun step => sameIgnoringCase step folder

/-- A script in a folder for seeds holds a seed, one in a folder for tables else holds a table, and
others count for nothing. -/
def classify (d : Discovery) (root : Path) (places : List (List String)) : ScriptFiles :=
  let seeds := places.filter (liesIn d.lookupsDirectory)
  let tables := places.filter fun place =>
    !liesIn d.lookupsDirectory place && liesIn d.tablesDirectory place
  let under := fun (place : List String) => Path.mk root.root (root.steps ++ place)
  ⟨tables.map under, seeds.map under⟩

def Disk.scriptFiles (disk : Disk) (root : String) (d : Discovery) :
    Except DiscoveryError ScriptFiles := do
  let root ← (disk.resolve (.ofString root)).mapError .file
  return classify d root (← disk.scripts root d.ignoreFile d.extensions)

end SchemaBindings

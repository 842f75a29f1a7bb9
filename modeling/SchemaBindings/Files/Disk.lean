import SchemaBindings.Bytes.Utf8
import SchemaBindings.Files.Path
import SchemaBindings.Files.Tree
import SchemaBindings.Text.Quoted
import SchemaBindings.Text.Trim

/-!
A disk: a tree of files and the directory that relative paths start from. Each operation says what it
found wrong and with which path.
-/

namespace SchemaBindings

set_option autoImplicit false

inductive FileFault
  | missing
  | exists
  | notFolder
  | isFolder
  | nameTooLong
  deriving DecidableEq, Repr

namespace FileFault

def code : FileFault → Nat
  | missing => 2
  | «exists» => 17
  | notFolder => 20
  | isFolder => 21
  | nameTooLong => 36

def text : FileFault → String
  | missing => "No such file or directory"
  | «exists» => "File exists"
  | notFolder => "Not a directory"
  | isFolder => "Is a directory"
  | nameTooLong => "File name too long"

end FileFault

/-- A failed operation, with the path that it was given. A path with a NUL character names nothing on
any disk. -/
inductive FileError
  | fault (fault : FileFault) (path : Option Path)
  | nul
  deriving DecidableEq, Repr

def FileError.message : FileError → String
  | .fault f p =>
    "[Errno " ++ ToString.toString f.code ++ "] " ++ f.text
      ++ (p.map fun p => ": " ++ Text.quoted p.toString).getD ""
  | .nul => "embedded null byte"

structure Disk where
  tree : FileTree
  /-- The place of the current directory, which may have been removed. -/
  cwd : List String

namespace Disk

def current (d : Disk) : Except FileError Path :=
  match d.tree.get? d.cwd with
  | some (.folder _) => .ok ⟨"/", d.cwd⟩
  | _ => .error (.fault .missing none)

def resolve (d : Disk) (p : Path) : Except FileError Path :=
  if p.hasNul then .error .nul
  else if p.isAbsolute then .ok (p.resolve d.cwd)
  else d.current.map fun base => p.resolve base.steps

def nameLimit : Nat := 255

def pathLimit : Nat := 4095

/-- Where a path leads: to a file or folder, or to a place in a folder where nothing stands yet. -/
inductive Target
  | node (place : List String) (node : FileTree)
  | vacant (place : List String)

def follow (t : FileTree) (place : List String) : List String → Except FileFault Target
  | [] =>
    match t.get? place with
    | some node => .ok (.node place node)
    | none => .error .missing
  | step :: rest =>
    match t.get? place with
    | none => .error .missing
    | some (.file _) => .error .notFolder
    | some (.folder cs) =>
      if step = ".." then follow t place.dropLast rest
      else if nameLimit < step.utf8ByteSize then .error .nameTooLong
      else if (cs.lookup step).isSome then follow t (place ++ [step]) rest
      else if rest = [] then .ok (.vacant (place ++ [step]))
      else .error .missing

def locate (d : Disk) (p : Path) : Except FileError Target :=
  if p.hasNul then .error .nul
  else if pathLimit < p.toString.utf8ByteSize then .error (.fault .nameTooLong p)
  else (follow d.tree (if p.isAbsolute then [] else d.cwd) p.steps).mapError (.fault · p)

def find (d : Disk) (p : Path) : Except FileError FileTree := do
  match ← d.locate p with
  | .node _ node => return node
  | .vacant _ => throw (.fault .missing p)

/-- What a path leads to, if anything. Only a path with a name that is too long is an error. -/
def find? (d : Disk) (p : Path) : Except FileError (Option FileTree) :=
  match d.find p with
  | .ok node => .ok (some node)
  | .error (.fault .nameTooLong p) => .error (.fault .nameTooLong p)
  | .error _ => .ok none

def exists? (d : Disk) (p : Path) : Except FileError Bool := (d.find? p).map (·.isSome)

def isFolder (d : Disk) (p : Path) : Except FileError Bool :=
  (d.find? p).map fun node => (node.map FileTree.isFolder).getD false

def isFile (d : Disk) (p : Path) : Except FileError Bool :=
  (d.find? p).map fun node => (node.map fun n => !n.isFolder).getD false

def read (d : Disk) (p : Path) : Except FileError ByteArray := do
  match ← d.find p with
  | .file content => return content
  | .folder _ => throw (.fault .isFolder p)

def makeFolder (d : Disk) (p : Path) : Except FileError Disk := do
  match ← d.locate p with
  | .node .. => throw (.fault .exists p)
  | .vacant place => return { d with tree := d.tree.put (.folder []) place }

/-- An attempt that may leave something behind even when it fails. -/
abbrev Attempt := Disk × Except FileError Unit

def acceptFolder (d : Disk) (p : Path) (e : FileError) : Attempt :=
  (d, match d.isFolder p with
    | .ok true => .ok ()
    | .ok false => .error e
    | .error e => .error e)

/-- Makes a folder and the folders that it stands in. The steps are given last first. -/
def makeFoldersFrom (root : String) (d : Disk) : List String → Attempt
  | [] =>
    match d.makeFolder ⟨root, []⟩ with
    | .ok d => (d, .ok ())
    | .error e => acceptFolder d ⟨root, []⟩ e
  | last :: up =>
    let p : Path := ⟨root, (last :: up).reverse⟩
    match d.makeFolder p with
    | .ok d => (d, .ok ())
    | .error (.fault .missing _) =>
      match makeFoldersFrom root d up with
      | (d, .error e) => (d, .error e)
      | (d, .ok ()) =>
        match d.makeFolder p with
        | .ok d => (d, .ok ())
        | .error (.fault .missing p) => (d, .error (.fault .missing p))
        | .error e => acceptFolder d p e
    | .error e => acceptFolder d p e

def makeFolders (d : Disk) (p : Path) : Attempt := makeFoldersFrom p.root d p.steps.reverse

def write (d : Disk) (p : Path) (content : ByteArray) : Except FileError Disk := do
  match ← d.locate p with
  | .node _ (.folder _) => throw (.fault .isFolder p)
  | .node place (.file _) => return { d with tree := d.tree.put (.file content) place }
  | .vacant place => return { d with tree := d.tree.put (.file content) place }

/-- The text of a file with line feeds for all line breaks, read whatever its bytes are. -/
def readText (d : Disk) (p : Path) : Except FileError String := do
  let bytes ← d.read p
  return String.ofList (Text.unifyNewlines (Utf8.decodeLossy bytes).toList)

def readScript (d : Disk) (p : Path) : Except FileError String := do
  let bytes ← d.read p
  return String.ofList (Text.unifyNewlines (Utf8.decodeLossy (Utf8.dropByteOrderMark bytes)).toList)

end Disk

end SchemaBindings

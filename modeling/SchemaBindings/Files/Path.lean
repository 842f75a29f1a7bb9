import SchemaBindings.Text.Case
import SchemaBindings.Text.Trim

/-!
Paths with slashes. Empty steps and steps `.` count for nothing; a step `..` is kept until the path
is made absolute.
-/

namespace SchemaBindings

set_option autoImplicit false

structure Path where
  /-- Empty, or the slashes that an absolute path starts with. -/
  root : String := ""
  steps : List String
  deriving DecidableEq, Repr

namespace Path

def isSlash (c : Char) : Bool := c == '/'

/-- Two slashes at the start are kept, and any other number counts as one. -/
def rootOf (cs : List Char) : String :=
  match (cs.takeWhile isSlash).length with
  | 0 => ""
  | 2 => "//"
  | _ => "/"

def ofString (s : String) : Path :=
  let cs := s.toList
  ⟨rootOf cs, ((Text.pieces isSlash cs).map String.ofList).filter fun step => step ≠ "" && step ≠ "."⟩

def toString (p : Path) : String :=
  if p.root = "" ∧ p.steps = [] then "." else p.root ++ "/".intercalate p.steps

def hasNul (p : Path) : Bool := p.toString.toList.contains '\x00'

def isAbsolute (p : Path) : Bool := p.root ≠ ""

def append (base p : Path) : Path := if p.isAbsolute then p else ⟨base.root, base.steps ++ p.steps⟩

def child (p : Path) (name : String) : Path := p.append (ofString name)

def parent (p : Path) : Path := ⟨p.root, p.steps.dropLast⟩

/-- Takes the steps one by one, `..` going back one. -/
def settle (steps : List String) : List String :=
  steps.foldl (fun done step => if step = ".." then done.dropLast else done ++ [step]) []

def resolve (cwd : List String) (p : Path) : Path :=
  ⟨"/", settle (if p.isAbsolute then p.steps else cwd ++ p.steps)⟩

/-- The ending of a file name from its last dot on; a name that starts or ends with that dot has
none. -/
def nameSuffix (name : String) : String :=
  let back := name.toList.reverse
  let ending := back.takeWhile (· ≠ '.')
  if ending.isEmpty ∨ back.length ≤ ending.length + 1 then ""
  else String.ofList ('.' :: ending.reverse)

instance : ToString Path := ⟨toString⟩

end Path

end SchemaBindings

/-!
Trees of files and folders. A place is the list of names that lead to it from the root. One tree becomes
another that has all its files and folders by a list of changes.
-/

namespace SchemaBindings

set_option autoImplicit false

inductive FileTree
  | file (content : ByteArray)
  | folder (children : List (String × FileTree))

namespace FileTree

def children : FileTree → List (String × FileTree)
  | file _ => []
  | folder cs => cs

def isFolder : FileTree → Bool
  | folder _ => true
  | file _ => false

def content? : FileTree → Option ByteArray
  | file b => some b
  | folder _ => none

def get? (t : FileTree) : List String → Option FileTree
  | [] => some t
  | name :: rest => (t.children.lookup name).bind fun c => c.get? rest

def setChild (name : String) (c : FileTree) : List (String × FileTree) → List (String × FileTree)
  | [] => [(name, c)]
  | (n, d) :: rest => if n == name then (n, c) :: rest else (n, d) :: setChild name c rest

/-- Puts a tree at a place, with folders on the way to it where nothing stands yet. Nothing is put
below a file. -/
def put (t : FileTree) (node : FileTree) : List String → FileTree
  | [] => node
  | name :: rest =>
    match t with
    | file b => file b
    | folder cs => folder (setChild name (((cs.lookup name).getD (folder [])).put node rest) cs)

def remove (t : FileTree) : List String → FileTree
  | [] => folder []
  | [name] =>
    match t with
    | file b => file b
    | folder cs => folder (cs.filter fun c => c.1 != name)
  | name :: next :: rest =>
    match t with
    | file b => file b
    | folder cs =>
      match cs.lookup name with
      | some c => folder (setChild name (c.remove (next :: rest)) cs)
      | none => folder cs

mutual

/-- The places of all files and folders below a folder that stands at a place; true for folders. -/
def places (place : List String) : FileTree → List (List String × Bool)
  | file _ => []
  | folder cs => placesOfAll place cs

def placesOfAll (place : List String) : List (String × FileTree) → List (List String × Bool)
  | [] => []
  | (name, c) :: rest =>
    (place ++ [name], c.isFolder) :: (c.places (place ++ [name]) ++ placesOfAll place rest)

end

@[simp] theorem get?_nil (t : FileTree) : t.get? [] = some t := rfl

@[simp] theorem lookup_setChild_self (name : String) (c : FileTree) (cs : List (String × FileTree)) :
    (setChild name c cs).lookup name = some c := by
  induction cs with
  | nil => simp [setChild]
  | cons x rest ih =>
    obtain ⟨n, d⟩ := x
    by_cases h : n = name
    · simp [setChild, h]
    · have h' : (name == n) = false := beq_false_of_ne fun e => h e.symm
      simp [setChild, h, List.lookup_cons, h', ih]

theorem lookup_setChild_of_ne {name other : String} (h : other ≠ name) (c : FileTree)
    (cs : List (String × FileTree)) : (setChild name c cs).lookup other = cs.lookup other := by
  have h' : (other == name) = false := beq_false_of_ne h
  induction cs with
  | nil => simp [setChild, List.lookup_cons, h']
  | cons x rest ih =>
    obtain ⟨n, d⟩ := x
    by_cases hn : n = name
    · subst hn; simp [setChild, List.lookup_cons, h']
    · simp [setChild, hn, List.lookup_cons, ih]

inductive Change
  | makeFolder (place : List String)
  | write (place : List String) (content : ByteArray)

mutual

/-- The changes that lead from what stands at a place, if anything, to a tree. Folders come before what
they hold. -/
def changes (place : List String) (old : Option FileTree) : FileTree → List Change
  | file content =>
    if old.bind content? = some content then [] else [.write place content]
  | folder cs =>
    (if (old.map isFolder).getD false then [] else [.makeFolder place])
      ++ childChanges place ((old.map children).getD []) cs

def childChanges (place : List String) (old : List (String × FileTree)) :
    List (String × FileTree) → List Change
  | [] => []
  | (name, c) :: rest =>
    c.changes (place ++ [name]) (old.lookup name) ++ childChanges place old rest

end

end FileTree

end SchemaBindings

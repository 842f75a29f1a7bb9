import SchemaBindings.Command.Execute
import SchemaBindings.Files.Tree
import Std.Time.Format

/-!
The program. It reads those parts of the disk that a request can reach, runs the request on them, and
does on the disk what it changed.
-/

namespace SchemaBindings.Program

set_option autoImplicit false

/-- Folders that lie deeper are taken for empty. -/
def depthLimit : Nat := 100

def fetch (depth : Nat) (path : String) : IO FileTree := do
  let here ← IO.FS.realPath path
  if !(← here.isDir) then return .file (← IO.FS.readBinFile path)
  else match depth with
    | 0 => return .folder []
    | depth + 1 =>
      let entries ← here.readDir
      let children ← entries.toList.filterMapM fun e => do
        try
          return some (e.fileName, ← fetch depth (path ++ "/" ++ e.fileName))
        catch _ => return none
      return .folder children

def fetch? (depth : Nat) (path : String) : IO (Option FileTree) := do
  try return some (← fetch depth path) catch _ => return none

def textOf (place : List String) : String := "/" ++ "/".intercalate place

/-- Puts a place of the disk into a tree, with the folders or the file on the way to it. -/
def mount (t : FileTree) (depth : Nat) (place : List String) : IO FileTree := do
  let mut t := t
  for n in [1:place.length] do
    let way := place.take n
    if (t.get? way).isNone then
      if let some node ← fetch? 0 (textOf way) then t := t.put node way
  match ← fetch? depth (textOf place) with
  | some node => return t.put node place
  | none => return t

def mountPath (d : Disk) (depth : Nat) (path : String) : IO Disk := do
  return { d with tree := ← mount d.tree depth ((Path.ofString path).resolve d.cwd).steps }

def settingsPaths (env : Settings.Environment) (r : Command.GenerateRequest) : List String :=
  r.settingsPath.toList ++ (env.value? Settings.fileVariable).toList
    ++ [Settings.usualFile.toString]

def folders (d : Disk) (s : Settings) : List String :=
  s.discovery.schemaRoot :: [s.outputDirectory, s.typeScriptDirectory].filterMap fun dir => do
    let dir ← dir.filter (!·.isEmpty)
    return (← (d.outputDirectory dir s.projectDirectory).toOption).toString

def reach (d : Disk) (env : Settings.Environment) : Command.Request → IO Disk
  | .resolve _ => return d
  | .parseTable path | .parseSeed path => mountPath d 0 path
  | .generate r => do
    let d ← (settingsPaths env r).foldlM (mountPath · 0 ·) d
    match Settings.load d env r.settingsPath with
    | .error _ => return d
    | .ok s =>
      match s.override r.overrides with
      | .error _ => return d
      | .ok s => (folders d s).foldlM (mountPath · depthLimit ·) d

def carryOut : FileTree.Change → IO Unit
  | .makeFolder place => IO.FS.createDirAll (textOf place)
  | .write place content => IO.FS.writeBinFile (textOf place) content

def environment : IO Settings.Environment :=
  (Settings.fileVariable :: Settings.settingVariables.map Prod.fst).filterMapM fun name => do
    return (← IO.getEnv name).map fun value => (name, value)

def run (args : List String) : IO UInt32 := do
  let cwd := (Path.ofString (← IO.currentDir).toString).steps
  let env ← environment
  let time := (← Std.Time.PlainDateTime.now).format "uuuu-MM-dd HH:mm:ss,SSS"
  let empty : Disk := ⟨← mount (.folder []) 0 cwd, cwd⟩
  let disk ← match Command.Request.ofArguments args with
    | .ok r => reach empty env r
    | .error _ => pure empty
  let (after, report) := Command.run ⟨disk, env, time⟩ args
  for change in after.tree.changes [] (some disk.tree) do
    carryOut change
  IO.print report.output
  IO.eprint report.errors
  return UInt32.ofNat report.exitCode

end SchemaBindings.Program

def main (args : List String) : IO UInt32 := SchemaBindings.Program.run args

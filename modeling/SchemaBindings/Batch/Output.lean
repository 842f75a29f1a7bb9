import SchemaBindings.Batch.Generation
import SchemaBindings.Files.Disk

/-!
Writing generated files. A file that holds its text already is left alone, and a file that cannot be
written does not keep the others from being written.
-/

namespace SchemaBindings

set_option autoImplicit false

inductive WriteStatus
  | written
  | unchanged
  | failed (e : FileError)
  deriving DecidableEq, Repr

namespace WriteStatus

def name : WriteStatus → String
  | written => "written"
  | unchanged => "unchanged"
  | failed _ => "failed"

def error? : WriteStatus → Option FileError
  | failed e => some e
  | _ => none

end WriteStatus

structure WriteOutcome where
  path : Path
  status : WriteStatus
  deriving DecidableEq, Repr

namespace Disk

/-- The directory that output goes to. A relative one is taken from the project's directory, or from
the current one. -/
def outputDirectory (d : Disk) (directory : String) (project : Option String) :
    Except FileError Path :=
  let p := Path.ofString directory
  if p.isAbsolute then .ok p
  else match project.filter (!·.isEmpty) with
    | some base => d.resolve ((Path.ofString base).append p)
    | none => do
      let base ← d.current
      d.resolve (base.append p)

def holds (d : Disk) (p : Path) (content : String) : Except FileError Bool := do
  if ← d.exists? p then return (← d.readText p) == content
  else return false

def update (d : Disk) (p : Path) (content : String) : Except FileError (Disk × WriteStatus) := do
  if ← d.holds p content then return (d, .unchanged)
  else return (← d.write p content.toUTF8, .written)

/-- A failure becomes a part of the outcome, but a path with a NUL character ends the run. -/
def failure (p : Path) (e : FileError) : Except FileError WriteOutcome :=
  match e with
  | .nul => .error .nul
  | e => .ok ⟨p, .failed e⟩

/-- Makes sure that a file holds the text, making the folders that it stands in. -/
def writeIfChanged (d : Disk) (directory : Path) (name content : String) :
    Disk × Except FileError WriteOutcome :=
  let p := directory.child name
  match d.makeFolders p.parent with
  | (d, .error e) => (d, failure p e)
  | (d, .ok ()) =>
    match d.update p content with
    | .ok (d, status) => (d, .ok ⟨p, status⟩)
    | .error e => (d, failure p e)

structure Order where
  directory : Path
  name : String
  content : String
  deriving DecidableEq, Repr

def writeAll (d : Disk) : List Order → Disk × Except FileError (List WriteOutcome)
  | [] => (d, .ok [])
  | o :: rest =>
    match d.writeIfChanged o.directory o.name o.content with
    | (d, .error e) => (d, .error e)
    | (d, .ok outcome) =>
      match d.writeAll rest with
      | (d, .error e) => (d, .error e)
      | (d, .ok outcomes) => (d, .ok (outcome :: outcomes))

def orders (d : Disk) (settings : Settings) (directory : Option String)
    (files : List GeneratedFile) : Except FileError (List Order) := do
  match directory.filter (!·.isEmpty) with
  | none => return []
  | some dir =>
    let place ← d.outputDirectory dir settings.projectDirectory
    return files.map fun f => ⟨place, f.fileName, f.content⟩

def writeFiles (d : Disk) (settings : Settings) (directory : Option String)
    (files : List GeneratedFile) : Disk × Except FileError (List WriteOutcome) :=
  match d.orders settings directory files with
  | .error e => (d, .error e)
  | .ok os => d.writeAll os

/-- Writes what a result and the settings ask for: C# files, then the manifest, then TypeScript
files. What is written changes no directory that they go to. -/
def writeResult (d : Disk) (settings : Settings) (r : GenerationResult) :
    Disk × Except FileError (List WriteOutcome) :=
  match d.writeFiles settings settings.outputDirectory
      (r.filesFor .csharp ++ if settings.writesManifest then r.filesFor .manifest else []) with
  | (d', .error e) => (d', .error e)
  | (d', .ok first) =>
    match d.orders settings settings.typeScriptDirectory (r.filesFor .typeScript) with
    | .error e => (d', .error e)
    | .ok orders =>
      match d'.writeAll orders with
      | (d', .error e) => (d', .error e)
      | (d', .ok second) => (d', .ok (first ++ second))

end Disk

def WriteOutcome.record (o : WriteOutcome) : LogRecord :=
  match o.status with
  | .written => ⟨.writer, .debug, "Wrote: " ++ o.path.toString⟩
  | .unchanged => ⟨.writer, .debug, "Unchanged: " ++ o.path.toString⟩
  | .failed e => ⟨.writer, .warning, "Failed to write " ++ o.path.toString ++ ": " ++ e.message⟩

end SchemaBindings

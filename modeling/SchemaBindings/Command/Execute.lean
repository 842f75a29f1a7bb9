import SchemaBindings.Command.Report
import SchemaBindings.Command.Request

/-!
Doing what the program is asked for. A command that fails says why, and its exit code is one; arguments
that fit no command have exit code two.
-/

namespace SchemaBindings.Command

set_option autoImplicit false

structure Surface where
  disk : Disk
  environment : Settings.Environment := []
  time : String

inductive Failure
  | settings (message : String)
  | script (path : String) (e : ScriptError)
  | other (message : String)
  deriving DecidableEq, Repr

def Failure.message : Failure → String
  | settings m => "Configuration error: " ++ m
  | script path e => "Could not parse " ++ path ++ ": " ++ e.message
  | other m => "Error: " ++ m

/-- Whether settings that cannot be loaded are missing or wrong; other faults keep them from being
looked at. -/
def isSettingsFault : Settings.LoadError → Bool
  | .missing _ | .empty _ | .invalid .. | .invalidEnvironment _ => true
  | .file (.fault f _) => f == .missing
  | .file .nul => true
  | .yaml e => e.isValueFault

def loadFailure (e : Settings.LoadError) : Failure :=
  if isSettingsFault e then .settings e.message else .other e.message

def fileFailure (e : FileError) : Failure := .other e.message

/-- The settings of a generation, whose root has to be a folder. -/
def configure (s : Surface) (r : GenerateRequest) : Except Failure Settings := do
  let loaded ← (Settings.load s.disk s.environment r.settingsPath).mapError loadFailure
  let settings ← (loaded.override r.overrides).mapError fun e => .settings e.message
  let root := Path.ofString settings.discovery.schemaRoot
  if ← (s.disk.isFolder root).mapError fileFailure then return settings
  else throw (.settings ("Schema root is not a directory: " ++ root.toString))

def generateFiles (s : Surface) (r : GenerateRequest) : Disk × Report :=
  match configure s r with
  | .error e => (s.disk, .failure "" e.message)
  | .ok settings =>
    let format := settings.log.format
    if !LogFormat.isValid format then
      (s.disk, .failure "" (Failure.other (invalidFormatMessage format)).message)
    else
      let run := runGeneration s.disk settings none none r.dry
      let level := if r.verbose then .debug else settings.log.level
      let log := LogFormat.text format s.time (keptRecords level run.records)
      (run.disk, match run.result with
        | .error e => .failure log (Failure.other e.message).message
        | .ok result => .ofLines log (summary result r.dry))

def readScriptFile (d : Disk) (path : String) : Except Failure String := do
  let p := Path.ofString path
  if ← (d.isFile p).mapError fileFailure then (d.readScript p).mapError fileFailure
  else throw (.other ("SQL file not found: " ++ p.toString))

def parseFailure (path : String) : ParseError → Failure
  | .script e => .script path e
  | .numeral e => .other e.message

def modelReport : Except Failure Json → Report
  | .ok j => .ofLines "" [Json.indented 0 j]
  | .error e => .failure "" e.message

def showTable (d : Disk) (path : String) : Report :=
  modelReport do
    let text ← readScriptFile d path
    tableJson <$> (Table.ofScript text).mapError (parseFailure path)

def showSeed (d : Disk) (path : String) : Report :=
  modelReport do
    let text ← readScriptFile d path
    seedJson <$> (Seed.ofScript text).mapError (.script path)

/-- The lookup table that a column points at; among all tables are the lookup tables. -/
def resolved (r : ResolveRequest) : Option String :=
  let lookups := Text.commaList r.lookups
  Reference.resolve? r.column (NameSet.ofList lookups)
    (NameSet.ofList (Text.commaList r.tables ++ lookups)) r.references

def showResolved (r : ResolveRequest) : Report :=
  .ofLines "" [((resolved r).filter (!·.isEmpty)).getD "(none)"]

def execute (s : Surface) : Request → Disk × Report
  | .generate r => generateFiles s r
  | .parseTable path => (s.disk, showTable s.disk path)
  | .parseSeed path => (s.disk, showSeed s.disk path)
  | .resolve r => (s.disk, showResolved r)

def usageReport : UsageError → Report
  | .help title => { output := (UsageError.help title).message }
  | e => { exitCode := 2, errors := e.message }

def run (s : Surface) (args : List String) : Disk × Report :=
  match Request.ofArguments args with
  | .error e => (s.disk, usageReport e)
  | .ok r => execute s r

end SchemaBindings.Command

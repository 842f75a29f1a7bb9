import SchemaBindings.Batch.Output
import SchemaBindings.Files.Discovery

/-!
A whole run: scripts are found and read, parsed, turned into files, and the files written. Nothing is
written unless the signal stays down up to the end of generation.
-/

namespace SchemaBindings

set_option autoImplicit false

/-- The texts of the scripts at the paths; a path that cannot be read gives a diagnostic instead. A
path with a NUL character ends the run. -/
def readSources (d : Disk) : List Path → Except FileError (List Source × List Diagnostic)
  | [] => .ok ([], [])
  | p :: rest =>
    match d.readScript p with
    | .error .nul => .error .nul
    | .ok text => (readSources d rest).map fun (sources, more) => (⟨p.toString, text⟩ :: sources, more)
    | .error e => (readSources d rest).map fun (sources, more) =>
        (sources, ⟨p.toString, .unreadable e⟩ :: more)

inductive RunError
  | discovery (e : DiscoveryError)
  | numeral (e : Text.NumeralError)
  | file (e : FileError)
  deriving DecidableEq, Repr

def RunError.message : RunError → String
  | discovery e => e.message
  | numeral e => e.message
  | file e => e.message

structure RunResult where
  generation : GenerationResult := {}
  outcomes : List WriteOutcome := []
  cancelled : Bool := false
  deriving DecidableEq, Repr

def writtenCount (outcomes : List WriteOutcome) : Nat :=
  (outcomes.filter fun o => o.status == .written).length

structure RunState where
  disk : Disk
  cache : Option Cache
  /-- Kept for runs that no signal stops. -/
  records : List LogRecord := []
  result : Except RunError RunResult

namespace RunState

def info (message : String) : LogRecord := ⟨.generator, .info, message⟩

def foundRecord (files : ScriptFiles) (root : String) : LogRecord :=
  info ("Found " ++ toString files.tables.length ++ " table files and "
    ++ toString files.seeds.length ++ " seed files under " ++ root)

def unreadRecord (x : Diagnostic) : LogRecord :=
  ⟨.generator, .warning, "Failed to read SQL file " ++ x.path ++ ": " ++ x.issue.message⟩

def summaryRecord (r : RunResult) : LogRecord :=
  info (toString r.generation.tableCount ++ " tables, " ++ toString r.generation.lookupCount
    ++ " lookup tables, " ++ toString (writtenCount r.outcomes) ++ " files written")

def cancelled (disk : Disk) (cache : Option Cache) (records : List LogRecord) : RunState where
  disk
  cache
  records := records ++ [info "Generation cancelled"]
  result := .ok { cancelled := true }

def finish (disk : Disk) (cache : Option Cache) (settings : Settings) (dry : Bool)
    (records : List LogRecord) (g : GenerationResult) : RunState :=
  match if dry then (disk, .ok []) else disk.writeResult settings g with
  | (disk, .error e) => { disk, cache, records, result := .error (.file e) }
  | (disk, .ok outcomes) =>
    let r : RunResult := { generation := g, outcomes }
    { disk, cache, result := .ok r
      records := records ++ outcomes.map WriteOutcome.record ++ [summaryRecord r] }

def process (disk : Disk) (cache : Option Cache) (settings : Settings) (signal : Signal)
    (dry : Bool) (records : List LogRecord) (tables seeds : List Source)
    (unread : List Diagnostic) : RunState :=
  match ParsedSchema.ofSources cache signal tables seeds with
  | (none, cache) => cancelled disk cache records
  | (some (parsed, signal), cache) =>
    let parsed := { parsed with diagnostics := unread ++ parsed.diagnostics }
    let records := records ++ parsed.records tables seeds
    match signal.after 1 with
    | none => cancelled disk cache records
    | some signal =>
      let records := records ++ generationRecords parsed settings
      match generate parsed settings signal with
      | .error e => { disk, cache, records, result := .error (.numeral e) }
      | .ok none => cancelled disk cache records
      | .ok (some (g, signal)) =>
        match signal.after 1 with
        | none => cancelled disk cache records
        | some _ => finish disk cache settings dry records g

end RunState

open RunState in
/-- Runs a generation. The signal is looked at after reading, after parsing and after generating,
besides the looks within these steps. -/
def runGeneration (disk : Disk) (settings : Settings) (signal : Signal) (cache : Option Cache)
    (dry : Bool) : RunState :=
  match disk.scriptFiles settings.discovery.schemaRoot settings.discovery with
  | .error e => { disk, cache, result := .error (.discovery e) }
  | .ok files =>
    let found := foundRecord files settings.discovery.schemaRoot
    match (do
      let (tables, unreadTables) ← readSources disk files.tables
      let (seeds, unreadSeeds) ← readSources disk files.seeds
      return (tables, seeds, unreadTables ++ unreadSeeds)) with
    | .error e => { disk, cache, records := [found], result := .error (.file e) }
    | .ok (tables, seeds, unread) =>
      let records := found :: unread.map unreadRecord
      match signal.after 1 with
      | none => cancelled disk cache records
      | some signal => process disk cache settings signal dry records tables seeds unread

end SchemaBindings

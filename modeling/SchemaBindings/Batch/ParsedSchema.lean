import SchemaBindings.Batch.Cache
import SchemaBindings.Batch.Log
import SchemaBindings.Batch.Source

/-!
The first phase of a batch: every script is read by itself, and what they hold is put together. Of
several seeds for one table the first counts.
-/

namespace SchemaBindings

set_option autoImplicit false

open Text (lower sameIgnoringCase)

structure SourcedSeed where
  path : String
  seed : Seed
  deriving DecidableEq, Repr

structure ParsedSchema where
  tables : List Table := []
  /-- In the order of the scripts; no two are for one table ignoring case. -/
  seeds : List SourcedSeed := []
  diagnostics : List Diagnostic := []
  deriving DecidableEq, Repr

def findSeed? (seeds : List SourcedSeed) (table : String) : Option SourcedSeed :=
  seeds.find? fun s => sameIgnoringCase s.seed.tableName table

def ParsedSchema.seedFor? (p : ParsedSchema) (table : String) : Option SourcedSeed :=
  findSeed? p.seeds table

structure Outcome where
  path : String
  result : Except ParseError Model

def readAll (kind : SourceKind) : Option Cache → List Source → List Outcome × Option Cache
  | cache, [] => ([], cache)
  | cache, s :: rest =>
    let (result, cache) := readModel cache kind s.text
    let (more, cache) := readAll kind cache rest
    (⟨s.path, result⟩ :: more, cache)

def Outcome.table? (o : Outcome) : Option Table := o.result.toOption.bind Model.table?

def Outcome.failure? (kind : SourceKind) (o : Outcome) : Option Diagnostic :=
  match o.result with
  | .ok _ => none
  | .error e => some ⟨o.path, .ofParseError kind e⟩

def addSeed (acc : List SourcedSeed × List Diagnostic) (o : Outcome) :
    List SourcedSeed × List Diagnostic :=
  match o.result with
  | .error e => (acc.1, acc.2 ++ [⟨o.path, .ofParseError .seed e⟩])
  | .ok (.table _) => acc
  | .ok (.seed s) =>
    match findSeed? acc.1 s.tableName with
    | some first => (acc.1, acc.2 ++ [⟨o.path, .duplicateSeed s.tableName first.path⟩])
    | none => (acc.1 ++ [⟨o.path, s⟩], acc.2)

def ParsedSchema.ofOutcomes (tables seeds : List Outcome) : ParsedSchema :=
  let (kept, diagnostics) := seeds.foldl addSeed ([], [])
  { tables := tables.filterMap Outcome.table?
    seeds := kept
    diagnostics := tables.filterMap (Outcome.failure? .table) ++ diagnostics }

/-- Reads all scripts, tables first. The signal is looked at before each and between the two kinds.
The cache keeps what was read before the signal went up. -/
def ParsedSchema.ofSources (cache : Option Cache) (signal : Signal) (tables seeds : List Source) :
    Option (ParsedSchema × Signal) × Option Cache :=
  let (tableOutcomes, cache) := readAll .table cache (signal.reached tables)
  match signal.after (tables.length + 1) with
  | none => (none, cache)
  | some signal =>
    let (seedOutcomes, cache) := readAll .seed cache (signal.reached seeds)
    (match signal.after seeds.length with
      | none => none
      | some signal => some (.ofOutcomes tableOutcomes seedOutcomes, signal), cache)

def failureRecord (kind : SourceKind) (path : String) : ParseError → LogRecord
  | .script e => ⟨.generator, .warning, "Skipping " ++ kind.name ++ " file " ++ path ++ ": " ++ e.message⟩
  | .numeral e => ⟨.generator, .warning,
      "Unexpected error parsing " ++ kind.name ++ " file " ++ path ++ ": " ++ e.message⟩

def sourceRecords (kind : SourceKind) (s : Source) : List LogRecord :=
  let empty := match kind with
    | .table => 0
    | .seed => Seed.emptyGroups s.text
  List.replicate empty ⟨.seedParser, .debug, "Dropping empty VALUES row"⟩
    ++ match Model.ofScript kind s.text with
      | .ok _ => []
      | .error e => [failureRecord kind s.path e]

def duplicateRecord? (d : Diagnostic) : Option LogRecord :=
  match d.issue with
  | .duplicateSeed table first => some ⟨.generator, .warning,
      "Duplicate seed data for " ++ table ++ " in " ++ d.path ++ ", keeping " ++ first⟩
  | _ => none

/-- The log of the phase, when no cache is used and no signal goes up. -/
def ParsedSchema.records (p : ParsedSchema) (tables seeds : List Source) : List LogRecord :=
  tables.flatMap (sourceRecords .table) ++ seeds.flatMap (sourceRecords .seed)
    ++ p.diagnostics.filterMap duplicateRecord?

end SchemaBindings

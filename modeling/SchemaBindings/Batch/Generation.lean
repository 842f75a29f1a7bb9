import SchemaBindings.Batch.ParsedSchema
import SchemaBindings.Code.LookupBinding
import SchemaBindings.Code.RegularBinding
import SchemaBindings.Code.TypeScript

/-!
The second phase of a batch: the files of every table that is kept. A table is left out when the
settings exclude it, or when an earlier table that is kept has its name.
-/

namespace SchemaBindings

set_option autoImplicit false

open Text (lower sameIgnoringCase NumeralError)

inductive Target
  | csharp
  | typeScript
  | manifest
  deriving DecidableEq, Repr

def Target.name : Target → String
  | csharp => "csharp"
  | typeScript => "typescript"
  | manifest => "manifest"

structure GeneratedFile where
  fileName : String
  content : String
  tableName : String
  target : Target
  deriving DecidableEq, Repr

inductive Fate
  | excluded
  | duplicate
  | kept
  deriving DecidableEq, Repr

/-- The fate of each table; `seen` holds the names of those kept before. -/
def fatesFrom (settings : Settings) (seen : List String) : List Table → List (Table × Fate)
  | [] => []
  | t :: rest =>
    if settings.excludes t.tableName then (t, .excluded) :: fatesFrom settings seen rest
    else if seen.any (sameIgnoringCase · t.tableName) then
      (t, .duplicate) :: fatesFrom settings seen rest
    else (t, .kept) :: fatesFrom settings (t.tableName :: seen) rest

def fates (settings : Settings) (tables : List Table) : List (Table × Fate) :=
  fatesFrom settings [] tables

@[simp] theorem map_fst_fatesFrom (settings : Settings) (seen : List String) (tables : List Table) :
    (fatesFrom settings seen tables).map Prod.fst = tables := by
  induction tables generalizing seen with
  | nil => rfl
  | cons t rest ih =>
    simp only [fatesFrom]
    split
    · simp [ih]
    · split <;> simp [ih]

@[simp] theorem length_fates (settings : Settings) (tables : List Table) :
    (fates settings tables).length = tables.length := by
  have := congrArg List.length (map_fst_fatesFrom settings [] tables)
  rwa [List.length_map] at this

structure Surroundings where
  settings : Settings
  seeds : List SourcedSeed
  lookups : NameSet
  tables : NameSet

def ParsedSchema.surroundings (p : ParsedSchema) (settings : Settings) : Surroundings where
  settings
  seeds := p.seeds
  lookups := NameSet.ofList (p.seeds.map fun s => s.seed.tableName)
  tables := NameSet.ofList (p.tables.map Table.tableName)

structure TableResult where
  files : List GeneratedFile := []
  manifest : List Code.ManifestEntry := []
  diagnostics : List Diagnostic := []
  deriving DecidableEq, Repr

def keyFile (sur : Surroundings) (t : Table) : GeneratedFile :=
  ⟨Code.keyClassFileName t, Code.keyClass t sur.settings.nameSpace, t.tableName, .csharp⟩

def regularResult (sur : Surroundings) (t : Table) : TableResult where
  files := [keyFile sur t,
    ⟨Code.bindingFileName t,
      Code.regularBinding t sur.settings.nameSpace sur.lookups sur.tables, t.tableName, .csharp⟩]

def widthDiagnostics (s : SourcedSeed) : List Diagnostic :=
  s.seed.mismatchedRows.map fun row => ⟨s.path, .rowWidth row s.seed.columnNames.length⟩

def lookupResult (sur : Surroundings) (t : Table) (s : SourcedSeed) :
    Except NumeralError TableResult := do
  let fallback := sur.settings.keyFallback
  let binding ← Code.lookupBinding t s.seed sur.settings.nameSpace sur.lookups sur.tables fallback
  let script ← Code.enumModule t s.seed fallback
  let scriptName := Code.typeScriptFileName t.tableName
  return {
    files := [keyFile sur t, ⟨Code.bindingFileName t, binding, t.tableName, .csharp⟩,
      ⟨scriptName, script, t.tableName, .typeScript⟩]
    manifest := [⟨t.tableName, scriptName, script⟩]
    diagnostics := widthDiagnostics s }

def tableResult (sur : Surroundings) : Table × Fate → Except NumeralError TableResult
  | (_, .excluded) => .ok {}
  | (t, .duplicate) => .ok { diagnostics := [⟨t.qualifiedName, .duplicateTable t.tableName⟩] }
  | (t, .kept) =>
    match findSeed? sur.seeds t.tableName with
    | some s => lookupResult sur t s
    | none => .ok (regularResult sur t)

/-- Seeds without a table, in the order of the small forms of their names. -/
def orphanDiagnostics (p : ParsedSchema) : List Diagnostic :=
  let tables := NameSet.ofList (p.tables.map Table.tableName)
  let ordered := p.seeds.mergeSort fun a b =>
    decide (lower a.seed.tableName ≤ lower b.seed.tableName)
  (ordered.filter fun s => !tables.contains (lower s.seed.tableName)).map fun s =>
    ⟨s.path, .orphanSeed s.seed.tableName⟩

structure GenerationResult where
  files : List GeneratedFile := []
  diagnostics : List Diagnostic := []
  tableCount : Nat := 0
  lookupCount : Nat := 0
  deriving DecidableEq, Repr

namespace GenerationResult

def filesFor (r : GenerationResult) (target : Target) : List GeneratedFile :=
  r.files.filter fun f => f.target == target

def manifestFiles (entries : List Code.ManifestEntry) : List GeneratedFile :=
  if entries.isEmpty then []
  else [⟨Code.manifestFileName, Code.manifest entries, "", .manifest⟩]

def assemble (p : ParsedSchema) (results : List TableResult) : GenerationResult where
  files := results.flatMap TableResult.files ++ manifestFiles (results.flatMap TableResult.manifest)
  diagnostics := p.diagnostics ++ results.flatMap TableResult.diagnostics ++ orphanDiagnostics p
  tableCount := (results.filter fun r => !r.files.isEmpty).length
  lookupCount := (results.flatMap TableResult.manifest).length

end GenerationResult

/-- Makes all files of a schema. The signal is looked at before each table. -/
def generate (p : ParsedSchema) (settings : Settings) (signal : Signal) :
    Except NumeralError (Option (GenerationResult × Signal)) := do
  let plan := fates settings p.tables
  let results ← (signal.reached plan).mapM (tableResult (p.surroundings settings))
  return (signal.after plan.length).map fun s => (.assemble p results, s)

def tableRecords (sur : Surroundings) : Table × Fate → List LogRecord
  | (t, .excluded) => [⟨.generator, .debug, "Excluded table: " ++ t.tableName⟩]
  | (_, .duplicate) => []
  | (t, .kept) =>
    match findSeed? sur.seeds t.tableName with
    | none => []
    | some s => s.seed.mismatchedRows.map fun row => ⟨.generator, .warning,
        "Skipping seed row for " ++ t.tableName ++ ": " ++ toString row.length ++ " values for "
          ++ toString s.seed.columnNames.length ++ " columns"⟩

def planRecords (sur : Surroundings) : List (Table × Fate) → List LogRecord
  | [] => []
  | x :: rest =>
    tableRecords sur x ++ match tableResult sur x with
      | .ok _ => planRecords sur rest
      | .error _ => []

def generationRecords (p : ParsedSchema) (settings : Settings) : List LogRecord :=
  planRecords (p.surroundings settings) (fates settings p.tables)

end SchemaBindings

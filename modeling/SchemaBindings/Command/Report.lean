import SchemaBindings.Batch.Run
import SchemaBindings.Json.Writer

/-!
What a run of the program prints: the summary of a generation, and tables and seeds as JSON.
-/

namespace SchemaBindings.Command

set_option autoImplicit false

/-- What is left of a run of the program besides the files. -/
structure Report where
  exitCode : Nat := 0
  output : String := ""
  errors : String := ""
  deriving DecidableEq, Repr

namespace Report

def failure (log message : String) : Report := ⟨1, "", log ++ message ++ "\n"⟩

def ofLines (log : String) (lines : List String) : Report :=
  ⟨0, String.join (lines.map (· ++ "\n")), log⟩

end Report

def failedLine (o : WriteOutcome) : Option String :=
  o.status.error?.map fun e => "    ✗ " ++ o.path.toString ++ ": " ++ e.message

def writeLines (outcomes : List WriteOutcome) : List String :=
  let failed := outcomes.filterMap failedLine
  let unchanged := outcomes.filter fun o => o.status == .unchanged
  ("  Files written:   " ++ toString (writtenCount outcomes) ++ " (" ++ toString unchanged.length
    ++ " unchanged, " ++ toString failed.length ++ " failed)") :: failed

def diagnosticLines (ds : List Diagnostic) : List String :=
  if ds.isEmpty then []
  else ["", "Diagnostics (" ++ toString ds.length ++ "):"]
    ++ ds.map fun d => "  ! " ++ d.path ++ " [" ++ d.issue.kind ++ "] " ++ d.issue.message

def summary (r : RunResult) (dry : Bool) : List String :=
  if r.cancelled then ["Generation cancelled"]
  else
    ["", "✓ Generation complete" ++ (if dry then " (dry run)" else ""),
      "  Tables:          " ++ toString r.generation.tableCount,
      "  Lookup tables:   " ++ toString r.generation.lookupCount,
      "  Files generated: " ++ toString r.generation.files.length]
    ++ (if dry then [] else writeLines r.outcomes)
    ++ diagnosticLines r.generation.diagnostics

def columnJson (c : Column) : Json :=
  .object [("name", .string c.name), ("sql_type", .string c.sqlType), ("nullable", .bool c.nullable),
    ("max_length", Json.ofOption .int c.maxLength), ("is_identity", .bool c.isIdentity),
    ("is_primary_key", .bool c.isPrimaryKey),
    ("references_table", Json.ofOption .string c.referencesTable)]

def tableJson (t : Table) : Json :=
  .object [("schema_name", .string t.schemaName), ("table_name", .string t.tableName),
    ("columns", .array (t.columns.map columnJson)),
    ("primary_key_column", Json.ofOption .string t.primaryKeyColumn)]

def seedJson (s : Seed) : Json :=
  .object [("schema_name", .string s.schemaName), ("table_name", .string s.tableName),
    ("column_names", Json.ofStrings s.columnNames),
    ("rows", .array (s.rows.map fun row => .object [("values", Json.ofStrings row)]))]

end SchemaBindings.Command

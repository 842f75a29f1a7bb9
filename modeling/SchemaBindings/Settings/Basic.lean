import SchemaBindings.Schema.Seed
import SchemaBindings.Settings.Datum

/-!
The settings of a run.
-/

namespace SchemaBindings

set_option autoImplicit false

structure Discovery where
  schemaRoot : String := "."
  tablesDirectory : String := "Tables"
  lookupsDirectory : String := "LookupTables"
  ignoreFile : String := ".gitignore"
  /-- Small, each with its dot. -/
  extensions : List String := [".sql"]
  deriving DecidableEq, Repr

inductive LogLevel
  | debug
  | info
  | warning
  | error
  deriving DecidableEq, Repr

namespace LogLevel

def name : LogLevel → String
  | debug => "DEBUG"
  | info => "INFO"
  | warning => "WARNING"
  | error => "ERROR"

def rank : LogLevel → Nat
  | debug => 10
  | info => 20
  | warning => 30
  | error => 40

def ofName? (s : String) : Option LogLevel := [debug, info, warning, error].find? (·.name == s)

theorem ofName?_name (l : LogLevel) : ofName? l.name = some l := by cases l <;> rfl

end LogLevel

structure LogSettings where
  level : LogLevel := .info
  format : String := "%(asctime)s - %(name)s - %(levelname)s - %(message)s"
  deriving DecidableEq, Repr

structure Settings where
  nameSpace : String := "Generated.Entities"
  outputDirectory : Option String := none
  typeScriptDirectory : Option String := none
  /-- What relative output directories are relative to. -/
  projectDirectory : Option String := none
  excludedTables : List String := []
  discovery : Discovery := {}
  keyFallback : KeyFallback := .firstColumn
  workers : Int := 1
  writesManifest : Bool := false
  log : LogSettings := {}
  deriving DecidableEq, Repr

namespace Settings

def excludes (s : Settings) (table : String) : Bool :=
  s.excludedTables.any fun name => Text.sameIgnoringCase name table

end Settings

def KeyFallback.name : KeyFallback → String
  | firstColumn => "first_column"
  | none => "none"

def KeyFallback.ofName? (s : String) : Option KeyFallback :=
  [firstColumn, none].find? (·.name == s)

namespace Settings

private def text (s : String) : Datum := .string s

private def optionalText (s : Option String) : Datum := (s.map Datum.string).getD .null

private def entries (es : List (String × Datum)) : Datum :=
  .map (es.map fun (k, v) => (.string k, v))

def toDatum (s : Settings) : Datum :=
  entries [
    ("namespace", text s.nameSpace),
    ("output_dir", optionalText s.outputDirectory),
    ("typescript_output_dir", optionalText s.typeScriptDirectory),
    ("project_dir", optionalText s.projectDirectory),
    ("exclude_tables", .list (s.excludedTables.map text)),
    ("discovery", entries [
      ("schema_root", text s.discovery.schemaRoot),
      ("tables_dir_name", text s.discovery.tablesDirectory),
      ("lookup_tables_dir_name", text s.discovery.lookupsDirectory),
      ("ignore_file", text s.discovery.ignoreFile),
      ("extensions", .list (s.discovery.extensions.map text))]),
    ("id_column_fallback", text s.keyFallback.name),
    ("max_workers", .int s.workers),
    ("write_typescript_manifest", .bool s.writesManifest),
    ("logging", entries [("level", text s.log.level.name), ("format", text s.log.format)])]

end Settings

end SchemaBindings

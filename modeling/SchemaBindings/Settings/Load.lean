import SchemaBindings.Files.Disk
import SchemaBindings.Settings.Check
import SchemaBindings.Yaml.Document

/-!
Where settings come from: a file that is named, a file that the environment names, the file with the
usual name in the current directory, or else single values of the environment.
-/

namespace SchemaBindings.Settings

set_option autoImplicit false

abbrev Environment := List (String × String)

/-- The value of a variable; an empty one counts for nothing. -/
def Environment.value? (env : Environment) (name : String) : Option String :=
  (List.lookup name env).filter (!·.isEmpty)

inductive LoadError
  | missing (path : Path)
  | file (e : FileError)
  | yaml (e : Yaml.Error)
  | empty (path : Path)
  | invalid (path : Path) (e : Error)
  | invalidEnvironment (e : Error)
  deriving DecidableEq, Repr

def LoadError.message : LoadError → String
  | missing p => "Config file not found: " ++ p.toString
  | file e => e.message
  | yaml e => e.message
  | empty p => "Empty configuration file: " ++ p.toString
  | invalid p e => "Invalid configuration in " ++ p.toString ++ ": " ++ e.message
  | invalidEnvironment e => "Invalid configuration from environment: " ++ e.message

def ofFile (d : Disk) (p : Path) : Except LoadError Settings := do
  if !(← (d.exists? p).mapError .file) then throw (.missing p)
  let bytes ← (d.read p).mapError .file
  let value ← (Yaml.read bytes).mapError .yaml
  if value.isEmpty then throw (.empty p)
  (ofDatum value).mapError (.invalid p)

def fileVariable : String := "SQL_CODEGEN_CONFIG"

def usualFile : Path := .ofString "sql-codegen.yaml"

def settingVariables : List (String × String) :=
  [("SQL_CODEGEN_NAMESPACE", "namespace"), ("SQL_CODEGEN_OUTPUT_DIR", "output_dir"),
    ("SQL_CODEGEN_TYPESCRIPT_OUTPUT_DIR", "typescript_output_dir"),
    ("SQL_CODEGEN_EXCLUDE_TABLES", "exclude_tables"), ("SQL_CODEGEN_PROJECT_DIR", "project_dir")]

def ofVariables (env : Environment) : Datum :=
  .map (settingVariables.filterMap fun (source, name) =>
    (env.value? source).map fun v => (.string name, .string v))

def ofEnvironment (d : Disk) (env : Environment) : Except LoadError Settings := do
  match env.value? fileVariable with
  | some path => ofFile d (.ofString path)
  | none =>
    if ← (d.exists? usualFile).mapError .file then ofFile d usualFile
    else (ofDatum (ofVariables env)).mapError .invalidEnvironment

/-- Finds settings; an empty path names no file. -/
def load (d : Disk) (env : Environment) (path : Option String) : Except LoadError Settings :=
  match path.filter (!·.isEmpty) with
  | some p => ofFile d (.ofString p)
  | none => ofEnvironment d env

/-- Values for single settings that count more than what is loaded, unless they are empty. -/
structure Overrides where
  schemaRoot : Option String := none
  outputDirectory : Option String := none
  typeScriptDirectory : Option String := none
  nameSpace : Option String := none
  excluded : Option String := none
  deriving DecidableEq, Repr

def replaceEntry (key : String) (text : Option String) (entries : List (Datum × Datum)) :
    List (Datum × Datum) :=
  match text.filter (!·.isEmpty) with
  | none => entries
  | some t => entries.map fun (k, v) => match k with
    | .string name => (k, if name == key then .string t else v)
    | _ => (k, v)

def changeGroup (key : String) (f : List (Datum × Datum) → List (Datum × Datum))
    (entries : List (Datum × Datum)) : List (Datum × Datum) :=
  entries.map fun (k, v) => match k, v with
    | .string name, .map group => (k, .map (if name == key then f group else group))
    | _, _ => (k, v)

def Overrides.change (o : Overrides) (entries : List (Datum × Datum)) : List (Datum × Datum) :=
  replaceEntry "output_dir" o.outputDirectory
    (replaceEntry "typescript_output_dir" o.typeScriptDirectory
      (replaceEntry "namespace" o.nameSpace
        (replaceEntry "exclude_tables" o.excluded
          (changeGroup "discovery" (replaceEntry "schema_root" o.schemaRoot) entries))))

def override (s : Settings) (o : Overrides) : Except Error Settings :=
  match s.toDatum with
  | .map entries => ofDatum (.map (o.change entries))
  | d => ofDatum d

end SchemaBindings.Settings

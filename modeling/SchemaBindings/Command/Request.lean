import SchemaBindings.Command.Arguments
import SchemaBindings.Settings.Load

/-!
What the program can be asked to do.
-/

namespace SchemaBindings.Command

set_option autoImplicit false

def title : String := "sql-codegen"

structure GenerateRequest where
  settingsPath : Option String := none
  overrides : Settings.Overrides := {}
  dry : Bool := false
  verbose : Bool := false
  deriving DecidableEq, Repr

structure ResolveRequest where
  column : String
  lookups : String
  tables : String := ""
  references : Option String := none
  deriving DecidableEq, Repr

inductive Request
  | generate (r : GenerateRequest)
  | parseTable (path : String)
  | parseSeed (path : String)
  | resolve (r : ResolveRequest)
  deriving DecidableEq, Repr

def generateForm : Form where
  title := title ++ " generate"
  options :=
    [⟨"--config", true, false⟩, ⟨"--schema-root", true, false⟩, ⟨"--output-dir", true, false⟩,
      ⟨"--typescript-output-dir", true, false⟩, ⟨"--namespace", true, false⟩,
      ⟨"--exclude", true, false⟩, ⟨"--dry-run", false, false⟩, ⟨"--verbose", false, false⟩]

def fileForm (command : String) : Form := ⟨title ++ " " ++ command, [], some "file"⟩

def resolveForm : Form where
  title := title ++ " resolve"
  options := [⟨"--column", true, true⟩, ⟨"--lookup", true, true⟩, ⟨"--table", true, false⟩,
    ⟨"--references", true, false⟩]

def forms : List (String × Form) :=
  [("generate", generateForm), ("parse-table", fileForm "parse-table"),
    ("parse-seed", fileForm "parse-seed"), ("resolve", resolveForm)]

namespace Request

def ofCommand (command : String) (a : Arguments) : Request :=
  match command with
  | "generate" => .generate {
      settingsPath := a.value? "--config"
      overrides := {
        schemaRoot := a.value? "--schema-root"
        outputDirectory := a.value? "--output-dir"
        typeScriptDirectory := a.value? "--typescript-output-dir"
        nameSpace := a.value? "--namespace"
        excluded := a.value? "--exclude" }
      dry := a.has "--dry-run"
      verbose := a.has "--verbose" }
  | "parse-table" => .parseTable (a.operand.getD "")
  | "parse-seed" => .parseSeed (a.operand.getD "")
  | _ => .resolve {
      column := (a.value? "--column").getD ""
      lookups := (a.value? "--lookup").getD ""
      tables := (a.value? "--table").getD ""
      references := a.value? "--references" }

def ofArguments (args : List String) : Except UsageError Request :=
  (readCommand title forms [] args).map fun (command, a) => ofCommand command a

end Request

end SchemaBindings.Command

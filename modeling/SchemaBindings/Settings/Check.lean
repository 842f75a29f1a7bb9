import SchemaBindings.Settings.Basic
import SchemaBindings.Text.Case
import SchemaBindings.Text.Quoted
import SchemaBindings.Text.Trim

/-!
Checking a settings document. Every field is checked, and all faults are reported together in the
order of the fields. Fields that are missing have their defaults, and unknown ones are passed over.
-/

namespace SchemaBindings.Settings

set_option autoImplicit false

open Text

inductive FaultKind
  | string
  | list
  | model (name : String)
  | choice (expected : String)
  | fractional
  | notInteger
  | notIntegerText
  | integerSize
  | notFinite
  | below (bound : Int)
  | above (bound : Int)
  | notBool
  | notBoolValue
  | notUnicode
  | nameSpace (quoted : String)
  | noExtensions
  deriving DecidableEq, Repr

structure Fault where
  path : List String
  kind : FaultKind
  deriving DecidableEq, Repr

namespace FaultKind

def type : FaultKind → String
  | string => "string_type"
  | list => "list_type"
  | model _ => "model_type"
  | choice _ => "literal_error"
  | fractional => "int_from_float"
  | notInteger => "int_type"
  | notIntegerText => "int_parsing"
  | integerSize => "int_parsing_size"
  | notFinite => "finite_number"
  | below _ => "greater_than_equal"
  | above _ => "less_than_equal"
  | notBool => "bool_type"
  | notBoolValue => "bool_parsing"
  | notUnicode => "string_unicode"
  | nameSpace _ | noExtensions => "value_error"

def message : FaultKind → String
  | string => "Input should be a valid string"
  | list => "Input should be a valid list"
  | model name => "Input should be a valid dictionary or instance of " ++ name
  | choice expected => "Input should be " ++ expected
  | fractional => "Input should be a valid integer, got a number with a fractional part"
  | notInteger => "Input should be a valid integer"
  | notIntegerText => "Input should be a valid integer, unable to parse string as an integer"
  | integerSize => "Unable to parse input string as an integer, exceeded maximum size"
  | notFinite => "Input should be a finite number"
  | below bound => "Input should be greater than or equal to " ++ toString bound
  | above bound => "Input should be less than or equal to " ++ toString bound
  | notBool => "Input should be a valid boolean"
  | notBoolValue => "Input should be a valid boolean, unable to interpret input"
  | notUnicode => "Input should be a valid string, unable to parse raw data as a unicode string"
  | nameSpace text => "Value error, namespace must be a dotted identifier, got " ++ text
  | noExtensions => "Value error, extensions must contain at least one entry"

end FaultKind

inductive Check (α : Type)
  | ok (a : α)
  | faulty (first : Fault) (more : List Fault)

namespace Check

variable {α β : Type}

def fault (kind : FaultKind) : Check α := .faulty ⟨[], kind⟩ []

def faults : Check α → List Fault
  | .ok _ => []
  | .faulty f more => f :: more

protected def map (f : α → β) : Check α → Check β
  | .ok a => .ok (f a)
  | .faulty e more => .faulty e more

/-- Both checks are made, and the faults of both reported. -/
protected def seq (f : Check (α → β)) (x : Check α) : Check β :=
  match f, x with
  | .ok f, .ok a => .ok (f a)
  | .ok _, .faulty e more => .faulty e more
  | .faulty e more, x => .faulty e (more ++ x.faults)

/-- The second check is made only if the first finds nothing. -/
def andThen (x : Check α) (f : α → Check β) : Check β :=
  match x with
  | .ok a => f a
  | .faulty e more => .faulty e more

def under (step : String) : Check α → Check α
  | .ok a => .ok a
  | .faulty e more => .faulty ⟨step :: e.path, e.kind⟩ (more.map fun e => ⟨step :: e.path, e.kind⟩)

instance : Applicative Check where
  pure := .ok
  seq f x := Check.seq f (x ())
  map := Check.map

def each (f : α → Check β) : Nat → List α → Check (List β)
  | _, [] => .ok []
  | i, a :: rest => List.cons <$> (f a).under (toString i) <*> each f (i + 1) rest

end Check

def checkString : Datum → Check String
  | .string s => .ok s
  | .brokenString t => .ok (String.ofList t.joined)
  | .bytes b => match String.fromUTF8? b with
    | some s => .ok s
    | none => .fault .notUnicode
  | _ => .fault .string

def checkOptionalString : Datum → Check (Option String)
  | .null => .ok none
  | d => some <$> checkString d

def checkChoice {α : Type} (ofName? : String → Option α) (expected : String) : Datum → Check α
  | .string s => match ofName? s with
    | some a => .ok a
    | none => .fault (.choice expected)
  | .brokenString _ => .fault .notUnicode
  | _ => .fault (.choice expected)

def isTextBlank (c : Char) : Bool := isBlank c && !(0x1c ≤ c.toNat && c.toNat ≤ 0x1f)

/-- Drops zeros at the start, and underscores among them, but not all of a number. -/
def dropLeadingZeros : List Char → List Char
  | '0' :: c :: rest =>
    if c.isDigit then dropLeadingZeros (c :: rest)
    else if c = '_' ∧ rest.head?.any (· ≠ '.') then dropLeadingZeros ('0' :: rest)
    else '0' :: c :: rest
  | cs => cs

def dropZeroFraction (cs : List Char) : List Char :=
  let fraction := (cs.dropWhile (· ≠ '.')).drop 1
  if !fraction.isEmpty ∧ fraction.all (· == '0') then cs.takeWhile (· ≠ '.') else cs

/-- Drops underscores if each stands alone between other characters. -/
def dropUnderscores (cs : List Char) : List Char :=
  let words := pieces (· == '_') cs
  if words.any List.isEmpty then cs else words.flatten

def integerLimit : Nat := 4300

def checkIntegerText (s : String) : Check Int :=
  let cs := trimOf isTextBlank s.toList
  let (negative, body) := match cs with
    | '-' :: rest => (true, rest)
    | '+' :: rest => (false, rest)
    | rest => (false, rest)
  let number := dropUnderscores (dropZeroFraction (dropLeadingZeros body))
  let digits := number.takeWhile Char.isDigit
  if integerLimit < digits.length then .fault .integerSize
  else if digits.isEmpty ∨ digits.length < number.length then .fault .notIntegerText
  else
    let n : Nat := digits.foldl (fun n c => 10 * n + (c.toNat - 48)) 0
    .ok (if negative then -(n : Int) else n)

/-- A float counts as the integer that it equals. -/
def checkIntegralFloat (x : Float) : Check Int :=
  if x.isNaN || x.isInf then .fault .notFinite
  else if x.floor != x then .fault .fractional
  else if -9223372036854775808.0 < x && x < 9223372036854775807.0 then .ok x.toInt64.toInt
  else .fault .integerSize

def checkInteger : Datum → Check Int
  | .bool b => .ok (if b then 1 else 0)
  | .int n => .ok n
  | .float x => checkIntegralFloat x
  | .string s => checkIntegerText s
  | .bytes b => match String.fromUTF8? b with
    | some s => checkIntegerText s
    | none => .fault .notIntegerText
  | .brokenString _ => .fault .notUnicode
  | _ => .fault .notInteger

def checkBounds (low high n : Int) : Check Int :=
  if n < low then .fault (.below low) else if high < n then .fault (.above high) else .ok n

def boolNames : List (String × Bool) :=
  [("0", false), ("off", false), ("f", false), ("false", false), ("n", false), ("no", false),
    ("1", true), ("on", true), ("t", true), ("true", true), ("y", true), ("yes", true)]

def checkBoolText (s : String) : Check Bool :=
  match boolNames.lookup (String.ofList (s.toList.map Char.toLower)) with
  | some b => .ok b
  | none => .fault .notBoolValue

/-- Zero and one count as truth values; of other numbers those of 64 bits are wrong ones. -/
def checkBoolInteger (n : Int) : Check Bool :=
  if n = 0 then .ok false
  else if n = 1 then .ok true
  else if -Int.pow 2 63 ≤ n ∧ n < Int.pow 2 63 then .fault .notBoolValue
  else .fault .notBool

def checkBool : Datum → Check Bool
  | .bool b => .ok b
  | .int n => checkBoolInteger n
  | .float x => match checkIntegralFloat x with
    | .ok n => checkBoolInteger n
    | .faulty .. => .fault .notBool
  | .string s => checkBoolText s
  | .bytes b => match String.fromUTF8? b with
    | some s => checkBoolText s
    | none => .fault .notBoolValue
  | .brokenString _ => .fault .notUnicode
  | _ => .fault .notBool

def checkStrings : Datum → Check (List String)
  | .list items | .set items => Check.each checkString 0 items
  | .pair a b => Check.each checkString 0 [a, b]
  | _ => .fault .list

def entry {α : Type} (entries : List (Datum × Datum)) (key : String) (default : α)
    (check : Datum → Check α) : Check α :=
  match Datum.lookup? entries key with
  | some d => (check d).under key
  | none => .ok default

/-- Words of ASCII letters, digits and underscores that start with no digit, with dots between. -/
def isDottedName (s : String) : Bool :=
  (pieces (· == '.') s.toList).all fun word =>
    match word with
    | [] => false
    | c :: rest => (c.isAlpha || c == '_') && rest.all fun c => c.isAlphanum || c == '_'

def checkNameSpace : Datum → Check String
  | .brokenString t =>
    .fault (.nameSpace (quotedCodes (trimOf (fun n => isBlank (Codes.shownChar n)) t)))
  | d => (checkString d).andThen fun s =>
    let name := trimString s
    if isDottedName name then .ok name else .fault (.nameSpace (quoted name))

def normalExtension (ext : String) : Option String :=
  let small := lower (trimString ext)
  if small.isEmpty then none
  else if ".".toList.isPrefixOf small.toList then some small
  else some ("." ++ small)

/-- Extensions are small and start with a dot; blank ones are dropped. -/
def checkExtensions (d : Datum) : Check (List String) :=
  (checkStrings d).andThen fun exts =>
    let normal := exts.filterMap normalExtension
    if normal.isEmpty then .fault .noExtensions else .ok normal

def checkDiscovery : Datum → Check Discovery
  | .map entries =>
    let default : Discovery := {}
    Discovery.mk
      <$> entry entries "schema_root" default.schemaRoot checkString
      <*> entry entries "tables_dir_name" default.tablesDirectory checkString
      <*> entry entries "lookup_tables_dir_name" default.lookupsDirectory checkString
      <*> entry entries "ignore_file" default.ignoreFile checkString
      <*> entry entries "extensions" default.extensions checkExtensions
  | _ => .fault (.model "DiscoveryConfig")

def checkLog : Datum → Check LogSettings
  | .map entries =>
    let default : LogSettings := {}
    LogSettings.mk
      <$> entry entries "level" default.level
        (checkChoice LogLevel.ofName? "'DEBUG', 'INFO', 'WARNING' or 'ERROR'")
      <*> entry entries "format" default.format checkString
  | _ => .fault (.model "LoggingConfig")

/-- Everything but the excluded tables, which are given. -/
def checkEntries (entries : List (Datum × Datum)) (excluded : Check (List String)) :
    Check Settings :=
  let default : Settings := {}
  Settings.mk
    <$> entry entries "namespace" default.nameSpace checkNameSpace
    <*> entry entries "output_dir" default.outputDirectory checkOptionalString
    <*> entry entries "typescript_output_dir" default.typeScriptDirectory checkOptionalString
    <*> entry entries "project_dir" default.projectDirectory checkOptionalString
    <*> excluded.under "exclude_tables"
    <*> entry entries "discovery" default.discovery checkDiscovery
    <*> entry entries "id_column_fallback" default.keyFallback
      (checkChoice KeyFallback.ofName? "'first_column' or 'none'")
    <*> entry entries "max_workers" default.workers
      (fun d => (checkInteger d).andThen (checkBounds 1 32))
    <*> entry entries "write_typescript_manifest" default.writesManifest checkBool
    <*> entry entries "logging" default.log checkLog

inductive Error
  | faults (name : String) (first : Fault) (more : List Fault)
  /-- The excluded tables are nothing that can be gone through. -/
  | notIterable (typeName : String)
  /-- One of the excluded tables is no text. -/
  | noText (typeName : String)
  deriving DecidableEq, Repr

def Fault.lines (f : Fault) : List String :=
  (if f.path.isEmpty then [] else [".".intercalate f.path])
    ++ ["  " ++ f.kind.message ++ " [type=" ++ f.kind.type ++ "]"]

def Error.message : Error → String
  | .faults name first more =>
    let n := more.length + 1
    let head := toString n
      ++ (if n = 1 then " validation error for " else " validation errors for ") ++ name
    "\n".intercalate (head :: (first :: more).flatMap Fault.lines)
  | .notIterable t => "'" ++ t ++ "' object is not iterable"
  | .noText t => "'" ++ t ++ "' object has no attribute 'strip'"

def nonBlank (s : String) : Option Datum :=
  let name := trimString s
  if name.isEmpty then none else some (.string name)

def isBlankByte (b : UInt8) : Bool := b == 0x20 || (0x09 ≤ b && b ≤ 0x0D)

def excludedName : Datum → Except Error (Option Datum)
  | .string s => .ok (nonBlank s)
  | .brokenString t => .ok (nonBlank (String.ofList t.joined))
  | .bytes b =>
    let name := trimOf isBlankByte b.toList
    .ok (if name.isEmpty then none else some (.bytes ⟨name.toArray⟩))
  | d => if d.isEmpty then .ok none else .error (.noText d.typeName)

def namesIn (items : List Datum) : Except Error (List Datum) :=
  (items.mapM excludedName).map (·.filterMap id)

/-- The excluded tables are listed, or stand in one text between commas. -/
def excludedNames : Datum → Except Error (List Datum)
  | .null => .ok []
  | .string s => .ok ((commaList s).map .string)
  | .brokenString t => .ok ((commaList (String.ofList t.joined)).map .string)
  | .list items | .set items => namesIn items
  | .pair a b => namesIn [a, b]
  | .map entries => namesIn (entries.map Prod.fst)
  | .bytes b => if b.toList.all (· == 0) then .ok [] else .error (.noText "int")
  | d => .error (.notIterable d.typeName)

def Check.result {α : Type} (name : String) : Check α → Except Error α
  | .ok a => .ok a
  | .faulty first more => .error (.faults name first more)

def ofEntries (entries : List (Datum × Datum)) : Except Error Settings := do
  let excluded ← match Datum.lookup? entries "exclude_tables" with
    | some d => excludedNames d
    | none => .ok []
  (checkEntries entries (Check.each checkString 0 excluded)).result "GeneratorConfig"

def ofDatum : Datum → Except Error Settings
  | .map entries => ofEntries entries
  | _ => .error (.faults "GeneratorConfig" ⟨[], .model "GeneratorConfig"⟩ [])

def discoveryOfDatum (d : Datum) : Except Error Discovery :=
  (checkDiscovery d).result "DiscoveryConfig"

end SchemaBindings.Settings

import SchemaBindings.Text.Category
import SchemaBindings.Text.Quoted

/-!
Command line arguments. An option may be shortened as long as one option alone starts that way, and
its value follows it or an equals sign within it; the last value counts. After two hyphens there are
no options.
-/

namespace SchemaBindings.Command

set_option autoImplicit false

open Text

structure OptionSpec where
  name : String
  takesValue : Bool := true
  required : Bool := false
  deriving DecidableEq, Repr

structure Form where
  title : String
  options : List OptionSpec
  operand : Option String := none
  deriving DecidableEq, Repr

inductive UsageError
  | help (title : String)
  | ambiguous (title arg : String) (names : List String)
  | noValue (title option : String)
  | unwantedValue (title option value : String)
  | missing (title : String) (names : List String)
  | unknownCommand (title command : String) (commands : List String)
  | unrecognized (title : String) (args : List String)
  deriving DecidableEq, Repr

namespace UsageError

def line (title what : String) : String := title ++ ": error: " ++ what ++ "\n"

def message : UsageError → String
  | help title => "usage: " ++ title ++ " [options]\n"
  | ambiguous title arg names =>
    line title ("ambiguous option: " ++ arg ++ " could match " ++ ", ".intercalate names)
  | noValue title option => line title ("argument " ++ option ++ ": expected one argument")
  | unwantedValue title option value =>
    line title ("argument " ++ option ++ ": ignored explicit argument " ++ quoted value)
  | missing title names =>
    line title ("the following arguments are required: " ++ ", ".intercalate names)
  | unknownCommand title command commands =>
    line title ("argument cmd: invalid choice: " ++ quoted command ++ " (choose from "
      ++ ", ".intercalate (commands.map quoted) ++ ")")
  | unrecognized title args => line title ("unrecognized arguments: " ++ " ".intercalate args)

end UsageError

inductive Mark
  | separator
  | word (s : String)
  | option (o : OptionSpec) (value : Option String)
  | help (name : String) (value : Option String)
  | unknown (s : String)
  deriving DecidableEq, Repr

def helpLetter : String := "-h"

def helpNames : List String := [helpLetter, "--help"]

def helpTitle : String := "/".intercalate helpNames

namespace Form

def names (f : Form) : List String := helpNames ++ f.options.map OptionSpec.name

def mark (f : Form) (name : String) (value : Option String) : Mark :=
  match f.options.find? (·.name == name) with
  | some o => .option o value
  | none => .help name value

end Form

def splitValue (arg : String) : String × Option String :=
  let cs := arg.toList
  match cs.dropWhile (· != '=') with
  | _ :: value => (String.ofList (cs.takeWhile (· != '=')), some (String.ofList value))
  | [] => (arg, none)

/-- A hyphen and digits, which may have a point among or before them. -/
def isNegativeNumber (cs : List Char) : Bool :=
  match cs with
  | '-' :: rest =>
    let whole := rest.takeWhile isDecimal
    match rest.dropWhile isDecimal with
    | [] => !whole.isEmpty
    | ['\n'] => !whole.isEmpty
    | '.' :: fraction =>
      let fraction := if fraction.getLast? = some '\n' then fraction.dropLast else fraction
      !fraction.isEmpty && fraction.all isDecimal
    | _ => false
  | _ => false

def candidates (f : Form) (arg : String) : List (String × Option String) :=
  match arg.toList with
  | '-' :: '-' :: _ =>
    let (start, value) := splitValue arg
    (f.names.filter fun n => start.toList.isPrefixOf n.toList).map fun n => (n, value)
  | '-' :: c :: rest =>
    f.names.filterMap fun n =>
      if n.toList == ['-', c] then some (n, some (String.ofList rest))
      else if arg.toList.isPrefixOf n.toList then some (n, none)
      else none
  | _ => []

def markOf (f : Form) (arg : String) : Except UsageError Mark :=
  let cs := arg.toList
  if cs.head? ≠ some '-' then .ok (.word arg)
  else if f.names.contains arg then .ok (f.mark arg none)
  else if cs.length = 1 then .ok (.word arg)
  else
    let (start, value) := splitValue arg
    if value.isSome && f.names.contains start then .ok (f.mark start value)
    else match candidates f arg with
      | [(name, value)] => .ok (f.mark name value)
      | [] =>
        if isNegativeNumber cs || cs.contains ' ' then .ok (.word arg) else .ok (.unknown arg)
      | several => .error (.ambiguous f.title arg (several.map Prod.fst))

def marksOf (f : Form) : List String → Except UsageError (List Mark)
  | [] => .ok []
  | arg :: rest =>
    if arg = "--" then .ok (.separator :: rest.map .word)
    else do return (← markOf f arg) :: (← marksOf f rest)

structure Arguments where
  /-- The values of options; those without a value have an empty one. -/
  values : List (String × String) := []
  operand : Option String := none
  extra : List String := []
  deriving DecidableEq, Repr

namespace Arguments

def value? (a : Arguments) (name : String) : Option String := a.values.reverse.lookup name

def has (a : Arguments) (name : String) : Bool := (a.value? name).isSome

def set (a : Arguments) (o : OptionSpec) (value : String) : Arguments :=
  { a with values := a.values ++ [(o.name, value)] }

def setExtra (a : Arguments) (s : String) : Arguments := { a with extra := a.extra ++ [s] }

end Arguments

/-- A question for help. The letter that asks for it may be repeated, and nothing else follows it. -/
def helpError (f : Form) (name : String) (value : Option String) : UsageError :=
  match value with
  | none => .help f.title
  | some v =>
    let left := if name = helpLetter then v.toList.dropWhile (· == 'h') else v.toList
    if left.isEmpty ∧ v ≠ "" then .help f.title
    else .unwantedValue f.title helpTitle (String.ofList left)

/-- What the arguments so far ask of the next one. -/
inductive Expected
  | nothing
  | value (o : OptionSpec)
  /-- A separator right after the operand counts for nothing. -/
  | separator
  deriving DecidableEq, Repr

def Form.lacksOperand (f : Form) (a : Arguments) : Bool := f.operand.isSome && a.operand.isNone

/-- The value after an equals sign; two hyphens there give none. -/
def givenValue (v : String) : String := if v = "--" then "" else v

def collect (f : Form) : Expected → Arguments → List Mark → Except UsageError Arguments
  | .value o, _, [] => .error (.noValue f.title o.name)
  | _, a, [] => .ok a
  | e, a, m :: rest =>
    match e, m with
    | .value o, .word v => collect f .nothing (a.set o v) rest
    | .value o, _ => .error (.noValue f.title o.name)
    | e, .separator =>
      if e = .separator ∨ (f.lacksOperand a ∧ rest ≠ []) then collect f .nothing a rest
      else collect f .nothing (a.setExtra "--") rest
    | _, .word s =>
      if f.lacksOperand a then collect f .separator { a with operand := some s } rest
      else collect f .nothing (a.setExtra s) rest
    | _, .unknown s => collect f .nothing (a.setExtra s) rest
    | _, .help name value => .error (helpError f name value)
    | _, .option o value =>
      match o.takesValue, value with
      | true, some v => collect f .nothing (a.set o (givenValue v)) rest
      | true, none => collect f (.value o) a rest
      | false, none => collect f .nothing (a.set o "") rest
      | false, some v => .error (.unwantedValue f.title o.name v)

def Form.read (f : Form) (args : List String) : Except UsageError Arguments := do
  let a ← collect f .nothing {} (← marksOf f args)
  let missing := (f.options.filter fun o => o.required && !a.has o.name).map OptionSpec.name
    ++ (if a.operand.isNone then f.operand.toList else [])
  if missing.isEmpty then return a else throw (.missing f.title missing)

/-- Finds the command, which is the first argument that is no option, and reads what comes after it. -/
def readCommand (title : String) (forms : List (String × Form)) (extra : List String) :
    List String → Except UsageError (String × Arguments)
  | [] => .error (.missing title ["cmd"])
  | arg :: rest =>
    let names := forms.map Prod.fst
    if arg = "--" then
      if rest.isEmpty then .error (.missing title ["cmd"])
      else .error (.unknownCommand title arg names)
    else do
      let top : Form := ⟨title, [], none⟩
      match ← markOf top arg with
      | .unknown s => readCommand title forms (extra ++ [s]) rest
      | .help name value => throw (helpError top name value)
      | _ =>
        match forms.lookup arg with
        | none => throw (.unknownCommand title arg names)
        | some f =>
          let a ← f.read rest
          match extra ++ a.extra with
          | [] => return (arg, a)
          | unread => throw (.unrecognized title unread)

end SchemaBindings.Command

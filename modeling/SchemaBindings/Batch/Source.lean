import SchemaBindings.Files.Disk
import SchemaBindings.Schema.SeedScript
import SchemaBindings.Schema.TableScript

/-!
Scripts to be read, what they hold, and what is reported about them. A signal stops a batch of them. It is
looked at between the steps of the batch: so many looks find it down, and every later one finds it up.
-/

namespace SchemaBindings

set_option autoImplicit false

/-- The number of looks that find the signal down; `none` when it stays down. -/
abbrev Signal := Option Nat

namespace Signal

def reached {α : Type} (s : Signal) (items : List α) : List α :=
  match s with
  | some n => items.take n
  | none => items

/-- The signal after so many looks; nothing when one of them finds it up. -/
def after (s : Signal) (looks : Nat) : Option Signal :=
  match s with
  | some n => if looks ≤ n then some (some (n - looks)) else none
  | none => some none

@[simp] theorem reached_none {α : Type} (items : List α) :
    reached none items = items := rfl

@[simp] theorem after_none (looks : Nat) : after none looks = some none := rfl

@[simp] theorem after_zero (s : Signal) : s.after 0 = some s := by cases s <;> simp [after]

end Signal

inductive SourceKind
  | table
  | seed
  deriving DecidableEq, Repr

def SourceKind.name : SourceKind → String
  | table => "table"
  | seed => "seed"

structure Source where
  path : String
  text : String
  deriving DecidableEq, Repr

inductive Model
  | table (t : Table)
  | seed (s : Seed)
  deriving DecidableEq, Repr

def Model.table? : Model → Option Table
  | table t => some t
  | seed _ => none

def Model.seed? : Model → Option Seed
  | seed s => some s
  | table _ => none

def Model.ofScript (kind : SourceKind) (text : String) : Except ParseError Model :=
  match kind with
  | .table => (Table.ofScript text).map .table
  | .seed => ((Seed.ofScript text).mapError .script).map .seed

inductive Issue
  | unreadable (e : FileError)
  | refused (kind : SourceKind) (e : ScriptError)
  | unexpected (kind : SourceKind) (e : Text.NumeralError)
  /-- An earlier seed of the table stands at the path. -/
  | duplicateSeed (table first : String)
  | duplicateTable (table : String)
  | rowWidth (row : Row) (expected : Nat)
  | orphanSeed (table : String)
  deriving DecidableEq, Repr

structure Diagnostic where
  path : String
  issue : Issue
  deriving DecidableEq, Repr

namespace Issue

def kind : Issue → String
  | unreadable _ => "read_error"
  | refused k _ => k.name ++ "_parse_error"
  | unexpected .. => "unexpected_error"
  | duplicateSeed .. => "duplicate_seed"
  | duplicateTable _ => "duplicate_table"
  | rowWidth .. => "row_width_mismatch"
  | orphanSeed _ => "orphan_seed"

def message : Issue → String
  | unreadable e => e.message
  | refused _ e => e.message
  | unexpected _ e => "ValueError: " ++ e.message
  | duplicateSeed table first => "seed data for " ++ table ++ " already read from " ++ first
  | duplicateTable table => "table " ++ table ++ " defined more than once, keeping the first"
  | rowWidth row expected =>
    "row (" ++ ", ".intercalate row ++ ") has " ++ toString row.length ++ " values, expected "
      ++ toString expected
  | orphanSeed table => "seed data for " ++ table ++ " has no matching table definition"

def ofParseError (kind : SourceKind) : ParseError → Issue
  | .script e => refused kind e
  | .numeral e => unexpected kind e

end Issue

end SchemaBindings

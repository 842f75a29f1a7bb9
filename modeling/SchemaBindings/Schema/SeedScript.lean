import SchemaBindings.Schema.Error
import SchemaBindings.Schema.Seed
import SchemaBindings.Script.Cell
import SchemaBindings.Script.Clause
import SchemaBindings.Text.Trim

/-!
Reading seed rows from a merge script. The target, the rows behind `USING (VALUES` and the list of
source columns are looked for; what the merge does with them is not read.
-/

namespace SchemaBindings.Seed

set_option autoImplicit false

open Script Text

def isNameQuote (c : Char) : Bool := c == '[' || c == ']' || c == '"' || c.toNat == 96

def columnNamesOf (columns : List Char) : List String :=
  ((pieces (· == ',') columns).map fun name => String.ofList (trim (trimOf isNameQuote (trim name)))).filter
    (!·.isEmpty)

def groupCells (region : List Char) : List Row := (groups region).map cellStrings

def rowsOf (region : List Char) : List Row := (groupCells region).filter (!·.isEmpty)

structure Layout where
  target : QualifiedName
  columns : List Char
  region : List Char

/-- Finds the clauses. A cast inside a row looks like a list of source columns, so the first list
behind the parenthesis that closes the rows is preferred to one before it. -/
def layoutOf (text : List Char) : Except ScriptError Layout := do
  let some target := mergeTarget.find? text | throw .noTarget
  let ⟨schema, table⟩ := target.value
  let some first := sourceColumns.findOutside? text target.stop
    | throw (.noSourceColumns schema table)
  let some values := valuesStart.findOutside? text target.stop | throw (.noValues schema table)
  if first.start < values.stop then throw (.clauseOrder schema table)
  let columns := match closingParen? text (values.start + values.value) with
    | some close =>
      if first.start < close then (sourceColumns.findOutside? text close).getD first else first
    | none => first
  return ⟨target.value, columns.value.columns, (text.take columns.start).drop values.stop⟩

def ofLayout (l : Layout) : Except ScriptError Seed := do
  let ⟨schema, table⟩ := l.target
  let names := columnNamesOf l.columns
  if names.isEmpty then throw (.emptySourceColumns schema table)
  let rows := rowsOf l.region
  if rows.isEmpty then throw (.noRows schema table)
  return ⟨schema, table, names, rows⟩

def ofScript (script : String) : Except ScriptError Seed :=
  layoutOf (mask script.toList) >>= ofLayout

/-- The number of groups without a value that reading the script passes over. -/
def emptyGroups (script : String) : Nat :=
  match layoutOf (mask script.toList) with
  | .ok l =>
    if (columnNamesOf l.columns).isEmpty then 0
    else ((groupCells l.region).filter (·.isEmpty)).length
  | .error _ => 0

end SchemaBindings.Seed

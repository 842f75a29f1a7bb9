import SchemaBindings.Schema.Error
import SchemaBindings.Schema.Table
import SchemaBindings.Script.Cell
import SchemaBindings.Script.Clause
import SchemaBindings.Text.Trim

/-!
Reading a table from its definition. Comments are blanked, the header is looked for, and the block up
to the parenthesis that closes it is read line by line: a line defines a column, names the key, or
says nothing that matters here.
-/

namespace SchemaBindings.Table

set_option autoImplicit false

open Script Text

inductive Line
  | column (c : Column)
  | key (column : String)
  | other
  deriving DecidableEq, Repr

/-- Words that no column is named by and no type is. -/
def constraintKeywords : List String :=
  ["CONSTRAINT", "PRIMARY", "FOREIGN", "UNIQUE", "CHECK", "DEFAULT", "INDEX", "REFERENCES", "ASC",
    "DESC"]

def isConstraintKeyword (word : String) : Bool := constraintKeywords.contains (upper word)

def columnParts? (line : List Char) : Option ColumnParts :=
  ((columnLine.find? line).map Found.value).filter fun p =>
    !(isConstraintKeyword p.name || isConstraintKeyword p.type)

def lengthOf (text : String) : Except NumeralError Int :=
  if lower text == "max" then .ok Column.unbounded
  else (Numeral.readDigits text.toList).map fun n => (n : Int)

/-- The options of a column, without the blanks around them and the comma that ends the line. -/
def optionsText (rest : List Char) : List Char :=
  let options := trim rest
  if options.getLast? = some ',' then trimEnd options.dropLast else options

def columnOf (p : ColumnParts) : Except NumeralError Column := do
  let options := optionsText p.rest
  let maxLength ← match p.length with
    | some text => (lengthOf text).map some
    | none => .ok none
  return {
    name := p.name
    sqlType := p.type
    nullable := !notNull.occursIn options
    maxLength
    isIdentity := identity.occursIn options
    isPrimaryKey := inlineKey.occursIn options
    referencesTable := (foreignKey.find? options).map Found.value }

def startsConstraint (line : List Char) : Bool :=
  "CONSTRAINT".toList.isPrefixOf (upperChars line)

def lineOf (line : List Char) : Except NumeralError Line :=
  match columnParts? line with
  | some parts => (columnOf parts).map .column
  | none =>
    if startsConstraint line then
      match keyConstraint.find? line with
      | some found => .ok (.key found.value)
      | none => .ok .other
    else .ok .other

def isLineBreak (c : Char) : Bool := c == '\r' || c == '\n'

def blockLines (block : List Char) : List (List Char) :=
  ((pieces isLineBreak block).map trim).filter (· ≠ [])

def Line.column? : Line → Option Column
  | .column c => some c
  | _ => none

def Line.key? : Line → Option String
  | .column c => if c.isPrimaryKey then some c.name else none
  | .key name => some name
  | .other => none

/-- The columns of a block and the key column that its last line to name one names. -/
def blockOf (lines : List Line) : List Column × Option String :=
  (lines.filterMap Line.column?, (lines.filterMap Line.key?).getLast?)

def ofMasked (text : List Char) : Except ParseError Table := do
  let some header := tableHeader.find? text | throw (.script .noTable)
  let ⟨schema, table⟩ := header.value
  let some stop := closingParen? text header.stop | throw (.script (.unbalanced schema table))
  let block := (text.take stop).drop header.stop
  let lines ← ((blockLines block).mapM lineOf).mapError .numeral
  let (columns, key) := blockOf lines
  if columns.isEmpty then throw (.script (.noColumns schema table))
  return ⟨schema, table, columns, key <|> (keyConstraint.find? text).map Found.value⟩

def ofScript (script : String) : Except ParseError Table := ofMasked (mask script.toList)

end SchemaBindings.Table

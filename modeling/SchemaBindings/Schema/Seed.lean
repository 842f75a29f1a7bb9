import SchemaBindings.Schema.Table
import SchemaBindings.Text.Case
import SchemaBindings.Text.Numeral

/-!
The rows that a seed script fills a lookup table with. A cell is the text of one value; a place is
the index of a column, or nothing when there is no such column. Some columns have a part of their own: the
name of a row, the text that is shown for it, its key and its place in an order.
-/

namespace SchemaBindings

set_option autoImplicit false

abbrev Row := List String

structure Seed where
  schemaName : String
  tableName : String
  columnNames : List String
  rows : List Row
  deriving DecidableEq, Repr

namespace Row

def cell? (row : Row) (place : Option Nat) : Option String := place.bind (row[·]?)

def isNullText (cell : String) : Bool := Text.upper cell == "NULL"

def isNull (row : Row) (place : Option Nat) : Bool := ((row.cell? place).map isNullText).getD false

/-- The whole number at a place; `none` when the cell is missing or holds anything else. -/
def int? (row : Row) (place : Option Nat) : Except Text.NumeralError (Option Int) :=
  match row.cell? place with
  | some cell => Text.Numeral.read? cell.toList
  | none => .ok none

end Row

namespace Seed

def columnIndex? (s : Seed) (name : String) : Option Nat :=
  s.columnNames.findIdx? fun c => Text.sameIgnoringCase c name

def columnWithEnding? (s : Seed) (ending : String) : Option Nat :=
  s.columnNames.findIdx? fun c => (Text.lower ending).toList.isSuffixOf (Text.lower c).toList

def fits (s : Seed) (row : Row) : Bool := row.length == s.columnNames.length

def matchingRows (s : Seed) : List Row := s.rows.filter s.fits

def mismatchedRows (s : Seed) : List Row := s.rows.filter fun row => !s.fits row

theorem length_matchingRows_add_mismatchedRows (s : Seed) :
    s.matchingRows.length + s.mismatchedRows.length = s.rows.length := by
  simp only [matchingRows, mismatchedRows]
  induction s.rows with
  | nil => rfl
  | cons row rest ih => cases h : s.fits row <;> simp [h] <;> omega

end Seed

inductive KeyFallback
  | firstColumn
  | none
  deriving DecidableEq, Repr

namespace Seed

def isSystemName (column : String) : Bool :=
  let name := (Text.lower column).toList
  "name".toList.isSuffixOf name && !"displayname".toList.isSuffixOf name

/-- The column that rows are named by: the table's own, else the first name that is no display name,
else the first name. -/
def systemNameColumn? (s : Seed) (table : String) : Option Nat :=
  s.columnIndex? (table ++ "Name") <|> s.columnNames.findIdx? isSystemName
    <|> s.columnWithEnding? "Name"

def displayNameColumn? (s : Seed) (table : String) : Option Nat :=
  s.columnIndex? (table ++ "DisplayName") <|> s.columnWithEnding? "DisplayName"

/-- The column of the table's key, else the first whose name ends in `ID`, else what the fallback
says. -/
def keyColumn? (s : Seed) (t : Table) (fallback : KeyFallback) : Option Nat :=
  s.columnIndex? t.primaryKeyName <|> s.columnWithEnding? "ID" <|>
    (if fallback = .firstColumn ∧ s.columnNames ≠ [] then some 0 else none)

def sortOrderColumn? (s : Seed) : Option Nat :=
  s.columnIndex? "SortOrder" <|> s.columnWithEnding? "SortOrder"

end Seed

def Row.enumValue (row : Row) (key : Option Nat) : Except Text.NumeralError String := do
  match ← row.int? key with
  | some n => Text.Numeral.write n
  | none => return "0"

end SchemaBindings

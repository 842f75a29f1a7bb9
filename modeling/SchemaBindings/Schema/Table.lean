import SchemaBindings.Text.Case

/-!
Tables as their definitions describe them. Names are looked up ignoring case and keep their spelling.
-/

namespace SchemaBindings

set_option autoImplicit false

structure Column where
  name : String
  sqlType : String
  nullable : Bool := true
  /-- The length of a character column; `Column.unbounded` stands for `max`. -/
  maxLength : Option Int := none
  isIdentity : Bool := false
  isPrimaryKey : Bool := false
  referencesTable : Option String := none
  deriving DecidableEq, Repr

structure Table where
  schemaName : String
  tableName : String
  columns : List Column
  primaryKeyColumn : Option String := none
  deriving DecidableEq, Repr

namespace Column

def unbounded : Int := -1

def isUnbounded (c : Column) : Bool := c.maxLength == some unbounded

def characterTypes : List String := ["varchar", "nvarchar", "char", "nchar"]

def characterLength? (c : Column) : Option Int :=
  if characterTypes.contains (Text.lower c.sqlType) then c.maxLength.filter (0 < ·) else none

end Column

namespace Table

def qualifiedName (t : Table) : String := t.schemaName ++ "." ++ t.tableName

/-- The key column's name; a table that names none has `ID` after its own name. -/
def primaryKeyName (t : Table) : String :=
  match t.primaryKeyColumn with
  | some name => if name.isEmpty then t.tableName ++ "ID" else name
  | none => t.tableName ++ "ID"

def column? (t : Table) (name : String) : Option Column :=
  t.columns.find? fun c => Text.sameIgnoringCase c.name name

def primaryKeyDefinition? (t : Table) : Option Column := t.primaryKeyColumn.bind t.column?

def characterColumns (t : Table) : List (String × Int) :=
  t.columns.filterMap fun c => c.characterLength?.map (c.name, ·)

end Table

end SchemaBindings

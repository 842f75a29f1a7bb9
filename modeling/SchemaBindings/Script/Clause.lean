import SchemaBindings.Script.Search

/-!
The clauses that table definitions and seed scripts are read by. Keywords are read in any case, and
names with or without square brackets.
-/

namespace SchemaBindings.Script

set_option autoImplicit false

open Text (isBlank isWordChar)
open Reader

structure QualifiedName where
  schema : String
  table : String
  deriving DecidableEq, Repr

def qualifiedName : Reader QualifiedName := do
  let schema ← name
  char '.'
  return ⟨schema, ← name⟩

def tableHeader : Clause QualifiedName where
  read := do
    keyword "create"
    blanks1
    keyword "table"
    blanks1
    let n ← qualifiedName
    blanks
    char '('
    return n

structure ColumnParts where
  name : String
  type : String
  length : Option String
  rest : List Char
  deriving DecidableEq, Repr

/-- `(length)` or `(length, scale)`, where the length may be `max`. -/
def columnLength : Reader String := do
  blanks
  char '('
  blanks
  let length ← digits <|> (do
    let text ← get
    keyword "max"
    return text.take 3)
  blanks
  let _ ← optional (do
    char ','
    blanks
    let _ ← digits
    blanks)
  char ')'
  return String.ofList length

def columnLine : Clause ColumnParts where
  anchor := .textStart
  read := do
    blanks
    let n ← name
    blanks1
    let type ← name
    let length ← optional columnLength
    return ⟨n, type, length, ← lastLine⟩

def notNull : Clause Unit where
  anchor := .wordStart
  read := do
    keyword "not"
    blanks1
    keyword "null"
    wordEnd

def identity : Clause Unit where
  anchor := .wordStart
  read := do
    keyword "identity"
    blanks
    char '('
    blanks
    let _ ← digits
    blanks
    char ','
    blanks
    let _ ← digits
    blanks
    char ')'

def inlineKey : Clause Unit where
  anchor := .wordStart
  read := do
    keyword "primary"
    blanks1
    keyword "key"
    wordEnd

/-- `CONSTRAINT name PRIMARY KEY CLUSTERED (column ASC)`, with one column. -/
def keyConstraint : Clause String where
  read := do
    keyword "constraint"
    blanks1
    let _ ← name
    blanks1
    keyword "primary"
    blanks1
    keyword "key"
    blanks
    let _ ← optional (keyword "clustered" <|> keyword "nonclustered")
    blanks
    char '('
    blanks
    let column ← name
    blanks
    let _ ← optional (keyword "asc" <|> keyword "desc")
    blanks
    char ')'
    return column

/-- `REFERENCES schema.table (`, where the schema may be left out; the table's name. -/
def foreignKey : Clause String where
  anchor := .wordStart
  read := do
    keyword "references"
    blanks1
    let _ ← optional (do
      let _ ← name
      char '.')
    let table ← name
    blanks
    char '('
    return table

def mergeTarget : Clause QualifiedName where
  read := do
    keyword "merge"
    blanks1
    let _ ← optional (do
      keyword "into"
      blanks1)
    qualifiedName

structure SourceColumns where
  source : String
  columns : List Char
  deriving DecidableEq, Repr

def sourceColumns : Clause SourceColumns where
  anchor := .wordStart
  read := do
    keyword "as"
    blanks1
    let source ← name
    blanks
    char '('
    blanks
    let columns ← many (· != ')')
    char ')'
    return ⟨source, columns⟩

/-- `USING (VALUES`; the number of characters up to and with the parenthesis. -/
def valuesStart : Clause Nat where
  anchor := .wordStart
  read := do
    let text ← get
    keyword "using"
    blanks
    char '('
    let rest ← get
    blanks
    keyword "values"
    wordEnd
    return text.length - rest.length

end SchemaBindings.Script

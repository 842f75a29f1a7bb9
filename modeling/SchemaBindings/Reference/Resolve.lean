import SchemaBindings.Reference.NameSet
import SchemaBindings.Schema.Table
import SchemaBindings.Text.Case

/-!
Which lookup table a column refers to, and the navigation properties that follow.

A table that the column's definition names counts if it is a lookup table; otherwise the column's name
decides. A name such as `ProjectStageID` gives the property name `ProjectStage`, which is compared with
the names of the lookup tables. Of several tables that it points at, the one with the longest name is the
best, then the one that fits more closely, then the one whose small form comes first.
-/

namespace SchemaBindings.Reference

set_option autoImplicit false

open Text

/-- The column's name without its `ID`; `none` if there is no `ID` or nothing before it. -/
def propertyName? (column : String) : Option String :=
  let cs := column.toList
  if cs.length ≤ 2 ∨ !"ID".toList.isSuffixOf (upperChars cs) then none
  else some (String.ofList (cs.take (cs.length - 2)))

/-- The ways in which a table's name fits a property, the weakest first. -/
inductive Fit
  | propertyStart
  | tableEnd
  | propertyEnd
  | exact
  deriving DecidableEq, Repr

def Fit.rank : Fit → Nat
  | propertyStart => 1
  | tableEnd => 2
  | propertyEnd => 3
  | exact => 4

theorem Fit.rank_injective {f g : Fit} (h : f.rank = g.rank) : f = g := by
  cases f <;> cases g <;> first | rfl | cases h

def fit? (property table : String) : Option Fit :=
  let p := (lower property).toList
  let t := (lower table).toList
  if p = t then some .exact
  else if t.isSuffixOf p then some .propertyEnd
  else if p.isSuffixOf t then some .tableEnd
  else if t.length < p.length ∧ t.isPrefixOf p then some .propertyStart
  else none

structure Candidate where
  table : String
  fit : Fit
  deriving DecidableEq, Repr

def Candidate.beats (a b : Candidate) : Bool :=
  let (m, n) := (a.table.length, b.table.length)
  if m ≠ n then n < m
  else if a.fit ≠ b.fit then b.fit.rank < a.fit.rank
  else lower a.table < lower b.table

def prefer (best : Option Candidate) (c : Candidate) : Option Candidate :=
  match best with
  | none => some c
  | some b => some (if c.beats b then c else b)

def candidates (property : String) (tables : List String) : List Candidate :=
  tables.filterMap fun t => (fit? property t).map (⟨t, ·⟩)

def bestMatch? (property : String) (tables : List String) : Option String :=
  ((candidates property tables).foldl prefer none).map Candidate.table

/-- The lookup table that a column named so refers to. A property that has the name of another table
belongs to that table, and refers to no lookup table. -/
def resolve? (column : String) (lookups tables : NameSet) (explicit : Option String) :
    Option String := do
  let property ← propertyName? column
  let named := (explicit.filter (!·.isEmpty)).bind lookups.canonical?
  let table ← named <|> bestMatch? property lookups.toList
  if !sameIgnoringCase property table && tables.contains property then none
  else some table

structure Navigation where
  propertyName : String
  columnName : String
  referencedTable : String
  nullable : Bool
  deriving DecidableEq, Repr

def navigation? (primaryKey : String) (lookups tables : NameSet) (c : Column) :
    Option Navigation := do
  if sameIgnoringCase c.name primaryKey then none
  else
    let property ← propertyName? c.name
    let table ← resolve? c.name lookups tables c.referencesTable
    return ⟨property, c.name, table, c.nullable⟩

def navigations (columns : List Column) (primaryKey : String) (lookups tables : NameSet) :
    List Navigation :=
  columns.filterMap (navigation? primaryKey lookups tables)

end SchemaBindings.Reference

import SchemaBindings.Bytes.Base64
import SchemaBindings.Code.CSharp
import SchemaBindings.Code.Identifier
import SchemaBindings.Code.LookupBinding
import SchemaBindings.Json.Writer
import SchemaBindings.Schema.Seed

/-!
The TypeScript file of a lookup table: an enumeration, the list of its entries and the options of a
drop-down made from them. The manifest is a JSON object that lists each such file with its table, its name
and its content in Base64.
-/

namespace SchemaBindings.Code

set_option autoImplicit false

open Text

structure EnumEntry where
  name : String
  displayName : String
  value : String
  sortOrder : Int
  deriving DecidableEq, Repr

/-- A sort column that holds no number gives way to the running order; without a sort column the key
decides. -/
def sortOrder (s : Seed) (key : Option Nat) (running : Int) (row : Row) : Except NumeralError Int := do
  match s.sortOrderColumn? with
  | some place => return (← row.int? (some place)).getD running
  | none => return (← row.int? key).getD 1 * 10

def enumEntry (t : Table) (s : Seed) (fallback : KeyFallback) (running : Int) (row : Row) :
    Except NumeralError EnumEntry := do
  let key := s.keyColumn? t fallback
  let nameColumn := s.systemNameColumn? t.tableName
  let rawName := cellOr placeholder (row.cell? nameColumn)
  let order ← sortOrder s key running row
  return {
    name := identifier (some rawName)
    displayName := cellOr rawName (row.cell? (s.displayNameColumn? t.tableName <|> nameColumn))
    value := ← row.enumValue key
    sortOrder := order }

/-- One entry for each row; the running order grows by ten with every one of them. -/
def entriesFrom (t : Table) (s : Seed) (fallback : KeyFallback) (running : Int) :
    List Row → Except NumeralError (List EnumEntry)
  | [] => return []
  | row :: rest => do
    let entry ← enumEntry t s fallback running row
    return entry :: (← entriesFrom t s fallback (running + 10) rest)

def enumEntries (t : Table) (s : Seed) (fallback : KeyFallback) :
    Except NumeralError (List EnumEntry) :=
  entriesFrom t s fallback 10 s.matchingRows

theorem entriesFrom_eq_mapM (t : Table) (s : Seed) (fallback : KeyFallback) (rows : List Row) (k : Nat) :
    entriesFrom t s fallback (10 * (k + 1) : Nat) rows =
      (rows.zipIdx k).mapM fun x => enumEntry t s fallback (10 * (x.2 + 1) : Nat) x.1 := by
  induction rows generalizing k with
  | nil => rfl
  | cons row rest ih =>
    have hcount : ((10 * (k + 1) : Nat) : Int) + 10 = (10 * (k + 1 + 1) : Nat) := by omega
    rw [List.zipIdx_cons, List.mapM_cons, entriesFrom, hcount, ih]

theorem enumEntries_eq_mapM (t : Table) (s : Seed) (fallback : KeyFallback) :
    enumEntries t s fallback =
      s.matchingRows.zipIdx.mapM fun x => enumEntry t s fallback (10 * (x.2 + 1) : Nat) x.1 :=
  entriesFrom_eq_mapM t s fallback s.matchingRows 0

def scriptEscape (c : Char) : List Char := if c = '\\' ∨ c = '"' then ['\\', c] else [c]

def escapeScript (s : String) : String := String.ofList (s.toList.flatMap scriptEscape)

def recordLine (e : EnumEntry) : Except NumeralError String := do
  let name := e.name
  let display := escapeScript e.displayName
  let value := e.value
  let order ← Numeral.write e.sortOrder
  return s!"  \x7b Name: \"{name}\", DisplayName: \"{display}\", Value: {value}, SortOrder: {order} \x7d,"

def enumModuleLines (t : Table) (entries : List EnumEntry) : Except NumeralError (List String) := do
  let schema := t.schemaName
  let name := t.tableName
  let many := plural name
  let records ← entries.mapM recordLine
  return [
      "//  IMPORTANT:",
      "//  This file is generated. Your changes will be lost.",
      s!"//  Source Table: [{schema}].[{name}]",
      "",
      "import \x7b LookupTableEntry \x7d from \"src/app/shared/models/lookup-table-entry\";",
      "import \x7b SelectDropdownOption \x7d from "
        ++ "\"src/app/shared/components/forms/form-field/form-field.component\"",
      "",
      s!"export enum {name}Enum \x7b"]
    ++ entries.map (fun e => "  " ++ e.name ++ " = " ++ e.value ++ ",")
    ++ ["\x7d", "", s!"export const {many}: LookupTableEntry[]  = ["]
    ++ records
    ++ ["];",
      s!"export const {many}AsSelectDropdownOptions = {many}.map((x) => "
        ++ "(\x7b Value: x.Value, Label: x.DisplayName, SortOrder: x.SortOrder \x7d"
        ++ " as SelectDropdownOption));"]

def enumModule (t : Table) (s : Seed) (fallback : KeyFallback) : Except NumeralError String := do
  return fileText (← enumModuleLines t (← enumEntries t s fallback))

structure ManifestEntry where
  tableName : String
  fileName : String
  content : String
  deriving DecidableEq, Repr

def manifestFileName : String := "TypeScriptEnums.manifest.json"

def ManifestEntry.toJson (e : ManifestEntry) : Json :=
  .object [("tableName", .string e.tableName), ("fileName", .string e.fileName),
    ("content", .string (String.ofList (Base64.encode e.content.toUTF8.toList)))]

def manifest (entries : List ManifestEntry) : String :=
  Json.indented 0 (.object [("files", .array (entries.map ManifestEntry.toJson))]) ++ "\n"

end SchemaBindings.Code

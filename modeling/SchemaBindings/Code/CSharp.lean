import SchemaBindings.Reference.Resolve
import SchemaBindings.Schema.Table

/-!
Pieces that the C# files share, and the C# types of SQL Server types.
-/

namespace SchemaBindings.Code

set_option autoImplicit false

def geometryType : String := "NetTopologySuite.Geometries.Geometry"

def typeTable : List (String × String) :=
  [("int", "int"), ("bigint", "long"), ("smallint", "short"), ("tinyint", "byte"), ("bit", "bool"),
    ("decimal", "decimal"), ("numeric", "decimal"), ("money", "decimal"), ("smallmoney", "decimal"),
    ("float", "double"), ("real", "float"), ("datetime", "DateTime"), ("datetime2", "DateTime"),
    ("smalldatetime", "DateTime"), ("date", "DateOnly"), ("time", "TimeSpan"),
    ("datetimeoffset", "DateTimeOffset"), ("uniqueidentifier", "Guid"), ("varchar", "string"),
    ("nvarchar", "string"), ("char", "string"), ("nchar", "string"), ("text", "string"),
    ("ntext", "string"), ("varbinary", "byte[]"), ("binary", "byte[]"), ("image", "byte[]"),
    ("geometry", geometryType), ("geography", geometryType)]

/-- The C# type of a SQL type, `object` for one that is not known. -/
def mappedType (sqlType : String) : String :=
  (typeTable.lookup (Text.lower sqlType)).getD "object"

theorem mappedType_cases (sqlType : String) :
    mappedType sqlType = "object" ∨ (Text.lower sqlType, mappedType sqlType) ∈ typeTable := by
  unfold mappedType
  cases hlookup : typeTable.lookup (Text.lower sqlType) with
  | none => exact .inl rfl
  | some type =>
    obtain ⟨before, after, htable, _⟩ := List.lookup_eq_some_iff.1 hlookup
    rw [htable]
    exact .inr (List.mem_append_right before List.mem_cons_self)

def csharpType (c : Column) : String :=
  if c.nullable then mappedType c.sqlType ++ "?" else mappedType c.sqlType

def fileText (lines : List String) : String := "\n".intercalate lines ++ "\n"

def bindingFileName (t : Table) : String := t.tableName ++ ".Binding.cs"

def generatedNotice : List String :=
  ["//  IMPORTANT:",
   "//  This file is generated. Your changes will be lost.",
   "//  Use the corresponding partial class for customizations."]

def bindingHeader (t : Table) : List String :=
  generatedNotice ++ ["//  Source Table: [" ++ t.schemaName ++ "].[" ++ t.tableName ++ "]"]

/-- The accessor that reaches the referenced row through its table's dictionary. -/
def navigationLine (n : Reference.Navigation) : String :=
  let ref := n.referencedTable
  let property := n.propertyName
  let column := n.columnName
  if n.nullable then
    s!"        public {ref}? {property} => {column}.HasValue"
      ++ s!" ? {ref}.AllLookupDictionary[{column}.Value] : null;"
  else s!"        public {ref} {property} => {ref}.AllLookupDictionary[{column}];"

def verbatimLiteral (s : String) : String :=
  String.ofList ('@' :: '"' :: s.toList.flatMap (fun c => if c = '"' then ['"', '"'] else [c]) ++ ['"'])

end SchemaBindings.Code

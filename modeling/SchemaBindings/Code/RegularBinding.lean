import SchemaBindings.Code.CSharp
import SchemaBindings.Code.Identifier

/-!
The class that wraps a table's primary key, and the binding of a table without seed rows: its key, its
navigation properties and the lengths of its character columns.
-/

namespace SchemaBindings.Code

set_option autoImplicit false

def keyClassFileName (t : Table) : String := t.tableName ++ "PrimaryKey.cs"

def keyClassLines (t : Table) (nameSpace : String) : List String :=
  let name := t.tableName
  let schema := t.schemaName
  let param := lowerCamel name
  generatedNotice ++
  [s!"//  Source Table: {schema}.{name}",
   "",
   "",
   s!"namespace {nameSpace}",
   "\x7b",
   s!"    public class {name}PrimaryKey : EntityPrimaryKey<{name}>",
   "    \x7b",
   s!"        public {name}PrimaryKey() : base()\x7b\x7d",
   s!"        public {name}PrimaryKey(int primaryKeyValue) : base(primaryKeyValue)\x7b\x7d",
   s!"        public {name}PrimaryKey({name} {param}) : base({param})\x7b\x7d",
   "",
   s!"        public static implicit operator {name}PrimaryKey(int primaryKeyValue)",
   "        \x7b",
   s!"            return new {name}PrimaryKey(primaryKeyValue);",
   "        \x7d",
   "",
   s!"        public static implicit operator {name}PrimaryKey({name} {param})",
   "        \x7b",
   s!"            return new {name}PrimaryKey({param});",
   "        \x7d",
   "    \x7d",
   "\x7d"]

def keyClass (t : Table) (nameSpace : String) : String := fileText (keyClassLines t nameSpace)

def lengthLines (columns : List (String × Int)) : List String :=
  if columns.isEmpty then []
  else
    ["", "", "        public static class FieldLengths", "        \x7b"]
      ++ columns.map (fun (name, length) => s!"            public const int {name} = {length};")
      ++ ["        \x7d"]

def regularNavigations (t : Table) (lookups tables : NameSet) : List Reference.Navigation :=
  Reference.navigations t.columns t.primaryKeyName lookups tables

def regularBindingLines (t : Table) (nameSpace : String) (lookups tables : NameSet) :
    List String :=
  let name := t.tableName
  let key := t.primaryKeyName
  bindingHeader t
    ++ [s!"namespace {nameSpace}",
        "\x7b",
        s!"    public partial class {name} : IHavePrimaryKey",
        "    \x7b",
        s!"        public int PrimaryKey => {key};"]
    ++ (regularNavigations t lookups tables).map navigationLine
    ++ lengthLines t.characterColumns
    ++ ["    \x7d", "\x7d"]

def regularBinding (t : Table) (nameSpace : String) (lookups tables : NameSet) : String :=
  fileText (regularBindingLines t nameSpace lookups tables)

end SchemaBindings.Code

import SchemaBindings.Code.CSharp
import SchemaBindings.Code.Identifier
import SchemaBindings.Schema.Seed

/-!
The binding of a lookup table: an abstract class with one sealed instance for each row that fits, an
enumeration of the rows, and navigation properties to other lookup tables.
-/

namespace SchemaBindings.Code

set_option autoImplicit false

open Text

structure Parameter where
  property : String
  type : String
  name : String
  deriving DecidableEq, Repr

/-- The C# type of a seed column; a column that the table does not have holds text. -/
def seedColumnType (t : Table) (column : String) : String :=
  ((t.column? column).map csharpType).getD "string"

def parameters (t : Table) (s : Seed) : List Parameter :=
  s.columnNames.map fun c => ⟨c, seedColumnType t c, lowerCamel c⟩

def cellOr (default : String) (cell : Option String) : String :=
  match cell with
  | some text => if text.isEmpty then default else text
  | none => default

def literal (type : String) (cell : Option String) : String :=
  if (cell.map Row.isNullText).getD false then "null"
  else if "string".toList.isPrefixOf type.toList then verbatimLiteral (cell.getD "")
  else if type = "bool" ∨ type = "bool?" then
    if cell = some "1" ∨ lower (cell.getD "") = "true" then "true" else "false"
  else if type = "decimal" ∨ type = "decimal?" then cellOr "0" cell ++ "m"
  else cellOr "0" cell

structure Instance where
  name : String
  value : String
  arguments : List String
  deriving DecidableEq, Repr

structure LookupClass where
  schema : String
  name : String
  nameSpace : String
  /-- The property that holds the key, as the seed spells it. -/
  key : String
  parameters : List Parameter
  navigations : List Reference.Navigation
  instances : List Instance
  deriving DecidableEq, Repr

/-- The table's key column in the spelling of the seed, if the seed has it. -/
def keyProperty (t : Table) (s : Seed) : String :=
  ((s.columnIndex? t.primaryKeyName).bind (s.columnNames[·]?)).getD t.primaryKeyName

/-- The columns of a seed as columns of its table; one that the table does not have holds text and is
never null. -/
def seedColumns (t : Table) (s : Seed) : List Column :=
  s.columnNames.map fun name =>
    match t.column? name with
    | some c => { c with name }
    | none => { name, sqlType := "nvarchar", nullable := false }

def instanceOf (t : Table) (s : Seed) (fallback : KeyFallback) (row : Row) :
    Except NumeralError Instance := do
  let value ← row.enumValue (s.keyColumn? t fallback)
  return {
    name := identifier (row.cell? (s.systemNameColumn? t.tableName))
    value
    arguments := (parameters t s).map fun p => literal p.type (row.cell? (s.columnIndex? p.property)) }

def lookupClass (t : Table) (s : Seed) (nameSpace : String) (lookups tables : NameSet)
    (fallback : KeyFallback) : Except NumeralError LookupClass := do
  let instances ← s.matchingRows.mapM (instanceOf t s fallback)
  return {
    schema := t.schemaName
    name := t.tableName
    nameSpace
    key := keyProperty t s
    parameters := parameters t s
    navigations := Reference.navigations (seedColumns t s) (keyProperty t s) lookups tables
    instances }

namespace LookupClass

def fieldLines (c : LookupClass) : List String :=
  c.instances.map fun i =>
    let name := c.name
    let member := i.name
    s!"        public static readonly {name}{member} {member} = {name}{member}.Instance;"

def staticLines (c : LookupClass) : List String :=
  let name := c.name
  let key := c.key
  let members := ", ".intercalate (c.instances.map Instance.name)
  [s!"        public static readonly List<{name}> All;",
   s!"        public static readonly ReadOnlyDictionary<int, {name}> AllLookupDictionary;",
   "",
   "        /// <summary>",
   "        /// Static type constructor to coordinate static initialization order",
   "        /// </summary>",
   s!"        static {name}()",
   "        \x7b",
   s!"            All = new List<{name}> \x7b {members} \x7d;",
   s!"            AllLookupDictionary = new ReadOnlyDictionary<int, {name}>(All.ToDictionary(x => x.{key}));",
   "        \x7d",
   ""]

def parameterList (c : LookupClass) : String :=
  ", ".intercalate (c.parameters.map fun p => p.type ++ " " ++ p.name)

def constructorLines (c : LookupClass) : List String :=
  let name := c.name
  let params := c.parameterList
  ["        /// <summary>",
   "        /// Protected constructor only for use in instantiating the set of static lookup values "
     ++ "that match database",
   "        /// </summary>",
   s!"        protected {name}({params})",
   "        \x7b"]
  ++ c.parameters.map (fun p => "            " ++ p.property ++ " = " ++ p.name ++ ";")
  ++ ["        \x7d", ""]

def propertyLines (c : LookupClass) (p : Parameter) : List String :=
  (if sameIgnoringCase p.property c.key then ["        [Key]"] else [])
    ++ ["        public " ++ p.type ++ " " ++ p.property ++ " \x7b get; private set; \x7d"]

def keyLines (c : LookupClass) : List String :=
  let key := c.key
  ["        [NotMapped]",
   s!"        public int PrimaryKey \x7b get \x7b return {key}; \x7d \x7d",
   ""]

def navigationLines (c : LookupClass) : List String :=
  if c.navigations.isEmpty then []
  else ["        // Navigation properties for foreign keys to other lookup tables"]
    ++ c.navigations.map navigationLine ++ [""]

def summaryLines : List String :=
  ["        /// <summary>",
   "        /// Enum types are equal by primary key",
   "        /// </summary>"]

def equalityLines (c : LookupClass) : List String :=
  let name := c.name
  let key := c.key
  summaryLines
  ++ [s!"        public bool Equals({name} other)",
      "        \x7b",
      "            if (other == null)",
      "            \x7b",
      "                return false;",
      "            \x7d",
      s!"            return other.{key} == {key};",
      "        \x7d",
      ""]
  ++ summaryLines
  ++ ["        public override bool Equals(object obj)",
      "        \x7b",
      s!"            return Equals(obj as {name});",
      "        \x7d",
      ""]
  ++ summaryLines
  ++ ["        public override int GetHashCode()",
      "        \x7b",
      s!"            return {key};",
      "        \x7d",
      "",
      s!"        public static bool operator ==({name} left, {name} right)",
      "        \x7b",
      "            return Equals(left, right);",
      "        \x7d",
      "",
      s!"        public static bool operator !=({name} left, {name} right)",
      "        \x7b",
      "            return !Equals(left, right);",
      "        \x7d",
      "",
      s!"        public {name}Enum ToEnum => ({name}Enum)GetHashCode();",
      "",
      s!"        public static {name} ToType(int enumValue)",
      "        \x7b",
      s!"            return ToType(({name}Enum)enumValue);",
      "        \x7d",
      ""]

def switchLines (c : LookupClass) : List String :=
  let name := c.name
  [s!"        public static {name} ToType({name}Enum enumValue)",
   "        \x7b",
   "            switch (enumValue)",
   "            \x7b"]
  ++ (c.instances.flatMap fun i =>
      let member := i.name
      [s!"                case {name}Enum.{member}:", s!"                    return {member};"])
  ++ ["                default:",
      "                    throw new ArgumentException($\"Unable to map Enum: \x7benumValue\x7d\");",
      "            \x7d",
      "        \x7d",
      "    \x7d",
      ""]

def members (c : LookupClass) : List (String × String) :=
  c.instances.map fun i => (i.name, i.value)

def enumLines (c : LookupClass) : List String :=
  let name := c.name
  [s!"    public enum {name}Enum", "    \x7b"]
  ++ c.members.map (fun (member, value) => s!"        {member} = {value},")
  ++ ["    \x7d", ""]

def instanceLines (c : LookupClass) (i : Instance) : List String :=
  let name := c.name
  let member := i.name
  let params := c.parameterList
  let passed := ", ".intercalate (c.parameters.map Parameter.name)
  let arguments := ", ".intercalate i.arguments
  [s!"    public partial class {name}{member} : {name}",
   "    \x7b",
   s!"        private {name}{member}({params}) : base({passed}) \x7b\x7d",
   s!"        public static readonly {name}{member} Instance = new {name}{member}({arguments});",
   "    \x7d",
   ""]

def lines (c : LookupClass) (header : List String) : List String :=
  let name := c.name
  let nameSpace := c.nameSpace
  header
  ++ ["using System.Collections.ObjectModel;",
      "using System.ComponentModel.DataAnnotations;",
      "using System.ComponentModel.DataAnnotations.Schema;",
      "",
      "#nullable enable",
      "",
      s!"namespace {nameSpace}",
      "\x7b",
      s!"    public abstract partial class {name} : IHavePrimaryKey",
      "    \x7b"]
  ++ c.fieldLines ++ [""]
  ++ c.staticLines ++ c.constructorLines
  ++ c.parameters.flatMap c.propertyLines ++ c.keyLines
  ++ c.navigationLines ++ c.equalityLines ++ c.switchLines ++ c.enumLines
  ++ c.instances.flatMap c.instanceLines
  ++ ["\x7d"]

end LookupClass

def lookupBinding (t : Table) (s : Seed) (nameSpace : String) (lookups tables : NameSet)
    (fallback : KeyFallback) : Except NumeralError String := do
  let c ← lookupClass t s nameSpace lookups tables fallback
  return fileText (c.lines (bindingHeader t))

end SchemaBindings.Code

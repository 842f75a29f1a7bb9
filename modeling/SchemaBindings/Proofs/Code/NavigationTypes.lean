import SchemaBindings.Code.LookupBinding
import SchemaBindings.Code.RegularBinding
import SchemaBindings.Proofs.Code.InstanceArguments
import SchemaBindings.Proofs.Reference.Resolving

/-!
The types of the columns that have navigation properties. A navigation property looks the value of its
column up in a dictionary with keys of type `int`. The columns are chosen by their names and references
alone, though, so that the properties stay the same whatever types the columns have, and each of them has
a column of the right type only if every column that refers to a lookup table happens to be an `int`.
-/

namespace SchemaBindings

set_option autoImplicit false

open Text (lower)

/-- The column in C# has the type of the keys of a lookup table, or holds one of them or nothing. -/
def Column.IsKeyTyped (c : Column) : Prop := Code.csharpType c = "int" ∨ Code.csharpType c = "int?"

def Table.withTypes (t : Table) (types : Column → String) : Table :=
  { t with columns := t.columns.map fun c => { c with sqlType := types c } }

namespace Reference

/-- The column is not the key and refers to a lookup table by the rules. -/
def Navigates (key : String) (lookups tables : NameSet) (c : Column) : Prop :=
  lower c.name ≠ lower key ∧ ∃ property table, Refers c.name lookups tables c.referencesTable
    property table

theorem isSome_navigation?_iff {key : String} {lookups tables : NameSet} {c : Column} :
    (navigation? key lookups tables c).isSome = true ↔ Navigates key lookups tables c := by
  rw [isSome_navigation?, decide_eq_true_iff, Option.isSome_iff_exists]
  apply and_congr_right
  intro _
  constructor
  · rintro ⟨table, htable⟩
    obtain ⟨property, hrefers⟩ := refers_of_resolve? htable
    exact ⟨property, table, hrefers⟩
  · rintro ⟨property, table, hrefers⟩
    exact exists_resolve?_of_refers hrefers

instance (key : String) (lookups tables : NameSet) : DecidablePred (Navigates key lookups tables) :=
  fun _ => decidable_of_iff _ isSome_navigation?_iff

/-- The navigation property is the column's own. -/
structure BelongsTo (lookups tables : NameSet) (c : Column) (n : Navigation) : Prop where
  column : n.columnName = c.name
  nullable : n.nullable = c.nullable
  refers : Refers c.name lookups tables c.referencesTable n.propertyName n.referencedTable

theorem belongsTo_of_navigation? {key : String} {lookups tables : NameSet} {c : Column} {n : Navigation}
    (h : navigation? key lookups tables c = some n) : BelongsTo lookups tables c n := by
  obtain ⟨_, hcolumn, hnullable, hproperty, hresolved⟩ := navigation?_eq_some_iff.1 h
  obtain ⟨property, hrefers⟩ := refers_of_resolve? hresolved
  have hsame := propertyName?_eq_some_iff.2 hrefers.named
  rw [hproperty] at hsame
  obtain rfl := Option.some.inj hsame
  exact ⟨hcolumn, hnullable, hrefers⟩

theorem navigations_belong (columns : List Column) (key : String) (lookups tables : NameSet) :
    List.Forall₂ (BelongsTo lookups tables) (columns.filter (Navigates key lookups tables))
      (navigations columns key lookups tables) := by
  have hpairs := forall₂_filter_filterMap (navigation? key lookups tables) columns
  have hchosen : (columns.filter fun c => (navigation? key lookups tables c).isSome) =
      columns.filter (Navigates key lookups tables) := by
    apply List.filter_congr
    intro c _
    rw [Bool.eq_iff_iff, decide_eq_true_iff]
    exact isSome_navigation?_iff
  rw [hchosen] at hpairs
  apply hpairs.imp
  intro c n hn
  exact belongsTo_of_navigation? hn

end Reference

namespace Code

theorem mappedType_mem (sqlType : String) : mappedType sqlType ∈ "object" :: typeTable.map Prod.snd := by
  rcases mappedType_cases sqlType with hother | hmem
  · rw [hother]
    exact List.mem_cons_self
  · exact List.mem_cons_of_mem _ (List.mem_map_of_mem hmem)

theorem mappedType_eq_int_iff {sqlType : String} : mappedType sqlType = "int" ↔ lower sqlType = "int" := by
  have honly : ∀ entry ∈ typeTable, entry.2 = "int" → entry.1 = "int" := by decide
  constructor
  · intro h
    rcases mappedType_cases sqlType with hother | hmem
    · rw [h] at hother
      exact absurd hother (by decide)
    · exact honly (lower sqlType, mappedType sqlType) hmem h
  · intro h
    unfold mappedType
    rw [h]
    rfl

/-- Only the SQL type `int`, in any capitals, gives the type of the keys. -/
theorem isKeyTyped_iff {c : Column} : c.IsKeyTyped ↔ lower c.sqlType = "int" := by
  have htypes : ∀ type ∈ "object" :: typeTable.map Prod.snd,
      type ≠ "int?" ∧ type ++ "?" ≠ "int" ∧ (type ++ "?" = "int?" → type = "int") := by
    decide
  obtain ⟨hplain, hmarked, hint⟩ := htypes _ (mappedType_mem c.sqlType)
  rw [← mappedType_eq_int_iff]
  unfold Column.IsKeyTyped csharpType
  split
  · constructor
    · rintro (h | h)
      · exact (hmarked h).elim
      · exact hint h
    · intro h
      rw [h]
      exact .inr rfl
  · constructor
    · rintro (h | h)
      · exact h
      · exact (hplain h).elim
    · exact .inl

theorem mappedType_text : mappedType "nvarchar" = "string" := by decide +kernel

theorem map_csharpType_seedColumns (t : Table) (s : Seed) :
    (seedColumns t s).map csharpType = s.columnNames.map (seedColumnType t) := by
  unfold seedColumns
  rw [List.map_map]
  apply List.map_congr_left
  intro name _
  unfold seedColumnType
  simp only [Function.comp_apply]
  cases t.column? name with
  | none => exact mappedType_text
  | some c => rfl

section
variable {t : Table} {s : Seed} {lookups tables : NameSet} {types : Column → String}

theorem regularNavigations_withTypes :
    regularNavigations (t.withTypes types) lookups tables = regularNavigations t lookups tables := by
  unfold regularNavigations Reference.navigations Table.withTypes
  rw [List.filterMap_map]
  rfl

theorem column?_withTypes (name : String) :
    (t.withTypes types).column? name = (t.column? name).map fun c => { c with sqlType := types c } := by
  unfold Table.column? Table.withTypes
  rw [List.find?_map]
  rfl

theorem navigations_withTypes (key : String) :
    Reference.navigations (seedColumns (t.withTypes types) s) key lookups tables =
      Reference.navigations (seedColumns t s) key lookups tables := by
  unfold Reference.navigations seedColumns
  rw [List.filterMap_map, List.filterMap_map]
  apply List.filterMap_congr
  intro name _
  simp only [Function.comp_apply, column?_withTypes]
  cases t.column? name <;> rfl

end

theorem infix_regularBindingLines (t : Table) (nameSpace : String) (lookups tables : NameSet) :
    (regularNavigations t lookups tables).map navigationLine <:+: regularBindingLines t nameSpace
      lookups tables := by
  unfold regularBindingLines
  exact List.infix_append_of_infix_left (List.infix_append _ _ _)

theorem LookupClass.navigations_infix (c : LookupClass) (header : List String) :
    c.navigations.map navigationLine <:+: c.lines header := by
  have hown : c.navigations.map navigationLine <:+: c.navigationLines := by
    unfold navigationLines
    split
    · rename_i hnone
      rw [List.isEmpty_iff.1 hnone]
      exact List.nil_infix
    · exact List.infix_append _ _ _
  unfold lines
  iterate 5 apply List.infix_append_of_infix_left
  exact List.infix_append_of_infix_right hown

theorem navigations_eq {t : Table} {s : Seed} {nameSpace : String} {lookups tables : NameSet}
    {fallback : KeyFallback} {c : LookupClass}
    (h : lookupClass t s nameSpace lookups tables fallback = .ok c) :
    c.navigations = Reference.navigations (seedColumns t s) (keyProperty t s) lookups tables := by
  unfold lookupClass at h
  obtain ⟨instances, _, h⟩ := bind_eq_ok.1 h
  obtain rfl := Except.ok.inj h
  rfl

/-- The text of a binding has navigation properties, one for each of the columns that refer to a lookup
table. -/
structure HasNavigations (columns : List Column) (key : String) (lookups tables : NameSet)
    (navigations : List Reference.Navigation) (text : String) : Prop where
  lines : ∃ lines, text = fileText lines ∧ navigations.map navigationLine <:+: lines
  belong : List.Forall₂ (Reference.BelongsTo lookups tables)
    (columns.filter (Reference.Navigates key lookups tables)) navigations
  /-- Whether the columns have the type of the keys is a matter of their SQL types. -/
  keyTyped_iff : (∀ c ∈ columns.filter (Reference.Navigates key lookups tables), c.IsKeyTyped) ↔
    ∀ c ∈ columns, Reference.Navigates key lookups tables c → lower c.sqlType = "int"

theorem hasNavigations_of_lines {columns : List Column} {key : String} {lookups tables : NameSet}
    {lines : List String}
    (h : (Reference.navigations columns key lookups tables).map navigationLine <:+: lines) :
    HasNavigations columns key lookups tables (Reference.navigations columns key lookups tables)
      (fileText lines) := by
  refine ⟨⟨lines, rfl, h⟩, Reference.navigations_belong columns key lookups tables, ?_⟩
  simp only [List.mem_filter, decide_eq_true_eq, isKeyTyped_iff, and_imp]

/-- Both bindings have navigation properties for the columns that refer to a lookup table, whatever the
types of these are, and with other types for its columns a table has the same ones. -/
theorem navigations_ignore_types (t : Table) (s : Seed) (nameSpace : String) (lookups tables : NameSet)
    (fallback : KeyFallback) (types : Column → String) :
    (HasNavigations t.columns t.primaryKeyName lookups tables (regularNavigations t lookups tables)
        (regularBinding t nameSpace lookups tables) ∧
      regularNavigations (t.withTypes types) lookups tables = regularNavigations t lookups tables) ∧
    ∀ text, lookupBinding t s nameSpace lookups tables fallback = .ok text →
      ∃ c, lookupClass t s nameSpace lookups tables fallback = .ok c ∧
        HasNavigations (seedColumns t s) (keyProperty t s) lookups tables c.navigations text ∧
        c.parameters.map Parameter.type = (seedColumns t s).map csharpType ∧
        ∀ other, lookupClass (t.withTypes types) s nameSpace lookups tables fallback = .ok other →
          other.navigations = c.navigations := by
  refine ⟨⟨hasNavigations_of_lines (infix_regularBindingLines t nameSpace lookups tables),
    regularNavigations_withTypes⟩, ?_⟩
  intro text h
  unfold lookupBinding at h
  obtain ⟨c, hclass, h⟩ := bind_eq_ok.1 h
  obtain rfl := Except.ok.inj h
  have hnavigations := navigations_eq hclass
  refine ⟨c, hclass, ?_, ?_, ?_⟩
  · have hlines := c.navigations_infix (bindingHeader t)
    rw [hnavigations] at hlines ⊢
    exact hasNavigations_of_lines hlines
  · rw [parameters_eq hclass, map_csharpType_seedColumns, List.map_map]
    rfl
  · intro other hother
    rw [hnavigations, navigations_eq hother]
    exact navigations_withTypes _

/-- A table with a reference of each type. -/
def visitTable : Table where
  schemaName := "dbo"
  tableName := "Visit"
  columns :=
    [{ name := "VisitID", sqlType := "int", nullable := false }, { name := "StageID", sqlType := "INT" },
      { name := "KindID", sqlType := "varchar", nullable := false, maxLength := some 8 }]

/-- A seed with one column that the table does not have. -/
def visitSeed : Seed where
  schemaName := "dbo"
  tableName := "Visit"
  columnNames := ["VisitID", "VisitName", "StageID", "KindID", "OtherKindID"]
  rows := [["1", "First", "2", "x", "y"]]

def visitLookups : NameSet := NameSet.ofList ["Stage", "Kind", "Visit"]

theorem navigations_ignore_types_visitTable :
    (HasNavigations visitTable.columns visitTable.primaryKeyName visitLookups visitLookups
        (regularNavigations visitTable visitLookups visitLookups)
        (regularBinding visitTable "Acme" visitLookups visitLookups) ∧
      regularNavigations (visitTable.withTypes fun _ => "xml") visitLookups visitLookups =
        regularNavigations visitTable visitLookups visitLookups) ∧
    ∃ text c, lookupBinding visitTable visitSeed "Acme" visitLookups visitLookups .firstColumn =
        .ok text ∧
      lookupClass visitTable visitSeed "Acme" visitLookups visitLookups .firstColumn = .ok c ∧
      HasNavigations (seedColumns visitTable visitSeed)
        (keyProperty visitTable visitSeed) visitLookups visitLookups c.navigations text ∧
      c.parameters.map Parameter.type = ["int", "string", "int?", "string", "string"] ∧
      ∃ other, lookupClass (visitTable.withTypes fun _ => "xml") visitSeed "Acme" visitLookups visitLookups
          .firstColumn = .ok other ∧ other.navigations = c.navigations := by
  obtain ⟨hregular, hlookup⟩ := navigations_ignore_types visitTable visitSeed "Acme"
    visitLookups visitLookups .firstColumn fun _ => "xml"
  obtain ⟨text, htext⟩ :
      ∃ text, lookupBinding visitTable visitSeed "Acme" visitLookups visitLookups .firstColumn = .ok text :=
    exists_eq_ok_of_isOk (by decide +kernel)
  obtain ⟨other, hother⟩ : ∃ other,
      lookupClass (visitTable.withTypes fun _ => "xml") visitSeed "Acme" visitLookups visitLookups
        .firstColumn = .ok other :=
    exists_eq_ok_of_isOk (by decide +kernel)
  obtain ⟨c, hclass, hhas, htypes, hsame⟩ := hlookup text htext
  exact ⟨hregular, text, c, htext, hclass, hhas, htypes.trans (by decide +kernel), other, hother,
    hsame other hother⟩

/-- A text leads to a row by way of a dictionary with keys of type `int`, in both bindings. -/
theorem navigationLine_of_text :
    (∃ c ∈ visitTable.columns, c.name = "KindID" ∧ csharpType c = "string" ∧ ¬ c.IsKeyTyped) ∧
    "        public Kind Kind => Kind.AllLookupDictionary[KindID];" ∈
      regularBindingLines visitTable "Acme" (.ofList ["Kind"]) (.ofList ["Kind"]) ∧
    ∃ c, lookupClass visitTable visitSeed "Acme" (.ofList ["Kind"])
      (.ofList ["Kind"]) .firstColumn = .ok c ∧
      ⟨"OtherKindID", "string", "otherKindID"⟩ ∈ c.parameters ∧
      "        public Kind OtherKind => Kind.AllLookupDictionary[OtherKindID];" ∈
        c.navigations.map navigationLine := by
  have hregular : (regularNavigations visitTable (.ofList ["Kind"]) (.ofList ["Kind"])).map navigationLine =
      ["        public Kind Kind => Kind.AllLookupDictionary[KindID];"] := by
    decide +kernel
  have hlookup :
      (lookupClass visitTable visitSeed "Acme" (.ofList ["Kind"]) (.ofList ["Kind"]) .firstColumn).map
      (fun c => (c.parameters.getLast?, c.navigations.map navigationLine)) =
      .ok (some ⟨"OtherKindID", "string", "otherKindID"⟩,
        ["        public Kind Kind => Kind.AllLookupDictionary[KindID];",
          "        public Kind OtherKind => Kind.AllLookupDictionary[OtherKindID];"]) := by
    decide +kernel
  obtain ⟨c, hclass, hlines⟩ := map_eq_ok.1 hlookup
  obtain ⟨hlast, hnavigations⟩ := Prod.mk.inj hlines
  refine ⟨⟨{ name := "KindID", sqlType := "varchar", nullable := false, maxLength := some 8 }, ?_,
    rfl, ?_, ?_⟩, ?_, c, hclass, List.mem_of_getLast? hlast, ?_⟩
  · decide
  · decide +kernel
  · rw [isKeyTyped_iff]
    decide +kernel
  · apply (infix_regularBindingLines _ _ _ _).subset
    rw [hregular]
    exact List.mem_cons_self
  · rw [hnavigations]
    exact List.mem_cons_of_mem _ List.mem_cons_self

end Code

end SchemaBindings

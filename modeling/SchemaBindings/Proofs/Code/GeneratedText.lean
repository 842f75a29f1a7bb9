import SchemaBindings.Code.LookupBinding
import SchemaBindings.Code.RegularBinding
import SchemaBindings.Code.TypeScript
import SchemaBindings.Proofs.Code.Identifiers
import SchemaBindings.Proofs.Json.Characters
import SchemaBindings.Proofs.Reference.Navigations
import SchemaBindings.Proofs.Schema.ReadNames

/-!
No generated file holds a carriage return, provided that the names of its table are words and the seed
holds none.
-/

namespace SchemaBindings.Code

set_option autoImplicit false

open Text

variable {t : Table} {s : Seed} {nameSpace : String}

@[simp] theorem noReturn_toString {a : String} : NoReturn (toString a) ↔ NoReturn a := Iff.rfl

theorem noReturn_fileText {lines : List String} (h : ∀ l ∈ lines, NoReturn l) :
    NoReturn (fileText lines) := by
  unfold fileText
  rw [noReturn_append]
  exact ⟨noReturn_intercalate (by decide) h, by decide⟩

theorem noReturn_lowerCamel {name : String} (h : NoReturn name) : NoReturn (lowerCamel name) := by
  unfold NoReturn at h
  unfold lowerCamel
  split
  · decide
  · rename_i c rest hname
    rw [hname] at h
    rw [noReturn_ofList, List.mem_append]
    rintro (hmem | hmem)
    · exact not_mem_lowerChar (by decide) (List.ne_of_not_mem_cons h).symm hmem
    · exact h (List.mem_cons_of_mem c hmem)

theorem noReturn_identifier (text : Option String) : NoReturn (identifier text) := by
  intro hmem
  have hword := isWordChar_of_mem_identifier hmem
  revert hword
  decide

theorem noReturn_plural {name : String} (h : NoReturn name) : NoReturn (plural name) := by
  unfold plural
  split
  · rw [noReturn_append, noReturn_ofList]
    exact ⟨fun hmem => h (List.mem_of_mem_dropLast hmem), by decide⟩
  · split
    · exact noReturn_append.2 ⟨h, by decide⟩
    · exact noReturn_append.2 ⟨h, by decide⟩

theorem noReturn_primaryKeyName (h : t.Worded) : NoReturn t.primaryKeyName := by
  have hdefault : NoReturn (t.tableName ++ "ID") := noReturn_append.2 ⟨h.table.noReturn, by decide⟩
  unfold Table.primaryKeyName
  split
  · rename_i name hkey
    split
    · exact hdefault
    · exact (h.key name hkey).noReturn
  · exact hdefault

theorem noReturn_csharpType (c : Column) : NoReturn (csharpType c) := by
  have htable : ∀ p ∈ typeTable, NoReturn p.2 := by decide
  have hmapped : NoReturn (mappedType c.sqlType) := by
    rcases mappedType_cases c.sqlType with hother | hmem
    · rw [hother]
      exact noReturn_ofList.2 (by decide)
    · exact htable (_, mappedType c.sqlType) hmem
  unfold csharpType
  split
  · exact noReturn_append.2 ⟨hmapped, by decide⟩
  · exact hmapped

theorem noReturn_generatedNotice : ∀ l ∈ generatedNotice, NoReturn l := by
  unfold generatedNotice
  simp only [List.forall_mem_cons]
  refine ⟨?_, ?_, ?_, List.forall_mem_nil _⟩ <;> exact noReturn_ofList.2 (by decide)

theorem noReturn_keyClass (h : t.Worded) (hn : NoReturn nameSpace) : NoReturn (keyClass t nameSpace) := by
  have htable := h.table.noReturn
  have hschema := h.schema.noReturn
  have hparam := noReturn_lowerCamel htable
  refine noReturn_fileText ?_
  unfold keyClassLines
  simp only [List.forall_mem_append, List.forall_mem_cons, noReturn_append, noReturn_toString,
    htable, hschema, hparam, hn, and_true]
  refine ⟨noReturn_generatedNotice, ?_⟩
  and_intros
  all_goals first | exact List.forall_mem_nil _ | exact noReturn_ofList.2 (by decide)

theorem noReturn_navigationLine {n : Reference.Navigation} (h : n.Clean) : NoReturn (navigationLine n) := by
  have hproperty := h.property
  have hcolumn := h.column
  have htable := h.table
  unfold navigationLine
  simp only
  split
  · simp only [noReturn_append, noReturn_toString, hproperty, hcolumn, htable, and_true]
    and_intros
    all_goals exact noReturn_ofList.2 (by decide)
  · simp only [noReturn_append, noReturn_toString, hproperty, hcolumn, htable, and_true]
    and_intros
    all_goals exact noReturn_ofList.2 (by decide)

theorem noReturn_bindingHeader (h : t.Worded) : ∀ l ∈ bindingHeader t, NoReturn l := by
  unfold bindingHeader
  simp only [List.forall_mem_append, List.forall_mem_cons, noReturn_append, h.schema.noReturn,
    h.table.noReturn, and_true]
  refine ⟨noReturn_generatedNotice, ?_⟩
  and_intros
  all_goals first | exact List.forall_mem_nil _ | exact noReturn_ofList.2 (by decide)

theorem noReturn_lengthLines {columns : List (String × Int)} (h : ∀ c ∈ columns, NoReturn c.1) :
    ∀ l ∈ lengthLines columns, NoReturn l := by
  have hline : ∀ l ∈ columns.map (fun c => s!"            public const int {c.1} = {c.2};"),
      NoReturn l := by
    intro l hl
    obtain ⟨c, hc, rfl⟩ := List.mem_map.1 hl
    simp only [noReturn_append, noReturn_toString, noReturn_toString_int, h c hc, and_true]
    and_intros
    all_goals exact noReturn_ofList.2 (by decide)
  unfold lengthLines
  split
  · exact List.forall_mem_nil _
  · simp only [List.forall_mem_append, List.forall_mem_cons]
    refine ⟨⟨?_, hline⟩, ?_⟩
    all_goals and_intros
    all_goals first | exact List.forall_mem_nil _ | exact noReturn_ofList.2 (by decide)

theorem noReturn_regularBinding {lookups tables : NameSet} (h : t.Worded) (hn : NoReturn nameSpace)
    (hl : lookups.Clean) : NoReturn (regularBinding t nameSpace lookups tables) := by
  have hnavigation : ∀ l ∈ (regularNavigations t lookups tables).map navigationLine, NoReturn l := by
    intro l hl'
    obtain ⟨n, hmem, rfl⟩ := List.mem_map.1 hl'
    exact noReturn_navigationLine
      (Reference.navigations_clean (fun c hc => (h.columns c hc).noReturn) hl n hmem)
  have hlength : ∀ l ∈ lengthLines t.characterColumns, NoReturn l := by
    refine noReturn_lengthLines ?_
    intro p hp
    obtain ⟨c, hc, hp⟩ := List.mem_filterMap.1 hp
    obtain ⟨n, _, rfl⟩ := Option.map_eq_some_iff.1 hp
    exact (h.columns c hc).noReturn
  have htable := h.table.noReturn
  have hkey := noReturn_primaryKeyName h
  refine noReturn_fileText ?_
  unfold regularBindingLines
  simp only [List.forall_mem_append, List.forall_mem_cons, noReturn_append, noReturn_toString,
    htable, hkey, hn, and_true]
  refine ⟨⟨⟨⟨noReturn_bindingHeader h, ?_⟩, hnavigation⟩, hlength⟩, ?_⟩
  all_goals and_intros
  all_goals first | exact List.forall_mem_nil _ | exact noReturn_ofList.2 (by decide)

theorem noReturn_cell? {row : Row} (h : ∀ cell ∈ row, NoReturn cell) {place : Option Nat} {cell : String}
    (hc : row.cell? place = some cell) : NoReturn cell := by
  unfold Row.cell? at hc
  obtain ⟨i, _, hi⟩ := Option.bind_eq_some_iff.1 hc
  exact h cell (List.mem_of_getElem? hi)

theorem noReturn_cellOr {default : String} {cell : Option String} (hd : NoReturn default)
    (hc : ∀ text, cell = some text → NoReturn text) : NoReturn (cellOr default cell) := by
  unfold cellOr
  split
  · rename_i text
    split
    · exact hd
    · exact hc text rfl
  · exact hd

theorem noReturn_verbatimLiteral {a : String} (h : NoReturn a) : NoReturn (verbatimLiteral a) := by
  unfold verbatimLiteral
  rw [noReturn_ofList]
  intro hmem
  simp only [List.cons_append, List.mem_cons, List.mem_append, List.mem_flatMap, List.not_mem_nil,
    or_false] at hmem
  rcases hmem with hat | hquote | ⟨c, hc, hin⟩ | hquote
  · cases hat
  · cases hquote
  · split at hin
    · revert hin
      decide
    · rw [List.mem_singleton] at hin
      subst hin
      exact h hc
  · cases hquote

theorem noReturn_literal {type : String} {cell : Option String}
    (h : ∀ text, cell = some text → NoReturn text) : NoReturn (literal type cell) := by
  have hzero : NoReturn (cellOr "0" cell) := noReturn_cellOr (by decide) h
  unfold literal
  split
  · decide
  · split
    · refine noReturn_verbatimLiteral ?_
      cases cell with
      | none => decide
      | some text => exact h text rfl
    · split
      · split <;> decide
      · split
        · exact noReturn_append.2 ⟨hzero, by decide⟩
        · exact hzero

theorem noReturn_write {n : Int} {text : String} (h : Numeral.write n = .ok text) : NoReturn text := by
  unfold Numeral.write at h
  split at h
  · cases h
    exact noReturn_toString_int n
  · cases h

theorem noReturn_enumValue {row : Row} {key : Option Nat} {value : String}
    (h : row.enumValue key = .ok value) : NoReturn value := by
  unfold Row.enumValue at h
  obtain ⟨n, _, h⟩ := bind_eq_ok.1 h
  cases n with
  | some n => exact noReturn_write h
  | none =>
    cases h
    decide

structure Parameter.Clean (p : Parameter) : Prop where
  property : NoReturn p.property
  type : NoReturn p.type
  name : NoReturn p.name

structure Instance.Clean (i : Instance) : Prop where
  name : NoReturn i.name
  value : NoReturn i.value
  arguments : ∀ a ∈ i.arguments, NoReturn a

structure LookupClass.Clean (c : LookupClass) : Prop where
  schema : NoReturn c.schema
  name : NoReturn c.name
  nameSpace : NoReturn c.nameSpace
  key : NoReturn c.key
  parameters : ∀ p ∈ c.parameters, p.Clean
  navigations : ∀ n ∈ c.navigations, n.Clean
  instances : ∀ i ∈ c.instances, i.Clean

theorem parameters_clean (hs : s.Clean) : ∀ p ∈ parameters t s, p.Clean := by
  intro p hp
  obtain ⟨name, hname, rfl⟩ := List.mem_map.1 hp
  have hcolumn := hs.columns name hname
  refine ⟨hcolumn, ?_, noReturn_lowerCamel hcolumn⟩
  change NoReturn (((t.column? name).map csharpType).getD "string")
  cases t.column? name with
  | none => decide
  | some c => exact noReturn_csharpType c

theorem instanceOf_clean {fallback : KeyFallback} {row : Row} (h : ∀ cell ∈ row, NoReturn cell)
    {i : Instance} (hi : instanceOf t s fallback row = .ok i) : i.Clean := by
  unfold instanceOf at hi
  obtain ⟨value, hvalue, hi⟩ := bind_eq_ok.1 hi
  cases hi
  constructor
  · exact noReturn_identifier _
  · exact noReturn_enumValue hvalue
  · intro a ha
    obtain ⟨p, _, rfl⟩ := List.mem_map.1 ha
    exact noReturn_literal fun text htext => noReturn_cell? h htext

theorem noReturn_keyProperty (ht : t.Worded) (hs : s.Clean) : NoReturn (keyProperty t s) := by
  unfold keyProperty
  cases h : (s.columnIndex? t.primaryKeyName).bind (s.columnNames[·]?) with
  | none => exact noReturn_primaryKeyName ht
  | some name =>
    obtain ⟨i, _, hi⟩ := Option.bind_eq_some_iff.1 h
    exact hs.columns name (List.mem_of_getElem? hi)

theorem lookupClass_clean (ht : t.Worded) (hs : s.Clean) (hn : NoReturn nameSpace) {lookups tables : NameSet}
    (hl : lookups.Clean) {fallback : KeyFallback} {c : LookupClass}
    (h : lookupClass t s nameSpace lookups tables fallback = .ok c) : c.Clean := by
  unfold lookupClass at h
  obtain ⟨instances, hinstances, h⟩ := bind_eq_ok.1 h
  cases h
  constructor
  · exact ht.schema.noReturn
  · exact ht.table.noReturn
  · exact hn
  · exact noReturn_keyProperty ht hs
  · exact parameters_clean hs
  · refine Reference.navigations_clean ?_ hl
    intro c hc
    obtain ⟨name, hname, rfl⟩ := List.mem_map.1 hc
    have hcolumn := hs.columns name hname
    split <;> exact hcolumn
  · intro i hi
    obtain ⟨row, hrow, hi⟩ := mem_of_mapM_eq_ok hinstances i hi
    exact instanceOf_clean (hs.cells row (List.mem_filter.1 hrow).1) hi

section
variable {c : LookupClass}

theorem noReturn_parameterList (h : c.Clean) : NoReturn c.parameterList := by
  refine noReturn_intercalate (by decide) ?_
  intro l hl
  obtain ⟨p, hp, rfl⟩ := List.mem_map.1 hl
  have hparameter := h.parameters p hp
  simp only [noReturn_append, hparameter.type, hparameter.name, and_true, true_and]
  decide

theorem noReturn_fieldLines (h : c.Clean) : ∀ l ∈ c.fieldLines, NoReturn l := by
  intro l hl
  obtain ⟨i, hi, rfl⟩ := List.mem_map.1 hl
  simp only [noReturn_append, noReturn_toString, h.name, (h.instances i hi).name, and_true]
  and_intros
  all_goals exact noReturn_ofList.2 (by decide)

theorem noReturn_staticLines (h : c.Clean) : ∀ l ∈ c.staticLines, NoReturn l := by
  have hmembers : NoReturn (", ".intercalate (c.instances.map Instance.name)) := by
    refine noReturn_intercalate (by decide) ?_
    intro l hl
    obtain ⟨i, hi, rfl⟩ := List.mem_map.1 hl
    exact (h.instances i hi).name
  unfold LookupClass.staticLines
  simp only [List.forall_mem_cons, noReturn_append, noReturn_toString, h.name, h.key, hmembers, and_true]
  and_intros
  all_goals first | exact List.forall_mem_nil _ | exact noReturn_ofList.2 (by decide)

theorem noReturn_constructorLines (h : c.Clean) : ∀ l ∈ c.constructorLines, NoReturn l := by
  have hassign : ∀ l ∈ c.parameters.map (fun p => "            " ++ p.property ++ " = " ++ p.name ++ ";"),
      NoReturn l := by
    intro l hl
    obtain ⟨p, hp, rfl⟩ := List.mem_map.1 hl
    simp only [noReturn_append, (h.parameters p hp).property, (h.parameters p hp).name, and_true]
    and_intros
    all_goals exact noReturn_ofList.2 (by decide)
  have hlist := noReturn_parameterList h
  unfold LookupClass.constructorLines
  simp only [List.forall_mem_append, List.forall_mem_cons, noReturn_append, noReturn_toString, h.name,
    hlist, and_true]
  refine ⟨⟨?_, hassign⟩, ?_⟩
  all_goals and_intros
  all_goals first | exact List.forall_mem_nil _ | exact noReturn_ofList.2 (by decide)

theorem noReturn_propertyLines (h : c.Clean) : ∀ l ∈ c.parameters.flatMap c.propertyLines,
    NoReturn l := by
  rw [List.forall_mem_flatMap]
  intro p hp
  have hparameter := h.parameters p hp
  unfold LookupClass.propertyLines
  rw [List.forall_mem_append]
  constructor
  · split
    · rw [List.forall_mem_singleton]
      exact noReturn_ofList.2 (by decide)
    · exact List.forall_mem_nil _
  · rw [List.forall_mem_singleton]
    simp only [noReturn_append, hparameter.type, hparameter.property, and_true]
    and_intros
    all_goals exact noReturn_ofList.2 (by decide)

theorem noReturn_keyLines (h : c.Clean) : ∀ l ∈ c.keyLines, NoReturn l := by
  unfold LookupClass.keyLines
  simp only [List.forall_mem_cons, noReturn_append, noReturn_toString, h.key, and_true]
  and_intros
  all_goals first | exact List.forall_mem_nil _ | exact noReturn_ofList.2 (by decide)

theorem noReturn_navigationLines (h : c.Clean) : ∀ l ∈ c.navigationLines, NoReturn l := by
  have hlines : ∀ l ∈ c.navigations.map navigationLine, NoReturn l := by
    intro l hl
    obtain ⟨n, hn, rfl⟩ := List.mem_map.1 hl
    exact noReturn_navigationLine (h.navigations n hn)
  unfold LookupClass.navigationLines
  split
  · exact List.forall_mem_nil _
  · rw [List.forall_mem_append, List.forall_mem_append, List.forall_mem_singleton,
      List.forall_mem_singleton]
    exact ⟨⟨noReturn_ofList.2 (by decide), hlines⟩, by decide⟩

theorem noReturn_summaryLines : ∀ l ∈ LookupClass.summaryLines, NoReturn l := by
  unfold LookupClass.summaryLines
  simp only [List.forall_mem_cons]
  and_intros
  all_goals first | exact List.forall_mem_nil _ | exact noReturn_ofList.2 (by decide)

theorem noReturn_equalityLines (h : c.Clean) : ∀ l ∈ c.equalityLines, NoReturn l := by
  have hsummary := noReturn_summaryLines
  unfold LookupClass.equalityLines
  simp only [List.forall_mem_append, List.forall_mem_cons, noReturn_append, noReturn_toString, h.name,
    h.key, and_true]
  refine ⟨⟨⟨⟨⟨hsummary, ?_⟩, hsummary⟩, ?_⟩, hsummary⟩, ?_⟩
  all_goals and_intros
  all_goals first | exact List.forall_mem_nil _ | exact noReturn_ofList.2 (by decide)

theorem noReturn_switchLines (h : c.Clean) : ∀ l ∈ c.switchLines, NoReturn l := by
  have hcases : ∀ l ∈ c.instances.flatMap (fun i =>
      [s!"                case {c.name}Enum.{i.name}:", s!"                    return {i.name};"]),
      NoReturn l := by
    rw [List.forall_mem_flatMap]
    intro i hi
    have hmember := (h.instances i hi).name
    simp only [List.forall_mem_cons, noReturn_append, noReturn_toString, h.name, hmember, and_true]
    and_intros
    all_goals first | exact List.forall_mem_nil _ | exact noReturn_ofList.2 (by decide)
  unfold LookupClass.switchLines
  simp only [List.forall_mem_append, List.forall_mem_cons, noReturn_append, noReturn_toString, h.name,
    and_true]
  refine ⟨⟨?_, hcases⟩, ?_⟩
  all_goals and_intros
  all_goals first | exact List.forall_mem_nil _ | exact noReturn_ofList.2 (by decide)

theorem noReturn_enumLines (h : c.Clean) : ∀ l ∈ c.enumLines, NoReturn l := by
  have hmembers : ∀ l ∈ c.members.map (fun m => s!"        {m.1} = {m.2},"), NoReturn l := by
    intro l hl
    obtain ⟨m, hm, rfl⟩ := List.mem_map.1 hl
    obtain ⟨i, hi, rfl⟩ := List.mem_map.1 hm
    simp only [noReturn_append, noReturn_toString, (h.instances i hi).name, (h.instances i hi).value,
      and_true]
    and_intros
    all_goals exact noReturn_ofList.2 (by decide)
  unfold LookupClass.enumLines
  simp only [List.forall_mem_append, List.forall_mem_cons, noReturn_append, noReturn_toString, h.name,
    and_true]
  refine ⟨⟨?_, hmembers⟩, ?_⟩
  all_goals and_intros
  all_goals first | exact List.forall_mem_nil _ | exact noReturn_ofList.2 (by decide)

theorem noReturn_instanceLines (h : c.Clean) : ∀ l ∈ c.instances.flatMap c.instanceLines, NoReturn l := by
  rw [List.forall_mem_flatMap]
  intro i hi
  have hlist := noReturn_parameterList h
  have hmember := (h.instances i hi).name
  have hpassed : NoReturn (", ".intercalate (c.parameters.map Parameter.name)) := by
    refine noReturn_intercalate (by decide) ?_
    intro l hl
    obtain ⟨p, hp, rfl⟩ := List.mem_map.1 hl
    exact (h.parameters p hp).name
  have harguments : NoReturn (", ".intercalate i.arguments) :=
    noReturn_intercalate (by decide) (h.instances i hi).arguments
  unfold LookupClass.instanceLines
  simp only [List.forall_mem_cons, noReturn_append, noReturn_toString, h.name, hmember, hlist, hpassed,
    harguments, and_true]
  and_intros
  all_goals first | exact List.forall_mem_nil _ | exact noReturn_ofList.2 (by decide)

theorem noReturn_lines (h : c.Clean) {header : List String} (hh : ∀ l ∈ header, NoReturn l) :
    ∀ l ∈ c.lines header, NoReturn l := by
  have hfields := noReturn_fieldLines h
  have hstatic := noReturn_staticLines h
  have hconstructor := noReturn_constructorLines h
  have hproperties := noReturn_propertyLines h
  have hkey := noReturn_keyLines h
  have hnavigation := noReturn_navigationLines h
  have hequality := noReturn_equalityLines h
  have hswitch := noReturn_switchLines h
  have henum := noReturn_enumLines h
  have hinstances := noReturn_instanceLines h
  unfold LookupClass.lines
  simp only [List.forall_mem_append]
  refine ⟨⟨⟨⟨⟨⟨⟨⟨⟨⟨⟨⟨⟨hh, ?_⟩, hfields⟩, ?_⟩, hstatic⟩, hconstructor⟩,
    hproperties⟩, hkey⟩, hnavigation⟩, hequality⟩, hswitch⟩, henum⟩, hinstances⟩, ?_⟩
  all_goals simp only [List.forall_mem_cons, noReturn_append, noReturn_toString, h.name,
    h.nameSpace, and_true]
  all_goals and_intros
  all_goals first | exact List.forall_mem_nil _ | exact noReturn_ofList.2 (by decide)

end

theorem noReturn_lookupBinding (ht : t.Worded) (hs : s.Clean) (hn : NoReturn nameSpace)
    {lookups tables : NameSet} (hl : lookups.Clean) {fallback : KeyFallback} {binding : String}
    (h : lookupBinding t s nameSpace lookups tables fallback = .ok binding) : NoReturn binding := by
  unfold lookupBinding at h
  obtain ⟨c, hc, h⟩ := bind_eq_ok.1 h
  rw [← Except.ok.inj h]
  exact noReturn_fileText (noReturn_lines (lookupClass_clean ht hs hn hl hc) (noReturn_bindingHeader ht))

structure EnumEntry.Clean (e : EnumEntry) : Prop where
  name : NoReturn e.name
  display : NoReturn e.displayName
  value : NoReturn e.value

theorem enumEntry_clean {fallback : KeyFallback} {running : Int} {row : Row}
    (h : ∀ cell ∈ row, NoReturn cell)
    {e : EnumEntry} (he : enumEntry t s fallback running row = .ok e) : e.Clean := by
  unfold enumEntry at he
  obtain ⟨order, _, he⟩ := bind_eq_ok.1 he
  obtain ⟨value, hvalue, he⟩ := bind_eq_ok.1 he
  cases he
  have hcell : ∀ place text, row.cell? place = some text → NoReturn text :=
    fun place text htext => noReturn_cell? h htext
  constructor
  · exact noReturn_identifier _
  · exact noReturn_cellOr (noReturn_cellOr (by decide) (hcell _)) (hcell _)
  · exact noReturn_enumValue hvalue

theorem noReturn_escapeScript {a : String} (h : NoReturn a) : NoReturn (escapeScript a) := by
  unfold escapeScript
  rw [noReturn_ofList]
  intro hmem
  obtain ⟨c, hc, hin⟩ := List.mem_flatMap.1 hmem
  unfold scriptEscape at hin
  split at hin
  · rcases List.mem_cons.1 hin with hslash | hin
    · cases hslash
    · rw [List.mem_singleton] at hin
      subst hin
      exact h hc
  · rw [List.mem_singleton] at hin
    subst hin
    exact h hc

theorem noReturn_recordLine {e : EnumEntry} (h : e.Clean) {l : String} (hl : recordLine e = .ok l) :
    NoReturn l := by
  unfold recordLine at hl
  obtain ⟨order, horder, hl⟩ := bind_eq_ok.1 hl
  cases hl
  simp only [noReturn_append, noReturn_toString, h.name, noReturn_escapeScript h.display, h.value,
    noReturn_write horder, and_true]
  and_intros
  all_goals exact noReturn_ofList.2 (by decide)

theorem noReturn_enumModuleLines (ht : t.Worded) {entries : List EnumEntry} (he : ∀ e ∈ entries, e.Clean)
    {lines : List String} (h : enumModuleLines t entries = .ok lines) : ∀ l ∈ lines, NoReturn l := by
  unfold enumModuleLines at h
  obtain ⟨records, hrecords, h⟩ := bind_eq_ok.1 h
  cases h
  have hmembers : ∀ l ∈ entries.map (fun e => "  " ++ e.name ++ " = " ++ e.value ++ ","), NoReturn l := by
    intro l hl
    obtain ⟨e, hmem, rfl⟩ := List.mem_map.1 hl
    simp only [noReturn_append, (he e hmem).name, (he e hmem).value, and_true]
    and_intros
    all_goals exact noReturn_ofList.2 (by decide)
  have hrecord : ∀ l ∈ records, NoReturn l := by
    intro l hl
    obtain ⟨e, hmem, hl⟩ := mem_of_mapM_eq_ok hrecords l hl
    exact noReturn_recordLine (he e hmem) hl
  have htable := ht.table.noReturn
  simp only [List.forall_mem_append, List.forall_mem_cons, noReturn_append, noReturn_toString,
    ht.schema.noReturn, htable, noReturn_plural htable, and_true]
  refine ⟨⟨⟨⟨?_, hmembers⟩, ?_⟩, hrecord⟩, ?_⟩
  all_goals and_intros
  all_goals first | exact List.forall_mem_nil _ | exact noReturn_ofList.2 (by decide)

theorem noReturn_enumModule (ht : t.Worded) (hs : s.Clean) {fallback : KeyFallback} {script : String}
    (h : enumModule t s fallback = .ok script) : NoReturn script := by
  unfold enumModule at h
  obtain ⟨entries, hentries, h⟩ := bind_eq_ok.1 h
  obtain ⟨lines, hlines, h⟩ := bind_eq_ok.1 h
  cases h
  refine noReturn_fileText (noReturn_enumModuleLines ht ?_ hlines)
  have hcells : ∀ row ∈ s.matchingRows, ∀ cell ∈ row, NoReturn cell :=
    fun row hrow => hs.cells row (List.mem_filter.1 hrow).1
  have hrows := (List.forall₂_and_left _ _).2 ⟨hcells, forall₂_enumEntries hentries⟩
  refine forall_mem_of_forall₂ hrows ?_
  rintro row e ⟨hrow, running, he⟩
  exact enumEntry_clean hrow he

theorem plain_manifest (entries : List ManifestEntry) : Json.Plain (manifest entries) := by
  unfold manifest
  exact Json.plain_append.2 ⟨Json.plain_indented 0 _, by decide⟩

theorem noReturn_manifest (entries : List ManifestEntry) : NoReturn (manifest entries) := by
  intro hreturn
  have hplain := plain_manifest entries '\r' hreturn
  revert hplain
  decide

end SchemaBindings.Code

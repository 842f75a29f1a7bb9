import SchemaBindings.Code.LookupBinding
import SchemaBindings.Proofs.Results

/-!
The key of a lookup binding. The values of its enumeration come from the key column of the seed, which is
always there when the first column stands in for a missing one. The class itself names its key after the
table, so the two are the same only if the seed has a column with the name of the table's key; otherwise the
class refers to a member that it does not declare.
-/

namespace SchemaBindings

set_option autoImplicit false

open Text (lower sameIgnoringCase)

/-- The seed has a column with the name of the table's key. -/
def Seed.HasKey (s : Seed) (t : Table) : Prop := ∃ n ∈ s.columnNames, lower n = lower t.primaryKeyName

instance (s : Seed) (t : Table) : Decidable (s.HasKey t) :=
  inferInstanceAs (Decidable (∃ n ∈ s.columnNames, lower n = lower t.primaryKeyName))

namespace Seed

section
variable {s : Seed} {name : String} {i : Nat}

theorem columnIndex?_eq_some (h : s.columnIndex? name = some i) :
    ∃ n, s.columnNames[i]? = some n ∧ lower n = lower name := by
  obtain ⟨hlt, hsame, _⟩ := List.findIdx?_eq_some_iff_getElem.1 h
  exact ⟨_, List.getElem?_eq_getElem hlt, beq_iff_eq.1 hsame⟩

theorem columnIndex?_eq_none_iff : s.columnIndex? name = none ↔
      ∀ n ∈ s.columnNames, lower n ≠ lower name := by
  rw [columnIndex?, List.findIdx?_eq_none_iff]
  simp [sameIgnoringCase]

theorem lt_of_columnWithEnding? {ending : String} (h : s.columnWithEnding? ending = some i) :
    i < s.columnNames.length :=
  (List.findIdx?_eq_some_iff_getElem.1 h).1

end

variable {s : Seed} {t : Table}

theorem HasKey.exists_columnIndex? (h : s.HasKey t) : ∃ i, s.columnIndex? t.primaryKeyName = some i := by
  rw [← Option.ne_none_iff_exists']
  intro hnone
  obtain ⟨n, hn, hlower⟩ := h
  exact columnIndex?_eq_none_iff.1 hnone n hn hlower

/-- A seed with a column has a key column if the first one may stand in for it. -/
theorem exists_keyColumn? (t : Table) (hs : s.columnNames ≠ []) :
    ∃ i name, s.keyColumn? t .firstColumn = some i ∧ s.columnNames[i]? = some name := by
  unfold keyColumn?
  cases hkey : s.columnIndex? t.primaryKeyName with
  | some i =>
    obtain ⟨n, hn, _⟩ := columnIndex?_eq_some hkey
    exact ⟨i, n, rfl, hn⟩
  | none =>
    cases hid : s.columnWithEnding? "ID" with
    | some i => exact ⟨i, _, rfl, List.getElem?_eq_getElem (lt_of_columnWithEnding? hid)⟩
    | none =>
      have hlt : 0 < s.columnNames.length := List.length_pos_iff.2 hs
      refine ⟨0, _, ?_, List.getElem?_eq_getElem hlt⟩
      rw [if_pos ⟨rfl, hs⟩]
      rfl

end Seed

namespace Code

section
variable {s : Seed} {t : Table}

/-- The class is keyed by the key column of the seed if this column has the name of the table's key. -/
theorem keyProperty_of_hasKey (h : s.HasKey t) (fallback : KeyFallback) : ∃ i,
    s.keyColumn? t fallback = some i ∧ s.columnNames[i]? = some (keyProperty t s) := by
  obtain ⟨i, hi⟩ := h.exists_columnIndex?
  obtain ⟨n, hn, _⟩ := Seed.columnIndex?_eq_some hi
  have hproperty : keyProperty t s = n := by
    rw [keyProperty, hi, Option.bind_some, hn, Option.getD_some]
  refine ⟨i, ?_, hproperty ▸ hn⟩
  rw [Seed.keyColumn?, hi]
  rfl

theorem keyProperty_mem_iff : keyProperty t s ∈ s.columnNames ↔ s.HasKey t := by
  constructor
  · intro hmem
    cases hi : s.columnIndex? t.primaryKeyName with
    | some i =>
      obtain ⟨n, hn, hlower⟩ := Seed.columnIndex?_eq_some hi
      exact ⟨n, List.mem_of_getElem? hn, hlower⟩
    | none =>
      rw [keyProperty, hi] at hmem
      exact ⟨_, hmem, rfl⟩
  · intro h
    obtain ⟨_, _, hname⟩ := keyProperty_of_hasKey h .none
    exact List.mem_of_getElem? hname

end

/-- The line in which the class declares the property that a parameter sets. -/
def Parameter.declaration (p : Parameter) : String :=
  "        public " ++ p.type ++ " " ++ p.property ++ " \x7b get; private set; \x7d"

namespace LookupClass

def keyUses (c : LookupClass) : List String :=
  let name := c.name
  let key := c.key
  [s!"            AllLookupDictionary = new ReadOnlyDictionary<int, {name}>(All.ToDictionary(x => x.{key}));",
   s!"        public int PrimaryKey \x7b get \x7b return {key}; \x7d \x7d",
   s!"            return other.{key} == {key};",
   s!"            return {key};"]

theorem keyUses_subset (c : LookupClass) (header : List String) : c.keyUses ⊆ c.lines header := by
  have hstatic : c.staticLines ⊆ c.lines header := by
    intro l hl
    simp only [lines, List.mem_append, hl, true_or, or_true]
  have hkey : c.keyLines ⊆ c.lines header := by
    intro l hl
    simp only [lines, List.mem_append, hl, true_or, or_true]
  have hequality : c.equalityLines ⊆ c.lines header := by
    intro l hl
    simp only [lines, List.mem_append, hl, true_or, or_true]
  unfold keyUses
  simp only [List.cons_subset, List.nil_subset, and_true]
  refine ⟨hstatic ?_, hkey ?_, hequality ?_, hequality ?_⟩
  · simp only [staticLines, List.mem_cons, true_or, or_true]
  · simp only [keyLines, List.mem_cons, true_or, or_true]
  · simp only [equalityLines, List.mem_append, List.mem_cons, true_or, or_true]
  · simp only [equalityLines, List.mem_append, List.mem_cons, true_or, or_true]

theorem declarations_subset (c : LookupClass) (header : List String) :
    c.parameters.map Parameter.declaration ⊆ c.lines header := by
  intro l hl
  obtain ⟨p, hp, rfl⟩ := List.mem_map.1 hl
  have hlines : p.declaration ∈ c.propertyLines p := List.mem_append_right _ List.mem_cons_self
  have hall : p.declaration ∈ c.parameters.flatMap c.propertyLines := List.mem_flatMap.2 ⟨p, hp, hlines⟩
  simp only [lines, List.mem_append, hall, true_or, or_true]

end LookupClass

/-- A class uses the member that it is keyed by in four places, and this member is one of those that it
declares, or the one that the enumeration takes its values from, only if the seed has a column with the
name of the table's key. -/
theorem lookupBinding_key {t : Table} {s : Seed} {nameSpace : String} {lookups tables : NameSet}
    {c : LookupClass} (hs : s.columnNames ≠ [])
    (h : lookupClass t s nameSpace lookups tables .firstColumn = .ok c) :
    lookupBinding t s nameSpace lookups tables .firstColumn = .ok (fileText (c.lines (bindingHeader t))) ∧
    c.keyUses ⊆ c.lines (bindingHeader t) ∧
    c.parameters.map Parameter.declaration ⊆ c.lines (bindingHeader t) ∧
    (c.key ∈ c.parameters.map Parameter.property ↔ s.HasKey t) ∧
    ∃ i name, s.keyColumn? t .firstColumn = some i ∧ s.columnNames[i]? = some name ∧
      (c.key = name ↔ s.HasKey t) := by
  have hbinding : lookupBinding t s nameSpace lookups tables .firstColumn =
      .ok (fileText (c.lines (bindingHeader t))) := by
    rw [lookupBinding, h]
    rfl
  unfold lookupClass at h
  obtain ⟨instances, _, h⟩ := bind_eq_ok.1 h
  obtain rfl := Except.ok.inj h
  have hproperties : (parameters t s).map Parameter.property = s.columnNames := by
    rw [parameters, List.map_map]
    exact List.map_id _
  refine ⟨hbinding, LookupClass.keyUses_subset _ _, LookupClass.declarations_subset _ _, ?_, ?_⟩
  · rw [hproperties]
    exact keyProperty_mem_iff
  · obtain ⟨i, name, hi, hname⟩ := s.exists_keyColumn? t hs
    refine ⟨i, name, hi, hname, ?_, fun hkey => ?_⟩
    · rintro rfl
      exact keyProperty_mem_iff.1 (List.mem_of_getElem? hname)
    · obtain ⟨j, hj, hproperty⟩ := keyProperty_of_hasKey hkey .firstColumn
      obtain rfl := Option.some.inj (hi.symm.trans hj)
      exact Option.some.inj (hproperty.symm.trans hname)

/-- A table that names no key, so that its key is `ShadeID`. -/
def shadeTable : Table where
  schemaName := "dbo"
  tableName := "Shade"
  columns :=
    [{ name := "Code", sqlType := "int", nullable := false },
      { name := "ShadeName", sqlType := "varchar", nullable := false, maxLength := some 10 }]

/-- A seed with a column of the name of the key, in another spelling. -/
def spelledSeed : Seed where
  schemaName := "dbo"
  tableName := "Shade"
  columnNames := ["ShadeName", "ColorID", "shadeID"]
  rows := [["Dark", "2", "5"]]

theorem lookupBinding_key_spelledSeed : spelledSeed.columnNames ≠ [] ∧
    ∃ c, lookupClass shadeTable spelledSeed "Acme" .empty .empty .firstColumn = .ok c ∧
      lookupBinding shadeTable spelledSeed "Acme" .empty .empty .firstColumn =
        .ok (fileText (c.lines (bindingHeader shadeTable))) ∧
      c.keyUses ⊆ c.lines (bindingHeader shadeTable) ∧
      spelledSeed.keyColumn? shadeTable .firstColumn = some 2 ∧ c.key = "shadeID" ∧
      c.key ∈ c.parameters.map Parameter.property := by
  have hs : spelledSeed.columnNames ≠ [] := by decide
  have hkey : spelledSeed.HasKey shadeTable := by decide +kernel
  have hplace : spelledSeed.keyColumn? shadeTable .firstColumn = some 2 := by decide +kernel
  obtain ⟨c, hc⟩ : ∃ c, lookupClass shadeTable spelledSeed "Acme" .empty .empty .firstColumn = .ok c :=
    exists_eq_ok_of_isOk (by decide +kernel)
  obtain ⟨hbinding, huses, _, hmem, i, name, hi, hname, hsame⟩ := lookupBinding_key hs hc
  obtain rfl := Option.some.inj (hi.symm.trans hplace)
  obtain rfl := Option.some.inj hname
  exact ⟨hs, c, hc, hbinding, huses, hplace, hsame.2 hkey, hmem.2 hkey⟩

def shadeSeed : Seed where
  schemaName := "dbo"
  tableName := "Shade"
  columnNames := ["Code", "ShadeName"]
  rows := [["5", "Dark"]]

/-- The class of a seed without a column of the name of the key. -/
def shadeClass : LookupClass where
  schema := "dbo"
  name := "Shade"
  nameSpace := "Acme"
  key := "ShadeID"
  parameters := [⟨"Code", "int", "code"⟩, ⟨"ShadeName", "string", "shadeName"⟩]
  navigations := []
  instances := [⟨"Dark", "5", ["5", "@\"Dark\""]⟩]

/-- The first column stands in for the key, but the class uses a member that it does not declare. -/
theorem lookupClass_undeclaredKey :
    lookupClass shadeTable shadeSeed "Acme" .empty .empty .firstColumn = .ok shadeClass ∧
    shadeSeed.columnNames ≠ [] ∧ shadeSeed.keyColumn? shadeTable .firstColumn = some 0 ∧
    shadeSeed.columnNames[0]? = some "Code" ∧
    "            return ShadeID;" ∈ shadeClass.lines (bindingHeader shadeTable) ∧
    "ShadeID" ∉ shadeClass.parameters.map Parameter.property := by
  have huses := shadeClass.keyUses_subset (bindingHeader shadeTable)
  refine ⟨by decide +kernel, by decide, by decide +kernel, rfl, huses ?_, by decide⟩
  decide

end Code

end SchemaBindings

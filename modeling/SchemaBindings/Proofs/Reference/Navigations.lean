import SchemaBindings.Proofs.Reference.BestMatch
import SchemaBindings.Proofs.Text.Returns
import SchemaBindings.Reference.Resolve

/-!
Where the parts of a navigation property come from: its names from the name of a column, and the table
that it leads to from the lookup tables.
-/

namespace SchemaBindings

set_option autoImplicit false

open Text

def NameSet.Clean (names : NameSet) : Prop := ∀ n ∈ names.spellings, NoReturn n

theorem NameSet.mem_spellings_insert {s : NameSet} {name n : String} (h : n ∈ (s.insert name).spellings) :
    n ∈ s.spellings ∨ n = name := by
  unfold insert at h
  split at h
  · exact .inl h
  · rcases List.mem_append.1 h with h | h
    · exact .inl h
    · exact .inr (List.mem_singleton.1 h)

theorem NameSet.mem_foldl_insert {s : NameSet} {names : List String} {n : String}
    (h : n ∈ (names.foldl NameSet.insert s).spellings) : n ∈ s.spellings ∨ n ∈ names := by
  induction names generalizing s with
  | nil => exact .inl h
  | cons name rest ih =>
    rcases ih h with h | h
    · rcases mem_spellings_insert h with h | rfl
      · exact .inl h
      · exact .inr List.mem_cons_self
    · exact .inr (List.mem_cons_of_mem name h)

theorem NameSet.mem_ofList {names : List String} {n : String} (h : n ∈ (NameSet.ofList names).spellings) :
    n ∈ names := by
  rcases mem_foldl_insert h with h | h
  · cases h
  · exact h

theorem NameSet.clean_ofList {names : List String} (h : ∀ n ∈ names, NoReturn n) :
    (NameSet.ofList names).Clean := fun n hn => h n (mem_ofList hn)

theorem NameSet.contains_foldl_insert {s : NameSet} {names : List String} {name : String} :
    (names.foldl NameSet.insert s).contains name = true ↔
      s.contains name = true ∨ ∃ n ∈ names, lower n = lower name := by
  induction names generalizing s with
  | nil => simp
  | cons n rest ih => rw [List.foldl_cons, ih, contains_insert, List.exists_mem_cons_iff, or_assoc]

theorem NameSet.contains_ofList {names : List String} {name : String} :
    (NameSet.ofList names).contains name = true ↔ ∃ n ∈ names, lower n = lower name := by
  have hempty : NameSet.empty.contains name = false := rfl
  rw [ofList, contains_foldl_insert, hempty]
  simp

namespace Reference

/-- The parts of a navigation property have no carriage return. -/
structure Navigation.Clean (n : Navigation) : Prop where
  property : NoReturn n.propertyName
  column : NoReturn n.columnName
  table : NoReturn n.referencedTable

theorem noReturn_propertyName? {column property : String} (h : NoReturn column)
    (hp : propertyName? column = some property) : NoReturn property := by
  unfold propertyName? at hp
  simp only at hp
  split at hp
  · cases hp
  · cases hp
    exact noReturn_ofList.2 fun hmem => h (List.mem_of_mem_take hmem)

theorem mem_bestMatch? {property table : String} {tables : List String}
    (h : bestMatch? property tables = some table) : table ∈ tables := by
  obtain ⟨_, hmem, _⟩ := key_le_of_bestMatch? h
  exact hmem

theorem mem_resolve? {column table : String} {lookups tables : NameSet} {explicit : Option String}
    (h : resolve? column lookups tables explicit = some table) : table ∈ lookups.spellings := by
  unfold resolve? at h
  obtain ⟨property, _, h⟩ := Option.bind_eq_some_iff.1 h
  obtain ⟨found, hfound, h⟩ := Option.bind_eq_some_iff.1 h
  split at h
  · cases h
  · cases h
    simp only [Option.orElse_eq_orElse, Option.orElse_eq_or, Option.or_eq_some_iff] at hfound
    rcases hfound with hnamed | ⟨_, hbest⟩
    · obtain ⟨name, _, hcanonical⟩ := Option.bind_eq_some_iff.1 hnamed
      exact List.mem_of_find?_eq_some hcanonical
    · exact NameSet.mem_toList.1 (mem_bestMatch? hbest)

/-- A column other than the key that resolves has a navigation property. -/
theorem navigation?_eq_some_iff {key : String} {lookups tables : NameSet} {c : Column} {n : Navigation} :
    navigation? key lookups tables c = some n ↔
      lower c.name ≠ lower key ∧ n.columnName = c.name ∧ n.nullable = c.nullable ∧
      propertyName? c.name = some n.propertyName ∧
      resolve? c.name lookups tables c.referencesTable = some n.referencedTable := by
  obtain ⟨propertyName, columnName, referencedTable, nullable⟩ := n
  unfold navigation?
  simp only [Option.ite_none_left_eq_some, sameIgnoringCase, beq_iff_eq, Option.bind_eq_bind,
    Option.bind_eq_some_iff, Option.pure_def, Option.some.injEq, Navigation.mk.injEq]
  refine and_congr_right fun _ => ?_
  constructor
  · rintro ⟨property, hproperty, table, htable, rfl, rfl, rfl, rfl⟩
    exact ⟨rfl, rfl, hproperty, htable⟩
  · rintro ⟨rfl, rfl, hproperty, htable⟩
    exact ⟨propertyName, hproperty, referencedTable, htable, rfl, rfl, rfl, rfl⟩

theorem mem_navigations {columns : List Column} {key : String} {lookups tables : NameSet} {n : Navigation}
    (h : n ∈ navigations columns key lookups tables) : n.referencedTable ∈ lookups.spellings := by
  obtain ⟨c, _, hn⟩ := List.mem_filterMap.1 h
  obtain ⟨_, _, _, _, htable⟩ := navigation?_eq_some_iff.1 hn
  exact mem_resolve? htable

theorem navigations_clean {columns : List Column} {key : String} {lookups tables : NameSet}
    (hc : ∀ c ∈ columns, NoReturn c.name) (hl : lookups.Clean) :
    ∀ n ∈ navigations columns key lookups tables, n.Clean := by
  intro n hn
  obtain ⟨c, hmem, hn⟩ := List.mem_filterMap.1 hn
  have hname := hc c hmem
  obtain ⟨_, hcolumn, _, hproperty, htable⟩ := navigation?_eq_some_iff.1 hn
  refine ⟨noReturn_propertyName? hname hproperty, ?_, hl _ (mem_resolve? htable)⟩
  rw [hcolumn]
  exact hname

end Reference

end SchemaBindings

import SchemaBindings.Proofs.Batch.Accounting
import SchemaBindings.Proofs.Code.NavigationTypes

/-!
Where the navigation properties of the generated bindings lead. Each leads to a class named as a seed names
its table. Whether there is such a class hangs on the table definitions: the first table of that name,
ignoring case, has to be spelled as the seed spells it. A seed without a table, or one that spells it in
another case, leaves navigation properties without a class.
-/

namespace SchemaBindings

set_option autoImplicit false

open Text (sameIgnoringCase sameIgnoringCase_comm sameIgnoringCase_self)

/-- A binding with its navigation properties. -/
inductive BindingOf (sur : Surroundings) (t : Table) : List Reference.Navigation → GeneratedFile → Prop
  | regular (h : findSeed? sur.seeds t.tableName = none) :
      BindingOf sur t (Code.regularNavigations t sur.lookups sur.tables)
        ⟨Code.bindingFileName t, Code.regularBinding t sur.settings.nameSpace sur.lookups sur.tables,
          t.tableName, .csharp⟩
  | lookup {s : SourcedSeed} {c : Code.LookupClass} (h : findSeed? sur.seeds t.tableName = some s)
      (hclass : Code.lookupClass t s.seed sur.settings.nameSpace sur.lookups sur.tables
        sur.settings.keyFallback = .ok c) :
      BindingOf sur t c.navigations
        ⟨Code.bindingFileName t, Code.fileText (c.lines (Code.bindingHeader t)), t.tableName, .csharp⟩

/-- The result holds the binding of the table, in the form for tables with a seed. -/
def GenerationResult.HoldsLookup (g : GenerationResult) (sur : Surroundings) (t : Table) : Prop :=
  ∃ s c, findSeed? sur.seeds t.tableName = some s ∧
    Code.lookupClass t s.seed sur.settings.nameSpace sur.lookups sur.tables sur.settings.keyFallback =
      .ok c ∧
    ⟨Code.bindingFileName t, Code.fileText (c.lines (Code.bindingHeader t)), t.tableName, .csharp⟩ ∈
      g.files

section
variable {sur : Surroundings} {t : Table} {navigations : List Reference.Navigation} {f : GeneratedFile}

/-- A binding has a line for each of its navigation properties. -/
theorem BindingOf.content (h : BindingOf sur t navigations f) :
    ∃ lines, f.content = Code.fileText lines ∧ navigations.map Code.navigationLine <:+: lines := by
  cases h with
  | regular => exact ⟨_, rfl, Code.infix_regularBindingLines _ _ _ _⟩
  | @lookup s c => exact ⟨_, rfl, c.navigations_infix _⟩

theorem BindingOf.mem_lookups (h : BindingOf sur t navigations f) :
    ∀ n ∈ navigations, n.referencedTable ∈ sur.lookups.spellings := by
  cases h with
  | regular => exact fun n => Reference.mem_navigations
  | lookup _ hclass =>
    unfold Code.lookupClass at hclass
    obtain ⟨instances, _, hclass⟩ := bind_eq_ok.1 hclass
    obtain rfl := Except.ok.inj hclass
    exact fun n => Reference.mem_navigations

theorem TableFiles.bindingOf {files : List GeneratedFile} (h : TableFiles sur t files) :
    ∀ f ∈ files, f.target = .csharp → f = keyFile sur t ∨
        ∃ navigations, BindingOf sur t navigations f := by
  cases h with
  | regular h =>
    rw [List.forall_mem_cons, List.forall_mem_singleton]
    exact ⟨fun _ => .inl rfl, fun _ => .inr ⟨_, .regular h⟩⟩
  | lookup h hclass =>
    rw [List.forall_mem_cons, List.forall_mem_cons, List.forall_mem_singleton]
    refine ⟨fun _ => .inl rfl, fun _ => .inr ⟨_, .lookup h hclass⟩, ?_⟩
    rintro ⟨⟩

theorem TableFiles.tableName {files : List GeneratedFile} (h : TableFiles sur t files) :
    ∀ f ∈ files, f.tableName = t.tableName := by
  cases h with
  | regular =>
    rw [List.forall_mem_cons, List.forall_mem_singleton]
    exact ⟨rfl, rfl⟩
  | lookup =>
    rw [List.forall_mem_cons, List.forall_mem_cons, List.forall_mem_singleton]
    exact ⟨rfl, rfl, rfl⟩

end

section
variable {p : ParsedSchema} {settings : Settings} {g : GenerationResult} {signal later : Signal}

/-- A file comes from a kept table, unless it is the manifest. -/
theorem mem_files (hgenerated : generate p settings signal = .ok (some (g, later))) {f : GeneratedFile}
    (hf : f ∈ g.files) (htarget : f.target = .csharp) :
    ∃ t files, (t, Fate.kept) ∈ fates settings p.tables ∧
      TableFiles (p.surroundings settings) t files ∧
      f ∈ files := by
  obtain ⟨results, hresults, rfl⟩ := generate_eq_ok hgenerated
  rcases List.mem_append.1 hf with hf | hf
  · obtain ⟨r, hr, hf⟩ := List.mem_flatMap.1 hf
    obtain ⟨⟨t, fate⟩, hx, hxr⟩ := mem_of_mapM_eq_ok hresults r hr
    have hfiles := (tableResult_fits hxr).files
    split at hfiles
    · rename_i hkept
      obtain rfl : fate = .kept := hkept
      exact ⟨t, r.files, hx, hfiles, hf⟩
    · rw [hfiles] at hf
      cases hf
  · unfold GenerationResult.manifestFiles at hf
    split at hf
    · cases hf
    · rw [List.mem_singleton.1 hf] at htarget
      cases htarget

theorem files_of_kept (hgenerated : generate p settings signal = .ok (some (g, later))) {t : Table}
    (ht : (t, Fate.kept) ∈ fates settings p.tables) :
    ∃ files, TableFiles (p.surroundings settings) t files ∧ ∀ f ∈ files, f ∈ g.files := by
  obtain ⟨results, hresults, rfl⟩ := generate_eq_ok hgenerated
  obtain ⟨r, hr, hxr⟩ := exists_mem_of_mapM_eq_ok hresults _ ht
  have hfiles := (tableResult_fits hxr).files
  rw [if_pos rfl] at hfiles
  exact ⟨r.files, hfiles, fun f hf => List.mem_append_left _ (List.mem_flatMap.2 ⟨r, hr, hf⟩)⟩

/-- The first table of a name. -/
def firstNamed (tables : List Table) (name : String) : Option Table :=
  tables.find? fun t => sameIgnoringCase t.tableName name

theorem firstNamed_of_kept (hexcluded : ∀ t ∈ p.tables, settings.excludes t.tableName = false) {t : Table}
    (ht : (t, Fate.kept) ∈ fates settings p.tables) : firstNamed p.tables t.tableName = some t := by
  obtain ⟨i, hi, hfate⟩ := mem_fates.1 ht
  refine List.find?_eq_some_iff_append.2 ⟨sameIgnoringCase_self _, p.tables.take i,
    p.tables.drop (i + 1), ?_, ?_⟩
  · obtain ⟨hlt, rfl⟩ := List.getElem?_eq_some_iff.1 hi
    rw [← List.drop_eq_getElem_cons hlt, List.take_append_drop]
  · intro u hu
    have hu' := hexcluded u (List.mem_of_mem_take hu)
    unfold fateAmong at hfate
    split at hfate
    · cases hfate
    · split at hfate
      · cases hfate
      · rename_i hsees
        rw [Bool.not_eq_true, List.any_eq_false] at hsees
        have hother := hsees u hu
        rw [hu'] at hother
        simpa using hother

/-- Every navigation property leads to a class that a seed names, and the result has that class exactly
when the first table of the name is spelled in the same way. -/
theorem navigation_resolves (hgenerated : generate p settings signal = .ok (some (g, later)))
    (hexcluded : ∀ t ∈ p.tables, settings.excludes t.tableName = false) {f : GeneratedFile}
    (hf : f ∈ g.files)
    (htarget : f.target = .csharp) :
    (∃ t, f = keyFile (p.surroundings settings) t) ∨
      ∃ t navigations, BindingOf (p.surroundings settings) t navigations f ∧
        (∃ lines, f.content = Code.fileText lines ∧ navigations.map Code.navigationLine <:+: lines) ∧
        ∀ n ∈ navigations, (∃ s ∈ p.seeds, s.seed.tableName = n.referencedTable) ∧
        ((∃ u ∈ p.tables, u.tableName = n.referencedTable ∧
          g.HoldsLookup (p.surroundings settings) u) ↔
          (firstNamed p.tables n.referencedTable).map Table.tableName = some n.referencedTable) := by
  obtain ⟨t, files, _, hfiles, hmem⟩ := mem_files hgenerated hf htarget
  rcases hfiles.bindingOf f hmem htarget with hkey | ⟨navigations, hbinding⟩
  · exact .inl ⟨t, hkey⟩
  refine .inr ⟨t, navigations, hbinding, hbinding.content, ?_⟩
  intro n hn
  obtain ⟨s, hs, hname⟩ := List.mem_map.1 (NameSet.mem_ofList (hbinding.mem_lookups n hn))
  refine ⟨⟨s, hs, hname⟩, ?_⟩
  constructor
  · rintro ⟨u, _, hu, _, _, _, _, hheld⟩
    obtain ⟨v, files, hv, hfiles, hmem⟩ := mem_files hgenerated hheld rfl
    have hspelled : v.tableName = n.referencedTable := (hfiles.tableName _ hmem).symm.trans hu
    rw [← hspelled, firstNamed_of_kept hexcluded hv]
    rfl
  · intro hfirst
    obtain ⟨u, hu, hspelled⟩ := Option.map_eq_some_iff.1 hfirst
    have hmem := List.mem_of_find?_eq_some hu
    have hfree : settings.excludes n.referencedTable = false := by
      rw [← hspelled]
      exact hexcluded u hmem
    obtain ⟨files, hfiles, hheld⟩ := files_of_kept hgenerated (kept_of_find? hu hfree)
    refine ⟨u, hmem, hspelled, ?_⟩
    cases hfiles with
    | regular hnone =>
      have hother := List.find?_eq_none.1 hnone s hs
      rw [hname, hspelled, sameIgnoringCase_self] at hother
      exact (hother rfl).elim
    | lookup hseed hclass => exact ⟨_, _, hseed, hclass, hheld _ (by simp)⟩

end

/-- A table that refers to another, that one, and its seed. -/
def itemScript : Source := ⟨"Item.sql", "CREATE TABLE dbo.Item (ItemID int,\n  StageID int)"⟩

def stageScript : Source := ⟨"Stage.sql", "CREATE TABLE dbo.Stage (StageID int)"⟩

def stagesScript : Source :=
  ⟨"Stages.sql", "MERGE INTO dbo.Stage AS t USING (VALUES (1, 'One')) AS s (StageID, StageName)"⟩

def itemTable : Table :=
  { schemaName := "dbo", tableName := "Item"
    columns := [{ name := "ItemID", sqlType := "int" }, { name := "StageID", sqlType := "int" }] }

theorem generate_stageScript : ∃ p g f,
    (ParsedSchema.ofSources none none [itemScript, stageScript] [stagesScript]).1 = some (p, none) ∧
    generate p {} none = .ok (some (g, none)) ∧ f ∈ g.files ∧ f.fileName = "Item.Binding.cs" ∧
    ((∃ t, f = keyFile (p.surroundings {}) t) ∨
      ∃ t navigations, BindingOf (p.surroundings {}) t navigations f ∧
        (∃ lines, f.content = Code.fileText lines ∧ navigations.map Code.navigationLine <:+: lines) ∧
        ∀ n ∈ navigations, (∃ s ∈ p.seeds, s.seed.tableName = n.referencedTable) ∧
        ((∃ u ∈ p.tables, u.tableName = n.referencedTable ∧ g.HoldsLookup (p.surroundings {}) u) ↔
          (firstNamed p.tables n.referencedTable).map Table.tableName = some n.referencedTable)) := by
  have hparsed : ∃ p, (ParsedSchema.ofSources none none [itemScript, stageScript] [stagesScript]).1 =
      some (p, none) ∧ (itemTable, Fate.kept) ∈ fates {} p.tables ∧
      findSeed? (p.surroundings {}).seeds "Item" = none ∧ (generate p {} none).isOk = true := by
    refine ⟨_, rfl, ?_⟩
    decide +kernel
  obtain ⟨p, hp, hkept, hseed, hok⟩ := hparsed
  obtain ⟨g, hg⟩ := exists_generate_of_isOk hok
  obtain ⟨files, hfiles, hheld⟩ := files_of_kept hg hkept
  cases hfiles with
  | regular =>
    have hmem := hheld _ (List.mem_cons_of_mem _ List.mem_cons_self)
    exact ⟨p, g, _, hp, hg, hmem, rfl, navigation_resolves hg (fun _ _ => rfl) hmem rfl⟩
  | lookup hsome =>
    rw [itemTable, hseed] at hsome
    cases hsome

/-- A seed without a table leaves a navigation property without a class. -/
theorem generate_without_stageScript : ∃ p g f t navigations n,
    (ParsedSchema.ofSources none none [itemScript] [stagesScript]).1 = some (p, none) ∧
    generate p {} none = .ok (some (g, none)) ∧
      (∀ t ∈ p.tables, Settings.excludes {} t.tableName = false) ∧
    f ∈ g.files ∧ BindingOf (p.surroundings {}) t navigations f ∧ n ∈ navigations ∧
    ¬ ∃ u ∈ p.tables, u.tableName = n.referencedTable ∧ g.HoldsLookup (p.surroundings {}) u := by
  have hparsed : ∃ p, (ParsedSchema.ofSources none none [itemScript] [stagesScript]).1 =
      some (p, none) ∧ (itemTable, Fate.kept) ∈ fates {} p.tables ∧
      findSeed? (p.surroundings {}).seeds "Item" = none ∧ (generate p {} none).isOk = true ∧
      Code.regularNavigations itemTable (p.surroundings {}).lookups (p.surroundings {}).tables =
        [⟨"Stage", "StageID", "Stage", true⟩] ∧ ∀ u ∈ p.tables, u.tableName ≠ "Stage" := by
    refine ⟨_, rfl, ?_⟩
    decide +kernel
  obtain ⟨p, hp, hkept, hseed, hok, hnavigations, hmissing⟩ := hparsed
  obtain ⟨g, hg⟩ := exists_generate_of_isOk hok
  obtain ⟨files, hfiles, hheld⟩ := files_of_kept hg hkept
  cases hfiles with
  | regular =>
    have hmem := hheld _ (List.mem_cons_of_mem _ List.mem_cons_self)
    refine ⟨p, g, _, itemTable, _, ⟨"Stage", "StageID", "Stage", true⟩, hp, hg, fun _ _ => rfl, hmem,
      .regular hseed, ?_, ?_⟩
    · rw [hnavigations]
      exact List.mem_cons_self
    · rintro ⟨u, hu, hname, _⟩
      exact hmissing u hu hname
  | lookup hsome =>
    rw [itemTable, hseed] at hsome
    cases hsome

end SchemaBindings

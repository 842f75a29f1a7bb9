import SchemaBindings.Proofs.Batch.Accounting
import SchemaBindings.Proofs.Reference.NameOrder

/-!
The order of the scripts does not matter. When no two tables and no two seeds have one name, ignoring case,
scripts in any order give the same files, and the same is reported about them.
-/

namespace SchemaBindings

set_option autoImplicit false

open Text (lower sameIgnoringCase sameIgnoringCase_comm NumeralError)

/-- The small forms of the names of the tables that are read from scripts. -/
def tableKeys (sources : List Source) : List String :=
  (sources.filterMap fun s => (Table.ofScript s.text).toOption).map fun t => lower t.tableName

/-- The small forms of the targets of the seeds that are read from scripts. -/
def seedKeys (sources : List Source) : List String :=
  (sources.filterMap fun s => (Seed.ofScript s.text).toOption).map fun s => lower s.tableName

def Outcome.seed? (o : Outcome) : Option SourcedSeed :=
  (o.result.toOption.bind Model.seed?).map fun s => ⟨o.path, s⟩

theorem tables_outcomesOf (sources : List Source) :
    (outcomesOf .table sources).filterMap Outcome.table? =
      sources.filterMap fun s => (Table.ofScript s.text).toOption := by
  unfold outcomesOf
  rw [List.filterMap_map]
  refine List.filterMap_congr fun s _ => ?_
  cases h : Table.ofScript s.text with
  | error e => simp [Outcome.table?, Model.ofScript, h, Except.map, Except.toOption]
  | ok t => simp [Outcome.table?, Model.ofScript, h, Except.map, Except.toOption, Model.table?]

theorem seeds_outcomesOf (sources : List Source) :
    ((outcomesOf .seed sources).filterMap Outcome.seed?).map SourcedSeed.seed =
      sources.filterMap fun s => (Seed.ofScript s.text).toOption := by
  unfold outcomesOf
  rw [List.filterMap_map, List.map_filterMap]
  refine List.filterMap_congr fun s _ => ?_
  cases h : Seed.ofScript s.text with
  | error e => simp [Outcome.seed?, Model.ofScript, h, Except.map, Except.mapError, Except.toOption]
  | ok t => simp [Outcome.seed?, Model.ofScript, h, Except.map, Except.mapError, Except.toOption, Model.seed?]

theorem findSeed?_of_apart {seeds : List SourcedSeed} {s : SourcedSeed} (h : ∀ a ∈ seeds, a.Apart s) :
    findSeed? seeds s.seed.tableName = none := by
  refine List.find?_eq_none.2 fun a ha => ?_
  rw [Bool.not_eq_true]
  exact h a ha

/-- Seeds for different tables are all kept, and only the scripts that gave none are reported. -/
theorem foldl_addSeed_of_apart (outcomes : List Outcome) (acc : List SourcedSeed × List Diagnostic)
    (h : (acc.1 ++ outcomes.filterMap Outcome.seed?).Pairwise SourcedSeed.Apart) :
    outcomes.foldl addSeed acc =
      (acc.1 ++ outcomes.filterMap Outcome.seed?, acc.2 ++ outcomes.filterMap (Outcome.failure? .seed)) := by
  induction outcomes generalizing acc with
  | nil => simp
  | cons o rest ih =>
    obtain ⟨path, result⟩ := o
    rw [List.foldl_cons, List.filterMap_cons, List.filterMap_cons]
    rw [List.filterMap_cons] at h
    cases result with
    | error e =>
      have hstep : addSeed acc ⟨path, .error e⟩ = (acc.1, acc.2 ++ [⟨path, .ofParseError .seed e⟩]) :=
        rfl
      rw [hstep, ih (acc.1, acc.2 ++ [(⟨path, .ofParseError .seed e⟩ : Diagnostic)]) h]
      simp [Outcome.seed?, Outcome.failure?, Except.toOption]
    | ok m =>
      cases m with
      | table t => exact ih acc h
      | seed s =>
        have hnone : findSeed? acc.1 s.tableName = none := by
          refine findSeed?_of_apart (s := ⟨path, s⟩) fun a ha => ?_
          exact (List.pairwise_append.1 h).2.2 a ha _ List.mem_cons_self
        have hstep : addSeed acc ⟨path, .ok (.seed s)⟩ = (acc.1 ++ [⟨path, s⟩], acc.2) := by
          simp only [addSeed, hnone]
        have hmove : acc.1 ++ (⟨path, s⟩ :: rest.filterMap Outcome.seed?) =
            acc.1 ++ [⟨path, s⟩] ++ rest.filterMap Outcome.seed? := by
          rw [List.append_assoc, List.singleton_append]
        rw [hstep, ih (acc.1 ++ [(⟨path, s⟩ : SourcedSeed)], acc.2)]
        · rw [← hmove]
          rfl
        · rw [← hmove]
          exact h

theorem ofOutcomes_of_apart {tables seeds : List Source} (hseeds : (seedKeys seeds).Nodup) :
    ParsedSchema.ofOutcomes (outcomesOf .table tables) (outcomesOf .seed seeds) =
      { tables := (outcomesOf .table tables).filterMap Outcome.table?
        seeds := (outcomesOf .seed seeds).filterMap Outcome.seed?
        diagnostics := (outcomesOf .table tables).filterMap (Outcome.failure? .table) ++
          (outcomesOf .seed seeds).filterMap (Outcome.failure? .seed) } := by
  have hapart : ((outcomesOf .seed seeds).filterMap Outcome.seed?).Pairwise SourcedSeed.Apart := by
    unfold seedKeys at hseeds
    rw [← seeds_outcomesOf, List.map_map, List.Nodup, List.pairwise_map] at hseeds
    exact hseeds.imp fun hne => beq_false_of_ne hne
  unfold ParsedSchema.ofOutcomes
  rw [foldl_addSeed_of_apart _ ([], []) hapart]
  simp

/-- Two schemas that hold the same tables, the same seeds and the same diagnostics. -/
structure ParsedSchema.SameAs (p p' : ParsedSchema) : Prop where
  tables : p.tables.Perm p'.tables
  seeds : p.seeds.Perm p'.seeds
  diagnostics : p.diagnostics.Perm p'.diagnostics
  table_keys : (p.tables.map fun t => lower t.tableName).Nodup
  seed_keys : (p.seeds.map fun s => lower s.seed.tableName).Nodup

theorem sameAs_of_perm {tables tables' seeds seeds' : List Source} (ht : tables.Perm tables')
    (hs : seeds.Perm seeds') (hdt : (tableKeys tables).Nodup) (hds : (seedKeys seeds).Nodup) :
    (ParsedSchema.ofOutcomes (outcomesOf .table tables) (outcomesOf .seed seeds)).SameAs
      (.ofOutcomes (outcomesOf .table tables') (outcomesOf .seed seeds')) := by
  have hds' : (seedKeys seeds').Nodup := ((hs.filterMap _).map _).nodup_iff.1 hds
  have htables : (outcomesOf .table tables).Perm (outcomesOf .table tables') := ht.map _
  have hseeds : (outcomesOf .seed seeds).Perm (outcomesOf .seed seeds') := hs.map _
  rw [ofOutcomes_of_apart hds, ofOutcomes_of_apart hds']
  refine ⟨htables.filterMap _, hseeds.filterMap _,
    (htables.filterMap _).append (hseeds.filterMap _), ?_, ?_⟩
  · simp only [tables_outcomesOf]
    exact hdt
  · unfold seedKeys at hds
    rw [← seeds_outcomesOf, List.map_map] at hds
    exact hds

theorem ofSources_eq {signal later : Signal} {tables seeds : List Source} {p : ParsedSchema}
    (h : (ParsedSchema.ofSources none signal tables seeds).1 = some (p, later)) :
    p = .ofOutcomes (outcomesOf .table tables) (outcomesOf .seed seeds) := by
  rw [ofSources_signal] at h
  obtain ⟨_, _, hp⟩ := Option.map_eq_some_iff.1 h
  exact (Prod.mk.inj hp).1.symm

/-- Surroundings that give every table the same. -/
structure Surroundings.Alike (a b : Surroundings) : Prop where
  settings : a.settings = b.settings
  seeds : ∀ table, findSeed? a.seeds table = findSeed? b.seeds table
  lookups : a.lookups.Alike b.lookups
  tables : a.tables.Alike b.tables

/-- A table gives the same wherever it has the same seed and the same navigation properties. -/
theorem tableResult_of_navigations {a b : Surroundings} (x : Table × Fate)
    (hsettings : a.settings = b.settings)
    (hseed : findSeed? a.seeds x.1.tableName = findSeed? b.seeds x.1.tableName)
    (hregular : Code.regularNavigations x.1 a.lookups a.tables =
      Code.regularNavigations x.1 b.lookups b.tables)
    (hlookup : ∀ s, findSeed? b.seeds x.1.tableName = some s →
      Reference.navigations (Code.seedColumns x.1 s.seed) (Code.keyProperty x.1 s.seed) a.lookups a.tables =
      Reference.navigations (Code.seedColumns x.1 s.seed) (Code.keyProperty x.1 s.seed) b.lookups b.tables) :
    tableResult a x = tableResult b x := by
  obtain ⟨t, fate⟩ := x
  cases fate with
  | excluded => rfl
  | duplicate => rfl
  | kept =>
    simp only [tableResult, hseed]
    cases hfind : findSeed? b.seeds t.tableName with
    | none =>
      unfold regularResult keyFile Code.regularBinding Code.regularBindingLines
      simp only [hsettings, hregular]
    | some s =>
      unfold lookupResult keyFile Code.lookupBinding Code.lookupClass
      simp only [hsettings, hlookup s hfind]

theorem tableResult_congr {a b : Surroundings} (h : a.Alike b) (x : Table × Fate) :
    tableResult a x = tableResult b x :=
  tableResult_of_navigations x h.settings (h.seeds _)
    (Reference.navigations_congr h.lookups (fun _ _ property _ => h.tables.contains property) _)
    fun _ _ => Reference.navigations_congr h.lookups (fun _ _ property _ => h.tables.contains property) _

theorem ParsedSchema.SameAs.surroundings {p p' : ParsedSchema} (h : p.SameAs p') (settings : Settings) :
    (p.surroundings settings).Alike (p'.surroundings settings) where
  settings := rfl
  seeds := find?_of_perm (f := fun s : SourcedSeed => s.seed.tableName) h.seeds h.seed_keys
  lookups := by
    refine NameSet.alike_ofList (h.seeds.map _) ?_
    rw [List.map_map]
    exact h.seed_keys
  tables := by
    refine NameSet.alike_ofList (h.tables.map _) ?_
    rw [List.map_map]
    exact h.table_keys

/-- Of tables with different names each is kept or excluded by itself. -/
theorem fatesFrom_of_distinct {settings : Settings} {seen : List String} {tables : List Table}
    (hd : ((seen.map lower) ++ tables.map fun t => lower t.tableName).Nodup) :
    fatesFrom settings seen tables =
      tables.map fun t => (t, if settings.excludes t.tableName then .excluded else .kept) := by
  induction tables generalizing seen with
  | nil => rfl
  | cons t rest ih =>
    rw [List.map_cons] at hd
    have hnew : (seen.any (sameIgnoringCase · t.tableName)) = false := by
      rw [List.any_eq_false]
      intro name hname
      rw [Bool.not_eq_true]
      exact beq_false_of_ne ((List.nodup_append.1 hd).2.2 _ (List.mem_map_of_mem hname) _ List.mem_cons_self)
    rw [fatesFrom, hnew, List.map_cons]
    split
    · rw [ih (hd.sublist ((List.sublist_cons_self _ _).append_left _))]
    · rw [if_neg Bool.false_ne_true, ih]
      have hmoved : (seen.map lower ++ lower t.tableName :: rest.map fun t => lower t.tableName).Perm
          (((t.tableName :: seen).map lower) ++ rest.map fun t => lower t.tableName) := List.perm_middle
      exact hmoved.nodup_iff.1 hd

theorem fates_of_distinct {settings : Settings} {tables : List Table}
    (hd : (tables.map fun t => lower t.tableName).Nodup) : fates settings tables =
      tables.map fun t => (t, if settings.excludes t.tableName then .excluded else .kept) := by
  have hnone : ((([] : List String).map lower) ++ tables.map fun t => lower t.tableName).Nodup := hd
  exact fatesFrom_of_distinct hnone

theorem mapM_of_perm {ε α β : Type} {f : α → Except ε β} {as as' : List α} (h : as.Perm as')
    {bs : List β} (hbs : as.mapM f = .ok bs) : ∃ bs', as'.mapM f = .ok bs' ∧ bs.Perm bs' := by
  induction h generalizing bs with
  | nil => exact ⟨bs, hbs, .refl _⟩
  | cons a _ ih =>
    obtain ⟨b, rest, hb, hrest, rfl⟩ := mapM_cons_eq_ok.1 hbs
    obtain ⟨rest', hrest', hperm⟩ := ih hrest
    exact ⟨b :: rest', mapM_cons_eq_ok.2 ⟨b, rest', hb, hrest', rfl⟩, hperm.cons b⟩
  | swap a a' l =>
    obtain ⟨b, rest, hb, hrest, rfl⟩ := mapM_cons_eq_ok.1 hbs
    obtain ⟨b', rest', hb', hrest', rfl⟩ := mapM_cons_eq_ok.1 hrest
    refine ⟨b' :: b :: rest', mapM_cons_eq_ok.2 ⟨b', b :: rest', hb', ?_, rfl⟩, .swap b' b rest'⟩
    exact mapM_cons_eq_ok.2 ⟨b, rest', hb, hrest', rfl⟩
  | trans _ _ ih ih' =>
    obtain ⟨middle, hmiddle, hperm⟩ := ih hbs
    obtain ⟨bs', hbs', hperm'⟩ := ih' hmiddle
    exact ⟨bs', hbs', hperm.trans hperm'⟩

theorem orphanDiagnostics_perm {p p' : ParsedSchema} (h : p.SameAs p') :
    (orphanDiagnostics p).Perm (orphanDiagnostics p') := by
  have hsorted := mergeSort_of_perm (f := fun s : SourcedSeed => s.seed.tableName) h.seeds h.seed_keys
  have htables : (NameSet.ofList (p.tables.map Table.tableName)).Alike
      (NameSet.ofList (p'.tables.map Table.tableName)) := (h.surroundings {}).tables
  unfold orphanDiagnostics
  simp only [hsorted, htables.contains]
  exact .refl _

theorem filesFor_assemble {p : ParsedSchema} {results : List TableResult} {target : Target}
    (h : target ≠ .manifest) : (GenerationResult.assemble p results).filesFor target =
      (results.flatMap TableResult.files).filter fun f => f.target == target := by
  have hmanifest : ∀ entries,
      (GenerationResult.manifestFiles entries).filter (fun f => f.target == target) = [] := by
    intro entries
    unfold GenerationResult.manifestFiles
    split
    · rfl
    · cases target with
      | csharp => rfl
      | typeScript => rfl
      | manifest => exact (h rfl).elim
  unfold GenerationResult.filesFor GenerationResult.assemble
  rw [List.filter_append, hmanifest, List.append_nil]

theorem generate_sameAs {p p' : ParsedSchema} {settings : Settings} {g g' : GenerationResult}
    {signal signal' later later' : Signal} (h : p.SameAs p')
    (hg : generate p settings signal = .ok (some (g, later)))
    (hg' : generate p' settings signal' = .ok (some (g', later'))) :
    (g.filesFor .csharp).Perm (g'.filesFor .csharp) ∧
      (g.filesFor .typeScript).Perm (g'.filesFor .typeScript) ∧
      g.diagnostics.Perm g'.diagnostics := by
  obtain ⟨results, hresults, rfl⟩ := generate_eq_ok hg
  obtain ⟨results', hresults', rfl⟩ := generate_eq_ok hg'
  have hkeys' : (p'.tables.map fun t => lower t.tableName).Nodup := (h.tables.map _).nodup_iff.1 h.table_keys
  have hplan : (fates settings p.tables).Perm (fates settings p'.tables) := by
    rw [fates_of_distinct h.table_keys, fates_of_distinct hkeys']
    exact h.tables.map _
  have hsame : tableResult (p.surroundings settings) = tableResult (p'.surroundings settings) :=
    funext fun x => tableResult_congr (h.surroundings settings) x
  obtain ⟨results'', hresults'', hperm⟩ := mapM_of_perm hplan hresults
  rw [hsame, hresults'] at hresults''
  obtain rfl := Except.ok.inj hresults''
  refine ⟨?_, ?_, ?_⟩
  · rw [filesFor_assemble (by decide), filesFor_assemble (by decide)]
    exact (hperm.flatMap_right _).filter _
  · rw [filesFor_assemble (by decide), filesFor_assemble (by decide)]
    exact (hperm.flatMap_right _).filter _
  · exact (h.diagnostics.append (hperm.flatMap_right _)).append (orphanDiagnostics_perm h)

/-- Scripts for different tables and seeds for different tables give the same in any order. -/
theorem generate_of_perm {tables tables' seeds seeds' : List Source} {settings : Settings}
    {p p' : ParsedSchema} {g g' : GenerationResult} {s₁ s₂ s₃ s₄ t₁ t₂ t₃ t₄ : Signal}
    (ht : tables.Perm tables') (hs : seeds.Perm seeds') (hdt : (tableKeys tables).Nodup)
    (hds : (seedKeys seeds).Nodup) (hp : (ParsedSchema.ofSources none s₁ tables seeds).1 = some (p, s₂))
    (hp' : (ParsedSchema.ofSources none t₁ tables' seeds').1 = some (p', t₂))
    (hg : generate p settings s₃ = .ok (some (g, s₄)))
    (hg' : generate p' settings t₃ = .ok (some (g', t₄))) :
    (g.filesFor .csharp).Perm (g'.filesFor .csharp) ∧
      (g.filesFor .typeScript).Perm (g'.filesFor .typeScript) ∧
      g.diagnostics.Perm g'.diagnostics := by
  obtain rfl := ofSources_eq hp
  obtain rfl := ofSources_eq hp'
  exact generate_sameAs (sameAs_of_perm ht hs hdt hds) hg hg'

/-- Three tables, of which `Item` refers to the other two, in one order and in another. -/
def orderedTables : List Source × List Source :=
  let item := ⟨"Item.sql", "CREATE TABLE dbo.Item (ItemID int, ItemStageID int, KindID int)"⟩
  let stage := ⟨"Stage.sql", "CREATE TABLE dbo.Stage (StageID int)"⟩
  let itemStage := ⟨"ItemStage.sql", "CREATE TABLE dbo.ItemStage (ItemStageID int)"⟩
  ([item, stage, itemStage], [stage, item, itemStage])

def orderedSeeds : List Source × List Source :=
  let stages :=
    ⟨"Stages.sql", "MERGE INTO dbo.Stage AS t USING (VALUES (1, 'New')) AS s (StageID, StageName)"⟩
  let lost := ⟨"Lost.sql", "MERGE INTO dbo.Lost AS t USING (VALUES (1, 'Old')) AS s (LostID, LostName)"⟩
  ([stages, lost], [lost, stages])

theorem generate_orderedScripts : ∃ p p' g g',
    (ParsedSchema.ofSources none none orderedTables.1 orderedSeeds.1).1 = some (p, none) ∧
    (ParsedSchema.ofSources none none orderedTables.2 orderedSeeds.2).1 = some (p', none) ∧
    generate p {} none = .ok (some (g, none)) ∧ generate p' {} none = .ok (some (g', none)) ∧
    (g.filesFor .csharp).Perm (g'.filesFor .csharp) ∧
      (g.filesFor .typeScript).Perm (g'.filesFor .typeScript) ∧
    g.diagnostics.Perm g'.diagnostics := by
  have hparsed : ∃ p, (ParsedSchema.ofSources none none orderedTables.1 orderedSeeds.1).1 =
      some (p, none) ∧
      (generate p {} none).isOk = true := by
    refine ⟨_, rfl, ?_⟩
    decide +kernel
  have hparsed' : ∃ p, (ParsedSchema.ofSources none none orderedTables.2 orderedSeeds.2).1 =
      some (p, none) ∧
      (generate p {} none).isOk = true := by
    refine ⟨_, rfl, ?_⟩
    decide +kernel
  obtain ⟨p, hp, hok⟩ := hparsed
  obtain ⟨p', hp', hok'⟩ := hparsed'
  obtain ⟨g, hg⟩ := exists_generate_of_isOk hok
  obtain ⟨g', hg'⟩ := exists_generate_of_isOk hok'
  have hsame := generate_of_perm (List.Perm.swap ..) (List.Perm.swap ..) (by decide +kernel)
    (by decide +kernel) hp hp' hg hg'
  exact ⟨p, p', g, g', hp, hp', hg, hg', hsame⟩

end SchemaBindings

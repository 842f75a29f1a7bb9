import SchemaBindings.Batch.Generation
import SchemaBindings.Proofs.Code.FileNames
import SchemaBindings.Proofs.Code.GeneratedText

/-!
The files of a generation: no two have one name, and none holds a carriage return.
-/

namespace SchemaBindings

set_option autoImplicit false

open Text (NoReturn lower sameIgnoringCase sameIgnoringCase_comm NumeralError)

/-- Two tables that are both kept have different names, also ignoring case. -/
def Apart (x y : Table × Fate) : Prop :=
  x.2 = .kept → y.2 = .kept → sameIgnoringCase x.1.tableName y.1.tableName = false

theorem fatesFrom_new {settings : Settings} {seen : List String} {tables : List Table} {x : Table × Fate}
    (hx : x ∈ fatesFrom settings seen tables) (hkept : x.2 = .kept) :
    ∀ name ∈ seen, sameIgnoringCase name x.1.tableName = false := by
  induction tables generalizing seen with
  | nil => cases hx
  | cons t rest ih =>
    unfold fatesFrom at hx
    split at hx
    · rcases List.mem_cons.1 hx with rfl | hx
      · cases hkept
      · exact ih hx
    · split at hx
      · rcases List.mem_cons.1 hx with rfl | hx
        · cases hkept
        · exact ih hx
      · rename_i hseen
        rcases List.mem_cons.1 hx with rfl | hx
        · intro name hname
          rw [← Bool.not_eq_true]
          exact fun hsame => hseen (List.any_eq_true.2 ⟨name, hname, hsame⟩)
        · exact fun name hname => ih hx name (List.mem_cons_of_mem t.tableName hname)

theorem fatesFrom_apart (settings : Settings) (seen : List String) (tables : List Table) :
    (fatesFrom settings seen tables).Pairwise Apart := by
  induction tables generalizing seen with
  | nil => exact .nil
  | cons t rest ih =>
    unfold fatesFrom
    split
    · refine .cons ?_ (ih seen)
      rintro y _ ⟨⟩
    · split
      · refine .cons ?_ (ih seen)
        rintro y _ ⟨⟩
      · refine .cons ?_ (ih (t.tableName :: seen))
        intro y hy _ hkept
        exact fatesFrom_new hy hkept t.tableName List.mem_cons_self

theorem mem_of_mem_fates {settings : Settings} {tables : List Table} {x : Table × Fate}
    (h : x ∈ fates settings tables) : x.1 ∈ tables := by
  rw [← map_fst_fatesFrom settings [] tables]
  exact List.mem_map_of_mem h

section
variable {sur : Surroundings} {x : Table × Fate} {r : TableResult}

/-- The two files of a table that is kept, with a third for one that has a seed. -/
theorem tableResult_files (h : tableResult sur x = .ok r) :
    r.files = [] ∨ x.2 = .kept ∧
      (r.files = [keyFile sur x.1, ⟨Code.bindingFileName x.1, Code.regularBinding x.1
          sur.settings.nameSpace sur.lookups sur.tables, x.1.tableName, .csharp⟩] ∨
        ∃ s ∈ sur.seeds, ∃ binding script,
          Code.lookupBinding x.1 s.seed sur.settings.nameSpace sur.lookups sur.tables
            sur.settings.keyFallback = .ok binding ∧
          Code.enumModule x.1 s.seed sur.settings.keyFallback = .ok script ∧
          r.files = [keyFile sur x.1, ⟨Code.bindingFileName x.1, binding, x.1.tableName, .csharp⟩,
            ⟨Code.typeScriptFileName x.1.tableName, script, x.1.tableName, .typeScript⟩]) := by
  obtain ⟨t, fate⟩ := x
  cases fate with
  | excluded =>
    cases h
    exact .inl rfl
  | duplicate =>
    cases h
    exact .inl rfl
  | kept =>
    refine .inr ⟨rfl, ?_⟩
    simp only [tableResult] at h
    split at h
    · rename_i s hfind
      unfold lookupResult at h
      obtain ⟨binding, hbinding, h⟩ := bind_eq_ok.1 h
      obtain ⟨script, hscript, h⟩ := bind_eq_ok.1 h
      rw [← Except.ok.inj h]
      exact .inr ⟨s, List.mem_of_find?_eq_some hfind, binding, script, hbinding, hscript, rfl⟩
    · cases h
      exact .inl rfl

theorem fileOf_tableResult (h : tableResult sur x = .ok r) :
    ∀ f ∈ r.files, x.2 = .kept ∧ Code.FileOf x.1.tableName f.fileName := by
  rcases tableResult_files h with hfiles | ⟨hkept, hfiles | ⟨_, _, _, _, _, _, hfiles⟩⟩
  · rw [hfiles]
    exact List.forall_mem_nil _
  · rw [hfiles, List.forall_mem_cons, List.forall_mem_singleton]
    exact ⟨⟨hkept, .key⟩, ⟨hkept, .binding⟩⟩
  · rw [hfiles, List.forall_mem_cons, List.forall_mem_cons, List.forall_mem_singleton]
    exact ⟨⟨hkept, .key⟩, ⟨hkept, .binding⟩, ⟨hkept, .script⟩⟩

theorem nodup_tableResult (h : tableResult sur x = .ok r) : (r.files.map GeneratedFile.fileName).Nodup := by
  have hkey : Code.keyClassFileName x.1 ≠ Code.bindingFileName x.1 := Code.key_ne_binding _ _
  have hscript : Code.keyClassFileName x.1 ≠ Code.typeScriptFileName x.1.tableName := Code.key_ne_script _ _
  have hbinding : Code.bindingFileName x.1 ≠ Code.typeScriptFileName x.1.tableName :=
    Code.binding_ne_script _ _
  rcases tableResult_files h with hfiles | ⟨_, hfiles | ⟨_, _, _, _, _, _, hfiles⟩⟩
  · rw [hfiles]
    exact .nil
  · rw [hfiles]
    simp [keyFile, hkey]
  · rw [hfiles]
    simp [keyFile, hkey, hscript, hbinding]

theorem noReturn_tableResult (ht : x.1.Worded) (hs : ∀ s ∈ sur.seeds, s.seed.Clean)
    (hn : NoReturn sur.settings.nameSpace) (hl : sur.lookups.Clean) (h : tableResult sur x = .ok r) :
    ∀ f ∈ r.files, NoReturn f.content := by
  have hkey : NoReturn (keyFile sur x.1).content := Code.noReturn_keyClass ht hn
  rcases tableResult_files h with hfiles |
    ⟨_, hfiles | ⟨s, hmem, binding, script, hbinding, hscript, hfiles⟩⟩
  · rw [hfiles]
    exact List.forall_mem_nil _
  · rw [hfiles, List.forall_mem_cons, List.forall_mem_singleton]
    exact ⟨hkey, Code.noReturn_regularBinding ht hn hl⟩
  · have hseed := hs s hmem
    rw [hfiles, List.forall_mem_cons, List.forall_mem_cons, List.forall_mem_singleton]
    exact ⟨hkey, Code.noReturn_lookupBinding ht hseed hn hl hbinding,
      Code.noReturn_enumModule ht hseed hscript⟩

end

/-- What holds of the files of one table, and of those of two tables that are apart, holds of all. -/
theorem pairwise_results {R : GeneratedFile → GeneratedFile → Prop} {sur : Surroundings}
    {plan : List (Table × Fate)} {results : List TableResult} (hplan : plan.Pairwise Apart)
    (h : plan.mapM (tableResult sur) = .ok results)
    (hown : ∀ x ∈ plan, ∀ r, tableResult sur x = .ok r → r.files.Pairwise R)
    (hcross : ∀ x ∈ plan, ∀ y ∈ plan, sameIgnoringCase x.1.tableName y.1.tableName = false →
      ∀ f f', Code.FileOf x.1.tableName f.fileName → Code.FileOf y.1.tableName f'.fileName → R f f') :
    (results.flatMap TableResult.files).Pairwise R := by
  induction plan generalizing results with
  | nil =>
    cases h
    exact .nil
  | cons x rest ih =>
    obtain ⟨r, more, hr, hmore, rfl⟩ := mapM_cons_eq_ok.1 h
    obtain ⟨hhead, htail⟩ := List.pairwise_cons.1 hplan
    have hrest := ih htail hmore (fun y hy => hown y (List.mem_cons_of_mem x hy))
      fun y hy z hz => hcross y (List.mem_cons_of_mem x hy) z (List.mem_cons_of_mem x hz)
    rw [List.flatMap_cons, List.pairwise_append]
    refine ⟨hown x List.mem_cons_self r hr, hrest, ?_⟩
    intro f hf g hg
    obtain ⟨r', hr', hg⟩ := List.mem_flatMap.1 hg
    obtain ⟨y, hy, hyr⟩ := mem_of_mapM_eq_ok hmore r' hr'
    obtain ⟨hx, hfile⟩ := fileOf_tableResult hr f hf
    obtain ⟨hy', hfile'⟩ := fileOf_tableResult hyr g hg
    exact hcross x List.mem_cons_self y (List.mem_cons_of_mem x hy) (hhead y hy hx hy') f g hfile hfile'

theorem nodup_results {sur : Surroundings} {plan : List (Table × Fate)} {results : List TableResult}
    (hplan : plan.Pairwise Apart) (hworded : ∀ x ∈ plan, x.1.Worded)
    (h : plan.mapM (tableResult sur) = .ok results) :
    ((results.flatMap TableResult.files).map GeneratedFile.fileName).Nodup := by
  rw [List.Nodup, List.pairwise_map]
  refine pairwise_results hplan h ?_ ?_
  · intro x _ r hr
    exact List.pairwise_map.1 (nodup_tableResult hr)
  · intro x hx y hy hapart f f' hfile hfile' heq
    have hsame := hfile.sameIgnoringCase (hworded x hx).table (hworded y hy).table hfile' heq
    rw [hapart] at hsame
    cases hsame

theorem Signal.reached_of_after {α : Type} {signal later : Signal} {items : List α} {looks : Nat}
    (hlooks : items.length ≤ looks) (h : signal.after looks = some later) :
    signal.reached items = items := by
  cases signal with
  | none => rfl
  | some n =>
    unfold after at h
    simp only at h
    split at h
    · rename_i hlength
      exact List.take_of_length_le (Nat.le_trans hlooks hlength)
    · cases h

theorem Signal.after_bind_after (signal : Signal) (a b : Nat) :
    (signal.after a).bind (fun later => later.after b) = signal.after (a + b) := by
  cases signal with
  | none => rfl
  | some n =>
    by_cases ha : a ≤ n
    · have hrest : b ≤ n - a ↔ a + b ≤ n := by omega
      simp only [after, if_pos ha, Option.bind_some, hrest, Nat.sub_sub]
    · have hsum : ¬ a + b ≤ n := by omega
      simp only [after, if_neg ha, if_neg hsum, Option.bind_none]

theorem generate_eq_ok {p : ParsedSchema} {settings : Settings} {g : GenerationResult}
    {signal later : Signal} (h : generate p settings signal = .ok (some (g, later))) :
    ∃ results, (fates settings p.tables).mapM (tableResult (p.surroundings settings)) = .ok results ∧
      g = .assemble p results := by
  unfold generate at h
  obtain ⟨results, hresults, h⟩ := bind_eq_ok.1 h
  obtain ⟨s, hs, hg⟩ := Option.map_eq_some_iff.1 (Except.ok.inj h)
  rw [Signal.reached_of_after (Nat.le_refl _) hs] at hresults
  cases hg
  exact ⟨results, hresults, rfl⟩

theorem generate_eq_of_mapM {p : ParsedSchema} {settings : Settings} {results : List TableResult}
    (h : (fates settings p.tables).mapM (tableResult (p.surroundings settings)) = .ok results) :
    generate p settings none = .ok (some (.assemble p results, none)) := by
  unfold generate
  exact bind_eq_ok.2 ⟨results, h, rfl⟩

/-- Without a signal a generation does not end before its last table. -/
theorem generate_unstopped {p : ParsedSchema} {settings : Settings} {x : Option (GenerationResult × Signal)}
    (h : generate p settings none = .ok x) : ∃ g, x = some (g, none) := by
  unfold generate at h
  obtain ⟨results, _, h⟩ := bind_eq_ok.1 h
  exact ⟨_, (Except.ok.inj h).symm⟩

theorem manifestFiles_names (entries : List Code.ManifestEntry) :
    ∀ f ∈ GenerationResult.manifestFiles entries,
      f.fileName = Code.manifestFileName ∧ NoReturn f.content := by
  unfold GenerationResult.manifestFiles
  split
  · exact List.forall_mem_nil _
  · rw [List.forall_mem_singleton]
    exact ⟨rfl, Code.noReturn_manifest entries⟩

theorem nodup_fileNames {p : ParsedSchema} {settings : Settings} {g : GenerationResult}
    {signal later : Signal}
    (hworded : ∀ t ∈ p.tables, t.Worded) (h : generate p settings signal = .ok (some (g, later))) :
    (g.files.map GeneratedFile.fileName).Nodup := by
  obtain ⟨results, hresults, rfl⟩ := generate_eq_ok h
  have htables : ∀ x ∈ fates settings p.tables, x.1.Worded :=
    fun x hx => hworded x.1 (mem_of_mem_fates hx)
  have hnames := nodup_results (fatesFrom_apart settings [] p.tables) htables hresults
  unfold GenerationResult.assemble
  simp only
  rw [List.map_append, List.nodup_append]
  refine ⟨hnames, ?_, ?_⟩
  · unfold GenerationResult.manifestFiles
    split
    · exact .nil
    · exact List.nodup_singleton _
  · intro name hname other hother heq
    obtain ⟨f, hf, rfl⟩ := List.mem_map.1 hname
    obtain ⟨g, hg, rfl⟩ := List.mem_map.1 hother
    obtain ⟨r, hr, hf⟩ := List.mem_flatMap.1 hf
    obtain ⟨x, _, hx⟩ := mem_of_mapM_eq_ok hresults r hr
    exact (fileOf_tableResult hx f hf).2.ne_manifest (heq.trans (manifestFiles_names _ g hg).1)

theorem noReturn_generate {p : ParsedSchema} {settings : Settings} {g : GenerationResult}
    {signal later : Signal}
    (hworded : ∀ t ∈ p.tables, t.Worded) (hclean : ∀ s ∈ p.seeds, s.seed.Clean)
    (hn : NoReturn settings.nameSpace) (h : generate p settings signal = .ok (some (g, later))) :
    ∀ f ∈ g.files, NoReturn f.content := by
  obtain ⟨results, hresults, rfl⟩ := generate_eq_ok h
  have hlookups : (p.surroundings settings).lookups.Clean := by
    refine NameSet.clean_ofList ?_
    intro name hname
    obtain ⟨s, hs, rfl⟩ := List.mem_map.1 hname
    exact (hclean s hs).table.noReturn
  intro f hf
  rcases List.mem_append.1 hf with hf | hf
  · obtain ⟨r, hr, hf⟩ := List.mem_flatMap.1 hf
    obtain ⟨x, hx, hxr⟩ := mem_of_mapM_eq_ok hresults r hr
    exact noReturn_tableResult (hworded x.1 (mem_of_mem_fates hx)) hclean hn hlookups hxr f hf
  · exact (manifestFiles_names _ f hf).2

/-- What one phase of reading gives without a cache. -/
def outcomesOf (kind : SourceKind) (sources : List Source) : List Outcome :=
  sources.map fun s => ⟨s.path, Model.ofScript kind s.text⟩

theorem readAll_none (kind : SourceKind) (sources : List Source) :
    readAll kind none sources =
      (outcomesOf kind sources, none) := by
  induction sources with
  | nil => rfl
  | cons s rest ih =>
    have hmodel : readModel none kind s.text = (Model.ofScript kind s.text, none) := rfl
    unfold readAll
    rw [hmodel]
    simp only [ih]
    rfl

theorem ofSources_none (tables seeds : List Source) :
    ParsedSchema.ofSources none none tables seeds =
      (some (.ofOutcomes (outcomesOf .table tables) (outcomesOf .seed seeds), none), none) := by
  unfold ParsedSchema.ofSources
  simp only [Signal.reached_none, Signal.after_none, readAll_none]

/-- When the signal does not stop the reading, it has no part in what is read. -/
theorem ofSources_signal (signal : Signal) (tables seeds : List Source) :
    (ParsedSchema.ofSources none signal tables seeds).1 =
      (signal.after (tables.length + 1 + seeds.length)).map fun later =>
        (.ofOutcomes (outcomesOf .table tables) (outcomesOf .seed seeds), later) := by
  unfold ParsedSchema.ofSources
  rw [← Signal.after_bind_after signal (tables.length + 1)]
  simp only [readAll_none]
  cases hmiddle : signal.after (tables.length + 1) with
  | none => rfl
  | some middle =>
    rw [Signal.reached_of_after (Nat.le_succ _) hmiddle, Option.bind_some]
    simp only
    cases hlater : middle.after seeds.length with
    | none => rfl
    | some later =>
      rw [Signal.reached_of_after (Nat.le_refl _) hlater]
      rfl

theorem worded_ofOutcomes (tables : List Source) (seeds : List Outcome) :
    ∀ t ∈ (ParsedSchema.ofOutcomes (outcomesOf .table tables) seeds).tables, t.Worded := by
  intro t ht
  change t ∈ (outcomesOf .table tables).filterMap Outcome.table? at ht
  obtain ⟨o, ho, ht⟩ := List.mem_filterMap.1 ht
  obtain ⟨s, _, rfl⟩ := List.mem_map.1 ho
  obtain ⟨m, hm, ht⟩ := Option.bind_eq_some_iff.1 ht
  have hmodel : Model.ofScript .table s.text = .ok m := by
    cases hread : Model.ofScript .table s.text with
    | error e =>
      simp only [hread] at hm
      cases hm
    | ok m' =>
      simp only [hread] at hm
      cases hm
      rfl
  obtain ⟨t', hread, rfl⟩ := map_eq_ok.1 hmodel
  cases ht
  exact worded_of_ofScript hread

theorem addSeed_seeds (acc : List SourcedSeed × List Diagnostic) (o : Outcome) :
    (addSeed acc o).1 = acc.1 ∨
      ∃ seed, o.result = .ok (.seed seed) ∧ (addSeed acc o).1 = acc.1 ++ [⟨o.path, seed⟩] := by
  unfold addSeed
  split
  · exact .inl rfl
  · exact .inl rfl
  · rename_i seed hseed
    split
    · exact .inl rfl
    · exact .inr ⟨seed, hseed, rfl⟩

theorem addSeed_clean {acc : List SourcedSeed × List Diagnostic} {s : Source} (hs : NoReturn s.text)
    (h : ∀ x ∈ acc.1, x.seed.Clean) :
    ∀ x ∈ (addSeed acc ⟨s.path, Model.ofScript .seed s.text⟩).1, x.seed.Clean := by
  rcases addSeed_seeds acc ⟨s.path, Model.ofScript .seed s.text⟩ with hsame | ⟨seed, hseed, hadded⟩
  · rw [hsame]
    exact h
  · obtain ⟨seed', hread, hmodel⟩ := map_eq_ok.1 hseed
    cases hmodel
    rw [hadded, List.forall_mem_append, List.forall_mem_singleton]
    exact ⟨h, clean_of_ofScript hs (mapError_eq_ok.1 hread)⟩

theorem clean_ofOutcomes (tables : List Outcome) {seeds : List Source}
    (h : ∀ s ∈ seeds, NoReturn s.text) :
    ∀ s ∈ (ParsedSchema.ofOutcomes tables (outcomesOf .seed seeds)).seeds, s.seed.Clean := by
  have hfold : ∀ acc : List SourcedSeed × List Diagnostic, (∀ x ∈ acc.1, x.seed.Clean) →
      ∀ x ∈ ((outcomesOf .seed seeds).foldl addSeed acc).1, x.seed.Clean := by
    induction seeds with
    | nil => exact fun acc hacc => hacc
    | cons s rest ih =>
      intro acc hacc
      exact ih (fun x hx => h x (List.mem_cons_of_mem s hx)) _ (addSeed_clean (h s List.mem_cons_self) hacc)
  exact hfold ([], []) (List.forall_mem_nil _)

end SchemaBindings

import SchemaBindings.Batch.Run
import SchemaBindings.Proofs.Batch.Output
import SchemaBindings.Proofs.Settings.NameSpace

/-!
A second run writes nothing. The first run leaves every file with its text and the scripts as they were, so
the second generates the same files and finds each of them written.
-/

namespace SchemaBindings

set_option autoImplicit false

open Text (NoReturn not_mem_unifyNewlines)

variable {d d' : Disk} {settings : Settings} {g : GenerationResult} {r : RunResult}

/-- The texts of the scripts, and what is reported about those that cannot be read. -/
def Disk.sources (d : Disk) (files : ScriptFiles) :
    Except FileError (List Source × List Source × List Diagnostic) := do
  let (tables, unreadTables) ← readSources d files.tables
  let (seeds, unreadSeeds) ← readSources d files.seeds
  return (tables, seeds, unreadTables ++ unreadSeeds)

theorem readSources_congr {paths : List Path} (h : ∀ p ∈ paths, d'.find p = d.find p) :
    readSources d' paths = readSources d paths := by
  induction paths with
  | nil => rfl
  | cons p rest ih =>
    rw [List.forall_mem_cons] at h
    have hscript : d'.readScript p = d.readScript p := by
      unfold Disk.readScript Disk.read
      rw [h.1]
    unfold readSources
    rw [hscript, ih h.2]

theorem sources_congr {files : ScriptFiles}
    (h : ∀ p, p ∈ files.tables ∨ p ∈ files.seeds → d'.find p = d.find p) :
    d'.sources files = d.sources files := by
  unfold Disk.sources
  rw [readSources_congr fun p hp => h p (.inl hp), readSources_congr fun p hp => h p (.inr hp)]

theorem noReturn_readScript {p : Path} {text : String} (h : d.readScript p = .ok text) : NoReturn text := by
  unfold Disk.readScript at h
  obtain ⟨bytes, _, h⟩ := bind_eq_ok.1 h
  cases h
  rw [Text.noReturn_ofList]
  exact not_mem_unifyNewlines _

theorem noReturn_readSources {paths : List Path} {sources : List Source} {unread : List Diagnostic}
    (h : readSources d paths = .ok (sources, unread)) : ∀ s ∈ sources, NoReturn s.text := by
  induction paths generalizing sources unread with
  | nil =>
    cases h
    exact List.forall_mem_nil _
  | cons p rest ih =>
    unfold readSources at h
    split at h
    · cases h
    · rename_i text htext
      obtain ⟨⟨more, unread'⟩, hmore, h⟩ := map_eq_ok.1 h
      cases h
      rw [List.forall_mem_cons]
      exact ⟨noReturn_readScript htext, ih hmore⟩
    · obtain ⟨⟨more, unread'⟩, hmore, h⟩ := map_eq_ok.1 h
      cases h
      exact ih hmore

def ParsedSchema.ofTexts (tables seeds : List Source) (unread : List Diagnostic) : ParsedSchema :=
  let p := ParsedSchema.ofOutcomes (outcomesOf .table tables) (outcomesOf .seed seeds)
  { p with diagnostics := unread ++ p.diagnostics }

/-- What a run generates from the scripts on a disk. -/
structure Disk.Generates (d : Disk) (settings : Settings) (g : GenerationResult) : Prop where
  exists_sources : ∃ files tables seeds unread,
    d.scriptFiles settings.discovery.schemaRoot settings.discovery = .ok files ∧
    d.sources files = .ok (tables, seeds, unread) ∧
    generate (.ofTexts tables seeds unread) settings none = .ok (some (g, none))

theorem Disk.Generates.run (h : d.Generates settings g) :
    ∃ records, runGeneration d settings none none false =
        RunState.finish d none settings false records g := by
  obtain ⟨files, tables, seeds, unread, hfiles, hsources, hgenerate⟩ := h.exists_sources
  unfold Disk.sources at hsources
  unfold ParsedSchema.ofTexts at hgenerate
  unfold runGeneration
  simp only [hfiles, hsources, Signal.after_none, RunState.process, ofSources_none, hgenerate]
  exact ⟨_, rfl⟩

theorem generates_of_run (h : (runGeneration d settings none none false).result = .ok r) :
    ∃ g, d.Generates settings g := by
  unfold runGeneration at h
  split at h
  · cases h
  · rename_i files hfiles
    simp only at h
    split at h
    · cases h
    · rename_i tables seeds unread hsources
      simp only [Signal.after_none, RunState.process, ofSources_none] at h
      split at h
      · cases h
      · rename_i hgenerate
        obtain ⟨g, hnone⟩ := generate_unstopped hgenerate
        cases hnone
      · rename_i g signal hgenerate
        obtain ⟨g', hsome⟩ := generate_unstopped hgenerate
        cases hsome
        exact ⟨g, files, tables, seeds, unread, hfiles, hsources, hgenerate⟩

theorem finish_eq_ok {records : List LogRecord}
    (h : (RunState.finish d none settings false records g).result = .ok r) :
    d.writeResult settings g =
        ((RunState.finish d none settings false records g).disk, .ok r.outcomes) ∧
      r = { generation := g, outcomes := r.outcomes } := by
  unfold RunState.finish at h ⊢
  simp only [Bool.false_eq_true, if_false] at h ⊢
  split at h
  · cases h
  · rename_i d' outcomes hwrite
    cases h
    rw [hwrite]
    exact ⟨rfl, rfl⟩

/-- No output directory is the schema root or lies below it. -/
def Disk.OutputOutside (d : Disk) (settings : Settings) : Prop :=
  ∀ root, d.resolve (.ofString settings.discovery.schemaRoot) = .ok root →
    ∀ dir, settings.outputDirectory = some dir ∨ settings.typeScriptDirectory = some dir →
      dir.isEmpty = false → ∀ place, d.outputDirectory dir settings.projectDirectory = .ok place →
        ¬ root.steps <+: Path.settle place.steps

theorem orders_outside {directory : Option String} {files : List GeneratedFile} {orders : List Disk.Order}
    {root : Path} (h : d.orders settings directory files = .ok orders)
    (houtside : ∀ dir, directory = some dir → dir.isEmpty = false →
      ∀ place, d.outputDirectory dir settings.projectDirectory = .ok place →
        ¬ root.steps <+: Path.settle place.steps) :
    ∀ o ∈ orders, root.steps <+: o.place → o.place = root.steps := by
  rcases Disk.orders_eq_ok h with rfl | ⟨dir, place, hdir, hsome, hplace, rfl⟩
  · exact List.forall_mem_nil _
  · intro o ho hstart
    obtain ⟨f, _, rfl⟩ := List.mem_map.1 ho
    rcases List.prefix_concat_iff.1 hstart with heq | hstart
    · exact heq.symm
    · exact (houtside dir hdir hsome place hplace hstart).elim

theorem Disk.Generates.files_fit (h : d.Generates settings g) (hname : NoReturn settings.nameSpace) :
    (∀ f ∈ g.files, '/' ∉ f.fileName.toList ∧ 2 < f.fileName.length) ∧
      (g.files.map GeneratedFile.fileName).Nodup ∧ ∀ f ∈ g.files, NoReturn f.content := by
  obtain ⟨files, tables, seeds, unread, _, hsources, hgenerate⟩ := h.exists_sources
  unfold Disk.sources at hsources
  obtain ⟨⟨tables', unreadTables⟩, _, hsources⟩ := bind_eq_ok.1 hsources
  obtain ⟨⟨seeds', unreadSeeds⟩, hseeds, hsources⟩ := bind_eq_ok.1 hsources
  cases hsources
  have hworded : ∀ t ∈ (ParsedSchema.ofTexts tables seeds (unreadTables ++ unreadSeeds)).tables,
      t.Worded :=
    worded_ofOutcomes tables (outcomesOf .seed seeds)
  have hclean : ∀ s ∈ (ParsedSchema.ofTexts tables seeds (unreadTables ++ unreadSeeds)).seeds,
      s.seed.Clean :=
    clean_ofOutcomes (outcomesOf .table tables) (noReturn_readSources hseeds)
  exact ⟨step_fileNames hworded hgenerate, nodup_fileNames hworded hgenerate,
    noReturn_generate hworded hclean hname hgenerate⟩

/-- The same is generated again from a disk on which nothing was written below the root. -/
theorem Disk.Generates.later {places : List (List String)} (h : d.Generates settings g)
    (hlater : d.Later places d') (hdisk : d.tree.isProper = true)
    (houtside : ∀ root, d.resolve (.ofString settings.discovery.schemaRoot) = .ok root →
      ∀ q ∈ places, root.steps <+: q → q = root.steps)
    (hrules : d'.rulesFor settings.discovery = d.rulesFor settings.discovery) : d'.Generates settings g := by
  obtain ⟨files, tables, seeds, unread, hfiles, hsources, hgenerate⟩ := h.exists_sources
  obtain ⟨hfiles', hfound⟩ := scriptFiles_later hlater hdisk houtside hrules hfiles
  rw [← sources_congr hfound] at hsources
  exact ⟨files, tables, seeds, unread, hfiles', hsources, hgenerate⟩

/-- A run after one that wrote all its files finds them written and writes nothing, provided that the output
lies outside the schema root and the ignore file reads as before. -/
theorem runGeneration_again {first : RunState} {datum : Datum} (hdisk : d.tree.isProper = true)
    (hsettings : Settings.ofDatum datum = .ok settings) (houtside : d.OutputOutside settings)
    (hfirst : runGeneration d settings none none false = first) (hr : first.result = .ok r)
    (hwritten : ∀ o ∈ r.outcomes, ∀ e, o.status ≠ .failed e)
    (hrules : first.disk.rulesFor settings.discovery = d.rulesFor settings.discovery) :
    (runGeneration first.disk settings none none false).disk = first.disk ∧
      (runGeneration first.disk settings none none false).result =
        .ok { r with outcomes := r.outcomes.map fun o => ⟨o.path, .unchanged⟩ } := by
  subst hfirst
  obtain ⟨g, hgen⟩ := generates_of_run hr
  obtain ⟨records, hrun⟩ := hgen.run
  rw [hrun] at hr hrules ⊢
  obtain ⟨hwrite, hgeneration⟩ := finish_eq_ok hr
  generalize (RunState.finish d none settings false records g).disk = d' at hwrite hrules ⊢
  obtain ⟨main, scripts, hmain, hscripts, hall⟩ := Disk.writeResult_eq_ok hwrite
  have hname : NoReturn settings.nameSpace :=
    Settings.noReturn_of_isDottedName (Settings.isDottedName_nameSpace hsettings)
  obtain ⟨hnames, hdistinct, hreturn⟩ := hgen.files_fit hname
  obtain ⟨hfit, hplaces⟩ := Disk.fit_orders hnames hdistinct hreturn hmain hscripts
  obtain ⟨hlater, hheld, hpaths⟩ := Disk.later_writeAll hfit hplaces hall hwritten
  have hagain : d'.Generates settings g := by
    apply hgen.later hlater hdisk ?_ hrules
    intro root hroot q hq
    obtain ⟨o, ho, rfl⟩ := List.mem_map.1 hq
    rcases List.mem_append.1 ho with ho | ho
    · exact orders_outside hmain (fun dir hdir => houtside root hroot dir (.inl hdir)) o ho
    · exact orders_outside hscripts (fun dir hdir => houtside root hroot dir (.inr hdir)) o ho
  have hwrite' := Disk.writeResult_of_held (Disk.orders_later hlater hmain)
    (Disk.orders_later hlater hscripts) hfit hheld
  obtain ⟨records', hrun'⟩ := hagain.run
  have houtcomes : (main ++ scripts).map (fun o => (⟨o.path, .unchanged⟩ : WriteOutcome)) =
      r.outcomes.map fun o => ⟨o.path, .unchanged⟩ := by
    have hmap := congrArg (List.map fun p => (⟨p, .unchanged⟩ : WriteOutcome)) hpaths
    rw [List.map_map, List.map_map] at hmap
    exact hmap.symm
  rw [hrun', hgeneration]
  unfold RunState.finish
  simp only [Bool.false_eq_true, if_false, hwrite', houtcomes, and_self]

theorem rulesFor_of_missing {x : Discovery} {root : Path} (h : d.resolve (.ofString x.schemaRoot) = .ok root)
    (hfile : d.exists? (root.child x.ignoreFile) = .ok false) : d.rulesFor x = .ok [] := by
  rw [Disk.rulesFor_eq h]
  unfold Disk.ignoreRules
  rw [hfile]
  rfl

/-- A disk with a folder of scripts, of which one holds a table. -/
def scriptDisk : Disk where
  tree := .folder [("db", .folder [("Tables", .folder
    [("Item.sql", .file "CREATE TABLE dbo.Item (ItemID int)".toUTF8)])])]
  cwd := []

def scriptSettings (ignoreFile : String) : Settings :=
  { outputDirectory := some "out", discovery := { schemaRoot := "db", ignoreFile } }

theorem outputOutside_scriptDisk (ignoreFile : String) :
    scriptDisk.OutputOutside (scriptSettings ignoreFile) := by
  intro root hroot dir hdir _ place hplace
  have hroot' : scriptDisk.resolve (.ofString "db") = .ok root := hroot
  obtain rfl : (⟨"/", ["db"]⟩ : Path) = root := Except.ok.inj hroot'
  rcases hdir with hdir | hdir
  · obtain rfl : "out" = dir := Option.some.inj hdir
    have hplace' : scriptDisk.outputDirectory "out" none = .ok place := hplace
    obtain rfl : (⟨"/", ["out"]⟩ : Path) = place := Except.ok.inj hplace'
    decide
  · cases hdir

/-- Whether a run ended without an error and without a file that could not be written. -/
def RunState.allWritten (s : RunState) : Bool :=
  match s.result with
  | .ok r => r.outcomes.all fun o => o.status.error?.isNone
  | .error _ => false

theorem exists_of_allWritten {s : RunState} (h : s.allWritten = true) :
    ∃ r, s.result = .ok r ∧ ∀ o ∈ r.outcomes, ∀ e, o.status ≠ .failed e := by
  unfold RunState.allWritten at h
  split at h
  · rename_i r hr
    refine ⟨r, hr, ?_⟩
    intro o ho e he
    have hnone := List.all_eq_true.1 h o ho
    rw [he] at hnone
    cases hnone
  · cases h

theorem runGeneration_scriptDisk : ∃ first r,
    runGeneration scriptDisk (scriptSettings ".gitignore") none none false = first ∧
      first.result = .ok r ∧
    r.generation.tableCount = 1 ∧ (∀ o ∈ r.outcomes, ∀ e, o.status ≠ .failed e) ∧
    (runGeneration first.disk (scriptSettings ".gitignore") none none false).disk = first.disk ∧
    (runGeneration first.disk (scriptSettings ".gitignore") none none false).result =
      .ok { r with outcomes := r.outcomes.map fun o => ⟨o.path, .unchanged⟩ } := by
  have hevaluated : (runGeneration scriptDisk (scriptSettings ".gitignore") none none false).allWritten =
      true ∧
      (runGeneration scriptDisk (scriptSettings ".gitignore") none none false).disk.exists?
        (Path.child ⟨"/", ["db"]⟩ ".gitignore") = .ok false ∧
      (runGeneration scriptDisk (scriptSettings ".gitignore") none none false).disk.resolve (.ofString "db") =
        .ok ⟨"/", ["db"]⟩ ∧
      (runGeneration scriptDisk (scriptSettings ".gitignore") none none false).result.toOption.map
        (fun r => r.generation.tableCount) = some 1 := by
    decide +kernel
  obtain ⟨hall, hmissing, hroot, hcount⟩ := hevaluated
  obtain ⟨r, hr, hwritten⟩ := exists_of_allWritten hall
  have hrules : (runGeneration scriptDisk (scriptSettings ".gitignore") none none false).disk.rulesFor
      (scriptSettings ".gitignore").discovery =
        scriptDisk.rulesFor (scriptSettings ".gitignore").discovery := by
    rw [rulesFor_of_missing (x := (scriptSettings ".gitignore").discovery) hroot hmissing]
    have hroot' : scriptDisk.resolve (.ofString "db") = .ok ⟨"/", ["db"]⟩ := by decide +kernel
    have hmissing' : scriptDisk.exists? (Path.child ⟨"/", ["db"]⟩ ".gitignore") = .ok false := by
      decide +kernel
    exact (rulesFor_of_missing (x := (scriptSettings ".gitignore").discovery) hroot' hmissing').symm
  have hsettings : Settings.ofDatum (scriptSettings ".gitignore").toDatum =
    .ok (scriptSettings ".gitignore") := rfl
  have hagain := runGeneration_again (by decide) hsettings (outputOutside_scriptDisk ".gitignore")
    rfl hr hwritten hrules
  rw [hr] at hcount
  exact ⟨_, r, rfl, hr, Option.some.inj hcount, hwritten, hagain⟩

/-- A run that makes the folder which the ignore file's name leads to cannot be repeated. -/
theorem runGeneration_ignoring_output : ∃ first r,
    scriptDisk.tree.isProper = true ∧
    Settings.ofDatum (scriptSettings "../out").toDatum = .ok (scriptSettings "../out") ∧
    scriptDisk.OutputOutside (scriptSettings "../out") ∧
    runGeneration scriptDisk (scriptSettings "../out") none none false = first ∧ first.result = .ok r ∧
    (∀ o ∈ r.outcomes, ∀ e, o.status ≠ .failed e) ∧
    (runGeneration first.disk (scriptSettings "../out") none none false).result =
      .error (.discovery (.file (.fault .isFolder (some ⟨"/", ["db", "..", "out"]⟩)))) := by
  have hevaluated : (runGeneration scriptDisk (scriptSettings "../out") none none false).allWritten = true ∧
      (runGeneration (runGeneration scriptDisk (scriptSettings "../out") none none false).disk
        (scriptSettings "../out") none none false).result =
        .error (.discovery (.file (.fault .isFolder (some ⟨"/", ["db", "..", "out"]⟩)))) := by
    decide +kernel
  obtain ⟨hall, hsecond⟩ := hevaluated
  obtain ⟨r, hr, hwritten⟩ := exists_of_allWritten hall
  exact ⟨_, r, by decide, rfl, outputOutside_scriptDisk "../out", rfl, hr, hwritten, hsecond⟩

end SchemaBindings

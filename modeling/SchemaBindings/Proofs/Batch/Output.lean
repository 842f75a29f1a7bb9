import SchemaBindings.Proofs.Batch.GeneratedFiles
import SchemaBindings.Proofs.Files.Discovery

/-!
Writing what was generated. All orders of a result are fit, for different places, and carried out one after
the other; when every file holds its text already, nothing is written.
-/

namespace SchemaBindings

set_option autoImplicit false

open Text (NoReturn)

theorem fileOf_generate {p : ParsedSchema} {settings : Settings} {g : GenerationResult}
    {signal later : Signal} (h : generate p settings signal = .ok (some (g, later))) :
    ∀ f ∈ g.files, f.fileName = Code.manifestFileName ∨
        ∃ t ∈ p.tables, Code.FileOf t.tableName f.fileName := by
  obtain ⟨results, hresults, rfl⟩ := generate_eq_ok h
  intro f hf
  rcases List.mem_append.1 hf with hf | hf
  · obtain ⟨r, hr, hf⟩ := List.mem_flatMap.1 hf
    obtain ⟨x, hx, hxr⟩ := mem_of_mapM_eq_ok hresults r hr
    exact .inr ⟨x.1, mem_of_mem_fates hx, (fileOf_tableResult hxr f hf).2⟩
  · exact .inl (manifestFiles_names _ f hf).1

theorem step_fileNames {p : ParsedSchema} {settings : Settings} {g : GenerationResult} {signal later : Signal}
    (hworded : ∀ t ∈ p.tables, t.Worded) (h : generate p settings signal = .ok (some (g, later))) :
    ∀ f ∈ g.files, '/' ∉ f.fileName.toList ∧ 2 < f.fileName.length := by
  intro f hf
  rcases fileOf_generate h f hf with hmanifest | ⟨t, ht, hfile⟩
  · rw [hmanifest]
    decide
  · exact hfile.step (hworded t ht).table

theorem filesFor_perm (g : GenerationResult) :
    (g.filesFor .csharp ++ g.filesFor .manifest ++ g.filesFor .typeScript).Perm g.files := by
  unfold GenerationResult.filesFor
  induction g.files with
  | nil => exact .refl _
  | cons f rest ih =>
    obtain ⟨fileName, content, tableName, target⟩ := f
    cases target with
    | csharp => exact ih.cons _
    | manifest =>
      refine (List.Perm.append_right _ List.perm_middle).trans ?_
      exact ih.cons _
    | typeScript => exact List.perm_middle.trans (ih.cons _)

/-- The files that settings ask for beside the TypeScript files. -/
def GenerationResult.mainFiles (g : GenerationResult) (settings : Settings) : List GeneratedFile :=
  g.filesFor .csharp ++ if settings.writesManifest then g.filesFor .manifest else []

theorem mainFiles_sublist (g : GenerationResult) (settings : Settings) :
    (g.mainFiles settings ++ g.filesFor .typeScript).Sublist
      (g.filesFor .csharp ++ g.filesFor .manifest ++ g.filesFor .typeScript) := by
  unfold GenerationResult.mainFiles
  split
  · exact List.Sublist.refl _
  · rw [List.append_nil]
    exact (List.sublist_append_left _ _).append_right _

namespace Disk

variable {d d' : Disk} {settings : Settings} {directory : Option String} {files : List GeneratedFile}
  {orders : List Order}

/-- The directory that relative ones are seen from. -/
def IsBase (d : Disk) (project : Option String) (base : Path) : Prop :=
  match project.filter (!·.isEmpty) with
  | some directory => base = .ofString directory
  | none => d.current = .ok base

theorem IsBase.later {places : List (List String)} {project : Option String} {base : Path}
    (h : d.IsBase project base) (hlater : Later places d d') : d'.IsBase project base := by
  unfold IsBase at h ⊢
  split at h
  · exact h
  · exact current_later hlater h

theorem outputDirectory_eq_ok {dir : String} {project : Option String} {place : Path} :
    d.outputDirectory dir project = .ok place ↔
      (Path.ofString dir).isAbsolute = true ∧ place = .ofString dir ∨
      (Path.ofString dir).isAbsolute = false ∧
        ∃ base, d.IsBase project base ∧ d.resolve (base.append (.ofString dir)) = .ok place := by
  unfold outputDirectory IsBase
  simp only
  cases (Path.ofString dir).isAbsolute with
  | true => simp [eq_comm]
  | false =>
    cases project.filter (!·.isEmpty) with
    | some directory => simp
    | none => simp [bind_eq_ok]

theorem outputDirectory_isAbsolute {dir : String} {project : Option String} {place : Path}
    (h : d.outputDirectory dir project = .ok place) : place.isAbsolute = true := by
  rcases outputDirectory_eq_ok.1 h with ⟨habs, rfl⟩ | ⟨_, base, _, hplace⟩
  · exact habs
  · exact (back_of_resolve hplace).1

theorem outputDirectory_later {places : List (List String)} {dir : String} {project : Option String}
    {place : Path} (hlater : Later places d d') (h : d.outputDirectory dir project = .ok place) :
    d'.outputDirectory dir project = .ok place := by
  rw [outputDirectory_eq_ok] at h ⊢
  refine h.imp_right ?_
  rintro ⟨hrelative, base, hbase, hplace⟩
  exact ⟨hrelative, base, hbase.later hlater, resolve_later hlater hplace⟩

/-- What was to be written is to be written on a later disk. -/
theorem orders_later {places : List (List String)} (hlater : Later places d d')
    (h : d.orders settings directory files = .ok orders) :
    d'.orders settings directory files = .ok orders := by
  unfold Disk.orders at h ⊢
  split at h
  · exact h
  · obtain ⟨place, hplace, h⟩ := bind_eq_ok.1 h
    exact bind_eq_ok.2 ⟨place, outputDirectory_later hlater hplace, h⟩

/-- Each order is for one of the files, in the directory that the settings name. -/
theorem orders_eq_ok (h : d.orders settings directory files = .ok orders) :
    orders = [] ∨ ∃ dir place, directory = some dir ∧ dir.isEmpty = false ∧
      d.outputDirectory dir settings.projectDirectory = .ok place ∧
      orders = files.map fun f => ⟨place, f.fileName, f.content⟩ := by
  unfold Disk.orders at h
  split at h
  · cases h
    exact .inl rfl
  · rename_i dir hdir
    obtain ⟨place, hplace, h⟩ := bind_eq_ok.1 h
    cases h
    obtain ⟨hdir, hsome⟩ := Option.filter_eq_some_iff.1 hdir
    rw [Bool.not_eq_true'] at hsome
    exact .inr ⟨dir, place, hdir, hsome, hplace, rfl⟩

theorem writeAll_append {d₁ d₂ : Disk} {more : List Order} {a b : List WriteOutcome}
    (h : d.writeAll orders = (d₁, .ok a)) (h' : d₁.writeAll more = (d₂, .ok b)) :
    d.writeAll (orders ++ more) = (d₂, .ok (a ++ b)) := by
  induction orders generalizing d a with
  | nil =>
    cases h
    exact h'
  | cons o rest ih =>
    unfold writeAll at h
    split at h
    · cases h
    · rename_i d' outcome hfirst
      split at h
      · cases h
      · rename_i d'' outcomes hrest
        cases h
        rw [List.cons_append, writeAll]
        simp only [hfirst, ih hrest]
        rfl

theorem writeFiles_eq_ok {outcomes : List WriteOutcome} :
    d.writeFiles settings directory files = (d', .ok outcomes) ↔
      ∃ orders, d.orders settings directory files = .ok orders ∧
          d.writeAll orders = (d', .ok outcomes) := by
  unfold writeFiles
  split
  · rename_i e h
    rw [h]
    constructor
    · intro h
      cases h
    · rintro ⟨orders, h, _⟩
      cases h
  · rename_i orders h
    rw [h]
    constructor
    · exact fun hwritten => ⟨orders, rfl, hwritten⟩
    · rintro ⟨orders', h, hwritten⟩
      cases h
      exact hwritten

theorem writeResult_eq_ok {g : GenerationResult} {outcomes : List WriteOutcome}
    (h : d.writeResult settings g = (d', .ok outcomes)) :
    ∃ main scripts, d.orders settings settings.outputDirectory (g.mainFiles settings) = .ok main ∧
      d.orders settings settings.typeScriptDirectory (g.filesFor .typeScript) = .ok scripts ∧
      d.writeAll (main ++ scripts) = (d', .ok outcomes) := by
  unfold writeResult at h
  split at h
  · cases h
  · rename_i d₁ first hfirst
    obtain ⟨main, hmain, hfirst⟩ := writeFiles_eq_ok.1 hfirst
    split at h
    · cases h
    · rename_i scripts hscripts
      split at h
      · cases h
      · rename_i d₂ second hsecond
        cases h
        exact ⟨main, scripts, hmain, hscripts, writeAll_append hfirst hsecond⟩

theorem writeResult_of_writeAll {g : GenerationResult} {d₁ d₂ : Disk} {main scripts : List Order}
    {first second : List WriteOutcome}
    (hmain : d.orders settings settings.outputDirectory (g.mainFiles settings) = .ok main)
    (hscripts : d.orders settings settings.typeScriptDirectory (g.filesFor .typeScript) = .ok scripts)
    (hfirst : d.writeAll main = (d₁, .ok first)) (hsecond : d₁.writeAll scripts = (d₂, .ok second)) :
    d.writeResult settings g = (d₂, .ok (first ++ second)) := by
  have hwritten := writeFiles_eq_ok.2 ⟨main, hmain, hfirst⟩
  unfold GenerationResult.mainFiles at hwritten
  unfold writeResult
  simp only [hwritten, hscripts, hsecond]

theorem writeResult_of_held {g : GenerationResult} {main scripts : List Order}
    (hmain : d.orders settings settings.outputDirectory (g.mainFiles settings) = .ok main)
    (hscripts : d.orders settings settings.typeScriptDirectory (g.filesFor .typeScript) = .ok scripts)
    (hfit : ∀ o ∈ main ++ scripts, o.Fit) (hheld : ∀ o ∈ main ++ scripts, d.Held o.path o.content) :
    d.writeResult settings g = (d, .ok ((main ++ scripts).map fun o => ⟨o.path, .unchanged⟩)) := by
  rw [List.forall_mem_append] at hfit hheld
  rw [List.map_append]
  exact writeResult_of_writeAll hmain hscripts (writeAll_of_held hfit.1 hheld.1)
    (writeAll_of_held hfit.2 hheld.2)

theorem fit_of_orders (h : d.orders settings directory files = .ok orders)
    (hnames : ∀ f ∈ files, '/' ∉ f.fileName.toList ∧ 2 < f.fileName.length)
    (hreturn : ∀ f ∈ files, NoReturn f.content) : ∀ o ∈ orders, o.Fit := by
  rcases orders_eq_ok h with rfl | ⟨dir, place, _, _, hplace, rfl⟩
  · exact List.forall_mem_nil _
  · intro o ho
    obtain ⟨f, hf, rfl⟩ := List.mem_map.1 ho
    obtain ⟨hslash, hlength⟩ := hnames f hf
    obtain ⟨hname, hplain⟩ := Path.ofString_of_step hslash hlength
    exact ⟨outputDirectory_isAbsolute hplace, hname, hplain, hreturn f hf⟩

theorem names_of_orders (h : d.orders settings directory files = .ok orders) :
    (orders.map Order.name).Sublist (files.map GeneratedFile.fileName) := by
  rcases orders_eq_ok h with rfl | ⟨dir, place, _, _, _, rfl⟩
  · exact List.nil_sublist _
  · rw [List.map_map]
    exact List.Sublist.refl _

theorem nodup_places (h : (orders.map Order.name).Nodup) : (orders.map Order.place).Nodup := by
  have hlast : (orders.map Order.place).map List.getLast? = (orders.map Order.name).map some := by
    rw [List.map_map, List.map_map]
    exact List.map_congr_left fun o _ => List.getLast?_concat
  apply List.Nodup.of_map List.getLast?
  rw [hlast]
  exact h.map (Option.some_injective String)

/-- The orders for the files of a generation are fit, and no two are for one place. -/
theorem fit_orders {g : GenerationResult} {main scripts : List Order}
    (hnames : ∀ f ∈ g.files, '/' ∉ f.fileName.toList ∧ 2 < f.fileName.length)
    (hdistinct : (g.files.map GeneratedFile.fileName).Nodup) (hreturn : ∀ f ∈ g.files, NoReturn f.content)
    (hmain : d.orders settings settings.outputDirectory (g.mainFiles settings) = .ok main)
    (hscripts : d.orders settings settings.typeScriptDirectory (g.filesFor .typeScript) = .ok scripts) :
    (∀ o ∈ main ++ scripts, o.Fit) ∧ ((main ++ scripts).map Order.place).Nodup := by
  have hsub := mainFiles_sublist g settings
  have hperm := filesFor_perm g
  have hmem : ∀ f ∈ g.mainFiles settings ++ g.filesFor .typeScript, f ∈ g.files :=
    fun f hf => hperm.mem_iff.1 (hsub.subset hf)
  have hnodup : ((g.mainFiles settings ++ g.filesFor .typeScript).map GeneratedFile.fileName).Nodup :=
    ((hperm.map _).nodup_iff.2 hdistinct).sublist (hsub.map _)
  rw [List.forall_mem_append] at hmem
  rw [List.map_append] at hnodup
  constructor
  · rw [List.forall_mem_append]
    constructor
    · exact fit_of_orders hmain (fun f hf => hnames f (hmem.1 f hf)) fun f hf => hreturn f (hmem.1 f hf)
    · exact fit_of_orders hscripts (fun f hf => hnames f (hmem.2 f hf)) fun f hf => hreturn f (hmem.2 f hf)
  · apply nodup_places
    rw [List.map_append]
    exact hnodup.sublist ((names_of_orders hmain).append (names_of_orders hscripts))

end Disk

end SchemaBindings

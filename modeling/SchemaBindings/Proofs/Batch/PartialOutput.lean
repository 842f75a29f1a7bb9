import SchemaBindings.Proofs.Batch.Output
import SchemaBindings.Proofs.Files.NulCharacters

/-!
Writing when some files cannot be written. Each failure becomes the outcome of its file, and whatever else is
written holds its text in the end.
-/

namespace SchemaBindings

set_option autoImplicit false

open Text (NoReturn)

def Settings.directoryFor (settings : Settings) : Target → Option String
  | .typeScript => settings.typeScriptDirectory.filter (!·.isEmpty)
  | _ => settings.outputDirectory.filter (!·.isEmpty)

/-- The files that settings ask for, in the order of writing. -/
def GenerationResult.selected (g : GenerationResult) (settings : Settings) : List GeneratedFile :=
  (g.filesFor .csharp ++ (if settings.writesManifest then g.filesFor .manifest else [])
    ++ g.filesFor .typeScript).filter fun f => (settings.directoryFor f.target).isSome

theorem target_of_mem_filesFor {g : GenerationResult} {target : Target} {f : GeneratedFile}
    (h : f ∈ g.filesFor target) : f.target = target := eq_of_beq (List.mem_filter.1 h).2

def Disk.GoesTo (d : Disk) (settings : Settings) (f : GeneratedFile) (p : Path) : Prop :=
  ∃ directory place, settings.directoryFor f.target = some directory ∧
    d.outputDirectory directory settings.projectDirectory = .ok place ∧ p = place.child f.fileName

/-- A disk as there are: it has a root folder, and no name on the way to its current directory holds a NUL
character. -/
structure Disk.WellFormed (d : Disk) : Prop where
  root : d.tree.isFolder = true
  cwd : ∀ step ∈ d.cwd, NoNul step

structure Settings.NulFree (settings : Settings) : Prop where
  output : ∀ directory, settings.outputDirectory = some directory → NoNul directory
  typeScript : ∀ directory, settings.typeScriptDirectory = some directory → NoNul directory
  project : ∀ directory, settings.projectDirectory = some directory → NoNul directory

/-- A directory that is absolute, or is seen from a project's directory that is. -/
def Settings.Anchors (settings : Settings) (directory : String) : Prop :=
  (Path.ofString directory).isAbsolute = true ∨
    ∃ base, settings.projectDirectory.filter (!·.isEmpty) = some base ∧
      (Path.ofString base).isAbsolute = true

/-- Where output goes does not depend on the current directory. -/
def Settings.Anchored (settings : Settings) : Prop :=
  ∀ target directory, settings.directoryFor target = some directory → settings.Anchors directory

namespace Disk

variable {d d' : Disk} {settings : Settings} {g : GenerationResult}

def DistinctPaths (d : Disk) (settings : Settings) (g : GenerationResult) : Prop :=
  (g.selected settings).Pairwise fun a b => ∀ p q,
    d.GoesTo settings a p → d.GoesTo settings b q → p ≠ q

/-- No two paths lead to one place once each step `..` has gone back one. -/
def DistinctPlaces (d : Disk) (settings : Settings) (g : GenerationResult) : Prop :=
  (g.selected settings).Pairwise fun a b =>
    ∀ p q, d.GoesTo settings a p → d.GoesTo settings b q → Path.settle p.steps ≠ Path.settle q.steps

/-- The pass ends, each file that is asked for has its outcome, in the order of writing, and each file whose
outcome is not a failure holds its text in the end. -/
def WritesSelected (d : Disk) (settings : Settings) (g : GenerationResult) : Prop :=
  ∃ d' outcomes, d.writeResult settings g = (d', .ok outcomes) ∧
    List.Forall₂ (fun f outcome => d.GoesTo settings f outcome.path ∧
      ((∀ e, outcome.status ≠ .failed e) → d'.readText outcome.path = .ok f.content))
      (g.selected settings) outcomes

theorem resolve_returns (hd : d.WellFormed) {p : Path} (hp : p.NulFree)
    (hcurrent : p.isAbsolute = true ∨ d.HasCurrent) :
    ∃ place, d.resolve p = .ok place ∧ place.isAbsolute = true ∧ place.NulFree :=
  ⟨p.resolve d.cwd, resolve_eq_ok.2 ⟨hp.hasNul, hcurrent, rfl⟩, rfl, hp.resolve hd.cwd⟩

theorem isAbsolute_append {base : Path} (h : base.isAbsolute = true) (p : Path) :
    (base.append p).isAbsolute = true := by
  unfold Path.append
  split
  · assumption
  · exact h

theorem exists_isBase (hd : d.WellFormed) (hsettings : settings.NulFree) {directory : String}
    (hrelative : (Path.ofString directory).isAbsolute = false)
    (hcurrent : d.HasCurrent ∨ settings.Anchors directory) :
    ∃ base, d.IsBase settings.projectDirectory base ∧ base.NulFree ∧
      (base.isAbsolute = true ∨ d.HasCurrent) := by
  unfold IsBase
  split
  · rename_i project hproject
    obtain ⟨hsome, _⟩ := Option.filter_eq_some_iff.1 hproject
    refine ⟨_, rfl, Path.nulFree_ofString (hsettings.project project hsome), ?_⟩
    rcases hcurrent with hcurrent | habs | ⟨project', hproject', habs⟩
    · exact .inr hcurrent
    · cases hrelative.symm.trans habs
    · cases hproject.symm.trans hproject'
      exact .inl habs
  · rename_i hnone
    rcases hcurrent with hcurrent | habs | ⟨project', hproject', _⟩
    · have hfree : (Path.mk "/" d.cwd).NulFree := ⟨(by decide : NoNul "/"), hd.cwd⟩
      exact ⟨_, current_eq_ok.2 ⟨hcurrent, rfl⟩, hfree, .inr hcurrent⟩
    · cases hrelative.symm.trans habs
    · cases hnone.symm.trans hproject'

theorem outputDirectory_returns (hd : d.WellFormed) (hsettings : settings.NulFree) {directory : String}
    (hdirectory : NoNul directory) (hcurrent : d.HasCurrent ∨ settings.Anchors directory) :
    ∃ place, d.outputDirectory directory settings.projectDirectory = .ok place ∧
      place.isAbsolute = true ∧ place.NulFree := by
  have hpath := Path.nulFree_ofString hdirectory
  cases habs : (Path.ofString directory).isAbsolute with
  | true => exact ⟨_, outputDirectory_eq_ok.2 (.inl ⟨habs, rfl⟩), habs, hpath⟩
  | false =>
    obtain ⟨base, hbase, hnul, hfrom⟩ := exists_isBase hd hsettings habs hcurrent
    obtain ⟨place, hplace, hrest⟩ := resolve_returns hd (hnul.append hpath)
      (hfrom.imp_left fun h => isAbsolute_append h _)
    exact ⟨place, outputDirectory_eq_ok.2 (.inr ⟨habs, base, hbase, hplace⟩), hrest⟩

/-- An order for the file, on a path that a disk can take. -/
structure OrderFor (d : Disk) (settings : Settings) (f : GeneratedFile) (o : Order) : Prop where
  goesTo : d.GoesTo settings f o.path
  content : o.content = f.content
  isAbsolute : o.path.isAbsolute = true
  nulFree : o.path.NulFree

theorem orders_returns (hd : d.WellFormed) (hsettings : settings.NulFree)
    (hcurrent : d.HasCurrent ∨ settings.Anchored) (target : SchemaBindings.Target)
    {directory : Option String}
    {files : List GeneratedFile} (hdirectory : ∀ dir, directory = some dir → NoNul dir)
    (htarget : settings.directoryFor target = directory.filter (!·.isEmpty))
    (hfiles : ∀ f ∈ files, settings.directoryFor f.target = directory.filter (!·.isEmpty))
    (hnames : ∀ f ∈ files, NoNul f.fileName) :
    ∃ orders, d.orders settings directory files = .ok orders ∧
      List.Forall₂ (d.OrderFor settings)
        (files.filter fun f => (settings.directoryFor f.target).isSome) orders := by
  unfold Disk.orders
  split
  · rename_i hnone
    refine ⟨[], rfl, ?_⟩
    rw [List.filter_eq_nil_iff.2 fun f hf => by rw [hfiles f hf, hnone]; exact Bool.false_ne_true]
    exact .nil
  · rename_i dir hdir
    obtain ⟨hsome, _⟩ := Option.filter_eq_some_iff.1 hdir
    obtain ⟨place, hplace, habs, hnul⟩ := outputDirectory_returns hd hsettings (hdirectory dir hsome)
      (hcurrent.imp_right fun h => h target dir (htarget.trans hdir))
    refine ⟨_, bind_eq_ok.2 ⟨place, hplace, rfl⟩, ?_⟩
    rw [List.filter_eq_self.2 fun f hf => by rw [hfiles f hf, hdir]; rfl, List.forall₂_map_right_iff,
      List.forall₂_same]
    intro f hf
    exact ⟨⟨dir, place, (hfiles f hf).trans hdir, hplace, rfl⟩, rfl, isAbsolute_append habs _,
      hnul.child (hnames f hf)⟩

theorem orders_selected (hd : d.WellFormed) (hsettings : settings.NulFree)
    (hcurrent : d.HasCurrent ∨ settings.Anchored) (hnames : ∀ f ∈ g.files, NoNul f.fileName) :
    ∃ main scripts, d.orders settings settings.outputDirectory (g.mainFiles settings) = .ok main ∧
      d.orders settings settings.typeScriptDirectory (g.filesFor .typeScript) = .ok scripts ∧
      List.Forall₂ (d.OrderFor settings) (g.selected settings) (main ++ scripts) := by
  have hmem : ∀ {target f}, f ∈ g.filesFor target → NoNul f.fileName :=
    fun hf => hnames _ (List.mem_of_mem_filter hf)
  have hfiles : ∀ f ∈ g.mainFiles settings, (f.target = .csharp ∨ f.target = .manifest) ∧
      NoNul f.fileName := by
    intro f hf
    rcases List.mem_append.1 hf with hf | hf
    · exact ⟨.inl (target_of_mem_filesFor hf), hmem hf⟩
    · split at hf
      · exact ⟨.inr (target_of_mem_filesFor hf), hmem hf⟩
      · cases hf
  have htarget : ∀ f ∈ g.mainFiles settings,
      settings.directoryFor f.target = settings.outputDirectory.filter (!·.isEmpty) := by
    intro f hf
    rcases (hfiles f hf).1 with htarget | htarget <;> rw [htarget] <;> rfl
  obtain ⟨main, hmain, hmainFor⟩ := orders_returns hd hsettings hcurrent .csharp hsettings.output rfl
    htarget fun f hf => (hfiles f hf).2
  have htarget' : ∀ f ∈ g.filesFor .typeScript,
      settings.directoryFor f.target = settings.typeScriptDirectory.filter (!·.isEmpty) := by
    intro f hf
    rw [target_of_mem_filesFor hf]
    rfl
  obtain ⟨scripts, hscripts, hscriptsFor⟩ := orders_returns hd hsettings hcurrent .typeScript
    hsettings.typeScript rfl htarget' fun f hf => hmem hf
  refine ⟨main, scripts, hmain, hscripts, ?_⟩
  unfold GenerationResult.selected
  rw [List.filter_append]
  exact List.rel_append hmainFor hscriptsFor

theorem writeResult_returns {main scripts : List Order}
    (hmain : d.orders settings settings.outputDirectory (g.mainFiles settings) = .ok main)
    (hscripts : d.orders settings settings.typeScriptDirectory (g.filesFor .typeScript) = .ok scripts)
    (hnul : ∀ o ∈ main ++ scripts, o.path.NulFree) :
    ∃ d' outcomes, d.writeResult settings g = (d', .ok outcomes) ∧
      d.writeAll (main ++ scripts) = (d', .ok outcomes) := by
  rw [List.forall_mem_append] at hnul
  obtain ⟨d₁, first, hfirst⟩ := writeAll_returns d hnul.1
  obtain ⟨d₂, second, hsecond⟩ := writeAll_returns d₁ hnul.2
  exact ⟨d₂, first ++ second, writeResult_of_writeAll hmain hscripts hfirst hsecond,
    writeAll_append hfirst hsecond⟩

theorem GoesTo.getLast?_settle {f : GeneratedFile} {p : Path} (h : d.GoesTo settings f p)
    (hname : '/' ∉ f.fileName.toList ∧ 2 < f.fileName.length) :
    (Path.settle p.steps).getLast? = some f.fileName := by
  obtain ⟨directory, place, _, _, rfl⟩ := h
  obtain ⟨hstep, hplain⟩ := Path.ofString_of_step hname.1 hname.2
  have hsteps : (place.child f.fileName).steps = place.steps ++ [f.fileName] := by
    unfold Path.child
    rw [hstep]
    rfl
  rw [hsteps, Path.settle_concat hplain, List.getLast?_concat]

/-- Files with different names go to different places, as those of a generation do. -/
theorem distinctPlaces_of_nodup
    (hnames : ∀ f ∈ g.files, '/' ∉ f.fileName.toList ∧ 2 < f.fileName.length)
    (hdistinct : (g.files.map GeneratedFile.fileName).Nodup) : d.DistinctPlaces settings g := by
  have hsub : (g.selected settings).Sublist _ := List.filter_sublist.trans (mainFiles_sublist g settings)
  have hperm := filesFor_perm g
  have hnodup := ((hperm.map GeneratedFile.fileName).nodup_iff.2 hdistinct).sublist (hsub.map _)
  have hstep : ∀ f ∈ g.selected settings, '/' ∉ f.fileName.toList ∧ 2 < f.fileName.length :=
    fun f hf => hnames f (hperm.mem_iff.1 (hsub.subset hf))
  refine (List.pairwise_map.1 hnodup).imp_of_mem ?_
  intro a b ha hb hne p q hp hq hsame
  apply hne
  have hlast := hp.getLast?_settle (hstep a ha)
  rw [hsame, hq.getLast?_settle (hstep b hb)] at hlast
  exact (Option.some.inj hlast).symm

end Disk

/-- A folder stands in the place of one file, and a file in the place of the folder of another one. -/
def blockedDisk : Disk where
  tree := .folder
    [("work", .folder [("out", .folder [("Item.cs", .folder [])]), ("web", .file ByteArray.empty)])]
  cwd := []

def blockedSettings : Settings where
  outputDirectory := some "out"
  typeScriptDirectory := some "web"
  projectDirectory := some "/work"
  writesManifest := true

def blockedResult : GenerationResult where
  files := [⟨"Item.cs", "class Item", "Item", .csharp⟩, ⟨"item.ts", "enum Item", "Item", .typeScript⟩,
    ⟨"Kind.cs", "class Kind", "Kind", .csharp⟩, ⟨Code.manifestFileName, "[]", "", .manifest⟩]

/-- What one would ask of a pass: that no text holds a return, no directory's name a NUL character, and
that no two files are for one path. -/
structure Disk.Asks (d : Disk) (settings : Settings) (g : GenerationResult) : Prop where
  wellFormed : d.WellFormed
  nulFree : settings.NulFree
  texts : ∀ f ∈ g.files, NoReturn f.content
  paths : d.DistinctPaths settings g

def rootDisk (cwd : List String) : Disk where
  tree := .folder []
  cwd

/-- Two ways to spell one directory. -/
def spelledSettings : Settings where
  outputDirectory := some "/out"
  typeScriptDirectory := some "/web/../out"

def twinResult : GenerationResult where
  files := [⟨"Item", "one", "Item", .csharp⟩, ⟨"Item", "two", "Item", .typeScript⟩]

def relativeSettings : Settings where
  outputDirectory := some "out"

def namedResult (fileName : String) : GenerationResult where
  files := [⟨fileName, "one", "Item", .csharp⟩]

theorem asks_spelledSettings : (rootDisk []).Asks spelledSettings twinResult where
  wellFormed := ⟨rfl, List.forall_mem_nil _⟩
  nulFree := by constructor <;> rintro directory ⟨⟩ <;> decide
  texts := by decide
  paths := by
    refine List.pairwise_pair.2 ?_
    rintro p q ⟨directory, place, hdirectory, hplace, rfl⟩
      ⟨directory', place', hdirectory', hplace', rfl⟩
    obtain rfl : "/out" = directory := Option.some.inj hdirectory
    obtain rfl : "/web/../out" = directory' := Option.some.inj hdirectory'
    obtain rfl : (⟨"/", ["out"]⟩ : Path) = place := Except.ok.inj hplace
    obtain rfl : (⟨"/", ["web", "..", "out"]⟩ : Path) = place' := Except.ok.inj hplace'
    decide

theorem asks_namedResult {cwd : List String} (hcwd : ∀ step ∈ cwd, NoNul step) (fileName : String) :
    (rootDisk cwd).Asks relativeSettings (namedResult fileName) where
  wellFormed := ⟨rfl, hcwd⟩
  nulFree := by
    constructor
    · rintro directory ⟨⟩
      decide
    · rintro directory ⟨⟩
    · rintro directory ⟨⟩
  texts := by
    unfold namedResult
    simp only [List.forall_mem_singleton]
    decide
  paths := List.pairwise_singleton _ _

end SchemaBindings

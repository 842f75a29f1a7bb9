import SchemaBindings.Proofs.Files.Discovery

/-!
Which scripts are found, and in which order. A folder that is passed over is not entered, which comes to a
condition on each step of the way to a script. Children are taken in the order of their names, which orders
the scripts by the names along their paths.
-/

namespace SchemaBindings

set_option autoImplicit false

open Text (lower)

namespace FileTree

variable {t c : FileTree} {cs : List (String × FileTree)} {name : String}
variable {ignored : String → Bool} {base place : List String}

theorem nodup_names (h : areProper cs = true) : (cs.map Prod.fst).Nodup := by
  induction cs with
  | nil => exact .nil
  | cons x rest ih =>
    obtain ⟨name, c⟩ := x
    obtain ⟨_, hnone, _, hrest⟩ := areProper_cons.1 h
    rw [List.map_cons, List.nodup_cons]
    refine ⟨?_, ih hrest⟩
    intro hmem
    obtain ⟨y, hy, hname⟩ := List.mem_map.1 hmem
    exact bne_iff_ne.1 (List.lookup_eq_none_iff.1 hnone y hy) hname.symm

theorem exists_of_mem_filesAt (hc : c.isProper = true) (h : place ∈ filesAt ignored base name c) :
    ∃ rest, place = base ++ name :: rest := by
  obtain ⟨rest, _, hplace, _⟩ := (mem_filesAt (mem_filesBelow hc)).1 h
  exact ⟨rest, hplace⟩

theorem pairwise_filesAt (hbelow : (c.filesBelow ignored (base ++ [name])).Pairwise (· < ·)) :
    (filesAt ignored base name c).Pairwise (· < ·) := by
  unfold filesAt
  split
  · exact .nil
  · cases c with
    | file b =>
      simp only
      split
      · exact .nil
      · exact List.pairwise_singleton _ _
    | folder ds =>
      simp only
      split
      · exact .nil
      · exact hbelow

/-- Scripts stand in the order of the names along their paths. -/
theorem pairwise_filesBelow (ht : t.isProper = true) : (t.filesBelow ignored base).Pairwise (· < ·) := by
  induction t using tree_induction generalizing base with
  | file b => exact .nil
  | folder cs ih =>
    have hproper : ∀ x ∈ cs, x.2.isProper = true :=
      fun x hx => isProper_of_lookup ht (lookup_of_mem ht hx)
    unfold filesBelow
    rw [childFiles_eq_map, List.pairwise_flatMap]
    constructor
    · intro y hy
      obtain ⟨x, hx, rfl⟩ := List.mem_map.1 (List.mem_mergeSort.1 hy)
      exact pairwise_filesAt (ih x hx (hproper x hx))
    · have hsorted := List.pairwise_mergeSort name_le_trans name_le_total
        (cs.map fun x => (x.1, filesAt ignored base x.1 x.2))
      have hnames : ((cs.map fun x => (x.1, filesAt ignored base x.1 x.2)).mergeSort
          fun a b => decide (a.1 ≤ b.1)).Pairwise fun a b => a.1 ≠ b.1 := by
        rw [← List.pairwise_map, ← List.Nodup, ((List.mergeSort_perm _ _).map Prod.fst).nodup_iff,
          List.map_map]
        exact nodup_names ht
      apply (hsorted.and hnames).imp_of_mem
      intro a b ha hb hab p hp q hq
      obtain ⟨x, hx, rfl⟩ := List.mem_map.1 (List.mem_mergeSort.1 ha)
      obtain ⟨y, hy, rfl⟩ := List.mem_map.1 (List.mem_mergeSort.1 hb)
      obtain ⟨rest, rfl⟩ := exists_of_mem_filesAt (hproper x hx) hp
      obtain ⟨rest', rfl⟩ := exists_of_mem_filesAt (hproper y hy) hq
      have hlt : x.1 < y.1 := lt_of_le_of_ne (of_decide_eq_true hab.1) hab.2
      exact List.append_left_lt (List.cons_lt_cons_iff.2 (.inl hlt))

/-- The file at the place is a script to be found: it has one of the endings, ignoring case, and nothing on
the way to it is passed over. -/
structure IsScript (t : FileTree) (ignored : String → Bool) (extensions place : List String) : Prop where
  file : ∃ b, t.get? place = some (.file b)
  wanted : ∃ ending ∈ extensions, lower ending = lower (Path.nameSuffix (place.getLast?.getD ""))
  reached : IsReached ignored [] place

theorem hasExtension_iff {extensions : List String} :
    hasExtension extensions name = true ↔
        ∃ ending ∈ extensions, lower ending = lower (Path.nameSuffix name) := by
  unfold hasExtension
  rw [List.contains_iff_mem, List.mem_map]

theorem mem_scripts {extensions : List String} (hcs : areProper cs = true) :
    place ∈ (folder cs).scripts ignored extensions ↔ (folder cs).IsScript ignored extensions place := by
  unfold scripts
  rw [List.mem_filter, mem_filesBelow (t := folder cs) hcs, hasExtension_iff]
  constructor
  · rintro ⟨⟨rest, b, _, rfl, hfile, hreached⟩, hwanted⟩
    exact ⟨⟨b, hfile⟩, hwanted, hreached⟩
  · rintro ⟨⟨b, hfile⟩, hwanted, hreached⟩
    refine ⟨⟨place, b, ?_, rfl, hfile, hreached⟩, hwanted⟩
    rintro rfl
    cases hfile

end FileTree

/-- A folder on the way to the place has the name, ignoring case. -/
def StandsIn (name : String) (place : List String) : Prop :=
  ∃ step ∈ place.dropLast, lower step = lower name

theorem liesIn_iff {name : String} {place : List String} :
    liesIn name place = true ↔ StandsIn name place := by
  unfold liesIn StandsIn Text.sameIgnoringCase
  simp only [List.any_eq_true, beq_iff_eq]

theorem mem_seeds {x : Discovery} {root p : Path} {found : List (List String)} :
    p ∈ (classify x root found).seeds ↔
      ∃ place ∈ found, StandsIn x.lookupsDirectory place ∧
          p = ⟨root.root, root.steps ++ place⟩ := by
  constructor
  · intro h
    obtain ⟨place, hplace, rfl⟩ := List.mem_map.1 h
    obtain ⟨hfound, hseed⟩ := List.mem_filter.1 hplace
    exact ⟨place, hfound, liesIn_iff.1 hseed, rfl⟩
  · rintro ⟨place, hfound, hseed, rfl⟩
    exact List.mem_map.2 ⟨place, List.mem_filter.2 ⟨hfound, liesIn_iff.2 hseed⟩, rfl⟩

theorem mem_tables {x : Discovery} {root p : Path} {found : List (List String)} :
    p ∈ (classify x root found).tables ↔
      ∃ place ∈ found, ¬ StandsIn x.lookupsDirectory place ∧ StandsIn x.tablesDirectory place ∧
        p = ⟨root.root, root.steps ++ place⟩ := by
  have hwanted : ∀ place, (!liesIn x.lookupsDirectory place && liesIn x.tablesDirectory place) = true ↔
      ¬ StandsIn x.lookupsDirectory place ∧ StandsIn x.tablesDirectory place := by
    intro place
    rw [Bool.and_eq_true, Bool.not_eq_true', ← Bool.not_eq_true, liesIn_iff, liesIn_iff]
  constructor
  · intro h
    obtain ⟨place, hplace, rfl⟩ := List.mem_map.1 h
    obtain ⟨hfound, htable⟩ := List.mem_filter.1 hplace
    obtain ⟨hseed, htable⟩ := (hwanted place).1 htable
    exact ⟨place, hfound, hseed, htable, rfl⟩
  · rintro ⟨place, hfound, hseed, htable, rfl⟩
    exact List.mem_map.2
      ⟨place, List.mem_filter.2 ⟨hfound, (hwanted place).2 ⟨hseed, htable⟩⟩, rfl⟩

theorem pairwise_classify (x : Discovery) (root : Path) {found : List (List String)}
    (h : found.Pairwise (· < ·)) :
    (classify x root found).seeds.Pairwise (fun p q => p.steps < q.steps) ∧
      (classify x root found).tables.Pairwise fun p q => p.steps < q.steps := by
  have hunder : ∀ wanted : List String → Bool,
      ((found.filter wanted).map fun place => Path.mk root.root (root.steps ++ place)).Pairwise
        fun p q => p.steps < q.steps := by
    intro wanted
    rw [List.pairwise_map]
    exact (h.filter wanted).imp List.append_left_lt
  exact ⟨hunder _, hunder _⟩

/-- Below a root just the scripts are found that nothing passes over, each once and in the order of the names
along its path, and they fall into seeds and tables by the folders that they stand in. On a disk these are the
scripts of a root that is there and has rules that can be read. -/
theorem scriptFiles_exact {cs : List (String × FileTree)} (hcs : (FileTree.folder cs).isProper = true)
    (ignored : String → Bool) (x : Discovery) (root : Path) {found : List (List String)}
    {files : ScriptFiles}
    (hfound : (FileTree.folder cs).scripts ignored x.extensions = found)
    (hfiles : classify x root found = files) :
    ((∀ place, place ∈ found ↔ (FileTree.folder cs).IsScript ignored x.extensions place) ∧
      found.Pairwise (· < ·)) ∧
    ((∀ p, p ∈ files.seeds ↔ ∃ place ∈ found, StandsIn x.lookupsDirectory place ∧
        p = ⟨root.root, root.steps ++ place⟩) ∧
      files.seeds.Pairwise fun p q => p.steps < q.steps) ∧
    ((∀ p, p ∈ files.tables ↔ ∃ place ∈ found, ¬ StandsIn x.lookupsDirectory place ∧
        StandsIn x.tablesDirectory place ∧ p = ⟨root.root, root.steps ++ place⟩) ∧
      files.tables.Pairwise fun p q => p.steps < q.steps) ∧
    ∀ (d : Disk) (rules : List IgnoreRule), d.resolve (.ofString x.schemaRoot) = .ok root →
      d.find root = .ok (.folder cs) → d.ignoreRules (root.child x.ignoreFile) = .ok rules →
      ignored = IgnoreRule.ignores rules →
      d.scripts root x.ignoreFile x.extensions = .ok found ∧ d.scriptFiles x.schemaRoot x = .ok files := by
  subst hfound hfiles
  have hordered : ((FileTree.folder cs).scripts ignored x.extensions).Pairwise (· < ·) :=
    (FileTree.pairwise_filesBelow hcs).filter _
  obtain ⟨hseeds, htables⟩ := pairwise_classify x root hordered
  refine ⟨⟨fun place => FileTree.mem_scripts hcs, hordered⟩, ⟨fun p => mem_seeds, hseeds⟩,
    ⟨fun p => mem_tables, htables⟩, ?_⟩
  rintro d rules hroot hfolder hrules rfl
  have hscripts : d.scripts root x.ignoreFile x.extensions = .ok _ :=
    Disk.scripts_eq_ok.2 ⟨cs, rules, hfolder, hrules, rfl⟩
  refine ⟨hscripts, ?_⟩
  unfold Disk.scriptFiles
  rw [hroot]
  exact bind_eq_ok.2 ⟨root, rfl, bind_eq_ok.2 ⟨_, hscripts, rfl⟩⟩

/-- Scripts, ignored ones and hidden ones, among them a script with the name of a folder that stands beside
it. -/
def projectTree : List (String × FileTree) :=
  [("a.sql", .file ByteArray.empty),
    (".vs", .folder [("Tables", .folder [("c.sql", .file ByteArray.empty)])]),
    ("bin", .folder [("Tables", .folder [("d.sql", .file ByteArray.empty)])]),
    ("tables", .folder [("k.sql", .file ByteArray.empty), ("k.txt", .file ByteArray.empty),
      ("old.sql", .file ByteArray.empty)]),
    ("a", .folder [("x.SQL", .file ByteArray.empty),
      ("Tables", .folder [("LOOKUPTABLES", .folder [("y.sql", .file ByteArray.empty)])])])]

def projectIgnores (path : String) : Bool := path == "bin/" || path == "tables/old.sql"

def projectDisk : Disk where
  tree := .folder [("db", .folder projectTree)]
  cwd := []

theorem filesBelow_projectTree {ignored : String → Bool}
    (h : ∀ path, path ≠ "bin/" → path ≠ "tables/old.sql" → ignored path = false) :
    (FileTree.folder projectTree).filesBelow ignored [] =
      [["a", "Tables", "LOOKUPTABLES", "y.sql"], ["a", "x.SQL"], ["a.sql"]]
        ++ (if ignored "bin/" then [] else [["bin", "Tables", "d.sql"]])
        ++ [["tables", "k.sql"], ["tables", "k.txt"]]
        ++ if ignored "tables/old.sql" then [] else [["tables", "old.sql"]] := by
  cases hbin : ignored "bin/" <;> cases hold : ignored "tables/old.sql" <;>
    simp [projectTree, FileTree.filesBelow, FileTree.childFiles, FileTree.isHidden, FileTree.relative,
      List.mergeSort, List.MergeSort.Internal.splitInTwo, hbin, hold, h]

def projectFiles : ScriptFiles where
  tables := [⟨"/", ["db", "bin", "Tables", "d.sql"]⟩, ⟨"/", ["db", "tables", "k.sql"]⟩,
    ⟨"/", ["db", "tables", "old.sql"]⟩]
  seeds := [⟨"/", ["db", "a", "Tables", "LOOKUPTABLES", "y.sql"]⟩]

theorem scriptFiles_projectTree :
    (∀ place,
      place ∈ [["a", "Tables", "LOOKUPTABLES", "y.sql"], ["a", "x.SQL"], ["a.sql"], ["tables", "k.sql"]] ↔
      (FileTree.folder projectTree).IsScript projectIgnores [".sql"] place) ∧
    projectDisk.scriptFiles "db" { schemaRoot := "db" } = .ok projectFiles := by
  have hcs : (FileTree.folder projectTree).isProper = true := by decide
  constructor
  · have hscripts : (FileTree.folder projectTree).scripts projectIgnores [".sql"] =
        [["a", "Tables", "LOOKUPTABLES", "y.sql"], ["a", "x.SQL"], ["a.sql"], ["tables", "k.sql"]] := by
      unfold FileTree.scripts
      rw [filesBelow_projectTree fun path hbin hold => by simp [projectIgnores, hbin, hold]]
      decide +kernel
    exact (scriptFiles_exact hcs projectIgnores { schemaRoot := "db" } ⟨"/", ["db"]⟩ hscripts rfl).1.1
  · have hscripts : (FileTree.folder projectTree).scripts (IgnoreRule.ignores []) [".sql"] =
        [["a", "Tables", "LOOKUPTABLES", "y.sql"], ["a", "x.SQL"], ["a.sql"], ["bin", "Tables", "d.sql"],
          ["tables", "k.sql"], ["tables", "old.sql"]] := by
      unfold FileTree.scripts
      rw [filesBelow_projectTree fun path _ _ => (rfl : IgnoreRule.ignores [] path = false)]
      decide +kernel
    have hdisk := (scriptFiles_exact hcs (IgnoreRule.ignores []) { schemaRoot := "db" } ⟨"/", ["db"]⟩
      hscripts (show _ = projectFiles by decide +kernel)).2.2.2
    exact (hdisk projectDisk [] (by decide +kernel) rfl rfl rfl).2

end SchemaBindings

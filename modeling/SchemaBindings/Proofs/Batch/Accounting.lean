import SchemaBindings.Proofs.Batch.ReadScripts
import SchemaBindings.Proofs.Batch.Returning

/-!
Nothing is lost in a generation. Every table is left out, is a duplicate or is kept; every kept table has
its files; every seed is used, belongs to a table that is left out or is reported; and every row of a used
seed is rendered or reported.
-/

namespace SchemaBindings

set_option autoImplicit false

open Text (lower sameIgnoringCase sameIgnoringCase_comm NumeralError)

/-- The fate of a table, told from the tables before it. -/
def fateAmong (settings : Settings) (earlier : List Table) (t : Table) : Fate :=
  if settings.excludes t.tableName then .excluded
  else if earlier.any fun u => !settings.excludes u.tableName && sameIgnoringCase u.tableName t.tableName
    then .duplicate
  else .kept

def tablesWith (fate : Fate) (plan : List (Table × Fate)) : List Table :=
  (plan.filter fun x => x.2 = fate).map Prod.fst

theorem sameIgnoringCase_trans {a b c : String} (hab : sameIgnoringCase a b = true)
    (hbc : sameIgnoringCase b c = true) : sameIgnoringCase a c = true := by
  unfold sameIgnoringCase at *
  rw [beq_iff_eq] at *
  exact hab.trans hbc

/-- The names seen so far are those of the tables before that are not excluded. -/
def Sees (settings : Settings) (seen : List String) (earlier : List Table) : Prop :=
  ∀ name, (seen.any fun n => sameIgnoringCase n name) =
    earlier.any fun u => !settings.excludes u.tableName && sameIgnoringCase u.tableName name

theorem fatesFrom_cons {settings : Settings} {seen : List String} {earlier : List Table}
    (h : Sees settings seen earlier) (t : Table) (rest : List Table) :
    fatesFrom settings seen (t :: rest) = (t, fateAmong settings earlier t) ::
      fatesFrom settings (if fateAmong settings earlier t = .kept then t.tableName :: seen
        else seen) rest := by
  rw [fatesFrom, fateAmong, ← h t.tableName]
  split
  · rfl
  · split
    · rfl
    · rfl

theorem Sees.step {settings : Settings} {seen : List String} {earlier : List Table}
    (h : Sees settings seen earlier) (t : Table) :
    Sees settings (if fateAmong settings earlier t = .kept then t.tableName :: seen else seen)
      (earlier ++ [t]) := by
  intro name
  unfold fateAmong
  rw [List.any_append, List.any_cons, List.any_nil, Bool.or_false, ← h name, ← h t.tableName]
  cases hexcluded : settings.excludes t.tableName with
  | true => simp
  | false =>
    cases hseen : seen.any fun n => sameIgnoringCase n t.tableName with
    | false => simp [Bool.or_comm]
    | true =>
      have hsame : sameIgnoringCase t.tableName name = true →
          (seen.any fun n => sameIgnoringCase n name) = true := by
        intro hname
        obtain ⟨n, hn, hnt⟩ := List.any_eq_true.1 hseen
        exact List.any_eq_true.2 ⟨n, hn, sameIgnoringCase_trans hnt hname⟩
      cases hname : sameIgnoringCase t.tableName name with
      | false => simp
      | true => simp [hsame hname]

theorem getElem?_fatesFrom {settings : Settings} {seen : List String} {earlier : List Table}
    (h : Sees settings seen earlier) (tables : List Table) {i : Nat} {t : Table}
    (ht : tables[i]? = some t) :
    (fatesFrom settings seen tables)[i]? = some (t, fateAmong settings (earlier ++ tables.take i) t) := by
  induction tables generalizing seen earlier i with
  | nil => cases ht
  | cons u rest ih =>
    rw [fatesFrom_cons h]
    cases i with
    | zero =>
      cases ht
      rw [List.getElem?_cons_zero, List.take_zero, List.append_nil]
    | succ i =>
      rw [List.getElem?_cons_succ] at ht ⊢
      rw [ih (h.step u) ht, List.take_succ_cons, List.append_assoc, List.singleton_append]

/-- A table is left out, a duplicate or kept for what stands before it. -/
theorem getElem?_fates (settings : Settings) (tables : List Table) {i : Nat} {t : Table}
    (ht : tables[i]? = some t) :
    (fates settings tables)[i]? = some (t, fateAmong settings (tables.take i) t) := by
  have hstart : Sees settings [] [] := fun _ => rfl
  exact getElem?_fatesFrom hstart tables ht

/-- The files of a kept table. -/
inductive TableFiles (sur : Surroundings) (t : Table) : List GeneratedFile → Prop
  | regular (h : findSeed? sur.seeds t.tableName = none) : TableFiles sur t [keyFile sur t,
      ⟨Code.bindingFileName t, Code.regularBinding t sur.settings.nameSpace sur.lookups sur.tables,
        t.tableName, .csharp⟩]
  | lookup {s : SourcedSeed} {c : Code.LookupClass} {entries : List Code.EnumEntry} {lines : List String}
      (h : findSeed? sur.seeds t.tableName = some s)
      (hclass : Code.lookupClass t s.seed sur.settings.nameSpace sur.lookups sur.tables
        sur.settings.keyFallback = .ok c)
      (hentries : Code.enumEntries t s.seed sur.settings.keyFallback = .ok entries)
      (hlines : Code.enumModuleLines t entries = .ok lines) :
      TableFiles sur t [keyFile sur t,
        ⟨Code.bindingFileName t, Code.fileText (c.lines (Code.bindingHeader t)), t.tableName, .csharp⟩,
        ⟨Code.typeScriptFileName t.tableName, Code.fileText lines, t.tableName, .typeScript⟩]

/-- What is reported about a table and the rows of its seed. -/
def tableDiagnostics (sur : Surroundings) : Table × Fate → List Diagnostic
  | (_, .excluded) => []
  | (t, .duplicate) => [⟨t.qualifiedName, .duplicateTable t.tableName⟩]
  | (t, .kept) => ((findSeed? sur.seeds t.tableName).map widthDiagnostics).getD []

def manifestEntries (files : List GeneratedFile) : List Code.ManifestEntry :=
  (files.filter fun f => f.target = .typeScript).map fun f => ⟨f.tableName, f.fileName, f.content⟩

/-- What the result of one table holds. -/
structure TableResult.Fits (sur : Surroundings) (x : Table × Fate) (r : TableResult) : Prop where
  files : if x.2 = .kept then TableFiles sur x.1 r.files else r.files = []
  manifest : r.manifest = manifestEntries r.files
  diagnostics : r.diagnostics = tableDiagnostics sur x

theorem tableResult_fits {sur : Surroundings} {x : Table × Fate} {r : TableResult}
    (h : tableResult sur x = .ok r) : r.Fits sur x := by
  obtain ⟨t, fate⟩ := x
  cases fate with
  | excluded =>
    cases h
    exact ⟨rfl, rfl, rfl⟩
  | duplicate =>
    cases h
    exact ⟨rfl, rfl, rfl⟩
  | kept =>
    cases hseed : findSeed? sur.seeds t.tableName with
    | none =>
      simp only [tableResult, hseed] at h
      cases h
      refine ⟨?_, rfl, ?_⟩
      · exact TableFiles.regular hseed
      · rw [tableDiagnostics, hseed]
        rfl
    | some s =>
      simp only [tableResult, hseed] at h
      unfold lookupResult at h
      obtain ⟨binding, hbinding, h⟩ := bind_eq_ok.1 h
      obtain ⟨script, hscript, h⟩ := bind_eq_ok.1 h
      unfold Code.lookupBinding at hbinding
      obtain ⟨c, hclass, hbinding⟩ := bind_eq_ok.1 hbinding
      unfold Code.enumModule at hscript
      obtain ⟨entries, hentries, hscript⟩ := bind_eq_ok.1 hscript
      obtain ⟨lines, hlines, hscript⟩ := bind_eq_ok.1 hscript
      obtain rfl := Except.ok.inj hbinding
      obtain rfl := Except.ok.inj hscript
      obtain rfl := Except.ok.inj h
      refine ⟨?_, rfl, ?_⟩
      · exact TableFiles.lookup hseed hclass hentries hlines
      · rw [tableDiagnostics, hseed]
        rfl

section
variable {sur : Surroundings} {plan : List (Table × Fate)} {results : List TableResult}

theorem tablesWith_cons (fate : Fate) (x : Table × Fate) (plan : List (Table × Fate)) :
    tablesWith fate (x :: plan) = if x.2 = fate then x.1 :: tablesWith fate plan
      else tablesWith fate plan := by
  unfold tablesWith
  rw [List.filter_cons]
  by_cases h : x.2 = fate
  · simp [h]
  · simp [h]

theorem TableFiles.ne_nil {t : Table} {files : List GeneratedFile} (h : TableFiles sur t files) :
    files.isEmpty = false := by
  cases h <;> rfl

/-- The files come group by group, one group for each kept table. -/
theorem exists_groups (h : List.Forall₂ (fun x r => r.Fits sur x) plan results) :
    ∃ groups, List.Forall₂ (TableFiles sur) (tablesWith .kept plan) groups ∧
      results.flatMap TableResult.files = groups.flatten ∧
      (results.filter fun r => !r.files.isEmpty).length = (tablesWith .kept plan).length := by
  induction h with
  | nil => exact ⟨[], .nil, rfl, rfl⟩
  | @cons x r plan results hfits _ ih =>
    obtain ⟨groups, hgroups, hfiles, hcount⟩ := ih
    have hown := hfits.files
    rw [tablesWith_cons, List.flatMap_cons, List.filter_cons]
    split at hown
    · rename_i hkept
      refine ⟨r.files :: groups, ?_, ?_, ?_⟩
      · rw [if_pos hkept]
        exact .cons hown hgroups
      · rw [hfiles, List.flatten_cons]
      · rw [if_pos hkept, hown.ne_nil]
        exact congrArg Nat.succ hcount
    · rename_i hkept
      refine ⟨groups, ?_, ?_, ?_⟩
      · rw [if_neg hkept]
        exact hgroups
      · rw [hown, hfiles, List.nil_append]
      · rw [if_neg hkept, hown]
        exact hcount

theorem manifestEntries_append (a b : List GeneratedFile) :
    manifestEntries (a ++ b) = manifestEntries a ++ manifestEntries b := by
  unfold manifestEntries
  rw [List.filter_append, List.map_append]

theorem flatMap_manifest (h : List.Forall₂ (fun x r => r.Fits sur x) plan results) :
    results.flatMap TableResult.manifest = manifestEntries (results.flatMap TableResult.files) := by
  induction h with
  | nil => rfl
  | cons hfits _ ih => rw [List.flatMap_cons, List.flatMap_cons, manifestEntries_append, ih, hfits.manifest]

theorem flatMap_diagnostics (h : List.Forall₂ (fun x r => r.Fits sur x) plan results) :
    results.flatMap TableResult.diagnostics = plan.flatMap (tableDiagnostics sur) := by
  induction h with
  | nil => rfl
  | cons hfits _ ih => rw [List.flatMap_cons, List.flatMap_cons, ih, hfits.diagnostics]

/-- The manifest has an entry for each kept table with a seed. -/
theorem length_manifestEntries {tables : List Table} {groups : List (List GeneratedFile)}
    (h : List.Forall₂ (TableFiles sur) tables groups) :
    (manifestEntries groups.flatten).length =
      (tables.filterMap fun t => findSeed? sur.seeds t.tableName).length := by
  induction h with
  | nil => rfl
  | cons hfiles _ ih =>
    rw [List.flatten_cons, manifestEntries_append, List.length_append, ih, List.filterMap_cons]
    cases hfiles with
    | regular hseed =>
      rw [hseed]
      exact Nat.zero_add _
    | lookup hseed =>
      rw [hseed]
      exact Nat.add_comm 1 _

end

def GenerationResult.reported (g : GenerationResult) (kind : String) : List Diagnostic :=
  g.diagnostics.filter fun d => d.issue.kind = kind

theorem Issue.kind_of_ofReading {i : Issue} (h : i.ofReading = true) :
    i.kind ≠ "duplicate_table" ∧ i.kind ≠ "row_width_mismatch" ∧ i.kind ≠ "orphan_seed" := by
  have hkinds : ∀ k ∈ ["read_error", "table_parse_error", "seed_parse_error", "unexpected_error",
      "duplicate_seed"], k ≠ "duplicate_table" ∧ k ≠ "row_width_mismatch" ∧
        k ≠ "orphan_seed" := by decide
  apply hkinds
  cases i with
  | unreadable e => simp [kind]
  | refused kind e => cases kind <;> simp [Issue.kind, SourceKind.name]
  | unexpected kind e => simp [Issue.kind]
  | duplicateSeed table first => simp [kind]
  | duplicateTable table => cases h
  | rowWidth row expected => cases h
  | orphanSeed table => cases h

theorem kind_widthDiagnostics {s : SourcedSeed} :
    ∀ d ∈ widthDiagnostics s, d.issue.kind = "row_width_mismatch" := by
  intro d hd
  obtain ⟨row, _, rfl⟩ := List.mem_map.1 hd
  rfl

theorem kind_orphanDiagnostics {p : ParsedSchema} :
    ∀ d ∈ orphanDiagnostics p, d.issue.kind = "orphan_seed" := by
  intro d hd
  obtain ⟨s, _, rfl⟩ := List.mem_map.1 hd
  rfl

theorem filter_kind_of_ne {ds : List Diagnostic} {kind other : String}
    (h : ∀ d ∈ ds, d.issue.kind = other)
    (hne : other ≠ kind) : (ds.filter fun d => d.issue.kind = kind) = [] := by
  rw [List.filter_eq_nil_iff]
  intro d hd
  rw [h d hd, decide_eq_true_eq]
  exact hne

theorem filter_kind_of_eq {ds : List Diagnostic} {kind : String} (h : ∀ d ∈ ds, d.issue.kind = kind) :
    (ds.filter fun d => d.issue.kind = kind) = ds := by
  rw [List.filter_eq_self]
  intro d hd
  rw [h d hd, decide_eq_true_eq]

/-- The seeds of the kept tables, in the order of the tables. -/
def usedSeeds (sur : Surroundings) (plan : List (Table × Fate)) : List SourcedSeed :=
  (tablesWith .kept plan).filterMap fun t => findSeed? sur.seeds t.tableName

section
variable {sur : Surroundings} (plan : List (Table × Fate))

theorem filter_duplicates : ((plan.flatMap (tableDiagnostics sur)).filter fun d =>
    d.issue.kind = "duplicate_table") =
      (tablesWith .duplicate plan).map fun t => ⟨t.qualifiedName, .duplicateTable t.tableName⟩ := by
  induction plan with
  | nil => rfl
  | cons x rest ih =>
    obtain ⟨t, fate⟩ := x
    rw [List.flatMap_cons, List.filter_append, ih, tablesWith_cons]
    cases fate with
    | excluded => rfl
    | duplicate => rfl
    | kept =>
      rw [tableDiagnostics]
      cases findSeed? sur.seeds t.tableName with
      | none => rfl
      | some s =>
        rw [Option.map_some, Option.getD_some, filter_kind_of_ne kind_widthDiagnostics (by decide)]
        rfl

theorem filter_widths : ((plan.flatMap (tableDiagnostics sur)).filter fun d =>
    d.issue.kind = "row_width_mismatch") = (usedSeeds sur plan).flatMap widthDiagnostics := by
  induction plan with
  | nil => rfl
  | cons x rest ih =>
    obtain ⟨t, fate⟩ := x
    rw [List.flatMap_cons, List.filter_append, ih, usedSeeds, usedSeeds, tablesWith_cons]
    cases fate with
    | excluded => rfl
    | duplicate => rfl
    | kept =>
      rw [tableDiagnostics, if_pos rfl, List.filterMap_cons]
      cases findSeed? sur.seeds t.tableName with
      | none => rfl
      | some s =>
        rw [Option.map_some, Option.getD_some, filter_kind_of_eq kind_widthDiagnostics]
        rfl

theorem filter_orphans : ((plan.flatMap (tableDiagnostics sur)).filter fun d =>
    d.issue.kind = "orphan_seed") = [] := by
  rw [List.filter_eq_nil_iff]
  intro d hd
  rw [decide_eq_true_eq]
  obtain ⟨⟨t, fate⟩, _, hd⟩ := List.mem_flatMap.1 hd
  cases fate with
  | excluded => cases hd
  | duplicate =>
    rw [List.mem_singleton.1 hd]
    change "duplicate_table" ≠ "orphan_seed"
    decide
  | kept =>
    rw [tableDiagnostics] at hd
    cases hseed : findSeed? sur.seeds t.tableName with
    | none =>
      rw [hseed] at hd
      cases hd
    | some s =>
      rw [hseed] at hd
      rw [kind_widthDiagnostics d hd]
      decide

end

theorem reported_assemble {p : ParsedSchema} {sur : Surroundings} {plan : List (Table × Fate)}
    {results : List TableResult} (hread : p.Read)
    (h : List.Forall₂ (fun x r => r.Fits sur x) plan results) {kind : String}
    (hkind : ∀ i : Issue, i.ofReading = true → i.kind ≠ kind) :
    (GenerationResult.assemble p results).reported kind =
      ((plan.flatMap (tableDiagnostics sur)).filter fun d => d.issue.kind = kind) ++
        (orphanDiagnostics p).filter fun d => d.issue.kind = kind := by
  have hparsed : (p.diagnostics.filter fun d => d.issue.kind = kind) = [] := by
    rw [List.filter_eq_nil_iff]
    intro d hd
    rw [decide_eq_true_eq]
    exact hkind d.issue (hread.diagnostics d hd)
  unfold GenerationResult.reported GenerationResult.assemble
  rw [List.filter_append, List.filter_append, hparsed, List.nil_append, flatMap_diagnostics h]

theorem filter_eq_singleton {α : Type} {R : α → α → Prop} {p : α → Bool} {l : List α} {a : α}
    (hl : l.Pairwise R) (ha : a ∈ l) (hp : p a = true)
    (hR : ∀ x y, p x = true → p y = true → ¬ R x y) :
    l.filter p = [a] := by
  have hmem : a ∈ l.filter p := List.mem_filter.2 ⟨ha, hp⟩
  have hpair := hl.filter p
  have hall : ∀ x ∈ l.filter p, p x = true := fun x hx => (List.mem_filter.1 hx).2
  generalize l.filter p = found at hmem hpair hall
  cases hpair with
  | nil => cases hmem
  | @cons x rest hx _ =>
    cases rest with
    | nil => rw [List.mem_singleton.1 hmem]
    | cons y more =>
      have hy := hall y (List.mem_cons_of_mem x List.mem_cons_self)
      exact (hR x y (hall x List.mem_cons_self) hy (hx y List.mem_cons_self)).elim

theorem sameIgnoringCase_symm {a b : String} (h : sameIgnoringCase a b = true) :
    sameIgnoringCase b a = true := by
  rw [sameIgnoringCase_comm]
  exact h

/-- The seed is for the table of the name. -/
def SourcedSeed.isFor (table : String) (s : SourcedSeed) : Bool := sameIgnoringCase s.seed.tableName table

theorem SourcedSeed.not_apart {table : String} {a b : SourcedSeed} (ha : a.isFor table = true)
    (hb : b.isFor table = true) : ¬ a.Apart b := by
  intro hapart
  rw [Apart, sameIgnoringCase_trans ha (sameIgnoringCase_symm hb)] at hapart
  cases hapart

theorem ParsedSchema.Read.seedFor?_eq_some {p : ParsedSchema} (hread : p.Read) {table : String}
    {s : SourcedSeed} : p.seedFor? table = some s ↔ s ∈ p.seeds ∧ s.isFor table = true := by
  have hfind : p.seedFor? table = p.seeds.find? (SourcedSeed.isFor table) := rfl
  rw [hfind]
  constructor
  · intro h
    exact ⟨List.mem_of_find?_eq_some h, List.find?_some h⟩
  · rintro ⟨hs, hfor⟩
    have hone := filter_eq_singleton hread.seeds hs hfor fun _ _ => SourcedSeed.not_apart
    rw [← List.head?_filter, hone]
    rfl

theorem contains_tableNames (tables : List Table) (name : String) :
    (NameSet.ofList (tables.map Table.tableName)).contains (lower name) =
      tables.any fun t => sameIgnoringCase name t.tableName := by
  rw [Bool.eq_iff_iff, NameSet.contains_ofList, List.any_eq_true, Text.lower_lower]
  constructor
  · rintro ⟨n, hn, hsame⟩
    obtain ⟨t, ht, rfl⟩ := List.mem_map.1 hn
    exact ⟨t, ht, beq_iff_eq.2 hsame.symm⟩
  · rintro ⟨t, ht, hsame⟩
    exact ⟨t.tableName, List.mem_map_of_mem ht, (beq_iff_eq.1 hsame).symm⟩

/-- No table has the seed's name. -/
def ParsedSchema.isOrphan (p : ParsedSchema) (s : SourcedSeed) : Bool :=
  !p.tables.any fun t => s.isFor t.tableName

theorem ParsedSchema.isOrphan_congr (p : ParsedSchema) {s s' : SourcedSeed}
    (h : s'.seed.tableName = s.seed.tableName) : p.isOrphan s' = p.isOrphan s := by
  simp only [isOrphan, SourcedSeed.isFor, h]

/-- Just the orphans among the seeds are reported, in an order of their own. -/
theorem orphanDiagnostics_perm_map (p : ParsedSchema) : (orphanDiagnostics p).Perm
    ((p.seeds.filter p.isOrphan).map fun s => ⟨s.path, .orphanSeed s.seed.tableName⟩) := by
  unfold orphanDiagnostics
  simp only [contains_tableNames]
  exact ((List.mergeSort_perm p.seeds _).filter _).map _

/-- A seed is reported, once, exactly when no table has its name. -/
theorem filter_orphanDiagnostics {p : ParsedSchema} (hread : p.Read) {s : SourcedSeed} (hs : s ∈ p.seeds) :
    ((orphanDiagnostics p).filter fun d => d.issue = .orphanSeed s.seed.tableName) =
      if p.isOrphan s then [⟨s.path, .orphanSeed s.seed.tableName⟩] else [] := by
  have hperm := (orphanDiagnostics_perm_map p).filter fun d => decide (d.issue = .orphanSeed s.seed.tableName)
  simp only [List.filter_map, List.filter_filter, Function.comp_def, Issue.orphanSeed.injEq] at hperm
  cases horphan : p.isOrphan s with
  | true =>
    have hone : (p.seeds.filter fun s' => decide (s'.seed.tableName = s.seed.tableName) && p.isOrphan s') =
        [s] := by
      refine filter_eq_singleton hread.seeds hs (by simp [horphan]) ?_
      intro a b ha hb hapart
      have ha' : a.seed.tableName = s.seed.tableName := of_decide_eq_true (Bool.and_eq_true_iff.1 ha).1
      have hb' : b.seed.tableName = s.seed.tableName := of_decide_eq_true (Bool.and_eq_true_iff.1 hb).1
      rw [SourcedSeed.Apart, ha', hb', Text.sameIgnoringCase_self] at hapart
      cases hapart
    rw [hone] at hperm
    exact List.perm_singleton.1 hperm
  | false =>
    have hnone : (p.seeds.filter fun s' => decide (s'.seed.tableName = s.seed.tableName) && p.isOrphan s') =
        [] := by
      rw [List.filter_eq_nil_iff]
      intro s' _ hs'
      obtain ⟨hname, hs'⟩ := Bool.and_eq_true_iff.1 hs'
      rw [p.isOrphan_congr (of_decide_eq_true hname), horphan] at hs'
      cases hs'
    rw [hnone] at hperm
    exact hperm.eq_nil

theorem mem_tablesWith {fate : Fate} {plan : List (Table × Fate)} {t : Table} :
    t ∈ tablesWith fate plan ↔ (t, fate) ∈ plan := by
  unfold tablesWith
  constructor
  · intro h
    obtain ⟨⟨u, f⟩, hmem, rfl⟩ := List.mem_map.1 h
    obtain ⟨hmem, hfate⟩ := List.mem_filter.1 hmem
    rwa [← of_decide_eq_true hfate]
  · intro h
    exact List.mem_map_of_mem (List.mem_filter.2 ⟨h, decide_eq_true rfl⟩)

theorem mem_fates {settings : Settings} {tables : List Table} {t : Table} {fate : Fate} :
    (t, fate) ∈ fates settings tables ↔
      ∃ i, tables[i]? = some t ∧ fateAmong settings (tables.take i) t = fate := by
  constructor
  · intro h
    obtain ⟨i, hi⟩ := List.mem_iff_getElem?.1 h
    have ht : tables[i]? = some t := by
      rw [← map_fst_fatesFrom settings [] tables, List.getElem?_map]
      exact congrArg (Option.map Prod.fst) hi
    rw [getElem?_fates settings tables ht] at hi
    exact ⟨i, ht, (Prod.mk.inj (Option.some.inj hi)).2⟩
  · rintro ⟨i, ht, rfl⟩
    exact List.mem_of_getElem? (getElem?_fates settings tables ht)

theorem excludes_congr (settings : Settings) {a b : String} (h : sameIgnoringCase a b = true) :
    settings.excludes a = settings.excludes b := by
  unfold Settings.excludes sameIgnoringCase at *
  rw [beq_iff_eq.1 h]

theorem excludes_of_kept {settings : Settings} {tables : List Table} {t : Table}
    (h : (t, Fate.kept) ∈ fates settings tables) : settings.excludes t.tableName = false := by
  obtain ⟨i, _, hfate⟩ := mem_fates.1 h
  unfold fateAmong at hfate
  split at hfate
  · cases hfate
  · rename_i hexcludes
    exact Bool.eq_false_iff.2 hexcludes

/-- Of the tables of a name that is not excluded the first is kept. -/
theorem kept_of_find? {settings : Settings} {tables : List Table} {name : String} {t : Table}
    (h : (tables.find? fun t => sameIgnoringCase t.tableName name) = some t)
    (hexcludes : settings.excludes name = false) : (t, Fate.kept) ∈ fates settings tables := by
  obtain ⟨hsame, earlier, later, htables, hearlier⟩ := List.find?_eq_some_iff_append.1 h
  refine mem_fates.2 ⟨earlier.length, ?_, ?_⟩
  · rw [htables, List.getElem?_append_right (Nat.le_refl _), Nat.sub_self, List.getElem?_cons_zero]
  · have hnone : (earlier.any fun u =>
        !settings.excludes u.tableName && sameIgnoringCase u.tableName t.tableName) = false := by
      rw [List.any_eq_false]
      intro u hu hsees
      have hother := sameIgnoringCase_trans (Bool.and_eq_true_iff.1 hsees).2 hsame
      have hfree := hearlier u hu
      rw [hother] at hfree
      cases hfree
    rw [htables, List.take_left, fateAmong, excludes_congr settings hsame, hexcludes, hnone]
    rfl

theorem kept_apart (settings : Settings) (tables : List Table) :
    (tablesWith .kept (fates settings tables)).Pairwise fun t u =>
      sameIgnoringCase t.tableName u.tableName = false := by
  unfold tablesWith
  rw [List.pairwise_map]
  have hkept : ∀ x ∈ (fates settings tables).filter fun x => x.2 = .kept, x.2 = .kept :=
    fun x hx => of_decide_eq_true (List.mem_filter.1 hx).2
  refine List.Pairwise.imp_of_mem ?_ ((fatesFrom_apart settings [] tables).filter _)
  intro x y hx hy hapart
  exact hapart (hkept x hx) (hkept y hy)

def keptFor (p : ParsedSchema) (settings : Settings) (s : SourcedSeed) : List Table :=
  (tablesWith .kept (fates settings p.tables)).filter fun t => p.seedFor? t.tableName = some s

def GenerationResult.orphansFor (g : GenerationResult) (s : SourcedSeed) : List Diagnostic :=
  (g.reported "orphan_seed").filter fun d => d.issue = .orphanSeed s.seed.tableName

/-- What becomes of a seed. -/
inductive SeedUse (p : ParsedSchema) (settings : Settings) (g : GenerationResult) (s : SourcedSeed) : Prop
  | used {t : Table} (hkept : keptFor p settings s = [t])
      (hexcluded : settings.excludes s.seed.tableName = false) (horphan : g.orphansFor s = [])
  | excluded {t : Table} (ht : t ∈ p.tables) (hfor : s.isFor t.tableName = true)
      (hexcluded : settings.excludes t.tableName = true) (hkept : keptFor p settings s = [])
      (horphan : g.orphansFor s = [])
  | orphan (hnone : ∀ t ∈ p.tables, s.isFor t.tableName = false) (hkept : keptFor p settings s = [])
      (horphan : g.orphansFor s = [⟨s.path, .orphanSeed s.seed.tableName⟩])

/-- The account of a generation: what its result says about each table, seed and row of the schema. -/
structure Accounting (p : ParsedSchema) (settings : Settings) (g : GenerationResult) : Prop where
  fate : ∀ (i : Nat) (t : Table), p.tables[i]? = some t →
    (fates settings p.tables)[i]? = some (t, fateAmong settings (p.tables.take i) t)
  duplicates : g.reported "duplicate_table" = (tablesWith .duplicate (fates settings p.tables)).map
    fun t => ⟨t.qualifiedName, .duplicateTable t.tableName⟩
  files : ∃ groups, List.Forall₂ (TableFiles (p.surroundings settings))
      (tablesWith .kept (fates settings p.tables)) groups ∧
    g.files = groups.flatten ++
      if (usedSeeds (p.surroundings settings) (fates settings p.tables)).isEmpty then []
      else [⟨Code.manifestFileName, Code.manifest (manifestEntries groups.flatten), "", .manifest⟩]
  tableCount : g.tableCount = (tablesWith .kept (fates settings p.tables)).length
  lookupCount : g.lookupCount = (usedSeeds (p.surroundings settings) (fates settings p.tables)).length
  seeds : ∀ s ∈ p.seeds, SeedUse p settings g s
  widths : g.reported "row_width_mismatch" =
    (usedSeeds (p.surroundings settings) (fates settings p.tables)).flatMap widthDiagnostics
  rows : ∀ t ∈ tablesWith .kept (fates settings p.tables), ∀ s, p.seedFor? t.tableName = some s →
    ∃ c entries, Code.lookupClass t s.seed settings.nameSpace (p.surroundings settings).lookups
        (p.surroundings settings).tables settings.keyFallback = .ok c ∧
      Code.enumEntries t s.seed settings.keyFallback = .ok entries ∧
      c.instances.length + (widthDiagnostics s).length = s.seed.rows.length ∧
      entries.length + (widthDiagnostics s).length = s.seed.rows.length
  first : p.diagnostics <+: g.diagnostics

section
variable {p : ParsedSchema} {settings : Settings} {s : SourcedSeed} {t : Table}

theorem mem_keptFor (hread : p.Read) : t ∈ keptFor p settings s ↔
    (t, Fate.kept) ∈ fates settings p.tables ∧ s ∈ p.seeds ∧ s.isFor t.tableName = true := by
  rw [keptFor, List.mem_filter, mem_tablesWith, decide_eq_true_iff, hread.seedFor?_eq_some]

theorem keptFor_eq_nil (hread : p.Read)
    (h : ∀ t, (t, Fate.kept) ∈ fates settings p.tables → s.isFor t.tableName = false) :
    keptFor p settings s = [] := by
  rw [List.eq_nil_iff_forall_not_mem]
  intro t ht
  obtain ⟨hkept, _, hfor⟩ := (mem_keptFor hread).1 ht
  rw [h t hkept] at hfor
  cases hfor

/-- Kept tables differ in their names, so a seed is for one of them at most. -/
theorem keptFor_eq_singleton (hread : p.Read) (hs : s ∈ p.seeds)
    (hkept : (t, Fate.kept) ∈ fates settings p.tables)
    (hfor : s.isFor t.tableName = true) : keptFor p settings s = [t] := by
  refine filter_eq_singleton (kept_apart settings p.tables) (mem_tablesWith.2 hkept) ?_ ?_
  · exact decide_eq_true (hread.seedFor?_eq_some.2 ⟨hs, hfor⟩)
  · intro u v hu hv hapart
    have hu' := (hread.seedFor?_eq_some.1 (of_decide_eq_true hu)).2
    have hv' := (hread.seedFor?_eq_some.1 (of_decide_eq_true hv)).2
    rw [sameIgnoringCase_trans (sameIgnoringCase_symm hu') hv'] at hapart
    cases hapart

end

theorem seedUse_of_orphans {p : ParsedSchema} {settings : Settings} {g : GenerationResult} (hread : p.Read)
    (horphans : g.reported "orphan_seed" = orphanDiagnostics p) {s : SourcedSeed} (hs : s ∈ p.seeds) :
    SeedUse p settings g s := by
  have horphan := filter_orphanDiagnostics hread hs
  rw [← horphans] at horphan
  cases htable : p.tables.find? fun t => sameIgnoringCase t.tableName s.seed.tableName with
  | none =>
    have hnone : ∀ t ∈ p.tables, s.isFor t.tableName = false := by
      intro t ht
      rw [SourcedSeed.isFor, sameIgnoringCase_comm]
      exact Bool.eq_false_iff.2 (List.find?_eq_none.1 htable t ht)
    refine .orphan hnone (keptFor_eq_nil hread fun t ht => hnone t (mem_of_mem_fates ht)) ?_
    rw [if_pos (by simpa [ParsedSchema.isOrphan] using hnone)] at horphan
    exact horphan
  | some t =>
    obtain ⟨hsame, _⟩ := List.find?_eq_some_iff_append.1 htable
    have hmem := List.mem_of_find?_eq_some htable
    have hfor : s.isFor t.tableName = true := sameIgnoringCase_symm hsame
    rw [ParsedSchema.isOrphan, List.any_eq_true.2 ⟨t, hmem, hfor⟩, Bool.not_true,
      if_neg Bool.false_ne_true] at horphan
    cases hexcludes : settings.excludes s.seed.tableName with
    | true =>
      refine .excluded hmem hfor ?_ (keptFor_eq_nil hread fun u hu => ?_) horphan
      · rw [excludes_congr settings hsame, hexcludes]
      · refine Bool.eq_false_iff.2 fun hforu => ?_
        have hfree := excludes_of_kept hu
        rw [← excludes_congr settings hforu, hexcludes] at hfree
        cases hfree
    | false =>
      exact .used (keptFor_eq_singleton hread hs (kept_of_find? htable hexcludes) hfor) hexcludes horphan

theorem length_of_mapM_eq_ok {ε α β : Type} {f : α → Except ε β} {as : List α} {bs : List β}
    (h : as.mapM f = .ok bs) : bs.length = as.length :=
  (forall₂_of_mapM_eq_ok h).length_eq.symm

theorem length_widthDiagnostics (s : SourcedSeed) :
    s.seed.matchingRows.length + (widthDiagnostics s).length = s.seed.rows.length := by
  unfold widthDiagnostics
  rw [List.length_map]
  exact s.seed.length_matchingRows_add_mismatchedRows

theorem rows_of_tableFiles {sur : Surroundings} {t : Table} {files : List GeneratedFile} {s : SourcedSeed}
    (h : TableFiles sur t files) (hs : findSeed? sur.seeds t.tableName = some s) :
    ∃ c entries, Code.lookupClass t s.seed sur.settings.nameSpace sur.lookups sur.tables
        sur.settings.keyFallback = .ok c ∧
      Code.enumEntries t s.seed sur.settings.keyFallback = .ok entries ∧
      c.instances.length + (widthDiagnostics s).length = s.seed.rows.length ∧
      entries.length + (widthDiagnostics s).length = s.seed.rows.length := by
  cases h with
  | regular hnone =>
    rw [hs] at hnone
    cases hnone
  | @lookup s' c entries _ hs' hclass hentries _ =>
    obtain rfl : s' = s := Option.some.inj (hs'.symm.trans hs)
    have hinstances : c.instances.length = s'.seed.matchingRows.length := by
      unfold Code.lookupClass at hclass
      obtain ⟨instances, hinstances, hclass⟩ := bind_eq_ok.1 hclass
      obtain rfl := Except.ok.inj hclass
      exact length_of_mapM_eq_ok hinstances
    have hlength : entries.length = s'.seed.matchingRows.length := by
      rw [Code.enumEntries_eq_mapM] at hentries
      rw [length_of_mapM_eq_ok hentries, List.length_zipIdx]
    refine ⟨c, entries, hclass, hentries, ?_, ?_⟩
    · rw [hinstances, length_widthDiagnostics]
    · rw [hlength, length_widthDiagnostics]

theorem exists_generate_of_isOk {p : ParsedSchema} {settings : Settings}
    (h : (generate p settings none).isOk = true) :
    ∃ g, generate p settings none = .ok (some (g, none)) := by
  obtain ⟨x, hx⟩ := exists_eq_ok_of_isOk h
  obtain ⟨g, rfl⟩ := generate_unstopped hx
  exact ⟨g, hx⟩

/-- Tables of every fate, and seeds for a kept one, for one that is left out and for none. -/
def mixedScripts : List Source × List Source :=
  ([⟨"Kind.sql", "CREATE TABLE dbo.Kind (KindID int)"⟩, ⟨"Kind2.sql", "CREATE TABLE x.KIND (ID int)"⟩,
      ⟨"Log.sql", "CREATE TABLE dbo.Log (LogID int)"⟩,
      ⟨"Item.sql", "CREATE TABLE dbo.Item (ItemID int)"⟩],
    [⟨"Kinds.sql", "MERGE INTO dbo.kind AS t USING (VALUES (1, 'One'), (2)) AS s (KindID, KindName)"⟩,
      ⟨"Logs.sql", "MERGE INTO dbo.Log AS t USING (VALUES (1, 'One')) AS s (LogID, LogName)"⟩,
      ⟨"Lost.sql", "MERGE INTO dbo.Lost AS t USING (VALUES (1, 'One')) AS s (LostID, LostName)"⟩])

end SchemaBindings

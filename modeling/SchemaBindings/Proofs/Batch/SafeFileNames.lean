import SchemaBindings.Proofs.Batch.Accounting
import SchemaBindings.Proofs.Text.SmallForms

/-!
The files of a generation can be written side by side wherever their names are told apart but for case. When
the tables are named by words of ASCII, no two files have one name, ignoring case, and each name is one step
of a path.
-/

namespace SchemaBindings

set_option autoImplicit false

open Text (lower lowerChar lowerChars sameIgnoringCase isCapital isWordChar)
open Script (isAsciiWord)

/-- A word of letters, digits and underscores of ASCII. -/
structure IsAsciiWord (s : String) : Prop where
  nonempty : s.toList ≠ []
  chars : ∀ c ∈ s.toList, isAsciiWord c = true

theorem IsAsciiWord.isAscii {s : String} (h : IsAsciiWord s) : IsAscii s :=
  fun c hc => Script.toNat_lt_of_isAsciiWord (h.chars c hc)

theorem IsAsciiWord.isWord {s : String} (h : IsAsciiWord s) : IsWord s :=
  ⟨h.nonempty, fun c hc => Script.isWordChar_of_isAsciiWord (h.chars c hc)⟩

namespace Code

theorem lowerChar_of_isAsciiWord {c : Char} (h : isAsciiWord c = true) : lowerChar c = [c.toLower] :=
  if_pos (Script.toNat_lt_of_isAsciiWord h)

theorem toLower_of_isAsciiWord {c : Char} (h : isAsciiWord c = true) :
    isAsciiWord c.toLower = true ∧ c.toLower.toLower = c.toLower :=
  Script.forall_asciiWord (p := fun c => isAsciiWord c.toLower = true ∧ c.toLower.toLower = c.toLower)
    (by decide) h

/-- A character of a name with hyphens is a hyphen, or a small one of a word. -/
def IsKebabChar (c : Char) : Prop := c = '-' ∨ isAsciiWord c = true ∧ c.toLower = c

theorem isKebabChar_of_mem {c d : Char} (hc : isAsciiWord c = true)
    (hd : d ∈ kebabFirst c ∨ d ∈ kebabRest c) : IsKebabChar d := by
  have hsmall := toLower_of_isAsciiWord hc
  have hsame : isCapital c = false → c.toLower = c := by
    intro hcapital
    rw [Text.isCapital_ascii (Script.toNat_lt_of_isAsciiWord hc)] at hcapital
    exact Char.toLower_eq_of_not_isUpper (Bool.eq_false_iff.1 hcapital)
  unfold kebabFirst kebabRest at hd
  rw [lowerChar_of_isAsciiWord hc] at hd
  split at hd
  · simp only [List.mem_cons, List.not_mem_nil, or_false] at hd
    rcases hd with rfl | rfl | rfl
    · exact .inr hsmall
    · exact .inl rfl
    · exact .inr hsmall
  · rename_i hcapital
    simp only [List.mem_cons, List.not_mem_nil, or_false, or_self] at hd
    subst hd
    exact .inr ⟨hc, hsame (Bool.eq_false_iff.2 hcapital)⟩

theorem isKebabChar_of_mem_kebabCase {name : String} (h : IsAsciiWord name) :
    ∀ d ∈ (kebabCase name).toList, IsKebabChar d := by
  obtain ⟨c, rest, hname⟩ := List.exists_cons_of_ne_nil h.nonempty
  have hchars := h.chars
  rw [hname, List.forall_mem_cons] at hchars
  rw [toList_kebabCase hname]
  intro d hd
  rcases List.mem_append.1 hd with hd | hd
  · exact isKebabChar_of_mem hchars.1 (.inl hd)
  · obtain ⟨e, he, hd⟩ := List.mem_flatMap.1 hd
    exact isKebabChar_of_mem (hchars.2 e he) (.inr hd)

theorem isAscii_kebabCase {name : String} (h : IsAsciiWord name) : IsAscii (kebabCase name) := by
  intro d hd
  rcases isKebabChar_of_mem_kebabCase h d hd with rfl | ⟨hword, _⟩
  · decide
  · exact Script.toNat_lt_of_isAsciiWord hword

theorem lower_kebabCase {name : String} (h : IsAsciiWord name) : lower (kebabCase name) = kebabCase name := by
  have hfixed : (kebabCase name).toList.map Char.toLower = (kebabCase name).toList := by
    refine (List.map_congr_left fun d hd => ?_).trans (List.map_id _)
    rcases isKebabChar_of_mem_kebabCase h d hd with rfl | ⟨_, hsmall⟩
    · decide
    · exact hsmall
  rw [lower, Text.lowerChars_ascii (isAscii_kebabCase h), hfixed, String.ofList_toList]

/-- A file name has its table's name in it, as it is or with hyphens, and one of three endings. -/
theorem FileOf.parts {table name : String} (h : FileOf table name) (ht : IsAsciiWord table) :
    ∃ base ending, name = base ++ ending ∧ IsAscii base ∧ IsAscii ending ∧ 2 < ending.length ∧
      (∀ c ∈ base.toList, isAsciiWord c = true ∨ c = '-') ∧
      (∀ c ∈ ending.toList, isAsciiWord c = true ∨ c = '-' ∨ c = '.') := by
  have hword : ∀ c ∈ table.toList, isAsciiWord c = true ∨ c = '-' := fun c hc => .inl (ht.chars c hc)
  cases h with
  | key => exact ⟨table, "PrimaryKey.cs", rfl, ht.isAscii, by decide, by decide, hword, by decide⟩
  | binding => exact ⟨table, ".Binding.cs", rfl, ht.isAscii, by decide, by decide, hword, by decide⟩
  | script =>
    refine ⟨kebabCase table, "-enum.ts", rfl, isAscii_kebabCase ht, by decide, by decide, ?_, by decide⟩
    intro c hc
    rcases isKebabChar_of_mem_kebabCase ht c hc with hhyphen | ⟨hword, _⟩
    · exact .inr hhyphen
    · exact .inl hword

/-- A name that stands for a file in a directory, on every system. -/
structure SafeName (name : String) : Prop where
  slash : '/' ∉ name.toList
  backslash : '\\' ∉ name.toList
  ne_here : name ≠ "."
  ne_above : name ≠ ".."

theorem safeName_of_chars {name : String} (hlength : 2 < name.length)
    (h : ∀ c ∈ name.toList, isAsciiWord c = true ∨ c = '-' ∨ c = '.') : SafeName name where
  slash hmem := absurd (h '/' hmem) (by decide)
  backslash hmem := absurd (h '\\' hmem) (by decide)
  ne_here heq := by
    rw [heq] at hlength
    exact absurd hlength (by decide)
  ne_above heq := by
    rw [heq] at hlength
    exact absurd hlength (by decide)

theorem FileOf.safeName {table name : String} (h : FileOf table name) (ht : IsAsciiWord table) :
    SafeName name := by
  obtain ⟨base, ending, rfl, _, _, hlength, hbase, hending⟩ := h.parts ht
  refine safeName_of_chars ?_ ?_
  · rw [String.length_append]
    omega
  · intro c hc
    rcases List.mem_append.1 (String.toList_append ▸ hc) with hc | hc
    · exact (hbase c hc).imp_right .inl
    · exact hending c hc

theorem safeName_manifestFileName : SafeName manifestFileName :=
  safeName_of_chars (by decide) (by decide)

section
variable {a b e f : String}

theorem lower_ne_lower (ha : IsAscii a) (hb : IsAscii b) (he : IsAscii e) (hf : IsAscii f)
    (hef : ¬ (lower e).toList <:+ (lower f).toList) (hfe : ¬ (lower f).toList <:+ (lower e).toList) :
    lower (a ++ e) ≠ lower (b ++ f) := by
  rw [lower_append_of_isAscii ha he, lower_append_of_isAscii hb hf]
  exact append_ne_append hef hfe

theorem lower_key_ne_binding (ha : IsAsciiWord a) (hb : IsAsciiWord b) :
    lower (a ++ "PrimaryKey.cs") ≠ lower (b ++ ".Binding.cs") :=
  lower_ne_lower ha.isAscii hb.isAscii (by decide) (by decide) (by decide) (by decide)

theorem lower_key_ne_script (ha : IsAsciiWord a) (hb : IsAsciiWord b) :
    lower (a ++ "PrimaryKey.cs") ≠ lower (typeScriptFileName b) :=
  lower_ne_lower ha.isAscii (isAscii_kebabCase hb) (by decide) (by decide) (by decide) (by decide)

theorem lower_binding_ne_script (ha : IsAsciiWord a) (hb : IsAsciiWord b) :
    lower (a ++ ".Binding.cs") ≠ lower (typeScriptFileName b) :=
  lower_ne_lower ha.isAscii (isAscii_kebabCase hb) (by decide) (by decide) (by decide) (by decide)

theorem FileOf.lower_ne_manifest {name : String} (h : FileOf a name) (ha : IsAsciiWord a) :
    lower name ≠ lower manifestFileName := by
  have hmanifest : manifestFileName = "TypeScriptEnums" ++ ".manifest.json" := by decide
  have hstem : IsAscii "TypeScriptEnums" := by decide
  rw [hmanifest]
  cases h with
  | key => exact lower_ne_lower ha.isAscii hstem (by decide) (by decide) (by decide) (by decide)
  | binding => exact lower_ne_lower ha.isAscii hstem (by decide) (by decide) (by decide) (by decide)
  | script =>
    exact lower_ne_lower (isAscii_kebabCase ha) hstem (by decide) (by decide) (by decide) (by decide)

theorem lower_append_left_inj (ha : IsAscii a) (hb : IsAscii b) (he : IsAscii e) :
    lower (a ++ e) = lower (b ++ e) ↔ lower a = lower b := by
  rw [lower_append_of_isAscii ha he, lower_append_of_isAscii hb he, String.append_left_inj]

/-- A file name tells its table's name but for case, and so do its small letters. -/
theorem FileOf.sameTable {name other : String} (h : FileOf a name) (h' : FileOf b other)
    (ha : IsAsciiWord a) (hb : IsAsciiWord b) (heq : lower name = lower other) :
    Text.sameIgnoringCase a b = true := by
  cases h with
  | key =>
    cases h' with
    | key => exact beq_iff_eq.2 ((lower_append_left_inj ha.isAscii hb.isAscii (by decide)).1 heq)
    | binding => exact (lower_key_ne_binding ha hb heq).elim
    | script => exact (lower_key_ne_script ha hb heq).elim
  | binding =>
    cases h' with
    | key => exact (lower_key_ne_binding hb ha heq.symm).elim
    | binding => exact beq_iff_eq.2 ((lower_append_left_inj ha.isAscii hb.isAscii (by decide)).1 heq)
    | script => exact (lower_binding_ne_script ha hb heq).elim
  | script =>
    cases h' with
    | key => exact (lower_key_ne_script hb ha heq.symm).elim
    | binding => exact (lower_binding_ne_script hb ha heq.symm).elim
    | script =>
      have hkebab := (lower_append_left_inj (isAscii_kebabCase ha) (isAscii_kebabCase hb) (by decide)).1 heq
      rw [lower_kebabCase ha, lower_kebabCase hb] at hkebab
      exact sameIgnoringCase_of_kebabCase ha.isWord hb.isWord hkebab

end

end Code

/-- The names of two files differ, also ignoring case. -/
def GeneratedFile.Apart (f f' : GeneratedFile) : Prop := sameIgnoringCase f.fileName f'.fileName = false

theorem GeneratedFile.apart_iff {f f' : GeneratedFile} :
    f.Apart f' ↔ lower f.fileName ≠ lower f'.fileName :=
  beq_eq_false_iff_ne

theorem tableResult_apart {sur : Surroundings} {x : Table × Fate} {r : TableResult}
    (ht : IsAsciiWord x.1.tableName) (h : tableResult sur x = .ok r) :
    r.files.Pairwise GeneratedFile.Apart := by
  have hkey : lower (Code.keyClassFileName x.1) ≠ lower (Code.bindingFileName x.1) :=
    Code.lower_key_ne_binding ht ht
  have hscript : lower (Code.keyClassFileName x.1) ≠ lower (Code.typeScriptFileName x.1.tableName) :=
    Code.lower_key_ne_script ht ht
  have hbinding : lower (Code.bindingFileName x.1) ≠ lower (Code.typeScriptFileName x.1.tableName) :=
    Code.lower_binding_ne_script ht ht
  rcases tableResult_files h with hfiles | ⟨_, hfiles | ⟨_, _, _, _, _, _, hfiles⟩⟩
  · rw [hfiles]
    exact .nil
  · rw [hfiles]
    simp [GeneratedFile.apart_iff, keyFile, hkey]
  · rw [hfiles]
    simp [GeneratedFile.apart_iff, keyFile, hkey, hscript, hbinding]

/-- The files of tables that are named by words of ASCII can stand in one directory, on a system that
tells names apart by case and on one that does not. -/
theorem generate_fileNames {p : ParsedSchema} {settings : Settings} {g : GenerationResult}
    {signal later : Signal} (hnames : ∀ t ∈ p.tables, IsAsciiWord t.tableName)
    (h : generate p settings signal = .ok (some (g, later))) :
    (g.files.Pairwise fun f f' => sameIgnoringCase f.fileName f'.fileName = false) ∧
      ∀ f ∈ g.files, Code.SafeName f.fileName := by
  obtain ⟨results, hresults, rfl⟩ := generate_eq_ok h
  have hplan : ∀ x ∈ fates settings p.tables, IsAsciiWord x.1.tableName :=
    fun x hx => hnames x.1 (mem_of_mem_fates hx)
  have hfile : ∀ f ∈ results.flatMap TableResult.files,
      ∃ table, IsAsciiWord table ∧ Code.FileOf table f.fileName := by
    intro f hf
    obtain ⟨r, hr, hf⟩ := List.mem_flatMap.1 hf
    obtain ⟨x, hx, hxr⟩ := mem_of_mapM_eq_ok hresults r hr
    exact ⟨x.1.tableName, hplan x hx, (fileOf_tableResult hxr f hf).2⟩
  have htables : (results.flatMap TableResult.files).Pairwise GeneratedFile.Apart := by
    refine pairwise_results (fatesFrom_apart settings [] p.tables) hresults ?_ ?_
    · exact fun x hx r hr => tableResult_apart (hplan x hx) hr
    · intro x hx y hy hapart f f' hf hf'
      refine GeneratedFile.apart_iff.2 fun heq => ?_
      rw [hf.sameTable hf' (hplan x hx) (hplan y hy) heq] at hapart
      cases hapart
  constructor
  · refine List.pairwise_append.2 ⟨htables, ?_, ?_⟩
    · unfold GenerationResult.manifestFiles
      split
      · exact .nil
      · exact List.pairwise_singleton _ _
    · intro f hf f' hf'
      obtain ⟨table, htable, hname⟩ := hfile f hf
      refine GeneratedFile.apart_iff.2 ?_
      rw [(manifestFiles_names _ f' hf').1]
      exact hname.lower_ne_manifest htable
  · intro f hf
    rcases List.mem_append.1 hf with hf | hf
    · obtain ⟨table, htable, hname⟩ := hfile f hf
      exact hname.safeName htable
    · rw [(manifestFiles_names _ f hf).1]
      exact Code.safeName_manifestFileName

/-- Names that hyphens and small letters bring close to each other, and a table that is defined twice. -/
def closeScripts : List Source × List Source :=
  ([⟨"A.sql", "CREATE TABLE dbo.ItemType (ItemTypeID int)"⟩,
      ⟨"B.sql", "CREATE TABLE dbo.Item_type (ItemID int)"⟩,
      ⟨"C.sql", "CREATE TABLE dbo.itemTYPE (ItemTypeID int)"⟩,
      ⟨"D.sql", "CREATE TABLE dbo._ (ID int)"⟩],
    [⟨"As.sql", "MERGE INTO dbo.ItemType AS t USING (VALUES (1, 'One')) AS s (ItemTypeID, ItemTypeName)"⟩,
      ⟨"Bs.sql", "MERGE INTO dbo.Item_type AS t USING (VALUES (1, 'One')) AS s (ItemID, ItemName)"⟩])

theorem generate_closeScripts : ∃ p g, (ParsedSchema.ofSources none none closeScripts.1 closeScripts.2).1 =
      some (p, none) ∧ p.tables.length = 4 ∧ p.seeds.length = 2 ∧
    (∀ t ∈ p.tables, IsAsciiWord t.tableName) ∧ generate p {} none = .ok (some (g, none)) ∧
    (g.files.Pairwise fun f f' => sameIgnoringCase f.fileName f'.fileName = false) ∧
      ∀ f ∈ g.files, Code.SafeName f.fileName := by
  have hparsed : ∃ p, (ParsedSchema.ofSources none none closeScripts.1 closeScripts.2).1 =
      some (p, none) ∧
      p.tables.length = 4 ∧ p.seeds.length = 2 ∧
      (∀ t ∈ p.tables, t.tableName.toList ≠ [] ∧
        ∀ c ∈ t.tableName.toList, isAsciiWord c = true) ∧
      (generate p {} none).isOk = true := by
    refine ⟨_, rfl, ?_⟩
    decide +kernel
  obtain ⟨p, hp, htables, hseeds, hwords, hok⟩ := hparsed
  obtain ⟨g, hg⟩ := exists_generate_of_isOk hok
  have hnames : ∀ t ∈ p.tables, IsAsciiWord t.tableName :=
    fun t ht => ⟨(hwords t ht).1, (hwords t ht).2⟩
  exact ⟨p, g, hp, htables, hseeds, hnames, hg, generate_fileNames hnames hg⟩

end SchemaBindings

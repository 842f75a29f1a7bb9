import SchemaBindings.Command.Execute
import SchemaBindings.Proofs.Settings.Accepted

/-!
Settings that are written as a document and checked again, perhaps with a few values replaced. They come back
as they were, and a replaced value comes out as it does when it is all that a document says. Only the names of
excluded tables may change, if the document that the settings were first read from has bytes among them.
-/

namespace SchemaBindings.Settings

set_option autoImplicit false

open Text

/-- The value of an entry that a text may go before. -/
def replaced (text : Option String) (v : Datum) :
    Datum := ((text.filter (!·.isEmpty)).map Datum.string).getD v

theorem replaceEntry_cons (key : String) (text : Option String) (name : String) (v : Datum)
    (rest : List (Datum × Datum)) : replaceEntry key text ((.string name, v) :: rest) =
      (.string name, if name = key then replaced text v else v) :: replaceEntry key text rest := by
  unfold replaceEntry replaced
  cases text.filter (!·.isEmpty) with
  | none => simp
  | some t => simp

@[simp] theorem replaceEntry_nil (key : String) (text : Option String) : replaceEntry key text [] = [] := by
  unfold replaceEntry
  cases text.filter (!·.isEmpty) with
  | none => rfl
  | some t => rfl

@[simp] theorem replaced_none (v : Datum) : replaced none v = v := rfl

section
variable {key name : String} {f : List (Datum × Datum) → List (Datum × Datum)}
    {rest : List (Datum × Datum)}

@[simp] theorem changeGroup_nil : changeGroup key f [] = [] := rfl

theorem changeGroup_cons_self (group : List (Datum × Datum)) :
    changeGroup key f ((.string key, .map group) :: rest) =
        (.string key, .map (f group)) :: changeGroup key f rest := by
  simp [changeGroup]

theorem changeGroup_cons_of_ne (h : name ≠ key) (v : Datum) :
    changeGroup key f ((.string name, v) :: rest) = (.string name, v) :: changeGroup key f rest := by
  cases v <;> simp [changeGroup, h]

end

def discoveryEntries (root : Datum) (d : Discovery) : List (Datum × Datum) := [
  (.string "schema_root", root),
  (.string "tables_dir_name", .string d.tablesDirectory),
  (.string "lookup_tables_dir_name", .string d.lookupsDirectory),
  (.string "ignore_file", .string d.ignoreFile),
  (.string "extensions", .list (d.extensions.map .string))]

/-- The document of settings with the values that overrides put in their place. -/
def overriddenEntries (s : Settings) (o : Overrides) : List (Datum × Datum) := [
  (.string "namespace", replaced o.nameSpace (.string s.nameSpace)),
  (.string "output_dir", replaced o.outputDirectory ((s.outputDirectory.map Datum.string).getD .null)),
  (.string "typescript_output_dir",
    replaced o.typeScriptDirectory ((s.typeScriptDirectory.map Datum.string).getD .null)),
  (.string "project_dir", (s.projectDirectory.map Datum.string).getD .null),
  (.string "exclude_tables", replaced o.excluded (.list (s.excludedTables.map .string))),
  (.string "discovery",
    .map (discoveryEntries (replaced o.schemaRoot (.string s.discovery.schemaRoot)) s.discovery)),
  (.string "id_column_fallback", .string s.keyFallback.name),
  (.string "max_workers", .int s.workers),
  (.string "write_typescript_manifest", .bool s.writesManifest),
  (.string "logging",
    .map [(.string "level", .string s.log.level.name), (.string "format", .string s.log.format)])]

theorem override_eq (s : Settings) (o : Overrides) : s.override o = ofEntries (overriddenEntries s o) := by
  have hentries : s.override o = ofEntries (o.change (overriddenEntries s {})) := rfl
  rw [hentries]
  congr 1
  simp [Overrides.change, overriddenEntries, discoveryEntries, changeGroup_cons_self, changeGroup_cons_of_ne,
    replaceEntry_cons]

/-- The settings with the names of excluded tables made tidy. -/
def tidied (s : Settings) : Settings := { s with excludedTables := tidyNames s.excludedTables }

theorem tidied_eq_iff {s : Settings} : s.tidied = s ↔ ∀ name ∈ s.excludedTables, IsTidy name := by
  rw [← tidyNames_eq_iff]
  constructor
  · exact fun h => congrArg excludedTables h
  · intro h
    rw [tidied, h]

theorem checkOptionalString_text (text : Option String) :
    checkOptionalString ((text.map Datum.string).getD .null) = .ok text := by
  cases text <;> rfl

theorem checkChoice_name {α : Type} {ofName? : String → Option α} {expected name : String} {a : α}
    (h : ofName? name = some a) : checkChoice ofName? expected (.string name) = .ok a := by
  simp only [checkChoice, h]

theorem ofName?_keyFallback (f : KeyFallback) : KeyFallback.ofName? f.name = some f := by
  cases f <;> rfl

theorem passesDiscovery_again {d : Discovery} (h : NormalExtensions d.extensions) :
    PassesDiscovery (discoveryEntries (.string d.schemaRoot) d) d where
  schemaRoot := (entry_of_some rfl).2 rfl
  tablesDirectory := (entry_of_some rfl).2 rfl
  lookupsDirectory := (entry_of_some rfl).2 rfl
  ignoreFile := (entry_of_some rfl).2 rfl
  extensions := (entry_of_some rfl).2 h.check

theorem passesLog_again (l : LogSettings) :
    PassesLog [(.string "level", .string l.level.name), (.string "format", .string l.format)] l where
  level := (entry_of_some rfl).2 (checkChoice_name (LogLevel.ofName?_name l.level))
  format := (entry_of_some rfl).2 rfl

theorem passes_again {s : Settings} (h : s.Accepted) :
    Passes (overriddenEntries s {}) (.ok (tidyNames s.excludedTables)) s.tidied where
  nameSpace := (entry_of_some rfl).2 (checkNameSpace_dotted h.nameSpace)
  outputDirectory := (entry_of_some rfl).2 (checkOptionalString_text s.outputDirectory)
  typeScriptDirectory := (entry_of_some rfl).2 (checkOptionalString_text s.typeScriptDirectory)
  projectDirectory := (entry_of_some rfl).2 (checkOptionalString_text s.projectDirectory)
  excludedTables := rfl
  discovery := (entry_of_some rfl).2 (checkDiscovery_eq_ok.2 (passesDiscovery_again h.extensions))
  keyFallback := (entry_of_some rfl).2 (checkChoice_name (ofName?_keyFallback s.keyFallback))
  workers := (entry_of_some rfl).2 (checkWorkers_int h.workers)
  writesManifest := (entry_of_some rfl).2 rfl
  log := (entry_of_some rfl).2 (checkLog_eq_ok.2 (passesLog_again s.log))

theorem ofDatum_toDatum {s : Settings} (h : s.Accepted) : ofDatum s.toDatum = .ok s.tidied := by
  refine ofDatum_eq_ok.2 ⟨overriddenEntries s {}, rfl, ofEntries_eq_ok.2 ⟨_, namesIn_texts _, ?_⟩⟩
  rw [each_checkString_texts]
  exact passes_again h

/-- What a value of settings is when a text may go before it: the one of the settings before, or the one that
a document has which says nothing but the text. -/
def Takes {α : Type} (value : Settings → α) (document : Datum → Datum) (text : Option String)
    (s s' : Settings) : Prop :=
  match text.filter (!·.isEmpty) with
  | none => value s' = value s
  | some t => ∃ alone, ofDatum (document (.string t)) = .ok alone ∧ value s' = value alone

def single (key : String) (v : Datum) : Datum := .map [(.string key, v)]

/-- The settings are those before, but for the values that are overridden. -/
structure Overridden (o : Overrides) (s s' : Settings) : Prop where
  schemaRoot : Takes (·.discovery.schemaRoot) (fun v => single "discovery" (single "schema_root" v))
    o.schemaRoot s s'
  outputDirectory : Takes outputDirectory (single "output_dir") o.outputDirectory s s'
  typeScriptDirectory : Takes typeScriptDirectory (single "typescript_output_dir") o.typeScriptDirectory s s'
  nameSpace : Takes nameSpace (single "namespace") o.nameSpace s s'
  excludedTables : Takes excludedTables (single "exclude_tables") o.excluded s s'
  others : s' = { s with
    discovery := { s.discovery with schemaRoot := s'.discovery.schemaRoot }
    outputDirectory := s'.outputDirectory
    typeScriptDirectory := s'.typeScriptDirectory
    nameSpace := s'.nameSpace
    excludedTables := s'.excludedTables }

theorem takes_of_gives {α : Type} {value : Settings → α} {document : Datum → Datum}
    {text : Option String}
    {s s' : Settings} {R : Datum → α → Prop} {v : Datum} (hkeeps : ∀ a, R v a → a = value s)
    (halone : ∀ t a, R (.string t) a → ∃ alone, ofDatum (document (.string t)) = .ok alone ∧
      a = value alone)
    (h : R (replaced text v) (value s')) : Takes value document text s s' := by
  unfold Takes
  unfold replaced at h
  cases htext : text.filter (!·.isEmpty) with
  | none =>
    rw [htext] at h
    exact hkeeps _ h
  | some t =>
    rw [htext] at h
    exact halone t _ h

theorem takes_of_check {α : Type} {value : Settings → α} {document : Datum → Datum}
    {text : Option String}
    {s s' : Settings} {check : Datum → Check α} {v : Datum} (hkeeps : check v = .ok (value s))
    (halone : ∀ t a, check (.string t) = .ok a → ∃ alone, ofDatum (document (.string t)) = .ok alone ∧
      a = value alone)
    (h : check (replaced text v) = .ok (value s')) : Takes value document text s s' :=
  takes_of_gives (R := fun v a => check v = .ok a) (fun _ ha => Check.ok.inj (ha.symm.trans hkeeps)) halone h

theorem passes_nil : Passes [] (.ok []) {} := by
  constructor <;> rfl

/-- A document with one entry gives the defaults beside what the entry gives. -/
theorem ofDatum_single {key : String} {v : Datum} {names : List Datum} {s : Settings}
    (hnames : excludedEntry [(.string key, v)] = .ok names)
    (h : Passes [(.string key, v)] (Check.each checkString 0 names) s) : ofDatum (single key v) = .ok s :=
  ofDatum_eq_ok.2 ⟨_, rfl, ofEntries_eq_ok.2 ⟨names, hnames, h⟩⟩

/-- All checks but that of the root are those that the settings passed before. -/
theorem discovery_of_passes {d d' : Discovery} (hd : NormalExtensions d.extensions) {root : Datum}
    (h : PassesDiscovery (discoveryEntries root d) d') : d' = { d with schemaRoot := d'.schemaRoot } := by
  have hkept := passesDiscovery_again hd
  have htables := Check.ok.inj (hkept.tablesDirectory.symm.trans h.tablesDirectory)
  have hlookups := Check.ok.inj (hkept.lookupsDirectory.symm.trans h.lookupsDirectory)
  have hignore := Check.ok.inj (hkept.ignoreFile.symm.trans h.ignoreFile)
  have hextensions := Check.ok.inj (hkept.extensions.symm.trans h.extensions)
  rw [htables, hlookups, hignore, hextensions]

theorem others_of_passes {s s' : Settings} (hs : s.Accepted) {o : Overrides} {excluded : Check (List String)}
    (h : Passes (overriddenEntries s o) excluded s') : s' = { s.tidied with
      discovery := { s.discovery with schemaRoot := s'.discovery.schemaRoot }
      outputDirectory := s'.outputDirectory
      typeScriptDirectory := s'.typeScriptDirectory
      nameSpace := s'.nameSpace
      excludedTables := s'.excludedTables } := by
  have hkept := passes_again hs
  have hdiscovery := discovery_of_passes hs.extensions
    (checkDiscovery_eq_ok.1 ((entry_of_some rfl).1 h.discovery))
  have hproject := Check.ok.inj (hkept.projectDirectory.symm.trans h.projectDirectory)
  have hfallback := Check.ok.inj (hkept.keyFallback.symm.trans h.keyFallback)
  have hworkers := Check.ok.inj (hkept.workers.symm.trans h.workers)
  have hmanifest := Check.ok.inj (hkept.writesManifest.symm.trans h.writesManifest)
  have hlog := Check.ok.inj (hkept.log.symm.trans h.log)
  simp only [hproject, hfallback, hworkers, hmanifest, hlog, ← hdiscovery]

theorem overridden_of_override {s s' : Settings} {o : Overrides} (hs : s.Accepted)
    (h : s.override o = .ok s') : Overridden o s.tidied s' := by
  rw [override_eq] at h
  obtain ⟨names, hnames, hpasses⟩ := ofEntries_eq_ok.1 h
  have hkept := passes_again hs
  have hdiscovery := checkDiscovery_eq_ok.1 ((entry_of_some rfl).1 hpasses.discovery)
  have hdiscovery' := passesDiscovery_again hs.extensions
  constructor
  · refine takes_of_check ((entry_of_some rfl).1 hdiscovery'.schemaRoot) ?_
      ((entry_of_some rfl).1 hdiscovery.schemaRoot)
    intro t a ha
    have hroot : checkDiscovery (single "schema_root" (.string t)) = .ok { schemaRoot := a } :=
      checkDiscovery_eq_ok.2 ⟨(entry_of_some rfl).2 ha, rfl, rfl, rfl, rfl⟩
    exact ⟨{ discovery := { schemaRoot := a } },
      ofDatum_single rfl { passes_nil with discovery := (entry_of_some rfl).2 hroot }, rfl⟩
  · refine takes_of_check ((entry_of_some rfl).1 hkept.outputDirectory) ?_
      ((entry_of_some rfl).1 hpasses.outputDirectory)
    intro t a ha
    exact ⟨{ outputDirectory := a },
      ofDatum_single rfl { passes_nil with outputDirectory := (entry_of_some rfl).2 ha }, rfl⟩
  · refine takes_of_check ((entry_of_some rfl).1 hkept.typeScriptDirectory) ?_
      ((entry_of_some rfl).1 hpasses.typeScriptDirectory)
    intro t a ha
    exact ⟨{ typeScriptDirectory := a },
      ofDatum_single rfl { passes_nil with typeScriptDirectory := (entry_of_some rfl).2 ha }, rfl⟩
  · refine takes_of_check ((entry_of_some rfl).1 hkept.nameSpace) ?_
      ((entry_of_some rfl).1 hpasses.nameSpace)
    intro t a ha
    exact ⟨{ nameSpace := a }, ofDatum_single rfl { passes_nil with nameSpace := (entry_of_some rfl).2 ha },
      rfl⟩
  · refine takes_of_gives
      (R := fun v a => ∃ names, excludedNames v = .ok names ∧ Check.each checkString 0 names = .ok a) ?_
        ?_
      ⟨names, hnames, hpasses.excludedTables⟩
    · rintro a ⟨names, hnames, ha⟩
      obtain rfl := Except.ok.inj ((namesIn_texts s.excludedTables).symm.trans hnames)
      rw [each_checkString_texts] at ha
      exact (Check.ok.inj ha).symm
    · rintro t a ⟨names, hnames, ha⟩
      exact ⟨{ excludedTables := a }, ofDatum_single hnames { passes_nil with excludedTables := ha }, rfl⟩
  · exact others_of_passes hs hpasses

theorem override_of_configure {sur : Command.Surface} {r : Command.GenerateRequest} {s s' : Settings}
    (hload : load sur.disk sur.environment r.settingsPath = .ok s) (h : Command.configure sur r = .ok s') :
    s.override r.overrides = .ok s' := by
  unfold Command.configure at h
  rw [hload] at h
  obtain ⟨_, ⟨⟩, h⟩ := bind_eq_ok.1 h
  obtain ⟨settings, hoverride, h⟩ := bind_eq_ok.1 h
  obtain ⟨isFolder, _, h⟩ := bind_eq_ok.1 h
  rw [mapError_eq_ok] at hoverride
  split at h
  · cases h
    exact hoverride
  · cases h

/-- The document has no bytes where it names the excluded tables. -/
def NoBytesExcluded (d : Datum) : Prop :=
  ∀ entries v, d = .map entries → Datum.lookup? entries "exclude_tables" = some v →
    ∀ b, .bytes b ∉ members v

theorem tidied_of_noBytesExcluded {d : Datum} {s : Settings} (h : ofDatum d = .ok s)
    (hbytes : NoBytesExcluded d) : s.tidied = s := by
  obtain ⟨entries, rfl, h⟩ := ofDatum_eq_ok.1 h
  obtain ⟨names, hnames, hpasses⟩ := ofEntries_eq_ok.1 h
  refine tidied_eq_iff.2 (isTidy_of_each ?_ hpasses.excludedTables)
  unfold excludedEntry at hnames
  split at hnames
  · rename_i v hlookup
    exact excludedNames_tidy (hbytes entries v rfl hlookup) hnames
  · cases hnames
    exact List.forall_mem_nil _

/-- Accepted settings are accepted again, with tidy names of excluded tables and otherwise as they were.
The names were tidy already, unless bytes were given for them. Overrides change what they name, and
nothing else. -/
theorem ofDatum_again {d : Datum} {s : Settings} (h : ofDatum d = .ok s) :
    ofDatum s.toDatum = .ok s.tidied ∧
    (s.tidied = s ↔ ∀ name ∈ s.excludedTables, IsTidy name) ∧
    (NoBytesExcluded d → s.tidied = s) ∧
    (∀ o s', s.override o = .ok s' → Overridden o s.tidied s') ∧
    ∀ sur r s', load sur.disk sur.environment r.settingsPath = .ok s →
      Command.configure sur r = .ok s' → Overridden r.overrides s.tidied s' := by
  have hs := accepted_of_ofDatum h
  refine ⟨ofDatum_toDatum hs, tidied_eq_iff, tidied_of_noBytesExcluded h, ?_, ?_⟩
  · exact fun o s' hoverride => overridden_of_override hs hoverride
  · exact fun sur r s' hload hconfigure => overridden_of_override hs (override_of_configure hload hconfigure)

/-- Blanks, capitals and commas in all places that are put into a normal form. -/
def acmeDocument : Datum := .map [
  (.string "namespace", .string " Acme.Data\n"),
  (.string "exclude_tables", .string " Project, ,AuditLog "),
  (.string "discovery",
    .map [(.string "extensions", .list [.string " SQL", .string "\u3000", .string ".ΟΔΟΣ "])]),
  (.string "max_workers", .bool true)]

def acmeOverrides : Overrides where
  schemaRoot := some "db"
  nameSpace := some "Acme.Other "
  excluded := some "Stage,"

theorem ofDatum_again_acmeDocument : ∃ s s', ofDatum acmeDocument = .ok s ∧ ofDatum s.toDatum = .ok s ∧
    s.override acmeOverrides = .ok s' ∧ Overridden acmeOverrides s s' := by
  have haccepted : (ofDatum acmeDocument >>= fun s => s.override acmeOverrides).isOk = true := by
    decide +kernel
  obtain ⟨s', hs'⟩ := exists_eq_ok_of_isOk haccepted
  obtain ⟨s, hs, hs'⟩ := bind_eq_ok.1 hs'
  have hbytes : NoBytesExcluded acmeDocument := by
    intro entries v hentries hlookup b
    obtain rfl := Datum.map.inj hentries
    obtain rfl := Option.some.inj hlookup
    exact List.not_mem_nil
  obtain ⟨hagain, _, hsame, hoverrides, _⟩ := ofDatum_again hs
  rw [hsame hbytes] at hagain hoverrides
  exact ⟨s, s', hs, hagain, hs', hoverrides _ _ hs'⟩

/-- A name in bytes, behind a blank that is none as a byte. -/
def bytesDocument : Datum := .map [(.string "exclude_tables", .list [.bytes ⟨#[0xC2, 0xA0, 0x41]⟩])]

theorem ofDatum_bytesDocument : ∃ s, ofDatum bytesDocument = .ok s ∧ s.excludedTables = ["\u00a0A"] ∧
    ofDatum s.toDatum = .ok { s with excludedTables := ["A"] } := by
  refine ⟨{ excludedTables := ["\u00a0A"] }, ?_, rfl, ?_⟩
  · decide +kernel
  · decide +kernel

end SchemaBindings.Settings

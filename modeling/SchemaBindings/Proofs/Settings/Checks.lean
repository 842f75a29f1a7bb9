import SchemaBindings.Proofs.Results
import SchemaBindings.Settings.Check

/-!
What is known of the parts of a check when the whole finds nothing. A group of settings passes exactly if
each of its entries does, and a missing entry passes as its default.
-/

namespace SchemaBindings.Settings

set_option autoImplicit false

namespace Check

variable {α β : Type}

theorem map_eq_ok {f : α → β} {x : Check α}
    {b : β} : f <$> x = .ok b ↔ ∃ a, x = .ok a ∧ f a = b := by
  cases x with
  | ok a =>
    constructor
    · rintro ⟨⟩
      exact ⟨a, rfl, rfl⟩
    · rintro ⟨_, ⟨⟩, rfl⟩
      rfl
  | faulty first more =>
    constructor
    · rintro ⟨⟩
    · rintro ⟨_, ⟨⟩, _⟩

theorem seq_eq_ok {f : Check (α → β)} {x : Check α} {b : β} :
    f <*> x = .ok b ↔ ∃ g, f = .ok g ∧ ∃ a, x = .ok a ∧ g a = b := by
  cases f with
  | ok g =>
    have hmap : (.ok g : Check (α → β)) <*> x = g <$> x := by cases x <;> rfl
    rw [hmap, map_eq_ok]
    constructor
    · exact fun h => ⟨g, rfl, h⟩
    · rintro ⟨_, ⟨⟩, h⟩
      exact h
  | faulty first more =>
    constructor
    · rintro ⟨⟩
    · rintro ⟨_, ⟨⟩, _⟩

theorem andThen_eq_ok {x : Check α} {f : α → Check β} {b : β} :
    x.andThen f = .ok b ↔ ∃ a, x = .ok a ∧ f a = .ok b := by
  cases x with
  | ok a =>
    constructor
    · exact fun h => ⟨a, rfl, h⟩
    · rintro ⟨_, ⟨⟩, h⟩
      exact h
  | faulty first more =>
    constructor
    · rintro ⟨⟩
    · rintro ⟨_, ⟨⟩, _⟩

theorem under_eq_ok {step : String} {x : Check α} {a : α} : x.under step = .ok a ↔ x = .ok a := by
  cases x with
  | ok a' => exact Iff.rfl
  | faulty first more =>
    constructor
    · rintro ⟨⟩
    · rintro ⟨⟩

theorem result_eq_ok {name : String} {x : Check α} {a : α} : x.result name = .ok a ↔ x = .ok a := by
  cases x with
  | ok a' =>
    constructor
    · rintro ⟨⟩
      rfl
    · rintro ⟨⟩
      rfl
  | faulty first more =>
    constructor
    · rintro ⟨⟩
    · rintro ⟨⟩

theorem each_eq_ok {f : α → Check β} {i : Nat} {as : List α} {bs : List β} :
    each f i as = .ok bs ↔ List.Forall₂ (fun a b => f a = .ok b) as bs := by
  induction as generalizing i bs with
  | nil =>
    rw [List.forall₂_nil_left_iff]
    constructor
    · rintro ⟨⟩
      rfl
    · rintro rfl
      rfl
  | cons a rest ih =>
    unfold each
    rw [List.forall₂_cons_left_iff, seq_eq_ok]
    constructor
    · rintro ⟨_, hf, bs', hrest, rfl⟩
      obtain ⟨b, hb, rfl⟩ := map_eq_ok.1 hf
      exact ⟨b, bs', under_eq_ok.1 hb, ih.1 hrest, rfl⟩
    · rintro ⟨b, bs', hb, hrest, rfl⟩
      exact ⟨_, map_eq_ok.2 ⟨b, under_eq_ok.2 hb, rfl⟩, bs', ih.2 hrest, rfl⟩

end Check

section
variable {α : Type} {entries : List (Datum × Datum)} {key : String} {default a : α}
    {check : Datum → Check α}

theorem entry_of_some {d : Datum} (h : Datum.lookup? entries key = some d) :
    entry entries key default check = .ok a ↔ check d = .ok a := by
  rw [entry, h]
  exact Check.under_eq_ok

theorem entry_of_none (h : Datum.lookup? entries key = none) :
    entry entries key default check = .ok a ↔ a = default := by
  rw [entry, h]
  constructor
  · rintro ⟨⟩
    rfl
  · rintro rfl
    rfl

theorem entry_eq_ok (h : entry entries key default check = .ok a) :
      a = default ∨ ∃ d, check d = .ok a := by
  cases hlookup : Datum.lookup? entries key with
  | none => exact .inl ((entry_of_none hlookup).1 h)
  | some d => exact .inr ⟨d, (entry_of_some hlookup).1 h⟩

end

variable {entries : List (Datum × Datum)}

/-- Each entry of the group passes, and gives what the group has. -/
structure PassesDiscovery (entries : List (Datum × Datum)) (d : Discovery) : Prop where
  schemaRoot : entry entries "schema_root" ({} : Discovery).schemaRoot checkString = .ok d.schemaRoot
  tablesDirectory :
    entry entries "tables_dir_name" ({} : Discovery).tablesDirectory checkString = .ok d.tablesDirectory
  lookupsDirectory :
    entry entries "lookup_tables_dir_name" ({} : Discovery).lookupsDirectory checkString =
      .ok d.lookupsDirectory
  ignoreFile : entry entries "ignore_file" ({} : Discovery).ignoreFile checkString = .ok d.ignoreFile
  extensions : entry entries "extensions" ({} : Discovery).extensions checkExtensions = .ok d.extensions

theorem checkDiscovery_eq_ok {d : Discovery} :
    checkDiscovery (.map entries) = .ok d ↔ PassesDiscovery entries d := by
  unfold checkDiscovery
  simp only [Check.seq_eq_ok, Check.map_eq_ok]
  constructor
  · rintro ⟨_, ⟨_, ⟨_, ⟨_, ⟨_, h₁, rfl⟩, _, h₂, rfl⟩, _, h₃, rfl⟩, _, h₄, rfl⟩, _,
      h₅, rfl⟩
    exact ⟨h₁, h₂, h₃, h₄, h₅⟩
  · rintro ⟨h₁, h₂, h₃, h₄, h₅⟩
    exact ⟨_, ⟨_, ⟨_, ⟨_, ⟨_, h₁, rfl⟩, _, h₂, rfl⟩, _, h₃, rfl⟩, _, h₄, rfl⟩, _,
      h₅, rfl⟩

structure PassesLog (entries : List (Datum × Datum)) (l : LogSettings) : Prop where
  level : entry entries "level" ({} : LogSettings).level
    (checkChoice LogLevel.ofName? "'DEBUG', 'INFO', 'WARNING' or 'ERROR'") = .ok l.level
  format : entry entries "format" ({} : LogSettings).format checkString = .ok l.format

theorem checkLog_eq_ok {l : LogSettings} : checkLog (.map entries) = .ok l ↔ PassesLog entries l := by
  unfold checkLog
  simp only [Check.seq_eq_ok, Check.map_eq_ok]
  constructor
  · rintro ⟨_, ⟨_, h₁, rfl⟩, _, h₂, rfl⟩
    exact ⟨h₁, h₂⟩
  · rintro ⟨h₁, h₂⟩
    exact ⟨_, ⟨_, h₁, rfl⟩, _, h₂, rfl⟩

def checkWorkers (d : Datum) : Check Int := (checkInteger d).andThen (checkBounds 1 32)

/-- Each entry passes, and gives what the settings have; the excluded tables are checked apart. -/
structure Passes (entries : List (Datum × Datum)) (excluded : Check (List String)) (s : Settings) :
    Prop where
  nameSpace : entry entries "namespace" ({} : Settings).nameSpace checkNameSpace = .ok s.nameSpace
  outputDirectory :
    entry entries "output_dir" ({} : Settings).outputDirectory checkOptionalString = .ok s.outputDirectory
  typeScriptDirectory : entry entries "typescript_output_dir" ({} : Settings).typeScriptDirectory
    checkOptionalString = .ok s.typeScriptDirectory
  projectDirectory :
    entry entries "project_dir" ({} : Settings).projectDirectory checkOptionalString = .ok s.projectDirectory
  excludedTables : excluded = .ok s.excludedTables
  discovery : entry entries "discovery" ({} : Settings).discovery checkDiscovery = .ok s.discovery
  keyFallback : entry entries "id_column_fallback" ({} : Settings).keyFallback
    (checkChoice KeyFallback.ofName? "'first_column' or 'none'") = .ok s.keyFallback
  workers : entry entries "max_workers" ({} : Settings).workers checkWorkers = .ok s.workers
  writesManifest :
    entry entries "write_typescript_manifest" ({} : Settings).writesManifest checkBool = .ok s.writesManifest
  log : entry entries "logging" ({} : Settings).log checkLog = .ok s.log

theorem checkEntries_eq_ok {excluded : Check (List String)} {s : Settings} :
    checkEntries entries excluded = .ok s ↔ Passes entries excluded s := by
  unfold checkEntries
  simp only [Check.seq_eq_ok, Check.map_eq_ok, Check.under_eq_ok]
  constructor
  · rintro ⟨_,
      ⟨_, ⟨_, ⟨_,
        ⟨_, ⟨_, ⟨_, ⟨_, ⟨_, ⟨_, h₁, rfl⟩, _, h₂, rfl⟩, _, h₃, rfl⟩, _, h₄, rfl⟩,
          _, h₅, rfl⟩,
      _, h₆, rfl⟩, _, h₇, rfl⟩, _, h₈, rfl⟩, _, h₉, rfl⟩, _, h₁₀, rfl⟩
    exact ⟨h₁, h₂, h₃, h₄, h₅, h₆, h₇, h₈, h₉, h₁₀⟩
  · rintro ⟨h₁, h₂, h₃, h₄, h₅, h₆, h₇, h₈, h₉, h₁₀⟩
    exact ⟨_,
      ⟨_, ⟨_, ⟨_,
        ⟨_, ⟨_, ⟨_, ⟨_, ⟨_, ⟨_, h₁, rfl⟩, _, h₂, rfl⟩, _, h₃, rfl⟩, _, h₄, rfl⟩,
          _, h₅, rfl⟩,
      _, h₆, rfl⟩, _, h₇, rfl⟩, _, h₈, rfl⟩, _, h₉, rfl⟩, _, h₁₀, rfl⟩

def excludedEntry (entries : List (Datum × Datum)) : Except Error (List Datum) :=
  match Datum.lookup? entries "exclude_tables" with
  | some d => excludedNames d
  | none => .ok []

theorem ofEntries_eq_ok {s : Settings} : ofEntries entries = .ok s ↔
    ∃ names, excludedEntry entries = .ok names ∧ Passes entries (Check.each checkString 0 names) s := by
  have hsteps : ofEntries entries = excludedEntry entries >>= fun names =>
      (checkEntries entries (Check.each checkString 0 names)).result "GeneratorConfig" := by
    unfold ofEntries excludedEntry
    cases Datum.lookup? entries "exclude_tables" <;> rfl
  rw [hsteps, bind_eq_ok]
  simp only [Check.result_eq_ok, checkEntries_eq_ok]

theorem ofDatum_eq_ok {d : Datum} {s : Settings} : ofDatum d = .ok s ↔
    ∃ entries, d = .map entries ∧ ofEntries entries = .ok s := by
  constructor
  · intro h
    unfold ofDatum at h
    split at h
    · exact ⟨_, rfl, h⟩
    · cases h
  · rintro ⟨entries, rfl, h⟩
    exact h

end SchemaBindings.Settings

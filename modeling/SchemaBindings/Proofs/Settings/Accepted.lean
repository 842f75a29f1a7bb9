import SchemaBindings.Proofs.Settings.NameSpace
import SchemaBindings.Proofs.Text.Trimming

/-!
What every check leaves of the values that it accepts. Extensions come out in their normal form, which is
their own normal form; the number of workers lies within its bounds. The names of excluded tables come out
without blanks around them when they were texts to begin with; bytes are trimmed before they are read as a
text, and only of the blanks that are bytes.
-/

namespace SchemaBindings.Settings

set_option autoImplicit false

open Text

theorem checkString_eq_ok {name a : String} : checkString (.string name) = .ok a ↔ name = a := by
  constructor
  · rintro ⟨⟩
    rfl
  · rintro rfl
    rfl

theorem normalExtension_of_normal {small : String} (htrimmed : IsTrimmed small) (hlower : lower small = small)
    (hdot : ".".toList.isPrefixOf small.toList = true) : normalExtension small = some small := by
  have hne : small.isEmpty = false := by
    rw [String.isEmpty_eq_false_iff]
    rintro rfl
    cases hdot
  unfold normalExtension
  simp only [trimString_eq_iff.2 htrimmed, hlower, hne, hdot, if_true, Bool.false_eq_true, if_false]

theorem isTrimmed_dot_append {small : String} (h : IsTrimmed small) (hne : small ≠ "") :
    IsTrimmed ("." ++ small) := by
  obtain ⟨c, rest, hsmall⟩ := List.exists_cons_of_ne_nil (mt String.toList_eq_nil_iff.1 hne)
  rw [IsTrimmed, String.toList_append]
  constructor
  · rintro d ⟨⟩
    decide
  · intro d hd
    rw [hsmall, List.getLast?_append_of_ne_nil _ (List.cons_ne_nil c rest), ← hsmall] at hd
    exact h.last d hd

theorem lower_dot_append (small : String) : lower ("." ++ small) = "." ++ lower small := by
  have hdot : lowerChar '.' = ['.'] := by decide
  have hcased : (if isCaseIgnorable '.' then false else isCased '.') = false := by decide
  have hchars : lowerChars ('.' :: small.toList) = '.' :: lowerChars small.toList := by
    rw [lowerChars, lowerFrom, if_neg (by decide), hdot, hcased]
    rfl
  apply String.toList_injective
  simp only [lower, String.toList_ofList, String.toList_append]
  exact hchars

theorem normalExtension_normalExtension {ext e : String} (h : normalExtension ext = some e) :
    normalExtension e = some e := by
  have htrimmed : IsTrimmed (lower (trimString ext)) := (isTrimmed_trimString ext).lower
  have hlower : lower (lower (trimString ext)) = lower (trimString ext) := lower_lower _
  unfold normalExtension at h
  generalize lower (trimString ext) = small at h htrimmed hlower
  simp only at h
  split at h
  · cases h
  · rename_i hempty
    have hne := String.isEmpty_eq_false_iff.1 (Bool.eq_false_iff.2 hempty)
    split at h
    · rename_i hdot
      obtain rfl := Option.some.inj h
      exact normalExtension_of_normal htrimmed hlower hdot
    · obtain rfl := Option.some.inj h
      refine normalExtension_of_normal (isTrimmed_dot_append htrimmed hne) ?_ ?_
      · rw [lower_dot_append, hlower]
      · rw [String.toList_append]
        exact List.isPrefixOf_iff_prefix.2 (List.prefix_append _ _)

/-- Extensions that a second check finds as it would make them. -/
def NormalExtensions (exts : List String) : Prop := exts ≠ [] ∧ ∀ e ∈ exts, normalExtension e = some e

theorem normalExtensions_default : NormalExtensions ({} : Discovery).extensions := by
  refine ⟨List.cons_ne_nil _ _, ?_⟩
  intro e he
  rw [List.mem_singleton.1 he]
  decide +kernel

theorem normalExtensions_of_check {d : Datum} {exts : List String} (h : checkExtensions d = .ok exts) :
    NormalExtensions exts := by
  unfold checkExtensions at h
  obtain ⟨given, _, h⟩ := Check.andThen_eq_ok.1 h
  simp only at h
  split at h
  · cases h
  · rename_i hempty
    cases h
    refine ⟨by rwa [List.isEmpty_iff] at hempty, ?_⟩
    intro e he
    obtain ⟨ext, _, hnormal⟩ := List.mem_filterMap.1 he
    exact normalExtension_normalExtension hnormal

theorem each_checkString_texts (i : Nat) (names : List String) :
    Check.each checkString i (names.map Datum.string) = .ok names := by
  rw [Check.each_eq_ok, List.forall₂_map_left_iff, List.forall₂_same]
  exact fun name _ => checkString_eq_ok.2 rfl

theorem NormalExtensions.check {exts : List String} (h : NormalExtensions exts) :
    checkExtensions (.list (exts.map .string)) = .ok exts := by
  have hsame : exts.filterMap normalExtension = exts := by
    rw [List.filterMap_congr h.2, List.filterMap_some]
  have hne : exts.isEmpty = false := List.isEmpty_eq_false_iff.2 h.1
  have hstrings : checkStrings (.list (exts.map .string)) = .ok exts := each_checkString_texts 0 exts
  unfold checkExtensions
  rw [hstrings]
  simp only [Check.andThen, hsame, hne, Bool.false_eq_true, if_false]

theorem normalExtensions_of_passes {entries : List (Datum × Datum)} {d : Discovery}
    (h : PassesDiscovery entries d) : NormalExtensions d.extensions := by
  rcases entry_eq_ok h.extensions with hdefault | ⟨_, hchecked⟩
  · rw [hdefault]
    exact normalExtensions_default
  · exact normalExtensions_of_check hchecked

theorem normalExtensions_of_checkDiscovery {v : Datum} {d : Discovery} (h : checkDiscovery v = .ok d) :
    NormalExtensions d.extensions := by
  cases v with
  | map entries => exact normalExtensions_of_passes (checkDiscovery_eq_ok.1 h)
  | _ => cases h

theorem checkBounds_eq_ok {low high n m : Int} :
    checkBounds low high n = .ok m ↔ (low ≤ n ∧ n ≤ high) ∧ m = n := by
  unfold checkBounds
  split
  · constructor
    · rintro ⟨⟩
    · omega
  · split
    · constructor
      · rintro ⟨⟩
      · omega
    · constructor
      · rintro ⟨⟩
        exact ⟨by omega, rfl⟩
      · rintro ⟨_, rfl⟩
        rfl

theorem checkWorkers_int {n : Int} (h : 1 ≤ n ∧ n ≤ 32) : checkWorkers (.int n) = .ok n :=
  checkBounds_eq_ok.2 ⟨h, rfl⟩

theorem bounds_of_checkWorkers {d : Datum} {n : Int} (h : checkWorkers d = .ok n) : 1 ≤ n ∧ n ≤ 32 := by
  obtain ⟨m, _, h⟩ := Check.andThen_eq_ok.1 h
  obtain ⟨hbounds, rfl⟩ := checkBounds_eq_ok.1 h
  exact hbounds

/-- The names without blanks around them, and without the blank ones. -/
def tidyNames (names : List String) : List String := (names.map trimString).filter (!·.isEmpty)

/-- The name would be left as it is. -/
def IsTidy (name : String) : Prop := IsTrimmed name ∧ name ≠ ""

theorem isTidy_of_mem_tidyNames {names : List String} {name : String} (h : name ∈ tidyNames names) :
    IsTidy name := by
  obtain ⟨hmem, hempty⟩ := List.mem_filter.1 h
  obtain ⟨given, _, rfl⟩ := List.mem_map.1 hmem
  rw [Bool.not_eq_true'] at hempty
  exact ⟨isTrimmed_trimString given, String.isEmpty_eq_false_iff.1 hempty⟩

theorem tidyNames_eq_iff {names : List String} : tidyNames names = names ↔
      ∀ name ∈ names, IsTidy name := by
  constructor
  · intro h name hname
    rw [← h] at hname
    exact isTidy_of_mem_tidyNames hname
  · intro h
    have htrim : names.map trimString = names := by
      conv_rhs => rw [← List.map_id names]
      exact List.map_congr_left fun name hname => trimString_eq_iff.2 (h name hname).1
    rw [tidyNames, htrim, List.filter_eq_self]
    intro name hname
    rw [String.isEmpty_eq_false_iff.2 (h name hname).2]
    rfl

theorem namesIn_texts (names : List String) :
    namesIn (names.map Datum.string) = .ok ((tidyNames names).map Datum.string) := by
  have hsome : (names.map nonBlank).filterMap id = (tidyNames names).map Datum.string := by
    induction names with
    | nil => rfl
    | cons name rest ih =>
      rw [List.map_cons, tidyNames, List.map_cons, List.filter_cons, nonBlank]
      cases hempty : (trimString name).isEmpty with
      | true => exact ih
      | false => exact congrArg (_ :: ·) ih
  have hnames : (names.map Datum.string).mapM excludedName = .ok (names.map nonBlank) := by
    clear hsome
    induction names with
    | nil => rfl
    | cons name rest ih => exact mapM_cons_eq_ok.2 ⟨_, _, rfl, ih, rfl⟩
  rw [namesIn, hnames, ← hsome]
  rfl

/-- What excluded tables can be gone through in; a text is cut at its commas instead. -/
def members : Datum → List Datum
  | .list items | .set items => items
  | .pair a b => [a, b]
  | .map entries => entries.map Prod.fst
  | _ => []

theorem mem_namesIn {items names : List Datum} (h : namesIn items = .ok names) {v : Datum}
    (hv : v ∈ names) : ∃ d ∈ items, excludedName d = .ok (some v) := by
  obtain ⟨found, hfound, rfl⟩ := map_eq_ok.1 h
  obtain ⟨name?, hname?, rfl⟩ := List.mem_filterMap.1 hv
  exact mem_of_mapM_eq_ok hfound _ hname?

theorem nonBlank_eq_some {s : String} {v : Datum} (h : nonBlank s = some v) :
      ∃ name, v = .string name ∧ IsTidy name := by
  unfold nonBlank at h
  simp only at h
  split at h
  · cases h
  · rename_i hempty
    exact ⟨trimString s, (Option.some.inj h).symm, isTrimmed_trimString s,
      String.isEmpty_eq_false_iff.1 (Bool.eq_false_iff.2 hempty)⟩

theorem excludedName_eq_some {d v : Datum} (h : excludedName d = .ok (some v)) :
    (∃ name, v = .string name ∧ IsTidy name) ∨ ∃ b, d = .bytes b := by
  unfold excludedName at h
  split at h
  · exact .inl (nonBlank_eq_some (Except.ok.inj h))
  · exact .inl (nonBlank_eq_some (Except.ok.inj h))
  · exact .inr ⟨_, rfl⟩
  · split at h
    · cases h
    · cases h

theorem excludedNames_tidy {d : Datum} (hbytes : ∀ b, .bytes b ∉ members d) {names : List Datum}
    (h : excludedNames d = .ok names) : ∀ v ∈ names, ∃ name, v = .string name ∧ IsTidy name := by
  have hmembers : ∀ items, (∀ b, .bytes b ∉ items) → namesIn items = .ok names →
      ∀ v ∈ names, ∃ name, v = .string name ∧ IsTidy name := by
    intro items hitems hnames v hv
    obtain ⟨d, hd, hname⟩ := mem_namesIn hnames hv
    rcases excludedName_eq_some hname with hname | ⟨b, rfl⟩
    · exact hname
    · exact (hitems b hd).elim
  have hcommas : ∀ s : String, (commaList s).map Datum.string = names →
      ∀ v ∈ names, ∃ name, v = .string name ∧ IsTidy name := by
    rintro s rfl v hv
    obtain ⟨name, hname, rfl⟩ := List.mem_map.1 hv
    have htidy : name ∈ tidyNames (splitAtCommas s) := hname
    exact ⟨name, rfl, isTidy_of_mem_tidyNames htidy⟩
  cases d with
  | string s => exact hcommas s (Except.ok.inj h)
  | brokenString t => exact hcommas _ (Except.ok.inj h)
  | list items => exact hmembers items hbytes h
  | set items => exact hmembers items hbytes h
  | pair a b => exact hmembers [a, b] hbytes h
  | map entries => exact hmembers _ hbytes h
  | null =>
    cases h
    exact List.forall_mem_nil _
  | bytes b =>
    change (if b.toList.all (· == 0) then Except.ok [] else .error (Error.noText "int")) = .ok names at h
    split at h
    · cases h
      exact List.forall_mem_nil _
    · cases h
  | _ => cases h

theorem isTidy_of_each {names : List Datum} {excluded : List String}
    (h : ∀ v ∈ names, ∃ name, v = .string name ∧ IsTidy name)
    (hcheck : Check.each checkString 0 names = .ok excluded) :
    ∀ name ∈ excluded, IsTidy name := by
  have hpairs := Check.each_eq_ok.1 hcheck
  refine forall_mem_of_forall₂ ((List.forall₂_and_left _ _).2 ⟨h, hpairs⟩) ?_
  rintro _ a ⟨⟨name, rfl, htidy⟩, hname⟩
  rw [← checkString_eq_ok.1 hname]
  exact htidy

/-- What all checked settings keep to. -/
structure Accepted (s : Settings) : Prop where
  nameSpace : isDottedName s.nameSpace = true
  extensions : NormalExtensions s.discovery.extensions
  workers : 1 ≤ s.workers ∧ s.workers ≤ 32

theorem accepted_of_ofDatum {d : Datum} {s : Settings} (h : ofDatum d = .ok s) : s.Accepted := by
  have hnameSpace := isDottedName_nameSpace h
  obtain ⟨entries, rfl, h⟩ := ofDatum_eq_ok.1 h
  obtain ⟨names, _, h⟩ := ofEntries_eq_ok.1 h
  refine ⟨hnameSpace, ?_, ?_⟩
  · rcases entry_eq_ok h.discovery with hdefault | ⟨_, hchecked⟩
    · rw [hdefault]
      exact normalExtensions_default
    · exact normalExtensions_of_checkDiscovery hchecked
  · rcases entry_eq_ok h.workers with hdefault | ⟨_, hchecked⟩
    · rw [hdefault]
      decide
    · exact bounds_of_checkWorkers hchecked

theorem isTrimmed_of_isDottedName {name : String} (h : isDottedName name = true) : IsTrimmed name := by
  refine trimmed_of_not_mem fun c hc => ?_
  rcases mem_of_isDottedName h hc with rfl | halphanum | rfl
  · decide
  · refine Script.isBlank_of_isAsciiWord ?_
    rw [Script.isAsciiWord, halphanum, Bool.true_or]
  · decide

theorem checkNameSpace_dotted {name : String} (h : isDottedName name = true) :
    checkNameSpace (.string name) = .ok name := by
  have htrim := trimString_eq_iff.2 (isTrimmed_of_isDottedName h)
  unfold checkNameSpace
  simp only [checkString, Check.andThen, htrim, h, if_true]

end SchemaBindings.Settings

import SchemaBindings.Proofs.Batch.SecondRun

/-!
A run that a signal stops. Every look that finds the signal up ends the run with nothing: what was read and
generated before is dropped, and the disk is left alone. When every look finds it down, the signal has no
part in the run.
-/

namespace SchemaBindings

set_option autoImplicit false

/-- A place at which a run looks at the signal. -/
inductive Look
  | afterReading
  | beforeScript (kind : SourceKind) (path : String)
  | betweenKinds
  | afterParsing
  | beforeTable (name : String)
  | afterGenerating
  deriving DecidableEq, Repr

def parsingLooks (tables seeds : List Source) : List Look :=
  tables.map (fun s => .beforeScript .table s.path) ++
    .betweenKinds :: seeds.map fun s => .beforeScript .seed s.path

/-- The looks while files are generated, and the one behind. Nothing comes behind a table that fails. -/
def planLooks (sur : Surroundings) : List (Table × Fate) → List Look
  | [] => [.afterGenerating]
  | x :: rest => .beforeTable x.1.qualifiedName ::
    match tableResult sur x with
    | .ok _ => planLooks sur rest
    | .error _ => []

def ParsedSchema.looks (p : ParsedSchema) (settings : Settings) : List Look :=
  planLooks (p.surroundings settings) (fates settings p.tables)

def processLooks (cache : Option Cache) (settings : Settings) (tables seeds : List Source) : List Look :=
  parsingLooks tables seeds ++ .afterParsing ::
    match (ParsedSchema.ofSources cache none tables seeds).1 with
    | some (p, _) => p.looks settings
    | none => []

/-- The looks of a run, in their order, when each finds the signal down. A run that fails before the scripts
are read makes none. -/
def Disk.looks (d : Disk) (settings : Settings) (cache : Option Cache) : List Look :=
  match d.scriptFiles settings.discovery.schemaRoot settings.discovery with
  | .error _ => []
  | .ok files =>
    match d.sources files with
    | .error _ => []
    | .ok (tables, seeds, _) => .afterReading :: processLooks cache settings tables seeds

theorem length_parsingLooks (tables seeds : List Source) :
    (parsingLooks tables seeds).length = tables.length + 1 + seeds.length := by
  rw [parsingLooks, List.length_append, List.length_cons, List.length_map, List.length_map]
  omega

theorem Signal.after_of_le {n looks : Nat} (h : looks ≤ n) :
    after (some n) looks = some (some (n - looks)) :=
  if_pos h

theorem Signal.after_of_lt {n looks : Nat} (h : n < looks) : after (some n) looks = none :=
  if_neg (Nat.not_le.2 h)

section
variable {cache cache' : Option Cache} {tables seeds : List Source} {p : ParsedSchema} {n : Nat}

theorem exists_ofSources (cache : Option Cache) (tables seeds : List Source) :
    ∃ p cache', ParsedSchema.ofSources cache none tables seeds = (some (p, none), cache') :=
  ⟨_, _, rfl⟩

theorem ofSources_stopped (h : n < (parsingLooks tables seeds).length) :
    (ParsedSchema.ofSources cache (some n) tables seeds).1 = none := by
  rw [length_parsingLooks] at h
  unfold ParsedSchema.ofSources
  by_cases hn : n < tables.length + 1
  · rw [Signal.after_of_lt hn]
  · rw [Signal.after_of_le (Nat.le_of_not_lt hn)]
    simp only
    rw [Signal.after_of_lt (by omega)]

theorem ofSources_passed (hp : ParsedSchema.ofSources cache none tables seeds = (some (p, none), cache'))
    (h : (parsingLooks tables seeds).length ≤ n) :
    ParsedSchema.ofSources cache (some n) tables seeds =
      (some (p, some (n - (parsingLooks tables seeds).length)), cache') := by
  rw [length_parsingLooks] at h ⊢
  have htables : Signal.after (some n) (tables.length + 1) = some (some (n - (tables.length + 1))) :=
    Signal.after_of_le (by omega)
  have hseeds : Signal.after (some (n - (tables.length + 1))) seeds.length =
      some (some (n - (tables.length + 1 + seeds.length))) := by
    rw [Signal.after_of_le (by omega), Nat.sub_sub]
  unfold ParsedSchema.ofSources at hp ⊢
  rw [Signal.reached_of_after (Nat.le_succ _) htables, htables]
  simp only
  rw [Signal.reached_of_after (Nat.le_refl _) hseeds, hseeds]
  simp only [Signal.reached_none, Signal.after_none, Prod.mk.injEq, Option.some.injEq, and_true] at hp ⊢
  exact hp

end

section
variable {sur : Surroundings} {plan : List (Table × Fate)} {n : Nat}

theorem exists_mapM_take (h : n < (planLooks sur plan).length) :
    n ≤ plan.length ∧ ∃ results, (plan.take n).mapM (tableResult sur) = .ok results := by
  induction plan generalizing n with
  | nil =>
    obtain rfl : n = 0 := by simpa [planLooks] using h
    exact ⟨Nat.le_refl 0, [], rfl⟩
  | cons x rest ih =>
    cases n with
    | zero => exact ⟨Nat.zero_le _, [], rfl⟩
    | succ n =>
      unfold planLooks at h
      cases hx : tableResult sur x with
      | error e =>
        rw [hx] at h
        cases Nat.lt_of_succ_lt_succ h
      | ok r =>
        rw [hx] at h
        obtain ⟨hlength, results, hresults⟩ := ih (Nat.lt_of_succ_lt_succ h)
        exact ⟨Nat.succ_le_succ hlength, r :: results,
          mapM_cons_eq_ok.2 ⟨r, results, hx, hresults, rfl⟩⟩

/-- Behind the last look every table was tried, up to the first that fails. -/
theorem mapM_take_of_length_le (h : (planLooks sur plan).length ≤ n) :
    (plan.take n).mapM (tableResult sur) = plan.mapM (tableResult sur) ∧
      ∀ results, plan.mapM (tableResult sur) = .ok results → plan.length < n := by
  induction plan generalizing n with
  | nil => exact ⟨by rw [List.take_nil], fun _ _ => h⟩
  | cons x rest ih =>
    unfold planLooks at h
    cases n with
    | zero => cases h
    | succ n =>
      cases hx : tableResult sur x with
      | error e =>
        constructor
        · rw [List.take_succ_cons, List.mapM_cons, List.mapM_cons, hx]
          rfl
        · intro results hresults
          obtain ⟨r, _, hr, _, _⟩ := mapM_cons_eq_ok.1 hresults
          rw [hx] at hr
          cases hr
      | ok r =>
        rw [hx] at h
        obtain ⟨htake, hlength⟩ := ih (Nat.le_of_succ_le_succ h)
        constructor
        · rw [List.take_succ_cons, List.mapM_cons, List.mapM_cons, htake]
        · intro results hresults
          obtain ⟨_, more, _, hmore, _⟩ := mapM_cons_eq_ok.1 hresults
          exact Nat.succ_lt_succ (hlength more hmore)

end

section
variable {p : ParsedSchema} {settings : Settings} {n : Nat}

theorem generate_stopped (h : n < (p.looks settings).length) :
    generate p settings (some n) = .ok none ∨ ∃ g, generate p settings (some n) =
        .ok (some (g, some 0)) := by
  obtain ⟨hlength, results, hresults⟩ := exists_mapM_take h
  have hgenerate : generate p settings (some n) = .ok
      ((Signal.after (some n) (fates settings p.tables).length).map fun s => (.assemble p results, s)) := by
    unfold generate
    exact bind_eq_ok.2 ⟨results, hresults, rfl⟩
  rcases Nat.lt_or_eq_of_le hlength with hn | rfl
  · left
    rw [hgenerate, Signal.after_of_lt hn]
    rfl
  · right
    rw [hgenerate, Signal.after_of_le (Nat.le_refl _), Nat.sub_self]
    exact ⟨_, rfl⟩

theorem generate_passed (h : (p.looks settings).length ≤ n) :
    (∃ e, generate p settings (some n) = .error e ∧ generate p settings none = .error e) ∨
      ∃ g left, generate p settings (some n) = .ok (some (g, some (left + 1))) ∧
        generate p settings none = .ok (some (g, none)) := by
  obtain ⟨htake, hlength⟩ := mapM_take_of_length_le h
  cases hresults : (fates settings p.tables).mapM (tableResult (p.surroundings settings)) with
  | error e =>
    rw [hresults] at htake
    refine .inl ⟨e, ?_, ?_⟩
    · unfold generate
      simp only [Signal.reached, htake]
      rfl
    · unfold generate
      simp only [Signal.reached_none, hresults]
      rfl
  | ok results =>
    have hn := hlength results hresults
    rw [hresults] at htake
    obtain ⟨left, hleft⟩ := Nat.exists_eq_add_of_lt hn
    have hsignal : Signal.after (some n) (fates settings p.tables).length = some (some (left + 1)) := by
      rw [Signal.after_of_le (Nat.le_of_lt hn), Option.some_inj, Option.some_inj]
      omega
    refine .inr ⟨.assemble p results, left, ?_, generate_eq_of_mapM hresults⟩
    unfold generate
    simp only [Signal.reached, htake, hsignal]
    rfl

end

/-- The run gives nothing but that it was cancelled, and leaves the disk as it was. -/
structure RunState.Cancelled (s : RunState) (d : Disk) : Prop where
  result : s.result = .ok { generation := {}, outcomes := [], cancelled := true }
  disk : s.disk = d

theorem RunState.cancelled_cancelled (d : Disk) (cache : Option Cache) (records : List LogRecord) :
    (RunState.cancelled d cache records).Cancelled d where
  result := rfl
  disk := rfl

section
variable {d : Disk} {settings : Settings} {cache : Option Cache} {dry : Bool} {n : Nat}
variable {records : List LogRecord} {tables seeds : List Source} {unread : List Diagnostic}

theorem process_stopped (h : n < (processLooks cache settings tables seeds).length) :
    (RunState.process d cache settings (some n) dry records tables seeds unread).Cancelled d := by
  obtain ⟨p, cache', hp⟩ := exists_ofSources cache tables seeds
  rw [processLooks, hp, List.length_append, List.length_cons] at h
  unfold RunState.process
  by_cases hparsing : n < (parsingLooks tables seeds).length
  · have hnone : (ParsedSchema.ofSources cache (some n) tables seeds).1 = none := ofSources_stopped hparsing
    generalize ParsedSchema.ofSources cache (some n) tables seeds = x at hnone ⊢
    obtain ⟨_, cache''⟩ := x
    cases hnone
    exact RunState.cancelled_cancelled d cache'' records
  · rw [ofSources_passed hp (Nat.le_of_not_lt hparsing)]
    simp only
    generalize hleft : n - (parsingLooks tables seeds).length = left
    cases left with
    | zero =>
      rw [Signal.after_of_lt Nat.zero_lt_one]
      exact RunState.cancelled_cancelled d cache' _
    | succ left =>
      rw [Signal.after_of_le (Nat.le_add_left 1 left), Nat.add_sub_cancel]
      simp only
      have hlooks : left < (ParsedSchema.looks { p with diagnostics := unread ++ p.diagnostics }
          settings).length := by
        change left < (p.looks settings).length
        simp only at h
        omega
      rcases generate_stopped hlooks with hgenerate | ⟨g, hgenerate⟩
      · rw [hgenerate]
        exact RunState.cancelled_cancelled d cache' _
      · rw [hgenerate]
        exact RunState.cancelled_cancelled d cache' _

theorem process_passed (h : (processLooks cache settings tables seeds).length ≤ n) :
    RunState.process d cache settings (some n) dry records tables seeds unread =
      RunState.process d cache settings none dry records tables seeds unread := by
  obtain ⟨p, cache', hp⟩ := exists_ofSources cache tables seeds
  rw [processLooks, hp, List.length_append, List.length_cons] at h
  simp only at h
  unfold RunState.process
  rw [ofSources_passed hp (by omega), hp]
  simp only
  rw [Signal.after_of_le (by omega), Signal.after_none]
  simp only
  have hlooks : (ParsedSchema.looks { p with diagnostics := unread ++ p.diagnostics } settings).length ≤
      n - (parsingLooks tables seeds).length - 1 := by
    change (p.looks settings).length ≤ _
    omega
  rcases generate_passed hlooks with ⟨e, hsome, hnone⟩ | ⟨g, left, hsome, hnone⟩
  · rw [hsome, hnone]
  · rw [hsome, hnone]
    simp only
    rw [Signal.after_of_le (Nat.le_add_left 1 left), Signal.after_none]

theorem runGeneration_of_sources (cache : Option Cache) (dry : Bool) {files : ScriptFiles}
    (hfiles : d.scriptFiles settings.discovery.schemaRoot settings.discovery = .ok files)
    (hsources : d.sources files = .ok (tables, seeds, unread)) :
    ∃ records, ∀ signal, runGeneration d settings signal cache dry =
      match signal.after 1 with
      | none => .cancelled d cache records
      | some later => .process d cache settings later dry records tables seeds unread := by
  unfold Disk.sources at hsources
  unfold runGeneration
  simp only [hfiles, hsources]
  exact ⟨_, fun _ => rfl⟩

end

/-- A signal that some look of the run finds up ends it with nothing and leaves the disk as it was; one that
goes up behind the last look has no part in the run. -/
theorem runGeneration_signal (d : Disk) (settings : Settings) (cache : Option Cache) (dry : Bool) (n : Nat) :
    (n < (d.looks settings cache).length → (runGeneration d settings (some n) cache dry).Cancelled d) ∧
      ((d.looks settings cache).length ≤ n →
        runGeneration d settings (some n) cache dry = runGeneration d settings none cache dry) := by
  unfold Disk.looks
  cases hfiles : d.scriptFiles settings.discovery.schemaRoot settings.discovery with
  | error e =>
    constructor
    · intro h
      cases h
    · intro _
      unfold runGeneration
      simp only [hfiles]
  | ok files =>
    simp only
    cases hsources : d.sources files with
    | error e =>
      constructor
      · intro h
        cases h
      · intro _
        unfold Disk.sources at hsources
        unfold runGeneration
        simp only [hfiles, hsources]
    | ok read =>
      obtain ⟨tables, seeds, unread⟩ := read
      obtain ⟨records, hrun⟩ := runGeneration_of_sources cache dry hfiles hsources
      simp only
      rw [hrun (some n), hrun none, Signal.after_none]
      cases n with
      | zero =>
        rw [Signal.after_of_lt Nat.zero_lt_one]
        constructor
        · intro _
          exact RunState.cancelled_cancelled d cache records
        · intro h
          cases h
      | succ n =>
        rw [Signal.after_of_le (Nat.le_add_left 1 n), Nat.add_sub_cancel]
        constructor
        · intro h
          exact process_stopped (Nat.lt_of_succ_lt_succ h)
        · intro h
          exact process_passed (Nat.le_of_succ_le_succ h)

/-- A run over one script can be stopped at six looks. -/
theorem runGeneration_signal_scriptDisk :
    scriptDisk.looks (scriptSettings ".gitignore") none =
        [.afterReading, .beforeScript .table "/db/Tables/Item.sql", .betweenKinds, .afterParsing,
          .beforeTable "dbo.Item", .afterGenerating] ∧
      (∀ n < 6, (runGeneration scriptDisk (scriptSettings ".gitignore") (some n) none false).Cancelled
        scriptDisk) ∧
      ∀ n ≥ 6, runGeneration scriptDisk (scriptSettings ".gitignore") (some n) none false =
        runGeneration scriptDisk (scriptSettings ".gitignore") none none false := by
  have hlooks : scriptDisk.looks (scriptSettings ".gitignore") none =
      [.afterReading, .beforeScript .table "/db/Tables/Item.sql", .betweenKinds, .afterParsing,
        .beforeTable "dbo.Item", .afterGenerating] := by decide +kernel
  refine ⟨hlooks, ?_, ?_⟩
  · intro n hn
    exact (runGeneration_signal scriptDisk (scriptSettings ".gitignore") none false n).1 (by rwa [hlooks])
  · intro n hn
    exact (runGeneration_signal scriptDisk (scriptSettings ".gitignore") none false n).2 (by rwa [hlooks])

end SchemaBindings

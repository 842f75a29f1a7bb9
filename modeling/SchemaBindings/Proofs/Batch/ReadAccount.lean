import SchemaBindings.Proofs.Batch.SourceOrder

/-!
Every script is accounted for once when scripts are read. It gives a table or a seed, or one thing is reported
about it; and of several seeds for one table the first is the one that is kept.
-/

namespace SchemaBindings

set_option autoImplicit false

open Text (lower sameIgnoringCase)

def failure? {ε α : Type} : Except ε α → Option ε
  | .ok _ => none
  | .error e => some e

theorem length_toOption_add_failure? {ε α : Type} (results : List (Except ε α)) :
    (results.filterMap Except.toOption).length + (results.filterMap failure?).length = results.length := by
  induction results with
  | nil => rfl
  | cons r rest ih =>
    cases r with
    | error e =>
      simp only [List.filterMap_cons, Except.toOption, failure?, List.length_cons]
      omega
    | ok a =>
      simp only [List.filterMap_cons, Except.toOption, failure?, List.length_cons]
      omega

def Source.tableFate (s : Source) : Except Diagnostic Table :=
  (Table.ofScript s.text).mapError fun e => ⟨s.path, .ofParseError .table e⟩

def Source.seed? (s : Source) : Option SourcedSeed :=
  (Seed.ofScript s.text).toOption.map fun seed => ⟨s.path, seed⟩

/-- The first of the seeds that scripts give for the table whose name has the small form. -/
def firstSeed? (sources : List Source) (key : String) : Option SourcedSeed :=
  (sources.filterMap Source.seed?).find? fun s => lower s.seed.tableName == key

/-- The seed of a script that stands behind others, or what is reported about it. It repeats the target of the
first of the others with a seed for the same table, no matter whether that one was kept. -/
def Source.seedFate (earlier : List Source) (s : Source) : Except Diagnostic SourcedSeed :=
  match Seed.ofScript s.text with
  | .error e => .error ⟨s.path, .refused .seed e⟩
  | .ok seed =>
    match firstSeed? earlier (lower seed.tableName) with
    | some first => .error ⟨s.path, .duplicateSeed seed.tableName first.path⟩
    | none => .ok ⟨s.path, seed⟩

def seedFates (earlier seeds : List Source) : List (Except Diagnostic SourcedSeed) :=
  seeds.mapIdx fun i s => s.seedFate (earlier ++ seeds.take i)

theorem seedFates_cons (earlier : List Source) (s : Source) (rest : List Source) :
    seedFates earlier (s :: rest) = s.seedFate earlier :: seedFates (earlier ++ [s]) rest := by
  unfold seedFates
  rw [List.mapIdx_cons, List.take_zero, List.append_nil]
  simp only [List.take_succ_cons, List.append_assoc, List.singleton_append]

theorem filterMap_seedFates_cons {α : Type} (f : Except Diagnostic SourcedSeed → Option α)
    (earlier : List Source) (s : Source) (rest : List Source) :
    (seedFates earlier (s :: rest)).filterMap f =
      (f (s.seedFate earlier)).toList ++ (seedFates (earlier ++ [s]) rest).filterMap f := by
  rw [seedFates_cons, List.filterMap_cons]
  cases f (s.seedFate earlier) <;> rfl

theorem length_seedFates (earlier seeds : List Source) : (seedFates earlier seeds).length = seeds.length :=
  List.length_mapIdx

/-- The seeds kept so far answer for every name as all the seeds read so far do. -/
def Answers (kept : List SourcedSeed) (earlier : List Source) : Prop :=
  ∀ key, (kept.find? fun s => lower s.seed.tableName == key) = firstSeed? earlier key

section
variable {acc : List SourcedSeed × List Diagnostic} {earlier : List Source}

theorem addSeed_source (h : Answers acc.1 earlier) (s : Source) :
    addSeed acc ⟨s.path, Model.ofScript .seed s.text⟩ =
      (acc.1 ++ (s.seedFate earlier).toOption.toList, acc.2 ++ (failure? (s.seedFate earlier)).toList) := by
  unfold Source.seedFate
  cases hread : Seed.ofScript s.text with
  | error e =>
    have hmodel : Model.ofScript .seed s.text = .error (.script e) := by
      rw [Model.ofScript, hread]
      rfl
    simp only [addSeed, hmodel, failure?, Except.toOption, Option.toList, List.append_nil]
    rfl
  | ok seed =>
    have hmodel : Model.ofScript .seed s.text = .ok (.seed seed) := by
      rw [Model.ofScript, hread]
      rfl
    have hfind : findSeed? acc.1 seed.tableName = firstSeed? earlier (lower seed.tableName) := h _
    simp only [addSeed, hmodel, hfind]
    cases firstSeed? earlier (lower seed.tableName) with
    | none => simp only [failure?, Except.toOption, Option.toList, List.append_nil]
    | some first => simp only [failure?, Except.toOption, Option.toList, List.append_nil]

theorem Answers.step (h : Answers acc.1 earlier) (s : Source) :
    Answers (acc.1 ++ (s.seedFate earlier).toOption.toList) (earlier ++ [s]) := by
  intro key
  rw [List.find?_append, h key, firstSeed?, firstSeed?, List.filterMap_append, List.find?_append]
  unfold Source.seedFate
  cases hread : Seed.ofScript s.text with
  | error e =>
    have hnone : s.seed? = none := by
      rw [Source.seed?, hread]
      rfl
    rw [List.filterMap_cons_none hnone]
    rfl
  | ok seed =>
    have hseed : s.seed? = some ⟨s.path, seed⟩ := by
      rw [Source.seed?, hread]
      rfl
    rw [List.filterMap_cons_some hseed]
    cases hfirst : firstSeed? earlier (lower seed.tableName) with
    | none => simp only [hfirst, Except.toOption, Option.toList, List.filterMap_nil]
    | some first =>
      simp only [hfirst, Except.toOption, Option.toList, List.filterMap_nil, List.find?_nil, Option.or_none,
        List.find?_singleton]
      cases hkey : lower seed.tableName == key with
      | false => simp
      | true =>
        have hfound : (earlier.filterMap Source.seed?).find? (fun s => lower s.seed.tableName == key) =
            some first := by
          rw [← beq_iff_eq.1 hkey]
          exact hfirst
        rw [hfound]
        rfl

theorem foldl_addSeed_sources (seeds : List Source) (acc : List SourcedSeed × List Diagnostic)
    (earlier : List Source) (h : Answers acc.1 earlier) :
    (outcomesOf .seed seeds).foldl addSeed acc =
        (acc.1 ++ (seedFates earlier seeds).filterMap Except.toOption,
          acc.2 ++ (seedFates earlier seeds).filterMap failure?) ∧
      Answers (acc.1 ++ (seedFates earlier seeds).filterMap Except.toOption) (earlier ++ seeds) := by
  induction seeds generalizing acc earlier with
  | nil => exact ⟨by simp [outcomesOf, seedFates], by simpa [seedFates] using h⟩
  | cons s rest ih =>
    obtain ⟨hfold, hanswers⟩ := ih (acc.1 ++ (s.seedFate earlier).toOption.toList,
      acc.2 ++ (failure? (s.seedFate earlier)).toList) (earlier ++ [s]) (h.step s)
    rw [List.append_assoc earlier, List.singleton_append] at hanswers
    rw [outcomesOf, List.map_cons, List.foldl_cons, addSeed_source h, filterMap_seedFates_cons,
      filterMap_seedFates_cons, ← List.append_assoc, ← List.append_assoc]
    exact ⟨hfold, hanswers⟩

end

def ParsedSchema.lookups (p : ParsedSchema) : List (String × Seed) :=
  p.seeds.map fun s => (lower s.seed.tableName, s.seed)

def ParsedSchema.lookupPaths (p : ParsedSchema) : List (String × String) :=
  p.seeds.map fun s => (lower s.seed.tableName, s.path)

/-- What a schema holds of the scripts that it was read from. -/
structure ParsedSchema.Accounts (p : ParsedSchema) (tableSources seedSources : List Source) : Prop where
  tables : p.tables = tableSources.filterMap fun s => s.tableFate.toOption
  diagnostics : p.diagnostics = (tableSources.filterMap fun s => failure? s.tableFate) ++
    (seedSources.mapIdx fun i s => s.seedFate (seedSources.take i)).filterMap failure?
  lookups : ∀ key, p.lookups.lookup key = (firstSeed? seedSources key).map SourcedSeed.seed
  paths : ∀ key, p.lookupPaths.lookup key = (firstSeed? seedSources key).map SourcedSeed.path
  keys : p.lookupPaths.map Prod.fst = p.lookups.map Prod.fst
  keys_nodup : (p.lookups.map Prod.fst).Nodup
  count : p.tables.length + p.lookups.length + p.diagnostics.length = tableSources.length + seedSources.length

theorem lookup_map_key {α β : Type} (f : α → String) (g : α → β) (as : List α) (key : String) :
    (as.map fun a => (f a, g a)).lookup key = (as.find? fun a => f a == key).map g := by
  induction as with
  | nil => rfl
  | cons a rest ih =>
    rw [List.map_cons, List.lookup_cons, List.find?_cons, ih]
    cases hkey : f a == key with
    | true =>
      rw [beq_iff_eq.1 hkey, beq_self_eq_true]
      rfl
    | false =>
      have hne : (key == f a) = false := Bool.beq_comm.trans hkey
      rw [hne]

theorem toOption_tableFate (s : Source) : s.tableFate.toOption = (Table.ofScript s.text).toOption := by
  unfold Source.tableFate
  cases Table.ofScript s.text <;> rfl

theorem failures_outcomesOf (tables : List Source) :
    (outcomesOf .table tables).filterMap (Outcome.failure? .table) =
      tables.filterMap fun s => failure? s.tableFate := by
  unfold outcomesOf
  rw [List.filterMap_map]
  refine List.filterMap_congr fun s _ => ?_
  cases h : Table.ofScript s.text with
  | error e =>
    simp [Outcome.failure?, Model.ofScript, Source.tableFate, failure?, h, Except.map, Except.mapError]
  | ok t =>
    simp [Outcome.failure?, Model.ofScript, Source.tableFate, failure?, h, Except.map, Except.mapError]

theorem accounts_ofOutcomes (tables seeds : List Source) :
    (ParsedSchema.ofOutcomes (outcomesOf .table tables) (outcomesOf .seed seeds)).Accounts tables seeds := by
  obtain ⟨hfold, hanswers⟩ := foldl_addSeed_sources seeds ([], []) [] fun _ => rfl
  have hfates : (seeds.mapIdx fun i s => s.seedFate (seeds.take i)) = seedFates [] seeds := rfl
  have htables : (ParsedSchema.ofOutcomes (outcomesOf .table tables) (outcomesOf .seed seeds)).tables =
      tables.filterMap fun s => s.tableFate.toOption := by
    simp only [ParsedSchema.ofOutcomes, tables_outcomesOf, toOption_tableFate]
  have hseeds : (ParsedSchema.ofOutcomes (outcomesOf .table tables) (outcomesOf .seed seeds)).seeds =
      (seedFates [] seeds).filterMap Except.toOption := by
    simp only [ParsedSchema.ofOutcomes, hfold, List.nil_append]
  have hdiagnostics :
      (ParsedSchema.ofOutcomes (outcomesOf .table tables) (outcomesOf .seed seeds)).diagnostics =
        (tables.filterMap fun s => failure? s.tableFate) ++ (seedFates [] seeds).filterMap failure? := by
    simp only [ParsedSchema.ofOutcomes, hfold, failures_outcomesOf, List.nil_append]
  have hfirst : ∀ key, (((seedFates [] seeds).filterMap Except.toOption).find? fun s =>
      lower s.seed.tableName == key) = firstSeed? seeds key := hanswers
  refine ⟨htables, hfates ▸ hdiagnostics, ?_, ?_, ?_, ?_, ?_⟩
  · intro key
    rw [ParsedSchema.lookups, lookup_map_key, hseeds, hfirst]
  · intro key
    rw [ParsedSchema.lookupPaths, lookup_map_key, hseeds, hfirst]
  · simp only [ParsedSchema.lookups, ParsedSchema.lookupPaths, List.map_map, Function.comp_def]
  · rw [ParsedSchema.lookups, List.map_map, List.Nodup, List.pairwise_map]
    exact (read_ofOutcomes _ _).seeds.imp fun hapart => ne_of_beq_false hapart
  · have hcount := length_toOption_add_failure? (tables.map Source.tableFate)
    have hcount' := length_toOption_add_failure? (seedFates [] seeds)
    rw [List.filterMap_map, List.filterMap_map, List.length_map] at hcount
    rw [length_seedFates] at hcount'
    rw [ParsedSchema.lookups, List.length_map, htables, hseeds, hdiagnostics, List.length_append]
    simp only [Function.comp_def] at hcount
    omega

/-- Scripts that are all read give a schema that accounts for each of them. -/
theorem ofSources_accounts (tables seeds : List Source) :
    ∃ p : ParsedSchema, (∀ signal : Signal, (ParsedSchema.ofSources none signal tables seeds).1 =
        (signal.after (tables.length + 1 + seeds.length)).map fun later => (p, later)) ∧
      p.Accounts tables seeds :=
  ⟨_, fun signal => ofSources_signal signal tables seeds, accounts_ofOutcomes tables seeds⟩

end SchemaBindings

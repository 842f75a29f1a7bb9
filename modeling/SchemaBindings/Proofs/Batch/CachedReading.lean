import SchemaBindings.Proofs.Batch.GeneratedFiles

/-!
Reading with a cache gives what reading without one gives, in every history of calls that share the
cache, also when some of the calls are stopped half way; and the counters of the cache tell what was
read.
-/

namespace SchemaBindings

set_option autoImplicit false

abbrev Script := SourceKind × String

/-- What is remembered of a script, when it gives a model or is refused. -/
def settled? (x : Script) : Option (Except ScriptError Model) :=
  match Model.ofScript x.1 x.2 with
  | .ok m => some (.ok m)
  | .error (.script e) => some (.error e)
  | .error (.numeral _) => none

def settled (scripts : List Script) : List Script := scripts.filter fun x => (settled? x).isSome

theorem ofScript_of_settled {x : Script} {outcome : Except ScriptError Model}
    (h : settled? x = some outcome) : Model.ofScript x.1 x.2 = outcome.mapError .script := by
  unfold settled? at h
  split at h
  · rename_i m hm
    cases h
    exact hm
  · rename_i e he
    cases h
    exact he
  · cases h

/-- No two of the texts have one digest. -/
def Distinguished (scripts : List Script) : Prop :=
  ∀ x ∈ scripts, ∀ y ∈ scripts, Digest.ofString x.2 = Digest.ofString y.2 → x.2 = y.2

instance (scripts : List Script) : Decidable (Distinguished scripts) :=
  inferInstanceAs
    (Decidable (∀ x ∈ scripts, ∀ y ∈ scripts,
      Digest.ofString x.2 = Digest.ofString y.2 → x.2 = y.2))

namespace Cache

def keyOf (x : Script) : CacheKey := key x.1 x.2

theorem eq_of_keyOf {scripts : List Script} (h : Distinguished scripts) {x y : Script} (hx : x ∈ scripts)
    (hy : y ∈ scripts) (hkey : keyOf x = keyOf y) : x = y := by
  obtain ⟨hkind, hdigest⟩ := Prod.mk.inj hkey
  exact Prod.ext hkind (h x hx y hy hdigest)

/-- The cache after it was asked for scripts, one after the other. -/
def after (c : Cache) (scripts : List Script) : Cache :=
  scripts.foldl (fun c x => (c.read x.1 x.2).2) c

/-- The counters and the size of a cache that was asked for scripts. -/
structure Counts (c : Cache) (scripts : List Script) : Prop where
  asked : c.hits + c.misses = (settled scripts).length
  size_misses : c.size = c.misses
  size_distinct : c.size = (settled scripts).toFinset.card

/-- Of the scripts of a run the cache knows those it was asked for. -/
structure Knows (c : Cache) (run scripts : List Script) : Prop extends c.Counts scripts where
  lookup : ∀ x ∈ run, c.entries.lookup (keyOf x) = if x ∈ scripts then settled? x else none

section
variable {c : Cache} {run scripts : List Script} {x : Script} {outcome : Except ScriptError Model}

theorem read_of_lookup (h : c.entries.lookup (keyOf x) = some outcome) :
    c.read x.1 x.2 = (outcome.mapError .script, { c with hits := c.hits + 1 }) := by
  unfold keyOf at h
  simp only [read, h]

theorem read_of_settled (h : c.entries.lookup (keyOf x) = none) (hx : settled? x = some outcome) :
    c.read x.1 x.2 = (Model.ofScript x.1 x.2, c.remember (keyOf x) outcome) := by
  unfold keyOf at h
  rw [ofScript_of_settled hx]
  simp only [read, h, ofScript_of_settled hx]
  cases outcome <;> rfl

theorem read_of_unsettled (h : c.entries.lookup (keyOf x) = none) (hx : settled? x = none) :
    c.read x.1 x.2 = (Model.ofScript x.1 x.2, c) := by
  unfold keyOf at h
  unfold settled? at hx
  split at hx
  · cases hx
  · cases hx
  · rename_i e he
    simp only [read, h, he]

/-- A script that is neither read to a model nor refused leaves no trace. -/
theorem Knows.ignore (h : c.Knows run scripts) (hx : settled? x = none) : c.Knows run (scripts ++ [x]) := by
  have hsame : settled (scripts ++ [x]) = settled scripts := by simp [settled, hx]
  refine ⟨⟨?_, h.size_misses, ?_⟩, ?_⟩
  · rw [hsame]
    exact h.asked
  · rw [hsame]
    exact h.size_distinct
  · intro y hy
    rw [h.lookup y hy]
    by_cases hyx : y = x
    · rw [hyx, hx, ite_self, ite_self]
    · simp only [List.mem_append, List.mem_singleton, hyx, or_false]

theorem settled_append (scripts : List Script) (hx : settled? x = some outcome) :
    settled (scripts ++ [x]) = settled scripts ++ [x] := by
  simp [settled, hx]

theorem toFinset_settled_append (scripts : List Script) (hx : settled? x = some outcome) :
    (settled (scripts ++ [x])).toFinset = insert x (settled scripts).toFinset := by
  ext y
  rw [settled_append scripts hx, List.mem_toFinset, Finset.mem_insert, List.mem_toFinset, List.mem_append,
    List.mem_singleton, or_comm]

theorem mem_toFinset_settled (hx : settled? x = some outcome) :
    x ∈ (settled scripts).toFinset ↔ x ∈ scripts := by
  simp [settled, hx]

theorem Knows.hit (h : c.Knows run scripts) (hx : settled? x = some outcome) (hasked : x ∈ scripts) :
    ({ c with hits := c.hits + 1 } : Cache).Knows run (scripts ++ [x]) := by
  refine ⟨⟨?_, h.size_misses, ?_⟩, ?_⟩
  · rw [settled_append scripts hx, List.length_append, List.length_singleton, ← h.asked]
    exact Nat.add_right_comm _ _ _
  · rw [toFinset_settled_append scripts hx, Finset.insert_eq_of_mem ((mem_toFinset_settled hx).2 hasked)]
    exact h.size_distinct
  · intro y hy
    have hsame : y ∈ scripts ++ [x] ↔ y ∈ scripts := by
      rw [List.mem_append, List.mem_singleton, or_iff_left_of_imp]
      rintro rfl
      exact hasked
    simp only [hsame]
    exact h.lookup y hy

theorem Knows.miss (h : c.Knows run scripts) (hrun : Distinguished run) (hmem : x ∈ run)
    (hx : settled? x = some outcome) (hnew : x ∉ scripts) :
    (c.remember (keyOf x) outcome).Knows run (scripts ++ [x]) := by
  have hsize : (c.remember (keyOf x) outcome).size = c.size + 1 := List.length_append
  refine ⟨⟨?_, ?_, ?_⟩, ?_⟩
  · rw [settled_append scripts hx, List.length_append, List.length_singleton, ← h.asked]
    rfl
  · rw [hsize, h.size_misses]
    rfl
  · have hnew' : x ∉ (settled scripts).toFinset := fun hmem => hnew ((mem_toFinset_settled hx).1 hmem)
    rw [toFinset_settled_append scripts hx, Finset.card_insert_of_notMem hnew', hsize, h.size_distinct]
  · intro y hy
    unfold remember
    rw [List.lookup_append, h.lookup y hy, List.lookup_cons, List.lookup_nil]
    by_cases hyx : y = x
    · rw [hyx, if_neg hnew, beq_self_eq_true, if_pos (List.mem_append_right _ List.mem_cons_self), hx]
      rfl
    · have hkey : (keyOf y == keyOf x) = false :=
        beq_false_of_ne fun hkey => hyx (eq_of_keyOf hrun hy hmem hkey)
      simp only [hkey, Option.or_none, List.mem_append, List.mem_singleton, hyx, or_false]

theorem Knows.read (h : c.Knows run scripts) (hrun : Distinguished run) (hmem : x ∈ run) :
    (c.read x.1 x.2).1 = Model.ofScript x.1 x.2 ∧ (c.read x.1 x.2).2.Knows run (scripts ++ [x]) := by
  have hlookup := h.lookup x hmem
  cases hx : settled? x with
  | none =>
    rw [read_of_unsettled (by rw [hlookup, hx, ite_self]) hx]
    exact ⟨rfl, h.ignore hx⟩
  | some outcome =>
    by_cases hasked : x ∈ scripts
    · rw [read_of_lookup (hlookup.trans (by rw [if_pos hasked, hx]))]
      exact ⟨(ofScript_of_settled hx).symm, h.hit hx hasked⟩
    · rw [read_of_settled (hlookup.trans (if_neg hasked)) hx]
      exact ⟨rfl, h.miss hrun hmem hx hasked⟩

theorem after_append (c : Cache) (scripts more : List Script) :
    c.after (scripts ++ more) = (c.after scripts).after more :=
  List.foldl_append

theorem Knows.after (h : c.Knows run scripts) (hrun : Distinguished run) {more : List Script}
    (hmore : more ⊆ run) : (c.after more).Knows run (scripts ++ more) := by
  induction more generalizing c scripts with
  | nil =>
    rw [List.append_nil]
    exact h
  | cons x rest ih =>
    obtain ⟨hx, hrest⟩ := List.cons_subset.1 hmore
    have hrest := ih (h.read hrun hx).2 hrest
    rw [List.append_assoc, List.singleton_append] at hrest
    exact hrest

theorem knows_empty (run : List Script) : ({} : Cache).Knows run [] :=
  ⟨⟨rfl, rfl, rfl⟩, fun _ _ => rfl⟩

end

end Cache

def scriptsOf (kind : SourceKind) (sources : List Source) : List Script :=
  sources.map fun s => (kind, s.text)

section
variable {c : Cache} {run scripts : List Script}

theorem readAll_some (h : c.Knows run scripts) (hrun : Distinguished run) (kind : SourceKind)
    {sources : List Source} (hsources : scriptsOf kind sources ⊆ run) :
    readAll kind (some c) sources = (outcomesOf kind sources, some (c.after (scriptsOf kind sources))) := by
  induction sources generalizing c scripts with
  | nil => rfl
  | cons s rest ih =>
    obtain ⟨hs, hrest⟩ := List.cons_subset.1 hsources
    obtain ⟨hresult, hknows⟩ := h.read hrun hs
    have hmodel : readModel (some c) kind s.text =
        (Model.ofScript kind s.text, some (c.read kind s.text).2) :=
      congrArg (·, some (c.read kind s.text).2) hresult
    unfold readAll
    rw [hmodel]
    simp only [ih hknows hrest]
    rfl

end

/-- A call that reads scripts, with the signal that may stop it. -/
structure Call where
  signal : Signal
  tables : List Source
  seeds : List Source

/-- The scripts that a call comes to before it ends or is stopped. -/
def Call.scripts (call : Call) : List Script :=
  scriptsOf .table (call.signal.reached call.tables) ++
    match call.signal.after (call.tables.length + 1) with
    | none => []
    | some signal => scriptsOf .seed (signal.reached call.seeds)

def Call.read (call : Call) (cache : Option Cache) : Option (ParsedSchema × Signal) × Option Cache :=
  ParsedSchema.ofSources cache call.signal call.tables call.seeds

/-- Calls one after the other; each uses the cache that the calls before it left. -/
def readCalls : Option Cache → List Call → List (Option (ParsedSchema × Signal)) × Option Cache
  | cache, [] => ([], cache)
  | cache, call :: rest =>
    let (parsed, cache) := call.read cache
    let (more, cache) := readCalls cache rest
    (parsed :: more, cache)

section
variable {c : Cache} {run scripts : List Script}

theorem Call.read_some (call : Call) (h : c.Knows run scripts) (hrun : Distinguished run)
    (hcall : call.scripts ⊆ run) :
    call.read (some c) = ((call.read none).1, some (c.after call.scripts)) := by
  obtain ⟨signal, tables, seeds⟩ := call
  unfold Call.scripts at hcall
  unfold Call.read Call.scripts ParsedSchema.ofSources
  obtain ⟨htables, hseeds⟩ := List.append_subset.1 hcall
  simp only [readAll_none, readAll_some h hrun .table htables]
  cases hlater : signal.after (tables.length + 1) with
  | none => simp only [List.append_nil]
  | some later =>
    simp only [hlater] at hseeds
    simp only [readAll_some (h.after hrun htables) hrun .seed hseeds, Cache.after_append]

theorem readCalls_some (calls : List Call) (h : c.Knows run scripts) (hrun : Distinguished run)
    (hcalls : calls.flatMap Call.scripts ⊆ run) :
    readCalls (some c) calls =
      (calls.map fun call => (call.read none).1, some (c.after (calls.flatMap Call.scripts))) := by
  induction calls generalizing c scripts with
  | nil => rfl
  | cons call rest ih =>
    rw [List.flatMap_cons] at hcalls
    obtain ⟨hcall, hrest⟩ := List.append_subset.1 hcalls
    simp only [readCalls, call.read_some h hrun hcall, ih (h.after hrun hcall) hrest, List.map_cons,
      List.flatMap_cons, Cache.after_append]

end

/-- Calls that share a cache give what each of them gives without one, and at every moment of the run the
cache counts the scripts that were read until then. -/
theorem readCalls_cached (calls : List Call) (h : Distinguished (calls.flatMap Call.scripts)) :
    readCalls (some {}) calls =
        (calls.map fun call => (call.read none).1, some (Cache.after {} (calls.flatMap Call.scripts))) ∧
      ∀ scripts, scripts <+: calls.flatMap Call.scripts → (Cache.after {} scripts).Counts scripts := by
  refine ⟨readCalls_some calls (Cache.knows_empty _) h (List.Subset.refl _), ?_⟩
  intro scripts hscripts
  exact ((Cache.knows_empty _).after h hscripts.subset).toCounts

/-- Three calls. The second is stopped before its second table; the third comes to what both of the
others read. -/
def repeatedCalls : List Call :=
  let item := ⟨"Item.sql", "CREATE TABLE dbo.Item (ItemID int)"⟩
  let lost := ⟨"Lost.sql", "CREATE TABLE dbo.Lost"⟩
  let kinds := ⟨"Kinds.sql", "MERGE INTO dbo.Kind AS t USING (VALUES (1)) AS s (KindID)"⟩
  [⟨none, [item], [kinds, kinds]⟩, ⟨some 1, [lost, item], []⟩, ⟨some 9, [item, lost], [kinds]⟩]

theorem readCalls_repeatedCalls :
    Distinguished (repeatedCalls.flatMap Call.scripts) ∧
    readCalls (some {}) repeatedCalls = (repeatedCalls.map fun call => (call.read none).1,
      some (Cache.after {} (repeatedCalls.flatMap Call.scripts))) ∧
    (∀ scripts, scripts <+: repeatedCalls.flatMap Call.scripts →
      (Cache.after {} scripts).Counts scripts) ∧
    ((repeatedCalls.map fun call => (call.read none).1).map Option.isSome) = [true, false, true] ∧
    (Cache.after {} (repeatedCalls.flatMap Call.scripts)).hits = 4 ∧
    (Cache.after {} (repeatedCalls.flatMap Call.scripts)).misses = 3 := by
  have hdistinguished : Distinguished (repeatedCalls.flatMap Call.scripts) := by decide +kernel
  obtain ⟨hread, hcounts⟩ := readCalls_cached repeatedCalls hdistinguished
  exact ⟨hdistinguished, hread, hcounts, by decide +kernel, by decide +kernel, by decide +kernel⟩

end SchemaBindings

import SchemaBindings.Proofs.Batch.GeneratedFiles

/-!
What holds of a schema whatever scripts it was read from, with a cache or without: no two of its seeds are
for one table, and its diagnostics are about reading.
-/

namespace SchemaBindings

set_option autoImplicit false

open Text (lower sameIgnoringCase sameIgnoringCase_comm)

/-- Two seeds for different tables. -/
def SourcedSeed.Apart (a b : SourcedSeed) : Prop :=
  sameIgnoringCase a.seed.tableName b.seed.tableName = false

/-- Whether the issue can come up while scripts are read. -/
def Issue.ofReading : Issue → Bool
  | unreadable _ | refused .. | unexpected .. | duplicateSeed .. => true
  | duplicateTable _ | rowWidth .. | orphanSeed _ => false

theorem Issue.ofReading_ofParseError (kind : SourceKind) (e : ParseError) :
    (Issue.ofParseError kind e).ofReading = true := by
  cases e <;> rfl

/-- What reading sees to. -/
structure ParsedSchema.Read (p : ParsedSchema) : Prop where
  seeds : p.seeds.Pairwise SourcedSeed.Apart
  diagnostics : ∀ d ∈ p.diagnostics, d.issue.ofReading = true

theorem findSeed?_eq_none {seeds : List SourcedSeed} {table : String} (h : findSeed? seeds table = none) :
    ∀ s ∈ seeds, sameIgnoringCase s.seed.tableName table = false := by
  intro s hs
  exact Bool.eq_false_iff.2 (List.find?_eq_none.1 h s hs)

theorem addSeed_read {acc : List SourcedSeed × List Diagnostic} (o : Outcome)
    (hseeds : acc.1.Pairwise SourcedSeed.Apart) (hissues : ∀ d ∈ acc.2, d.issue.ofReading = true) :
    (addSeed acc o).1.Pairwise SourcedSeed.Apart ∧
        ∀ d ∈ (addSeed acc o).2, d.issue.ofReading = true := by
  unfold addSeed
  split
  · rename_i e _
    refine ⟨hseeds, ?_⟩
    rw [List.forall_mem_append, List.forall_mem_singleton]
    exact ⟨hissues, Issue.ofReading_ofParseError .seed e⟩
  · exact ⟨hseeds, hissues⟩
  · rename_i s _
    split
    · refine ⟨hseeds, ?_⟩
      rw [List.forall_mem_append, List.forall_mem_singleton]
      exact ⟨hissues, rfl⟩
    · rename_i hnone
      refine ⟨?_, hissues⟩
      rw [List.pairwise_append]
      refine ⟨hseeds, List.pairwise_singleton _ _, ?_⟩
      intro a ha b hb
      obtain rfl := List.mem_singleton.1 hb
      exact findSeed?_eq_none hnone a ha

theorem foldl_addSeed_read (outcomes : List Outcome) (acc : List SourcedSeed × List Diagnostic)
    (hseeds : acc.1.Pairwise SourcedSeed.Apart) (hissues : ∀ d ∈ acc.2, d.issue.ofReading = true) :
    (outcomes.foldl addSeed acc).1.Pairwise SourcedSeed.Apart ∧
      ∀ d ∈ (outcomes.foldl addSeed acc).2, d.issue.ofReading = true := by
  induction outcomes generalizing acc with
  | nil => exact ⟨hseeds, hissues⟩
  | cons o rest ih =>
    obtain ⟨hseeds, hissues⟩ := addSeed_read o hseeds hissues
    exact ih (addSeed acc o) hseeds hissues

theorem read_ofOutcomes (tables seeds : List Outcome) : (ParsedSchema.ofOutcomes tables seeds).Read := by
  have hfold := foldl_addSeed_read seeds ([], []) .nil (List.forall_mem_nil _)
  refine ⟨hfold.1, ?_⟩
  intro d hd
  rcases List.mem_append.1 hd with hd | hd
  · obtain ⟨o, _, ho⟩ := List.mem_filterMap.1 hd
    unfold Outcome.failure? at ho
    split at ho
    · cases ho
    · cases ho
      exact Issue.ofReading_ofParseError .table _
  · exact hfold.2 d hd

theorem read_ofSources {cache : Option Cache} {signal later : Signal} {tables seeds : List Source}
    {p : ParsedSchema} (h : (ParsedSchema.ofSources cache signal tables seeds).1 = some (p, later)) :
    p.Read := by
  unfold ParsedSchema.ofSources at h
  simp only at h
  split at h
  · cases h
  · simp only at h
    split at h
    · cases h
    · cases h
      exact read_ofOutcomes _ _

end SchemaBindings

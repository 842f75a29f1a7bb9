import SchemaBindings.Proofs.Batch.SourceOrder
import SchemaBindings.Proofs.Bytes.Encodings
import SchemaBindings.Proofs.Json.RoundTrip

/-!
A manifest is ASCII and is read back as the entries that it was written for. The manifest of a generation
tells the TypeScript files beside it, each with its content, in their order.
-/

namespace SchemaBindings

set_option autoImplicit false

namespace Code

def ManifestEntry.ofJson? (j : Json) : Option ManifestEntry := do
  let tableName ← (j.member? "tableName").bind Json.asString?
  let fileName ← (j.member? "fileName").bind Json.asString?
  let encoded ← (j.member? "content").bind Json.asString?
  let content ← Base64.text? encoded
  return ⟨tableName, fileName, content⟩

def readManifest? (text : String) : Option (List ManifestEntry) := do
  let j ← Json.ofString? text
  let files ← (j.member? "files").bind Json.asArray?
  files.mapM ManifestEntry.ofJson?

theorem ManifestEntry.ofJson?_toJson (e : ManifestEntry) : ofJson? e.toJson = some e := by
  have htable : e.toJson.member? "tableName" = some (.string e.tableName) := rfl
  have hfile : e.toJson.member? "fileName" = some (.string e.fileName) := rfl
  have hcontent : e.toJson.member? "content" =
      some (.string (String.ofList (Base64.encode e.content.toUTF8.toList))) := rfl
  unfold ofJson?
  rw [htable, hfile, hcontent]
  simp only [Option.bind_eq_bind, Option.bind_some, Json.asString?, Base64.text?_encode, Option.pure_def]

theorem mapM_ofJson? (entries : List ManifestEntry) :
    (entries.map ManifestEntry.toJson).mapM ManifestEntry.ofJson? = some entries := by
  induction entries with
  | nil => rfl
  | cons e rest ih =>
    rw [List.map_cons, List.mapM_cons, e.ofJson?_toJson, ih]
    rfl

theorem readManifest?_manifest (entries : List ManifestEntry) :
    readManifest? (manifest entries) = some entries := by
  have hjson : Json.ofString? (manifest entries) =
      some (.object [("files", .array (entries.map ManifestEntry.toJson))]) :=
    Json.ofString?_indented 0 _ (by decide)
  unfold readManifest?
  rw [hjson, Option.bind_eq_bind, Option.bind_some]
  exact mapM_ofJson? entries

end Code

theorem target_tableResult {sur : Surroundings} {x : Table × Fate} {r : TableResult}
    (h : tableResult sur x = .ok r) : ∀ f ∈ r.files, f.target ≠ .manifest := by
  rcases tableResult_files h with hfiles | ⟨_, hfiles | ⟨_, _, _, _, _, _, hfiles⟩⟩
  · rw [hfiles]
    exact List.forall_mem_nil _
  · rw [hfiles, List.forall_mem_cons, List.forall_mem_singleton]
    exact ⟨nofun, nofun⟩
  · rw [hfiles, List.forall_mem_cons, List.forall_mem_cons, List.forall_mem_singleton]
    exact ⟨nofun, nofun, nofun⟩

/-- The manifest of a generation is written for its TypeScript files. -/
theorem content_of_mem_filesFor_manifest {p : ParsedSchema} {settings : Settings} {g : GenerationResult}
    {signal later : Signal} (h : generate p settings signal = .ok (some (g, later))) :
    ∀ f ∈ g.filesFor .manifest, f.content = Code.manifest
      ((g.filesFor .typeScript).map fun f => ⟨f.tableName, f.fileName, f.content⟩) := by
  obtain ⟨results, hresults, rfl⟩ := generate_eq_ok h
  have hfits := (forall₂_of_mapM_eq_ok hresults).imp fun _ _ => tableResult_fits
  intro f hf
  obtain ⟨hmem, htarget⟩ := List.mem_filter.1 hf
  rcases List.mem_append.1 hmem with hmem | hmem
  · obtain ⟨r, hr, hmem⟩ := List.mem_flatMap.1 hmem
    obtain ⟨x, _, hx⟩ := mem_of_mapM_eq_ok hresults r hr
    exact (target_tableResult hx f hmem (eq_of_beq htarget)).elim
  · have hentries : results.flatMap TableResult.manifest =
        ((GenerationResult.assemble p results).filesFor .typeScript).map fun f =>
          ⟨f.tableName, f.fileName, f.content⟩ := by
      rw [filesFor_assemble (by decide)]
      exact flatMap_manifest hfits
    unfold GenerationResult.manifestFiles at hmem
    split at hmem
    · cases hmem
    · rw [List.mem_singleton.1 hmem, hentries]

/-- A manifest is read back as what it was written for; that of a generation tells its TypeScript files. -/
theorem manifest_readBack :
    (∀ entries : List Code.ManifestEntry, (∀ c ∈ (Code.manifest entries).toList, c.toNat < 128) ∧
      Code.readManifest? (Code.manifest entries) = some entries) ∧
    ∀ (p : ParsedSchema) (settings : Settings) (g : GenerationResult) (signal later : Signal),
      generate p settings signal = .ok (some (g, later)) → ∀ f ∈ g.filesFor .manifest,
        Code.readManifest? f.content =
          some ((g.filesFor .typeScript).map fun f => ⟨f.tableName, f.fileName, f.content⟩) := by
  constructor
  · intro entries
    exact ⟨fun c hc => (Code.plain_manifest entries c hc).toNat_lt, Code.readManifest?_manifest entries⟩
  · intro p settings g signal later h f hf
    rw [content_of_mem_filesFor_manifest h f hf, Code.readManifest?_manifest]

/-- Two tables whose rows hold texts outside ASCII, and one without rows. -/
def foreignScripts : List Source × List Source :=
  ([⟨"Kind.sql", "CREATE TABLE dbo.Kind (KindID int)"⟩,
      ⟨"Log.sql", "CREATE TABLE dbo.Log (LogID int)"⟩,
      ⟨"Tone.sql", "CREATE TABLE dbo.Tone (ToneID int)"⟩],
    [⟨"Kinds.sql",
      "MERGE INTO dbo.Kind AS t USING (VALUES (1, 'Größe'), (2, '漢字')) AS s (KindID, KindName)"⟩,
      ⟨"Tones.sql", "MERGE INTO dbo.Tone AS t USING (VALUES (1, 'Tone 𝄞')) AS s (ToneID, ToneName)"⟩])

theorem manifest_foreignScripts : ∃ p g f,
    (ParsedSchema.ofSources none none foreignScripts.1 foreignScripts.2).1 = some (p, none) ∧
    generate p {} none = .ok (some (g, none)) ∧ (g.filesFor .typeScript).length = 2 ∧
      f ∈ g.filesFor .manifest ∧
    Code.readManifest? f.content =
      some ((g.filesFor .typeScript).map fun f => ⟨f.tableName, f.fileName, f.content⟩) := by
  have hparsed : ∃ p, (ParsedSchema.ofSources none none foreignScripts.1 foreignScripts.2).1 =
      some (p, none) ∧
      (generate p {} none).isOk = true ∧ ((generate p {} none).toOption.join.map fun r =>
        ((r.1.filesFor .typeScript).length, (r.1.filesFor .manifest).length)) = some (2, 1) := by
    refine ⟨_, rfl, ?_⟩
    decide +kernel
  obtain ⟨p, hp, hok, hcounts⟩ := hparsed
  obtain ⟨g, hg⟩ := exists_generate_of_isOk hok
  rw [hg] at hcounts
  obtain ⟨hscripts, hmanifests⟩ := Prod.mk.inj (Option.some.inj hcounts)
  obtain ⟨f, hf⟩ := List.length_eq_one_iff.1 hmanifests
  have hmem : f ∈ g.filesFor .manifest := by
    rw [hf]
    exact List.mem_singleton_self f
  exact ⟨p, g, f, hp, hg, hscripts, hmem, manifest_readBack.2 p {} g none none hg f hmem⟩

end SchemaBindings

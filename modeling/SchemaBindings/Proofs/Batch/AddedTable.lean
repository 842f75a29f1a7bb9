import SchemaBindings.Proofs.Batch.SourceOrder

/-!
A table whose name nothing else in a schema mentions can be added to it, at any place, and disturbs nothing:
the files of the other tables stay as they are and in their order, and the same is reported. The table adds
its own two files, unless it is left out.
-/

namespace SchemaBindings

set_option autoImplicit false

open Text (lower sameIgnoringCase sameIgnoringCase_comm)

/-- Nothing in the schema has the name of the table, ignoring case: no other table, no seed, and no property
that a column could give. -/
structure ParsedSchema.Free (p : ParsedSchema) (name : String) : Prop where
  tables : ∀ u ∈ p.tables, sameIgnoringCase u.tableName name = false
  seeds : ∀ s ∈ p.seeds, sameIgnoringCase s.seed.tableName name = false
  columns : ∀ u ∈ p.tables, ∀ c ∈ u.columns, ∀ property ∈ Reference.propertyName? c.name,
    sameIgnoringCase property name = false
  seedColumns : ∀ s ∈ p.seeds, ∀ c ∈ s.seed.columnNames, ∀ property ∈ Reference.propertyName? c,
    sameIgnoringCase property name = false

/-- The schema with other tables, read from the same seeds. -/
def ParsedSchema.withTables (p : ParsedSchema) (tables : List Table) : ParsedSchema := { p with tables }

theorem contains_insert_table {before after : List Table} {t : Table} {name : String}
    (h : sameIgnoringCase name t.tableName = false) :
    (NameSet.ofList ((before ++ t :: after).map Table.tableName)).contains name =
      (NameSet.ofList ((before ++ after).map Table.tableName)).contains name := by
  have hother : lower t.tableName ≠ lower name := Ne.symm (beq_eq_false_iff_ne.1 h)
  rw [Bool.eq_iff_iff, NameSet.contains_ofList, NameSet.contains_ofList]
  simp only [List.map_append, List.map_cons, List.mem_append, List.mem_cons, or_and_right, exists_or,
    exists_eq_left, hother, false_or]

/-- The fates of tables hang on those names seen before that are their own. -/
theorem fatesFrom_congr {settings : Settings} {seen seen' : List String} {tables : List Table}
    (h : ∀ u ∈ tables, (seen.any (sameIgnoringCase · u.tableName)) =
      seen'.any (sameIgnoringCase · u.tableName)) :
    fatesFrom settings seen tables = fatesFrom settings seen' tables := by
  induction tables generalizing seen seen' with
  | nil => rfl
  | cons t rest ih =>
    obtain ⟨hhead, hrest⟩ := List.forall_mem_cons.1 h
    unfold fatesFrom
    rw [hhead, ih hrest]
    refine if_congr Iff.rfl rfl (if_congr Iff.rfl rfl (congrArg _ (ih fun u hu => ?_)))
    rw [List.any_cons, List.any_cons, hrest u hu]

/-- A table of a new name is kept or left out by itself, and does not change what becomes of the others. -/
theorem fatesFrom_insert (settings : Settings) {seen : List String} {before after : List Table} {t : Table}
    (hseen : ∀ name ∈ seen, sameIgnoringCase name t.tableName = false)
    (hnew : ∀ u ∈ before ++ after, sameIgnoringCase u.tableName t.tableName = false) :
    ∃ earlier later, fatesFrom settings seen (before ++ after) = earlier ++ later ∧
      fatesFrom settings seen (before ++ t :: after) =
        earlier ++ (t, if settings.excludes t.tableName then .excluded else .kept) :: later := by
  induction before generalizing seen with
  | nil =>
    refine ⟨[], fatesFrom settings seen after, rfl, ?_⟩
    have hfree : (seen.any (sameIgnoringCase · t.tableName)) = false := by
      rw [List.any_eq_false]
      exact fun name hname => Bool.eq_false_iff.1 (hseen name hname)
    have hlater : fatesFrom settings (t.tableName :: seen) after = fatesFrom settings seen after := by
      refine fatesFrom_congr fun u hu => ?_
      rw [List.any_cons, sameIgnoringCase_comm, hnew u hu, Bool.false_or]
    rw [List.nil_append, List.nil_append, fatesFrom, hfree, hlater]
    split
    · rfl
    · rfl
  | cons u rest ih =>
    rw [List.cons_append, List.forall_mem_cons] at hnew
    rw [List.cons_append, List.cons_append, fatesFrom, fatesFrom]
    have hstep : ∀ (fate : Fate) {seen' : List String},
        (∀ name ∈ seen', sameIgnoringCase name t.tableName = false) → ∃ earlier later,
          (u, fate) :: fatesFrom settings seen' (rest ++ after) = earlier ++ later ∧
          (u, fate) :: fatesFrom settings seen' (rest ++ t :: after) =
            earlier ++ (t, if settings.excludes t.tableName then .excluded else .kept) :: later := by
      intro fate seen' hseen'
      obtain ⟨earlier, later, hold, hadded⟩ := ih hseen' hnew.2
      exact ⟨(u, fate) :: earlier, later, by rw [hold, List.cons_append],
        by rw [hadded, List.cons_append]⟩
    split
    · exact hstep .excluded hseen
    · split
      · exact hstep .duplicate hseen
      · exact hstep .kept (List.forall_mem_cons.2 ⟨hnew.1, hseen⟩)

section
variable {p : ParsedSchema} {settings : Settings} {before after : List Table} {t : Table}

theorem tableResult_withTable (htables : p.tables = before ++ after) (hfree : p.Free t.tableName)
    {x : Table × Fate} (hx : x.1 ∈ p.tables) :
    tableResult ((p.withTables (before ++ t :: after)).surroundings settings) x =
      tableResult (p.surroundings settings) x := by
  have hcontains : ∀ {name : String}, sameIgnoringCase name t.tableName = false →
      (NameSet.ofList ((p.withTables (before ++ t :: after)).tables.map Table.tableName)).contains name =
        (NameSet.ofList (p.tables.map Table.tableName)).contains name := by
    intro name hname
    rw [htables]
    exact contains_insert_table hname
  refine tableResult_of_navigations x rfl rfl ?_ fun s hs => ?_
  · exact Reference.navigations_congr (.refl _)
      (fun c hc property hproperty => hcontains (hfree.columns x.1 hx c hc property hproperty)) _
  · refine Reference.navigations_congr (.refl _) (fun c hc property hproperty => hcontains ?_) _
    have hname : c.name ∈ s.seed.columnNames := by
      obtain ⟨name, hmem, rfl⟩ := List.mem_map.1 hc
      cases x.1.column? name with
      | none => exact hmem
      | some _ => exact hmem
    exact hfree.seedColumns s (List.mem_of_find?_eq_some hs) c.name hname property hproperty

theorem orphanDiagnostics_withTable (htables : p.tables = before ++ after) (hfree : p.Free t.tableName) :
    orphanDiagnostics (p.withTables (before ++ t :: after)) = orphanDiagnostics p := by
  unfold orphanDiagnostics
  simp only [contains_tableNames]
  refine congrArg _ (List.filter_congr fun s hs => ?_)
  have hother := hfree.seeds s (List.mem_mergeSort.1 hs)
  rw [htables]
  simp [ParsedSchema.withTables, hother]

end

/-- The files that a table gives by itself: its key and its binding, or nothing if it is left out. -/
def ownFiles (sur : Surroundings) (t : Table) : List GeneratedFile :=
  if sur.settings.excludes t.tableName then [] else (regularResult sur t).files

/-- What the table's fate gives, when there is no seed of its name. -/
theorem tableResult_alone (sur : Surroundings) {t : Table} (hseed : findSeed? sur.seeds t.tableName = none) :
    ∃ r, tableResult sur (t, if sur.settings.excludes t.tableName then .excluded else .kept) = .ok r ∧
      r.files = ownFiles sur t ∧ r.manifest = [] ∧ r.diagnostics = [] := by
  unfold ownFiles
  split
  · exact ⟨{}, rfl, rfl, rfl, rfl⟩
  · refine ⟨regularResult sur t, ?_, rfl, rfl, rfl⟩
    simp only [tableResult, hseed]

/-- A table is counted if it gives files, and a table by itself does that unless it is left out. -/
theorem length_filter_insert {sur : Surroundings} {t : Table} {r : TableResult}
    (hfiles : r.files = ownFiles sur t) (first second : List TableResult) :
    ((first ++ r :: second).filter fun r => !r.files.isEmpty).length =
      ((first ++ second).filter fun r => !r.files.isEmpty).length +
        if sur.settings.excludes t.tableName then 0 else 1 := by
  rw [List.filter_append, List.filter_append, List.filter_cons, hfiles]
  unfold ownFiles
  split
  · rfl
  · simp only [regularResult, List.isEmpty_cons, Bool.not_false, if_true, List.length_append,
      List.length_cons]
    rfl

/-- A lookup table and a table that points to it. -/
def orderScripts : List Source × List Source :=
  ([⟨"Kind.sql", "CREATE TABLE dbo.Kind (KindID int)"⟩,
      ⟨"Order.sql", "CREATE TABLE dbo.[Order] (OrderID int,\n  KindID int)"⟩],
    [⟨"Kinds.sql", "MERGE INTO dbo.Kind AS t USING (VALUES (1, 'Open')) AS s (KindID, KindName)"⟩])

/-- Its columns have the names of a table before it, of a table after it and of itself. -/
def noteTable : Table where
  schemaName := "dbo"
  tableName := "Note"
  columns := [{ name := "NoteID", sqlType := "int" }, { name := "KindID", sqlType := "int" },
    { name := "OrderID", sqlType := "int" }]

end SchemaBindings

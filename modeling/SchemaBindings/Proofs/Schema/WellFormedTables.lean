import SchemaBindings.Proofs.Schema.ColumnRoundTrip
import SchemaBindings.Proofs.Schema.ReadNames

/-!
What every table has that a script is read as, whatever else the script holds. It has columns, its names
are words, and the names and types of its columns are no words of a constraint. A column has the length
that stands behind its type, and a column that is marked as the key gives the table a key.
-/

namespace SchemaBindings

set_option autoImplicit false

open Script Text

/-- A word of a constraint, in any capitals. Two words count as one if their capital forms agree. -/
def IsConstraintWord (s : String) : Prop := ∃ k ∈ Table.constraintKeywords, upper s = upper k

theorem isConstraintWord_iff {s : String} : IsConstraintWord s ↔ Table.isConstraintKeyword s = true := by
  have hcapital : ∀ k ∈ Table.constraintKeywords, upper k = k := by decide +kernel
  rw [Table.isConstraintKeyword, List.contains_iff_mem]
  constructor
  · rintro ⟨k, hk, heq⟩
    rwa [heq, hcapital k hk]
  · intro hmem
    exact ⟨upper s, hmem, (hcapital _ hmem).symm⟩

structure Column.WellFormed (c : Column) : Prop where
  name : IsWord c.name
  type : IsWord c.sqlType
  name_free : ¬ IsConstraintWord c.name
  type_free : ¬ IsConstraintWord c.sqlType
  length : c.maxLength = none ∨ c.maxLength = some (-1) ∨ ∃ n : Nat, c.maxLength = some (n : Int)

structure Table.WellFormed (t : Table) : Prop where
  columns_ne_nil : t.columns ≠ []
  schema : IsWord t.schemaName
  table : IsWord t.tableName
  columns : ∀ c ∈ t.columns, c.WellFormed
  key : (∃ c ∈ t.columns, c.isPrimaryKey = true) → ∃ name, t.primaryKeyColumn = some name ∧
    IsWord name

theorem lower_of_isLengthToken {token : String} (h : token.toList.map Char.toLower = ['m', 'a', 'x']) :
    lower token = "max" := by
  have hletters := LengthText.lower_ascii fun c hc => (LengthText.max_letters h c hc).1
  rw [String.ofList_toList] at hletters
  rw [hletters, h]

/-- A length is `max` in some case and stands for no bound, or it is the number of its digits. -/
theorem Table.lengthOf_eq_ok {token : String} {n : Int} (h : lengthOf token = .ok n) :
    (lower token = "max" ∧ n = -1) ∨ (lower token ≠ "max" ∧ n = Numeral.value token.toList) := by
  unfold lengthOf at h
  split at h
  · rename_i hmax
    cases h
    exact .inl ⟨eq_of_beq hmax, rfl⟩
  · rename_i hmax
    obtain ⟨v, hv, rfl⟩ := map_eq_ok.1 h
    refine .inr ⟨fun heq => hmax (beq_iff_eq.2 heq), ?_⟩
    unfold Numeral.readDigits at hv
    split at hv
    · cases hv
    · cases hv
      rfl

/-- The column has the name and the type of a line, and its length is the one that the line gives. -/
structure Column.IsFrom (c : Column) (p : ColumnParts) : Prop where
  name : c.name = p.name
  type : c.sqlType = p.type
  absent : p.length = none → c.maxLength = none
  unbounded : c.maxLength = some (-1) ↔ ∃ token, p.length = some token ∧ lower token = "max"
  bounded : ∀ token, p.length = some token → lower token ≠ "max" →
    (∀ d ∈ token.toList, isDecimal d = true) ∧ c.maxLength = some (Numeral.value token.toList : Int)

theorem Column.isFrom_of_columnOf {p : ColumnParts} (hp : p.IsWorded) {c : Column}
    (h : Table.columnOf p = .ok c) : c.IsFrom p := by
  obtain ⟨hname, htype, ⟨hnone, hc⟩ | ⟨token, n, htoken, hn, hc⟩⟩ := Table.columnOf_eq_ok h
  · constructor
    · exact hname
    · exact htype
    · exact fun _ => hc
    · simp [hc, hnone]
    · simp [hnone]
  · have hdigits : lower token ≠ "max" → ∀ d ∈ token.toList, isDecimal d = true := by
      intro hne
      rcases hp.length token htoken with ⟨_, hdecimal⟩ | hletters
      · exact hdecimal
      · exact (hne (lower_of_isLengthToken hletters)).elim
    constructor
    · exact hname
    · exact htype
    · simp [htoken]
    · rw [hc, htoken]
      rcases Table.lengthOf_eq_ok hn with ⟨hmax, rfl⟩ | ⟨hmax, rfl⟩
      · simp [hmax]
      · simp [hmax]
    · rintro _ heq hne
      obtain rfl : token = _ := Option.some.inj (htoken.symm.trans heq)
      rcases Table.lengthOf_eq_ok hn with ⟨hmax, _⟩ | ⟨_, rfl⟩
      · exact (hne hmax).elim
      · exact ⟨hdigits hne, hc⟩

theorem Column.wellFormed_of_parts {line : List Char} {p : ColumnParts}
    (hp : Table.columnParts? line = some p)
    {c : Column} (h : Table.columnOf p = .ok c) : c.WellFormed ∧ c.IsFrom p := by
  obtain ⟨hworded, hname, htype⟩ := Table.columnParts?_eq_some hp
  have hfrom := isFrom_of_columnOf hworded h
  refine ⟨?_, hfrom⟩
  constructor
  · rw [hfrom.name]
    exact hworded.name
  · rw [hfrom.type]
    exact hworded.type
  · rw [hfrom.name, isConstraintWord_iff, hname]
    exact Bool.false_ne_true
  · rw [hfrom.type, isConstraintWord_iff, htype]
    exact Bool.false_ne_true
  · obtain ⟨_, _, ⟨_, hnone⟩ | ⟨token, n, _, hn, hc⟩⟩ := Table.columnOf_eq_ok h
    · exact .inl hnone
    · rcases Table.lengthOf_eq_ok hn with ⟨_, rfl⟩ | ⟨_, rfl⟩
      · exact .inr (.inl hc)
      · exact .inr (.inr ⟨_, hc⟩)

theorem Table.rel_column? {line : List Char} {l : Line} (h : lineOf line = .ok l) :
    Option.Rel (fun c p => Column.WellFormed c ∧ Column.IsFrom c p) l.column? (columnParts? line) := by
  rcases lineOf_eq_ok h with ⟨p, c, hp, hc, rfl⟩ | ⟨hnone, ⟨f, _, rfl⟩ | rfl⟩
  · rw [hp]
    exact .some (Column.wellFormed_of_parts hp hc)
  · rw [hnone]
    exact .none
  · rw [hnone]
    exact .none

/-- A line that defines the key names it, and no line takes a key away again. -/
theorem Table.exists_key {lines : List Line} {c : Column} (hc : c ∈ lines.filterMap Line.column?)
    (hkey : c.isPrimaryKey = true) : ∃ name, (lines.filterMap Line.key?).getLast? = some name := by
  obtain ⟨l, hl, hcolumn⟩ := List.mem_filterMap.1 hc
  have hnames : c.name ∈ lines.filterMap Line.key? := by
    refine List.mem_filterMap.2 ⟨l, hl, ?_⟩
    cases l with
    | column c' =>
      obtain rfl : c' = c := Option.some.inj hcolumn
      exact if_pos hkey
    | key name => cases hcolumn
    | other => cases hcolumn
  exact ⟨_, List.getLast?_eq_some_getLast (List.ne_nil_of_mem hnames)⟩

/-- A table that a script is read as is well formed. It has the names of the first header, and its columns are
those of the lines of that header's block that define one, in order. -/
theorem wellFormed_of_ofScript {script : String} {t : Table} (h : Table.ofScript script = .ok t) :
    t.WellFormed ∧ ∃ header block, Table.HasBlock (mask script.toList) header block ∧
      header.value = ⟨t.schemaName, t.tableName⟩ ∧
      List.Forall₂ Column.IsFrom t.columns ((Table.blockLines block).filterMap Table.columnParts?) := by
  have hworded := worded_of_ofScript h
  obtain ⟨header, block, lines, hblock, hlines, hne, rfl⟩ := Table.ofMasked_eq_ok h
  have hrel := List.rel_filterMap (fun _ _ hline => Table.rel_column? hline)
    (forall₂_of_mapM_eq_ok hlines).flip
  refine ⟨?_, header, block, hblock, rfl, hrel.imp fun _ _ hc => hc.2⟩
  constructor
  · exact hne
  · exact hworded.schema
  · exact hworded.table
  · exact forall_mem_of_forall₂ hrel.flip fun _ _ hc => hc.1
  · rintro ⟨c, hc, hkey⟩
    obtain ⟨name, hname⟩ := Table.exists_key hc hkey
    have hset : (lines.filterMap Table.Line.key?).getLast?.or ((keyConstraint.find? (mask script.toList)).map
        Found.value) = some name := by
      rw [hname, Option.some_or]
    exact ⟨name, hset, hworded.key name hset⟩

/-- A key line in front of a key column, lengths of each kind, a note, and a line that only looks like a
column. -/
def kindScript : String :=
  "create table [dbo].Kind] (\r\n[KindID] int, /* (key */\r\nconstraint PK_Kind primary key (KindID),\r\n"
    ++ "unique clustered,\r\nName nvarchar ( mAx ),\r\n[Code] char(08) PRIMARY KEY\r\n)"

theorem wellFormed_of_ofScript_kindScript : ∃ t, Table.ofScript kindScript = .ok t ∧
    t.columns.map (fun c => (c.name, c.maxLength)) =
        [("KindID", none), ("Name", some (-1)), ("Code", some 8)] ∧
    t.primaryKeyColumn = some "Code" ∧ t.WellFormed ∧
    ∃ header block, Table.HasBlock (mask kindScript.toList) header block ∧
      header.value = ⟨t.schemaName, t.tableName⟩ ∧
      List.Forall₂ Column.IsFrom t.columns ((Table.blockLines block).filterMap Table.columnParts?) := by
  have hread : Table.ofScript kindScript = .ok ⟨"dbo", "Kind",
      [⟨"KindID", "int", true, none, false, false, none⟩,
        ⟨"Name", "nvarchar", true, some (-1), false, false, none⟩,
        ⟨"Code", "char", true, some 8, false, true, none⟩],
      some "Code"⟩ := by decide +kernel
  exact ⟨_, hread, rfl, rfl, wellFormed_of_ofScript hread⟩

end SchemaBindings

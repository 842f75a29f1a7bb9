import SchemaBindings.Proofs.Schema.MergeText

/-!
Reading back a merge script that was put together from names, rows and column names. Rows may hold
what looks like any of the clauses that are searched for, in literals, in comments and in code: every
match inside the rows ends inside them, and the parenthesis that closes the rows tells the column list
behind them from a cast among them.
-/

namespace SchemaBindings

set_option autoImplicit false

open Script Text

/-- The parts of a merge script that fills a table with rows. -/
structure MergeScript where
  schema : ScriptName
  table : ScriptName
  source : ScriptName
  columns : List ScriptName
  columns_ne_nil : columns ≠ []
  rows : List RowText
  exists_row : ∃ g ∈ rows, g.isBlank = false
  trailing : List Char

namespace MergeScript

def rowList (m : MergeScript) : List Char := [',', ' '].intercalate (m.rows.map RowText.group)

def columnList (m : MergeScript) : List Char :=
  [',', ' '].intercalate (m.columns.map ScriptName.text)

def target (m : MergeScript) : List Char :=
  mergeInto ++ (m.schema.text ++ '.' :: m.table.text)

def sourceClause (m : MergeScript) : List Char :=
  ['A', 'S', ' '] ++ (m.source.text ++ ([' ', '('] ++ (m.columnList ++ ')' :: m.trailing)))

def text (m : MergeScript) : List Char :=
  m.target ++ (targetAlias ++ (usingValues ++ (' ' :: m.rowList ++ ([')', ' '] ++ m.sourceClause))))

def seed (m : MergeScript) : Seed where
  schemaName := m.schema.name
  tableName := m.table.name
  columnNames := m.columns.map ScriptName.name
  rows := (m.rows.filter fun g => !g.isBlank).map fun g => cellStrings (mask g.text)

def masked (m : MergeScript) : MergeScript :=
  { m with
    rows := m.rows.map RowText.masked
    exists_row := by
      obtain ⟨g, hg, hblank⟩ := m.exists_row
      refine ⟨g.masked, List.mem_map_of_mem hg, ?_⟩
      rw [RowText.isBlank, RowText.masked, mask_mask]
      exact hblank
    trailing := mask m.trailing }

theorem mask_sourceClause (m : MergeScript) : mask m.sourceClause = m.masked.sourceClause := by
  have hclose : mask (')' :: m.trailing) = ')' :: mask m.trailing :=
    mask_plain_append (a := [')']) (by decide) _
  have hcolumns : mask (m.columnList ++ ')' :: m.trailing) = m.columnList ++ mask (')' :: m.trailing) :=
    mask_plain_append (isMarker_columnsText m.columns) _
  rw [sourceClause, mask_plain_append (by decide), mask_plain_append m.source.isMarker_text,
    mask_plain_append (by decide), hcolumns, hclose]
  rfl

theorem text_eq (m : MergeScript) :
    m.text = mergeText m.schema m.table (m.rowList ++ ([')', ' '] ++ m.sourceClause)) := rfl

theorem mask_text (m : MergeScript) : mask m.text = m.masked.text := by
  have hrows : Sealed m.rowList := sealed_rowsText m.rows
  have hmask : mask m.rowList = m.masked.rowList := mask_rowsText m.rows
  rw [text_eq, mask_mergeText, hrows.mask, hmask, mask_plain_append (by decide), mask_sourceClause]
  rfl

def rowsEnd (m : MergeScript) : Nat := m.target.length + 24 + (' ' :: m.rowList).length

theorem rowsEnd_eq (m : MergeScript) : m.rowsEnd = m.target.length + 25 + m.rowList.length := by
  rw [rowsEnd, List.length_cons]
  omega

theorem closingParen?_text (m : MergeScript) :
    closingParen? m.text (m.target.length + 18) = some m.rowsEnd := by
  rw [rowsEnd_eq]
  exact closingParen?_mergeText (sealed_rowsText m.rows) (balanced_rowsText m.rows)

theorem isBlank_head_columnList (m : MergeScript) :
    ∀ c ∈ m.columnList.head?, Text.isBlank c = false := by
  obtain ⟨n, more, hcolumns⟩ := List.exists_cons_of_ne_nil m.columns_ne_nil
  rw [columnList, hcolumns]
  cases more with
  | nil =>
    have hhead := n.isBlank_head_append []
    rw [List.append_nil] at hhead
    simpa using hhead
  | cons n' more =>
    rw [List.map_cons, List.map_cons, List.intercalate_cons_cons, List.append_assoc]
    exact n.isBlank_head_append _

/-- Behind the rows, the source columns are the first that is found. -/
theorem findFrom_sourceClause (m : MergeScript) {q : Nat → Bool} (before : Option Char)
    {n : Nat} (hw : q (n + 2) = true) :
    ∃ stop, sourceColumns.findFrom q before n 0 ([')', ' '] ++ m.sourceClause) =
      some ⟨n + 2, stop, ⟨m.source.name, m.columnList⟩⟩ := by
  have hskip : ∀ x ∈ [')', ' '], matchesLetter 'a' x = false := by decide
  have hread := sourceColumns_append m.source m.isBlank_head_columnList
    (ne_of_mem_columnsText m.columns) m.trailing
  let taken := ['A', 'S', ' '] ++ (m.source.text ++ ([' ', '('] ++ (m.columnList ++ [')'])))
  have hclause : m.sourceClause = taken ++ m.trailing := by simp [sourceClause, taken]
  rw [← sourceClause, hclause] at hread
  refine ⟨n + 2 + taken.length, ?_⟩
  have hspace : Anchor.wordStart.allows (some ' ') = true := by decide
  rw [startsWith_sourceColumns.passes hskip, hclause]
  exact Clause.findFrom_of_read (List.append_ne_nil_of_left_ne_nil (by decide) _) hspace hread hw

theorem text_eq_rowsEnd (m : MergeScript) :
    ∃ front, m.text = front ++ ([')', ' '] ++ m.sourceClause) ∧ front.length = m.rowsEnd ∧
      Sealed front := by
  refine ⟨m.target ++ (targetAlias ++ (usingValues ++ ' ' :: m.rowList)), ?_, ?_, ?_⟩
  · simp [text]
  · simp [rowsEnd, targetAlias, usingValues]
    omega
  · have halias : Sealed targetAlias := sealed_of_plain (by decide)
    have husing : Sealed usingValues := sealed_of_plain (by decide)
    exact (sealed_of_plain (isMarker_targetText m.schema m.table)).append
      (halias.append (husing.append (Sealed.cons (by decide) (sealed_rowsText m.rows))))

theorem isCode_sourceClause (m : MergeScript) :
    ((zones m.text)[m.rowsEnd + 2]? != some .literal) = true := by
  obtain ⟨front, htext, hlen, hsealed⟩ := m.text_eq_rowsEnd
  have hplain : Sealed [')', ' '] := sealed_of_plain (by decide)
  have hcode := isCode_of_sealed (t := m.text) (a := front ++ [')', ' ']) (c := 'A')
    (by rw [htext, List.append_assoc]; rfl) (hsealed.append hplain) (by decide)
  rw [List.length_append, hlen] at hcode
  exact hcode

/-- The first search either stops at something in the rows or comes to the source columns. -/
theorem findFrom_columns_first (m : MergeScript) :
    ∃ f, sourceColumns.findFrom (fun i => (zones m.text)[i]? != some .literal) (some ' ')
        (m.target.length + 25) 0 (m.rowList ++ ([')', ' '] ++ m.sourceClause)) = some f ∧
      (f.start < m.rowsEnd ∨ f.start = m.rowsEnd + 2 ∧ f.value.columns = m.columnList) := by
  obtain ⟨g, hg, _⟩ := m.exists_row
  obtain ⟨front, hfront⟩ : ∃ front, m.rowList = front ++ [')'] := by
    refine exists_intercalate_eq_concat _ (by simpa using List.ne_nil_of_mem hg) ?_
    intro a ha
    obtain ⟨g', _, rfl⟩ := List.mem_map.1 ha
    exact ⟨'(' :: g'.text, rfl⟩
  have hrows : m.rowsEnd = m.target.length + 25 + front.length + 1 := by
    rw [rowsEnd_eq, hfront, List.length_append, List.length_singleton]
    rfl
  rw [hfront, List.append_assoc, List.singleton_append,
    closedBy_sourceColumns.findFrom_append_cons _ _ _ _ _ (Nat.zero_le _), ← hrows]
  cases hfirst : sourceColumns.findFrom (fun i => (zones m.text)[i]? != some .literal) (some ' ')
      (m.target.length + 25) 0 (front ++ [')']) with
  | some f =>
    have hstop := closedBy_sourceColumns.stop_le hfirst
    have hstart := closedBy_sourceColumns.start_lt_stop hfirst
    rw [List.length_append, List.length_singleton, ← Nat.add_assoc, ← hrows] at hstop
    exact ⟨f, rfl, .inl (Nat.lt_of_lt_of_le hstart hstop)⟩
  | none =>
    obtain ⟨stop, hfound⟩ := m.findFrom_sourceClause
      (q := fun i => (zones m.text)[i]? != some .literal) (some ')') m.isCode_sourceClause
    exact ⟨_, hfound, .inr ⟨rfl, rfl⟩⟩

theorem findOutside?_columns_behind (m : MergeScript) (hmask : mask m.text = m.text) :
    ∃ f, sourceColumns.findOutside? m.text m.rowsEnd = some f ∧
      f.start = m.rowsEnd + 2 ∧ f.value.columns = m.columnList := by
  obtain ⟨front, htext, hlen, _⟩ := m.text_eq_rowsEnd
  obtain ⟨stop, hfound⟩ := m.findFrom_sourceClause
    (q := fun i => (zones m.text)[i]? != some .literal) front.getLast? m.isCode_sourceClause
  refine ⟨⟨m.rowsEnd + 2, stop, ⟨m.source.name, m.columnList⟩⟩, ?_, rfl, rfl⟩
  rw [← hlen, Clause.findOutside?_append _ hmask htext, hlen]
  exact hfound

theorem region_text (m : MergeScript) :
    (m.text.take (m.rowsEnd + 2)).drop (m.target.length + 24) = ' ' :: m.rowList ++ [')', ' '] := by
  have hregion := region_mergeText m.schema m.table (m.rowList ++ [')', ' ']) m.sourceClause
  rw [List.append_assoc, List.length_append, ← Nat.add_assoc] at hregion
  rw [rowsEnd_eq]
  exact hregion

/-- A match in the rows gives way to the one behind them. -/
theorem chosenColumns_text (m : MergeScript) (hmask : mask m.text = m.text) {first : Found SourceColumns}
    (h : first.start < m.rowsEnd ∨ first.start = m.rowsEnd + 2 ∧ first.value.columns = m.columnList) :
    (chosenColumns m.text (m.target.length + 18) first).start = m.rowsEnd + 2 ∧
      (chosenColumns m.text (m.target.length + 18) first).value.columns = m.columnList := by
  obtain ⟨second, hsecond, hstart, hcolumns⟩ := m.findOutside?_columns_behind hmask
  rw [chosenColumns, m.closingParen?_text]
  rcases h with hrows | ⟨hstart₁, hcolumns₁⟩
  · simp only [if_pos hrows, hsecond, Option.getD_some]
    exact ⟨hstart, hcolumns⟩
  · have hlater : ¬ first.start < m.rowsEnd := by omega
    simp only [if_neg hlater]
    exact ⟨hstart₁, hcolumns₁⟩

theorem layoutOf_text (m : MergeScript) (hmask : mask m.text = m.text) :
    Seed.layoutOf m.text =
      .ok ⟨⟨m.schema.name, m.table.name⟩, m.columnList, ' ' :: m.rowList ++ [')', ' ']⟩ := by
  obtain ⟨first, hfirst, hplace⟩ := m.findFrom_columns_first
  obtain ⟨hstart, hcolumns⟩ := m.chosenColumns_text hmask hplace
  have hlayout : Seed.layoutOf m.text =
      .ok ⟨⟨m.schema.name, m.table.name⟩,
        (chosenColumns m.text (m.target.length + 18) first).value.columns,
        (m.text.take (chosenColumns m.text (m.target.length + 18) first).start).drop
          (m.target.length + 24)⟩ :=
    layoutOf_mergeText hmask hfirst
  rw [hlayout, hstart, hcolumns, m.region_text]

theorem trimmed_name (n : ScriptName) {b : List Char} (hb : ∀ c ∈ b, Text.isBlank c) :
    trim (trimOf Seed.isNameQuote (trim (b ++ n.text))) = n.letters := by
  have hblank : ∀ c ∈ n.letters, Text.isBlank c = false := fun c hc =>
    isBlank_of_isAsciiWord (n.ascii c hc)
  have hquote : ∀ c ∈ n.letters, Seed.isNameQuote c = false := fun c hc =>
    forall_asciiWord (p := fun c => Seed.isNameQuote c = false) (by decide) (n.ascii c hc)
  have hunquoted : trimOf Seed.isNameQuote n.text = n.letters := by
    unfold ScriptName.text
    split
    · have hopen : ∀ c ∈ ['['], Seed.isNameQuote c = true := by decide
      have hclose : ∀ c ∈ [']'], Seed.isNameQuote c = true := by decide
      rw [← List.singleton_append, trimOf_append_left hopen, trimOf_append_right hclose,
        trimOf_of_not_mem hquote]
    · exact trimOf_of_not_mem hquote
  rw [trim, trimOf_append_left hb, trimOf_of_not_mem n.isBlank_text, hunquoted, trimOf_of_not_mem hblank]

theorem columnNamesOf_columnList (m : MergeScript) :
    Seed.columnNamesOf m.columnList = m.columns.map ScriptName.name := by
  obtain ⟨n, more, hcolumns⟩ := List.exists_cons_of_ne_nil m.columns_ne_nil
  have hcomma : ∀ b ∈ n.text :: more.map ScriptName.text, ∀ c ∈ b, (c == ',') = false := by
    intro b hb c hc
    obtain ⟨n', _, rfl⟩ := List.mem_map.1 (List.map_cons (f := ScriptName.text) ▸ hb)
    exact beq_false_of_ne (n'.ne_of_mem_text (by decide) (by decide) (by decide) c hc)
  have hpieces : pieces (· == ',') m.columnList =
      n.text :: (more.map ScriptName.text).map ([' '] ++ ·) := by
    rw [columnList, hcolumns]
    exact pieces_intercalate rfl (by decide) hcomma
  have hfirst : trim (trimOf Seed.isNameQuote (trim n.text)) = n.letters :=
    trimmed_name n (b := []) (by simp)
  have hothers : ∀ n' : ScriptName,
      trim (trimOf Seed.isNameQuote (trim ([' '] ++ n'.text))) = n'.letters :=
    fun n' => trimmed_name n' (by decide)
  have hmap : (pieces (· == ',') m.columnList).map
      (fun name => String.ofList (trim (trimOf Seed.isNameQuote (trim name)))) =
        m.columns.map ScriptName.name := by
    rw [hpieces, hcolumns, List.map_cons, List.map_map, List.map_map, List.map_cons]
    exact congrArg₂ List.cons (congrArg String.ofList hfirst)
      (List.map_congr_left fun n' _ => congrArg String.ofList (hothers n'))
  have hkept : ∀ name ∈ m.columns.map ScriptName.name, (!name.isEmpty) = true := by
    intro name hn
    obtain ⟨n', _, rfl⟩ := List.mem_map.1 hn
    simpa [ScriptName.name] using n'.nonempty
  rw [Seed.columnNamesOf, hmap, List.filter_eq_self.2 hkept]

theorem groupsFrom_intercalate (rows : List RowText) (rest : List (Char × Zone)) :
    groupsFrom none (marked ([',', ' '].intercalate (rows.map RowText.group)) ++ rest) =
      rows.map RowText.text ++ groupsFrom none rest := by
  induction rows with
  | nil => rfl
  | cons g more ih =>
    cases more with
    | nil => simpa using groupsFrom_group g rest
    | cons g' more =>
      have hsep : Sealed [',', ' '] := sealed_of_plain (by decide)
      rw [List.map_cons, List.map_cons, List.intercalate_cons_cons, List.append_assoc,
        g.sealed_group.marked, hsep.marked, List.append_assoc, List.append_assoc, groupsFrom_group,
        groupsFrom_comma, ← List.map_cons, ih]
      rfl

theorem groups_rowList (m : MergeScript) :
    groups (' ' :: m.rowList ++ [')', ' ']) = m.rows.map RowText.text := by
  have hrowList : Sealed m.rowList := sealed_rowsText m.rows
  have hrows : marked (' ' :: m.rowList ++ [')', ' ']) =
      (' ', .code) :: (marked m.rowList ++ [(')', .code), (' ', .code)]) := by
    have hspace : marked (' ' :: (m.rowList ++ [')', ' '])) =
        [(' ', .code)] ++ marked (m.rowList ++ [')', ' ']) :=
      (sealed_singleton (by decide)).marked (a := [' ']) _
    rw [List.cons_append, hspace, hrowList.marked]
    rfl
  rw [groups, hrows]
  refine (groupsFrom_intercalate m.rows _).trans ?_
  simp [groupsFrom, opens]

end MergeScript

/-- Seed round trip: a merge script is read back as the names and the rows it was put together from,
blank rows left out. -/
theorem Seed.ofScript_mergeScript (m : MergeScript) :
    Seed.ofScript (String.ofList m.text) = .ok m.seed := by
  have hmask : mask m.masked.text = m.masked.text := by rw [← m.mask_text, mask_mask]
  have hrows : Seed.rowsOf (' ' :: m.masked.rowList ++ [')', ' ']) = m.seed.rows :=
    rowsOf_of_groups m.masked.groups_rowList
  have hnonempty : m.seed.rows ≠ [] := by
    obtain ⟨g, hg, hblank⟩ := m.exists_row
    refine List.ne_nil_of_mem (List.mem_map_of_mem (a := g) ?_)
    simp [hg, hblank]
  have hcolumns : Seed.columnNamesOf m.masked.columnList = m.seed.columnNames :=
    m.columnNamesOf_columnList
  have hcolumns_ne : m.seed.columnNames ≠ [] := by
    simpa [MergeScript.seed] using m.columns_ne_nil
  rw [Seed.ofScript, String.toList_ofList, m.mask_text, m.masked.layoutOf_text hmask]
  change Seed.ofLayout _ = _
  rw [Seed.ofLayout]
  simp only [hcolumns, hrows]
  rw [if_neg (by simpa using hcolumns_ne), if_neg (by simpa using hnonempty)]
  rfl

/-- A script whose rows imitate its clauses, in a literal, in a comment and as a cast. -/
def imitatingScript : MergeScript where
  schema := .ofLetters ['d', 'b', 'o'] true (Eq.refl true)
  table := .ofLetters ['K', 'i', 'n', 'd'] false (Eq.refl true)
  source := .ofLetters ['s'] false (Eq.refl true)
  columns := [.ofLetters ['I', 'D'] true (Eq.refl true), .ofLetters ['N'] false (Eq.refl true)]
  columns_ne_nil := by simp
  rows := [⟨" 1, N') AS s (x)' -- ) AS t (y)\n".toList, by decide, by decide⟩,
    ⟨"/* none */".toList, by decide, by decide⟩,
    ⟨"CAST(2 AS int), 'it''s'".toList, by decide, by decide⟩]
  exists_row := ⟨_, List.mem_cons_self, by decide⟩
  trailing := "; -- '".toList

theorem Seed.ofScript_imitatingScript :
    Seed.ofScript (String.ofList imitatingScript.text) =
      .ok ⟨"dbo", "Kind", ["ID", "N"], [["1", ") AS s (x)"], ["CAST(2ASint)", "it's"]]⟩ := by
  rw [Seed.ofScript_mergeScript imitatingScript]
  decide +kernel

end SchemaBindings

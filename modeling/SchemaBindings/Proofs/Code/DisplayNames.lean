import SchemaBindings.Proofs.Code.Identifiers
import SchemaBindings.Schema.SeedScript

/-!
The display names in the TypeScript records. Backslashes and quotes in them are escaped, and line breaks
are not, so that the literal of a display name is read back as it was exactly if there is no line break
in it; otherwise it is no literal at all.
-/

namespace SchemaBindings

set_option autoImplicit false

open Text (isWordChar)

/-- The text shown for a row: its display name, or its name where that is missing or empty. -/
def Seed.displayText (s : Seed) (t : Table) (row : Row) : String :=
  let nameColumn := s.systemNameColumn? t.tableName
  Code.cellOr (Code.cellOr Code.placeholder (row.cell? nameColumn))
    (row.cell? (s.displayNameColumn? t.tableName <|> nameColumn))

namespace Code

def namedEscapes : List (Char × Char) :=
  [('b', '\x08'), ('t', '\t'), ('n', '\n'), ('v', '\x0b'), ('f', '\x0c'), ('r', '\r')]

/-- What a character stands for behind a backslash: six letters have a meaning of their own, and any other
character stands for itself. Numbers of characters and continued lines are not read. -/
def escapeValue? (c : Char) : Option Char :=
  if c.isDigit ∨ c ∈ ['x', 'u', '\n', '\r', '\u2028', '\u2029'] then none
  else some ((namedEscapes.lookup c).getD c)

/-- The text of a string literal up to the quote that closes it, and what stands behind that quote. No
line ends within a literal. -/
def readStringText : List Char → Option (List Char × List Char)
  | [] => none
  | '"' :: rest => some ([], rest)
  | '\\' :: c :: rest => do
    let value ← escapeValue? c
    let (text, rest) ← readStringText rest
    return (value :: text, rest)
  | c :: rest => do
    if c = '\n' ∨ c = '\r' then none
    let (text, rest) ← readStringText rest
    return (c :: text, rest)

/-- Reads a string literal in double quotes. -/
def readString : List Char → Option (List Char × List Char)
  | '"' :: rest => readStringText rest
  | _ => none

/-- The text has a line feed or a carriage return in it. -/
def HasLineBreak (text : List Char) : Prop := ∃ c ∈ text, c = '\n' ∨ c = '\r'

instance (text : List Char) : Decidable (HasLineBreak text) :=
  inferInstanceAs (Decidable (∃ c ∈ text, c = '\n' ∨ c = '\r'))

section
variable {c : Char} {text rest : List Char}

theorem readStringText_escaped (h : c = '\\' ∨ c = '"') :
    readStringText (scriptEscape c ++ rest) = (readStringText rest).map fun found =>
      (c :: found.1, found.2) := by
  have hvalue : escapeValue? c = some c := by rcases h with rfl | rfl <;> decide
  rw [scriptEscape, if_pos h, List.cons_append, List.singleton_append, readStringText, hvalue]
  cases readStringText rest <;> rfl

theorem readStringText_plain (h : ¬ (c = '\\' ∨ c = '"')) (hbreak : ¬ (c = '\n' ∨ c = '\r')) :
    readStringText (scriptEscape c ++ rest) = (readStringText rest).map fun found =>
      (c :: found.1, found.2) := by
  rw [not_or] at h
  rw [scriptEscape, if_neg (not_or.2 h), List.singleton_append, readStringText]
  · rw [if_neg hbreak]
    cases readStringText rest <;> rfl
  · exact h.2
  · exact fun _ _ hslash _ => h.1 hslash

theorem readStringText_break (h : c = '\n' ∨ c = '\r') :
    readStringText (scriptEscape c ++ rest) = none := by
  rcases h with rfl | rfl <;> rfl

/-- The escapes of a text are undone, and the quote behind them ends it, unless a line break comes first. -/
theorem readStringText_escapes (text rest : List Char) :
    readStringText (text.flatMap scriptEscape ++ '"' :: rest) =
      if HasLineBreak text then none else some (text, rest) := by
  induction text with
  | nil =>
    rw [List.flatMap_nil, List.nil_append, readStringText, if_neg]
    rintro ⟨_, hmem, _⟩
    cases hmem
  | cons c more ih =>
    rw [List.flatMap_cons, List.append_assoc]
    have hmore : HasLineBreak (c :: more) ↔ (c = '\n' ∨ c = '\r') ∨ HasLineBreak more := by
      unfold HasLineBreak
      rw [List.exists_mem_cons_iff]
    by_cases hbreak : c = '\n' ∨ c = '\r'
    · rw [readStringText_break hbreak, if_pos (hmore.2 (.inl hbreak))]
    · have hcons : readStringText (scriptEscape c ++ (more.flatMap scriptEscape ++ '"' :: rest)) =
          (readStringText (more.flatMap scriptEscape ++ '"' :: rest)).map fun found =>
            (c :: found.1, found.2) := by
        by_cases hescape : c = '\\' ∨ c = '"'
        · exact readStringText_escaped hescape
        · exact readStringText_plain hescape hbreak
      rw [hcons, ih, if_congr hmore rfl rfl, if_congr (or_iff_right hbreak) rfl rfl]
      split <;> rfl

end

/-- Behind the first `DisplayName: ` of the record stands a literal that is read as the text if there is
no line break in that, and otherwise nothing that is read as a literal. -/
def ShowsText (text record : String) : Prop :=
  ∃ name behind after : List Char, record.toList =
      "  \x7b Name: \"".toList ++ (name ++ ("\", DisplayName: ".toList ++ behind)) ∧
    (∀ c ∈ name, isWordChar c = true) ∧ ", Value: ".toList <+: after ∧
    readString behind = if HasLineBreak text.toList then none else some (text.toList, after)

section
variable {t : Table} {s : Seed} {fallback : KeyFallback}

theorem showsText_recordLine {e : EnumEntry} {record : String} (h : recordLine e = .ok record)
    (hname : ∀ c ∈ e.name.toList, isWordChar c = true) : ShowsText e.displayName record := by
  unfold recordLine at h
  obtain ⟨order, _, h⟩ := bind_eq_ok.1 h
  obtain rfl := Except.ok.inj h
  let after := ", Value: ".toList ++ (e.value ++ ", SortOrder: " ++ order ++ " \x7d,").toList
  refine ⟨e.name.toList, '"' :: (e.displayName.toList.flatMap scriptEscape ++ '"' :: after),
    after, ?_, hname, List.prefix_append _ _, readStringText_escapes _ _⟩
  simp only [after, escapeScript, toString, String.toList_append, String.toList_ofList, List.append_assoc]
  rfl

theorem enumEntry_shows {running : Int} {row : Row} {e : EnumEntry}
    (h : enumEntry t s fallback running row = .ok e) :
    e.displayName = s.displayText t row ∧ ∀ c ∈ e.name.toList, isWordChar c = true := by
  unfold enumEntry at h
  obtain ⟨order, _, h⟩ := bind_eq_ok.1 h
  obtain ⟨value, _, h⟩ := bind_eq_ok.1 h
  obtain rfl := Except.ok.inj h
  exact ⟨rfl, fun c hc => isWordChar_of_mem_identifier hc⟩

theorem records_infix {entries : List EnumEntry} {lines : List String}
    (h : enumModuleLines t entries = .ok lines) :
    ∃ records, entries.mapM recordLine = .ok records ∧ records <:+: lines := by
  unfold enumModuleLines at h
  obtain ⟨records, hrecords, h⟩ := bind_eq_ok.1 h
  obtain rfl := Except.ok.inj h
  exact ⟨records, hrecords, (List.suffix_append _ records).isInfix.trans (List.prefix_append _ _).isInfix⟩

/-- Each row that fits has its record, in which its display name is a string literal exactly if there is
no line break in it. -/
theorem enumModule_showsText {script : String} (h : enumModule t s fallback = .ok script) :
    ∃ lines records, script = fileText lines ∧ records <:+: lines ∧
      List.Forall₂ (fun row record => ShowsText (s.displayText t row) record) s.matchingRows records := by
  unfold enumModule at h
  obtain ⟨entries, hentries, h⟩ := bind_eq_ok.1 h
  obtain ⟨lines, hlines, h⟩ := bind_eq_ok.1 h
  obtain rfl := Except.ok.inj h
  obtain ⟨records, hrecords, hinfix⟩ := records_infix hlines
  refine ⟨lines, records, rfl, hinfix, ?_⟩
  refine (forall₂_comp (forall₂_enumEntries hentries) (forall₂_of_mapM_eq_ok hrecords)).imp ?_
  rintro row record ⟨e, ⟨running, he⟩, hrecord⟩
  obtain ⟨hdisplay, hname⟩ := enumEntry_shows he
  exact hdisplay ▸ showsText_recordLine hrecord hname

end

/-- A display name over two lines, and one with quotes and a backslash. -/
def gradeScript : String :=
  "MERGE INTO dbo.Grade AS t USING (VALUES (1, 'Low', 'Low\nor none'), (2, 'Top', 'The \"top\" \\n'))
    AS s (GradeID, GradeName, GradeDisplayName)"

def gradeSeed : Seed where
  schemaName := "dbo"
  tableName := "Grade"
  columnNames := ["GradeID", "GradeName", "GradeDisplayName"]
  rows := [["1", "Low", "Low\nor none"], ["2", "Top", "The \"top\" \\n"]]

def gradeTable : Table where
  schemaName := "dbo"
  tableName := "Grade"
  columns := [{ name := "GradeID", sqlType := "int" }]

theorem enumModule_showsText_gradeSeed : ∃ script,
    enumModule gradeTable gradeSeed .firstColumn = .ok script ∧
    gradeSeed.matchingRows.map (gradeSeed.displayText gradeTable) = ["Low\nor none", "The \"top\" \\n"] ∧
    ∃ lines records, script = fileText lines ∧ records <:+: lines ∧
      List.Forall₂ (fun row record => ShowsText (gradeSeed.displayText gradeTable row) record)
        gradeSeed.matchingRows records := by
  obtain ⟨script, hscript⟩ : ∃ script, enumModule gradeTable gradeSeed .firstColumn = .ok script :=
    exists_eq_ok_of_isOk (by decide +kernel)
  exact ⟨script, hscript, by decide +kernel, enumModule_showsText hscript⟩

/-- The line feed of a display name ends the line of its record within the literal. -/
theorem enumModule_lineBreak : Seed.ofScript gradeScript = .ok gradeSeed ∧
    gradeSeed.displayText gradeTable ["1", "Low", "Low\nor none"] = "Low\nor none" ∧
    ∃ script entries records lines, enumModule gradeTable gradeSeed .firstColumn = .ok script ∧
      enumEntries gradeTable gradeSeed .firstColumn = .ok entries ∧
      entries.mapM recordLine = .ok records ∧ script = fileText lines ∧ records <:+: lines ∧
      records.head? = some ("  \x7b Name: \"Low\", DisplayName: "
        ++ "\"Low\nor none\", Value: 1, SortOrder: 10 \x7d,") ∧
      readString "\"Low\nor none\", Value: 1, SortOrder: 10 \x7d,".toList = none := by
  have hfirst :
      (enumEntries gradeTable gradeSeed .firstColumn).bind (fun entries => entries.mapM recordLine) =
      .ok ["  \x7b Name: \"Low\", DisplayName: \"Low\nor none\", Value: 1, SortOrder: 10 \x7d,",
        "  \x7b Name: \"Top\", DisplayName: \"The \\\"top\\\" \\\\n\", Value: 2, SortOrder: 20 \x7d,"] := by
    decide +kernel
  obtain ⟨entries, hentries, hrecords⟩ := bind_eq_ok.1 hfirst
  obtain ⟨lines, hlines⟩ : ∃ lines, enumModuleLines gradeTable entries = .ok lines := by
    unfold enumModuleLines
    rw [hrecords]
    exact ⟨_, rfl⟩
  obtain ⟨records, hrecords', hinfix⟩ := records_infix hlines
  obtain rfl := Except.ok.inj (hrecords.symm.trans hrecords')
  have hscript : enumModule gradeTable gradeSeed .firstColumn = .ok (fileText lines) := by
    unfold enumModule
    rw [hentries]
    exact congrArg (· >>= fun lines => .ok (fileText lines)) hlines
  exact ⟨by decide +kernel, by decide +kernel, _, entries, _, lines, hscript, hentries, hrecords,
    rfl, hinfix, by decide, by decide⟩

end Code

end SchemaBindings

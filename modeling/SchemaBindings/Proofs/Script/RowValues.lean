import SchemaBindings.Script.Cell

/-!
The text of one row, and that its values are read back from it. A value stands in a row as a bare word or as
a literal, between blanks, and commas stand between the values. The reader's state after each value says what
was read of it; a comma or the end of the row gives it out.
-/

namespace SchemaBindings.Script

set_option autoImplicit false

open Text (isBlank)

/-- A character that can stand outside literals and belongs to a value. -/
def IsBare (c : Char) : Prop := isBlank c = false ∧ c ≠ ',' ∧ c ≠ '\''

instance : DecidablePred IsBare := fun _ => inferInstanceAs (Decidable (_ ∧ _))

/-- A text with each quote in it doubled. -/
def doubled (text : List Char) : List Char :=
  text.flatMap fun c => if c = '\'' then ['\'', '\''] else [c]

/-- A text as it stands between quotes, with them. -/
def inQuotes (text : List Char) : List Char := '\'' :: (doubled text ++ ['\''])

theorem append_inQuotes (a text b : List Char) :
    a ++ inQuotes text ++ b = a ++ '\'' :: (doubled text ++ '\'' :: b) := by
  rw [inQuotes, List.append_assoc, List.cons_append, List.append_assoc, List.singleton_append]

theorem doubled_of_not_mem {text : List Char} (h : '\'' ∉ text) : doubled text = text := by
  have hplain : ∀ c ∈ text, (if c = '\'' then ['\'', '\''] else [c]) = [c] := by
    intro c hc
    apply if_neg
    rintro rfl
    exact h hc
  rw [doubled, List.flatMap_def, List.map_congr_left hplain, ← List.flatMap_def, List.flatMap_singleton']

theorem doubled_append_quote (p q : List Char) :
    doubled (p ++ '\'' :: q) = doubled p ++ '\'' :: ('\'' :: doubled q) := by
  rw [doubled, List.flatMap_append, List.flatMap_cons]
  rfl

theorem mem_doubled {text : List Char} {c : Char} : c ∈ doubled text ↔ c ∈ text := by
  rw [doubled, List.mem_flatMap]
  constructor
  · rintro ⟨d, hd, hc⟩
    split at hc <;> simp_all
  · intro hc
    refine ⟨c, hc, ?_⟩
    split <;> simp_all

/-- A value as a row holds it. -/
inductive WrittenValue
  | word (text : List Char) (ne_nil : text ≠ []) (bare : ∀ c ∈ text, IsBare c)
  /-- Between quotes; the flag says whether there is an `N` before the first. -/
  | literal (national : Bool) (text : List Char)

namespace WrittenValue

def value : WrittenValue → List Char
  | word text _ _ => text
  | literal _ text => text

def text : WrittenValue → List Char
  | word text _ _ => text
  | literal true text => 'N' :: '\'' :: (doubled text ++ ['\''])
  | literal false text => '\'' :: (doubled text ++ ['\''])

end WrittenValue

/-- A value with blanks around it. -/
structure RowValue where
  written : WrittenValue
  before : List Char := []
  after : List Char := []
  blank_before : before.all isBlank = true := by decide
  blank_after : after.all isBlank = true := by decide

def RowValue.text (v : RowValue) : List Char := v.before ++ (v.written.text ++ v.after)

def rowText (row : List RowValue) : List Char := [','].intercalate (row.map RowValue.text)

theorem rowText_cons_cons (v w : RowValue) (rest : List RowValue) :
    rowText (v :: w :: rest) = v.text ++ ',' :: rowText (w :: rest) := by
  rw [rowText, List.map_cons, List.map_cons, List.intercalate_cons_cons, List.append_assoc]
  rfl

theorem rowText_singleton (v : RowValue) : rowText [v] = v.text := List.intercalate_singleton

section
variable {cell rest : List Char}

theorem cellsFrom_cons {c : Char} (hcomma : c ≠ ',') (hquote : c ≠ '\'')
    (hnational : c = 'N' → rest.head? ≠ some '\'') :
    cellsFrom false cell (c :: rest) = cellsFrom false (if isBlank c then cell else c :: cell) rest := by
  rw [cellsFrom]
  · exact hquote
  · rintro more rfl rfl
    exact hnational rfl rfl
  · exact hcomma

theorem cellsFrom_quoted_cons {c : Char} (hquote : c ≠ '\'') :
    cellsFrom true cell (c :: rest) = cellsFrom true (c :: cell) rest := by
  rw [cellsFrom]
  · rintro more rfl
    exact (hquote rfl).elim
  · exact hquote

theorem cellsFrom_blanks {blanks : List Char} (h : blanks.all isBlank = true) :
    cellsFrom false cell (blanks ++ rest) = cellsFrom false cell rest := by
  induction blanks with
  | nil => rfl
  | cons c more ih =>
    rw [List.all_cons, Bool.and_eq_true] at h
    have hne : ∀ d : Char, isBlank d = false → c ≠ d := by
      rintro d hd rfl
      rw [h.1] at hd
      cases hd
    rw [List.cons_append, cellsFrom_cons (hne _ (by decide)) (hne _ (by decide))
      fun hN => (hne _ (by decide) hN).elim, if_pos h.1, ih h.2]

/-- A quote behind the word would take its last `N` for the beginning of a literal. -/
theorem cellsFrom_word {word : List Char} (hbare : ∀ c ∈ word, IsBare c)
    (hrest : rest.head? ≠ some '\'') :
    cellsFrom false cell (word ++ rest) = cellsFrom false (word.reverse ++ cell) rest := by
  induction word generalizing cell with
  | nil => rfl
  | cons c more ih =>
    rw [List.forall_mem_cons] at hbare
    have hnext : (more ++ rest).head? ≠ some '\'' := by
      cases more with
      | nil => exact hrest
      | cons d _ =>
        rw [List.cons_append, List.head?_cons, ne_eq, Option.some.injEq]
        exact (hbare.2 d List.mem_cons_self).2.2
    rw [List.cons_append, cellsFrom_cons hbare.1.2.1 hbare.1.2.2 fun _ => hnext, hbare.1.1, ih hbare.2,
      List.reverse_cons, List.append_assoc]
    rfl

theorem cellsFrom_literal (text : List Char) (hrest : rest.head? ≠ some '\'') :
    cellsFrom true cell (doubled text ++ '\'' :: rest) = cellsFrom false (text.reverse ++ cell) rest := by
  induction text generalizing cell with
  | nil =>
    rw [doubled, List.flatMap_nil, List.nil_append, cellsFrom]
    · rfl
    · rintro more rfl
      exact hrest rfl
  | cons c more ih =>
    rw [List.reverse_cons, List.append_assoc, List.singleton_append, ← ih, doubled, List.flatMap_cons]
    split
    · rename_i hquote
      subst hquote
      rfl
    · rename_i hquote
      exact cellsFrom_quoted_cons hquote

theorem WrittenValue.cellsFrom_text (v : WrittenValue) (hrest : rest.head? ≠ some '\'') :
    cellsFrom false [] (v.text ++ rest) = cellsFrom false v.value.reverse rest := by
  cases v with
  | word text _ hbare => rw [WrittenValue.text, cellsFrom_word hbare hrest, List.append_nil]; rfl
  | literal national text =>
    have hread : cellsFrom true [] (doubled text ++ '\'' :: rest) =
        cellsFrom false (text.reverse ++ []) rest :=
      cellsFrom_literal text hrest
    rw [List.append_nil] at hread
    cases national <;> simpa [WrittenValue.text, WrittenValue.value, cellsFrom] using hread

/-- A value is held back until a comma or the end of the row. -/
theorem RowValue.cellsFrom_text (v : RowValue) (hrest : rest.head? ≠ some '\'') :
    cellsFrom false [] (v.text ++ rest) = cellsFrom false v.written.value.reverse rest := by
  have hafter : (v.after ++ rest).head? ≠ some '\'' := by
    cases hblanks : v.after with
    | nil => exact hrest
    | cons c _ =>
      have hblank := v.blank_after
      rw [hblanks, List.all_cons, Bool.and_eq_true] at hblank
      rw [List.cons_append, List.head?_cons, ne_eq, Option.some.injEq]
      rintro rfl
      exact absurd hblank.1 (by decide)
  rw [text, List.append_assoc, List.append_assoc, cellsFrom_blanks v.blank_before,
    v.written.cellsFrom_text hafter, cellsFrom_blanks v.blank_after]

end

theorem cellsFrom_rowText (v : RowValue) (row : List RowValue) :
    cellsFrom false [] (rowText (v :: row)) = (v :: row).map fun w => w.written.value := by
  induction row generalizing v with
  | nil =>
    rw [rowText_singleton, ← List.append_nil v.text, v.cellsFrom_text (by simp), cellsFrom,
      List.reverse_reverse]
    rfl
  | cons w rest ih =>
    rw [rowText_cons_cons, v.cellsFrom_text (by simp), List.map_cons, ← ih w, cellsFrom,
      List.reverse_reverse]

theorem WrittenValue.exists_not_blank (v : WrittenValue) : ∃ c ∈ v.text, isBlank c = false := by
  cases v with
  | word text hne hbare =>
    obtain ⟨c, hc⟩ := List.exists_mem_of_ne_nil text hne
    exact ⟨c, hc, (hbare c hc).1⟩
  | literal national text =>
    cases national
    · exact ⟨'\'', List.mem_cons_self, by decide⟩
    · exact ⟨'N', List.mem_cons_self, by decide⟩

theorem all_isBlank_rowText (v : RowValue) (row : List RowValue) :
    (rowText (v :: row)).all isBlank = false := by
  obtain ⟨c, hc, hnot⟩ := v.written.exists_not_blank
  have hmem : c ∈ v.text := List.mem_append_right _ (List.mem_append_left _ hc)
  rw [List.all_eq_false]
  refine ⟨c, ?_, by rw [hnot]; decide⟩
  cases row with
  | nil => rwa [rowText_singleton]
  | cons w rest =>
    rw [rowText_cons_cons]
    exact List.mem_append_left _ hmem

/-- The values of a row are read back, whatever the literals hold and whatever blanks there are. -/
theorem cellStrings_rowText {row : List RowValue} (h : row ≠ []) :
    cellStrings (rowText row) = row.map fun v => String.ofList v.written.value := by
  obtain ⟨v, rest, rfl⟩ := List.exists_cons_of_ne_nil h
  rw [cellStrings, cells, all_isBlank_rowText, if_neg (by decide), cellsFrom_rowText, List.map_map]
  rfl

/-- Literals with commas, comment marks, quotes at their ends or nothing in them, and a word that is an
`N`. -/
def mixedRow : List RowValue :=
  [{ written := .word ['1'] (by decide) (by decide), before := [' '], after := ['\t'] },
    { written := .literal true "It's, N'".toList },
    { written := .literal false [], before := [' '], after := [' '] },
    { written := .word ['N'] (by decide) (by decide) },
    { written := .literal false "'-- /*".toList, after := ['\n'] }]

theorem cellStrings_mixedRow : mixedRow ≠ [] ∧
    rowText mixedRow = " 1\t,N'It''s, N''', '' ,N,'''-- /*'\n".toList ∧
    cellStrings (rowText mixedRow) = ["1", "It's, N'", "", "N", "'-- /*"] := by
  have hne : mixedRow ≠ [] := by simp [mixedRow]
  exact ⟨hne, by decide, (cellStrings_rowText hne).trans (by decide)⟩

end SchemaBindings.Script

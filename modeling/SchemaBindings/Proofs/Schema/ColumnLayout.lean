import SchemaBindings.Proofs.Schema.TableText

/-!
The layout of a column block. It is read line by line: a line gives the column of the definition that it
begins with, the options of this column are looked for up to the end of the line, and a line that begins
with anything but a name and a type gives no column. So definitions may stand behind any comments, blanks
and blank lines, but a line has room for one definition, and a definition for one line.
-/

namespace SchemaBindings

set_option autoImplicit false

open Script Text
open Script.Reader

/-- What a line begins with: a definition, or something that is no name with a type behind it. -/
inductive LineStart
  | definition (c : ColumnScript)
  /-- No name at all, as at a parenthesis or a comma. -/
  | mark
  | name (n : ScriptName)
  | keyword (n : ScriptName) (h : Table.isConstraintKeyword n.name = true)
  /-- A name with a word of constraints in the place of its type. -/
  | keywordType (n t : ScriptName) (h : Table.isConstraintKeyword t.name = true)

namespace LineStart

def text : LineStart → List Char
  | definition c => c.text
  | mark => []
  | name n => n.text
  | keyword n _ => n.text
  | keywordType n t _ => n.text ++ ([' '] ++ t.text)

/-- The rest of a line that leaves its start what it is. -/
def Fits : LineStart → List Char → Prop
  | definition _, tail => EndsLine tail
  | mark, tail => tail ≠ [] ∧ ∀ c ∈ tail.head?, isBlank c = false ∧
    isWordChar c = false ∧ c ≠ '['
  | name _, tail => (∀ c ∈ tail.head?, ScriptName.isEnd c = true) ∧
      ∀ c ∈ (tail.dropWhile isBlank).head?, isWordChar c = false ∧ c ≠ '['
  | keyword _ _, tail => ∀ c ∈ tail.head?, ScriptName.isEnd c = true
  | keywordType _ _ _, tail => ∀ c ∈ tail.head?, ScriptName.isEnd c = true

theorem paired : (start : LineStart) → Paired start.text
  | definition c => c.paired
  | mark => paired_of_plain (by simp [text])
  | name n => paired_name n
  | keyword n _ => paired_name n
  | keywordType n t _ =>
    (paired_name n).append ((paired_of_plain (a := [' ']) (by decide)).append (paired_name t))

end LineStart

/-- A line of a column block: its start, and whatever stands behind it. -/
structure BlockLine where
  start : LineStart
  tail : List Char
  comma : Bool
  lineTail : LineTail tail
  paired : Paired tail
  fits : start.Fits tail

namespace BlockLine

def text (l : BlockLine) : List Char := l.start.text ++ (l.tail ++ ColumnScript.comma l.comma)

def definition? (l : BlockLine) : Option ColumnScript :=
  match l.start with
  | .definition c => some c
  | _ => none

def column? (l : BlockLine) : Option Column := l.definition?.map fun c => c.columnWith l.tail

theorem paired_text (l : BlockLine) : Paired l.text :=
  l.start.paired.append (l.paired.append (ColumnScript.paired_comma l.comma))

theorem linePiece (l : BlockLine) : LinePiece l.text := by
  have hname : ∀ n : ScriptName, LinePiece n.text := fun n => .of_no_blank n.text_ne_nil n.isBlank_text
  obtain ⟨start, tail, comma, lineTail, paired, fits⟩ := l
  cases start with
  | definition c => exact lineTail.linePiece c.linePiece comma
  | mark =>
    have htail : LinePiece tail :=
      ⟨fits.1, lineTail.one_line, fun c hc => (fits.2 c hc).1, fun c hc => (lineTail.last c hc).1⟩
    exact endsLine_nil.toLineTail.linePiece htail comma
  | name n => exact lineTail.linePiece (hname n) comma
  | keyword n h => exact lineTail.linePiece (hname n) comma
  | keywordType n t h =>
    have hspace : ∀ c ∈ [' '], Table.isLineBreak c = false := by decide
    have hstart : LinePiece (n.text ++ ([' '] ++ t.text)) := by
      refine ⟨List.append_ne_nil_of_left_ne_nil n.text_ne_nil _, ?_, n.isBlank_head_append _, ?_⟩
      · simp only [List.forall_mem_append]
        exact ⟨(hname n).one_line, hspace, (hname t).one_line⟩
      · exact forall_getLast?_append (by simp) (forall_getLast?_append t.text_ne_nil (hname t).last _) _
    exact lineTail.linePiece hstart comma

/-- A line that begins with no definition defines no column. -/
theorem columnParts?_text (l : BlockLine) (h : l.definition? = none) : Table.columnParts? l.text = none := by
  obtain ⟨start, tail, comma, lineTail, paired, fits⟩ := l
  have hend : (∀ c ∈ tail.head?, ScriptName.isEnd c = true) →
      ∀ c ∈ (tail ++ ColumnScript.comma comma).head?, ScriptName.isEnd c = true := fun htail =>
    forall_head?_comma (by decide) htail comma
  cases start with
  | definition c => cases h
  | mark => exact columnParts?_of_head (forall_head?_append fits.1 fits.2 _)
  | name n =>
    let rest := tail ++ ColumnScript.comma comma
    have hword : ∀ c ∈ (rest.dropWhile isBlank).head?, isWordChar c = false ∧ c ≠ '[' :=
      forall_head?_dropWhile_comma (by decide) fits.2 comma
    have hsplit : rest.takeWhile isBlank ++ rest.dropWhile isBlank = rest :=
      List.takeWhile_append_dropWhile
    change Table.columnParts? (n.text ++ rest) = none
    rw [← hsplit]
    refine columnParts?_name n (fun c hc => List.mem_takeWhile_imp hc) ?_ ?_
    · exact fun c hc => ⟨forall_head?_dropWhile rest c hc, hword c hc⟩
    · rw [hsplit]
      exact hend fits.1
  | keyword n hn => exact columnParts?_of_name n hn (hend fits)
  | keywordType n t ht =>
    rw [text, LineStart.text, List.append_assoc, List.append_assoc]
    exact columnParts?_of_type n t ht (by simp) (by decide) (hend fits)

theorem lineOf_text (l : BlockLine) :
    ∃ line, Table.lineOf l.text = .ok line ∧ line.column? = l.column? := by
  cases h : l.definition? with
  | some c =>
    obtain ⟨start, tail, comma, lineTail, paired, fits⟩ := l
    cases start with
    | definition c =>
      cases h
      exact ⟨_, c.lineOf_append fits comma, rfl⟩
    | _ => cases h
  | none =>
    have hcolumn : l.column? = none := by rw [column?, h, Option.map_none]
    rw [Table.lineOf, l.columnParts?_text h, hcolumn]
    simp only []
    split
    · split
      · exact ⟨_, rfl, rfl⟩
      · exact ⟨_, rfl, rfl⟩
    · exact ⟨_, rfl, rfl⟩

theorem mapM_lineOf (ls : List BlockLine) :
    ∃ lines, (ls.map text).mapM Table.lineOf = .ok lines ∧
      lines.filterMap Table.Line.column? = ls.filterMap column? := by
  induction ls with
  | nil => exact ⟨[], rfl, rfl⟩
  | cons l rest ih =>
    obtain ⟨line, hline, hcolumn⟩ := l.lineOf_text
    obtain ⟨lines, hlines, hcolumns⟩ := ih
    refine ⟨line :: lines, ?_, ?_⟩
    · rw [List.map_cons, List.mapM_cons, hline, hlines]
      rfl
    · rw [List.filterMap_cons, List.filterMap_cons, hcolumn, hcolumns]

end BlockLine

/-- Definitions behind another one, each behind a comma and a space. -/
def furtherText (further : List ColumnScript) : List Char := further.flatMap fun c => [',', ' '] ++ c.text

theorem endsLine_furtherText (further : List ColumnScript) : EndsLine (furtherText further) := by
  have hhead : further ≠ [] → ∃ rest, furtherText further = ',' :: rest := by
    intro hne
    obtain ⟨c, rest, rfl⟩ := List.exists_cons_of_ne_nil hne
    exact ⟨_, rfl⟩
  have hsep : ∀ x ∈ [',', ' '], Table.isLineBreak x = false := by decide
  refine ⟨⟨?_, ?_⟩, ?_, ?_⟩
  · intro x hx
    obtain ⟨c, _, hx⟩ := List.mem_flatMap.1 hx
    rcases List.mem_append.1 hx with hx | hx
    · exact hsep x hx
    · exact isLineBreak_of_isLineChar (c.isLineChar_text x hx)
  · rcases List.eq_nil_or_concat further with rfl | ⟨front, c, rfl⟩
    · simp [furtherText]
    · have hne : c.text ≠ [] := c.linePiece.ne_nil
      rw [furtherText, List.concat_eq_append, List.flatMap_append, List.flatMap_singleton]
      exact forall_getLast?_append (by simp) (forall_getLast?_append hne c.getLast?_text _) _
  · by_cases hne : further = []
    · simp [furtherText, hne]
    · obtain ⟨rest, hrest⟩ := hhead hne
      rw [hrest]
      exact forall_head?_cons (.inr rfl) rest
  · by_cases hne : further = []
    · simp [furtherText, hne]
    · obtain ⟨rest, hrest⟩ := hhead hne
      have hcomma : isBlank ',' = false := by decide
      rw [hrest, List.dropWhile_cons_of_neg (by simp [hcomma])]
      exact forall_head?_cons (p := fun x => x ≠ '(') (by decide) rest

theorem paired_furtherText (further : List ColumnScript) : Paired (furtherText further) := by
  induction further with
  | nil => exact paired_of_plain (by simp [furtherText])
  | cons c rest ih =>
    rw [furtherText, List.flatMap_cons]
    exact ((paired_of_plain (by decide)).append c.paired).append ih

def BlockLine.ofDefinitions (c : ColumnScript) (further : List ColumnScript) (comma : Bool) : BlockLine where
  start := .definition c
  tail := furtherText further
  comma := comma
  lineTail := (endsLine_furtherText further).toLineTail
  paired := paired_furtherText further
  fits := endsLine_furtherText further

/-- A table definition: the lines of its column block, what ends each of them, and what stands behind the
last one and behind the block. -/
structure ColumnLayout where
  schema : ScriptName
  table : ScriptName
  opening : Gap
  lines : List (BlockLine × LineEnd)
  last : BlockLine
  closing : Gap
  trailing : List Char

namespace ColumnLayout

def linesWith (gap : Gap → List Char) (last : BlockLine) (closing : Gap) :
    List (BlockLine × LineEnd) → List Char
  | [] => last.text ++ gap closing
  | (l, ending) :: rest => l.text ++ (gap ending.toGap ++ linesWith gap last closing rest)

def blockWith (gap : Gap → List Char) (s : ColumnLayout) : List Char :=
  gap s.opening ++ linesWith gap s.last s.closing s.lines

def text (s : ColumnLayout) : List Char := tableText s.schema s.table (s.blockWith Gap.text) s.trailing

def allLines (s : ColumnLayout) : List BlockLine := s.lines.map Prod.fst ++ [s.last]

def definitions (s : ColumnLayout) : List ColumnScript := s.allLines.filterMap BlockLine.definition?

/-- One column for each line that begins with a definition. -/
def columns (s : ColumnLayout) : List Column := s.allLines.filterMap BlockLine.column?

section
variable (last : BlockLine) (closing : Gap)

theorem clears_lines (lines : List (BlockLine × LineEnd)) :
    Clears (linesWith Gap.text last closing lines) (linesWith Gap.spaces last closing lines) := by
  induction lines with
  | nil => exact last.paired_text.clears.append closing.clears
  | cons i rest ih =>
    obtain ⟨l, ending⟩ := i
    exact l.paired_text.clears.append (ending.clears.append ih)

theorem paired_lines (lines : List (BlockLine × LineEnd)) :
    Paired (linesWith Gap.spaces last closing lines) := by
  induction lines with
  | nil => exact last.paired_text.append closing.paired
  | cons i rest ih =>
    obtain ⟨l, ending⟩ := i
    exact l.paired_text.append (ending.paired.append ih)

theorem blockLines_lines (lines : List (BlockLine × LineEnd)) :
    Table.blockLines (linesWith Gap.spaces last closing lines) =
      (lines.map Prod.fst ++ [last]).map BlockLine.text := by
  induction lines with
  | nil => exact last.linePiece.blockLines_blanks closing.isBlank_spaces
  | cons i rest ih =>
    obtain ⟨l, ending⟩ := i
    obtain ⟨front, hfront, happend⟩ := blockLines_append_end l.text ending.isBlank_spaces ending.breaks
    rw [linesWith, happend, l.linePiece.blockLines hfront, ih]
    rfl

end

theorem blockLines_block (s : ColumnLayout) :
    Table.blockLines (s.blockWith Gap.spaces) = s.allLines.map BlockLine.text := by
  rw [blockWith, blockLines_blank_append s.opening.isBlank_spaces, blockLines_lines]
  rfl

/-- Lines of one definition each give the columns of these definitions. -/
theorem columns_of_whole (s : ColumnLayout) (h : ∀ l ∈ s.allLines, l.tail = []) :
    s.columns = s.definitions.map ColumnScript.column := by
  rw [columns, definitions, List.map_filterMap]
  refine List.filterMap_congr fun l hl => ?_
  rw [BlockLine.column?, h l hl]
  exact Option.map_congr fun c _ => c.columnWith_nil

end ColumnLayout

def intColumn (letters : List Char) (nonempty : letters ≠ []) (ascii : ∀ c ∈ letters, isAsciiWord c)
    (plain : Table.isConstraintKeyword (String.ofList letters) = false) (options : List ColumnOption) :
    ColumnScript where
  name := ⟨letters, true, nonempty, ascii⟩
  type := ⟨['i', 'n', 't'], false, by decide, by decide⟩
  name_plain := plain
  type_plain := by decide
  length := .absent
  options := options

def idColumn : List ColumnOption → ColumnScript :=
  intColumn ['I', 'D'] (by decide) (by decide) (by decide)

def kindColumn : List ColumnOption → ColumnScript :=
  intColumn ['K', 'i', 'n', 'd'] (by decide) (by decide) (by decide)

def rankColumn : List ColumnOption → ColumnScript :=
  intColumn ['R', 'a', 'n', 'k'] (by decide) (by decide) (by decide)

/-- A layout of `dbo.Item` with a line break behind the opening parenthesis and none in front of the closing
one. -/
def itemLayout (lines : List (BlockLine × LineEnd)) (last : BlockLine) : ColumnLayout where
  schema := .ofLetters ['d', 'b', 'o'] false (Eq.refl true)
  table := .ofLetters ['I', 't', 'e', 'm'] false (Eq.refl true)
  opening := Gap.indent
  lines := lines
  last := last
  closing := Gap.empty
  trailing := [';']

/-- `PRIMARY KEY` on a line of its own. -/
def keyLine : BlockLine where
  start := .keyword ⟨['P', 'R', 'I', 'M', 'A', 'R', 'Y'], false, by decide, by decide⟩ (by decide)
  tail := [' ', 'K', 'E', 'Y']
  comma := true
  lineTail := ⟨by decide, by decide⟩
  paired := paired_of_plain (by decide)
  fits := forall_head?_cons (by decide) _

/-- The key of the first column stands behind a comment, and the other two columns on one line. -/
def packedLayout : ColumnLayout :=
  itemLayout [(.ofDefinitions (idColumn []) [] false, .comment ['(', '\''] (by decide)), (keyLine, .plain)]
    (.ofDefinitions (kindColumn []) [rankColumn [.notNull]] false)

/-- Each column stands on a line of its own. -/
def spreadLayout : ColumnLayout :=
  itemLayout [(.ofDefinitions (idColumn [.primaryKey]) [] true, .comment ['(', '\''] (by decide)),
    (.ofDefinitions (kindColumn []) [] true, .plain)] (.ofDefinitions (rankColumn [.notNull]) [] false)

end SchemaBindings

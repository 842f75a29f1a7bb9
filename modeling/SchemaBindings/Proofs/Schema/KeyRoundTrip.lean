import SchemaBindings.Proofs.Schema.BlockLines
import SchemaBindings.Proofs.Schema.ColumnRoundTrip
import SchemaBindings.Proofs.Script.TableClauses

/-!
Reading back a key constraint that was put together from its parts. It may go over several lines: then no
line of it is taken for a column, and the column that it names is found in the whole text.
-/

namespace SchemaBindings

set_option autoImplicit false

open Script Text
open Script.Reader

/-- `CONSTRAINT name PRIMARY KEY (column)`, with gaps around and inside the parentheses. -/
structure KeyScript where
  name : ScriptName
  /-- `CLUSTERED` or `NONCLUSTERED`. -/
  clustered : Option Bool
  beforeOpen : Gap
  afterOpen : Gap
  column : ScriptName
  /-- `ASC` or `DESC`, behind a space and a gap. -/
  ascending : Option (Gap × Bool)
  beforeClose : Gap
  afterClose : Gap

namespace KeyScript

def clusteredText : Option Bool → List Char
  | none => []
  | some true => [' ', 'C', 'L', 'U', 'S', 'T', 'E', 'R', 'E', 'D']
  | some false => [' ', 'N', 'O', 'N', 'C', 'L', 'U', 'S', 'T', 'E', 'R', 'E', 'D']

def orderText : Bool → List Char
  | true => ['A', 'S', 'C']
  | false => ['D', 'E', 'S', 'C']

def start (k : KeyScript) : List Char :=
  ['C', 'O', 'N', 'S', 'T', 'R', 'A', 'I', 'N', 'T'] ++ ([' '] ++ (k.name.text ++
    ([' ', 'P', 'R', 'I', 'M', 'A', 'R', 'Y', ' ', 'K', 'E', 'Y'] ++ clusteredText k.clustered)))

section
variable (gap : Gap → List Char)

def order : Option (Gap × Bool) → List Char
  | none => []
  | some (before, ascending) => ([' '] ++ gap before) ++ orderText ascending

/-- The constraint up to the closing parenthesis, with a text in place of each gap. -/
def upToClose (k : KeyScript) : List Char :=
  k.start ++ (gap k.beforeOpen ++ (['('] ++ (gap k.afterOpen ++ (k.column.text ++
    (order gap k.ascending ++ (gap k.beforeClose ++ [')']))))))

def textWith (k : KeyScript) : List Char := k.upToClose gap ++ gap k.afterClose

end

theorem optionalWord_append {α : Type} {a b : String} {d : Char} {f : Reader α}
    {w v ws' rest : List Char} (hws : ∀ c ∈ w, isBlank c = true)
    (hws' : ∀ c ∈ ws', isBlank c = true) (hd : isBlank d = false)
    (hnone : (keyword a <|> keyword b : Reader Unit) (d :: rest) = none)
    (hword : v = [] ∨ v ≠ [] ∧ (∀ c ∈ v.head?, isBlank c = false) ∧
      ∀ r, (keyword a <|> keyword b : Reader Unit) (v ++ r) = some ((), r)) :
    (do blanks; let _ ← optional (keyword a <|> keyword b); blanks; char d; f : Reader α)
      (w ++ (v ++ (ws' ++ ([d] ++ rest)))) = f rest := by
  have hhead : ∀ c ∈ ([d] ++ rest).head?, isBlank c = false := forall_head?_cons hd rest
  rcases hword with rfl | ⟨hne, hfirst, hread⟩
  · have hall : ∀ c ∈ w ++ ws', isBlank c = true := by
      simpa [or_imp, forall_and] using ⟨hws, hws'⟩
    rw [List.nil_append, ← List.append_assoc]
    refine (bind_of_eq (blanks_append hall hhead)).trans ?_
    refine (bind_of_eq (optional_of_none hnone)).trans ?_
    refine (bind_of_eq (blanks_of_head hhead)).trans ?_
    exact bind_of_eq (char_self d rest)
  · refine (bind_of_eq (blanks_append hws (forall_head?_append hne hfirst _))).trans ?_
    refine (bind_of_eq (optional_of_eq (hread _))).trans ?_
    refine (bind_of_eq (blanks_append hws' hhead)).trans ?_
    exact bind_of_eq (char_self d rest)

theorem isEnd_head_blanks {ws : List Char} (hws : ∀ c ∈ ws, isBlank c = true) {d : Char}
    (hd : ScriptName.isEnd d = true) (rest : List Char) :
    ∀ c ∈ (ws ++ ([d] ++ rest)).head?, ScriptName.isEnd c = true := by
  cases ws with
  | nil => exact forall_head?_cons hd rest
  | cons w more => exact forall_head?_cons (ScriptName.isEnd_of_isBlank (hws w List.mem_cons_self)) _

theorem clustered_append {α : Type} {f : Reader α} (clustered : Option Bool) {ws : List Char}
    (hws : ∀ c ∈ ws, isBlank c = true) (rest : List Char) :
    (do blanks; let _ ← optional (keyword "clustered" <|> keyword "nonclustered"); blanks; char '(';
        f : Reader α) (clusteredText clustered ++ (ws ++ (['('] ++ rest))) = f rest := by
  have hspace : ∀ c ∈ [' '], isBlank c = true := by decide
  have hparen : isBlank '(' = false := by decide
  have hnone : (keyword "clustered" <|> keyword "nonclustered" : Reader Unit) ('(' :: rest) = none := by
    rw [orElse_apply]
    exact Option.or_eq_none_iff.2
      ⟨keyLetters_cons_of_not (by decide) _ _, keyLetters_cons_of_not (by decide) _ _⟩
  match clustered with
  | none => exact optionalWord_append (w := []) (v := []) (by simp) hws hparen hnone (.inl rfl)
  | some true =>
    refine optionalWord_append (w := [' ']) (v := ['C', 'L', 'U', 'S', 'T', 'E', 'R', 'E', 'D'])
      hspace hws hparen hnone (.inr ⟨by decide, by decide, ?_⟩)
    intro r
    rw [orElse_apply, keyword_append (by decide), Option.some_or]
  | some false =>
    refine optionalWord_append (w := [' '])
      (v := ['N', 'O', 'N', 'C', 'L', 'U', 'S', 'T', 'E', 'R', 'E', 'D'])
      hspace hws hparen hnone (.inr ⟨by decide, by decide, ?_⟩)
    intro r
    have hfirst : keyword "clustered"
        (['N', 'O', 'N', 'C', 'L', 'U', 'S', 'T', 'E', 'R', 'E', 'D'] ++ r) = none :=
      keyLetters_cons_of_not (by decide) _ _
    rw [orElse_apply, hfirst, Option.none_or, keyword_append (by decide)]

theorem order_append {α : Type} {f : Reader α} (ascending : Option (Gap × Bool)) {ws : List Char}
    (hws : ∀ c ∈ ws, isBlank c = true) (rest : List Char) :
    (do blanks; let _ ← optional (keyword "asc" <|> keyword "desc"); blanks; char ')'; f : Reader α)
      (order Gap.spaces ascending ++ (ws ++ ([')'] ++ rest))) = f rest := by
  have hparen : isBlank ')' = false := by decide
  have hnone : (keyword "asc" <|> keyword "desc" : Reader Unit) (')' :: rest) = none := by
    rw [orElse_apply]
    exact Option.or_eq_none_iff.2
      ⟨keyLetters_cons_of_not (by decide) _ _, keyLetters_cons_of_not (by decide) _ _⟩
  match ascending with
  | none => exact optionalWord_append (w := []) (v := []) (by simp) hws hparen hnone (.inl rfl)
  | some (before, direction) =>
    have hspace : ∀ c ∈ [' '] ++ before.spaces, isBlank c = true := by
      have hblank : isBlank ' ' = true := by decide
      simpa [hblank] using before.isBlank_spaces
    rw [order, List.append_assoc]
    refine optionalWord_append hspace hws hparen hnone (.inr ⟨?_, ?_, ?_⟩)
    · cases direction <;> decide
    · cases direction <;> decide
    · intro r
      have hfirst : keyword "asc" (['D', 'E', 'S', 'C'] ++ r) = none :=
        keyLetters_cons_of_not (by decide) _ _
      cases direction with
      | true => rw [orElse_apply, orderText, keyword_append (by decide), Option.some_or]
      | false =>
        rw [orElse_apply, orderText, hfirst, Option.none_or, keyword_append (by decide)]

theorem isEnd_head_order (ascending : Option (Gap × Bool)) {ws : List Char}
    (hws : ∀ c ∈ ws, isBlank c = true) (rest : List Char) :
    ∀ c ∈ (order Gap.spaces ascending ++ (ws ++ ([')'] ++ rest))).head?,
      ScriptName.isEnd c = true := by
  cases ascending with
  | none => exact isEnd_head_blanks hws (by decide) rest
  | some p => exact forall_head?_cons (by decide) _

theorem keyColumns_append (k : KeyScript) (rest : List Char) :
    keyColumns (clusteredText k.clustered ++ (k.beforeOpen.spaces ++ (['('] ++ (k.afterOpen.spaces ++
      (k.column.text ++ (order Gap.spaces k.ascending ++ (k.beforeClose.spaces ++
        ([')'] ++ rest)))))))) = some (k.column.name, rest) := by
  refine (clustered_append k.clustered k.beforeOpen.isBlank_spaces _).trans ?_
  refine (bind_of_eq (blanks_append k.afterOpen.isBlank_spaces (k.column.isBlank_head_append _))).trans ?_
  refine (bind_of_eq (k.column.read_append
    (isEnd_head_order k.ascending k.beforeClose.isBlank_spaces rest))).trans ?_
  exact order_append k.ascending k.beforeClose.isBlank_spaces rest

theorem keyConstraint_append (k : KeyScript) (rest : List Char) :
    keyConstraint.read (k.upToClose Gap.spaces ++ rest) = some (k.column.name, rest) := by
  have hspace : ∀ text, ∀ c ∈ ([' '] ++ text).head?, ScriptName.isEnd c = true :=
    fun text => forall_head?_cons (by decide) text
  have hprimary : ∀ text, [' ', 'P', 'R', 'I', 'M', 'A', 'R', 'Y', ' ', 'K', 'E', 'Y'] ++ text =
      [' '] ++ (['P', 'R', 'I', 'M', 'A', 'R', 'Y'] ++ ([' '] ++ (['K', 'E', 'Y'] ++ text))) :=
    fun _ => rfl
  rw [upToClose, start]
  simp only [List.append_assoc]
  have hP : ∀ text, ∀ c ∈ (['P', 'R', 'I', 'M', 'A', 'R', 'Y'] ++ text).head?, isBlank c = false :=
    fun text => forall_head?_cons (by decide) _
  have hK : ∀ text, ∀ c ∈ (['K', 'E', 'Y'] ++ text).head?, isBlank c = false :=
    fun text => forall_head?_cons (by decide) _
  rw [hprimary]
  refine (bind_of_eq (keyword_append (by decide) _)).trans ?_
  refine (bind_of_eq (blanks1_append (by simp) (by decide) (k.name.isBlank_head_append _))).trans ?_
  refine (bind_of_eq (k.name.read_append (hspace _))).trans ?_
  refine (bind_of_eq (blanks1_append (by simp) (by decide) (hP _))).trans ?_
  refine (bind_of_eq (keyword_append (by decide) _)).trans ?_
  refine (bind_of_eq (blanks1_append (by simp) (by decide) (hK _))).trans ?_
  refine (bind_of_eq (keyword_append (by decide) _)).trans ?_
  exact k.keyColumns_append _

section
variable {d : Char}

theorem takes_any_either (a b : String) :
    Takes (fun _ => True) (optional (keyword a <|> keyword b)) :=
  ((takes_any_keyword a).orElse (takes_any_keyword b)).optional

theorem needs_keyColumns_open : Needs '(' keyColumns :=
  .bind takes_any_blanks fun _ => .bind (takes_any_either _ _) fun _ => .bind takes_any_blanks fun _ =>
    needs_char '(' _

theorem needs_keyColumns_close : Needs ')' keyColumns :=
  .bind takes_any_blanks fun _ => .bind (takes_any_either _ _) fun _ => .bind takes_any_blanks fun _ =>
    .bind (takes_char trivial) fun _ => .bind takes_any_blanks fun _ => .bind takes_any_name fun _ =>
      .bind takes_any_blanks fun _ => .bind (takes_any_either _ _) fun _ =>
        .bind takes_any_blanks fun _ => needs_char ')' _

theorem needs_keyConstraint (h : Needs d keyColumns) : Needs d keyConstraint.read :=
  .bind (takes_any_keyword _) fun _ => .bind takes_any_blanks1 fun _ => .bind takes_any_name fun _ =>
    .bind takes_any_blanks1 fun _ => .bind (takes_any_keyword _) fun _ =>
      .bind takes_any_blanks1 fun _ => .bind (takes_any_keyword _) fun _ => h

end

/-- The line says nothing, or that the column is the key. -/
def NamesAtMost (column : String) (line : List Char) : Prop :=
  Table.lineOf line = .ok .other ∨ Table.lineOf line = .ok (.key column)

theorem namesAtMost_of_find? {column : String} {line : List Char}
    (hparts : Table.columnParts? line = none)
    (hkey : ∀ f, keyConstraint.find? line = some f → f.value = column) : NamesAtMost column line := by
  rw [NamesAtMost, Table.lineOf, hparts]
  simp only []
  split
  · cases hfind : keyConstraint.find? line with
    | none => exact .inl rfl
    | some f =>
      rw [← hkey f hfind]
      exact .inr rfl
  · exact .inl rfl

theorem namesAtMost_of_not_mem {n : String} {line : List Char}
    (hparts : Table.columnParts? line = none) (h : '(' ∉ line) : NamesAtMost n line := by
  refine namesAtMost_of_find? hparts ?_
  intro f hf
  rw [(Clause.passes_of_needs (needs_keyConstraint needs_keyColumns_open) h).find?_eq_none] at hf
  cases hf

/-- What is known of the lines of a stretch of the constraint behind its first parenthesis; `closed` is
the stretch up to the closing one. -/
structure Stretch (column : String) (closed s first : List Char) (rest : List (List Char)) : Prop where
  lines : Table.blockLines s = first :: rest
  others : ∀ l ∈ rest, NamesAtMost column l
  parts : Table.columnParts? first = none
  no_open : '(' ∉ first
  close : ')' ∉ first ∨ ∃ x, first = closed ++ x

theorem Stretch.cons {column : String} {closed b first a ws : List Char} {rest : List (List Char)}
    (h : Stretch column closed b first rest) (ha : LinePiece a) (hopen : '(' ∉ a) (hclose : ')' ∉ a)
    (hws : ∀ c ∈ ws, isBlank c = true) {d : Char} {more : List Char} (hb : b = d :: more)
    (hd : isBlank d = false) (halone : Table.columnParts? a = none)
    (hjoined : Table.columnParts? (a ++ (ws ++ first)) = none) :
    ∃ first' rest', Stretch column (a ++ (ws ++ closed)) (a ++ (ws ++ b)) first' rest' ∧
      (first' = a ∨ first' = a ++ (ws ++ first)) := by
  have hopen' : '(' ∉ ws := not_mem_blanks hws (by decide)
  have hclose' : ')' ∉ ws := not_mem_blanks hws (by decide)
  rcases ha.blockLines_gap hws hb hd h.lines with hlines | hlines
  · refine ⟨a, first :: rest, ⟨hlines, ?_, halone, hopen, .inl hclose⟩, .inl rfl⟩
    intro l hl
    rcases List.mem_cons.1 hl with rfl | hl
    · exact namesAtMost_of_not_mem h.parts h.no_open
    · exact h.others l hl
  · refine ⟨_, rest, ⟨hlines, h.others, hjoined, ?_, ?_⟩, .inr rfl⟩
    · simp [hopen, hopen', h.no_open]
    · rcases h.close with hc | ⟨x, rfl⟩
      · exact .inl (by simp [hclose, hclose', hc])
      · exact .inr ⟨x, by simp⟩

theorem linePiece_close : LinePiece [')'] := .of_no_blank (by simp) (by decide)

theorem stretch_close (column : String) (g : Gap) (more : Bool) {front : List Char}
    (hfront : ∀ c ∈ front, isBlank c = true ∧ Table.isLineBreak c = false) :
    ∃ x rest, Stretch column [')'] ([')'] ++ (g.spaces ++ (ColumnScript.comma more ++ front)))
      (')' :: x) rest := by
  have hparts : ∀ x, Table.columnParts? (')' :: x) = none := fun x =>
    columnParts?_of_head (forall_head?_cons (by decide) x)
  have hopen : '(' ∉ g.spaces := not_mem_blanks g.isBlank_spaces (by decide)
  cases more with
  | false =>
    have hblank : ∀ c ∈ g.spaces ++ front, isBlank c = true := by
      intro c hc
      rcases List.mem_append.1 hc with hc | hc
      · exact g.isBlank_spaces c hc
      · exact (hfront c hc).1
    exact ⟨[], [], linePiece_close.blockLines_blanks hblank, by simp, hparts [], by simp,
      .inr ⟨[], rfl⟩⟩
  | true =>
    have hcomma : LinePiece [','] := .of_no_blank (by simp) (by decide)
    have hlast : NamesAtMost column [','] :=
      namesAtMost_of_not_mem (columnParts?_of_head (forall_head?_cons (by decide) [])) (by simp)
    rcases linePiece_close.blockLines_gap g.isBlank_spaces (d := ',') rfl (by decide)
      (hcomma.blockLines hfront) with hlines | hlines
    · exact ⟨[], [[',']], hlines, by simpa using hlast, hparts [], by simp, .inr ⟨[], rfl⟩⟩
    · exact ⟨g.spaces ++ [','], [], hlines, by simp, hparts _, by simp [hopen],
        .inr ⟨g.spaces ++ [','], rfl⟩⟩

/-- `ASC` and `DESC` as names. -/
def orderName (ascending : Bool) : ScriptName :=
  ⟨orderText ascending, false, by cases ascending <;> decide, by cases ascending <;> decide⟩

theorem isConstraintKeyword_orderName (ascending : Bool) :
    Table.isConstraintKeyword (orderName ascending).name = true := by
  cases ascending <;> decide

theorem linePiece_name (n : ScriptName) : LinePiece n.text := .of_no_blank n.text_ne_nil n.isBlank_text

theorem not_mem_name (n : ScriptName) : '(' ∉ n.text ∧ ')' ∉ n.text :=
  ⟨n.not_mem_text (by decide) (by decide) (by decide), n.not_mem_text (by decide) (by decide) (by decide)⟩

theorem columnParts?_name_alone (n : ScriptName) : Table.columnParts? n.text = none := by
  have hparts := columnParts?_name n (w := []) (b := []) (by simp) (by simp) (by simp)
  simpa using hparts

theorem stretch_column (k : KeyScript) (more : Bool) {front : List Char}
    (hfront : ∀ c ∈ front, isBlank c = true ∧ Table.isLineBreak c = false) :
    ∃ first rest, Stretch k.column.name
      (k.column.text ++ (order Gap.spaces k.ascending ++ (k.beforeClose.spaces ++ [')'])))
      (k.column.text ++ (order Gap.spaces k.ascending ++ (k.beforeClose.spaces ++ ([')'] ++
        (k.afterClose.spaces ++ (ColumnScript.comma more ++ front)))))) first rest := by
  obtain ⟨x, rest, hclose⟩ := stretch_close k.column.name k.afterClose more hfront
  have hjoined : ∀ n : ScriptName,
      Table.columnParts? (n.text ++ (k.beforeClose.spaces ++ ')' :: x)) = none := fun n =>
    columnParts?_name n k.beforeClose.isBlank_spaces (forall_head?_cons (by decide) x)
      (isEnd_head_blanks k.beforeClose.isBlank_spaces (by decide) x)
  cases hascending : k.ascending with
  | none =>
    obtain ⟨first', rest', hstretch, _⟩ := hclose.cons (linePiece_name k.column) (not_mem_name k.column).1
      (not_mem_name k.column).2 k.beforeClose.isBlank_spaces rfl (by decide)
        (columnParts?_name_alone k.column)
      (hjoined k.column)
    exact ⟨first', rest', hstretch⟩
  | some p =>
    obtain ⟨before, ascending⟩ := p
    let direction := orderName ascending
    have htext : direction.text = orderText ascending := rfl
    obtain ⟨first', rest', hstretch, hfirst⟩ := hclose.cons (linePiece_name direction)
      (not_mem_name direction).1 (not_mem_name direction).2 k.beforeClose.isBlank_spaces rfl (by decide)
      (columnParts?_name_alone direction) (hjoined direction)
    have hws : ∀ c ∈ [' '] ++ before.spaces, isBlank c = true := by
      have hblank : isBlank ' ' = true := by decide
      simpa [hblank] using before.isBlank_spaces
    have hkeyword := isConstraintKeyword_orderName ascending
    have htype : Table.columnParts? (k.column.text ++ (([' '] ++ before.spaces) ++ first')) = none := by
      rcases hfirst with rfl | rfl
      · have hparts := columnParts?_of_type k.column direction hkeyword (by simp) hws (b := []) (by simp)
        rwa [List.append_nil] at hparts
      · exact columnParts?_of_type k.column direction hkeyword (by simp) hws
          (isEnd_head_blanks k.beforeClose.isBlank_spaces (by decide) x)
    obtain ⟨d, more', hd⟩ := List.exists_cons_of_ne_nil direction.text_ne_nil
    obtain ⟨first'', rest'', hstretch', _⟩ := hstretch.cons (linePiece_name k.column)
      (not_mem_name k.column).1 (not_mem_name k.column).2 hws (d := d) (by rw [hd]; rfl)
      (direction.isBlank_text d (by rw [hd]; exact List.mem_cons_self))
        (columnParts?_name_alone k.column) htype
    have horder : ∀ text, order Gap.spaces (some (before, ascending)) ++ text =
        ([' '] ++ before.spaces) ++ (direction.text ++ text) := by
      intro text
      rw [order, List.append_assoc, htext]
    refine ⟨first'', rest'', ?_⟩
    rw [horder, horder]
    exact hstretch'

theorem linePiece_start (k : KeyScript) : LinePiece k.start where
  ne_nil := List.append_ne_nil_of_left_ne_nil (by decide) _
  one_line := by
    have hline : ∀ c ∈ k.start, isLineChar c = true := by
      have hclustered : ∀ c ∈ clusteredText k.clustered, isLineChar c = true := by
        rcases k.clustered with _ | _ | _ <;> decide
      simp only [start, List.forall_mem_append]
      exact ⟨by decide, by decide, k.name.isLineChar_text, by decide, hclustered⟩
    intro c hc
    exact forall_lineChar (p := fun c => Table.isLineBreak c = false) (by decide) (hline c hc)
  head := forall_head?_cons (by decide) _
  last := by
    have hlast : ∀ c ∈ ([' ', 'P', 'R', 'I', 'M', 'A', 'R', 'Y', ' ', 'K', 'E', 'Y'] ++
        clusteredText k.clustered).getLast?, isBlank c = false := by
      rcases k.clustered with _ | _ | _ <;> decide
    exact forall_getLast?_append (by simp) (forall_getLast?_append (by simp)
      (forall_getLast?_append (by simp) hlast _) _) _

theorem not_mem_start (k : KeyScript) : '(' ∉ k.start ∧ ')' ∉ k.start := by
  have hclustered : ∀ c ∈ clusteredText k.clustered, c ≠ '(' ∧ c ≠ ')' := by
    rcases k.clustered with _ | _ | _ <;> decide
  have hname : ∀ c ∈ k.name.text, c ≠ '(' ∧ c ≠ ')' := fun c hc =>
    ⟨ne_of_mem_of_not_mem hc (not_mem_name k.name).1, ne_of_mem_of_not_mem hc (not_mem_name k.name).2⟩
  have hall : ∀ c ∈ k.start, c ≠ '(' ∧ c ≠ ')' := by
    simp only [start, List.forall_mem_append]
    exact ⟨by decide, by decide, hname, by decide, hclustered⟩
  exact ⟨fun h => (hall _ h).1 rfl, fun h => (hall _ h).2 rfl⟩

/-- The first word of the constraint as a name. -/
def startName : ScriptName :=
  ⟨['C', 'O', 'N', 'S', 'T', 'R', 'A', 'I', 'N', 'T'], false, by decide, by decide⟩

theorem columnParts?_start (k : KeyScript) (text : List Char) :
    Table.columnParts? (k.start ++ text) = none := by
  have hname : startName.text = ['C', 'O', 'N', 'S', 'T', 'R', 'A', 'I', 'N', 'T'] := rfl
  have hkeyword : Table.isConstraintKeyword startName.name = true := by decide
  rw [start, ← hname, List.append_assoc, List.append_assoc]
  exact columnParts?_of_name startName hkeyword (forall_head?_cons (by decide) _)

theorem blockLines_open (k : KeyScript) (more : Bool) {front : List Char}
    (hfront : ∀ c ∈ front, isBlank c = true ∧ Table.isLineBreak c = false) :
    ∃ x rest, Table.blockLines (['('] ++ (k.afterOpen.spaces ++ (k.column.text ++
        (order Gap.spaces k.ascending ++ (k.beforeClose.spaces ++ ([')'] ++
          (k.afterClose.spaces ++ (ColumnScript.comma more ++ front)))))))) = ('(' :: x) :: rest ∧
      (∀ l ∈ rest, NamesAtMost k.column.name l) ∧ '(' ∉ x ∧
      (')' ∉ x ∨ ∃ y, '(' :: x = ['('] ++ (k.afterOpen.spaces ++ (k.column.text ++
        (order Gap.spaces k.ascending ++ (k.beforeClose.spaces ++ [')'])))) ++ y) := by
  obtain ⟨first, rest, hstretch⟩ := k.stretch_column more hfront
  have hopen : LinePiece ['('] := .of_no_blank (by simp) (by decide)
  have hnoOpen : '(' ∉ k.afterOpen.spaces := not_mem_blanks k.afterOpen.isBlank_spaces (by decide)
  have hnoClose : ')' ∉ k.afterOpen.spaces := not_mem_blanks k.afterOpen.isBlank_spaces (by decide)
  obtain ⟨d, text, hd⟩ := List.exists_cons_of_ne_nil k.column.text_ne_nil
  have hblank : isBlank d = false := k.column.isBlank_text d (by rw [hd]; exact List.mem_cons_self)
  rcases hopen.blockLines_gap k.afterOpen.isBlank_spaces (d := d) (by rw [hd]; rfl) hblank
    hstretch.lines with hlines | hlines
  · refine ⟨[], first :: rest, hlines, ?_, by simp, .inl (by simp)⟩
    have hfirst := namesAtMost_of_not_mem (n := k.column.name) hstretch.parts hstretch.no_open
    simpa using ⟨hfirst, hstretch.others⟩
  · refine ⟨_, rest, hlines, hstretch.others, by simp [hnoOpen, hstretch.no_open], ?_⟩
    rcases hstretch.close with hno | ⟨y, rfl⟩
    · exact .inl (by simp [hnoClose, hno])
    · exact .inr ⟨y, by simp⟩

/-- A line that begins with the parenthesis names no key: the constraint begins before it. -/
theorem namesAtMost_open (n : String) {x : List Char} (hopen : '(' ∉ x) : NamesAtMost n ('(' :: x) := by
  refine namesAtMost_of_find? (columnParts?_of_head (forall_head?_cons (by decide) x)) ?_
  intro f hf
  have hpass : keyConstraint.Passes (['('] ++ x) [] :=
    (Clause.passes_of_needs (needs_keyConstraint needs_keyColumns_open) hopen).behind
      (begins_keyConstraint.passes_plain (by decide) _)
  rw [← List.singleton_append, hpass.find?_eq_none] at hf
  cases hf

/-- The line that the constraint begins on, whether or not it goes on to the closing parenthesis. -/
theorem namesAtMost_first (k : KeyScript) {x : List Char}
    (hclose : ')' ∉ x ∨ ∃ y, '(' :: x = ['('] ++ (k.afterOpen.spaces ++ (k.column.text ++
      (order Gap.spaces k.ascending ++ (k.beforeClose.spaces ++ [')'])))) ++ y) :
    NamesAtMost k.column.name (k.start ++ (k.beforeOpen.spaces ++ '(' :: x)) := by
  refine namesAtMost_of_find? (k.columnParts?_start _) ?_
  intro f hf
  rcases hclose with hno | ⟨y, hy⟩
  · have hnone : ')' ∉ k.start ++ (k.beforeOpen.spaces ++ '(' :: x) := by
      simp [k.not_mem_start.2, not_mem_blanks k.beforeOpen.isBlank_spaces (d := ')') (by decide), hno]
    rw [(Clause.passes_of_needs (needs_keyConstraint needs_keyColumns_close) hnone).find?_eq_none] at hf
    cases hf
  · have hwhole : k.start ++ (k.beforeOpen.spaces ++ '(' :: x) = k.upToClose Gap.spaces ++ y := by
      rw [hy]
      simp [upToClose]
    have hne : k.upToClose Gap.spaces ≠ [] :=
      List.append_ne_nil_of_left_ne_nil k.linePiece_start.ne_nil _
    have hfind := Clause.findFrom_of_read (p := none) (n := 0) hne rfl
      (k.keyConstraint_append y) (q := fun _ => true) rfl
    rw [hwhole, Clause.find?, hfind] at hf
    rw [← Option.some.inj hf]

/-- No line of the constraint defines a column, and none names another key. -/
theorem namesAtMost_lines (k : KeyScript) (more : Bool) {front : List Char}
    (hfront : ∀ c ∈ front, isBlank c = true ∧ Table.isLineBreak c = false) :
    ∀ l ∈ Table.blockLines (k.textWith Gap.spaces ++ (ColumnScript.comma more ++ front)),
      NamesAtMost k.column.name l := by
  obtain ⟨x, rest, hlines, hrest, hopen, hclose⟩ := k.blockLines_open more hfront
  have htext : k.textWith Gap.spaces ++ (ColumnScript.comma more ++ front) =
      k.start ++ (k.beforeOpen.spaces ++ (['('] ++ (k.afterOpen.spaces ++ (k.column.text ++
        (order Gap.spaces k.ascending ++ (k.beforeClose.spaces ++ ([')'] ++
          (k.afterClose.spaces ++ (ColumnScript.comma more ++ front))))))))) := by
    simp [textWith, upToClose]
  rw [htext]
  rcases k.linePiece_start.blockLines_gap k.beforeOpen.isBlank_spaces List.singleton_append
    (by decide) hlines
    with hall | hall
  · rw [hall]
    have hstart : NamesAtMost k.column.name k.start := namesAtMost_of_not_mem
      (by simpa using k.columnParts?_start []) k.not_mem_start.1
    simpa using ⟨hstart, namesAtMost_open k.column.name hopen, hrest⟩
  · rw [hall]
    simpa using ⟨k.namesAtMost_first hclose, hrest⟩

end KeyScript

end SchemaBindings

import SchemaBindings.Proofs.Schema.KeyRoundTrip
import SchemaBindings.Proofs.Script.Nesting

/-!
The text of a table definition that is put together from columns, a key and the gaps around them. Gap by
gap it loses its comments, and what is left of the column block closes the parentheses that it opens.
-/

namespace SchemaBindings

set_option autoImplicit false

open Script Text
open Script.Reader

theorem paired_name (n : ScriptName) : Paired n.text := by
  refine paired_of_plain fun c hc => ⟨n.isMarker_text c hc, ?_, ?_⟩
  · exact n.ne_of_mem_text (by decide) (by decide) (by decide) c hc
  · exact n.ne_of_mem_text (by decide) (by decide) (by decide) c hc

theorem paired_word {w : List Char} (hw : ∀ c ∈ w, isAsciiWord c) : Paired w := by
  refine paired_of_plain fun c hc => ⟨?_, ?_, ?_⟩
  · exact isMarker_of_isLineChar (isLineChar_of_isAsciiWord (hw c hc))
  · exact ne_of_isAsciiWord (by decide) (hw c hc)
  · exact ne_of_isAsciiWord (by decide) (hw c hc)

theorem paired_blanks {ws : List Char} (hws : ∀ c ∈ ws, isBlank c = true) : Paired ws := by
  refine paired_of_plain fun c hc => ⟨isMarker_of_isBlank (hws c hc), ?_, ?_⟩
  · rintro rfl
    exact not_mem_blanks hws (by decide) hc
  · rintro rfl
    exact not_mem_blanks hws (by decide) hc

theorem paired_number (n : NumberText) : Paired n.text := paired_word n.isAsciiWord_text

theorem LengthText.paired (l : LengthText) : Paired l.text := by
  have hcomma : Paired [','] := paired_of_plain (by decide)
  cases l with
  | absent => exact paired_of_plain (by simp [text])
  | max letters spelled =>
    exact (paired_word fun c hc => (max_letters spelled c hc).1).parenthesised
  | number n short scale =>
    have hscale : Paired (scaleText scale) := by
      cases scale with
      | none => exact paired_of_plain (by simp [scaleText])
      | some scale => exact hcomma.append (paired_number scale)
    have hbody := ((paired_number n).append hscale).parenthesised
    rwa [List.append_assoc] at hbody

namespace Script.ColumnOption

theorem paired (o : ColumnOption) : Paired o.text := by
  cases o with
  | identity seed increment =>
    have hbody := ((paired_number seed).append ((paired_of_plain (a := [',']) (by decide)).append
      (paired_number increment))).parenthesised
    simp only [List.append_assoc] at hbody
    exact (paired_of_plain (by decide)).append hbody
  | notNull => exact paired_of_plain (by decide)
  | null => exact paired_of_plain (by decide)
  | primaryKey => exact paired_of_plain (by decide)
  | references schema table column =>
    have hschema : Paired (schemaText schema) := by
      cases schema with
      | none => exact paired_of_plain (by simp [schemaText])
      | some schema => exact (paired_name schema).append (paired_of_plain (by decide))
    have hspace : Paired [' '] := paired_of_plain (by decide)
    have htarget : Paired ([' ', '('] ++ (column.text ++ [')'])) :=
      hspace.append (paired_name column).parenthesised
    exact (paired_of_plain (by decide)).append
      (hspace.append (hschema.append ((paired_name table).append htarget)))

theorem paired_spaced (options : List ColumnOption) : Paired (spaced options) := by
  induction options with
  | nil => exact paired_of_plain (by simp [spaced])
  | cons o rest ih =>
    have hspace : Paired [' '] := paired_of_plain (by decide)
    rw [spaced, List.flatMap_cons]
    exact (hspace.append o.paired).append ih

end Script.ColumnOption

theorem ColumnScript.paired (c : ColumnScript) : Paired c.text :=
  (paired_name c.name).append ((paired_of_plain (a := [' ']) (by decide)).append
    ((paired_name c.type).append (c.length.paired.append (ColumnOption.paired_spaced c.options))))

theorem ColumnScript.paired_comma (more : Bool) : Paired (comma more) := by
  cases more <;> exact paired_of_plain (by decide)

theorem Gap.paired (g : Gap) : Paired g.spaces := paired_blanks g.isBlank_spaces

theorem Script.Paired.clears {a : List Char} (h : Paired a) : Clears a a := clears_of_plain h.plain

theorem ColumnScript.getLast?_text (c : ColumnScript) :
    ∀ x ∈ c.text.getLast?, isBlank x = false ∧ x ≠ ',' := by
  have hlast : ∀ x ∈ (c.type.text ++ (c.length.text ++ ColumnOption.spaced c.options)).getLast?,
      isBlank x = false ∧ x ≠ ',' := by
    by_cases hne : c.options = []
    · rw [hne, ColumnOption.spaced, List.flatMap_nil, List.append_nil]
      have hparen : ∀ a, ∀ x ∈ (c.type.text ++ ('(' :: (a ++ [')']))).getLast?,
          isBlank x = false ∧ x ≠ ',' :=
        fun a => forall_getLast?_append (by simp)
          (forall_getLast?_append (b := [')']) (by simp) (by decide) ('(' :: a)) _
      cases hlength : c.length with
      | absent =>
        rw [LengthText.text, List.append_nil]
        intro x hx
        have hmem := List.mem_of_mem_getLast? hx
        exact ⟨c.type.isBlank_text x hmem,
          c.type.ne_of_mem_text (by decide) (by decide) (by decide) x hmem⟩
      | max letters spelled => exact hparen letters
      | number n short scale =>
        rw [LengthText.text, ← List.append_assoc n.text]
        exact hparen _
    · obtain ⟨w, y, hconcat, hy⟩ := ColumnOption.exists_concat_spaced hne
      have hend : ∀ x ∈ [y].getLast?, isBlank x = false ∧ x ≠ ',' := by simpa using hy
      rw [hconcat]
      exact forall_getLast?_append (by simp) (forall_getLast?_append (by simp)
        (forall_getLast?_append (by simp) hend w) _) _
  exact forall_getLast?_append (by simp) (forall_getLast?_append (a := [' '])
    (List.append_ne_nil_of_left_ne_nil c.type.text_ne_nil _) hlast) _

theorem ColumnScript.linePiece (c : ColumnScript) : LinePiece c.text where
  ne_nil := List.append_ne_nil_of_left_ne_nil c.name.text_ne_nil _
  one_line := fun x hx => isLineBreak_of_isLineChar (c.isLineChar_text x hx)
  head := c.name.isBlank_head_append _
  last := fun x hx => (c.getLast?_text x hx).1

/-- The rest of a line belongs to the piece that the line begins with. -/
theorem LineTail.linePiece {a behind : List Char} (ha : LinePiece a) (h : LineTail behind) (more : Bool) :
    LinePiece (a ++ (behind ++ ColumnScript.comma more)) where
  ne_nil := List.append_ne_nil_of_left_ne_nil ha.ne_nil _
  one_line := by
    simp only [List.forall_mem_append]
    exact ⟨ha.one_line, h.one_line,
      fun x hx => isLineBreak_of_isLineChar (ColumnScript.isLineChar_comma more x hx)⟩
  head := forall_head?_append ha.ne_nil ha.head _
  last := by
    cases more with
    | true =>
      rw [← List.append_assoc]
      exact forall_getLast?_append (b := [',']) (by simp) (by decide) _
    | false =>
      rw [ColumnScript.comma, if_neg (by simp), List.append_nil]
      by_cases hbehind : behind = []
      · rw [hbehind, List.append_nil]
        exact ha.last
      · exact forall_getLast?_append hbehind (fun x hx => (h.last x hx).1) a

/-- A definition up to the parenthesis in front of its column block. -/
def tableHead (schema table : ScriptName) : List Char :=
  ['C', 'R', 'E', 'A', 'T', 'E'] ++ ([' '] ++ (['T', 'A', 'B', 'L', 'E'] ++ ([' '] ++
    (schema.text ++ (['.'] ++ (table.text ++ [' ', '(']))))))

def tableText (schema table : ScriptName) (block trailing : List Char) : List Char :=
  tableHead schema table ++ (block ++ ([')'] ++ trailing))

section
variable (schema table : ScriptName)

theorem clears_tableHead : Clears (tableHead schema table) (tableHead schema table) := by
  have hname : ∀ n : ScriptName, Clears n.text n.text := fun n => (paired_name n).clears
  exact (clears_of_plain (by decide)).append ((clears_of_plain (a := [' ']) (by decide)).append
    ((clears_of_plain (by decide)).append ((clears_of_plain (a := [' ']) (by decide)).append
      ((hname schema).append ((clears_of_plain (a := ['.']) (by decide)).append
        ((hname table).append (clears_of_plain (by decide))))))))

theorem mask_tableText {block spaces : List Char} (h : Clears block spaces) (trailing : List Char) :
    mask (tableText schema table block trailing) = tableText schema table spaces (mask trailing) := by
  have hhead := clears_tableHead schema table
  have hclose : Sealed [')'] := sealed_singleton (by decide)
  rw [tableText, hhead.sealed.mask, hhead.mask, h.sealed.mask, h.mask, hclose.mask]
  rfl

theorem find?_tableText (block trailing : List Char) :
    tableHeader.find? (tableText schema table block trailing) =
      some ⟨0, (tableHead schema table).length, ⟨schema.name, table.name⟩⟩ := by
  have htable : ∀ text, ∀ c ∈ (['T', 'A', 'B', 'L', 'E'] ++ text).head?, isBlank c = false :=
    fun text => forall_head?_cons (by decide) _
  have hopen : ∀ text, ∀ c ∈ ('(' :: text).head?, isBlank c = false :=
    fun text => forall_head?_cons (by decide) text
  have hread : ∀ rest, tableHeader.read (tableHead schema table ++ rest) =
      some (⟨schema.name, table.name⟩, rest) := by
    intro rest
    rw [tableHead]
    simp only [List.append_assoc]
    refine (bind_of_eq (keyword_append (by decide) _)).trans ?_
    refine (bind_of_eq (blanks1_append (by simp) (by decide) (htable _))).trans ?_
    refine (bind_of_eq (keyword_append (by decide) _)).trans ?_
    refine (bind_of_eq (blanks1_append (by simp) (by decide) (schema.isBlank_head_append _))).trans ?_
    refine (bind_of_eq (qualifiedName_append schema table
      (forall_head?_cons (by decide) _))).trans ?_
    refine (bind_of_eq (blanks_append (w := [' ']) (r := '(' :: rest) (by decide)
      (hopen rest))).trans ?_
    exact bind_of_eq (char_self '(' rest)
  have hne : tableHead schema table ≠ [] := List.append_ne_nil_of_left_ne_nil (by decide) _
  rw [Clause.find?, tableText, Clause.findFrom_of_read hne rfl (hread _) rfl, Nat.zero_add]

theorem closingParen?_tableText {block : List Char} (h : Paired block) (trailing : List Char) :
    closingParen? (tableText schema table block trailing) (tableHead schema table).length =
      some ((tableHead schema table).length + block.length) := by
  have hclose : marked ([')'] ++ trailing) = (')', .code) :: marked trailing :=
    (sealed_singleton (by decide)).marked (a := [')']) _
  rw [closingParen?, tableText, List.drop_left, (sealed_of_plain h.plain).marked, hclose,
    closingFrom_balanced h.balanced, Option.map_some]

theorem block_tableText (block trailing : List Char) :
    ((tableText schema table block trailing).take ((tableHead schema table).length + block.length)).drop
      (tableHead schema table).length = block := by
  rw [tableText, List.drop_take, Nat.add_sub_cancel_left, List.drop_left, List.take_left]

theorem Table.ofScript_tableText {block spaces : List Char} (hclears : Clears block spaces)
    (hpaired : Paired spaces) {lines : List Table.Line}
    (hlines : (Table.blockLines spaces).mapM Table.lineOf = .ok lines) (trailing : List Char) :
    Table.ofScript (String.ofList (tableText schema table block trailing)) =
      if lines.filterMap Table.Line.column? = [] then
        .error (.script (.noColumns schema.name table.name))
      else .ok ⟨schema.name, table.name, lines.filterMap Table.Line.column?,
        (lines.filterMap Table.Line.key?).getLast? <|>
          (keyConstraint.find? (tableText schema table spaces (mask trailing))).map Found.value⟩ := by
  rw [Table.ofScript, String.toList_ofList, mask_tableText schema table hclears, Table.ofMasked]
  simp only [find?_tableText, closingParen?_tableText schema table hpaired, block_tableText, hlines,
    Table.blockOf]
  change (if (lines.filterMap Table.Line.column?).isEmpty = true then _ else _) = _
  by_cases hempty : lines.filterMap Table.Line.column? = []
  · rw [if_pos hempty, if_pos (List.isEmpty_iff.2 hempty)]
    rfl
  · rw [if_neg hempty, if_neg (mt List.isEmpty_iff.1 hempty)]
    rfl

end

namespace KeyScript

theorem paired_clustered (clustered : Option Bool) : Paired (clusteredText clustered) := by
  rcases clustered with _ | _ | _ <;> exact paired_of_plain (by decide)

theorem paired_orderText (ascending : Bool) : Paired (orderText ascending) := by
  cases ascending <;> exact paired_of_plain (by decide)

theorem paired_start (k : KeyScript) : Paired k.start :=
  (paired_of_plain (by decide)).append ((paired_of_plain (a := [' ']) (by decide)).append
    ((paired_name k.name).append ((paired_of_plain (by decide)).append (paired_clustered k.clustered))))

theorem paired_order (ascending : Option (Gap × Bool)) : Paired (order Gap.spaces ascending) := by
  match ascending with
  | none => exact paired_of_plain (by simp [order])
  | some (before, direction) =>
    exact ((paired_of_plain (a := [' ']) (by decide)).append before.paired).append
      (paired_orderText direction)

theorem clears_order (ascending : Option (Gap × Bool)) :
    Clears (order Gap.text ascending) (order Gap.spaces ascending) := by
  match ascending with
  | none => exact clears_of_plain (by simp [order])
  | some (before, direction) =>
    exact ((clears_of_plain (a := [' ']) (by decide)).append before.clears).append
      (paired_orderText direction).clears

theorem paired (k : KeyScript) : Paired (k.textWith Gap.spaces) := by
  have hbody := ((k.afterOpen.paired.append (paired_name k.column)).append
    ((paired_order k.ascending).append k.beforeClose.paired)).parenthesised
  simp only [List.append_assoc] at hbody
  exact (k.paired_start.append (k.beforeOpen.paired.append hbody)).append k.afterClose.paired

theorem clears (k : KeyScript) : Clears (k.textWith Gap.text) (k.textWith Gap.spaces) := by
  have hopen : Clears ['('] ['('] := clears_of_plain (by decide)
  have hclose : Clears [')'] [')'] := clears_of_plain (by decide)
  have hbehind : Clears (order Gap.text k.ascending ++ (k.beforeClose.text ++ [')']))
      (order Gap.spaces k.ascending ++ (k.beforeClose.spaces ++ [')'])) :=
    (clears_order k.ascending).append (k.beforeClose.clears.append hclose)
  exact (k.paired_start.clears.append (k.beforeOpen.clears.append (hopen.append
    (k.afterOpen.clears.append ((paired_name k.column).clears.append hbehind))))).append
      k.afterClose.clears

end KeyScript

/-- What a line of the column block is put together from, or several lines that hold a key. -/
inductive BlockItem
  | column (c : ColumnScript)
  | key (k : KeyScript)

namespace BlockItem

def textWith (gap : Gap → List Char) : BlockItem → List Char
  | column c => c.text
  | key k => k.textWith gap

def column? : BlockItem → Option Column
  | column c => some c.column
  | key _ => none

/-- The name of a column whose options say that it is the key. -/
def inlineKey? : BlockItem → Option String
  | column c => if c.column.isPrimaryKey then some c.name.name else none
  | key _ => none

def constraintKey? : BlockItem → Option String
  | column _ => none
  | key k => some k.column.name

def key? (item : BlockItem) : Option String := item.inlineKey? <|> item.constraintKey?

theorem paired : (item : BlockItem) → Paired (item.textWith Gap.spaces)
  | column c => c.paired
  | key k => k.paired

theorem clears : (item : BlockItem) → Clears (item.textWith Gap.text) (item.textWith Gap.spaces)
  | column c => c.paired.clears
  | key k => k.clears

end BlockItem

/-- A table definition: the lines of the column block with what ends each of them, and a text behind the
definition that says nothing. -/
structure TableScript where
  schema : ScriptName
  table : ScriptName
  opening : Gap
  items : List (BlockItem × LineEnd)
  exists_column : items.filterMap (fun i => i.1.column?) ≠ []
  one_key : (items.filterMap fun i => i.1.key?).length ≤ 1
  trailing : List Char
  trailing_plain : ∀ c ∈ mask trailing, isWordChar c = false

namespace TableScript

section
variable (gap : Gap → List Char)

def itemsWith : List (BlockItem × LineEnd) → List Char
  | [] => []
  | (item, ending) :: rest =>
    item.textWith gap ++ (ColumnScript.comma (!rest.isEmpty) ++ (gap ending.toGap ++ itemsWith rest))

def blockWith (t : TableScript) : List Char := gap t.opening ++ itemsWith gap t.items

end

/-- The definition up to the parenthesis in front of the column block. -/
def header (t : TableScript) : List Char :=
  ['C', 'R', 'E', 'A', 'T', 'E'] ++ ([' '] ++ (['T', 'A', 'B', 'L', 'E'] ++ ([' '] ++
    (t.schema.text ++ (['.'] ++ (t.table.text ++ [' ', '(']))))))

def text (t : TableScript) : List Char :=
  t.header ++ (t.blockWith Gap.text ++ ([')'] ++ t.trailing))

def masked (t : TableScript) : List Char :=
  t.header ++ (t.blockWith Gap.spaces ++ ([')'] ++ mask t.trailing))

def toTable (t : TableScript) : Table where
  schemaName := t.schema.name
  tableName := t.table.name
  columns := t.items.filterMap fun i => i.1.column?
  primaryKeyColumn := (t.items.filterMap fun i => i.1.key?).head?

theorem clears_items (items : List (BlockItem × LineEnd)) :
    Clears (itemsWith Gap.text items) (itemsWith Gap.spaces items) := by
  induction items with
  | nil => exact clears_of_plain (by simp [itemsWith])
  | cons i rest ih =>
    obtain ⟨item, ending⟩ := i
    exact item.clears.append ((ColumnScript.paired_comma _).clears.append (ending.clears.append ih))

theorem paired_items (items : List (BlockItem × LineEnd)) : Paired (itemsWith Gap.spaces items) := by
  induction items with
  | nil => exact paired_of_plain (by simp [itemsWith])
  | cons i rest ih =>
    obtain ⟨item, ending⟩ := i
    exact item.paired.append ((ColumnScript.paired_comma _).append (ending.paired.append ih))

theorem paired_block (t : TableScript) : Paired (t.blockWith Gap.spaces) :=
  t.opening.paired.append (paired_items t.items)

theorem mask_text (t : TableScript) : mask t.text = t.masked :=
  mask_tableText t.schema t.table (t.opening.clears.append (clears_items t.items)) t.trailing

end TableScript

end SchemaBindings

import SchemaBindings.Proofs.Schema.TableText

/-!
Reading back a table definition that was put together from its parts.
-/

namespace SchemaBindings

set_option autoImplicit false

open Script Text
open Script.Reader

/-- The lines say what the items do, though a key constraint over several lines may go unsaid. -/
structure LinesSay (items : List (BlockItem × LineEnd)) (lines : List Table.Line) : Prop where
  columns : lines.filterMap Table.Line.column? = items.filterMap fun i => i.1.column?
  keys : ∀ k ∈ lines.filterMap Table.Line.key?, k ∈ items.filterMap fun i => i.1.key?
  inline : ∀ k ∈ items.filterMap fun i => i.1.inlineKey?, k ∈ lines.filterMap Table.Line.key?

namespace LinesSay

theorem nil : LinesSay [] [] := ⟨rfl, by simp, by simp⟩

theorem append {items items' : List (BlockItem × LineEnd)} {lines lines' : List Table.Line}
    (h : LinesSay items lines) (h' : LinesSay items' lines') :
    LinesSay (items ++ items') (lines ++ lines') where
  columns := by rw [List.filterMap_append, List.filterMap_append, h.columns, h'.columns]
  keys := by
    intro k hk
    rw [List.filterMap_append, List.mem_append] at hk ⊢
    exact hk.imp (h.keys k) (h'.keys k)
  inline := by
    intro k hk
    rw [List.filterMap_append, List.mem_append] at hk ⊢
    exact hk.imp (h.inline k) (h'.inline k)

theorem column (c : ColumnScript) (ending : LineEnd) :
    LinesSay [(.column c, ending)] [.column c.column] where
  columns := rfl
  keys := by
    intro k hk
    simpa [Table.Line.key?, BlockItem.key?, BlockItem.inlineKey?, BlockItem.constraintKey?,
      ColumnScript.column] using hk
  inline := by
    intro k hk
    simpa [Table.Line.key?, BlockItem.inlineKey?, ColumnScript.column] using hk

theorem key (k : KeyScript) (ending : LineEnd) {lines : List Table.Line}
    (h : ∀ l ∈ lines, l = .other ∨ l = .key k.column.name) : LinesSay [(.key k, ending)] lines where
  columns := by
    have hnone : lines.filterMap Table.Line.column? = [] := by
      refine List.filterMap_eq_nil_iff.2 fun l hl => ?_
      rcases h l hl with rfl | rfl <;> rfl
    rw [hnone]
    rfl
  keys := by
    intro n hn
    obtain ⟨l, hl, hkey⟩ := List.mem_filterMap.1 hn
    rcases h l hl with rfl | rfl
    · cases hkey
    · simpa [Table.Line.key?, BlockItem.key?, BlockItem.inlineKey?, BlockItem.constraintKey?] using
        hkey.symm
  inline := by simp [BlockItem.inlineKey?]

end LinesSay

theorem KeyScript.mapM_lineOf {column : String} {ls : List (List Char)}
    (h : ∀ l ∈ ls, KeyScript.NamesAtMost column l) :
    ∃ lines, ls.mapM Table.lineOf = .ok lines ∧ ∀ l ∈ lines, l = .other ∨ l = .key column := by
  induction ls with
  | nil => exact ⟨[], rfl, by simp⟩
  | cons l rest ih =>
    obtain ⟨lines, hlines, hall⟩ := ih fun l' hl' => h l' (List.mem_cons_of_mem l hl')
    obtain ⟨line, hline, hkind⟩ : ∃ line, Table.lineOf l = .ok line ∧
        (line = .other ∨ line = .key column) := by
      rcases h l List.mem_cons_self with hl | hl
      · exact ⟨.other, hl, .inl rfl⟩
      · exact ⟨.key column, hl, .inr rfl⟩
    refine ⟨line :: lines, ?_, ?_⟩
    · rw [List.mapM_cons, hline, hlines]
      rfl
    · simpa using ⟨hkind, hall⟩

theorem BlockItem.mapM_lineOf (item : BlockItem) (ending : LineEnd) (more : Bool) {front : List Char}
    (hfront : ∀ c ∈ front, isBlank c = true ∧ Table.isLineBreak c = false) :
    ∃ lines, (Table.blockLines (item.textWith Gap.spaces ++ (ColumnScript.comma more ++ front))).mapM
      Table.lineOf = .ok lines ∧ LinesSay [(item, ending)] lines := by
  cases item with
  | column c =>
    have hlines := (endsLine_nil.toLineTail.linePiece c.linePiece more).blockLines hfront
    rw [List.nil_append, List.append_assoc] at hlines
    refine ⟨[.column c.column], ?_, .column c ending⟩
    rw [textWith, hlines, List.mapM_cons, c.lineOf_text more]
    rfl
  | key k =>
    obtain ⟨lines, hlines, hall⟩ := KeyScript.mapM_lineOf (k.namesAtMost_lines more hfront)
    exact ⟨lines, hlines, .key k ending hall⟩

namespace TableScript

theorem mapM_lineOf_items (items : List (BlockItem × LineEnd)) :
    ∃ lines, (Table.blockLines (itemsWith Gap.spaces items)).mapM Table.lineOf = .ok lines ∧
      LinesSay items lines := by
  induction items with
  | nil => exact ⟨[], rfl, .nil⟩
  | cons i rest ih =>
    obtain ⟨item, ending⟩ := i
    obtain ⟨restLines, hrest, hitems⟩ := ih
    let more := !rest.isEmpty
    obtain ⟨front, hfront, happend⟩ := blockLines_append_end
      (item.textWith Gap.spaces ++ ColumnScript.comma more) ending.isBlank_spaces ending.breaks
    obtain ⟨lines, hlines, hitem⟩ := item.mapM_lineOf ending more hfront
    refine ⟨lines ++ restLines, ?_, hitem.append hitems⟩
    have htext : itemsWith Gap.spaces ((item, ending) :: rest) =
        item.textWith Gap.spaces ++ ColumnScript.comma more ++
          (ending.spaces ++ itemsWith Gap.spaces rest) := by
      rw [List.append_assoc]
      rfl
    rw [htext, happend, List.append_assoc, List.mapM_append, hlines, hrest]
    rfl

theorem noKeyBehind_comma (rest : List Char) : ColumnOption.NoKeyBehind (',' :: rest) where
  constraint := bind_of_none (blanks1_of_head (forall_head?_cons (by decide) rest))
  name := ColumnOption.keyBehindName_of_head (by decide) rest
  head := forall_head?_cons (by decide) rest

theorem noKeyBehind_close {ws : List Char} (hws : ∀ c ∈ ws, isBlank c = true) (rest : List Char) :
    ColumnOption.NoKeyBehind (ws ++ ([')'] ++ rest)) where
  constraint := keyBehindConstraint_blanks hws (forall_head?_cons (by decide) rest)
    (forall_head?_cons (by decide) rest)
  name := keyBehindName_blanks hws (forall_head?_cons (by decide) rest)
    (forall_head?_cons (by decide) rest)
  head := KeyScript.isEnd_head_blanks hws (by decide) rest

/-- A length holds nothing that a key constraint begins with. -/
theorem passes_length (l : LengthText) (b : List Char) : keyConstraint.Passes l.text b := by
  refine begins_keyConstraint.startsWith.passes ?_ b
  have hnumber : ∀ n : NumberText, ∀ x ∈ n.text, matchesLetter 'c' x = false := fun n =>
    n.forall_mem_text (by decide)
  cases l with
  | absent => simp [LengthText.text]
  | max letters spelled =>
    have hletters : ∀ x ∈ letters, matchesLetter 'c' x = false := by
      intro x hx
      have hlower : x.toLower ∈ ['m', 'a', 'x'] := spelled ▸ List.mem_map_of_mem hx
      exact forall_asciiWord
        (p := fun x => x.toLower ∈ ['m', 'a', 'x'] → matchesLetter 'c' x = false) (by decide)
        (LengthText.max_letters spelled x hx).1 hlower
    simp only [LengthText.text, List.forall_mem_cons, List.forall_mem_append]
    exact ⟨by decide, hletters, by decide, by simp⟩
  | number n short scale =>
    have hscale : ∀ x ∈ LengthText.scaleText scale, matchesLetter 'c' x = false := by
      cases scale with
      | none => simp [LengthText.scaleText]
      | some scale =>
        simp only [LengthText.scaleText, List.forall_mem_cons]
        exact ⟨by decide, hnumber scale⟩
    simp only [LengthText.text, List.forall_mem_cons, List.forall_mem_append]
    exact ⟨by decide, hnumber n, hscale, by decide, by simp⟩

theorem noKeyBehind_length (l : LengthText) {b : List Char} (hb : ColumnOption.NoKeyBehind b) :
    ColumnOption.NoKeyBehind (l.text ++ b) := by
  have hopen : ∀ rest, ColumnOption.NoKeyBehind ('(' :: rest) := fun rest =>
    { constraint := bind_of_none (blanks1_of_head (forall_head?_cons (by decide) rest))
      name := ColumnOption.keyBehindName_of_head (by decide) rest
      head := forall_head?_cons (by decide) rest }
  cases l with
  | absent => exact hb
  | max letters spelled => exact hopen _
  | number n short scale => exact hopen _

theorem passes_column {c : ColumnScript} (hc : c.column.isPrimaryKey = false) {b : List Char}
    (hb : ColumnOption.NoKeyBehind b) : keyConstraint.Passes c.text b := by
  have hoptions : ∀ o ∈ c.options, o ≠ .primaryKey := by
    rintro o ho rfl
    have hany : c.options.any ColumnOption.isPrimaryKey = true := List.any_eq_true.2 ⟨_, ho, rfl⟩
    rw [ColumnScript.column, hany] at hc
    cases hc
  have hbehind := noKeyBehind_length c.length (hb.spaced hoptions)
  rw [← List.append_assoc] at hbehind
  have htype : keyBehindConstraint (' ' :: (c.type.text ++
      ((c.length.text ++ ColumnOption.spaced c.options) ++ b))) = none :=
    (keyBehindConstraint_name c.type hbehind.head).trans hbehind.name
  have hspace : ∀ b, keyConstraint.Passes [' '] b :=
    begins_keyConstraint.startsWith.passes (by decide)
  have hlength : keyConstraint.Passes (c.length.text ++ ColumnOption.spaced c.options) b :=
    (ColumnOption.passes_spaced hoptions b).behind (passes_length c.length _)
  have hbehindName := hlength.behind
    (begins_keyConstraint.passes_name c.type hbehind.word_head hbehind.constraint)
  refine (hbehindName.behind (hspace _)).behind (begins_keyConstraint.passes_name c.name ?_ ?_)
  · exact forall_head?_cons (by decide) _
  · rw [List.append_assoc, List.append_assoc]
    exact htype

/-- A search that comes to the items finds the first key constraint among them. -/
theorem findFrom_items {items : List (BlockItem × LineEnd)}
    (hinline : items.filterMap (fun i => i.1.inlineKey?) = []) {rest : List Char}
    (hrest : ∀ c ∈ rest, isWordChar c = false) (before : Option Char) (offset : Nat) :
    (keyConstraint.findFrom (fun _ => true) before offset 0
      (itemsWith Gap.spaces items ++ ([')'] ++ rest))).map Found.value =
        (items.filterMap fun i => i.1.constraintKey?).head? := by
  induction items generalizing before offset with
  | nil =>
    have hplain : ∀ c ∈ [')'] ++ rest, isWordChar c = false := by
      simp only [List.forall_mem_append]
      exact ⟨by decide, hrest⟩
    have hpass := begins_keyConstraint.passes_plain hplain [] (fun _ => true) before offset
    rw [List.append_nil] at hpass
    rw [itemsWith, List.nil_append, hpass]
    rfl
  | cons i items ih =>
    obtain ⟨item, ending⟩ := i
    let more := !items.isEmpty
    let text := itemsWith Gap.spaces items ++ ([')'] ++ rest)
    have htext : itemsWith Gap.spaces ((item, ending) :: items) ++ ([')'] ++ rest) =
        item.textWith Gap.spaces ++ ((ColumnScript.comma more ++ ending.spaces) ++ text) := by
      simp [itemsWith, more, text]
    rw [htext]
    cases item with
    | key k =>
      have hne : k.upToClose Gap.spaces ≠ [] :=
        List.append_ne_nil_of_left_ne_nil k.linePiece_start.ne_nil _
      have hfound := Clause.findFrom_of_read (p := before) (n := offset) hne rfl
        (k.keyConstraint_append (k.afterClose.spaces ++
          ((ColumnScript.comma more ++ ending.spaces) ++ text))) (q := fun _ => true) rfl
      rw [BlockItem.textWith, KeyScript.textWith, List.append_assoc, hfound]
      rfl
    | column c =>
      have hkey : c.column.isPrimaryKey = false := by
        by_contra h
        simp [BlockItem.inlineKey?, h] at hinline
      have hbehind : ColumnOption.NoKeyBehind ((ColumnScript.comma more ++ ending.spaces) ++ text) := by
        cases items with
        | nil => exact noKeyBehind_close ending.isBlank_spaces rest
        | cons i' items => exact noKeyBehind_comma _
      have hplain : ∀ x ∈ ColumnScript.comma more ++ ending.spaces, isWordChar x = false := by
        simp only [List.forall_mem_append]
        refine ⟨?_, fun x hx => isWordChar_of_isBlank (ending.isBlank_spaces x hx)⟩
        cases more <;> decide
      have hitems : items.filterMap (fun i => i.1.inlineKey?) = [] := by
        refine List.filterMap_eq_nil_iff.2 fun i hi => ?_
        exact List.filterMap_eq_nil_iff.1 hinline i (List.mem_cons_of_mem _ hi)
      rw [BlockItem.textWith, passes_column hkey hbehind, begins_keyConstraint.passes_plain hplain]
      exact ih hitems _ _

theorem passes_header (t : TableScript) (b : List Char) : keyConstraint.Passes t.header b := by
  have hbegins := begins_keyConstraint
  have hspace : ∀ b, keyConstraint.Passes [' '] b := hbegins.startsWith.passes (by decide)
  have htail : keyConstraint.Passes (t.table.text ++ [' ', '(']) b := by
    have hopen : keyBehindConstraint ([' '] ++ ('(' :: b)) = none :=
      keyBehindConstraint_blanks (by decide) (forall_head?_cons (by decide) b)
        (forall_head?_cons (by decide) b)
    have hparen : keyConstraint.Passes [' ', '('] b := hbegins.startsWith.passes (by decide) b
    exact hparen.behind (hbegins.passes_name t.table (forall_head?_cons (by decide) _) hopen)
  have hname : keyConstraint.Passes (t.schema.text ++ (['.'] ++ (t.table.text ++ [' ', '(']))) b := by
    have hdot : keyConstraint.Passes (['.'] ++ (t.table.text ++ [' ', '('])) b :=
      htail.behind (hbegins.startsWith.passes (by decide) _)
    refine hdot.behind (hbegins.passes_name t.schema (forall_head?_cons (by decide) _) ?_)
    exact bind_of_none (blanks1_of_head (forall_head?_cons (by decide) _))
  have htable : keyConstraint.Passes (['T', 'A', 'B', 'L', 'E'] ++ ([' '] ++ (t.schema.text ++
      (['.'] ++ (t.table.text ++ [' ', '(']))))) b :=
    (hname.behind (hspace _)).behind (hbegins.startsWith.passes (by decide) _)
  refine (htable.behind (hspace _)).behind
    (hbegins.passes_word (by decide) (forall_head?_cons (by decide) _) ?_)
  let word : ScriptName := ⟨['T', 'A', 'B', 'L', 'E'], false, by decide, by decide⟩
  have hnone : keyBehindName (' ' :: (t.schema.text ++ (['.'] ++ (t.table.text ++ [' ', '(']) ++ b))) =
      none :=
    keyBehindName_name t.schema (w := []) (by simp) (forall_head?_cons (by decide) _)
      (forall_head?_cons (by decide) _) (forall_head?_cons (by decide) _)
  rw [← List.append_assoc] at hnone
  exact (keyBehindConstraint_name word (forall_head?_cons (by decide) _)).trans hnone

/-- The key constraint that is found in the text is the one among the items, if no column is the key. -/
theorem find?_keyConstraint (t : TableScript)
    (hinline : t.items.filterMap (fun i => i.1.inlineKey?) = []) :
    (keyConstraint.find? t.masked).map Found.value =
      (t.items.filterMap fun i => i.1.constraintKey?).head? := by
  have hopening : ∀ b, keyConstraint.Passes t.opening.spaces b :=
    begins_keyConstraint.passes_plain fun x hx => isWordChar_of_isBlank (t.opening.isBlank_spaces x hx)
  rw [Clause.find?, masked, blockWith, t.passes_header, List.append_assoc, hopening]
  exact findFrom_items hinline t.trailing_plain _ _

theorem find?_header (t : TableScript) :
    tableHeader.find? t.masked = some ⟨0, t.header.length, ⟨t.schema.name, t.table.name⟩⟩ :=
  find?_tableText t.schema t.table _ _

theorem closingParen?_masked (t : TableScript) :
    closingParen? t.masked t.header.length =
      some (t.header.length + (t.blockWith Gap.spaces).length) :=
  closingParen?_tableText t.schema t.table t.paired_block _

theorem block_masked (t : TableScript) :
    (t.masked.take (t.header.length + (t.blockWith Gap.spaces).length)).drop t.header.length =
      t.blockWith Gap.spaces :=
  block_tableText t.schema t.table _ _

/-- The last key that the lines name, or else the key constraint of the text, is the key of the items. -/
theorem key_eq (t : TableScript) {lines : List Table.Line} (h : LinesSay t.items lines) :
    ((lines.filterMap Table.Line.key?).getLast? <|>
      (keyConstraint.find? t.masked).map Found.value) = t.toTable.primaryKeyColumn := by
  cases hlast : (lines.filterMap Table.Line.key?).getLast? with
  | some k =>
    have hmem : k ∈ t.items.filterMap fun i => i.1.key? := h.keys k (List.mem_of_getLast? hlast)
    obtain ⟨k', hkeys⟩ : ∃ k', (t.items.filterMap fun i => i.1.key?) = [k'] :=
      List.length_eq_one_iff.1 (Nat.le_antisymm t.one_key (List.length_pos_of_mem hmem))
    rw [hkeys, List.mem_singleton] at hmem
    rw [toTable, hkeys, hmem]
    rfl
  | none =>
    have hnone : lines.filterMap Table.Line.key? = [] := List.getLast?_eq_none_iff.1 hlast
    have hinline : t.items.filterMap (fun i => i.1.inlineKey?) = [] := by
      refine List.eq_nil_iff_forall_not_mem.2 fun k hk => ?_
      have hkey := h.inline k hk
      rw [hnone] at hkey
      cases hkey
    have hkeys : (t.items.filterMap fun i => i.1.key?) =
        t.items.filterMap fun i => i.1.constraintKey? := by
      refine List.filterMap_congr fun i hi => ?_
      rw [BlockItem.key?, List.filterMap_eq_nil_iff.1 hinline i hi]
      rfl
    rw [t.find?_keyConstraint hinline, toTable, hkeys]
    rfl

end TableScript

/-- Table round trip: a definition is read back as the table that it was put together for. -/
theorem Table.ofScript_tableScript (t : TableScript) :
    Table.ofScript (String.ofList t.text) = .ok t.toTable := by
  obtain ⟨lines, hlines, hitems⟩ := TableScript.mapM_lineOf_items t.items
  have hblock : (Table.blockLines (t.blockWith Gap.spaces)).mapM Table.lineOf = .ok lines := by
    rw [TableScript.blockWith, blockLines_blank_append t.opening.isBlank_spaces]
    exact hlines
  have hcolumns : lines.filterMap Table.Line.column? = t.toTable.columns := hitems.columns
  have hne : t.toTable.columns.isEmpty = false := by
    rw [List.isEmpty_eq_false_iff]
    exact t.exists_column
  rw [Table.ofScript, String.toList_ofList, t.mask_text, Table.ofMasked]
  simp only [t.find?_header, t.closingParen?_masked, t.block_masked, hblock, Table.blockOf]
  change (if (lines.filterMap Table.Line.column?).isEmpty = true then _ else _) = _
  rw [hcolumns, hne, if_neg (by simp)]
  change Except.ok (Table.mk _ _ _ _) = _
  rw [t.key_eq hitems]
  rfl

/-- A definition with a name that begins like a constraint, marks in its comments, and a key constraint
that goes over several lines. -/
def severalLinesScript : TableScript :=
  let id := ScriptName.ofLetters ['C', 'o', 'n', 's', 't', 'r', 'a', 'i', 'n', 't', 'I', 'D'] false
    (Eq.refl true)
  { schema := .ofLetters ['d', 'b'] true (Eq.refl true)
    table := .ofLetters ['I', 't', 'e', 'm'] false (Eq.refl true)
    opening := Gap.indent
    items := [
      (.column ⟨id, .ofLetters ['i', 'n', 't'] false (Eq.refl true), by decide,
        by decide, .absent, [.identity ⟨1, 0⟩ ⟨1, 0⟩, .notNull]⟩,
        .comment ['i', 't', '\'', 's', ' ', '('] (by decide)),
      (.column ⟨.ofLetters ['R', 'a', 'n', 'k'] true (Eq.refl true),
        .ofLetters ['n', 'v', 'a', 'r', 'c', 'h', 'a', 'r'] true (Eq.refl true), by decide,
        by decide, .max ['M', 'a', 'x'] (by decide),
        [.null, .references none (.ofLetters ['T'] false (Eq.refl true)) id]⟩, .plain),
      (.key ⟨.ofLetters ['P', 'K'] false (Eq.refl true), some true, Gap.indent, Gap.indent, id,
        some (Gap.empty, false), Gap.indent, Gap.empty⟩,
        .comment [')', ' ', '/', '*'] (by decide))]
    exists_column := by decide
    one_key := by decide
    trailing := [';']
    trailing_plain := by decide }

theorem Table.ofScript_severalLinesScript :
    Table.ofScript (String.ofList severalLinesScript.text) =
      .ok ⟨"db", "Item",
        [{ name := "ConstraintID", sqlType := "int", nullable := false, isIdentity := true },
          { name := "Rank", sqlType := "nvarchar", maxLength := some (-1),
            referencesTable := some "T" }], some "ConstraintID"⟩ := by
  rw [Table.ofScript_tableScript severalLinesScript]
  decide +kernel

end SchemaBindings

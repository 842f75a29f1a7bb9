import SchemaBindings.Batch.Source
import SchemaBindings.Proofs.Results
import SchemaBindings.Proofs.Script.Searching
import SchemaBindings.Proofs.Text.Pieces
import SchemaBindings.Proofs.Text.Returns

/-!
What the readers of scripts give. Names are words, whatever the script, and the cells and columns of a
seed hold no characters but those of its script.
-/

namespace SchemaBindings

set_option autoImplicit false

open Script Text

variable {α β : Type}

def IsWord (s : String) : Prop := s.toList ≠ [] ∧ ∀ c ∈ s.toList, isWordChar c = true

theorem IsWord.noReturn {s : String} (h : IsWord s) : NoReturn s := by
  intro hmem
  have hword := h.2 '\r' hmem
  revert hword
  decide

namespace Script.Reader

/-- What the reader gives has the property. -/
def Gives (P : α → Prop) (r : Reader α) : Prop := ∀ text a rest, r text = some (a, rest) → P a

theorem Gives.bind {P : α → Prop} {Q : β → Prop} {x : Reader α} {f : α → Reader β}
    (hx : Gives P x) (hf : ∀ a, P a → Gives Q (f a)) : Gives Q (x >>= f) := by
  intro text b rest h
  rw [bind_apply, Option.bind_eq_some_iff] at h
  obtain ⟨⟨a, middle⟩, ha, hb⟩ := h
  exact hf a (hx text a middle ha) middle b rest hb

theorem gives_pure {P : α → Prop} {a : α} (h : P a) : Gives P (pure a : Reader α) := by
  intro text b rest hb
  obtain ⟨rfl, _⟩ : a = b ∧ text = rest := by simpa [pure_apply] using hb
  exact h

theorem Gives.behind {P : β → Prop} (x : Reader α) {f : α → Reader β} (hf : ∀ a, Gives P (f a)) :
    Gives P (x >>= f) := by
  intro text b rest h
  rw [bind_apply, Option.bind_eq_some_iff] at h
  obtain ⟨⟨a, middle⟩, _, hb⟩ := h
  exact hf a middle b rest hb

theorem gives_many1 (p : Char → Bool) :
    Gives (fun cs => cs ≠ [] ∧ ∀ c ∈ cs, p c = true) (many1 p) := by
  have hfirst : Gives (fun c => p c = true) (satisfy p) := by
    intro text c rest h
    cases text with
    | nil => cases h
    | cons d more =>
      rw [satisfy_cons] at h
      split at h
      · rename_i hd
        cases h
        exact hd
      · cases h
  have hmany : Gives (fun cs => ∀ c ∈ cs, p c = true) (many p) := by
    intro text cs rest h
    cases h
    intro c hc
    exact List.mem_takeWhile_imp hc
  refine hfirst.bind fun c hc => hmany.bind fun cs hcs => gives_pure ?_
  constructor
  · exact List.cons_ne_nil c cs
  · intro d hd
    rcases List.mem_cons.1 hd with rfl | hd
    · exact hc
    · exact hcs d hd

theorem gives_name : Gives IsWord name := by
  have hword : Gives IsWord word := by
    refine (gives_many1 isWordChar).bind fun cs hcs => gives_pure ?_
    unfold IsWord
    rw [String.toList_ofList]
    exact hcs
  exact .behind _ fun _ => hword.bind fun w hw => .behind _ fun _ => gives_pure hw

theorem Gives.orElse {P : α → Prop} {x y : Reader α} (hx : Gives P x) (hy : Gives P y) :
    Gives P (x <|> y) := by
  intro text a rest h
  rw [orElse_apply, Option.or_eq_some_iff] at h
  rcases h with h | ⟨_, h⟩
  · exact hx text a rest h
  · exact hy text a rest h

theorem gives_optional {P : α → Prop} {x : Reader α} (hx : Gives P x) :
    Gives (fun o => ∀ a, o = some a → P a) (optional x) := by
  intro text o rest h a ha
  subst ha
  rw [optional_apply] at h
  cases hread : x text with
  | none =>
    rw [hread] at h
    cases h
  | some v =>
    rw [hread] at h
    cases h
    exact hx text v.1 v.2 hread

/-- The characters of what the reader gives come from the text. -/
def GivesFrom (chars : α → List Char) (r : Reader α) : Prop :=
  ∀ text a rest, r text = some (a, rest) → ∀ c ∈ chars a, c ∈ text

theorem GivesFrom.bind {chars : β → List Char} {x : Reader α} {f : α → Reader β}
    (hx : Takes (fun _ => True) x) (hf : ∀ a, GivesFrom chars (f a)) : GivesFrom chars (x >>= f) := by
  intro text b rest h c hc
  rw [bind_apply, Option.bind_eq_some_iff] at h
  obtain ⟨⟨a, middle⟩, ha, hb⟩ := h
  obtain ⟨taken, rfl, _⟩ := hx text a middle ha
  exact List.mem_append_right taken (hf a middle b rest hb c hc)

end Script.Reader

namespace Script.Clause

open Reader

theorem read_of_findFrom {c : Clause α} {wanted : Nat → Bool} {before : Option Char}
    {offset taken : Nat} {text : List Char} {f : Found α}
    (h : c.findFrom wanted before offset taken text = some f) :
    ∃ s rest, s <:+ text ∧ c.read s = some (f.value, rest) := by
  obtain ⟨p, s, rest, rfl, hread, _⟩ := findFrom_eq_some h
  exact ⟨s, rest, List.suffix_append p s, hread⟩

theorem gives_find? {c : Clause α} {P : α → Prop} (hc : Gives P c.read) {text : List Char}
    {f : Found α} (h : c.find? text = some f) : P f.value := by
  obtain ⟨s, rest, _, hread⟩ := read_of_findFrom h
  exact hc s f.value rest hread

end Script.Clause

/-- The names in a table are words. -/
structure Table.Worded (t : Table) : Prop where
  schema : IsWord t.schemaName
  table : IsWord t.tableName
  columns : ∀ c ∈ t.columns, IsWord c.name
  key : ∀ name, t.primaryKeyColumn = some name → IsWord name

def Script.QualifiedName.IsWorded (n : QualifiedName) : Prop := IsWord n.schema ∧ IsWord n.table

theorem gives_qualifiedName : Reader.Gives QualifiedName.IsWorded qualifiedName :=
  Reader.gives_name.bind fun _ hschema => .behind _ fun _ =>
    Reader.gives_name.bind fun _ htable => Reader.gives_pure ⟨hschema, htable⟩

theorem gives_tableHeader : Reader.Gives QualifiedName.IsWorded tableHeader.read :=
  .behind _ fun _ => .behind _ fun _ => .behind _ fun _ => .behind _ fun _ =>
    gives_qualifiedName.bind fun _ hn => .behind _ fun _ => .behind _ fun _ => Reader.gives_pure hn

theorem gives_mergeTarget : Reader.Gives QualifiedName.IsWorded mergeTarget.read :=
  .behind _ fun _ => .behind _ fun _ => .behind _ fun _ => gives_qualifiedName

/-- What the length of a column is given by: digits, or `max` in some case. -/
def IsLengthToken (token : String) : Prop :=
  (token.toList ≠ [] ∧ ∀ c ∈ token.toList, isDecimal c = true) ∨
    token.toList.map Char.toLower = ['m', 'a', 'x']

/-- The names among the parts are words, and the length is one. -/
structure Script.ColumnParts.IsWorded (p : ColumnParts) : Prop where
  name : IsWord p.name
  type : IsWord p.type
  length : ∀ token, p.length = some token → IsLengthToken token

theorem gives_max : Reader.Gives (fun cs => IsLengthToken (String.ofList cs)) (do
    let text ← get
    Reader.keyword "max"
    return text.take 3) := by
  intro text cs rest h
  rw [Reader.bind_of_eq (Reader.get_apply text), Reader.bind_apply, Option.bind_eq_some_iff] at h
  obtain ⟨v, hread, h⟩ := h
  obtain ⟨w, rfl, hspells⟩ := Reader.keyLetters_eq_some hread
  have hlength : w.length = 3 := Reader.length_of_spells hspells
  rw [List.take_left' hlength] at h
  obtain ⟨rfl, _⟩ : w = cs ∧ v.2 = rest := by simpa [Reader.pure_apply] using h
  refine .inr ?_
  rw [String.toList_ofList]
  exact Reader.map_toLower_of_spells (by decide) hspells

theorem gives_columnLength : Reader.Gives IsLengthToken columnLength := by
  have hdigits : Reader.Gives (fun cs => IsLengthToken (String.ofList cs)) Reader.digits := by
    intro text cs rest h
    refine .inl ?_
    rw [String.toList_ofList]
    exact Reader.gives_many1 isDecimal text cs rest h
  refine .behind _ fun _ => .behind _ fun _ => .behind _ fun _ => ?_
  exact (hdigits.orElse gives_max).bind fun _ hcs => .behind _ fun _ => .behind _ fun _ =>
    .behind _ fun _ => Reader.gives_pure hcs

theorem gives_columnLine : Reader.Gives ColumnParts.IsWorded columnLine.read :=
  .behind _ fun _ => Reader.gives_name.bind fun _ hn => .behind _ fun _ => Reader.gives_name.bind fun _ ht =>
    (Reader.gives_optional gives_columnLength).bind fun _ hl => .behind _ fun _ =>
      Reader.gives_pure ⟨hn, ht, hl⟩

theorem gives_keyConstraint : Reader.Gives IsWord keyConstraint.read := by
  refine .behind _ fun _ => .behind _ fun _ => .behind _ fun _ => .behind _ fun _ => .behind _ fun _ =>
    .behind _ fun _ => .behind _ fun _ => .behind _ fun _ => .behind _ fun _ => .behind _ fun _ =>
      .behind _ fun _ => .behind _ fun _ => ?_
  exact Reader.gives_name.bind fun _ hn => .behind _ fun _ => .behind _ fun _ => .behind _ fun _ =>
    .behind _ fun _ => Reader.gives_pure hn

namespace Table

theorem columnParts?_eq_some {line : List Char} {p : ColumnParts} (h : columnParts? line = some p) :
    p.IsWorded ∧ isConstraintKeyword p.name = false ∧ isConstraintKeyword p.type = false := by
  unfold columnParts? at h
  obtain ⟨hfind, hfree⟩ := Option.filter_eq_some_iff.1 h
  obtain ⟨f, hf, rfl⟩ := Option.map_eq_some_iff.1 hfind
  rw [Bool.not_eq_true', Bool.or_eq_false_iff] at hfree
  exact ⟨Clause.gives_find? gives_columnLine hf, hfree⟩

/-- A column has the name, the type and the length of its line. -/
theorem columnOf_eq_ok {p : ColumnParts} {c : Column} (h : columnOf p = .ok c) :
    c.name = p.name ∧ c.sqlType = p.type ∧ (p.length = none ∧ c.maxLength = none ∨
      ∃ token n, p.length = some token ∧ lengthOf token = .ok n ∧ c.maxLength = some n) := by
  unfold columnOf at h
  split at h
  · rename_i token htoken
    obtain ⟨_, hlength, h⟩ := bind_eq_ok.1 h
    obtain ⟨n, hn, rfl⟩ := map_eq_ok.1 hlength
    cases h
    exact ⟨rfl, rfl, .inr ⟨token, n, htoken, hn, rfl⟩⟩
  · rename_i hnone
    cases h
    exact ⟨rfl, rfl, .inl ⟨hnone, rfl⟩⟩

/-- A line defines a column if it has the parts of one; any other names a key or says nothing. -/
theorem lineOf_eq_ok {line : List Char} {l : Line} (h : lineOf line = .ok l) :
    (∃ p c, columnParts? line = some p ∧ columnOf p = .ok c ∧ l = .column c) ∨
      columnParts? line = none ∧ ((∃ f, keyConstraint.find? line = some f ∧ l = .key f.value) ∨
        l = .other) := by
  unfold lineOf at h
  split at h
  · rename_i p hp
    obtain ⟨c, hc, rfl⟩ := map_eq_ok.1 h
    exact .inl ⟨p, c, hp, hc, rfl⟩
  · rename_i hnone
    refine .inr ⟨hnone, ?_⟩
    split at h
    · split at h
      · rename_i f hf
        cases h
        exact .inl ⟨f, hf, rfl⟩
      · cases h
        exact .inr rfl
    · cases h
      exact .inr rfl

/-- The first header of a text, and what stands between the parentheses behind it. -/
structure HasBlock (text : List Char) (header : Found QualifiedName) (block : List Char) : Prop where
  found : tableHeader.find? text = some header
  closed : ∃ stop, closingParen? text header.stop = some stop ∧ block = (text.take stop).drop header.stop

theorem ofMasked_eq_ok {text : List Char} {t : Table} (h : ofMasked text = .ok t) :
    ∃ header block lines, HasBlock text header block ∧ (blockLines block).mapM lineOf = .ok lines ∧
      lines.filterMap Line.column? ≠ [] ∧
      t = ⟨header.value.schema, header.value.table, lines.filterMap Line.column?,
        (lines.filterMap Line.key?).getLast?.or ((keyConstraint.find? text).map Found.value)⟩ := by
  unfold ofMasked at h
  split at h
  · rename_i header hheader
    simp only at h
    split at h
    · rename_i stop hstop
      obtain ⟨lines, hlines, h⟩ := bind_eq_ok.1 h
      split at h
      · cases h
      · rename_i hempty
        cases h
        refine ⟨header, _, lines, ⟨hheader, stop, hstop, rfl⟩, mapError_eq_ok.1 hlines, ?_, ?_⟩
        · rwa [List.isEmpty_iff] at hempty
        · rw [Option.orElse_eq_orElse, Option.orElse_eq_or]
          rfl
    · cases h
  · cases h

end Table

theorem lineOf_worded {line : List Char} {l : Table.Line} (h : Table.lineOf line = .ok l) :
    (∀ c, l.column? = some c → IsWord c.name) ∧ ∀ name, l.key? = some name → IsWord name := by
  rcases Table.lineOf_eq_ok h with ⟨p, c, hp, hc, rfl⟩ | ⟨_, ⟨f, hf, rfl⟩ | rfl⟩
  · have hname : IsWord c.name := by
      rw [(Table.columnOf_eq_ok hc).1]
      exact (Table.columnParts?_eq_some hp).1.name
    constructor
    · rintro c' ⟨⟩
      exact hname
    · intro name hkey
      change (if c.isPrimaryKey then some c.name else none) = some name at hkey
      split at hkey
      · cases hkey
        exact hname
      · cases hkey
  · constructor
    · rintro c ⟨⟩
    · rintro name ⟨⟩
      exact Clause.gives_find? gives_keyConstraint hf
  · constructor
    · rintro c ⟨⟩
    · rintro name ⟨⟩

theorem worded_of_ofScript {script : String} {t : Table} (h : Table.ofScript script = .ok t) :
    t.Worded := by
  obtain ⟨header, block, lines, hblock, hlines, _, rfl⟩ := Table.ofMasked_eq_ok h
  have hnames : header.value.IsWorded := Clause.gives_find? gives_tableHeader hblock.found
  have hline : ∀ l ∈ lines, (∀ c, l.column? = some c → IsWord c.name) ∧
      ∀ name, l.key? = some name → IsWord name := by
    intro l hl
    obtain ⟨line, _, hread⟩ := mem_of_mapM_eq_ok hlines l hl
    exact lineOf_worded hread
  constructor
  · exact hnames.1
  · exact hnames.2
  · intro c hc
    obtain ⟨l, hl, hcolumn⟩ := List.mem_filterMap.1 hc
    exact (hline l hl).1 c hcolumn
  · intro name hname
    rcases Option.or_eq_some_iff.1 hname with hlast | ⟨_, hfound⟩
    · obtain ⟨l, hl, hkey⟩ := List.mem_filterMap.1 (List.mem_of_getLast? hlast)
      exact (hline l hl).2 name hkey
    · obtain ⟨f, hf, rfl⟩ := Option.map_eq_some_iff.1 hfound
      exact Clause.gives_find? gives_keyConstraint hf

theorem mem_of_mem_mask {text : List Char} {c : Char} (hc : c ≠ ' ') (h : c ∈ mask text) :
    c ∈ text := by
  obtain ⟨i, hi, rfl⟩ := List.mem_iff_getElem.1 h
  have hlength : i < text.length := by simpa using hi
  have hzone : i < (zones text).length := by simpa using hlength
  have hmasked : (mask text)[i] = blank text[i] (zones text)[i] := by
    simp [mask]
  rw [hmasked] at hc ⊢
  rcases blank_eq_or_space text[i] (zones text)[i] with hsame | hspace
  · rw [hsame]
    exact List.getElem_mem hlength
  · exact (hc hspace).elim

theorem mem_of_mem_groupsFrom {group : Option (Nat × List Char)} {xs : List (Char × Zone)} {g : List Char}
    (hg : g ∈ groupsFrom group xs) {c : Char} (hc : c ∈ g) :
    c ∈ (group.map Prod.snd).getD [] ∨ c ∈ xs.map Prod.fst := by
  induction xs generalizing group with
  | nil => cases hg
  | cons x rest ih =>
    rw [List.map_cons, List.mem_cons]
    unfold groupsFrom at hg
    cases group with
    | none =>
      simp only at hg
      rcases ih hg with h | h
      · split at h <;> cases h
      · exact .inr (.inr h)
    | some open_ =>
      obtain ⟨depth, body⟩ := open_
      have hmore : ∀ d, g ∈ groupsFrom (some (d, x.1 :: body)) rest →
          c ∈ body ∨ c = x.1 ∨ c ∈ rest.map Prod.fst := by
        intro d hd
        rcases ih hd with h | h
        · rcases List.mem_cons.1 h with rfl | h
          · exact .inr (.inl rfl)
          · exact .inl h
        · exact .inr (.inr h)
      simp only at hg
      split at hg
      · exact hmore _ hg
      · split at hg
        · split at hg
          · rcases List.mem_cons.1 hg with rfl | hg
            · exact .inl (List.mem_reverse.1 hc)
            · rcases ih hg with h | h
              · cases h
              · exact .inr (.inr h)
          · exact hmore _ hg
        · exact hmore _ hg

theorem mem_of_mem_groups {text g : List Char} (hg : g ∈ groups text) {c : Char} (hc : c ∈ g) :
    c ∈ text := by
  rcases mem_of_mem_groupsFrom hg hc with h | h
  · cases h
  · rwa [map_fst_marked] at h

theorem mem_of_mem_cellsFrom {quoted : Bool} {cell row a : List Char} (ha : a ∈ cellsFrom quoted cell row)
    {c : Char} (hc : c ∈ a) : c ∈ cell ∨ c ∈ row := by
  fun_induction cellsFrom quoted cell row with
  | case1 => simp_all
  | case2 cell rest ih =>
    rcases ih ha with h | h
    · rcases List.mem_cons.1 h with rfl | h
      · exact .inr List.mem_cons_self
      · exact .inl h
    · exact .inr (List.mem_cons_of_mem _ (List.mem_cons_of_mem _ h))
  | case3 cell rest _ ih => exact (ih ha).imp_right (List.mem_cons_of_mem _)
  | case4 cell d rest _ _ ih =>
    rcases ih ha with h | h
    · rcases List.mem_cons.1 h with rfl | h
      · exact .inr List.mem_cons_self
      · exact .inl h
    · exact .inr (List.mem_cons_of_mem _ h)
  | case5 cell rest ih => exact (ih ha).imp_right (List.mem_cons_of_mem _)
  | case6 cell rest ih =>
    exact (ih ha).imp_right fun h => List.mem_cons_of_mem _ (List.mem_cons_of_mem _ h)
  | case7 cell rest ih =>
    rcases List.mem_cons.1 ha with rfl | ha
    · exact .inl (List.mem_reverse.1 hc)
    · rcases ih ha with h | h
      · cases h
      · exact .inr (List.mem_cons_of_mem _ h)
  | case8 cell d rest _ _ _ ih =>
    rcases ih ha with h | h
    · split at h
      · exact .inl h
      · rcases List.mem_cons.1 h with rfl | h
        · exact .inr List.mem_cons_self
        · exact .inl h
    · exact .inr (List.mem_cons_of_mem _ h)

theorem mem_of_mem_trimOf {p : Char → Bool} {text : List Char} {c : Char} (h : c ∈ trimOf p text) :
    c ∈ text := by
  unfold trimOf trimEndOf at h
  have hdrop := (List.dropWhile_sublist p).mem (List.mem_reverse.1 h)
  exact (List.dropWhile_sublist p).mem (List.mem_reverse.1 hdrop)

/-- The names of a seed's target are words, and nothing else in it has a carriage return. -/
structure Seed.Clean (s : Seed) : Prop where
  schema : IsWord s.schemaName
  table : IsWord s.tableName
  columns : ∀ name ∈ s.columnNames, NoReturn name
  cells : ∀ row ∈ s.rows, ∀ cell ∈ row, NoReturn cell

theorem noReturn_columnNamesOf {columns : List Char} (h : '\r' ∉ columns) :
    ∀ name ∈ Seed.columnNamesOf columns, NoReturn name := by
  intro name hname
  obtain ⟨piece, hpiece, rfl⟩ := List.mem_map.1 (List.mem_filter.1 hname).1
  rw [noReturn_ofList]
  intro hmem
  exact h (mem_of_mem_pieces hpiece
    (mem_of_mem_trimOf (mem_of_mem_trimOf (mem_of_mem_trimOf hmem))))

theorem noReturn_rowsOf {region : List Char} (h : '\r' ∉ region) :
    ∀ row ∈ Seed.rowsOf region, ∀ cell ∈ row, NoReturn cell := by
  intro row hrow cell hcell
  obtain ⟨g, hg, rfl⟩ := List.mem_map.1 (List.mem_filter.1 hrow).1
  obtain ⟨letters, hletters, rfl⟩ := List.mem_map.1 hcell
  rw [noReturn_ofList]
  intro hmem
  unfold cells at hletters
  split at hletters
  · cases hletters
  · rcases mem_of_mem_cellsFrom hletters hmem with hnil | hin
    · cases hnil
    · exact h (mem_of_mem_groups hg hin)

theorem givesFrom_sourceColumns : Reader.GivesFrom SourceColumns.columns sourceColumns.read := by
  refine .bind (Reader.takes_any_keyword _) fun _ => .bind Reader.takes_any_blanks1 fun _ =>
    .bind Reader.takes_any_name fun _ => .bind Reader.takes_any_blanks fun _ =>
      .bind (Reader.takes_char trivial) fun _ => .bind Reader.takes_any_blanks fun _ => ?_
  intro text a rest h c hc
  rw [Reader.bind_apply, Reader.many_apply, Option.bind_some, Reader.bind_apply,
    Option.bind_eq_some_iff] at h
  obtain ⟨⟨_, middle⟩, _, h⟩ := h
  cases h
  exact (List.takeWhile_sublist _).mem hc

theorem not_mem_findOutside? {text : List Char} (htext : '\r' ∉ text) {start : Nat}
    {f : Found SourceColumns}
    (h : sourceColumns.findOutside? text start = some f) : '\r' ∉ f.value.columns := by
  obtain ⟨s, rest, hs, hread⟩ := Clause.read_of_findFrom h
  intro hmem
  have hin : '\r' ∈ (mask text).drop start := hs.mem (givesFrom_sourceColumns s f.value rest hread _ hmem)
  exact htext (mem_of_mem_mask (by decide) (List.mem_of_mem_drop hin))

theorem layoutOf_noReturn {text : List Char} (htext : '\r' ∉ text) {l : Seed.Layout}
    (h : Seed.layoutOf text = .ok l) :
    l.target.IsWorded ∧ '\r' ∉ l.columns ∧ '\r' ∉ l.region := by
  unfold Seed.layoutOf at h
  cases htarget : mergeTarget.find? text with
  | none =>
    simp only [htarget] at h
    cases h
  | some target =>
    have hnames : target.value.IsWorded := Clause.gives_find? gives_mergeTarget htarget
    simp only [htarget] at h
    split at h
    · rename_i first hfirst
      have hlist := not_mem_findOutside? htext hfirst
      split at h
      · split at h
        · cases h
        · cases h
          refine ⟨hnames, ?_, ?_⟩
          · simp only
            split
            · split
              · rename_i close _ _
                cases hclose : sourceColumns.findOutside? text close with
                | none => exact hlist
                | some f => exact not_mem_findOutside? htext hclose
              · exact hlist
            · exact hlist
          · intro hmem
            exact htext (List.mem_of_mem_take (List.mem_of_mem_drop hmem))
      · cases h
    · cases h

theorem clean_of_ofLayout {l : Seed.Layout} (htarget : l.target.IsWorded) (hcolumns : '\r' ∉ l.columns)
    (hregion : '\r' ∉ l.region) {s : Seed} (h : Seed.ofLayout l = .ok s) : s.Clean := by
  obtain ⟨⟨schema, table⟩, columns, region⟩ := l
  unfold Seed.ofLayout at h
  simp only at h
  split at h
  · cases h
  · split at h
    · cases h
    · cases h
      exact ⟨htarget.1, htarget.2, noReturn_columnNamesOf hcolumns, noReturn_rowsOf hregion⟩

theorem clean_of_ofScript {script : String} (hscript : NoReturn script) {s : Seed}
    (h : Seed.ofScript script = .ok s) : s.Clean := by
  unfold Seed.ofScript at h
  obtain ⟨l, hl, hseed⟩ := bind_eq_ok.1 h
  have htext : '\r' ∉ mask script.toList := fun hmem => hscript (mem_of_mem_mask (by decide) hmem)
  obtain ⟨htarget, hcolumns, hregion⟩ := layoutOf_noReturn htext hl
  exact clean_of_ofLayout htarget hcolumns hregion hseed

end SchemaBindings

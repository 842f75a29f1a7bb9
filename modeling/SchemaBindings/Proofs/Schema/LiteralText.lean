import SchemaBindings.Proofs.Schema.ColumnRoundTrip
import SchemaBindings.Proofs.Script.Cutting
import SchemaBindings.Proofs.Script.RowValues

/-!
Literals on the line of a column. No clause of a column reaches over a quote, so what a line says of its
column beyond name, type and length is put together from what stands in front of a literal, in it and behind
it. The text of a literal counts like any other, so a default value that spells an option sets that option.
-/

namespace SchemaBindings

set_option autoImplicit false

open Script Text
open Script.Reader

theorem stopsAt_digits : StopsAt '\'' digits := stopsAt_many1 (by decide)

theorem stopsAt_quote_blanks : StopsAt '\'' blanks := stopsAt_blanks (by decide)

theorem stopsAt_quote_blanks1 : StopsAt '\'' blanks1 := stopsAt_blanks1 (by decide)

theorem stopsAt_quote_name : StopsAt '\'' name := stopsAt_name (by decide) (by decide) (by decide)

theorem stopsAt_notNull : notNull.StopsAt '\'' where
  reads := (stopsAt_keyLetters (by decide)).bind fun _ => stopsAt_quote_blanks1.bind fun _ =>
    (stopsAt_keyLetters (by decide)).bind fun _ => stopsAt_wordEnd (by decide)
  read_nil := rfl
  allows := by decide

theorem stopsAt_identity : identity.StopsAt '\'' where
  reads := (stopsAt_keyLetters (by decide)).bind fun _ => stopsAt_quote_blanks.bind fun _ =>
    (stopsAt_char (by decide)).bind fun _ => stopsAt_quote_blanks.bind fun _ =>
      stopsAt_digits.bind fun _ => stopsAt_quote_blanks.bind fun _ =>
        (stopsAt_char (by decide)).bind fun _ => stopsAt_quote_blanks.bind fun _ =>
          stopsAt_digits.bind fun _ => stopsAt_quote_blanks.bind fun _ => stopsAt_char (by decide)
  read_nil := rfl
  allows := by decide

theorem stopsAt_inlineKey : inlineKey.StopsAt '\'' where
  reads := (stopsAt_keyLetters (by decide)).bind fun _ => stopsAt_quote_blanks1.bind fun _ =>
    (stopsAt_keyLetters (by decide)).bind fun _ => stopsAt_wordEnd (by decide)
  read_nil := rfl
  allows := by decide

theorem stopsAt_foreignKey : foreignKey.StopsAt '\'' where
  reads := (stopsAt_keyLetters (by decide)).bind fun _ => stopsAt_quote_blanks1.bind fun _ =>
    (stopsAt_quote_name.bind fun _ => stopsAt_char (by decide)).optional.bind fun _ =>
      stopsAt_quote_name.bind fun _ => stopsAt_quote_blanks.bind fun _ =>
        (stopsAt_char (by decide)).bind fun _ => stopsAt_pure _
  read_nil := rfl
  allows := by decide

theorem stopsAt_columnLength : StopsAt '\'' columnLength :=
  stopsAt_quote_blanks.bind fun _ => (stopsAt_char (by decide)).bind fun _ =>
    stopsAt_quote_blanks.bind fun _ => (stopsAt_digits.orElse (stopsAt_spelled (by decide))).bind fun _ =>
      stopsAt_quote_blanks.bind fun _ =>
        ((stopsAt_char (by decide)).bind fun _ => stopsAt_quote_blanks.bind fun _ =>
          stopsAt_digits.bind fun _ => stopsAt_quote_blanks).optional.bind fun _ =>
            (stopsAt_char (by decide)).bind fun _ => stopsAt_pure _

namespace Table

/-- What a text says of a column that has it among its options. -/
@[ext]
structure Options where
  notNull : Bool
  identity : Bool
  key : Bool
  references : Option String
  deriving DecidableEq

namespace Options

def ofText (text : List Char) : Options where
  notNull := Script.notNull.occursIn text
  identity := Script.identity.occursIn text
  key := inlineKey.occursIn text
  references := (foreignKey.find? text).map Found.value

/-- What two texts say together; of two references the first one counts. -/
instance : Append Options where
  append a b :=
    ⟨a.notNull || b.notNull, a.identity || b.identity, a.key || b.key, a.references.or b.references⟩

theorem ofText_nil_append (o : Options) : ofText [] ++ o = o := rfl

theorem append_assoc (a b c : Options) : a ++ b ++ c = a ++ (b ++ c) :=
  Options.ext (Bool.or_assoc _ _ _) (Bool.or_assoc _ _ _) (Bool.or_assoc _ _ _) Option.or_assoc

theorem occursIn_append_quote {α : Type} {c : Clause α} (hc : c.StopsAt '\'') (a b : List Char) :
    c.occursIn (a ++ '\'' :: b) = (c.occursIn a || c.occursIn b) := by
  have hsome := congrArg Option.isSome (hc.map_value_find? a b)
  rw [Option.isSome_map, Option.isSome_or, Option.isSome_map, Option.isSome_map] at hsome
  exact hsome

theorem ofText_append_quote (a b : List Char) : ofText (a ++ '\'' :: b) = ofText a ++ ofText b :=
  Options.ext (occursIn_append_quote stopsAt_notNull a b) (occursIn_append_quote stopsAt_identity a b)
    (occursIn_append_quote stopsAt_inlineKey a b) (stopsAt_foreignKey.map_value_find? a b)

/-- It makes no difference that the quotes in a literal are doubled. -/
theorem ofText_doubled (text : List Char) : ofText (doubled text) = ofText text := by
  induction text using text_induction '\'' with
  | last p hp => rw [doubled_of_not_mem hp]
  | step p q hp ih =>
    have hbetween := ofText_append_quote [] (doubled q)
    rw [List.nil_append, ofText_nil_append] at hbetween
    rw [doubled_append_quote, doubled_of_not_mem hp, ofText_append_quote, hbetween, ih, ofText_append_quote]

theorem ofText_inQuotes (a text b : List Char) :
    ofText (a ++ inQuotes text ++ b) = ofText a ++ ofText text ++ ofText b := by
  rw [append_inQuotes, ofText_append_quote, ofText_append_quote, ofText_doubled, append_assoc]

end Options

end Table

def Column.withOptions (c : Column) (o : Table.Options) : Column :=
  { c with
    nullable := !o.notNull
    isIdentity := o.identity
    isPrimaryKey := o.key
    referencesTable := o.references }

theorem Column.withOptions_inj {c : Column} {o o' : Table.Options} :
    c.withOptions o = c.withOptions o' ↔ o = o' := by
  refine ⟨fun h => ?_, congrArg _⟩
  simp only [Column.withOptions, Column.mk.injEq, Bool.not_inj_iff] at h
  obtain ⟨_, _, hnotNull, _, hidentity, hkey, hreferences⟩ := h
  exact Table.Options.ext hnotNull hidentity hkey hreferences

namespace Table

/-- The end of a line's options, without the blanks and the comma behind them. -/
def optionsEnd (text : List Char) : List Char :=
  let options := trimEnd text
  if options.getLast? = some ',' then trimEnd options.dropLast else options

theorem optionsText_eq (text : List Char) : optionsText text = optionsEnd (text.dropWhile isBlank) := rfl

theorem isPrefix_optionsEnd (text : List Char) : optionsEnd text <+: text := by
  have htrim : trimEnd text <+: text := isPrefix_trimEndOf isBlank text
  unfold optionsEnd
  dsimp only
  split
  · exact ((isPrefix_trimEndOf isBlank _).trans (List.dropLast_prefix _)).trans htrim
  · exact htrim

theorem optionsEnd_append_quote (a b : List Char) :
    optionsEnd (a ++ '\'' :: b) = a ++ '\'' :: optionsEnd b := by
  have htrim : trimEnd (a ++ '\'' :: b) = a ++ '\'' :: trimEnd b := trimEndOf_append_cons (by decide) a b
  unfold optionsEnd
  rw [htrim]
  cases hend : trimEnd b with
  | nil => simp
  | cons x more =>
    have hlast : (a ++ '\'' :: x :: more).getLast? = (x :: more).getLast? := by
      rw [List.getLast?_append_cons, List.getLast?_cons_cons]
    have hfront : (a ++ '\'' :: x :: more).dropLast = a ++ '\'' :: (x :: more).dropLast := by
      rw [List.dropLast_append_cons, List.dropLast_cons_cons]
    simp only [hlast, hfront]
    split
    · exact trimEndOf_append_cons (by decide) a _
    · rfl

theorem optionsText_inQuotes (a text b : List Char) :
    optionsText (a ++ inQuotes text ++ b) = a.dropWhile isBlank ++ inQuotes text ++ optionsEnd b := by
  have hend := optionsEnd_append_quote (a.dropWhile isBlank ++ '\'' :: doubled text) b
  rw [List.append_assoc, List.append_assoc, List.cons_append] at hend
  rw [append_inQuotes, append_inQuotes, optionsText_eq, dropWhile_append_cons (by decide)]
  exact hend

/-- Name, type and length, with which the line of a column begins. -/
def columnStart : Reader ColumnParts := do
  blanks
  let n ← name
  blanks1
  let type ← name
  let length ← optional columnLength
  return ⟨n, type, length, []⟩

theorem stopsAt_columnStart : StopsAt '\'' columnStart :=
  stopsAt_quote_blanks.bind fun _ => stopsAt_quote_name.bind fun _ => stopsAt_quote_blanks1.bind fun _ =>
    stopsAt_quote_name.bind fun _ => stopsAt_columnLength.optional.bind fun _ => stopsAt_pure _

theorem columnLine_read (text : List Char) : columnLine.read text =
    (columnStart text).bind fun v =>
      (lastLine v.2).map fun w => (⟨v.1.name, v.1.type, v.1.length, w.1⟩, w.2) := by
  simp only [columnLine, columnStart, bind_apply, pure_apply, Option.bind_assoc, Option.bind_some,
    Option.map_eq_bind]
  rfl

section
variable {front behind x : List Char}

theorem columnLine_inQuotes (front text behind : List Char) :
    columnLine.read (front ++ inQuotes text ++ behind) = (columnStart front).bind fun v =>
      (lastLine (v.2 ++ inQuotes text ++ behind)).map fun w =>
        (⟨v.1.name, v.1.type, v.1.length, w.1⟩, w.2) := by
  rw [columnLine_read, append_inQuotes, stopsAt_columnStart.stops]
  simp only [append_inQuotes]
  cases columnStart front with
  | none => rfl
  | some v => rfl

theorem columnParts?_inQuotes {p : ColumnParts} (h : columnParts? (front ++ inQuotes x ++ behind) = some p) :
    ∃ a b, a <:+ front ∧ b <+: behind ∧ p.rest = a ++ inQuotes x ++ b ∧ ∀ y, '\n' ∉ y →
      columnParts? (front ++ inQuotes y ++ behind) = some { p with rest := a ++ inQuotes y ++ b } := by
  rw [columnParts?_eq, columnLine_inQuotes, Option.filter_eq_some_iff, Option.map_eq_some_iff] at h
  obtain ⟨⟨r, hread, rfl⟩, hplain⟩ := h
  obtain ⟨v, hstart, hrest⟩ := Option.bind_eq_some_iff.1 hread
  obtain ⟨w, hline, rfl⟩ := Option.map_eq_some_iff.1 hrest
  have hone : '\n' ∉ v.2 ++ '\'' :: doubled x := by
    intro hmem
    have hnone := lastLine_of_mem hmem '\'' behind
    rw [List.append_assoc, List.cons_append, ← append_inQuotes, hline] at hnone
    cases hnone
  rw [List.mem_append, List.mem_cons, not_or, not_or] at hone
  obtain ⟨hfront, _, hx⟩ := hone
  have hliteral : ∀ y, '\n' ∉ y → lastLine (v.2 ++ inQuotes y ++ behind) =
      (lastLine behind).map fun u => (v.2 ++ inQuotes y ++ u.1, u.2) := by
    intro y hy
    apply lastLine_append
    simp [inQuotes, mem_doubled, hfront, hy]
  rw [hliteral x (mt mem_doubled.2 hx), Option.map_eq_some_iff] at hline
  obtain ⟨u, hbehind, rfl⟩ := hline
  obtain ⟨taken, htaken, _⟩ := stopsAt_columnStart.takes front v.1 v.2 hstart
  refine ⟨v.2, u.1, ⟨taken, htaken.symm⟩, isPrefix_lastLine hbehind, rfl, fun y hy => ?_⟩
  rw [columnParts?_eq, columnLine_inQuotes, hstart, Option.bind_some, hliteral y hy, hbehind,
    Option.map_some, Option.map_some, Option.map_some, Option.filter_some, if_pos hplain]

/-- The options of a column come from what stands behind its length. -/
theorem columnOf_rest {p : ColumnParts} {c : Column} (h : columnOf p = .ok c) (rest : List Char) :
    columnOf { p with rest } = .ok (c.withOptions (.ofText (optionsText rest))) := by
  obtain ⟨name, type, length, written⟩ := p
  cases length with
  | none =>
    cases h
    rfl
  | some text =>
    unfold columnOf at h ⊢
    dsimp only at h ⊢
    cases hlength : lengthOf text with
    | error e =>
      rw [hlength] at h
      cases h
    | ok n =>
      rw [hlength] at h
      cases h
      rfl

theorem lineOf_eq_column {line : List Char} {c : Column} :
    lineOf line = .ok (.column c) ↔ ∃ p, columnParts? line = some p ∧ columnOf p = .ok c := by
  unfold lineOf
  cases columnParts? line with
  | none =>
    simp only [reduceCtorEq, false_and, exists_false, iff_false]
    split
    · split <;> simp
    · simp
  | some p =>
    simp only [Option.some.injEq, exists_eq_left']
    cases columnOf p with
    | error e => simp [Except.map]
    | ok other => simp [Except.map]

/-- The options of a column with a literal on its line are those in front of the literal, in it and behind
it. So another literal in its place leaves the column as it was exactly if together with what stands around it
it says the same. -/
theorem lineOf_inQuotes {c : Column} (h : lineOf (front ++ inQuotes x ++ behind) = .ok (.column c)) :
    ∃ written following, written <:+ front ∧ following <+: behind ∧ ∀ y, '\n' ∉ y →
      lineOf (front ++ inQuotes y ++ behind) =
        .ok (.column (c.withOptions (.ofText written ++ .ofText y ++ .ofText following))) ∧
      (lineOf (front ++ inQuotes y ++ behind) = .ok (.column c) ↔
        Options.ofText written ++ .ofText y ++ .ofText following =
          .ofText written ++ .ofText x ++ .ofText following) := by
  obtain ⟨p, hparts, hcolumn⟩ := lineOf_eq_column.1 h
  obtain ⟨a, b, ha, hb, hrest, hother⟩ := columnParts?_inQuotes hparts
  have hoptions : ∀ y, Options.ofText (optionsText (a ++ inQuotes y ++ b)) =
      .ofText (a.dropWhile isBlank) ++ .ofText y ++ .ofText (optionsEnd b) := by
    intro y
    rw [optionsText_inQuotes, Options.ofText_inQuotes]
  have hself : c = c.withOptions (.ofText (a.dropWhile isBlank) ++ .ofText x ++ .ofText (optionsEnd b)) := by
    have hsame := columnOf_rest hcolumn p.rest
    rw [hcolumn, hrest, hoptions] at hsame
    exact Except.ok.inj hsame
  refine ⟨a.dropWhile isBlank, optionsEnd b, (List.dropWhile_suffix _).trans ha,
    (isPrefix_optionsEnd b).trans hb, fun y hy => ?_⟩
  have hread : lineOf (front ++ inQuotes y ++ behind) = .ok (.column (c.withOptions
      (.ofText (a.dropWhile isBlank) ++ .ofText y ++ .ofText (optionsEnd b)))) := by
    refine lineOf_eq_column.2 ⟨_, hother y hy, ?_⟩
    rw [columnOf_rest hcolumn, hoptions]
  refine ⟨hread, ?_⟩
  rw [hread, Except.ok.injEq, Line.column.injEq]
  constructor
  · exact fun hsame => Column.withOptions_inj.1 (hsame.trans hself)
  · intro hsame
    rw [hsame]
    exact hself.symm

end

/-- A line with a default value. -/
def noteLine (text : List Char) : List Char :=
  "Note varchar(40) DEFAULT N".toList ++ inQuotes text ++ " CHECK (Note <> ''),".toList

def noteColumn : Column where
  name := "Note"
  sqlType := "varchar"
  maxLength := some 40

theorem lineOf_noteLine : lineOf (noteLine "It's".toList) = .ok (.column noteColumn) ∧
    ∃ written following, written <:+ "Note varchar(40) DEFAULT N".toList ∧
      following <+: " CHECK (Note <> ''),".toList ∧ ∀ y, '\n' ∉ y →
      lineOf (noteLine y) =
        .ok (.column (noteColumn.withOptions (.ofText written ++ .ofText y ++ .ofText following))) ∧
      (lineOf (noteLine y) = .ok (.column noteColumn) ↔
        Options.ofText written ++ .ofText y ++ .ofText following =
          .ofText written ++ .ofText "It's".toList ++ .ofText following) := by
  have hline : lineOf (noteLine "It's".toList) = .ok (.column noteColumn) := by decide +kernel
  exact ⟨hline, lineOf_inQuotes hline⟩

/-- Default values that spell options. -/
theorem lineOf_spelledOptions :
    lineOf (noteLine "It's".toList) = .ok (.column noteColumn) ∧
    lineOf (noteLine "NOT NULL".toList) = .ok (.column { noteColumn with nullable := false }) ∧
    lineOf (noteLine "IDENTITY(1,1)".toList) = .ok (.column { noteColumn with isIdentity := true }) ∧
    lineOf (noteLine "PRIMARY KEY".toList) = .ok (.column { noteColumn with isPrimaryKey := true }) ∧
    lineOf (noteLine "REFERENCES Kind (KindID)".toList) =
      .ok (.column { noteColumn with referencesTable := some "Kind" }) := by
  decide +kernel

end Table

end SchemaBindings

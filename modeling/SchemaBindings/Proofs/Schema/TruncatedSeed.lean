import SchemaBindings.Proofs.Results
import SchemaBindings.Proofs.Schema.MergeText
import SchemaBindings.Proofs.Script.Cutting

/-!
What is left of a seed script in front of the parenthesis that closes its source columns. It is refused,
unless a row that it still holds has a piece that reads as a list of source columns, such as a cast to a
type with arguments. The first such piece is then taken for the list, and the rows in front of its own
for all of them.
-/

namespace SchemaBindings

set_option autoImplicit false

open Script Text Reader

/-- The first piece of a row that reads as a list of source columns. -/
def RowText.cast? (g : RowText) : Option (Found SourceColumns) := sourceColumns.findOutside? g.group 0

/-- The first such piece in several rows, with the rows in front of its own. -/
def firstCast? : List RowText → Option (List RowText × Found SourceColumns)
  | [] => none
  | g :: rest =>
    match g.cast? with
    | some f => some ([], f)
    | none => (firstCast? rest).map fun x => (g :: x.1, x.2)

/-- The rows in front of another one, each with what separates it from the next. -/
def rowsBefore (rows : List RowText) : List Char := rows.flatMap fun g => g.group ++ [',', ' ']

theorem firstCast?_cons (g : RowText) (rest : List RowText) :
    firstCast? (g :: rest) =
      (g.cast?.map fun f => ([], f)).or ((firstCast? rest).map fun x => (g :: x.1, x.2)) := by
  rw [firstCast?]
  cases g.cast? <;> rfl

theorem firstCast?_eq_some {rows before : List RowText} {f : Found SourceColumns}
    (h : firstCast? rows = some (before, f)) :
    ∃ g rest, rows = before ++ g :: rest ∧ g.cast? = some f := by
  induction rows generalizing before with
  | nil => cases h
  | cons g rest ih =>
    rw [firstCast?] at h
    cases hcast : g.cast? with
    | some f' =>
      rw [hcast] at h
      cases h
      exact ⟨g, rest, rfl, hcast⟩
    | none =>
      rw [hcast] at h
      obtain ⟨⟨before', f'⟩, hrest, hx⟩ := Option.map_eq_some_iff.1 h
      cases hx
      obtain ⟨g', rest', rfl, hcast'⟩ := ih hrest
      exact ⟨g', rest', rfl, hcast'⟩

theorem rowsText_append_cons (before : List RowText) (g : RowText) (rest : List RowText) :
    rowsText (before ++ g :: rest) = rowsBefore before ++ rowsText (g :: rest) := by
  induction before with
  | nil => rfl
  | cons g' before ih =>
    have hbefore : rowsBefore (g' :: before) = g'.group ++ ([',', ' '] ++ rowsBefore before) := by
      rw [rowsBefore, List.flatMap_cons, List.append_assoc]
      rfl
    obtain ⟨g'', more, hmore⟩ : ∃ g'' more, before ++ g :: rest = g'' :: more := by
      cases before with
      | nil => exact ⟨g, rest, rfl⟩
      | cons g'' before => exact ⟨g'', before ++ g :: rest, rfl⟩
    rw [List.cons_append, hmore, rowsText_cons_cons, ← hmore, ih, hbefore, List.append_assoc,
      List.append_assoc]

theorem read_sourceColumns_singleton (x : Char) : sourceColumns.read [x] = none := by
  cases hread : sourceColumns.read [x] with
  | none => rfl
  | some v =>
    obtain rfl : x = ')' := (List.mem_singleton.1 (closedBy_sourceColumns.needs _ _ _ hread)).symm
    rw [startsWith_sourceColumns ')' [] (by decide)] at hread
    cases hread

/-- Whether the character at a place of a text belongs to no literal. -/
abbrev outsideLiterals (text : List Char) (i : Nat) : Bool := (zones text)[i]? != some .literal

theorem outsideLiterals_mask (text : List Char) (i : Nat) :
    outsideLiterals (mask text) i = outsideLiterals text i := by
  unfold outsideLiterals
  rw [zones_mask, List.getElem?_map]
  cases (zones text)[i]? with
  | none => rfl
  | some z => cases z <;> rfl

theorem outsideLiterals_behind {a : List Char} (ha : Sealed a) (b : List Char) (i : Nat) :
    outsideLiterals (a ++ b) (a.length + i) = outsideLiterals b i := by
  unfold outsideLiterals
  rw [ha b, List.getElem?_append_right (by simp), length_zones, Nat.add_sub_cancel_left]

theorem outsideLiterals_front {a : List Char} (ha : Sealed a) (b : List Char) {i : Nat} (hi : i < a.length) :
    outsideLiterals (a ++ b) i = outsideLiterals a i := by
  unfold outsideLiterals
  rw [ha b, List.getElem?_append_left (by rwa [length_zones])]

/-- A search that starts at a row finds what stands in it, or goes on behind it. -/
theorem findFrom_group (g : RowText) (rest : List Char) {wanted : Nat → Bool} {offset : Nat}
    (hw : ∀ i, i < g.group.length → wanted (offset + i) = outsideLiterals g.group i)
    (before : Option Char) :
    sourceColumns.findFrom wanted before offset 0 (mask g.group ++ rest) =
      (g.cast?.map fun f => ⟨offset + f.start, offset + f.stop, f.value⟩).or
        (sourceColumns.findFrom wanted (some ')') (offset + g.group.length) 0 rest) := by
  have hgroup : mask g.group = '(' :: mask g.text ++ [')'] := by rw [g.mask_group]; rfl
  have hlength : offset + ('(' :: mask g.text).length + 1 = offset + g.group.length := by
    simp [RowText.group, Nat.add_assoc]
  have hcast : sourceColumns.findFrom wanted before offset 0 (mask g.group) =
      g.cast?.map fun f => ⟨offset + f.start, offset + f.stop, f.value⟩ := by
    have hopen : ∀ before text, sourceColumns.here? before ('(' :: text) = none := fun before text =>
      Clause.here?_eq_none before (startsWith_sourceColumns '(' text (by decide))
    have hsame : ∀ i, i + 1 < (mask g.group).length →
        wanted (offset + (0 + i)) = outsideLiterals g.group (0 + i) := by
      intro i hi
      rw [length_mask] at hi
      rw [Nat.zero_add]
      exact hw i (by omega)
    have hshift := sourceColumns.findFrom_shift wanted before offset 0 0 (mask g.group)
    rw [Nat.add_zero] at hshift
    rw [hshift, Clause.findFrom_congr read_sourceColumns_singleton before 0 hsame, RowText.cast?,
      Clause.findOutside?, hgroup, List.cons_append, Clause.findFrom_cons_of_none (hopen _ _),
      List.drop_zero, Clause.findFrom_cons_of_none (hopen _ _)]
  rw [← hcast, hgroup, List.append_assoc, List.singleton_append,
    closedBy_sourceColumns.findFrom_append_cons wanted before offset _ rest (Nat.zero_le _), hlength]

/-- A search over rows finds the first piece of theirs that reads as a list of columns. -/
theorem findFrom_rowsText {rest : List Char}
    (hrest : ∀ wanted before offset, sourceColumns.findFrom wanted before offset 0 rest = none)
    (rows : List RowText) {wanted : Nat → Bool} {offset : Nat}
    (hw : ∀ i, i < (rowsText rows).length → wanted (offset + i) = outsideLiterals (rowsText rows) i)
    (before : Option Char) :
    sourceColumns.findFrom wanted before offset 0 (mask (rowsText rows) ++ rest) =
      (firstCast? rows).map fun x =>
        ⟨offset + (rowsBefore x.1).length + x.2.start, offset + (rowsBefore x.1).length + x.2.stop,
          x.2.value⟩ := by
  induction rows generalizing offset before with
  | nil => exact hrest wanted before offset
  | cons g rows ih =>
    have hplain : Sealed [',', ' '] := sealed_of_plain (by decide)
    have hcomma : mask [',', ' '] = [',', ' '] := mask_of_plain (by decide)
    cases rows with
    | nil =>
      rw [rowsText_singleton] at hw ⊢
      rw [findFrom_group g rest hw before, hrest, Option.or_none, firstCast?]
      cases g.cast? with
      | some f => rfl
      | none => rfl
    | cons g' rows =>
      have hgroup : ∀ i, i < g.group.length → wanted (offset + i) = outsideLiterals g.group i := by
        intro i hi
        rw [hw i (by rw [rowsText_cons_cons, List.length_append]; omega), rowsText_cons_cons,
          outsideLiterals_front g.sealed_group _ hi]
      have hrows : ∀ i, i < (rowsText (g' :: rows)).length →
          wanted (offset + g.group.length + 2 + i) = outsideLiterals (rowsText (g' :: rows)) i := by
        intro i hi
        have hplace : offset + g.group.length + 2 + i = offset + (g.group.length + (2 + i)) := by omega
        have hbound : g.group.length + (2 + i) < (rowsText (g :: g' :: rows)).length := by
          rw [rowsText_cons_cons, List.length_append, List.length_append]
          simp only [List.length_cons, List.length_nil]
          omega
        rw [hplace, hw _ hbound, rowsText_cons_cons, outsideLiterals_behind g.sealed_group]
        exact outsideLiterals_behind hplain _ i
      have hskip : ∀ x ∈ [',', ' '], matchesLetter 'a' x = false := by decide
      rw [rowsText_cons_cons, g.sealed_group.mask, hplain.mask, hcomma, List.append_assoc,
        findFrom_group g _ hgroup before, List.append_assoc, startsWith_sourceColumns.passes hskip]
      refine (congrArg (Option.or _) (ih hrows _)).trans ?_
      have hplace : ∀ before n, offset + g.group.length + 2 + (rowsBefore before).length + n =
          offset + (rowsBefore (g :: before)).length + n := by
        intro before n
        rw [rowsBefore, rowsBefore, List.flatMap_cons, List.length_append, List.length_append]
        simp only [List.length_cons, List.length_nil]
        omega
      rw [firstCast?_cons g, Option.map_or, Option.map_map, Option.map_map]
      simp only [Function.comp_def, hplace]
      rfl

theorem sealed_rowsBefore (rows : List RowText) : Sealed (rowsBefore rows) := by
  induction rows with
  | nil => exact sealed_nil
  | cons g rows ih =>
    have hcomma : Sealed [',', ' '] := sealed_of_plain (by decide)
    exact (g.sealed_group.append hcomma).append ih

theorem mask_rowsBefore (rows : List RowText) :
    mask (rowsBefore rows) = rowsBefore (rows.map RowText.masked) := by
  induction rows with
  | nil => rfl
  | cons g rows ih =>
    have hcomma : mask [',', ' '] = [',', ' '] := mask_of_plain (by decide)
    have hgroup : Sealed (g.group ++ [',', ' ']) := g.sealed_group.append (sealed_of_plain (by decide))
    rw [rowsBefore, List.flatMap_cons, hgroup.mask, g.sealed_group.mask, hcomma, g.mask_group]
    exact congrArg _ ih

theorem groupsFrom_rowsBefore (rows : List RowText) (rest : List (Char × Zone)) :
    groupsFrom none (marked (rowsBefore rows) ++ rest) = rows.map RowText.text ++ groupsFrom none rest := by
  induction rows with
  | nil => rfl
  | cons g rows ih =>
    have hcomma : Sealed [',', ' '] := sealed_of_plain (by decide)
    rw [rowsBefore, List.flatMap_cons, (g.sealed_group.append hcomma).marked, g.sealed_group.marked,
      List.append_assoc, List.append_assoc, groupsFrom_group, groupsFrom_comma]
    exact congrArg _ ih

/-- What reads as a list of columns starts inside the parentheses of its row, with a letter. -/
theorem RowText.cast?_eq_some {g : RowText} {f : Found SourceColumns} (h : g.cast? = some f) :
    ∃ p x q, mask g.text = p ++ x :: q ∧ isMarker x = false ∧ f.start = p.length + 1 := by
  have hletter : ∀ x, matchesLetter 'a' x = true → x ≠ '(' ∧ x ≠ ')' ∧ isMarker x = false := by
    intro x hx
    have hne : ∀ c, matchesLetter 'a' c = false → x ≠ c := by
      rintro c hc rfl
      rw [hx] at hc
      cases hc
    refine ⟨hne '(' (by decide), hne ')' (by decide), ?_⟩
    simp [isMarker, hne '\'' (by decide), hne '-' (by decide), hne '/' (by decide), hne '*' (by decide)]
  obtain ⟨p, q, rest, htext, hread, hstart, _⟩ := Clause.findFrom_eq_some h
  rw [List.drop_zero, g.mask_group] at htext
  cases q with
  | nil => cases closedBy_sourceColumns.needs _ _ _ hread
  | cons x q =>
    have hx : matchesLetter 'a' x = true := by
      rw [← Bool.not_eq_false]
      intro hx
      rw [startsWith_sourceColumns x q hx] at hread
      cases hread
    obtain ⟨hopen, hclose, hmarker⟩ := hletter x hx
    cases p with
    | nil => exact (hopen (List.cons.inj htext).1.symm).elim
    | cons c p =>
      obtain ⟨rfl, hinside⟩ := List.cons.inj htext
      rcases List.eq_nil_or_concat q with rfl | ⟨q', d, rfl⟩
      · exact (hclose (List.singleton_inj.1 (List.append_inj' hinside rfl).2.symm)).elim
      · rw [List.concat_eq_append] at hinside
        refine ⟨p, x, q', ?_, hmarker, by rw [hstart, Nat.zero_add, List.length_cons]⟩
        have hfront : mask g.text ++ [')'] = (p ++ x :: q') ++ [d] := by
          rw [List.append_assoc]
          exact hinside
        exact (List.append_inj' hfront rfl).1

theorem exists_nesting?_of_append {k e : Nat} {xs ys : List (Char × Zone)}
    (h : nesting? k (xs ++ ys) = some e) : ∃ d, nesting? k xs = some d := by
  induction xs generalizing k with
  | nil => exact ⟨k, rfl⟩
  | cons x xs ih =>
    simp only [List.cons_append, nesting?] at h ⊢
    split at h
    · rename_i hopen
      rw [if_pos hopen]
      exact ih h
    · rename_i hopen
      rw [if_neg hopen]
      split at h
      · rename_i hclose
        rw [if_pos hclose]
        cases k with
        | zero => cases h
        | succ k => exact ih h
      · rename_i hclose
        rw [if_neg hclose]
        exact ih h

/-- The start of a row is no group: its parenthesis is not closed. -/
theorem groupsFrom_start {p q : List Char} {x : Char} (hbalanced : Balanced (p ++ x :: q))
    (hx : isMarker x = false) : groupsFrom none (marked ('(' :: p)) = [] := by
  have hopen : marked ('(' :: p) = ('(', .code) :: marked p :=
    (sealed_singleton (by decide)).marked (a := ['(']) p
  have hmarked : ∃ ys, marked (p ++ x :: q) = marked p ++ ys := by
    refine ⟨(x :: q).zip (zonesFrom (Mode.code.after p) (x :: q)), ?_⟩
    rw [marked, zones, zonesFrom_append (by simpa using hx)]
    exact List.zip_append (length_zones p).symm
  obtain ⟨ys, hys⟩ := hmarked
  unfold Script.Balanced at hbalanced
  rw [hys] at hbalanced
  obtain ⟨d, hd⟩ := exists_nesting?_of_append hbalanced
  have hgroup := groupsFrom_append hd 0 [] []
  rw [Nat.zero_add, List.append_nil] at hgroup
  rw [hopen]
  exact hgroup

theorem rowsOf_rowsBefore (before : List RowText) {p q : List Char} {x : Char}
    (hbalanced : Balanced (p ++ x :: q)) (hx : isMarker x = false) :
    Seed.rowsOf (' ' :: (mask (rowsBefore before) ++ '(' :: p)) =
      (before.filter fun g => !g.isBlank).map fun g => cellStrings (mask g.text) := by
  have hspace : marked (' ' :: (mask (rowsBefore before) ++ '(' :: p)) =
      (' ', .code) :: marked (mask (rowsBefore before) ++ '(' :: p) :=
    (sealed_singleton (by decide)).marked (a := [' ']) _
  refine rowsOf_of_groups ?_
  have hgroups := groupsFrom_rowsBefore (before.map RowText.masked) (marked ('(' :: p))
  rw [groupsFrom_start hbalanced hx, List.append_nil] at hgroups
  rw [groups, hspace, mask_rowsBefore, (sealed_rowsBefore _).marked, ← hgroups]
  rfl

/-- The parts of a merge script up to the parenthesis that closes the list of its source columns. -/
structure OpenMerge where
  schema : ScriptName
  table : ScriptName
  rows : List RowText
  source : ScriptName
  columns : List ScriptName

namespace OpenMerge

def columnsStart (m : OpenMerge) : List Char :=
  [')', ' '] ++ (['A', 'S', ' '] ++ (m.source.text ++ ([' ', '('] ++ columnsText m.columns)))

def text (m : OpenMerge) : List Char := mergeText m.schema m.table (rowsText m.rows ++ m.columnsStart)

def place (m : OpenMerge) (before : List RowText) : Nat :=
  (targetText m.schema m.table).length + 25 + (rowsBefore before).length

/-- The seed with the rows in front of a piece that is taken for the list of its columns. -/
def seedBefore (m : OpenMerge) (before : List RowText) (f : Found SourceColumns) : Seed where
  schemaName := m.schema.name
  tableName := m.table.name
  columnNames := Seed.columnNamesOf f.value.columns
  rows := (before.filter fun g => !g.isBlank).map fun g => cellStrings (mask g.text)

theorem isMarker_columnsStart (m : OpenMerge) : ∀ c ∈ m.columnsStart, isMarker c = false := by
  have hclose : ∀ c ∈ [')', ' '], isMarker c = false := by decide
  have has : ∀ c ∈ ['A', 'S', ' '], isMarker c = false := by decide
  have hopen : ∀ c ∈ [' ', '('], isMarker c = false := by decide
  simp only [columnsStart, List.forall_mem_append]
  exact ⟨hclose, has, m.source.isMarker_text, hopen, isMarker_columnsText m.columns⟩

theorem findFrom_columnsStart (m : OpenMerge) (wanted : Nat → Bool) (before : Option Char) (offset : Nat) :
    sourceColumns.findFrom wanted before offset 0 m.columnsStart = none := by
  have hskip : ∀ x ∈ [')', ' '], matchesLetter 'a' x = false := by decide
  have hnot : ')' ∉ ['A', 'S', ' '] ++ (m.source.text ++ ([' ', '('] ++ columnsText m.columns)) := by
    have hsource : ')' ∉ m.source.text := m.source.not_mem_text (by decide) (by decide) (by decide)
    have hcolumns : ')' ∉ columnsText m.columns := fun hmem => ne_of_mem_columnsText m.columns _ hmem rfl
    simp [hsource, hcolumns]
  rw [columnsStart, startsWith_sourceColumns.passes hskip]
  exact closedBy_sourceColumns.findFrom_of_not_mem hnot _ _ _

section
variable {m : OpenMerge} {a b w r : List Char} {c x y : Char}

theorem mask_rest (m : OpenMerge) :
    mask (rowsText m.rows ++ m.columnsStart) = mask (rowsText m.rows) ++ m.columnsStart := by
  rw [(sealed_rowsText m.rows).mask, mask_of_plain m.isMarker_columnsStart]

theorem ne_close {c : Char} (hc : isParenthesis c = false) : c ≠ ')' := by
  rintro rfl
  cases hc

theorem outsideLiterals_mergeText (m : OpenMerge) (rest : List Char) (i : Nat) :
    outsideLiterals (mergeText m.schema m.table rest) ((targetText m.schema m.table).length + 25 + i) =
      outsideLiterals rest i := by
  rw [mergeText_eq, ← length_mergeHead]
  exact outsideLiterals_behind (sealed_of_plain (isMarker_mergeHead m.schema m.table)) rest i

theorem findFrom_rest (m : OpenMerge) :
    sourceColumns.findFrom
        (outsideLiterals (mergeText m.schema m.table (mask (rowsText m.rows ++ m.columnsStart)))) (some ' ')
        ((targetText m.schema m.table).length + 25) 0 (mask (rowsText m.rows ++ m.columnsStart)) =
      (firstCast? m.rows).map fun x =>
        ⟨m.place x.1 + x.2.start, m.place x.1 + x.2.stop, x.2.value⟩ := by
  have hrows : ∀ i, i < (rowsText m.rows).length →
      outsideLiterals (mergeText m.schema m.table (mask (rowsText m.rows ++ m.columnsStart)))
        ((targetText m.schema m.table).length + 25 + i) = outsideLiterals (rowsText m.rows) i := by
    intro i hi
    rw [outsideLiterals_mergeText, outsideLiterals_mask, outsideLiterals_front (sealed_rowsText m.rows) _ hi]
  have hfind := findFrom_rowsText m.findFrom_columnsStart m.rows hrows (some ' ')
  rw [← m.mask_rest] at hfind
  exact hfind

/-- In what is left of a script the search finds the same, unless that is cut off. -/
theorem findFrom_cut (h : rowsText m.rows ++ m.columnsStart = a ++ c :: b) :
    sourceColumns.findFrom (outsideLiterals (mergeText m.schema m.table (mask (a ++ [c])))) (some ' ')
        ((targetText m.schema m.table).length + 25) 0 (mask (a ++ [c])) =
      ((firstCast? m.rows).map fun x =>
        ⟨m.place x.1 + x.2.start, m.place x.1 + x.2.stop, x.2.value⟩).filter
        fun f => f.stop ≤ (targetText m.schema m.table).length + 25 + a.length + 1 := by
  obtain ⟨w, r, x, y, hshort, hlong, hxy⟩ := (cut_mask a c b).exists_eq
  have hlength : w.length = a.length := by
    have hcount := congrArg List.length hshort
    simpa using hcount.symm
  have hsame : ∀ i, i + 1 < (mask (a ++ [c])).length →
      outsideLiterals (mergeText m.schema m.table (mask (a ++ [c])))
          ((targetText m.schema m.table).length + 25 + i) =
        outsideLiterals (mergeText m.schema m.table (mask (a ++ c :: b)))
          ((targetText m.schema m.table).length + 25 + i) := by
    intro i hi
    rw [length_mask, List.length_append, List.length_singleton] at hi
    rw [outsideLiterals_mergeText, outsideLiterals_mergeText]
    unfold outsideLiterals
    rw [zones_mask_cut a c b (by omega)]
  have hwhole := m.findFrom_rest
  rw [h, hlong] at hwhole
  rw [Clause.findFrom_congr read_sourceColumns_singleton (some ' ') 0 hsame, hshort,
    closedBy_sourceColumns.findFrom_cut (hxy.imp_right (.imp ne_close ne_close)), hlong, hwhole, hlength]

/-- The rows of the whole script with everything in front of them, comments blanked. -/
def front (m : OpenMerge) : List Char := mergeHead m.schema m.table ++ mask (rowsText m.rows)

theorem closingParen?_front (m : OpenMerge) : closingParen? (m.front ++ m.columnsStart)
    ((targetText m.schema m.table).length + 18) = some m.front.length := by
  rw [front, List.append_assoc, ← mergeText_eq, mask_rowsText, List.length_append, length_mergeHead]
  exact closingParen?_mergeText (sealed_rowsText _) (balanced_rowsText _)

/-- What closes the rows in a cut script closes them in the whole one, and no list of columns stands
behind it. -/
theorem findOutside?_cut (h : rowsText m.rows ++ m.columnsStart = a ++ c :: b) {close : Nat}
    (hclose : closingParen? (mergeText m.schema m.table (mask (a ++ [c])))
      ((targetText m.schema m.table).length + 18) = some close) :
    sourceColumns.findOutside? (mergeText m.schema m.table (mask (a ++ [c]))) close = none := by
  have hmask : mask (mergeText m.schema m.table (mask (a ++ [c]))) =
      mergeText m.schema m.table (mask (a ++ [c])) := by rw [mask_mergeText, mask_mask]
  obtain ⟨w, r, x, y, hshort, hlong, hxy⟩ := (cut_mask a c b).exists_eq
  have hwhole : mergeHead m.schema m.table ++ w ++ y :: r = m.front ++ m.columnsStart := by
    rw [front, List.append_assoc, ← hlong, ← h, m.mask_rest, ← List.append_assoc]
  rw [hshort, mergeText_eq, ← List.append_assoc] at hclose
  have hclosing := closingParen?_of_cut (r := r) hxy hclose
  rw [hwhole, m.closingParen?_front] at hclosing
  obtain rfl : m.front.length = close := Option.some.inj hclosing
  have hlength : m.front.length ≤ (mergeHead m.schema m.table ++ w).length := by
    have hlater := closingParen?_lt hclose
    have hcount : (mergeHead m.schema m.table ++ w ++ [x]).length =
        (mergeHead m.schema m.table ++ w).length + 1 := List.length_append
    omega
  have hbehind : (mergeHead m.schema m.table ++ w).drop m.front.length ++ y :: r = m.columnsStart := by
    rw [← List.drop_append_of_le_length hlength, hwhole, List.drop_left]
  rw [Clause.findOutside?]
  simp only [hmask]
  rw [hshort, mergeText_eq, ← List.append_assoc, List.drop_append_of_le_length hlength,
    closedBy_sourceColumns.findFrom_cut (hxy.imp_right (.imp ne_close ne_close)), hbehind,
    m.findFrom_columnsStart]
  rfl

/-- Nothing behind the rows is preferred to a piece of a row. -/
theorem chosenColumns_cut (h : rowsText m.rows ++ m.columnsStart = a ++ c :: b)
    (first : Found SourceColumns) : chosenColumns (mergeText m.schema m.table (mask (a ++ [c])))
      ((targetText m.schema m.table).length + 18) first = first := by
  unfold chosenColumns
  split
  · rename_i close hclose
    rw [findOutside?_cut h hclose, Option.getD_none, ite_self]
  · rfl

theorem exists_front {before : List RowText} {f : Found SourceColumns}
    (hcast : firstCast? m.rows = some (before, f)) :
    ∃ p x q more, mask (rowsText m.rows ++ m.columnsStart) = mask (rowsBefore before) ++
      '(' :: p ++ more ∧
      Balanced (p ++ x :: q) ∧ isMarker x = false ∧ f.start = p.length + 1 := by
  obtain ⟨g, rest, hrows, hg⟩ := firstCast?_eq_some hcast
  obtain ⟨p, x, q, htext, hx, hstart⟩ := RowText.cast?_eq_some hg
  obtain ⟨more, hmore⟩ : ∃ more, rowsText (g :: rest) = g.group ++ more := by
    cases rest with
    | nil => exact ⟨[], by rw [rowsText_singleton, List.append_nil]⟩
    | cons g' rest => exact ⟨_, rowsText_cons_cons g g' rest⟩
  refine ⟨p, x, q, x :: q ++ ([')'] ++ mask more) ++ m.columnsStart, ?_, ?_, hx, hstart⟩
  · have hgroup : mask g.group = '(' :: (p ++ x :: q ++ [')']) := by
      rw [g.mask_group, ← htext]
      rfl
    rw [m.mask_rest, hrows, rowsText_append_cons, (sealed_rowsBefore before).mask, hmore, g.sealed_group.mask,
      hgroup]
    simp
  · rw [← htext]
    exact g.balanced.mask

/-- A script that still holds the piece is read up to that piece. -/
theorem layoutOf_cut (h : rowsText m.rows ++ m.columnsStart = a ++ c :: b) {before : List RowText}
    {f : Found SourceColumns} (hcast : firstCast? m.rows = some (before, f))
    (hheld : m.place before + f.stop ≤ (targetText m.schema m.table).length + 25 + a.length + 1) :
    ∃ region, Seed.layoutOf (mergeText m.schema m.table (mask (a ++ [c]))) =
        .ok ⟨⟨m.schema.name, m.table.name⟩, f.value.columns, region⟩ ∧
      Seed.rowsOf region = (m.seedBefore before f).rows := by
  have hmask : mask (mergeText m.schema m.table (mask (a ++ [c]))) =
      mergeText m.schema m.table (mask (a ++ [c])) := by rw [mask_mergeText, mask_mask]
  obtain ⟨p, x, q, more, htext, hbalanced, hx, hstart⟩ := exists_front hcast
  have hfound := findFrom_cut h
  rw [hcast, Option.map_some, Option.filter_some, if_pos (decide_eq_true hheld)] at hfound
  have hlayout := layoutOf_mergeText hmask hfound
  have hlength : (mask (rowsBefore before) ++ '(' :: p).length = (rowsBefore before).length + f.start := by
    rw [List.length_append, length_mask, hstart, List.length_cons]
  have hstop : f.start < f.stop := by
    obtain ⟨g, _, _, hg⟩ := firstCast?_eq_some hcast
    exact closedBy_sourceColumns.start_lt_stop hg
  obtain ⟨rest, hrest⟩ : ∃ rest, mask (a ++ [c]) = mask (rowsBefore before) ++ '(' :: p ++ rest := by
    obtain ⟨w, r, y, z, hshort, hlong, _⟩ := (cut_mask a c b).exists_eq
    have hcount : w.length = a.length := by
      have hcount := congrArg List.length hshort
      simpa using hcount.symm
    rw [← h] at hlong
    have hfront : mask (rowsBefore before) ++ '(' :: p <+: w := by
      refine List.prefix_of_prefix_length_le ⟨more, htext.symm⟩ ⟨z :: r, hlong.symm⟩ ?_
      unfold place at hheld
      omega
    obtain ⟨w', rfl⟩ := hfront
    exact ⟨w' ++ [y], by rw [hshort, List.append_assoc]⟩
  refine ⟨' ' :: (mask (rowsBefore before) ++ '(' :: p), ?_, rowsOf_rowsBefore before hbalanced hx⟩
  simp only [chosenColumns_cut h] at hlayout
  rw [hlayout, place, Nat.add_assoc, ← hlength, hrest, region_mergeText]

/-- A script that does not hold such a piece any more is refused. -/
theorem layoutOf_cut_of_none (h : rowsText m.rows ++ m.columnsStart = a ++ c :: b)
    (hnone : ∀ before f, firstCast? m.rows = some (before, f) →
      ¬ m.place before + f.stop ≤ (targetText m.schema m.table).length + 25 + a.length + 1) :
    Seed.layoutOf (mergeText m.schema m.table (mask (a ++ [c]))) =
      .error (.noSourceColumns m.schema.name m.table.name) := by
  refine layoutOf_mergeText_of_none (by rw [mask_mergeText, mask_mask]) ?_
  refine (findFrom_cut h).trans (Option.filter_eq_none_iff.2 fun found hfound => ?_)
  obtain ⟨⟨before, f⟩, hcast, rfl⟩ := Option.map_eq_some_iff.1 hfound
  simpa using hnone before f hcast

end

end OpenMerge

theorem Seed.ofLayout_eq_ok {l : Seed.Layout} {seed : Seed} : Seed.ofLayout l = .ok seed ↔
    seed = ⟨l.target.schema, l.target.table, Seed.columnNamesOf l.columns, Seed.rowsOf l.region⟩ ∧
      seed.columnNames ≠ [] ∧ seed.rows ≠ [] := by
  rw [Seed.ofLayout]
  constructor
  · intro h
    simp only at h
    split at h
    · cases h
    · rename_i hnames
      split at h
      · cases h
      · rename_i hrows
        cases h
        exact ⟨rfl, by simpa using hnames, by simpa using hrows⟩
  · rintro ⟨rfl, hnames, hrows⟩
    simp only
    rw [if_neg (by simpa using hnames), if_neg (by simpa using hrows)]
    rfl

/-- A script without a closing parenthesis has no list of columns. -/
theorem Seed.layoutOf_of_not_mem {text : List Char} (h : ')' ∉ mask text) (l : Seed.Layout) :
    Seed.layoutOf text ≠ .ok l := by
  have hnone : ∀ start, sourceColumns.findOutside? text start = none := by
    intro start
    exact closedBy_sourceColumns.findFrom_of_not_mem (fun hmem => h (List.mem_of_mem_drop hmem)) _ _ _
  unfold Seed.layoutOf
  cases mergeTarget.find? text with
  | none => exact fun h => by cases h
  | some target =>
    simp only [hnone]
    exact fun h => by cases h

/-- What is left of a script ends in front of its rows or holds some of what follows. -/
theorem OpenMerge.cut_cases (m : OpenMerge) {cut : List Char} (h : cut <+: m.text) :
    cut <+: mergeHead m.schema m.table ∨
      ∃ a c b, cut = mergeHead m.schema m.table ++ (a ++ [c]) ∧
        rowsText m.rows ++ m.columnsStart = a ++ c :: b := by
  obtain ⟨b, hb⟩ := h
  rw [OpenMerge.text, mergeText_eq] at hb
  rcases List.append_eq_append_iff.1 hb with ⟨more, hmore, _⟩ | ⟨more, hmore, hrest⟩
  · exact .inl ⟨more, hmore.symm⟩
  · rcases List.eq_nil_or_concat more with rfl | ⟨a, c, rfl⟩
    · exact .inl ⟨[], by rw [hmore, List.append_nil, List.append_nil]⟩
    · rw [List.concat_eq_append] at hmore hrest
      exact .inr ⟨a, c, b, hmore, by rw [hrest, List.append_assoc, List.singleton_append]⟩

theorem Seed.layoutOf_of_prefix_mergeHead {schema table : ScriptName} {cut : List Char}
    (h : cut <+: mergeHead schema table) (l : Seed.Layout) : Seed.layoutOf (mask cut) ≠ .ok l := by
  refine Seed.layoutOf_of_not_mem ?_ l
  rw [mask_mask, mask_of_plain fun c hc => isMarker_mergeHead schema table c (h.mem hc)]
  exact fun hmem => not_mem_mergeHead schema table (h.mem hmem)

/-- What is left of a seed script in front of the parenthesis that closes its source columns gives a seed
exactly when it still holds a piece of a row that reads as a list of columns, with a name in this list
and a row with a value in front of it. -/
theorem Seed.ofScript_cut (m : OpenMerge) {cut : String} (h : cut.toList <+: m.text) (seed : Seed) :
    Seed.ofScript cut = .ok seed ↔ ∃ before f, firstCast? m.rows = some (before, f) ∧
      m.place before + f.stop ≤ cut.length ∧ seed = m.seedBefore before f ∧
      seed.columnNames ≠ [] ∧ seed.rows ≠ [] := by
  rw [Seed.ofScript, bind_eq_ok, ← String.length_toList]
  rcases m.cut_cases h with hhead | ⟨a, c, b, hcut, hrest⟩
  · constructor
    · rintro ⟨l, hl, _⟩
      exact (Seed.layoutOf_of_prefix_mergeHead hhead l hl).elim
    · rintro ⟨before, f, hcast, hheld, _⟩
      obtain ⟨g, _, _, hg⟩ := firstCast?_eq_some hcast
      have hstop := closedBy_sourceColumns.lt_stop hg
      have hlength := hhead.length_le
      rw [length_mergeHead] at hlength
      unfold OpenMerge.place at hheld
      omega
  · have hmask : mask cut.toList = mergeText m.schema m.table (mask (a ++ [c])) := by
      rw [hcut, ← mergeText_eq, mask_mergeText]
    have hcount : cut.toList.length = (targetText m.schema m.table).length + 25 + a.length + 1 := by
      rw [hcut, List.length_append, List.length_append, length_mergeHead]
      rfl
    rw [hmask, hcount]
    constructor
    · rintro ⟨l, hl, hseed⟩
      by_contra hnone
      have hrefused : ∀ before f, firstCast? m.rows = some (before, f) →
          ¬ m.place before + f.stop ≤ (targetText m.schema m.table).length + 25 + a.length + 1 := by
        intro before f hcast hheld
        obtain ⟨region, hlayout, hregion⟩ := OpenMerge.layoutOf_cut hrest hcast hheld
        rw [hlayout] at hl
        obtain rfl := Except.ok.inj hl
        obtain ⟨hread, hnames, hrows⟩ := Seed.ofLayout_eq_ok.1 hseed
        rw [hregion] at hread
        exact hnone ⟨before, f, hcast, hheld, hread, hnames, hrows⟩
      rw [OpenMerge.layoutOf_cut_of_none hrest hrefused] at hl
      cases hl
    · rintro ⟨before, f, hcast, hheld, rfl, hnames, hrows⟩
      obtain ⟨region, hlayout, hregion⟩ := OpenMerge.layoutOf_cut hrest hcast hheld
      refine ⟨_, hlayout, Seed.ofLayout_eq_ok.2 ⟨?_, hnames, hrows⟩⟩
      rw [hregion]
      rfl

/-- A script with a cast in its second row. -/
def rateScript : OpenMerge where
  schema := ⟨['d', 'b', 'o'], false, by decide, by decide⟩
  table := ⟨['R', 'a', 't', 'e'], false, by decide, by decide⟩
  rows := [⟨"1, 'Low'".toList, by decide, by decide⟩,
    ⟨"CAST(2 AS decimal(5,2)), 'b'".toList, by decide, by decide⟩]
  source := ⟨['s'], false, by decide, by decide⟩
  columns := [⟨['R', 'a', 't', 'e', 'I', 'D'], false, by decide, by decide⟩,
    ⟨['R', 'a', 't', 'e', 'N', 'a', 'm', 'e'], false, by decide, by decide⟩]

/-- Cut right in front of the parenthesis that ends the cast, it is refused. -/
theorem Seed.ofScript_rateScript_take :
    (String.ofList (rateScript.text.take 78)).toList <+: rateScript.text ∧
      ∀ seed, Seed.ofScript (String.ofList (rateScript.text.take 78)) ≠ .ok seed := by
  have hstart : (String.ofList (rateScript.text.take 78)).toList <+: rateScript.text := by
    rw [String.toList_ofList]
    exact List.take_prefix 78 rateScript.text
  have hlength : (String.ofList (rateScript.text.take 78)).length = 78 := by decide +kernel
  have hstop : ((firstCast? rateScript.rows).map fun x => rateScript.place x.1 + x.2.stop) = some 79 := by
    decide +kernel
  refine ⟨hstart, fun seed h => ?_⟩
  obtain ⟨before, f, hcast, hheld, _⟩ := (Seed.ofScript_cut rateScript hstart seed).1 h
  rw [hcast] at hstop
  have hplace : rateScript.place before + f.stop = 79 := Option.some.inj hstop
  omega

/-- Cut behind the cast it is read, with the arguments of the cast for columns and without that row. -/
theorem Seed.ofScript_rateScript_behind :
    String.ofList (rateScript.text.take 85) =
        "MERGE INTO dbo.Rate AS Target USING (VALUES (1, 'Low'), (CAST(2 AS decimal(5,2)), 'b'" ∧
      Seed.ofScript (String.ofList (rateScript.text.take 85)) =
        .ok ⟨"dbo", "Rate", ["5", "2"], [["1", "Low"]]⟩ := by
  decide +kernel

end SchemaBindings

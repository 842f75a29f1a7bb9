import SchemaBindings.Proofs.Script.Nesting
import SchemaBindings.Proofs.Script.SeedClauses
import SchemaBindings.Proofs.Text.Pieces
import SchemaBindings.Schema.SeedScript

/-!
The text of a merge script: its target, its rows and its columns, and where the clauses are found in it.
-/

namespace SchemaBindings

set_option autoImplicit false

open Script Text

/-- What stands between the parentheses of one row. -/
structure RowText where
  text : List Char
  closed : Closed text
  balanced : Balanced text

namespace RowText

def group (g : RowText) : List Char := '(' :: (g.text ++ [')'])

def masked (g : RowText) : RowText := ⟨mask g.text, g.closed.mask, g.balanced.mask⟩

def isBlank (g : RowText) : Bool := (mask g.text).all Text.isBlank

theorem sealed_group (g : RowText) : Sealed g.group :=
  Sealed.cons (by decide) (g.closed.sealed (by decide))

theorem balanced_group (g : RowText) : Balanced g.group := g.balanced.parenthesised g.closed

theorem mask_group (g : RowText) : mask g.group = g.masked.group := by
  have hopen : Sealed ['('] := sealed_singleton (by decide)
  have hclose : mask (g.text ++ [')']) = mask g.text ++ [')'] :=
    g.closed.mask_append (by simp [isMarker])
  rw [group, ← List.singleton_append, hopen.mask, hclose]
  rfl

end RowText

def rowsText (rows : List RowText) : List Char := [',', ' '].intercalate (rows.map RowText.group)

theorem rowsText_cons_cons (g g' : RowText) (rest : List RowText) :
    rowsText (g :: g' :: rest) = g.group ++ ([',', ' '] ++ rowsText (g' :: rest)) := by
  rw [rowsText, List.map_cons, List.map_cons, List.intercalate_cons_cons, List.append_assoc]
  rfl

theorem rowsText_singleton (g : RowText) : rowsText [g] = g.group := List.intercalate_singleton

theorem sealed_rowsText (rows : List RowText) : Sealed (rowsText rows) := by
  refine sealed_intercalate (sealed_of_plain (by decide)) ?_
  intro a ha
  obtain ⟨g, _, rfl⟩ := List.mem_map.1 ha
  exact g.sealed_group

theorem balanced_rowsText (rows : List RowText) : Balanced (rowsText rows) := by
  refine balanced_intercalate (sealed_of_plain (by decide)) (by decide) ?_ ?_
  · intro a ha
    obtain ⟨g, _, rfl⟩ := List.mem_map.1 ha
    exact g.sealed_group
  · intro a ha
    obtain ⟨g, _, rfl⟩ := List.mem_map.1 ha
    exact g.balanced_group

theorem mask_rowsText (rows : List RowText) : mask (rowsText rows) = rowsText (rows.map RowText.masked) := by
  have hgroups : ∀ a ∈ rows.map RowText.group, Sealed a := by
    intro a ha
    obtain ⟨g, _, rfl⟩ := List.mem_map.1 ha
    exact g.sealed_group
  rw [rowsText, mask_intercalate (sealed_of_plain (by decide)) hgroups, mask_of_plain (by decide),
    rowsText, List.map_map, List.map_map]
  exact congrArg _ (List.map_congr_left fun g _ => g.mask_group)

theorem marked_group (g : RowText) :
    marked g.group = ('(', .code) :: marked g.text ++ [(')', .code)] := by
  have hopen : marked g.group = [('(', .code)] ++ marked (g.text ++ [')']) :=
    (sealed_singleton (by decide)).marked (a := ['(']) _
  rw [hopen, g.closed.marked_append (by simp [isMarker])]
  rfl

theorem groupsFrom_group (g : RowText) (rest : List (Char × Zone)) :
    groupsFrom none (marked g.group ++ rest) = g.text :: groupsFrom none rest := by
  have hgroup := groupsFrom_balanced g.balanced rest
  rw [marked_group, List.append_assoc]
  exact hgroup

theorem groupsFrom_comma (rest : List (Char × Zone)) :
    groupsFrom none (marked [',', ' '] ++ rest) = groupsFrom none rest := by
  simp [marked, zones, zonesFrom, Mode.step, groupsFrom, opens]

theorem isEmpty_cellStrings (row : List Char) :
    (cellStrings row).isEmpty = row.all Text.isBlank := by
  unfold cellStrings cells
  split
  · rename_i h
    simp [h]
  · rename_i h
    simp [h, cellsFrom_ne_nil]

theorem rowsOf_of_groups {region : List Char} {rows : List RowText}
    (h : groups region = (rows.map RowText.masked).map RowText.text) :
    Seed.rowsOf region = (rows.filter fun g => !g.isBlank).map fun g => cellStrings (mask g.text) := by
  rw [Seed.rowsOf, Seed.groupCells, h, List.map_map, List.map_map, List.filter_map]
  refine congrArg _ (List.filter_congr fun g _ => ?_)
  exact congrArg (!·) (isEmpty_cellStrings (mask g.text))

def columnsText (columns : List ScriptName) : List Char :=
  [',', ' '].intercalate (columns.map ScriptName.text)

theorem isMarker_columnsText (columns : List ScriptName) : ∀ c ∈ columnsText columns,
    isMarker c = false := by
  refine forall_mem_intercalate (by decide) ?_
  intro a ha
  obtain ⟨n, _, rfl⟩ := List.mem_map.1 ha
  exact n.isMarker_text

theorem ne_of_mem_columnsText (columns : List ScriptName) : ∀ c ∈ columnsText columns, c ≠ ')' := by
  refine forall_mem_intercalate (by decide) ?_
  intro a ha
  obtain ⟨n, _, rfl⟩ := List.mem_map.1 ha
  exact n.ne_of_mem_text (by decide) (by decide) (by decide)

def targetText (schema table : ScriptName) : List Char :=
  mergeInto ++ (schema.text ++ '.' :: table.text)

/-- A merge script that goes on with a text behind `VALUES`. -/
def mergeText (schema table : ScriptName) (rest : List Char) : List Char :=
  targetText schema table ++ (targetAlias ++ (usingValues ++ ' ' :: rest))

section
variable (schema table : ScriptName)

theorem isMarker_targetText : ∀ c ∈ targetText schema table, isMarker c = false := by
  have hinto : ∀ c ∈ mergeInto, isMarker c = false := by decide
  intro c hc
  rcases List.mem_append.1 hc with hc | hc
  · exact hinto c hc
  rcases List.mem_append.1 hc with hc | hc
  · exact schema.isMarker_text c hc
  rcases List.mem_cons.1 hc with rfl | hc
  · decide
  · exact table.isMarker_text c hc

/-- A place in front of which everything is sealed is outside literals. -/
theorem isCode_of_sealed {t a b : List Char} {c : Char} (htext : t = a ++ c :: b)
    (ha : Sealed a) (hc : isMarker c = false) :
    ((zones t)[a.length]? != some .literal) = true := by
  rw [htext, ha.zone_behind hc]
  rfl

def mergeHead (schema table : ScriptName) : List Char :=
  targetText schema table ++ (targetAlias ++ (usingValues ++ [' ']))

theorem mergeText_eq (rest : List Char) : mergeText schema table rest = mergeHead schema table ++ rest := by
  simp [mergeText, mergeHead]

theorem length_mergeHead : (mergeHead schema table).length = (targetText schema table).length + 25 := by
  simp [mergeHead, targetAlias, usingValues]

theorem isMarker_mergeHead : ∀ c ∈ mergeHead schema table, isMarker c = false := by
  have halias : ∀ c ∈ targetAlias ++ (usingValues ++ [' ']), isMarker c = false := by decide
  intro c hc
  rcases List.mem_append.1 hc with hc | hc
  · exact isMarker_targetText schema table c hc
  · exact halias c hc

theorem not_mem_mergeHead : ')' ∉ mergeHead schema table := by
  have hname : ∀ n : ScriptName, ')' ∉ n.text :=
    fun n => n.not_mem_text (by decide) (by decide) (by decide)
  simp [mergeHead, targetText, mergeInto, targetAlias, usingValues, hname]

theorem mask_mergeText (rest : List Char) :
    mask (mergeText schema table rest) = mergeText schema table (mask rest) := by
  rw [mergeText_eq, mergeText_eq, mask_plain_append (isMarker_mergeHead schema table)]

theorem find?_mergeText (rest : List Char) : mergeTarget.find? (mergeText schema table rest) =
    some ⟨0, (targetText schema table).length, ⟨schema.name, table.name⟩⟩ := by
  have hend : ∀ text, ∀ c ∈ (targetAlias ++ text).head?, ScriptName.isEnd c = true :=
    Reader.forall_head?_append (by decide) (by decide)
  have hread : ∀ rest, (∀ c ∈ rest.head?, ScriptName.isEnd c = true) →
      mergeTarget.read (targetText schema table ++ rest) = some (⟨schema.name, table.name⟩, rest) := by
    intro rest hr
    rw [targetText, List.append_assoc, List.append_assoc]
    exact mergeTarget_append schema table hr
  have hne : targetText schema table ≠ [] := List.append_ne_nil_of_left_ne_nil (by decide) _
  rw [Clause.find?, mergeText, Clause.findFrom_of_read hne rfl (hread _ (hend _)) rfl, Nat.zero_add]

theorem region_mergeText (a b : List Char) :
    ((mergeText schema table (a ++ b)).take ((targetText schema table).length + 25 + a.length)).drop
      ((targetText schema table).length + 24) = ' ' :: a := by
  let front := targetText schema table ++ (targetAlias ++ usingValues)
  have htext : mergeText schema table (a ++ b) = front ++ (' ' :: a ++ b) := by simp [mergeText, front]
  have hfront : front.length = (targetText schema table).length + 24 := by
    simp [front, targetAlias, usingValues]
  have hplace : (targetText schema table).length + 25 + a.length = front.length + (' ' :: a).length := by
    rw [hfront, List.length_cons]
    omega
  rw [htext, hplace, ← hfront, List.drop_take, Nat.add_sub_cancel_left, List.drop_left, List.take_left]

variable {schema table} {rest : List Char}

theorem findOutside?_values (hmask : mask (mergeText schema table rest) = mergeText schema table rest) :
    valuesStart.findOutside? (mergeText schema table rest) (targetText schema table).length =
      some ⟨(targetText schema table).length + 11, (targetText schema table).length + 24, 7⟩ := by
  have halias : ∀ x ∈ targetAlias, matchesLetter 'u' x = false := by decide
  have hspace : ∀ text, ∀ c ∈ (' ' :: text).head?, isWordChar c = false :=
    Reader.forall_head?_cons (by decide)
  have hsealed : Sealed (targetText schema table ++ targetAlias) :=
    (sealed_of_plain (isMarker_targetText schema table)).append (sealed_of_plain (by decide))
  have hcode := isCode_of_sealed (t := mergeText schema table rest) (c := 'U')
    (List.append_assoc _ _ _).symm hsealed (by decide)
  rw [List.length_append] at hcode
  rw [Clause.findOutside?_append _ hmask rfl]
  refine (startsWith_valuesStart.passes halias _ _ _ _).trans ?_
  exact Clause.findFrom_of_read (by decide) rfl (valuesStart_append (hspace _)) hcode

/-- Nothing in front of the rows is taken for source columns. -/
theorem findOutside?_columns (hmask : mask (mergeText schema table rest) = mergeText schema table rest) :
    sourceColumns.findOutside? (mergeText schema table rest) (targetText schema table).length =
      sourceColumns.findFrom (fun i => (zones (mergeText schema table rest))[i]? != some .literal) (some ' ')
        ((targetText schema table).length + 25) 0 rest := by
  have hspace : ∀ x ∈ [' '], matchesLetter 'a' x = false := by decide
  rw [Clause.findOutside?_append _ hmask rfl, ← List.append_assoc targetAlias, passes_sourceColumns_values]
  exact startsWith_sourceColumns.passes hspace _ _ _ _

/-- The parenthesis in front of `VALUES` is closed behind the rows. -/
theorem closingParen?_mergeText {inside behind : List Char} (hsealed : Sealed inside)
    (hbalanced : Balanced inside) :
    closingParen? (mergeText schema table (inside ++ ')' :: behind)) ((targetText schema table).length + 18) =
      some ((targetText schema table).length + 25 + inside.length) := by
  let before := targetText schema table ++ (targetAlias ++ ['U', 'S', 'I', 'N', 'G', ' ', '('])
  have hplain : Sealed ['V', 'A', 'L', 'U', 'E', 'S', ' '] := sealed_of_plain (by decide)
  have hvalues : Balanced ['V', 'A', 'L', 'U', 'E', 'S', ' '] := balanced_of_plain (by decide)
  have htext : mergeText schema table (inside ++ ')' :: behind) =
      before ++ (['V', 'A', 'L', 'U', 'E', 'S', ' '] ++ inside ++ ')' :: behind) := by
    simp [mergeText, usingValues, before]
  have hlength : before.length = (targetText schema table).length + 18 := by
    simp [before, targetAlias]
  have hclose : marked (')' :: behind) = (')', .code) :: marked behind :=
    (sealed_singleton (by decide)).marked (a := [')']) _
  rw [closingParen?, htext, ← hlength, List.drop_left, (hplain.append hsealed).marked, hclose,
    closingFrom_balanced (hvalues.append hplain hbalanced), Option.map_some, hlength, List.length_append]
  exact congrArg some (by simp only [List.length_cons, List.length_nil]; omega)

/-- The list of columns that counts when `first` is the first one that is found, the rows being closed by what
closes a parenthesis in front of `start`. -/
def chosenColumns (text : List Char) (start : Nat) (first : Found SourceColumns) : Found SourceColumns :=
  match closingParen? text start with
  | some close =>
    if first.start < close then (sourceColumns.findOutside? text close).getD first else first
  | none => first

theorem layoutOf_mergeText {first : Found SourceColumns}
    (hmask : mask (mergeText schema table rest) = mergeText schema table rest)
    (hfirst : sourceColumns.findFrom (fun i => (zones (mergeText schema table rest))[i]? != some .literal)
      (some ' ') ((targetText schema table).length + 25) 0 rest = some first) :
    Seed.layoutOf (mergeText schema table rest) =
      let columns := chosenColumns (mergeText schema table rest) ((targetText schema table).length + 18) first
      .ok ⟨⟨schema.name, table.name⟩, columns.value.columns,
        ((mergeText schema table rest).take columns.start).drop
          ((targetText schema table).length + 24)⟩ := by
  obtain ⟨p, _, _, _, _, hstart, _⟩ := Clause.findFrom_eq_some hfirst
  unfold Seed.layoutOf
  rw [find?_mergeText]
  simp only [findOutside?_columns hmask, hfirst, findOutside?_values hmask]
  rw [if_neg (by omega)]
  rfl

theorem layoutOf_mergeText_of_none
    (hmask : mask (mergeText schema table rest) = mergeText schema table rest)
    (hfirst : sourceColumns.findFrom (fun i => (zones (mergeText schema table rest))[i]? != some .literal)
      (some ' ') ((targetText schema table).length + 25) 0 rest = none) :
    Seed.layoutOf (mergeText schema table rest) = .error (.noSourceColumns schema.name table.name) := by
  unfold Seed.layoutOf
  rw [find?_mergeText]
  simp only [findOutside?_columns hmask, hfirst]
  rfl

end

end SchemaBindings

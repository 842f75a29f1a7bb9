import SchemaBindings.Proofs.Script.Closing
import SchemaBindings.Proofs.Script.Names
import SchemaBindings.Script.Clause

/-!
How the clauses of a seed script are read where they stand, and which texts they cannot be read from.
-/

namespace SchemaBindings.Script

set_option autoImplicit false

open Text (isBlank isWordChar matchesLetter)
open Reader

/-- `MERGE INTO`, up to the name. -/
def mergeInto : List Char := ['M', 'E', 'R', 'G', 'E', ' ', 'I', 'N', 'T', 'O', ' ']

theorem mergeTarget_append (schema table : ScriptName) {rest : List Char}
    (hr : ∀ c ∈ rest.head?, ScriptName.isEnd c = true) :
    mergeTarget.read (mergeInto ++ (schema.text ++ '.' :: (table.text ++ rest))) =
      some (⟨schema.name, table.name⟩, rest) := by
  have hmerge : mergeInto =
      ['M', 'E', 'R', 'G', 'E'] ++ ([' '] ++ (['I', 'N', 'T', 'O'] ++ [' '])) := rfl
  have hinto : ∀ text, ∀ c ∈ (['I', 'N', 'T', 'O'] ++ text).head?, isBlank c = false :=
    fun text => forall_head?_cons (by decide) _
  have hname := schema.isBlank_head_append ('.' :: (table.text ++ rest))
  rw [hmerge]
  simp only [List.append_assoc]
  refine (bind_of_eq (keyword_append (by decide) _)).trans ?_
  refine (bind_of_eq (blanks1_append (by simp) (by decide) (hinto _))).trans ?_
  refine (bind_of_eq (optional_of_eq (a := ()) ?_)).trans (qualifiedName_append schema table hr)
  refine (bind_of_eq (keyword_append (by decide) _)).trans ?_
  exact blanks1_append (by simp) (by decide) hname

/-- `USING (VALUES`. -/
def usingValues : List Char :=
  ['U', 'S', 'I', 'N', 'G', ' ', '(', 'V', 'A', 'L', 'U', 'E', 'S']

theorem startsWith_valuesStart : valuesStart.StartsWith 'u' := by
  intro x rest hx
  refine (bind_of_eq (get_apply _)).trans (bind_of_none ?_)
  exact keyLetters_cons_of_not hx _ rest

theorem valuesStart_append {rest : List Char} (hr : ∀ c ∈ rest.head?, isWordChar c = false) :
    valuesStart.read (usingValues ++ rest) = some (7, rest) := by
  have husing : usingValues ++ rest =
      ['U', 'S', 'I', 'N', 'G'] ++ ([' '] ++ '(' :: (['V', 'A', 'L', 'U', 'E', 'S'] ++ rest)) := rfl
  have hopen : ∀ text, ∀ c ∈ ('(' :: text).head?, isBlank c = false :=
    fun text => forall_head?_cons (by decide) _
  have hvalues : ∀ text, ∀ c ∈ (['V', 'A', 'L', 'U', 'E', 'S'] ++ text).head?, isBlank c = false :=
    fun text => forall_head?_cons (by decide) _
  rw [husing]
  refine (bind_of_eq (get_apply _)).trans ?_
  refine (bind_of_eq (keyword_append (by decide) _)).trans ?_
  refine (bind_of_eq (blanks_append (w := [' ']) (by decide) (hopen _))).trans ?_
  refine (bind_of_eq (char_self '(' _)).trans ?_
  refine (bind_of_eq (get_apply _)).trans ?_
  refine (bind_of_eq (blanks_of_head (hvalues rest))).trans ?_
  refine (bind_of_eq (keyword_append (by decide) rest)).trans ?_
  refine (bind_of_eq (wordEnd_of_head hr)).trans ?_
  simp [pure_apply]

theorem startsWith_sourceColumns : sourceColumns.StartsWith 'a' := by
  intro x rest hx
  refine bind_of_none ?_
  exact keyLetters_cons_of_not hx _ rest

/-- A list of source columns ends with the first closing parenthesis. -/
theorem closedBy_sourceColumns : sourceColumns.ClosedBy ')' where
  needs :=
    .bind (takes_any_keyword "as") fun _ => .bind takes_any_blanks1 fun _ => .bind takes_any_name fun _ =>
      .bind takes_any_blanks fun _ => .bind (takes_char trivial) fun _ => .bind takes_any_blanks fun _ =>
        .bind (takes_many fun _ _ => trivial) fun _ => needs_char ')' _
  closes := by
    have hblanks : Before ')' blanks := (stopsAt_blanks (by decide)).before
    refine (stopsAt_keyLetters (by decide)).before.closes_bind fun _ => ?_
    refine (stopsAt_blanks1 (by decide)).before.closes_bind fun _ => ?_
    refine (stopsAt_name (by decide) (by decide) (by decide)).before.closes_bind fun _ => ?_
    refine hblanks.closes_bind fun _ => (stopsAt_char (by decide)).before.closes_bind fun _ => ?_
    exact hblanks.closes_bind fun _ => (stopsAt_many (by decide)).before.closes_bind fun _ => closes_char _

theorem sourceColumns_append (source : ScriptName) {columns : List Char}
    (hne : ∀ c ∈ columns.head?, isBlank c = false) (hc : ∀ c ∈ columns, c ≠ ')')
    (rest : List Char) :
    sourceColumns.read (['A', 'S', ' '] ++ (source.text ++ ([' ', '('] ++ (columns ++ ')' :: rest)))) =
      some (⟨source.name, columns⟩, rest) := by
  have has : ∀ text, ['A', 'S', ' '] ++ text = ['A', 'S'] ++ ([' '] ++ text) := fun _ => rfl
  have hopen : ∀ text, [' ', '('] ++ text = [' '] ++ '(' :: text := fun _ => rfl
  have hend : ∀ text, ∀ c ∈ ([' '] ++ text).head?, ScriptName.isEnd c = true :=
    fun text => forall_head?_cons (by decide) _
  have hparen : ∀ text, ∀ c ∈ ('(' :: text).head?, isBlank c = false :=
    fun text => forall_head?_cons (by decide) _
  have hcolumns : ∀ c ∈ (columns ++ ')' :: rest).head?, isBlank c = false := by
    cases columns with
    | nil => exact forall_head?_cons (by decide) _
    | cons c more => exact hne
  have hclose : ∀ c ∈ (')' :: rest).head?, (c != ')') = false := forall_head?_cons (by decide) _
  rw [has, hopen]
  refine (bind_of_eq (keyword_append (by decide) _)).trans ?_
  refine (bind_of_eq (blanks1_append (by simp) (by decide) (source.isBlank_head_append _))).trans ?_
  refine (bind_of_eq (source.read_append (hend _))).trans ?_
  refine (bind_of_eq (blanks_append (w := [' ']) (by decide) (hparen _))).trans ?_
  refine (bind_of_eq (char_self '(' _)).trans ?_
  refine (bind_of_eq (blanks_of_head hcolumns)).trans ?_
  refine (bind_of_eq (many_append (by simpa using hc) hclose)).trans ?_
  exact bind_of_eq (char_self ')' rest)

theorem sourceColumns_target (rest : List Char) :
    sourceColumns.read (['A', 'S'] ++ ([' '] ++ (['T', 'a', 'r', 'g', 'e', 't'] ++
      ([' '] ++ 'U' :: rest)))) = none := by
  let target : ScriptName := ⟨['T', 'a', 'r', 'g', 'e', 't'], false, by simp, by decide⟩
  have hend : ∀ text, ∀ c ∈ ([' '] ++ text).head?, ScriptName.isEnd c = true :=
    fun text => forall_head?_cons (by decide) _
  have husing : ∀ text, ∀ c ∈ ('U' :: text).head?, isBlank c = false :=
    fun text => forall_head?_cons (by decide) _
  refine (bind_of_eq (keyword_append (by decide) _)).trans ?_
  refine (bind_of_eq (blanks1_append (by simp) (by decide) (target.isBlank_head_append _))).trans ?_
  refine (bind_of_eq (target.read_append (hend _))).trans ?_
  refine (bind_of_eq (blanks_append (w := [' ']) (by decide) (husing _))).trans ?_
  exact bind_of_none (char_of_ne (by decide) _)

/-- ` AS Target `, between the target and the rows. -/
def targetAlias : List Char := [' ', 'A', 'S', ' ', 'T', 'a', 'r', 'g', 'e', 't', ' ']

/-- Between the target and the rows stands nothing that could be taken for source columns. -/
theorem passes_sourceColumns_values (rest : List Char) :
    sourceColumns.Passes (targetAlias ++ usingValues) rest := by
  have hspace : ∀ b, sourceColumns.Passes [' '] b := startsWith_sourceColumns.passes (by decide)
  have hopen : ∀ b, sourceColumns.Passes [' ', '('] b := startsWith_sourceColumns.passes (by decide)
  have hword : ∀ w b, w ≠ [] → (∀ x ∈ w, isWordChar x = true) →
      sourceColumns.read (w ++ b) = none → sourceColumns.Passes w b :=
    fun _ _ => Clause.passes_word rfl
  have has := hword ['A', 'S'] _ (by decide) (by decide) (sourceColumns_target
    (['S', 'I', 'N', 'G'] ++ ([' ', '('] ++ (['V', 'A', 'L', 'U', 'E', 'S'] ++ rest))))
  have htarget : ∀ b, sourceColumns.Passes ['T', 'a', 'r', 'g', 'e', 't'] b := fun b =>
    hword _ _ (by decide) (by decide) (startsWith_sourceColumns _ _ (by decide))
  have husing : ∀ b, sourceColumns.Passes ['U', 'S', 'I', 'N', 'G'] b := fun b =>
    hword _ _ (by decide) (by decide) (startsWith_sourceColumns _ _ (by decide))
  have hvalues : ∀ b, sourceColumns.Passes ['V', 'A', 'L', 'U', 'E', 'S'] b := fun b =>
    hword _ _ (by decide) (by decide) (startsWith_sourceColumns _ _ (by decide))
  have hrows := ((hvalues rest).behind (hopen _)).behind (husing _)
  have halias := ((hrows.behind (hspace _)).behind (htarget _)).behind (hspace _)
  exact (halias.behind has).behind (hspace _)

end SchemaBindings.Script

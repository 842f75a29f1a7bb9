import SchemaBindings.Proofs.Code.InstanceArguments
import SchemaBindings.Proofs.Script.PlacedValues
import SchemaBindings.Schema.SeedScript

/-!
What becomes of `NULL` in a seed. A row keeps the text of a value and not whether it was a literal, so that a
value of a column with text is passed as `null` when it spells `NULL` in any capitals, quoted or not, and as a
verbatim literal of its text otherwise.
-/

namespace SchemaBindings.Code

set_option autoImplicit false

open Script (PlacedValue cellStrings)
open Text (lower upper)

def textTypes : List String := Column.characterTypes ++ ["text", "ntext"]

section
variable {t : Table} {s : Seed}

theorem isTextType_of_mem {name : String} {column : Column} (hcolumn : t.column? name = some column)
    (htype : lower column.sqlType ∈ textTypes) : isTextType (seedColumnType t name) = true := by
  have hmapped : ∀ type ∈ textTypes, (typeTable.lookup type).getD "object" = "string" := by decide
  have hcsharp : csharpType column = if column.nullable then "string?" else "string" := by
    rw [csharpType, mappedType, hmapped _ htype]
    rfl
  rw [seedColumnType, hcolumn, Option.map_some, Option.getD_some, hcsharp]
  split <;> rfl

theorem verbatimLiteral_ne_null (text : String) : verbatimLiteral text ≠ "null" := by
  intro h
  have hfirst := congrArg (fun s => s.toList.head?) h
  rw [verbatimLiteral, String.toList_ofList] at hfirst
  exact absurd (Option.some.inj hfirst) (by decide)

/-- A text is passed as `null` exactly if it spells `NULL`. -/
theorem literal_eq_null_iff {type : String} (htype : isTextType type = true) (cell : String) :
    literal type (some cell) = "null" ↔ upper cell = "NULL" := by
  rw [literal_of_isTextType htype, ← beq_iff_eq (a := upper cell)]
  change (if Row.isNullText cell then _ else _) = _ ↔ Row.isNullText cell = true
  constructor
  · intro h
    by_contra hnot
    rw [if_neg hnot] at h
    exact verbatimLiteral_ne_null cell h
  · intro h
    rw [if_pos h]

variable {nameSpace : String} {lookups tables : NameSet} {fallback : KeyFallback} {c : LookupClass}

theorem exists_instance (h : lookupClass t s nameSpace lookups tables fallback = .ok c) {r : Nat} {row : Row}
    (hrow : s.matchingRows[r]? = some row) :
    ∃ i, c.instances[r]? = some i ∧ i ∈ c.instances ∧ instanceOf t s fallback row = .ok i := by
  obtain ⟨hlength, hrows⟩ := List.forall₂_iff_get.1 (instances_of_rows h)
  obtain ⟨hlt, rfl⟩ := List.getElem?_eq_some_iff.1 hrow
  have hlt' : r < c.instances.length := hlength ▸ hlt
  exact ⟨_, List.getElem?_eq_getElem hlt', List.getElem_mem hlt', hrows r hlt hlt'⟩

/-- A value that stands in a row for the first column of a name, with text by its type, is passed as `null` if
it spells `NULL`, quoted or not, and otherwise as a literal that is read as the value. -/
theorem argument_of_placedValue (h : lookupClass t s nameSpace lookups tables fallback = .ok c) {r : Nat}
    {p : PlacedValue} (hrow : s.matchingRows[r]? = some (cellStrings p.text)) {name : String}
    (hname : s.columnNames[p.place]? = some name) (hfirst : s.columnIndex? name = some p.place)
    {column : Column}
    (hcolumn : t.column? name = some column) (htype : lower column.sqlType ∈ textTypes) :
    ∃ i argument behind, c.instances[r]? = some i ∧ c.callLine i ∈ c.lines (bindingHeader t) ∧
      i.arguments[p.place]? = some argument ∧
      (c.callLine i).toList = c.callFront i p.place ++ (argument.toList ++ behind) ∧
      (argument = "null" ↔ upper (String.ofList p.value.written.value) = "NULL") ∧
      (upper (String.ofList p.value.written.value) ≠ "NULL" →
        readVerbatim (argument.toList ++ behind) = some (p.value.written.value, behind)) := by
  obtain ⟨i, hi, hmem, hinstance⟩ := exists_instance h hrow
  have hargument := argument_of_columnIndex? hinstance hname hfirst
  rw [p.cellStrings_place] at hargument
  obtain ⟨behind, hline, hbehind⟩ := c.callLine_eq i hargument
  have htext := isTextType_of_mem hcolumn htype
  have hlines := (c.call_infix i (bindingHeader t) hmem).subset
  refine ⟨i, _, behind, hi, hlines (List.mem_cons_of_mem _ List.mem_cons_self), hargument, hline,
    literal_eq_null_iff htext _, fun hvalue => ?_⟩
  have hnot : Row.isNullText (String.ofList p.value.written.value) = false := beq_false_of_ne hvalue
  rw [literal_of_isTextType htext, hnot, if_neg Bool.false_ne_true]
  have hread := readVerbatim_verbatimLiteral (String.ofList p.value.written.value) hbehind
  rwa [String.toList_ofList] at hread

end

/-- Two literals of which one spells `NULL`. -/
def wordScript : String :=
  "MERGE INTO dbo.Word AS t USING (VALUES (1, N'Null' ), ( 2 , 'it''s' )) AS s (WordID, WordName)"

def wordSeed : Seed where
  schemaName := "dbo"
  tableName := "Word"
  columnNames := ["WordID", "WordName"]
  rows := [["1", "Null"], ["2", "it's"]]

def wordTable : Table where
  schemaName := "dbo"
  tableName := "Word"
  columns :=
    [{ name := "WordID", sqlType := "int", nullable := false },
      { name := "WordName", sqlType := "varchar", nullable := false, maxLength := some 10 }]

def quotedNull : PlacedValue where
  value := { written := .literal true "Null".toList, before := " ".toList, after := " ".toList }
  before := some ['1']

def quotedWord : PlacedValue where
  value := { written := .literal false "it's".toList, before := " ".toList, after := " ".toList }
  before := some [' ', '2', ' ']

theorem argument_of_placedValue_quotedWord :
    Seed.ofScript wordScript = .ok wordSeed ∧
      wordSeed.matchingRows[1]? = some (cellStrings quotedWord.text) ∧
    quotedWord.text = " 2 , 'it''s' ".toList ∧
    ∃ c i argument behind, lookupClass wordTable wordSeed "Acme" .empty .empty .firstColumn = .ok c ∧
      c.instances[1]? = some i ∧ c.callLine i ∈ c.lines (bindingHeader wordTable) ∧
      i.arguments[1]? = some argument ∧
      (c.callLine i).toList = c.callFront i 1 ++ (argument.toList ++ behind) ∧
      argument ≠ "null" ∧ readVerbatim (argument.toList ++ behind) = some ("it's".toList, behind) := by
  have hrow : wordSeed.matchingRows[1]? = some (cellStrings quotedWord.text) := by decide +kernel
  have hvalue : upper (String.ofList quotedWord.value.written.value) ≠ "NULL" := by decide +kernel
  obtain ⟨c, hclass⟩ : ∃ c, lookupClass wordTable wordSeed "Acme" .empty .empty .firstColumn = .ok c :=
    exists_eq_ok_of_isOk (by decide +kernel)
  have hname : wordSeed.columnNames[quotedWord.place]? = some "WordName" := by decide +kernel
  have hcolumn : wordTable.column? "WordName" =
      some { name := "WordName", sqlType := "varchar", nullable := false, maxLength := some 10 } := by
    decide +kernel
  obtain ⟨i, argument, behind, hi, hmem, hargument, hline, hnull, hread⟩ :=
    argument_of_placedValue hclass hrow hname (by decide +kernel) hcolumn (by decide +kernel)
  exact ⟨by decide +kernel, hrow, by decide, c, i, argument, behind, hclass, hi, hmem, hargument, hline,
    mt hnull.1 hvalue, hread hvalue⟩

/-- A quoted `NULL` is passed as `null`, which is no literal of a text. -/
theorem lookupClass_quotedNull :
    Seed.ofScript wordScript = .ok wordSeed ∧
      wordSeed.matchingRows[0]? = some (cellStrings quotedNull.text) ∧
    quotedNull.text = "1, N'Null' ".toList ∧ seedColumnType wordTable "WordName" = "string" ∧
    ∃ c i, lookupClass wordTable wordSeed "Acme" .empty .empty .firstColumn = .ok c ∧
      c.instances[0]? = some i ∧ i.arguments = ["1", "null"] ∧
      ∀ behind, readVerbatim ("null".toList ++ behind) = none := by
  have harguments : (lookupClass wordTable wordSeed "Acme" .empty .empty .firstColumn).map
      (fun c => c.instances.head?.map Instance.arguments) = .ok (some ["1", "null"]) := by
    decide +kernel
  obtain ⟨c, hclass, hfirst⟩ := map_eq_ok.1 harguments
  obtain ⟨i, hi, hpassed⟩ := Option.map_eq_some_iff.1 hfirst
  rw [List.head?_eq_getElem?] at hi
  exact ⟨by decide +kernel, by decide +kernel, by decide, by decide +kernel, c, i, hclass, hi, hpassed,
    fun _ => rfl⟩

end SchemaBindings.Code

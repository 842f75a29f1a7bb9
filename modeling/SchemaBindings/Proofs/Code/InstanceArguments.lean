import SchemaBindings.Proofs.Code.LookupKey
import SchemaBindings.Proofs.Text.Pieces

/-!
The arguments that the class of a row passes to its constructor. Each parameter looks for the cell of its
own column by name, and gets the cell in its own place when no two columns have the same name ignoring
case. A cell of a column that holds text is passed as a verbatim literal, which is read back whatever the
cell holds and whatever stands behind it in the line.
-/

namespace SchemaBindings

set_option autoImplicit false

open Text (lower sameIgnoringCase)

namespace Seed

/-- No two columns have the same name ignoring case. -/
def DistinctColumns (s : Seed) : Prop := (s.columnNames.map lower).Nodup

instance (s : Seed) : Decidable s.DistinctColumns := inferInstanceAs (Decidable (List.Nodup _))

theorem DistinctColumns.columnIndex? {s : Seed} (h : s.DistinctColumns) {k : Nat} {name : String}
    (hk : s.columnNames[k]? = some name) : s.columnIndex? name = some k := by
  obtain ⟨hlt, rfl⟩ := List.getElem?_eq_some_iff.1 hk
  refine List.findIdx?_eq_some_iff_getElem.2 ⟨hlt, Text.sameIgnoringCase_self _, ?_⟩
  intro j hj hsame
  have hapart := List.pairwise_iff_getElem.1 (List.pairwise_map.1 h) j k (hj.trans hlt) hlt hj
  exact hapart (beq_iff_eq.1 hsame)

theorem length_of_mem_matchingRows {s : Seed} {row : Row} (h : row ∈ s.matchingRows) :
    row.length = s.columnNames.length :=
  beq_iff_eq.1 (List.mem_filter.1 h).2

end Seed

namespace Code

/-- The text of a verbatim literal up to the quote that closes it, and what stands behind that quote. Two
quotes are one of the text. -/
def readVerbatimText : List Char → Option (List Char × List Char)
  | [] => none
  | '"' :: '"' :: rest => (readVerbatimText rest).map fun found => ('"' :: found.1, found.2)
  | '"' :: rest => some ([], rest)
  | c :: rest => (readVerbatimText rest).map fun found => (c :: found.1, found.2)

/-- Reads a verbatim literal. -/
def readVerbatim : List Char → Option (List Char × List Char)
  | '@' :: '"' :: rest => readVerbatimText rest
  | _ => none

section
variable {rest : List Char}

theorem readVerbatimText_doubled (text : List Char) (hrest : rest.head? ≠ some '"') :
    readVerbatimText (text.flatMap (fun c => if c = '"' then ['"', '"'] else [c]) ++ '"' :: rest) =
      some (text, rest) := by
  induction text with
  | nil =>
    rw [List.flatMap_nil, List.nil_append, readVerbatimText]
    rintro more rfl
    exact hrest rfl
  | cons c more ih =>
    rw [List.flatMap_cons, List.append_assoc]
    split
    · rename_i hquote
      subst hquote
      rw [List.cons_append, List.singleton_append, readVerbatimText, ih, Option.map_some]
    · rename_i hquote
      rw [List.singleton_append, readVerbatimText, ih, Option.map_some]
      · exact fun _ h _ => hquote h
      · exact hquote

/-- A verbatim literal ends at its own quote, whatever follows but another quote. -/
theorem readVerbatim_verbatimLiteral (text : String) (hrest : rest.head? ≠ some '"') :
    readVerbatim ((verbatimLiteral text).toList ++ rest) = some (text.toList, rest) := by
  rw [verbatimLiteral, String.toList_ofList, List.append_assoc, List.cons_append, List.cons_append,
    readVerbatim]
  exact readVerbatimText_doubled text.toList hrest

end

def isTextType (type : String) : Bool := type == "string" || type == "string?"

theorem literal_of_isTextType {type : String} (htype : isTextType type = true) (cell : String) :
    literal type (some cell) = if Row.isNullText cell then "null" else verbatimLiteral cell := by
  have htext : "string".toList.isPrefixOf type.toList = true := by
    rw [isTextType, Bool.or_eq_true, beq_iff_eq, beq_iff_eq] at htype
    rcases htype with rfl | rfl <;> rfl
  unfold literal
  rw [Option.map_some, Option.getD_some, htext, if_pos rfl, Option.getD_some]

section
variable {t : Table} {s : Seed} {fallback : KeyFallback} {row : Row} {i : Instance}

theorem arguments_of_instanceOf (h : instanceOf t s fallback row = .ok i) :
    i.arguments = s.columnNames.map fun name =>
      literal (seedColumnType t name) (row.cell? (s.columnIndex? name)) := by
  unfold instanceOf at h
  obtain ⟨value, _, h⟩ := bind_eq_ok.1 h
  obtain rfl := Except.ok.inj h
  rw [parameters, List.map_map]
  rfl

theorem argument_of_columnIndex? (h : instanceOf t s fallback row = .ok i) {k : Nat} {name : String}
    (hk : s.columnNames[k]? = some name) (hfirst : s.columnIndex? name = some k) :
    i.arguments[k]? = some (literal (seedColumnType t name) row[k]?) := by
  rw [arguments_of_instanceOf h, List.getElem?_map, hk, Option.map_some, hfirst]
  rfl

theorem arguments_of_distinctColumns (h : instanceOf t s fallback row = .ok i) (hs : s.DistinctColumns)
    (hrow : row.length = s.columnNames.length) :
    i.arguments =
      List.zipWith (fun name cell => literal (seedColumnType t name) (some cell)) s.columnNames row := by
  refine List.ext_getElem? fun k => ?_
  rw [List.getElem?_zipWith]
  cases hk : s.columnNames[k]? with
  | none => rw [arguments_of_instanceOf h, List.getElem?_map, hk, Option.map_none]
  | some name =>
    have hlt : k < row.length := hrow ▸ (List.getElem?_eq_some_iff.1 hk).1
    rw [argument_of_columnIndex? h hk (hs.columnIndex? hk), List.getElem?_eq_getElem hlt]

end

theorem intercalate_append_cons {α : Type} (sep : List α) (front : List (List α)) (a : List α)
    (back : List (List α)) : sep.intercalate (front ++ a :: back) =
      front.flatMap (· ++ sep) ++ (a ++ back.flatMap (sep ++ ·)) := by
  induction front generalizing a with
  | nil =>
    rw [List.nil_append, List.flatMap_nil, List.nil_append]
    induction back generalizing a with
    | nil => rw [List.intercalate_singleton, List.flatMap_nil, List.append_nil]
    | cons b more ih =>
      rw [List.intercalate_cons_cons, ih, List.flatMap_cons, List.append_assoc, List.append_assoc]
  | cons f more ih =>
    obtain ⟨b, rest, hrest⟩ := List.exists_cons_of_ne_nil (List.append_ne_nil_of_right_ne_nil more
      (List.cons_ne_nil a back))
    rw [List.cons_append, hrest, List.intercalate_cons_cons, ← hrest, ih, List.flatMap_cons,
      List.append_assoc, List.append_assoc, List.append_assoc]

namespace LookupClass
variable (c : LookupClass) (i : Instance)

/-- The line in which the class of a row declares its constructor. -/
def constructorLine : String :=
  "        private " ++ c.name ++ i.name ++ "(" ++ c.parameterList ++ ") : base("
    ++ ", ".intercalate (c.parameters.map Parameter.name) ++ ") \x7b\x7d"

/-- The line in which the class of a row calls its constructor, up to the arguments. -/
def callStart : String :=
  "        public static readonly " ++ c.name ++ i.name ++ " Instance = new " ++ c.name ++ i.name ++ "("

def callLine : String := c.callStart i ++ ", ".intercalate i.arguments ++ ");"

def callFront (k : Nat) : List Char :=
  (c.callStart i).toList ++ (i.arguments.take k).flatMap fun a => a.toList ++ [',', ' ']

theorem call_infix (header : List String) (hi : i ∈ c.instances) :
    [c.constructorLine i, c.callLine i] <:+: c.lines header := by
  have hown : [c.constructorLine i, c.callLine i] <:+: c.instanceLines i := by
    refine ⟨(c.instanceLines i).take 2, ["    \x7d", ""], ?_⟩
    rfl
  have hall : c.instanceLines i <:+: c.instances.flatMap c.instanceLines := by
    obtain ⟨front, back, hsplit⟩ := List.append_of_mem hi
    refine ⟨front.flatMap c.instanceLines, back.flatMap c.instanceLines, ?_⟩
    rw [hsplit, List.flatMap_append, List.flatMap_cons, List.append_assoc]
  unfold lines
  exact (hown.trans hall).trans ((List.suffix_append _ _).isInfix.trans (List.prefix_append _ _).isInfix)

/-- Where an argument stands in the line of the call. Behind it there is a comma or a parenthesis. -/
theorem callLine_eq {k : Nat} {argument : String} (hk : i.arguments[k]? = some argument) :
    ∃ behind, (c.callLine i).toList = c.callFront i k ++ (argument.toList ++ behind) ∧
      behind.head? ≠ some '"' := by
  obtain ⟨hlt, rfl⟩ := List.getElem?_eq_some_iff.1 hk
  refine ⟨(i.arguments.drop (k + 1)).flatMap (fun a => [',', ' '] ++ a.toList) ++ [')', ';'], ?_, ?_⟩
  · have hsplit : i.arguments.map String.toList = (i.arguments.take k).map String.toList ++
        i.arguments[k].toList :: (i.arguments.drop (k + 1)).map String.toList := by
      rw [← List.map_cons, ← List.map_append, ← List.drop_eq_getElem_cons hlt, List.take_append_drop]
    have hcomma : (", " : String).toList = [',', ' '] := rfl
    have hclose : (");" : String).toList = [')', ';'] := rfl
    rw [callLine, String.toList_append, String.toList_append, String.toList_intercalate, hcomma,
      hclose, hsplit, intercalate_append_cons, callFront, List.flatMap_map, List.flatMap_map]
    simp only [List.append_assoc]
  · cases i.arguments.drop (k + 1) with
    | nil => decide
    | cons a more =>
      rw [List.flatMap_cons, List.cons_append]
      exact fun h => absurd (Option.some.inj h) (by decide)

end LookupClass

/-- What the class of a row passes to its constructor. -/
structure IsCall (t : Table) (s : Seed) (c : LookupClass) (row : Row) (i : Instance) : Prop where
  /-- The lines of the constructor and of the call stand in the class. -/
  lines : [c.constructorLine i, c.callLine i] <:+: c.lines (bindingHeader t)
  length : i.arguments.length = c.parameters.length
  /-- Each cell is passed for the column in its own place. -/
  arguments : i.arguments =
    List.zipWith (fun name cell => literal (seedColumnType t name) (some cell)) s.columnNames row
  /-- A text is read from its place in the line, with all that stands behind it left over. -/
  reads : ∀ k name cell, s.columnNames[k]? = some name → row[k]? = some cell →
    isTextType (seedColumnType t name) = true → Row.isNullText cell = false →
    ∃ argument behind, i.arguments[k]? = some argument ∧
      (c.callLine i).toList = c.callFront i k ++ (argument.toList ++ behind) ∧
      readVerbatim (argument.toList ++ behind) = some (cell.toList, behind)

section
variable {t : Table} {s : Seed} {nameSpace : String} {lookups tables : NameSet} {fallback : KeyFallback}
  {c : LookupClass}

theorem parameters_eq (h : lookupClass t s nameSpace lookups tables fallback = .ok c) :
    c.parameters = s.columnNames.map fun name => ⟨name, seedColumnType t name, lowerCamel name⟩ := by
  unfold lookupClass at h
  obtain ⟨instances, _, h⟩ := bind_eq_ok.1 h
  obtain rfl := Except.ok.inj h
  rfl

/-- The instances come from the rows that fit, one from each. -/
theorem instances_of_rows (h : lookupClass t s nameSpace lookups tables fallback = .ok c) :
    List.Forall₂ (fun row i => instanceOf t s fallback row = .ok i) s.matchingRows c.instances := by
  unfold lookupClass at h
  obtain ⟨instances, hinstances, h⟩ := bind_eq_ok.1 h
  obtain rfl := Except.ok.inj h
  exact forall₂_of_mapM_eq_ok hinstances

theorem isCall_of_instanceOf (hs : s.DistinctColumns) (hc : c.parameters.length = s.columnNames.length)
    {row : Row} {i : Instance} (hrow : row ∈ s.matchingRows) (hi : i ∈ c.instances)
    (h : instanceOf t s fallback row = .ok i) : IsCall t s c row i where
  lines := c.call_infix i _ hi
  length := by rw [arguments_of_instanceOf h, List.length_map, hc]
  arguments := arguments_of_distinctColumns h hs (Seed.length_of_mem_matchingRows hrow)
  reads := by
    intro k name cell hk hcell htype hnull
    have hargument := argument_of_columnIndex? h hk (hs.columnIndex? hk)
    rw [hcell, literal_of_isTextType htype, hnull, if_neg Bool.false_ne_true] at hargument
    obtain ⟨behind, hline, hbehind⟩ := c.callLine_eq i hargument
    exact ⟨_, behind, hargument, hline, readVerbatim_verbatimLiteral cell hbehind⟩

end

/-- A table without one of the columns of its seed. -/
def toneTable : Table where
  schemaName := "dbo"
  tableName := "Tone"
  columns :=
    [{ name := "ToneID", sqlType := "int", nullable := false }, { name := "ToneName", sqlType := "nvarchar" },
      { name := "Rate", sqlType := "decimal" }]

/-- Texts with quotes, commas, a line break and the end of a call in them, and rows with nothing in some
cells. -/
def toneSeed : Seed where
  schemaName := "dbo"
  tableName := "Tone"
  columnNames := ["toneid", "ToneName", "Note", "RATE"]
  rows := [["1", "\"Dark\", \"\"\n", ");", "0.5"], ["2", "", "null", "NULL"], ["3"]]

end Code

end SchemaBindings

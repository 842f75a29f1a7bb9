import SchemaBindings.Code.LookupBinding
import SchemaBindings.Code.TypeScript
import SchemaBindings.Proofs.Results
import SchemaBindings.Proofs.Text.Numerals

/-!
The C# and the TypeScript file of a lookup table hold one enumeration. Its members come from the rows that
fit, one from each and in their order, and the value of each is a whole number without zeros in front,
whatever the row holds.
-/

namespace SchemaBindings.Code

set_option autoImplicit false

open Text

/-- How a language lays out an enumeration, one member a line. -/
structure EnumLayout where
  opening : String → List String
  indent : String
  closing : String

namespace EnumLayout

def csharp : EnumLayout where
  opening name := ["    public enum " ++ name ++ "Enum", "    \x7b"]
  indent := "        "
  closing := "    \x7d"

def typeScript : EnumLayout where
  opening name := ["export enum " ++ name ++ "Enum \x7b"]
  indent := "  "
  closing := "\x7d"

/-- The lines of the enumeration of a table, with the name and the value of each member. -/
def lines (l : EnumLayout) (table : String) (members : List (String × String)) : List String :=
  l.opening table ++ members.map (fun m => l.indent ++ m.1 ++ " = " ++ m.2 ++ ",") ++ [l.closing]

def Holds (l : EnumLayout) (table : String) (members : List (String × String)) (text : String) : Prop :=
  ∃ lines, text = fileText lines ∧ l.lines table members <:+: lines

end EnumLayout

/-- The name and the value that a row has as a member. -/
structure IsMember (t : Table) (s : Seed) (fallback : KeyFallback) (row : Row) (m : String × String) :
    Prop where
  name : m.1 = identifier (row.cell? (s.systemNameColumn? t.tableName))
  value : row.enumValue (s.keyColumn? t fallback) = .ok m.2

variable {t : Table} {s : Seed} {fallback : KeyFallback}

theorem IsMember.unique {row : Row} {m m' : String × String} (h : IsMember t s fallback row m)
    (h' : IsMember t s fallback row m') : m = m' :=
  Prod.ext (h.name.trans h'.name.symm) (Except.ok.inj (h.value.symm.trans h'.value))

/-- The members of the rows, if there are such members, are told by the rows. -/
theorem members_unique {rows : List Row} {members members' : List (String × String)}
    (h : List.Forall₂ (IsMember t s fallback) rows members)
    (h' : List.Forall₂ (IsMember t s fallback) rows members') : members = members' := by
  induction h generalizing members' with
  | nil =>
    cases h'
    rfl
  | cons hm _ ih =>
    cases h' with
    | cons hm' hrest => rw [hm.unique hm', ih hrest]

theorem Row.canonical_enumValue {row : Row} {key : Option Nat} {value : String}
    (h : row.enumValue key = .ok value) : Numeral.Canonical value.toList := by
  unfold Row.enumValue at h
  obtain ⟨n, _, h⟩ := bind_eq_ok.1 h
  cases n with
  | none =>
    cases h
    exact .zero
  | some n => exact Numeral.canonical_of_write h

theorem members_lookupClass {nameSpace : String} {lookups tables : NameSet} {c : LookupClass}
    (h : lookupClass t s nameSpace lookups tables fallback = .ok c) :
    c.name = t.tableName ∧ List.Forall₂ (IsMember t s fallback) s.matchingRows c.members := by
  unfold lookupClass at h
  obtain ⟨instances, hinstances, h⟩ := bind_eq_ok.1 h
  obtain rfl := Except.ok.inj h
  refine ⟨rfl, ?_⟩
  unfold LookupClass.members
  rw [List.forall₂_map_right_iff]
  refine (forall₂_of_mapM_eq_ok hinstances).imp fun row i hi => ?_
  unfold instanceOf at hi
  obtain ⟨value, hvalue, hi⟩ := bind_eq_ok.1 hi
  obtain rfl := Except.ok.inj hi
  exact ⟨rfl, hvalue⟩

theorem LookupClass.enumLines_eq (c : LookupClass) :
    c.enumLines = EnumLayout.csharp.lines c.name c.members ++ [""] := by
  unfold enumLines EnumLayout.lines
  simp only [List.append_assoc]
  rfl

theorem LookupClass.holds_lines (c : LookupClass) (header : List String) :
    EnumLayout.csharp.Holds c.name c.members (fileText (c.lines header)) := by
  refine ⟨_, rfl, ?_⟩
  have hown : EnumLayout.csharp.lines c.name c.members <:+: c.enumLines := by
    rw [enumLines_eq]
    exact (List.prefix_append _ _).isInfix
  have hfront : ∀ front : List String, EnumLayout.csharp.lines c.name c.members <:+: front ++ c.enumLines :=
    fun front => hown.trans (List.suffix_append _ _).isInfix
  unfold lines
  exact ((hfront _).trans (List.prefix_append _ _).isInfix).trans (List.prefix_append _ _).isInfix

/-- A name that is missing or empty gives the same member in both languages. -/
theorem identifier_cellOr (cell : Option String) :
    identifier (some (cellOr placeholder cell)) = identifier cell := by
  cases cell with
  | none => decide
  | some text =>
    unfold cellOr
    simp only
    split
    · rename_i hempty
      rw [String.isEmpty_iff] at hempty
      subst hempty
      decide
    · rfl

/-- Each entry is made from the row that stands in its place. -/
theorem forall₂_enumEntries {entries : List EnumEntry} (h : enumEntries t s fallback = .ok entries) :
    List.Forall₂ (fun row e => ∃ running, enumEntry t s fallback running row = .ok e) s.matchingRows
      entries := by
  rw [enumEntries_eq_mapM] at h
  rw [← List.zipIdx_map_fst 0 s.matchingRows, List.forall₂_map_left_iff]
  exact (forall₂_of_mapM_eq_ok h).imp fun x e he => ⟨_, he⟩

theorem members_enumEntries {entries : List EnumEntry} (h : enumEntries t s fallback = .ok entries) :
    List.Forall₂ (IsMember t s fallback) s.matchingRows (entries.map fun e => (e.name, e.value)) := by
  rw [List.forall₂_map_right_iff]
  refine (forall₂_enumEntries h).imp ?_
  rintro row e ⟨running, he⟩
  unfold enumEntry at he
  obtain ⟨order, _, he⟩ := bind_eq_ok.1 he
  obtain ⟨value, hvalue, he⟩ := bind_eq_ok.1 he
  obtain rfl := Except.ok.inj he
  exact ⟨identifier_cellOr _, hvalue⟩

theorem holds_enumModuleLines {entries : List EnumEntry} {lines : List String}
    (h : enumModuleLines t entries = .ok lines) :
    EnumLayout.typeScript.Holds t.tableName (entries.map fun e => (e.name, e.value)) (fileText lines) := by
  unfold enumModuleLines at h
  obtain ⟨records, _, h⟩ := bind_eq_ok.1 h
  obtain rfl := Except.ok.inj h
  refine ⟨_, rfl, ?_⟩
  unfold EnumLayout.lines
  rw [List.map_map]
  refine List.IsInfix.trans ?_ (List.drop_suffix 7 _).isInfix
  simp only [List.append_assoc]
  refine (List.prefix_append_right_inj [_]).2 ((List.prefix_append_right_inj _).2 ?_) |>.isInfix
  exact List.prefix_append ["\x7d"] _

theorem members_lookupBinding {nameSpace binding : String} {lookups tables : NameSet}
    (h : lookupBinding t s nameSpace lookups tables fallback = .ok binding) :
    ∃ members, EnumLayout.csharp.Holds t.tableName members binding ∧
      List.Forall₂ (IsMember t s fallback) s.matchingRows members := by
  unfold lookupBinding at h
  obtain ⟨c, hclass, h⟩ := bind_eq_ok.1 h
  obtain rfl := Except.ok.inj h
  obtain ⟨hname, hmembers⟩ := members_lookupClass hclass
  exact ⟨c.members, hname ▸ c.holds_lines _, hmembers⟩

theorem members_enumModule {script : String} (h : enumModule t s fallback = .ok script) :
    ∃ members, EnumLayout.typeScript.Holds t.tableName members script ∧
      List.Forall₂ (IsMember t s fallback) s.matchingRows members := by
  unfold enumModule at h
  obtain ⟨entries, hentries, h⟩ := bind_eq_ok.1 h
  obtain ⟨lines, hlines, h⟩ := bind_eq_ok.1 h
  obtain rfl := Except.ok.inj h
  exact ⟨_, holds_enumModuleLines hlines, members_enumEntries hentries⟩

/-- Rows with signs, blanks and zeros around a key, with no key, with no name, and with a cell too few. -/
def oddSeed : Seed where
  schemaName := "dbo"
  tableName := "Kind"
  columnNames := ["KindID", "KindName"]
  rows := [["1", "Open"], [" -007 ", "3D Model"], ["+0", "N/A"], ["NULL", ""], ["x", " "], ["2"]]

def kindTable : Table where
  schemaName := "dbo"
  tableName := "Kind"
  columns := [{ name := "KindID", sqlType := "int" }]

end SchemaBindings.Code

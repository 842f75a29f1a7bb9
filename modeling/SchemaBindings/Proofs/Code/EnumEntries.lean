import SchemaBindings.Code.TypeScript
import SchemaBindings.Proofs.Batch.Returning
import SchemaBindings.Proofs.Results

/-!
The entries of a lookup table's list. The columns that an entry is made from are told by the names of the
seed's columns, and each row that fits gives one entry, from its own cells and its own place: a sort order
that no cell gives is counted from ten on, in tens, past every row, also past those that give one.
-/

namespace SchemaBindings

set_option autoImplicit false

open Text

def Called (name column : String) : Prop := lower column = lower name

def EndsIn (ending column : String) : Prop := (lower ending).toList <:+ (lower column).toList

/-- The place is that of the first name that is fit. -/
def IsFirst (names : List String) (fit : String → Prop) (i : Nat) : Prop :=
  (∃ n, names[i]? = some n ∧ fit n) ∧ ∀ j < i, ∀ n, names[j]? = some n → ¬ fit n

/-- Of several tests the first that some name passes decides, and of the names that pass it the first. -/
inductive Picks (names : List String) : List (String → Prop) → Option Nat → Prop
  | nothing : Picks names [] none
  | found {fit : String → Prop} {tests : List (String → Prop)} {i : Nat} (h : IsFirst names fit i) :
      Picks names (fit :: tests) (some i)
  | next {fit : String → Prop} {tests : List (String → Prop)} {place : Option Nat}
      (hnone : ∀ n ∈ names, ¬ fit n)
      (h : Picks names tests place) : Picks names (fit :: tests) place

section
variable {names : List String} {fit : String → Prop} {tests : List (String → Prop)}

theorem IsFirst.exists_mem {i : Nat} (h : IsFirst names fit i) : ∃ n ∈ names, fit n := by
  obtain ⟨⟨n, hn, hfit⟩, _⟩ := h
  exact ⟨n, List.mem_of_getElem? hn, hfit⟩

theorem IsFirst.unique {i j : Nat} (hi : IsFirst names fit i) (hj : IsFirst names fit j) : i = j := by
  obtain ⟨⟨n, hn, hfit⟩, hbefore⟩ := hi
  obtain ⟨⟨m, hm, hfit'⟩, hbefore'⟩ := hj
  rcases Nat.lt_trichotomy i j with hlt | heq | hlt
  · exact (hbefore' i hlt n hn hfit).elim
  · exact heq
  · exact (hbefore j hlt m hm hfit').elim

theorem Picks.unique {place place' : Option Nat} (h : Picks names tests place)
    (h' : Picks names tests place') : place = place' := by
  induction h with
  | nothing =>
    cases h'
    rfl
  | found hi =>
    cases h' with
    | found hj => rw [hi.unique hj]
    | next hnone _ =>
      obtain ⟨n, hn, hfit⟩ := hi.exists_mem
      exact (hnone n hn hfit).elim
  | next hnone _ ih =>
    cases h' with
    | found hj =>
      obtain ⟨n, hn, hfit⟩ := hj.exists_mem
      exact (hnone n hn hfit).elim
    | next _ hrest => exact ih hrest

theorem Picks.lt_length {i : Nat} (h : Picks names tests (some i)) : i < names.length := by
  generalize hplace : some i = place at h
  induction h with
  | nothing => cases hplace
  | found hi =>
    cases hplace
    obtain ⟨⟨n, hn, _⟩, _⟩ := hi
    exact (List.getElem?_eq_some_iff.1 hn).1
  | next _ _ ih => exact ih hplace

theorem picks_findIdx? {p : String → Bool} (hp : ∀ n, p n = true ↔ fit n) {place : Option Nat}
    (h : Picks names tests place) : Picks names (fit :: tests) (names.findIdx? p <|> place) := by
  cases hfind : names.findIdx? p with
  | none =>
    refine .next (fun n hn hfit => ?_) h
    have hfalse := List.findIdx?_eq_none_iff.1 hfind n hn
    rw [(hp n).2 hfit] at hfalse
    cases hfalse
  | some i =>
    obtain ⟨hlt, hfits, hbefore⟩ := List.findIdx?_eq_some_iff_getElem.1 hfind
    refine .found ⟨⟨_, List.getElem?_eq_getElem hlt, (hp _).1 hfits⟩, fun j hj n hn hfit => ?_⟩
    obtain ⟨_, rfl⟩ := List.getElem?_eq_some_iff.1 hn
    exact hbefore j hj ((hp _).2 hfit)

theorem picks_last {p : String → Bool} (hp : ∀ n, p n = true ↔ fit n) :
    Picks names [fit] (names.findIdx? p) := by
  have h : Picks names [fit] (names.findIdx? p <|> none) := picks_findIdx? hp .nothing
  rwa [Option.orElse_eq_orElse, Option.orElse_eq_or, Option.or_none] at h

end

/-- The places of the columns that an entry is made from. -/
@[ext]
structure EntryColumns where
  name : Option Nat
  display : Option Nat
  key : Option Nat
  order : Option Nat

def nameTests (table : String) : List (String → Prop) :=
  [Called (table ++ "Name"), fun n => EndsIn "Name" n ∧ ¬ EndsIn "DisplayName" n, EndsIn "Name"]

def displayTests (table : String) : List (String → Prop) :=
  [Called (table ++ "DisplayName"), EndsIn "DisplayName"]

def keyTests (t : Table) : KeyFallback → List (String → Prop)
  | .firstColumn => [Called t.primaryKeyName, EndsIn "ID", fun _ => True]
  | .none => [Called t.primaryKeyName, EndsIn "ID"]

def orderTests : List (String → Prop) := [Called "SortOrder", EndsIn "SortOrder"]

namespace EntryColumns

structure AreOf (c : EntryColumns) (t : Table) (names : List String) (fallback : KeyFallback) : Prop where
  name : Picks names (nameTests t.tableName) c.name
  display : Picks names (displayTests t.tableName) c.display
  key : Picks names (keyTests t fallback) c.key
  order : Picks names orderTests c.order

def ofSeed (t : Table) (s : Seed) (fallback : KeyFallback) : EntryColumns where
  name := s.systemNameColumn? t.tableName
  display := s.displayNameColumn? t.tableName
  key := s.keyColumn? t fallback
  order := s.sortOrderColumn?

theorem areOf_ofSeed (t : Table) (s : Seed) (fallback : KeyFallback) :
    (ofSeed t s fallback).AreOf t s.columnNames fallback := by
  have hcalled : ∀ name n, sameIgnoringCase n name = true ↔ Called name n := fun _ _ => beq_iff_eq
  have hends : ∀ ending n, (lower ending).toList.isSuffixOf (lower n).toList = true ↔ EndsIn ending n :=
    fun _ _ => List.isSuffixOf_iff_suffix
  constructor
  · refine picks_findIdx? (hcalled _) (picks_findIdx? (fun n => ?_) (picks_last (hends _)))
    rw [← hends, ← hends]
    simp only [Seed.isSystemName, Bool.and_eq_true, Bool.not_eq_true', Bool.not_eq_true]
    rfl
  · exact picks_findIdx? (hcalled _) (picks_last (hends _))
  · cases fallback with
    | firstColumn =>
      refine picks_findIdx? (hcalled _) (picks_findIdx? (hends _) ?_)
      by_cases hnil : s.columnNames = []
      · rw [if_neg fun h => h.2 hnil, hnil]
        exact .next (List.forall_mem_nil _) .nothing
      · obtain ⟨n, rest, hnames⟩ := List.exists_cons_of_ne_nil hnil
        rw [if_pos ⟨rfl, hnil⟩, hnames]
        exact .found ⟨⟨n, rfl, trivial⟩, fun j hj => (Nat.not_lt_zero j hj).elim⟩
    | none =>
      refine picks_findIdx? (hcalled _) (picks_findIdx? (hends _) ?_)
      rw [if_neg fun h => KeyFallback.noConfusion h.1]
      exact .nothing
  · exact picks_findIdx? (hcalled _) (picks_last (hends _))

theorem AreOf.eq_ofSeed {c : EntryColumns} {t : Table} {s : Seed} {fallback : KeyFallback}
    (h : c.AreOf t s.columnNames fallback) : c = ofSeed t s fallback := by
  have hseed := areOf_ofSeed t s fallback
  exact EntryColumns.ext (h.name.unique hseed.name) (h.display.unique hseed.display) (h.key.unique hseed.key)
    (h.order.unique hseed.order)

def rawName (c : EntryColumns) (row : Row) : String := Code.cellOr Code.placeholder (row.cell? c.name)

end EntryColumns

/-- What a cell holds as a whole number: the one that its text stands for, and nothing for any other text. -/
inductive HoldsInt : Option String → Option Int → Prop
  | number {text : String} (f : Numeral.Form) (htext : f.text = text.toList) (h : f.Legible) :
      HoldsInt (some text) (some f.number)
  | other {text : String} (h : ∀ f : Numeral.Form, f.text ≠ text.toList) : HoldsInt (some text) none
  | missing : HoldsInt none none

theorem Row.int?_eq_ok_iff {row : Row} {place : Option Nat} {n : Option Int} :
    row.int? place = .ok n ↔ HoldsInt (row.cell? place) n := by
  unfold int?
  cases row.cell? place with
  | none =>
    constructor
    · rintro ⟨⟩
      exact .missing
    · rintro ⟨⟩
      rfl
  | some text =>
    cases n with
    | none =>
      rw [Numeral.read?_eq_none_iff]
      constructor
      · exact .other
      · intro h
        cases h with
        | other h => exact h
    | some n =>
      rw [Numeral.read?_eq_some_iff]
      constructor
      · rintro ⟨f, htext, hlegible, rfl⟩
        exact .number f htext hlegible
      · intro h
        cases h with
        | number f htext hlegible => exact ⟨f, htext, hlegible, rfl⟩

theorem Row.enumValue_eq_ok_iff {row : Row} {key : Option Nat} {value : String} :
    row.enumValue key = .ok value ↔ ∃ n, HoldsInt (row.cell? key) n ∧ value = toString (n.getD 0) := by
  unfold enumValue
  constructor
  · intro h
    obtain ⟨n, hn, h⟩ := bind_eq_ok.1 h
    refine ⟨n, int?_eq_ok_iff.1 hn, ?_⟩
    cases n with
    | none =>
      cases h
      rfl
    | some n =>
      unfold Numeral.write at h
      simp only at h
      split at h
      · cases h
        rfl
      · cases h
  · rintro ⟨n, hn, rfl⟩
    have hread := int?_eq_ok_iff.2 hn
    refine bind_eq_ok.2 ⟨n, hread, ?_⟩
    cases n with
    | none => rfl
    | some n => exact if_pos (writable_of_int? hread)

namespace Code

/-- The text that is shown for a row: its own cell, or the raw name where that is empty or there is no column
for it. -/
inductive Shows (c : EntryColumns) (row : Row) : String → Prop
  | cell {text : String} (h : row.cell? c.display = some text) (hne : text ≠ "") : Shows c row text
  | name (h : c.display = none ∨ row.cell? c.display = some "") : Shows c row (c.rawName row)

/-- The sort order of a row, where `count` stands in for the number that a sort column's cell does not hold.
Without a sort column it is the key's tenfold, and ten for a row without a key. -/
inductive HasOrder (c : EntryColumns) (count : Int) (row : Row) : Int → Prop
  | cell {n : Option Int} (hplace : c.order ≠ none) (h : HoldsInt (row.cell? c.order) n) :
      HasOrder c count row (n.getD count)
  | key {n : Option Int} (hplace : c.order = none) (h : HoldsInt (row.cell? c.key) n) :
      HasOrder c count row ((n.map (10 * ·)).getD 10)

structure IsEntry (c : EntryColumns) (count : Int) (row : Row) (e : EnumEntry) : Prop where
  name : e.name = identifier (some (c.rawName row))
  display : Shows c row e.displayName
  value : ∃ n, HoldsInt (row.cell? c.key) n ∧ e.value = toString (n.getD 0)
  order : HasOrder c count row e.sortOrder

/-- One pass over the rows. The count grows with every row, whatever the row's own cell gives. -/
inductive Pass (c : EntryColumns) : Int → List Row → List EnumEntry → Prop
  | nil {count : Int} : Pass c count [] []
  | cons {count : Int} {row : Row} {rows : List Row} {e : EnumEntry} {entries : List EnumEntry}
      (h : IsEntry c count row e) (hrest : Pass c (count + 10) rows entries) :
      Pass c count (row :: rows) (e :: entries)

section
variable {t : Table} {s : Seed} {fallback : KeyFallback} {row : Row}

open EntryColumns (ofSeed)

theorem tenfold (n : Option Int) : n.getD 1 * 10 = (n.map (10 * ·)).getD 10 := by
  cases n with
  | none => rfl
  | some n => exact Int.mul_comm n 10

theorem sortOrder_eq_ok_iff {running n : Int} :
    sortOrder s (s.keyColumn? t fallback) running row = .ok n ↔
        HasOrder (ofSeed t s fallback) running row n := by
  unfold sortOrder
  cases hplace : s.sortOrderColumn? with
  | some place =>
    constructor
    · intro h
      obtain ⟨m, hm, h⟩ := bind_eq_ok.1 h
      obtain rfl := Except.ok.inj h
      have hheld : HoldsInt (row.cell? (ofSeed t s fallback).order) m := by
        rw [← Row.int?_eq_ok_iff, ← hm, ← hplace]
        rfl
      exact .cell (fun hnone => by cases hplace.symm.trans hnone) hheld
    · rintro (⟨_, h⟩ | ⟨hnone, _⟩)
      · refine bind_eq_ok.2 ⟨_, Row.int?_eq_ok_iff.2 (hplace ▸ h), rfl⟩
      · cases hplace.symm.trans hnone
  | none =>
    constructor
    · intro h
      obtain ⟨m, hm, h⟩ := bind_eq_ok.1 h
      obtain rfl := Except.ok.inj h
      rw [tenfold]
      exact .key hplace (Row.int?_eq_ok_iff.1 hm)
    · rintro (⟨hsome, _⟩ | ⟨_, h⟩)
      · exact (hsome hplace).elim
      · refine bind_eq_ok.2 ⟨_, Row.int?_eq_ok_iff.2 h, ?_⟩
        rw [tenfold]
        rfl

theorem cellOr_cellOr (text : String) (cell : Option String) :
    cellOr (cellOr text cell) cell = cellOr text cell := by
  cases cell with
  | none => rfl
  | some own =>
    unfold cellOr
    simp only
    split
    · rfl
    · rfl

theorem exists_cell {tests : List (String → Prop)} {place : Option Nat}
    (h : Picks s.columnNames tests place)
    (hrow : s.fits row = true) : place = none ∨ ∃ text, row.cell? place = some text := by
  cases place with
  | none => exact .inl rfl
  | some i =>
    have hlt : i < row.length := by
      rw [beq_iff_eq.1 hrow]
      exact h.lt_length
    exact .inr ⟨row[i], List.getElem?_eq_getElem hlt⟩

theorem shows_iff (hrow : s.fits row = true) {text : String} :
    Shows (ofSeed t s fallback) row text ↔ text = cellOr ((ofSeed t s fallback).rawName row)
      (row.cell? (s.displayNameColumn? t.tableName <|> s.systemNameColumn? t.tableName)) := by
  have hcell := exists_cell (EntryColumns.areOf_ofSeed t s fallback).display hrow
  cases hplace : s.displayNameColumn? t.tableName with
  | none =>
    have hraw : cellOr ((ofSeed t s fallback).rawName row) (row.cell? (s.systemNameColumn? t.tableName)) =
      (ofSeed t s fallback).rawName row := cellOr_cellOr _ _
    rw [Option.orElse_eq_orElse, Option.orElse_none, hraw]
    constructor
    · rintro (⟨h, _⟩ | _)
      · cases (congrArg row.cell? hplace).symm.trans h
      · rfl
    · rintro rfl
      exact .name (.inl hplace)
  | some i =>
    obtain ⟨own, hown⟩ := hcell.resolve_left fun hnone => by cases hplace.symm.trans hnone
    have hown' : row.cell? (some i) = some own := (congrArg row.cell? hplace).symm.trans hown
    rw [Option.orElse_eq_orElse, Option.orElse_some, hown']
    by_cases hempty : own = ""
    · subst hempty
      constructor
      · rintro (⟨h, hne⟩ | _)
        · exact (hne (Option.some.inj (hown.symm.trans h)).symm).elim
        · rfl
      · rintro rfl
        exact .name (.inr hown)
    · have htext : cellOr ((ofSeed t s fallback).rawName row) (some own) = own :=
        if_neg (by simpa using hempty)
      rw [htext]
      constructor
      · rintro (⟨h, _⟩ | ⟨hnone | hnil⟩)
        · exact (Option.some.inj (hown.symm.trans h)).symm
        · cases hplace.symm.trans hnone
        · exact (hempty (Option.some.inj (hown.symm.trans hnil))).elim
      · rintro rfl
        exact .cell hown hempty

theorem enumEntry_eq_ok_iff (hrow : s.fits row = true) {running : Int} {e : EnumEntry} :
    enumEntry t s fallback running row = .ok e ↔ IsEntry (ofSeed t s fallback) running row e := by
  unfold enumEntry
  constructor
  · intro h
    obtain ⟨order, horder, h⟩ := bind_eq_ok.1 h
    obtain ⟨value, hvalue, h⟩ := bind_eq_ok.1 h
    obtain rfl := Except.ok.inj h
    exact ⟨rfl, (shows_iff hrow).2 rfl, Row.enumValue_eq_ok_iff.1 hvalue, sortOrder_eq_ok_iff.1 horder⟩
  · intro h
    obtain ⟨name, display, value, order⟩ := e
    refine bind_eq_ok.2 ⟨order, sortOrder_eq_ok_iff.2 h.order, ?_⟩
    refine bind_eq_ok.2 ⟨value, Row.enumValue_eq_ok_iff.2 h.value, ?_⟩
    have hname : name = identifier (some ((ofSeed t s fallback).rawName row)) := h.name
    have hdisplay := (shows_iff hrow).1 h.display
    dsimp only at hdisplay
    rw [hname, hdisplay]
    rfl

theorem entriesFrom_eq_ok_iff {rows : List Row} (hrows : ∀ row ∈ rows, s.fits row = true) {running : Int}
    {entries : List EnumEntry} :
    entriesFrom t s fallback running rows = .ok entries ↔
        Pass (ofSeed t s fallback) running rows entries := by
  induction rows generalizing running entries with
  | nil =>
    constructor
    · rintro ⟨⟩
      exact .nil
    · rintro ⟨⟩
      rfl
  | cons row rows ih =>
    obtain ⟨hrow, hrest⟩ := List.forall_mem_cons.1 hrows
    unfold entriesFrom
    constructor
    · intro h
      obtain ⟨e, he, h⟩ := bind_eq_ok.1 h
      obtain ⟨more, hmore, h⟩ := bind_eq_ok.1 h
      obtain rfl := Except.ok.inj h
      exact .cons ((enumEntry_eq_ok_iff hrow).1 he) ((ih hrest).1 hmore)
    · rintro (_ | ⟨he, hmore⟩)
      exact bind_eq_ok.2 ⟨_, (enumEntry_eq_ok_iff hrow).2 he,
        bind_eq_ok.2 ⟨_, (ih hrest).2 hmore, rfl⟩⟩

end

/-- A pass makes the entry of each row with the count that has grown by ten for every row before it. -/
theorem pass_iff {c : EntryColumns} {count : Int} {rows : List Row} {entries : List EnumEntry} :
    Pass c count rows entries ↔ entries.length = rows.length ∧
      ∀ (k : Nat) row e, rows[k]? = some row → entries[k]? = some e →
          IsEntry c (count + 10 * k) row e := by
  induction rows generalizing count entries with
  | nil =>
    constructor
    · rintro ⟨⟩
      simp
    · rintro ⟨hlength, _⟩
      rw [List.length_eq_zero_iff.1 hlength]
      exact .nil
  | cons row rows ih =>
    have hcount : ∀ k : Nat, count + 10 * ((k + 1 : Nat) : Int) = count + 10 + 10 * k := by
      intro k
      omega
    constructor
    · rintro (_ | ⟨he, hrest⟩)
      obtain ⟨hlength, hall⟩ := ih.1 hrest
      refine ⟨congrArg Nat.succ hlength, ?_⟩
      rintro (_ | k) row' e' hrow' he'
      · obtain rfl := Option.some.inj hrow'
        obtain rfl := Option.some.inj he'
        simpa using he
      · rw [hcount]
        exact hall k row' e' hrow' he'
    · rintro ⟨hlength, hall⟩
      cases entries with
      | nil => cases hlength
      | cons e entries =>
        refine .cons (by simpa using hall 0 row e rfl rfl) (ih.2 ⟨Nat.succ.inj hlength, ?_⟩)
        intro k row' e' hrow' he'
        rw [← hcount]
        exact hall (k + 1) row' e' hrow' he'

/-- The entries of a lookup table. Each is made from the row at its own place among the rows that fit, and the
number that stands in for a sort order is told by that place. -/
theorem enumEntries_eq_ok_iff (t : Table) (s : Seed) (fallback : KeyFallback) (entries : List EnumEntry) :
    ∃ c : EntryColumns, c.AreOf t s.columnNames fallback ∧
      (∀ c' : EntryColumns, c'.AreOf t s.columnNames fallback → c' = c) ∧
      (enumEntries t s fallback = .ok entries ↔ Pass c 10 s.matchingRows entries) ∧
      (enumEntries t s fallback = .ok entries ↔ entries.length = s.matchingRows.length ∧
        ∀ (k : Nat) row e, s.matchingRows[k]? = some row → entries[k]? = some e →
          IsEntry c (10 * (k + 1)) row e) := by
  have hfits : ∀ row ∈ s.matchingRows, s.fits row = true := fun row hrow => (List.mem_filter.1 hrow).2
  have hpass : enumEntries t s fallback = .ok entries ↔
      Pass (EntryColumns.ofSeed t s fallback) 10 s.matchingRows entries :=
    entriesFrom_eq_ok_iff hfits
  have hcount : ∀ k : Nat, (10 + 10 * k : Int) = 10 * (k + 1) := by
    intro k
    omega
  refine ⟨_, EntryColumns.areOf_ofSeed t s fallback, fun _ hc => hc.eq_ofSeed, hpass, ?_⟩
  simp only [hpass, pass_iff, hcount]

/-- A number, a text, a cell too few, no value and a number again stand for the sort order. -/
def stageSeed : Seed where
  schemaName := "dbo"
  tableName := "Stage"
  columnNames := ["StageID", "StageName", "sortorder"]
  rows := [["1", "Draft", " 7 "], ["2", "Sent", "soon"], ["3", "Lost"], ["4", "Done", "NULL"],
    ["5", "", "-3"]]

example : (enumEntries ⟨"dbo", "Stage", [], none⟩ stageSeed .none).map
    (fun entries => entries.map fun e => (e.displayName, e.sortOrder)) =
      .ok [("Draft", 7), ("Sent", 20), ("Done", 30), ("Unknown", -3)] := by decide +kernel

end Code

end SchemaBindings

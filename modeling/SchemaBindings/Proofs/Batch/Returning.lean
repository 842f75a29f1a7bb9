import SchemaBindings.Batch.Generation
import SchemaBindings.Proofs.Text.Numerals

/-!
Which schemas give files. Nothing but the numbers in the rows of seeds keeps a schema from giving them:
a key or a sort order that stands for a number and cannot be read, or a sort order that cannot be written.
-/

namespace SchemaBindings

set_option autoImplicit false

open Text

/-- Whatever stands at the place, it is no number that cannot be read. -/
def Row.Reads (row : Row) (place : Option Nat) : Prop := ∃ n, row.int? place = .ok n

/-- The sort order of the row can be written. A row whose sort column holds no number has the order of
its index, and in a seed without a sort column it is the key's tenfold. -/
def Seed.Orders (s : Seed) (key : Option Nat) (index : Nat) (row : Row) : Prop :=
  match s.sortOrderColumn? with
  | some place => row.Reads (some place) ∧
    (row.int? (some place) = .ok none → Numeral.Writable (10 * (index + 1) : Nat))
  | none => row.Reads key ∧ ∀ n, row.int? key = .ok (some n) → Numeral.Writable (n * 10)

/-- The numbers that the files need from the row at the index. -/
structure Row.Usable (t : Table) (s : Seed) (fallback : KeyFallback) (index : Nat) (row : Row) : Prop where
  key : row.Reads (s.keyColumn? t fallback)
  order : s.Orders (s.keyColumn? t fallback) index row

variable {t : Table} {s : Seed} {fallback : KeyFallback} {row : Row} {key : Option Nat} {index : Nat}

theorem Row.writable_of_int? {place : Option Nat} {n : Int} (h : row.int? place = .ok (some n)) :
    Numeral.Writable n := by
  unfold int? at h
  split at h
  · exact Numeral.writable_of_read? h
  · cases h

theorem Row.enumValue_returns : (∃ v, row.enumValue key = .ok v) ↔ row.Reads key := by
  unfold enumValue
  constructor
  · rintro ⟨v, h⟩
    obtain ⟨n, hn, _⟩ := bind_eq_ok.1 h
    exact ⟨n, hn⟩
  · rintro ⟨n, hn⟩
    cases n with
    | none => exact ⟨"0", bind_eq_ok.2 ⟨none, hn, rfl⟩⟩
    | some n =>
      obtain ⟨text, htext⟩ := Numeral.write_returns.2 (writable_of_int? hn)
      exact ⟨text, bind_eq_ok.2 ⟨some n, hn, htext⟩⟩

theorem Code.sortOrder_returns :
    (∃ n, Code.sortOrder s key (10 * (index + 1) : Nat) row = .ok n ∧ Numeral.Writable n) ↔
      s.Orders key index row := by
  unfold sortOrder Seed.Orders
  cases s.sortOrderColumn? with
  | some place =>
    constructor
    · rintro ⟨n, h, hn⟩
      obtain ⟨m, hm, h⟩ := bind_eq_ok.1 h
      cases h
      refine ⟨⟨m, hm⟩, fun hnone => ?_⟩
      rw [hm] at hnone
      cases hnone
      exact hn
    · rintro ⟨⟨m, hm⟩, hnone⟩
      refine ⟨_, bind_eq_ok.2 ⟨m, hm, rfl⟩, ?_⟩
      cases m with
      | none => exact hnone hm
      | some n => exact Row.writable_of_int? hm
  | none =>
    constructor
    · rintro ⟨n, h, hn⟩
      obtain ⟨m, hm, h⟩ := bind_eq_ok.1 h
      cases h
      refine ⟨⟨m, hm⟩, fun n hsome => ?_⟩
      rw [hm] at hsome
      cases hsome
      exact hn
    · rintro ⟨⟨m, hm⟩, hsome⟩
      refine ⟨_, bind_eq_ok.2 ⟨m, hm, rfl⟩, ?_⟩
      cases m with
      | none => exact Numeral.writable_ten
      | some n => exact hsome n hm

theorem Code.recordLine_returns {e : Code.EnumEntry} :
    (∃ line, Code.recordLine e = .ok line) ↔ Numeral.Writable e.sortOrder := by
  rw [← Numeral.write_returns]
  unfold recordLine
  constructor
  · rintro ⟨line, h⟩
    obtain ⟨order, horder, _⟩ := bind_eq_ok.1 h
    exact ⟨order, horder⟩
  · rintro ⟨order, horder⟩
    rw [horder]
    exact ⟨_, rfl⟩

theorem Code.enumEntry_returns :
    (∃ e, Code.enumEntry t s fallback (10 * (index + 1) : Nat) row = .ok e ∧
      ∃ line, Code.recordLine e = .ok line) ↔ row.Usable t s fallback index := by
  unfold enumEntry
  constructor
  · rintro ⟨e, h, hline⟩
    obtain ⟨order, horder, h⟩ := bind_eq_ok.1 h
    obtain ⟨value, hvalue, h⟩ := bind_eq_ok.1 h
    cases h
    exact ⟨Row.enumValue_returns.1 ⟨value, hvalue⟩,
      sortOrder_returns.1 ⟨order, horder, recordLine_returns.1 hline⟩⟩
  · rintro ⟨hkey, horders⟩
    obtain ⟨order, horder, hwritable⟩ := sortOrder_returns.2 horders
    obtain ⟨value, hvalue⟩ := Row.enumValue_returns.2 hkey
    simp only [horder, hvalue]
    exact ⟨_, rfl, recordLine_returns.2 hwritable⟩

theorem Code.enumModule_returns : (∃ text, Code.enumModule t s fallback = .ok text) ↔
    ∀ x ∈ s.matchingRows.zipIdx, x.1.Usable t s fallback x.2 := by
  have hrows : (∃ entries, Code.enumEntries t s fallback = .ok entries ∧
      ∃ records, entries.mapM Code.recordLine = .ok records) ↔
      ∀ x ∈ s.matchingRows.zipIdx, x.1.Usable t s fallback x.2 := by
    simp only [← enumEntry_returns, enumEntries_eq_mapM]
    exact exists_mapM_mapM_eq_ok
  rw [← hrows]
  unfold enumModule enumModuleLines
  constructor
  · rintro ⟨text, h⟩
    obtain ⟨entries, hentries, h⟩ := bind_eq_ok.1 h
    obtain ⟨lines, hlines, _⟩ := bind_eq_ok.1 h
    obtain ⟨records, hrecords, _⟩ := bind_eq_ok.1 hlines
    exact ⟨entries, hentries, records, hrecords⟩
  · rintro ⟨entries, hentries, records, hrecords⟩
    exact ⟨_, bind_eq_ok.2 ⟨entries, hentries,
      bind_eq_ok.2 ⟨_, bind_eq_ok.2 ⟨records, hrecords, rfl⟩, rfl⟩⟩⟩

theorem Code.lookupBinding_returns {nameSpace : String} {lookups tables : NameSet} :
    (∃ text, Code.lookupBinding t s nameSpace lookups tables fallback = .ok text) ↔
      ∀ row ∈ s.matchingRows, row.Reads (s.keyColumn? t fallback) := by
  have hrow : ∀ row : Row, (∃ i, Code.instanceOf t s fallback row = .ok i) ↔
      row.Reads (s.keyColumn? t fallback) := by
    intro row
    rw [← Row.enumValue_returns]
    unfold instanceOf
    constructor
    · rintro ⟨i, h⟩
      obtain ⟨value, hvalue, _⟩ := bind_eq_ok.1 h
      exact ⟨value, hvalue⟩
    · rintro ⟨value, hvalue⟩
      rw [hvalue]
      exact ⟨_, rfl⟩
  simp only [← hrow]
  rw [← exists_mapM_eq_ok]
  unfold lookupBinding lookupClass
  constructor
  · rintro ⟨text, h⟩
    obtain ⟨c, hc, _⟩ := bind_eq_ok.1 h
    obtain ⟨instances, hinstances, _⟩ := bind_eq_ok.1 hc
    exact ⟨instances, hinstances⟩
  · rintro ⟨instances, hinstances⟩
    rw [hinstances]
    exact ⟨_, rfl⟩

/-- The binding needs no number that the script does not need too. -/
theorem lookupResult_returns {sur : Surroundings} {seed : SourcedSeed} :
    (∃ r, lookupResult sur t seed = .ok r) ↔
      ∀ x ∈ seed.seed.matchingRows.zipIdx, x.1.Usable t seed.seed sur.settings.keyFallback x.2 := by
  rw [← Code.enumModule_returns]
  unfold lookupResult
  constructor
  · rintro ⟨r, h⟩
    obtain ⟨binding, _, h⟩ := bind_eq_ok.1 h
    obtain ⟨script, hscript, _⟩ := bind_eq_ok.1 h
    exact ⟨script, hscript⟩
  · rintro ⟨script, hscript⟩
    have husable := Code.enumModule_returns.1 ⟨script, hscript⟩
    obtain ⟨binding, hbinding⟩ : ∃ binding, Code.lookupBinding t seed.seed sur.settings.nameSpace
        sur.lookups sur.tables sur.settings.keyFallback = .ok binding := by
      refine Code.lookupBinding_returns.2 fun row hrow => ?_
      obtain ⟨index, hindex⟩ := List.mem_iff_getElem?.1 hrow
      exact (husable (row, index) (List.mem_zipIdx_iff_getElem?.2 hindex)).key
    simp only [hbinding, hscript]
    exact ⟨_, rfl⟩

/-- A schema gives files exactly when every row that goes into a file has its numbers. -/
theorem generate_returns (p : ParsedSchema) (settings : Settings) :
    (∃ g, generate p settings none = .ok (some (g, none))) ↔
      ∀ t seed, (t, Fate.kept) ∈ fates settings p.tables → p.seedFor? t.tableName = some seed →
        ∀ x ∈ seed.seed.matchingRows.zipIdx, x.1.Usable t seed.seed settings.keyFallback x.2 := by
  have hresults : (∃ g, generate p settings none = .ok (some (g, none))) ↔
      ∃ results, (fates settings p.tables).mapM (tableResult (p.surroundings settings)) = .ok results := by
    unfold generate
    constructor
    · rintro ⟨g, h⟩
      obtain ⟨results, h, _⟩ := bind_eq_ok.1 h
      exact ⟨results, h⟩
    · rintro ⟨results, h⟩
      refine ⟨.assemble p results, bind_eq_ok.2 ⟨results, h, rfl⟩⟩
  rw [hresults, exists_mapM_eq_ok]
  constructor
  · intro h t seed hkept hseed
    obtain ⟨r, hr⟩ := h _ hkept
    have hfind : findSeed? (p.surroundings settings).seeds t.tableName = some seed := hseed
    simp only [tableResult, hfind] at hr
    exact lookupResult_returns.1 ⟨r, hr⟩
  · rintro h ⟨t, fate⟩ hmem
    cases fate with
    | excluded => exact ⟨_, rfl⟩
    | duplicate => exact ⟨_, rfl⟩
    | kept =>
      cases hfind : findSeed? (p.surroundings settings).seeds t.tableName with
      | none =>
        simp only [tableResult, hfind]
        exact ⟨_, rfl⟩
      | some seed =>
        simp only [tableResult, hfind]
        exact lookupResult_returns.2 (h t seed hmem hfind)

/-- A separator in front of a key keeps the whole schema from giving files. -/
def separatedScripts : List Source × List Source :=
  ([⟨"Kind.sql", "CREATE TABLE dbo.Kind (KindID int)"⟩],
    [⟨"Kinds.sql", "MERGE INTO dbo.Kind AS t USING (VALUES ('\u001c7', 'One')) AS s (KindID, KindName)"⟩])

theorem generate_separatedScripts : ∃ p, (ParsedSchema.ofSources none none separatedScripts.1
    separatedScripts.2).1 = some (p, none) ∧ ∃ e, generate p {} none = .error e := by
  refine ⟨_, rfl, .separated "\u001c7", ?_⟩
  decide +kernel

end SchemaBindings

import SchemaBindings.Proofs.Reference.BestMatch
import SchemaBindings.Proofs.Reference.NameOrder

/-!
The rules by which a column refers to a lookup table, and that resolving follows them: what it gives meets
the rules, and it gives something whenever any table meets them. An exactly named lookup table is the one
resolved unless a longer name is linked to the property as well. Then the longer one is the best match, and
it is dropped, for the property has the name of another table.
-/

namespace SchemaBindings

set_option autoImplicit false

open Text (lower sameIgnoringCase upperChars)

section
variable {s : NameSet} {name n : String}

theorem NameSet.canonical?_eq_some_iff :
    s.canonical? name = some n ↔ n ∈ s.spellings ∧ lower n = lower name := by
  have hfind := find?_eq_some_of_nodup (f := id) (a := n) s.distinct (k := name)
  rw [sameIgnoringCase, beq_iff_eq] at hfind
  exact hfind

theorem NameSet.eq_of_lower_eq {m : String} (hm : m ∈ s.spellings) (hn : n ∈ s.spellings)
    (h : lower m = lower n) : m = n :=
  List.inj_on_of_nodup_map s.distinct hm hn h

end

namespace Reference

/-- The property that a column's name gives: what stands before its last two characters, where its capital
form ends in `ID`. -/
structure IsProperty (column property : String) : Prop where
  ne_empty : property ≠ ""
  split : ∃ suffix : List Char, suffix.length = 2 ∧ column.toList = property.toList ++ suffix
  id : "ID".toList <:+ upperChars column.toList

/-- How the name of a table can be linked to a property, ignoring case: they are the same, one ends with the
other, or the property starts with the table's name and goes on. -/
def Linked (property table : String) : Prop :=
  let p := (lower property).toList
  let t := (lower table).toList
  p = t ∨ t <:+ p ∨ p <:+ t ∨ t.length < p.length ∧ t <+: p

/-- The reference in a column's definition names a lookup table; an empty one names none. -/
def Names (lookups : NameSet) (explicit : Option String) (table : String) : Prop :=
  table ∈ lookups.spellings ∧ ∃ name ∈ explicit, name ≠ "" ∧ lower table = lower name

/-- A lookup table that is linked to the property, none with a longer name being so. -/
structure LongestLinked (lookups : NameSet) (property table : String) : Prop where
  mem : table ∈ lookups.spellings
  linked : Linked property table
  longest : ∀ other ∈ lookups.spellings, Linked property other → other.length ≤ table.length

/-- By its name and the reference in its definition, a column refers to a lookup table. -/
structure Refers (column : String) (lookups tables : NameSet) (explicit : Option String)
    (property table : String) : Prop where
  named : IsProperty column property
  target : Names lookups explicit table ∨
    (∀ other, ¬ Names lookups explicit other) ∧ LongestLinked lookups property table
  /-- No other table has the name of the property. -/
  free : lower table = lower property ∨ ∀ other ∈ tables.spellings, lower other ≠ lower property

section
variable {column property table best : String} {lookups tables : NameSet} {explicit : Option String}

theorem propertyName?_eq_some_iff : propertyName? column = some property ↔ IsProperty column property := by
  unfold propertyName?
  constructor
  · intro h
    dsimp only at h
    split at h
    · cases h
    · rename_i hid
      obtain rfl := Option.some.inj h
      simp only [not_or, not_le, Bool.not_eq_true, Bool.not_eq_false', List.isSuffixOf_iff_suffix] at hid
      refine ⟨?_, ⟨column.toList.drop (column.toList.length - 2), ?_, ?_⟩, hid.2⟩
      · intro hempty
        have hlength := congrArg String.length hempty
        simp only [String.length_ofList, List.length_take, String.length_empty] at hlength
        omega
      · rw [List.length_drop]
        omega
      · rw [String.toList_ofList, List.take_append_drop]
  · rintro ⟨hne, ⟨suffix, hlength, hsplit⟩, hid⟩
    have hproperty : 0 < property.toList.length := by
      rw [List.length_pos_iff]
      exact fun hnil => hne (String.toList_inj.1 hnil)
    rw [if_neg]
    · rw [hsplit, List.length_append, hlength, Nat.add_sub_cancel, List.take_left, String.ofList_toList]
    · rw [List.isSuffixOf_iff_suffix.2 hid, hsplit, List.length_append, hlength]
      simp only [Bool.not_true, Bool.false_eq_true, or_false]
      omega

theorem isProperty_append_id {other : String} :
    IsProperty (property ++ "ID") other ↔ other = property ∧ property ≠ "" := by
  constructor
  · rintro ⟨hne, ⟨suffix, hlength, hsplit⟩, _⟩
    rw [String.toList_append] at hsplit
    obtain rfl := String.toList_inj.1 (List.append_inj_left' hsplit hlength.symm)
    exact ⟨rfl, hne⟩
  · rintro ⟨rfl, hne⟩
    refine ⟨hne, ⟨"ID".toList, rfl, String.toList_append⟩, ?_⟩
    rw [String.toList_append, Text.upperChars_append]
    exact List.suffix_append _ _

theorem isSome_fit? : (fit? property table).isSome = true ↔ Linked property table := by
  unfold fit? Linked
  dsimp only
  split_ifs with h₁ h₂ h₃ h₄
  all_goals simp_all [List.isSuffixOf_iff_suffix, List.isPrefixOf_iff_prefix]

instance (property table : String) : Decidable (Linked property table) :=
  decidable_of_iff _ isSome_fit?

theorem Fit.rank_le_exact (f : Fit) : f.rank ≤ Fit.exact.rank := by
  cases f <;> decide

theorem fit?_eq_exact_iff : fit? property table = some .exact ↔ lower property = lower table := by
  rw [← String.toList_inj]
  unfold fit?
  dsimp only
  split_ifs <;> simp_all

/-- The table that the reference names, if it is a lookup table. -/
def named? (lookups : NameSet) (explicit : Option String) : Option String :=
  (explicit.filter (!·.isEmpty)).bind lookups.canonical?

theorem named?_eq_some_iff : named? lookups explicit = some table ↔ Names lookups explicit table := by
  unfold named?
  rw [Option.bind_eq_some_iff]
  simp only [NameSet.canonical?_eq_some_iff, Option.filter_eq_some_iff]
  constructor
  · rintro ⟨name, ⟨hname, hne⟩, hmem, hlower⟩
    refine ⟨hmem, name, hname, ?_, hlower⟩
    rintro rfl
    cases hne
  · rintro ⟨hmem, name, hname, hne, hlower⟩
    refine ⟨name, ⟨hname, ?_⟩, hmem, hlower⟩
    simpa using hne

theorem named?_eq_none_iff : named? lookups explicit = none ↔
      ∀ other, ¬ Names lookups explicit other := by
  rw [Option.eq_none_iff_forall_ne_some]
  simp only [ne_eq, named?_eq_some_iff]

/-- A table is found by the reference or else by the property, and is dropped if another table has the name
of the property. -/
theorem resolve?_eq (column : String) (lookups tables : NameSet) (explicit : Option String) :
    resolve? column lookups tables explicit = (propertyName? column).bind fun property =>
      ((named? lookups explicit).or (bestMatch? property lookups.spellings)).filter fun table =>
        sameIgnoringCase property table || !tables.contains property := by
  unfold resolve? named?
  simp only [Option.bind_eq_bind, Option.orElse_eq_orElse, Option.orElse_eq_or, bestMatch?_toList]
  refine congrArg _ (funext fun property => ?_)
  generalize Option.or _ _ = found
  cases found with
  | none => rfl
  | some table =>
    rw [Option.bind_some, Option.filter_some]
    cases sameIgnoringCase property table <;> cases tables.contains property <;> rfl

theorem resolve?_eq_some_iff : resolve? column lookups tables explicit = some table ↔
    ∃ property, IsProperty column property ∧
      (named? lookups explicit).or (bestMatch? property lookups.spellings) = some table ∧
      (lower table = lower property ∨ ∀ other ∈ tables.spellings, lower other ≠ lower property) := by
  have hkept : ∀ property : String,
      (sameIgnoringCase property table || !tables.contains property) = true ↔
      lower table = lower property ∨ ∀ other ∈ tables.spellings, lower other ≠ lower property := by
    intro property
    rw [Bool.or_eq_true, Bool.not_eq_true', ← Bool.not_eq_true, NameSet.contains_iff, sameIgnoringCase,
      beq_iff_eq, eq_comm]
    push Not
    rfl
  simp only [resolve?_eq, Option.bind_eq_some_iff, propertyName?_eq_some_iff,
    Option.filter_eq_some_iff, hkept]

theorem longestLinked_of_bestMatch? (h : bestMatch? property lookups.spellings = some best) :
    LongestLinked lookups property best := by
  obtain ⟨fit, hmem, hfit, hgreatest⟩ := key_le_of_bestMatch? h
  refine ⟨hmem, isSome_fit?.1 (Option.isSome_of_eq_some hfit), ?_⟩
  intro other hother hlinked
  obtain ⟨g, hg⟩ := Option.isSome_iff_exists.1 (isSome_fit?.2 hlinked)
  have hkey := hgreatest other hother g hg
  rcases Prod.Lex.toLex_le_toLex.1 hkey with hshorter | ⟨hsame, _⟩
  · exact Nat.le_of_lt hshorter
  · exact Nat.le_of_eq hsame

/-- No fit is as close as the exact one, so a lookup table that has the name of the property loses to a
longer name only. -/
theorem lower_eq_of_bestMatch? (h : bestMatch? property lookups.spellings = some best)
    (hmem : table ∈ lookups.spellings) (hexact : lower table = lower property)
    (hlength : best.length ≤ table.length) : lower best = lower property := by
  obtain ⟨fit, _, hfit, hgreatest⟩ := key_le_of_bestMatch? h
  have hkey := hgreatest table hmem .exact (fit?_eq_exact_iff.2 hexact.symm)
  rcases Prod.Lex.toLex_le_toLex.1 hkey with hshorter | ⟨_, hrest⟩
  · exact (Nat.not_lt.2 hlength hshorter).elim
  have hrank : fit.rank = Fit.exact.rank := by
    rcases Prod.Lex.toLex_le_toLex.1 hrest with hweaker | ⟨hsame, _⟩
    · exact (Nat.not_lt.2 fit.rank_le_exact hweaker).elim
    · exact hsame.symm
  obtain rfl := Fit.rank_injective hrank
  exact (fit?_eq_exact_iff.1 hfit).symm

theorem exists_bestMatch? (hmem : table ∈ lookups.spellings) (hlinked : Linked property table) :
    ∃ best, bestMatch? property lookups.spellings = some best := by
  rw [← Option.ne_none_iff_exists']
  intro hnone
  have hfit := bestMatch?_eq_none_iff.1 hnone table hmem
  rw [← isSome_fit?, hfit] at hlinked
  cases hlinked

theorem refers_of_resolve? (h : resolve? column lookups tables explicit = some table) :
    ∃ property, Refers column lookups tables explicit property table := by
  obtain ⟨property, hproperty, hfound, hfree⟩ := resolve?_eq_some_iff.1 h
  refine ⟨property, hproperty, ?_, hfree⟩
  rcases Option.or_eq_some_iff.1 hfound with hnamed | ⟨hnone, hbest⟩
  · exact .inl (named?_eq_some_iff.1 hnamed)
  · exact .inr ⟨named?_eq_none_iff.1 hnone, longestLinked_of_bestMatch? hbest⟩

theorem exists_resolve?_of_refers (h : Refers column lookups tables explicit property table) :
    ∃ found, resolve? column lookups tables explicit = some found := by
  rcases h.target with hnamed | ⟨hnone, hlongest⟩
  · refine ⟨table, resolve?_eq_some_iff.2 ⟨property, h.named, ?_, h.free⟩⟩
    exact Option.or_eq_some_iff.2 (.inl (named?_eq_some_iff.2 hnamed))
  · obtain ⟨best, hbest⟩ := exists_bestMatch? hlongest.mem hlongest.linked
    refine ⟨best, resolve?_eq_some_iff.2 ⟨property, h.named, ?_, ?_⟩⟩
    · exact Option.or_eq_some_iff.2 (.inr ⟨named?_eq_none_iff.2 hnone, hbest⟩)
    · refine h.free.imp_left fun hexact => ?_
      have hlinked := longestLinked_of_bestMatch? hbest
      exact lower_eq_of_bestMatch? hbest hlongest.mem hexact
        (hlongest.longest best hlinked.mem hlinked.linked)

end

theorem forall₂_filter_filterMap {α β : Type} (f : α → Option β) (l : List α) :
    List.Forall₂ (fun a b => f a = some b) (l.filter fun a => (f a).isSome) (l.filterMap f) := by
  induction l with
  | nil => exact .nil
  | cons a rest ih =>
    cases h : f a with
    | none => simpa [h] using ih
    | some b => simpa [h] using ih

theorem isSome_navigation? {key : String} {lookups tables : NameSet} (c : Column) :
    (navigation? key lookups tables c).isSome =
      decide (lower c.name ≠ lower key ∧
        (resolve? c.name lookups tables c.referencesTable).isSome = true) := by
  rw [Bool.eq_iff_iff, decide_eq_true_iff]
  simp only [Option.isSome_iff_exists, navigation?_eq_some_iff]
  constructor
  · rintro ⟨n, hkey, _, _, _, hresolved⟩
    exact ⟨hkey, n.referencedTable, hresolved⟩
  · rintro ⟨hkey, table, hresolved⟩
    obtain ⟨property, hproperty, _⟩ := resolve?_eq_some_iff.1 hresolved
    exact ⟨⟨property, c.name, table, c.nullable⟩, hkey, rfl, rfl, propertyName?_eq_some_iff.2 hproperty,
      hresolved⟩

/-- Resolving gives only what the rules allow, and it gives nothing only where they allow nothing. The
navigation properties are those of the columns that resolve, the key left out, in the order of the columns. -/
theorem resolve?_by_rules (column : String) (lookups tables : NameSet) (explicit : Option String)
    (columns : List Column) (key : String) :
    (∀ table, resolve? column lookups tables explicit = some table →
      ∃ property, Refers column lookups tables explicit property table) ∧
    (resolve? column lookups tables explicit = none →
      ∀ property table, ¬ Refers column lookups tables explicit property table) ∧
    List.Forall₂ (fun (c : Column) (n : Navigation) =>
        n.columnName = c.name ∧ n.nullable = c.nullable ∧ IsProperty c.name n.propertyName ∧
        resolve? c.name lookups tables c.referencesTable = some n.referencedTable)
      (columns.filter fun c =>
        lower c.name ≠ lower key ∧ (resolve? c.name lookups tables c.referencesTable).isSome = true)
      (navigations columns key lookups tables) := by
  refine ⟨fun _ => refers_of_resolve?, ?_, ?_⟩
  · intro hnone property table hrefers
    obtain ⟨found, hfound⟩ := exists_resolve?_of_refers hrefers
    rw [hnone] at hfound
    cases hfound
  · have hpairs := forall₂_filter_filterMap (navigation? key lookups tables) columns
    simp only [isSome_navigation?] at hpairs
    refine hpairs.imp fun c n hn => ?_
    obtain ⟨_, hcolumn, hnullable, hproperty, hresolved⟩ := navigation?_eq_some_iff.1 hn
    exact ⟨hcolumn, hnullable, propertyName?_eq_some_iff.1 hproperty, hresolved⟩

/-- An empty reference names nothing, not even a lookup table with an empty name. -/
theorem resolve?_emptyReference :
    (NameSet.ofList ["", "Status"]).canonical? "" = some "" ∧
    resolve? "StatusID" (NameSet.ofList ["", "Status"]) (NameSet.ofList []) (some "") = some "Status" := by
  rw [resolve?_eq]
  decide +kernel

section
variable {property table : String} {lookups tables : NameSet} {explicit : Option String}

/-- A column that is named exactly after a lookup table can refer to that one only. -/
theorem refers_append_id_iff (hmem : table ∈ lookups.spellings) (hexact : lower property = lower table)
    (hexplicit : ∀ other, ¬ Names lookups explicit other)
    (htables : ∀ l ∈ lookups.spellings, tables.contains l = true) {other found : String} :
    Refers (property ++ "ID") lookups tables explicit other found ↔
      (other = property ∧ property ≠ "") ∧ found = table ∧
        ∀ l ∈ lookups.spellings, Linked property l → l.length ≤ table.length := by
  constructor
  · rintro ⟨hproperty, htarget, hfree⟩
    obtain ⟨rfl, hne⟩ := isProperty_append_id.1 hproperty
    obtain hnamed | ⟨_, hlongest⟩ := htarget
    · exact (hexplicit found hnamed).elim
    obtain hsame | hfree := hfree
    · obtain rfl := NameSet.eq_of_lower_eq hlongest.mem hmem (hsame.trans hexact)
      exact ⟨⟨rfl, hne⟩, rfl, hlongest.longest⟩
    · obtain ⟨t, ht, hlower⟩ := NameSet.contains_iff.1 (htables table hmem)
      exact (hfree t ht (hlower.trans hexact.symm)).elim
  · rintro ⟨⟨rfl, hne⟩, rfl, hlongest⟩
    refine ⟨isProperty_append_id.2 ⟨rfl, hne⟩, .inr ⟨hexplicit, hmem, ?_, hlongest⟩,
      .inl hexact.symm⟩
    exact .inl (congrArg String.toList hexact)

/-- A column that is named exactly after a lookup table refers to it, unless a lookup table with a longer
name is linked to the property; then it refers to none. -/
theorem resolve?_exactlyNamed (hmem : table ∈ lookups.spellings) (hexact : lower property = lower table)
    (hexplicit : ∀ other, ¬ Names lookups explicit other)
    (htables : ∀ l ∈ lookups.spellings, tables.contains l = true) :
    resolve? (property ++ "ID") lookups tables explicit =
      if property ≠ "" ∧ ∀ l ∈ lookups.spellings, Linked property l → l.length ≤ table.length
      then some table else none := by
  have hrefers : ∀ {other found}, Refers (property ++ "ID") lookups tables explicit other found ↔ _ :=
    refers_append_id_iff hmem hexact hexplicit htables
  split
  · rename_i h
    obtain ⟨found, hfound⟩ := exists_resolve?_of_refers (hrefers.2 ⟨⟨rfl, h.1⟩, rfl, h.2⟩)
    obtain ⟨other, hother⟩ := refers_of_resolve? hfound
    obtain ⟨_, rfl, _⟩ := hrefers.1 hother
    exact hfound
  · rename_i h
    rw [Option.eq_none_iff_forall_ne_some]
    intro found hfound
    obtain ⟨other, hother⟩ := refers_of_resolve? hfound
    obtain ⟨⟨_, hne⟩, _, hlongest⟩ := hrefers.1 hother
    exact h ⟨hne, hlongest⟩

end

theorem resolve?_type_among_kinds :
    "Type" ∈ (NameSet.ofList ["Kind", "Type"]).spellings ∧ lower "type" = lower "Type" ∧
    (∀ other, ¬ Names (NameSet.ofList ["Kind", "Type"]) (some "Project") other) ∧
    (∀ l ∈ (NameSet.ofList ["Kind", "Type"]).spellings,
      (NameSet.ofList ["Project", "Type", "Kind"]).contains l = true) ∧
    resolve? ("type" ++ "ID") (NameSet.ofList ["Kind", "Type"]) (NameSet.ofList ["Project", "Type", "Kind"])
      (some "Project") = some "Type" := by
  have hmem : "Type" ∈ (NameSet.ofList ["Kind", "Type"]).spellings := by decide +kernel
  have hexact : lower "type" = lower "Type" := by decide +kernel
  have hexplicit : ∀ other, ¬ Names (NameSet.ofList ["Kind", "Type"]) (some "Project") other :=
    named?_eq_none_iff.1 (by decide +kernel)
  have htables : ∀ l ∈ (NameSet.ofList ["Kind", "Type"]).spellings,
      (NameSet.ofList ["Project", "Type", "Kind"]).contains l = true := by decide +kernel
  refine ⟨hmem, hexact, hexplicit, htables, ?_⟩
  rw [resolve?_exactlyNamed hmem hexact hexplicit htables, if_pos (by decide +kernel)]

/-- The longer name is linked, and dropped because of the table that has the name of the property. -/
theorem resolve?_type_among_types :
    "Type" ∈ (NameSet.ofList ["Type", "ProjectType"]).spellings ∧
    resolve? ("Type" ++ "ID") (NameSet.ofList ["Type", "ProjectType"])
      (NameSet.ofList ["Type", "ProjectType"]) none = none ∧
    "" ∈ (NameSet.ofList [""]).spellings ∧
    resolve? ("" ++ "ID") (NameSet.ofList [""]) (NameSet.ofList [""]) none = none := by
  rw [resolve?_eq, resolve?_eq]
  decide +kernel

end Reference

end SchemaBindings

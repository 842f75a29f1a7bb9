import SchemaBindings.Proofs.Code.Identifiers

/-!
When the members of an enumeration have names of their own. A name keeps only some characters of its
text, has an underscore in front of a digit, and is a placeholder where nothing is kept, so that
different texts may give one name. They do so in three ways only, and the members of both enumerations
are distinct exactly if no two rows meet in one of them.
-/

namespace SchemaBindings.Code

set_option autoImplicit false

open Text

/-- What is kept of one text makes the name that is kept, as it is, of another. -/
inductive StandsFor : List Char → List Char → Prop
  | digit {c : Char} (rest : List Char) (h : isDigit c = true) : StandsFor (c :: rest) ('_' :: c :: rest)
  | nothing : StandsFor [] placeholder.toList

/-- Two texts that give one name. -/
def Meet (text other : Option String) : Prop :=
  keptChars text = keptChars other ∨ StandsFor (keptChars text) (keptChars other) ∨
    StandsFor (keptChars other) (keptChars text)

section
variable {a b : List Char}

theorem spelled_cases (kept : List Char) : spelled kept = kept ∨ StandsFor kept (spelled kept) := by
  cases kept with
  | nil => exact .inr .nothing
  | cons c rest =>
    cases hc : isDigit c with
    | true =>
      rw [spelled_of_isDigit hc]
      exact .inr (.digit rest hc)
    | false => exact .inl (spelled_of_not_isDigit hc rest)

theorem StandsFor.spelled_eq (h : StandsFor a b) : spelled a = b ∧ spelled b = b := by
  cases h with
  | digit rest h =>
    constructor
    · exact spelled_of_isDigit h rest
    · exact spelled_of_not_isDigit (by decide) _
  | nothing =>
    constructor
    · rfl
    · decide

/-- No two texts of which other things are kept stand for one and the same. -/
theorem StandsFor.left_unique {kept other : List Char} (h : StandsFor kept b) (h' : StandsFor other b) :
    kept = other := by
  cases h with
  | digit rest h =>
    generalize hb : '_' :: _ = b at h'
    cases h' with
    | digit rest' h' => exact (List.cons.inj hb).2
    | nothing => exact absurd (List.cons.inj hb).1 (by decide)
  | nothing =>
    generalize hb : placeholder.toList = b at h'
    cases h' with
    | digit rest' h' =>
      have hfirst := congrArg List.head? hb
      exact absurd (Option.some.inj hfirst) (by decide)
    | nothing => rfl

theorem spelled_eq_iff : spelled a = spelled b ↔ a = b ∨ StandsFor a b ∨ StandsFor b a := by
  constructor
  · intro h
    rcases spelled_cases a with ha | ha
    · rcases spelled_cases b with hb | hb
      · exact .inl (ha.symm.trans (h.trans hb))
      · rw [← h, ha] at hb
        exact .inr (.inr hb)
    · rcases spelled_cases b with hb | hb
      · rw [h, hb] at ha
        exact .inr (.inl ha)
      · rw [h] at ha
        exact .inl (ha.left_unique hb)
  · rintro (rfl | h | h)
    · rfl
    · exact h.spelled_eq.1.trans h.spelled_eq.2.symm
    · exact h.spelled_eq.2.trans h.spelled_eq.1.symm

end

theorem identifier_eq_iff {text other : Option String} :
    identifier text = identifier other ↔ Meet text other := by
  rw [← String.toList_inj, toList_identifier, toList_identifier]
  exact spelled_eq_iff

instance (text other : Option String) : Decidable (Meet text other) := decidable_of_iff _ identifier_eq_iff

section
variable {t : Table} {s : Seed} {fallback : KeyFallback} {rows : List Row} {members : List (String × String)}

theorem map_fst_members (h : List.Forall₂ (IsMember t s fallback) rows members) :
    members.map Prod.fst = rows.map fun row => identifier (s.systemName? t row) := by
  induction h with
  | nil => rfl
  | cons hm _ ih => rw [List.map_cons, List.map_cons, ih, hm.name, Seed.systemName?]

theorem nodup_members_iff (h : List.Forall₂ (IsMember t s fallback) rows members) :
    (members.map Prod.fst).Nodup ↔
      rows.Pairwise fun row other => ¬ Meet (s.systemName? t row) (s.systemName? t other) := by
  rw [map_fst_members h, List.Nodup, List.pairwise_map]
  apply List.Pairwise.iff
  intro row other
  exact not_congr identifier_eq_iff

end

/-- Both enumerations have a member for each row that fits, and the members have distinct names exactly if the
names of no two of these rows meet. -/
theorem nodup_members (t : Table) (s : Seed) (nameSpace : String) (lookups tables : NameSet)
    (fallback : KeyFallback) :
    (∀ binding, lookupBinding t s nameSpace lookups tables fallback = .ok binding →
      ∃ members, EnumLayout.csharp.Holds t.tableName members binding ∧
        List.Forall₂ (IsMember t s fallback) s.matchingRows members ∧
        ((members.map Prod.fst).Nodup ↔
          s.matchingRows.Pairwise fun row other => ¬ Meet (s.systemName? t row) (s.systemName? t other))) ∧
    (∀ script, enumModule t s fallback = .ok script →
      ∃ members, EnumLayout.typeScript.Holds t.tableName members script ∧
        List.Forall₂ (IsMember t s fallback) s.matchingRows members ∧
        ((members.map Prod.fst).Nodup ↔
          s.matchingRows.Pairwise fun row other => ¬ Meet (s.systemName? t row)
            (s.systemName? t other))) := by
  constructor
  · intro binding hbinding
    obtain ⟨members, hholds, hmembers⟩ := members_lookupBinding hbinding
    exact ⟨members, hholds, hmembers, nodup_members_iff hmembers⟩
  · intro script hscript
    obtain ⟨members, hholds, hmembers⟩ := members_enumModule hscript
    exact ⟨members, hholds, hmembers, nodup_members_iff hmembers⟩

theorem nodup_members_sizeSeed : ∃ binding script members members',
    lookupBinding sizeTable sizeSeed "Acme" .empty .empty .firstColumn = .ok binding ∧
    EnumLayout.csharp.Holds sizeTable.tableName members binding ∧ (members.map Prod.fst).Nodup ∧
    enumModule sizeTable sizeSeed .firstColumn = .ok script ∧
    EnumLayout.typeScript.Holds sizeTable.tableName members' script ∧ (members'.map Prod.fst).Nodup := by
  obtain ⟨binding, hbinding⟩ :
      ∃ binding, lookupBinding sizeTable sizeSeed "Acme" .empty .empty .firstColumn = .ok binding :=
    exists_eq_ok_of_isOk (by decide +kernel)
  obtain ⟨script, hscript⟩ : ∃ script, enumModule sizeTable sizeSeed .firstColumn = .ok script :=
    exists_eq_ok_of_isOk (by decide +kernel)
  have happart : sizeSeed.matchingRows.Pairwise fun row other =>
      ¬ Meet (sizeSeed.systemName? sizeTable row) (sizeSeed.systemName? sizeTable other) := by
    decide +kernel
  obtain ⟨hcsharp, htypeScript⟩ := nodup_members sizeTable sizeSeed "Acme" .empty .empty .firstColumn
  obtain ⟨members, hholds, _, hnodup⟩ := hcsharp binding hbinding
  obtain ⟨members', hholds', _, hnodup'⟩ := htypeScript script hscript
  exact ⟨binding, script, members, members', hbinding, hholds, hnodup.2 happart, hscript, hholds',
    hnodup'.2 happart⟩

/-- Names that meet in each of the three ways. -/
def phaseSeed : Seed where
  schemaName := "dbo"
  tableName := "Phase"
  columnNames := ["PhaseID", "PhaseName"]
  rows := [["1", "In-Use"], ["2", "In Use"], ["3", "2nd"], ["4", "_2nd"], ["5", "?"], ["6", "Unknown"]]

def phaseTable : Table where
  schemaName := "dbo"
  tableName := "Phase"
  columns := [{ name := "PhaseID", sqlType := "int" }]

/-- The names of the rows are distinct and none is blank, and still both enumerations have each member
twice. -/
theorem members_phaseSeed :
    (phaseSeed.matchingRows.map (phaseSeed.systemName? phaseTable)).Nodup ∧
    (∀ row ∈ phaseSeed.matchingRows, ∃ name ∈ phaseSeed.systemName? phaseTable row,
      name.toList.all isBlank = false) ∧
    ∃ c entries, lookupClass phaseTable phaseSeed "Acme" .empty .empty .firstColumn = .ok c ∧
      c.members.map Prod.fst = ["InUse", "InUse", "_2nd", "_2nd", "Unknown", "Unknown"] ∧
      enumEntries phaseTable phaseSeed .firstColumn = .ok entries ∧
      entries.map EnumEntry.name = ["InUse", "InUse", "_2nd", "_2nd", "Unknown", "Unknown"] := by
  have hclass : (lookupClass phaseTable phaseSeed "Acme" .empty .empty .firstColumn).map
      (fun c => c.members.map Prod.fst) = .ok ["InUse", "InUse", "_2nd", "_2nd", "Unknown", "Unknown"] := by
    decide +kernel
  have hentries :
      (enumEntries phaseTable phaseSeed .firstColumn).map (fun entries => entries.map EnumEntry.name) =
      .ok ["InUse", "InUse", "_2nd", "_2nd", "Unknown", "Unknown"] := by
    decide +kernel
  obtain ⟨c, hc, hmembers⟩ := map_eq_ok.1 hclass
  obtain ⟨entries, he, hnames⟩ := map_eq_ok.1 hentries
  exact ⟨by decide +kernel, by decide +kernel, c, entries, hc, hmembers, he, hnames⟩

end SchemaBindings.Code

import SchemaBindings.Proofs.Reference.Navigations

/-!
The order in which names come does not matter. Sets of the same names, no two of them equal ignoring case,
answer every question alike, so a column refers to the same table by either.
-/

namespace SchemaBindings

set_option autoImplicit false

open Text (lower sameIgnoringCase)

section
variable {α : Type} {f : α → String} {l l' : List α}

theorem find?_eq_some_of_nodup (hd : (l.map fun a => lower (f a)).Nodup) {k : String} {a : α} :
    (l.find? fun a => sameIgnoringCase (f a) k) = some a ↔ a ∈ l ∧ sameIgnoringCase (f a) k = true := by
  constructor
  · intro h
    obtain ⟨hsame, _⟩ := List.find?_eq_some_iff_append.1 h
    exact ⟨List.mem_of_find?_eq_some h, hsame⟩
  · rintro ⟨ha, hsame⟩
    cases hfind : l.find? fun a => sameIgnoringCase (f a) k with
    | none => exact (List.find?_eq_none.1 hfind a ha hsame).elim
    | some b =>
      obtain ⟨hb, _⟩ := List.find?_eq_some_iff_append.1 hfind
      have hkey : lower (f b) = lower (f a) := (beq_iff_eq.1 hb).trans (beq_iff_eq.1 hsame).symm
      rw [List.inj_on_of_nodup_map hd (List.mem_of_find?_eq_some hfind) ha hkey]

theorem find?_of_perm (h : l.Perm l') (hd : (l.map fun a => lower (f a)).Nodup) (k : String) :
    (l.find? fun a => sameIgnoringCase (f a) k) = l'.find? fun a => sameIgnoringCase (f a) k := by
  have hd' : (l'.map fun a => lower (f a)).Nodup := (h.map _).nodup_iff.1 hd
  refine Option.ext fun a => ?_
  rw [find?_eq_some_of_nodup hd, find?_eq_some_of_nodup hd', h.mem_iff]

theorem mergeSort_of_perm (h : l.Perm l') (hd : (l.map fun a => lower (f a)).Nodup) :
    (l.mergeSort fun a b => decide (lower (f a) ≤ lower (f b))) =
      l'.mergeSort fun a b => decide (lower (f a) ≤ lower (f b)) := by
  have hsorted : ∀ l : List α, (l.mergeSort fun a b => decide (lower (f a) ≤ lower (f b))).Pairwise
      fun a b => decide (lower (f a) ≤ lower (f b)) = true := by
    refine List.pairwise_mergeSort ?_ ?_
    · intro a b c hab hbc
      exact decide_eq_true (String.le_trans (of_decide_eq_true hab) (of_decide_eq_true hbc))
    · intro a b
      rw [Bool.or_eq_true, decide_eq_true_eq, decide_eq_true_eq]
      exact String.le_total _ _
  have hperm := (List.mergeSort_perm l fun a b => decide (lower (f a) ≤ lower (f b))).trans
    (h.trans (List.mergeSort_perm l' fun a b => decide (lower (f a) ≤ lower (f b))).symm)
  refine List.Perm.eq_of_pairwise ?_ (hsorted l) (hsorted l') hperm
  intro a b ha hb hab hba
  have hkey := String.le_antisymm (of_decide_eq_true hab) (of_decide_eq_true hba)
  exact List.inj_on_of_nodup_map hd (List.mem_mergeSort.1 ha) (h.mem_iff.2 (List.mem_mergeSort.1 hb)) hkey

end

namespace NameSet

/-- Two sets that answer every question alike. -/
structure Alike (a b : NameSet) : Prop where
  canonical : ∀ name, a.canonical? name = b.canonical? name
  contains : ∀ name, a.contains name = b.contains name
  names : a.toList = b.toList

theorem Alike.refl (a : NameSet) : a.Alike a := ⟨fun _ => rfl, fun _ => rfl, rfl⟩

theorem alike_of_perm {a b : NameSet} (h : a.spellings.Perm b.spellings) : a.Alike b where
  canonical := find?_of_perm (f := id) h a.distinct
  contains := by
    intro name
    rw [Bool.eq_iff_iff]
    unfold NameSet.contains
    rw [List.any_eq_true, List.any_eq_true]
    simp only [h.mem_iff]
  names := mergeSort_of_perm (f := id) h a.distinct

theorem spellings_foldl_insert {s : NameSet} {names : List String}
    (hd : ((s.spellings ++ names).map lower).Nodup) :
    (names.foldl insert s).spellings = s.spellings ++ names := by
  induction names generalizing s with
  | nil => rw [List.foldl_nil, List.append_nil]
  | cons name rest ih =>
    have hnew : ¬ s.contains name = true := by
      intro hmem
      obtain ⟨n, hn, hsame⟩ := contains_iff.1 hmem
      rw [List.map_append, List.nodup_append] at hd
      exact hd.2.2 _ (List.mem_map_of_mem hn) _ (List.mem_map_of_mem List.mem_cons_self) hsame
    have hinsert : (s.insert name).spellings = s.spellings ++ [name] := by
      unfold insert
      rw [dif_neg hnew]
    rw [List.foldl_cons, ih, hinsert, List.append_assoc, List.singleton_append]
    rw [hinsert, List.append_assoc, List.singleton_append]
    exact hd

theorem spellings_ofList {names : List String} (hd : (names.map lower).Nodup) :
    (ofList names).spellings = names :=
  spellings_foldl_insert hd

theorem alike_ofList {names names' : List String} (h : names.Perm names') (hd : (names.map lower).Nodup) :
    (ofList names).Alike (ofList names') := by
  refine alike_of_perm ?_
  rw [spellings_ofList hd, spellings_ofList ((h.map lower).nodup_iff.1 hd)]
  exact h

end NameSet

namespace Reference
variable {lookups lookups' tables tables' : NameSet}

/-- Of the tables only one that has the name of the column's property counts. -/
theorem resolve?_congr {column : String} (hl : lookups.Alike lookups')
    (ht : ∀ property ∈ propertyName? column, tables.contains property = tables'.contains property)
    (explicit : Option String) :
    resolve? column lookups tables explicit = resolve? column lookups' tables' explicit := by
  unfold resolve?
  rw [hl.names, funext hl.canonical]
  cases hproperty : propertyName? column with
  | none => rfl
  | some property => simp only [Option.bind_eq_bind, Option.bind_some, ht property hproperty]

theorem navigations_congr {columns : List Column} (hl : lookups.Alike lookups')
    (ht : ∀ c ∈ columns, ∀ property ∈ propertyName? c.name,
      tables.contains property = tables'.contains property) (key : String) :
    navigations columns key lookups tables = navigations columns key lookups' tables' := by
  unfold navigations
  refine List.filterMap_congr fun c hc => ?_
  unfold navigation?
  rw [resolve?_congr hl (ht c hc)]

end Reference

end SchemaBindings

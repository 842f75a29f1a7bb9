import Mathlib.Data.List.MinMax
import Mathlib.Data.List.Nodup
import Mathlib.Data.Prod.Lex
import Mathlib.Data.Set.Function
import Mathlib.Data.String.Basic
import SchemaBindings.Reference.NameSet
import SchemaBindings.Reference.Resolve

/-!
The table that fits a property best. Candidates are compared by a key in a linear order, and the fold over
them finds the first candidate with the greatest key. Tables that differ ignoring case have different keys,
so that candidate is the only one, whatever the order of the tables.
-/

namespace SchemaBindings.Reference

set_option autoImplicit false

open Text (lower)

section
variable {α β : Type} [LinearOrder β] {f : α → β} {l l' : List α}

theorem argmax_eq_some_iff_of_injOn (hinj : Set.InjOn f {a | a ∈ l}) {m : α} :
    l.argmax f = some m ↔ m ∈ l ∧ ∀ a ∈ l, a ≠ m → f a < f m := by
  constructor
  · intro h
    have hm := List.argmax_mem h
    refine ⟨hm, fun a ha hne => ?_⟩
    exact lt_of_le_of_ne (List.le_of_mem_argmax ha h) fun hkey => hne (hinj ha hm hkey)
  · rintro ⟨hm, hgreatest⟩
    cases hbest : l.argmax f with
    | none =>
      rw [List.argmax_eq_none.1 hbest] at hm
      cases hm
    | some n =>
      by_cases hne : n = m
      · rw [hne]
      · have hlt := hgreatest n (List.argmax_mem hbest) hne
        exact (not_lt_of_ge (List.le_of_mem_argmax hm hbest) hlt).elim

theorem argmax_of_perm (hinj : Set.InjOn f {a | a ∈ l}) (h : l.Perm l') : l.argmax f = l'.argmax f := by
  have hinj' : Set.InjOn f {a | a ∈ l'} := hinj.mono fun a ha => h.mem_iff.2 ha
  refine Option.ext fun m => ?_
  rw [argmax_eq_some_iff_of_injOn hinj, argmax_eq_some_iff_of_injOn hinj']
  simp only [h.mem_iff]

end

/-- The longer name is greater, then the closer fit, then the name whose small form comes first. -/
def Candidate.key (c : Candidate) : Nat ×ₗ Nat ×ₗ Stringᵒᵈ :=
  toLex (c.table.length, toLex (c.fit.rank, OrderDual.toDual (lower c.table)))

theorem Candidate.key_lt_key {a b : Candidate} : a.key < b.key ↔
    a.table.length < b.table.length ∨ a.table.length = b.table.length ∧
      (a.fit.rank < b.fit.rank ∨ a.fit.rank = b.fit.rank ∧ lower b.table < lower a.table) := by
  simp only [key, Prod.Lex.toLex_lt_toLex, OrderDual.toDual_lt_toDual]

theorem Candidate.beats_iff {a b : Candidate} : a.beats b = true ↔ b.key < a.key := by
  rw [key_lt_key]
  unfold beats
  by_cases hlength : a.table.length = b.table.length
  · by_cases hfit : a.fit = b.fit
    · simp [-String.lt_iff_ltb, hlength, hfit]
    · have hrank : b.fit.rank ≠ a.fit.rank := fun h => hfit (Fit.rank_injective h.symm)
      simp [-String.lt_iff_ltb, hlength, hfit, hrank]
  · have hlength' : b.table.length ≠ a.table.length := fun h => hlength h.symm
    simp [-String.lt_iff_ltb, hlength, hlength']

theorem foldl_prefer (cs : List Candidate) : cs.foldl prefer none = cs.argmax Candidate.key := by
  have hstep : prefer = List.argAux fun b c => Candidate.key c < Candidate.key b := by
    funext best c
    cases best with
    | none => rfl
    | some b =>
      unfold prefer List.argAux
      by_cases h : c.beats b = true
      · simp only [h, if_true, if_pos (Candidate.beats_iff.1 h)]
      · simp only [h, Bool.false_eq_true, if_false, if_neg fun hlt => h (Candidate.beats_iff.2 hlt)]
  rw [List.argmax, hstep]

section
variable {property : String} {tables tables' : List String}

theorem bestMatch?_eq_argmax (property : String) (tables : List String) :
    bestMatch? property tables = ((candidates property tables).argmax Candidate.key).map Candidate.table := by
  rw [bestMatch?, foldl_prefer]

theorem mem_candidates {c : Candidate} :
    c ∈ candidates property tables ↔ c.table ∈ tables ∧ fit? property c.table = some c.fit := by
  obtain ⟨table, fit⟩ := c
  simp [candidates]

theorem candidates_eq_nil_iff : candidates property tables = [] ↔
      ∀ t ∈ tables, fit? property t = none := by
  simp [candidates, List.filterMap_eq_nil_iff]

theorem candidates_append_of_none {extra : List String} (h : ∀ t ∈ extra, fit? property t = none) :
    candidates property (tables ++ extra) = candidates property tables := by
  rw [candidates, List.filterMap_append]
  have hextra : candidates property extra = [] := candidates_eq_nil_iff.2 h
  rw [candidates] at hextra
  rw [hextra, List.append_nil, candidates]

/-- Candidates of tables that differ ignoring case differ in their keys. -/
theorem injOn_key (hd : (tables.map lower).Nodup) :
    Set.InjOn Candidate.key {c | c ∈ candidates property tables} := by
  rintro ⟨t, f⟩ hc ⟨u, g⟩ hd' hkey
  obtain ⟨ht, hf⟩ := mem_candidates.1 hc
  obtain ⟨hu, hg⟩ := mem_candidates.1 hd'
  have hlower : lower t = lower u := congrArg (fun k => OrderDual.ofDual (ofLex (ofLex k).2).2) hkey
  obtain rfl : t = u := List.inj_on_of_nodup_map hd ht hu hlower
  obtain rfl : f = g := Option.some.inj (hf.symm.trans hg)
  rfl

theorem bestMatch?_eq_none_iff : bestMatch? property tables = none ↔
      ∀ t ∈ tables, fit? property t = none := by
  rw [bestMatch?_eq_argmax, Option.map_eq_none_iff, List.argmax_eq_none, candidates_eq_nil_iff]

/-- No table that fits has a greater key than the best match. -/
theorem key_le_of_bestMatch? {best : String} (h : bestMatch? property tables = some best) :
    ∃ fit, best ∈ tables ∧ fit? property best = some fit ∧
        ∀ t ∈ tables, ∀ g, fit? property t = some g →
      (⟨t, g⟩ : Candidate).key ≤ (⟨best, fit⟩ : Candidate).key := by
  rw [bestMatch?_eq_argmax] at h
  obtain ⟨c, hc, rfl⟩ := Option.map_eq_some_iff.1 h
  obtain ⟨hmem, hfit⟩ := mem_candidates.1 (List.argmax_mem hc)
  refine ⟨c.fit, hmem, hfit, fun t ht g hg => ?_⟩
  exact List.le_of_mem_argmax (mem_candidates.2 ⟨ht, hg⟩) hc

theorem bestMatch?_eq_some_iff (hd : (tables.map lower).Nodup) {best : String} :
    bestMatch? property tables = some best ↔
      ∃ fit, best ∈ tables ∧ fit? property best = some fit ∧
        ∀ t ∈ tables, t ≠ best → ∀ g, fit? property t = some g →
          (⟨t, g⟩ : Candidate).key < (⟨best, fit⟩ : Candidate).key := by
  rw [bestMatch?_eq_argmax, Option.map_eq_some_iff]
  constructor
  · rintro ⟨c, hc, rfl⟩
    obtain ⟨hmem, hgreatest⟩ := (argmax_eq_some_iff_of_injOn (injOn_key hd)).1 hc
    obtain ⟨ht, hfit⟩ := mem_candidates.1 hmem
    refine ⟨c.fit, ht, hfit, fun t ht hne g hg => ?_⟩
    exact hgreatest ⟨t, g⟩ (mem_candidates.2 ⟨ht, hg⟩) fun hsame =>
      hne (congrArg Candidate.table hsame)
  · rintro ⟨fit, ht, hfit, hgreatest⟩
    refine ⟨⟨best, fit⟩, (argmax_eq_some_iff_of_injOn (injOn_key hd)).2 ⟨?_, ?_⟩, rfl⟩
    · exact mem_candidates.2 ⟨ht, hfit⟩
    · rintro ⟨t, g⟩ hmem hne
      obtain ⟨ht, hg⟩ := mem_candidates.1 hmem
      refine hgreatest t ht ?_ g hg
      rintro rfl
      exact hne (congrArg (Candidate.mk t) (Option.some.inj (hg.symm.trans hfit)))

theorem bestMatch?_of_perm (hd : (tables.map lower).Nodup) {extra : List String}
    (hextra : ∀ t ∈ extra, fit? property t = none) (h : tables'.Perm (tables ++ extra)) :
    bestMatch? property tables' = bestMatch? property tables := by
  have hperm : (candidates property tables).Perm (candidates property tables') := by
    rw [← candidates_append_of_none hextra]
    exact (h.filterMap _).symm
  rw [bestMatch?_eq_argmax, bestMatch?_eq_argmax, argmax_of_perm (injOn_key hd) hperm]

/-- Among the names of a set, the order in which they came does as well as the sorted one. -/
theorem bestMatch?_toList (property : String) (names : NameSet) :
    bestMatch? property names.toList = bestMatch? property names.spellings := by
  have hperm : names.toList.Perm (names.spellings ++ []) := by
    rw [List.append_nil]
    exact List.mergeSort_perm _ _
  exact bestMatch?_of_perm names.distinct (by simp) hperm

end

/-- Of tables that differ ignoring case, the best match is the one that fits and has the greatest key. It
is there if any table fits; neither the order of the tables nor tables that do not fit count. -/
theorem bestMatch?_greatest (property : String) {tables : List String} (hd : (tables.map lower).Nodup) :
    (bestMatch? property tables = none ↔ ∀ t ∈ tables, fit? property t = none) ∧
    (∀ best, bestMatch? property tables = some best ↔
      ∃ fit, best ∈ tables ∧ fit? property best = some fit ∧
        ∀ t ∈ tables, t ≠ best → ∀ g, fit? property t = some g →
          (⟨t, g⟩ : Candidate).key < (⟨best, fit⟩ : Candidate).key) ∧
    ∀ extra tables', (∀ t ∈ extra, fit? property t = none) → tables'.Perm (tables ++ extra) →
      bestMatch? property tables' = bestMatch? property tables :=
  ⟨bestMatch?_eq_none_iff, fun _ => bestMatch?_eq_some_iff hd,
    fun _ _ hextra h => bestMatch?_of_perm hd hextra h⟩

/-- Two tables end with the property and are of one length; the small forms decide, in any order. -/
theorem bestMatch?_typeNames : (["BType", "atype", "Typ"].map lower).Nodup ∧
    bestMatch? "Type" ["BType", "atype", "Typ"] = some "atype" ∧
    bestMatch? "Type" ["Note", "atype", "Typ", "BType"] = some "atype" := by
  have hd : (["BType", "atype", "Typ"].map lower).Nodup := by decide +kernel
  obtain ⟨_, hgreatest, hothers⟩ := bestMatch?_greatest "Type" hd
  have hbest : bestMatch? "Type" ["BType", "atype", "Typ"] = some "atype" := by
    refine (hgreatest "atype").2 ⟨.tableEnd, by decide, by decide +kernel, ?_⟩
    intro t ht hne g hg
    rw [Candidate.key_lt_key]
    simp only [List.mem_cons, List.not_mem_nil, or_false] at ht
    obtain rfl | rfl | rfl := ht
    · obtain rfl : Fit.tableEnd = g := Option.some.inj ((by decide +kernel : _ = _).trans hg)
      decide +kernel
    · exact (hne rfl).elim
    · exact .inl (by decide : "Typ".length < "atype".length)
  refine ⟨hd, hbest, (hothers ["Note"] _ (by decide +kernel) (by decide +kernel)).trans hbest⟩

end SchemaBindings.Reference

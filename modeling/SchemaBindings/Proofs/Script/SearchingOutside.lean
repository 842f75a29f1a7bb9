import SchemaBindings.Proofs.Script.Closing
import SchemaBindings.Proofs.Script.Lexemes
import Mathlib.Order.Bounds.Basic
import Mathlib.Order.Nat

/-!
What a search outside quotes finds. It goes on behind every match that starts in a literal, so it misses
a clause that such a match reaches over. When matches that overlap end together, it misses nothing else:
what it finds is the clause at the first place outside quotes that no match from inside reaches over.
-/

namespace SchemaBindings.Script

set_option autoImplicit false

variable {α : Type}

namespace Clause

/-- The clause where it stands at a place of the text. -/
def at? (c : Clause α) (text : List Char) (i : Nat) : Option (Found α) :=
  (c.here? (text.take i).getLast? (text.drop i)).map fun v => ⟨i, i + v.2, v.1⟩

section
variable {c : Clause α} {text : List Char} {i j : Nat} {f g : Found α}

theorem at?_eq_some (h : c.at? text i = some f) : c.anchor.allows (text.take i).getLast? = true ∧
    f.start = i ∧
    ∃ rest, c.read (text.drop i) = some (f.value, rest) ∧
        f.stop = i + ((text.drop i).length - rest.length) := by
  obtain ⟨⟨a, n⟩, hhere, rfl⟩ := Option.map_eq_some_iff.1 h
  unfold here? at hhere
  split at hhere
  · rename_i hallows
    obtain ⟨⟨a', rest⟩, hread, hfound⟩ := Option.map_eq_some_iff.1 hhere
    obtain ⟨rfl, rfl⟩ := Prod.mk.inj hfound
    exact ⟨hallows, rfl, rest, hread, rfl⟩
  · cases hhere

theorem lt_length_of_at? (hnil : c.read [] = none) (h : c.at? text i = some f) : i < text.length := by
  obtain ⟨-, -, rest, hread, -⟩ := at?_eq_some h
  by_contra hle
  rw [List.drop_eq_nil_of_le (Nat.le_of_not_lt hle), hnil] at hread
  cases hread

/-- The search from a place of the text on. -/
def findBehind (c : Clause α) (wanted : Nat → Bool) (text : List Char) (i taken : Nat) :
    Option (Found α) :=
  c.findFrom wanted (text.take i).getLast? i taken (text.drop i)

theorem findBehind_of_length_le (h : text.length ≤ i) (wanted : Nat → Bool) (taken : Nat) :
    c.findBehind wanted text i taken = none := by
  rw [findBehind, List.drop_eq_nil_of_le h]
  rfl

theorem findBehind_succ (hi : i < text.length) (wanted : Nat → Bool) (taken : Nat) :
    c.findFrom wanted (some text[i]) (i + 1) taken (text.drop (i + 1)) = c.findBehind wanted text
      (i + 1) taken := by
  rw [findBehind, List.take_add_one, List.getElem?_eq_getElem hi, Option.toList_some, List.getLast?_concat]

theorem findBehind_taken (wanted : Nat → Bool) (text : List Char) (i taken : Nat) :
    c.findBehind wanted text i taken = c.findBehind wanted text (i + taken) 0 := by
  induction taken generalizing i with
  | zero => rfl
  | succ taken ih =>
    by_cases hi : i < text.length
    · rw [findBehind, List.drop_eq_getElem_cons hi, findFrom, findBehind_succ hi, ih, Nat.add_assoc,
        Nat.add_comm 1]
    · rw [findBehind_of_length_le (by omega), findBehind_of_length_le (by omega)]

theorem findBehind_of_none (hi : i < text.length) (wanted : Nat → Bool) (h : c.at? text i = none) :
    c.findBehind wanted text i 0 = c.findBehind wanted text (i + 1) 0 := by
  rw [at?, Option.map_eq_none_iff, List.drop_eq_getElem_cons hi] at h
  rw [findBehind, List.drop_eq_getElem_cons hi, findFrom_cons_of_none h, findBehind_succ hi]

/-- A match is given out when it is wanted, and passed over with all that it took when it is not. -/
theorem findBehind_of_some (hi : i < text.length) (wanted : Nat → Bool) (h : c.at? text i = some f) :
    c.findBehind wanted text i 0 =
      if wanted i then some f else c.findBehind wanted text (i + 1 + (f.stop - i - 1)) 0 := by
  obtain ⟨⟨a, n⟩, hhere, rfl⟩ := Option.map_eq_some_iff.1 h
  rw [List.drop_eq_getElem_cons hi] at hhere
  rw [findBehind, List.drop_eq_getElem_cons hi, findFrom, hhere]
  simp only [findBehind_succ hi, Nat.add_sub_cancel_left, ← findBehind_taken]

/-- A match that is not wanted begins at `start` or behind and reaches over the place. -/
def Covers (c : Clause α) (wanted : Nat → Bool) (text : List Char) (start q : Nat) : Prop :=
  ∃ p f, start ≤ p ∧ p < q ∧ wanted p = false ∧ c.at? text p = some f ∧ q < f.stop

/-- A place from `start` on where the clause is wanted and stands, and that no other match covers. -/
structure Finds (c : Clause α) (wanted : Nat → Bool) (text : List Char) (start q : Nat) : Prop where
  from_start : start ≤ q
  is_wanted : wanted q = true
  stands : (c.at? text q).isSome
  free : ¬ c.Covers wanted text start q

/-- Of two matches that overlap, the second ends where the first does. -/
def EndTogether (c : Clause α) (text : List Char) : Prop :=
  ∀ i j f g, c.at? text i = some f → c.at? text j = some g → i < j → j < f.stop → g.stop = f.stop

/-- Places may be left out of which none is found and none covers what comes behind them. -/
theorem finds_iff_of_skip {wanted : Nat → Bool} {start next : Nat} (hnext : start ≤ next)
    (hskip : ∀ q, q < next → ¬ c.Finds wanted text start q)
    (hcover : ∀ p g, start ≤ p → p < next → wanted p = false → c.at? text p = some g →
      g.stop ≤ next) (q : Nat) :
    c.Finds wanted text start q ↔ c.Finds wanted text next q := by
  constructor
  · intro h
    refine ⟨?_, h.is_wanted, h.stands, ?_⟩
    · exact Nat.le_of_not_lt fun hlt => hskip q hlt h
    · rintro ⟨p, g, hp, hover⟩
      exact h.free ⟨p, g, Nat.le_trans hnext hp, hover⟩
  · intro h
    refine ⟨Nat.le_trans hnext h.from_start, h.is_wanted, h.stands, ?_⟩
    rintro ⟨p, g, hp, hq, hunwanted, hat, hover⟩
    by_cases hbehind : next ≤ p
    · exact h.free ⟨p, g, hbehind, hq, hunwanted, hat, hover⟩
    · have hstop := hcover p g hp (Nat.lt_of_not_le hbehind) hunwanted hat
      have hfrom := h.from_start
      omega

theorem finds_iff_of_none {wanted : Nat → Bool} (h : c.at? text i = none) (q : Nat) :
    c.Finds wanted text i q ↔ c.Finds wanted text (i + 1) q := by
  refine finds_iff_of_skip (Nat.le_succ i) ?_ ?_ q
  · intro q hlt hfinds
    obtain rfl : i = q := Nat.le_antisymm hfinds.from_start (Nat.le_of_lt_succ hlt)
    have hstands := hfinds.stands
    rw [h] at hstands
    cases hstands
  · intro p g hp hlt _ hat
    obtain rfl : i = p := Nat.le_antisymm hp (Nat.le_of_lt_succ hlt)
    cases h.symm.trans hat

theorem finds_iff_of_some (htext : c.EndTogether text) {wanted : Nat → Bool} (h : c.at? text i = some f)
    (hunwanted : wanted i = false) (q : Nat) :
    c.Finds wanted text i q ↔ c.Finds wanted text (i + 1 + (f.stop - i - 1)) q := by
  refine finds_iff_of_skip (by omega) ?_ ?_ q
  · intro q hlt hfinds
    rcases Nat.eq_or_lt_of_le hfinds.from_start with rfl | hq
    · cases hunwanted.symm.trans hfinds.is_wanted
    · exact hfinds.free ⟨i, f, Nat.le_refl i, hq, hunwanted, h, by omega⟩
  · intro p g hp hlt _ hat
    rcases Nat.eq_or_lt_of_le hp with rfl | hp
    · obtain rfl := Option.some.inj (h.symm.trans hat)
      omega
    · have hstop := htext i p f g h hat hp (by omega)
      omega

/-- A search finds the first place where the clause is wanted and stands and that no skipped match covers. -/
theorem findBehind_eq_some_iff (hnil : c.read [] = none) (htext : c.EndTogether text) {wanted : Nat → Bool}
    {start : Nat} : c.findBehind wanted text start 0 = some f ↔
      c.at? text f.start = some f ∧ IsLeast {q | c.Finds wanted text start q} f.start := by
  induction hrest : text.length - start using Nat.strongRecOn generalizing start with
  | _ rest ih =>
    by_cases hlength : start < text.length
    · cases hat : c.at? text start with
      | none =>
        rw [findBehind_of_none hlength wanted hat, ih (text.length - (start + 1)) (by omega) rfl]
        simp only [finds_iff_of_none hat]
      | some g =>
        rw [findBehind_of_some hlength wanted hat]
        cases hwanted : wanted start with
        | false =>
          rw [if_neg (by simp), ih (text.length - (start + 1 + (g.stop - start - 1))) (by omega) rfl]
          simp only [finds_iff_of_some htext hat hwanted]
        | true =>
          have hfirst : IsLeast {q | c.Finds wanted text start q} start := by
            refine ⟨⟨Nat.le_refl start, hwanted, by rw [hat]; rfl, ?_⟩, fun q hq => hq.from_start⟩
            rintro ⟨p, _, hp, hlt, _⟩
            omega
          rw [if_pos rfl]
          constructor
          · rintro ⟨⟩
            rw [(at?_eq_some hat).2.1]
            exact ⟨hat, hfirst⟩
          · rintro ⟨hatf, hleast⟩
            rw [hleast.unique hfirst] at hatf
            exact hat.symm.trans hatf
    · rw [findBehind_of_length_le (by omega)]
      constructor
      · rintro ⟨⟩
      · rintro ⟨hatf, hleast⟩
        have hlt := lt_length_of_at? hnil hatf
        have hle := hleast.1.from_start
        omega

end

/-- From `start` on and outside quotes, the clause stands at the place of the text without its comments. -/
structure StandsOutside (c : Clause α) (text : List Char) (start q : Nat) : Prop where
  from_start : start ≤ q
  outside : ¬ InSpan text q
  stands : (c.at? (mask text) q).isSome

/-- From `start` on, the clause stands inside quotes in front of the place and reaches over it. -/
def ReachesOver (c : Clause α) (text : List Char) (start q : Nat) : Prop :=
  ∃ p f, start ≤ p ∧ p < q ∧ InSpan text p ∧ c.at? (mask text) p = some f ∧ q < f.stop

/-- The search finds the first place of the kind, with what stands there, when there is one. -/
structure FindsFirst (c : Clause α) (text : List Char) (start : Nat) (kind : Nat → Prop) : Prop where
  finds : (∃ q, kind q) → ∃ f, c.findOutside? text start = some f
  first : ∀ f, c.findOutside? text start = some f →
    c.at? (mask text) f.start = some f ∧ IsLeast {q | kind q} f.start

section
variable {c : Clause α} {text : List Char} {start q : Nat}

theorem findOutside?_eq (c : Clause α) (text : List Char) (start : Nat) : c.findOutside? text start =
    c.findBehind (fun i => (zones text)[i]? != some .literal) (mask text) start 0 := rfl

theorem finds_iff : c.Finds (fun i => (zones text)[i]? != some .literal) (mask text) start q ↔
    c.StandsOutside text start q ∧ ¬ c.ReachesOver text start q := by
  have hinside : ∀ p, ((zones text)[p]? != some .literal) = false ↔ InSpan text p := by
    intro p
    rw [inSpan_iff, bne_eq_false_iff_eq]
  have houtside : ((zones text)[q]? != some .literal) = true ↔ ¬ InSpan text q := by
    rw [inSpan_iff, bne_iff_ne]
  have hcovers : c.Covers (fun i => (zones text)[i]? != some .literal) (mask text) start q ↔
      c.ReachesOver text start q := by
    simp only [Covers, ReachesOver, hinside]
  constructor
  · intro h
    exact ⟨⟨h.from_start, houtside.1 h.is_wanted, h.stands⟩, fun hover => h.free (hcovers.2 hover)⟩
  · rintro ⟨h, hfree⟩
    exact ⟨h.from_start, houtside.2 h.outside, h.stands, fun hover => hfree (hcovers.1 hover)⟩

/-- Where overlapping matches end together, only what a match from inside quotes reaches over is missed. -/
theorem findsFirst_of_endTogether (hnil : c.read [] = none) (htext : c.EndTogether (mask text)) :
    c.FindsFirst text start fun q => c.StandsOutside text start q ∧ ¬ c.ReachesOver text start q := by
  classical
  have hfind : ∀ f, c.findOutside? text start = some f ↔ c.at? (mask text) f.start = some f ∧
      IsLeast {q | c.StandsOutside text start q ∧ ¬ c.ReachesOver text start q} f.start := by
    intro f
    rw [findOutside?_eq, findBehind_eq_some_iff hnil htext]
    simp only [finds_iff]
  refine ⟨fun hsome => ?_, fun f => (hfind f).1⟩
  have hleast := Nat.isLeast_find hsome
  obtain ⟨f, hat⟩ := Option.isSome_iff_exists.1 hleast.1.1.stands
  refine ⟨f, (hfind f).2 ?_⟩
  rw [(at?_eq_some hat).2.1]
  exact ⟨hat, hleast⟩

end

end Clause

/-- Matches that end with the first `d` behind their start end together. -/
theorem Clause.ClosedBy.endTogether {c : Clause α} {d : Char} (hc : c.ClosedBy d) (text : List Char) :
    c.EndTogether text := by
  intro i j f g hf hg hij hjf
  obtain ⟨-, -, rest, hread, hstop⟩ := Clause.at?_eq_some hf
  obtain ⟨-, -, rest', hread', hstop'⟩ := Clause.at?_eq_some hg
  obtain ⟨p, q, htext, hp⟩ := List.eq_append_cons_of_mem (hc.needs _ _ _ hread)
  have hends : ∀ k v w, k ≤ p.length → c.read (p.drop k ++ d :: q) = some (v, w) → w = q := by
    intro k v w _ hread
    obtain ⟨o, ho⟩ := hc.closes (p.drop k) fun hmem => hp (List.mem_of_mem_drop hmem)
    rw [ho, Option.map_eq_some_iff] at hread
    obtain ⟨_, _, heq⟩ := hread
    exact (Prod.mk.inj heq).2.symm
  rw [htext] at hread hstop
  obtain rfl := hends 0 _ _ (Nat.zero_le _) hread
  have hlength : i + p.length + 1 = f.stop := by
    rw [hstop, List.length_append, List.length_cons]
    omega
  obtain ⟨k, rfl⟩ := Nat.exists_eq_add_of_le (Nat.le_of_lt hij)
  have hk : k ≤ p.length := by omega
  rw [← List.drop_drop, htext, List.drop_append_of_le_length hk] at hread' hstop'
  obtain rfl := hends k _ _ hk hread'
  rw [hstop', ← hlength, List.length_append, List.length_drop, List.length_cons]
  omega

end SchemaBindings.Script

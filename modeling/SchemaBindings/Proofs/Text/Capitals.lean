import Mathlib
import SchemaBindings.Proofs.Script.Names
import SchemaBindings.Text.Case

/-!
What the tables of case say of capital letters and of their small forms. The tables are compared range by
range.
-/

namespace SchemaBindings.Text

set_option autoImplicit false

/-- Whether one range holds all numbers between two bounds. -/
def Ranges.hasAll : Ranges → Nat → Nat → Bool
  | [], _, _ => false
  | (lo, hi) :: rest, first, last => lo.ble first && (last.ble hi || hasAll rest first last)

/-- Whether no range meets the numbers between two bounds. -/
def Ranges.misses : Ranges → Nat → Nat → Bool
  | [], _, _ => true
  | (lo, hi) :: rest, first, last => last.blt lo || (hi.blt first && misses rest first last)

theorem Ranges.has_of_hasAll {ranges : Ranges} {first last n : Nat} (h : ranges.hasAll first last = true)
    (hfirst : first ≤ n) (hlast : n ≤ last) : ranges.has n = true := by
  induction ranges with
  | nil => cases h
  | cons r rest ih =>
    obtain ⟨lo, hi⟩ := r
    unfold hasAll at h
    unfold Ranges.has
    rw [Bool.and_eq_true, Bool.or_eq_true, Nat.ble_eq, Nat.ble_eq] at h
    rw [if_neg (by omega), Bool.or_eq_true, decide_eq_true_eq]
    rcases h.2 with hhi | hrest
    · exact .inl (by omega)
    · exact .inr (ih hrest)

theorem Ranges.has_of_misses {ranges : Ranges} {first last n : Nat} (h : ranges.misses first last = true)
    (hfirst : first ≤ n) (hlast : n ≤ last) : ranges.has n = false := by
  induction ranges with
  | nil => rfl
  | cons r rest ih =>
    obtain ⟨lo, hi⟩ := r
    unfold misses at h
    unfold Ranges.has
    rw [Bool.or_eq_true, Bool.and_eq_true, Nat.blt_eq, Nat.blt_eq] at h
    rcases h with hlo | ⟨hhi, hrest⟩
    · rw [if_pos (by omega)]
    · split
      · rfl
      · rw [ih hrest, Bool.or_false, decide_eq_false_iff_not]
        omega

/-- The ranges without the first ones, so long as these end below a number. -/
def Ranges.above (first : Nat) : Ranges → Ranges :=
  List.dropWhile fun range => range.1.ble first && range.2.blt first

theorem Ranges.has_above {first n : Nat} (h : first ≤ n) (ranges : Ranges) :
    (ranges.above first).has n = ranges.has n := by
  induction ranges with
  | nil => rfl
  | cons r rest ih =>
    obtain ⟨lo, hi⟩ := r
    unfold above
    rw [List.dropWhile_cons]
    split
    · rename_i hbelow
      rw [Bool.and_eq_true, Nat.ble_eq, Nat.blt_eq] at hbelow
      have hhi : decide (n ≤ hi) = false := decide_eq_false (by omega)
      rw [Ranges.has, if_neg (by omega), hhi, Bool.false_or]
      exact ih
    · rfl

def isCapitalRun (cased ignorable : Ranges) (run : Nat × Nat × Nat) : Bool :=
  let (first, last, step) := run
  (cased.hasAll first last && ignorable.misses first last) ||
    (List.range' first ((last - first) / step + 1) step).all fun n => cased.has n && !ignorable.has n

/-- Whether all runs are of capital letters and start in order, none below a number. A run then needs no
range that ends below it, nor do the runs after it. -/
def areCapitalRuns : Nat → Ranges → Ranges → List (Nat × Nat × Nat) → Bool
  | _, _, _, [] => true
  | bound, cased, ignorable, run :: rest =>
    bound.ble run.1 && isCapitalRun (cased.above run.1) (ignorable.above run.1) run &&
      areCapitalRuns run.1 (cased.above run.1) (ignorable.above run.1) rest

theorem mem_range'_of_mod {first last step n : Nat} (hfirst : first ≤ n) (hlast : n ≤ last)
    (hstep : (n - first) % step = 0) :
    n ∈ List.range' first ((last - first) / step + 1) step := by
  rw [List.mem_range']
  refine ⟨(n - first) / step, ?_, ?_⟩
  · have := Nat.div_le_div_right (c := step) (show n - first ≤ last - first by omega)
    omega
  · have := Nat.div_add_mod (n - first) step
    omega

section
variable {cased ignorable : Ranges} {first last step n : Nat}

theorem has_of_isCapitalRun (h : isCapitalRun cased ignorable (first, last, step) = true)
    (hfirst : first ≤ n) (hlast : n ≤ last) (hstep : (n - first) % step = 0) :
    cased.has n = true ∧ ignorable.has n = false := by
  unfold isCapitalRun at h
  simp only [Bool.or_eq_true, Bool.and_eq_true] at h
  rcases h with ⟨hcased, hignorable⟩ | hall
  · exact ⟨Ranges.has_of_hasAll hcased hfirst hlast, Ranges.has_of_misses hignorable hfirst hlast⟩
  · have hn := List.all_eq_true.1 hall n (mem_range'_of_mod hfirst hlast hstep)
    rw [Bool.and_eq_true, Bool.not_eq_true'] at hn
    exact hn

theorem has_of_areCapitalRuns {bound : Nat} {runs : List (Nat × Nat × Nat)}
    (h : areCapitalRuns bound cased ignorable runs = true) (hrun : (first, last, step) ∈ runs)
    (hfirst : first ≤ n) (hlast : n ≤ last) (hstep : (n - first) % step = 0) :
    bound ≤ first ∧ cased.has n = true ∧ ignorable.has n = false := by
  induction runs generalizing bound cased ignorable with
  | nil => cases hrun
  | cons run rest ih =>
    rw [areCapitalRuns, Bool.and_eq_true, Bool.and_eq_true, Nat.ble_eq] at h
    obtain ⟨⟨hbound, hhead⟩, hrest⟩ := h
    rcases List.mem_cons.1 hrun with rfl | hrun
    · have hn := has_of_isCapitalRun hhead hfirst hlast hstep
      rw [Ranges.has_above hfirst, Ranges.has_above hfirst] at hn
      exact ⟨hbound, hn⟩
    · obtain ⟨horder, hn⟩ := ih hrest hrun
      rw [Ranges.has_above (by omega), Ranges.has_above (by omega)] at hn
      exact ⟨by omega, hn⟩

end

theorem areCapitalRuns_capitalRuns :
    areCapitalRuns 0 casedRanges caseIgnorableRanges capitalRuns = true := by decide +kernel

theorem cased_of_isCapital {c : Char} (h : isCapital c = true) :
    isCased c = true ∧ isCaseIgnorable c = false := by
  unfold isCapital at h
  obtain ⟨⟨first, last, step⟩, hrun, hc⟩ := List.any_eq_true.1 h
  simp only [Bool.and_eq_true, decide_eq_true_eq, beq_iff_eq] at hc
  obtain ⟨⟨hfirst, hlast⟩, hstep⟩ := hc
  exact (has_of_areCapitalRuns areCapitalRuns_capitalRuns hrun hfirst hlast hstep).2

namespace CaseRun

def reach (r : CaseRun) : Nat := r.target + (r.last - r.first)

/-- No number that one run leads to is one that the other moves. -/
def isApart (r q : CaseRun) : Bool :=
  r.reach.blt q.first || q.last.blt r.target ||
    (q.step.beq 2 && (r.step.beq 2 || r.first.beq r.last) && ((r.target + q.first) % 2).beq 1)

def isSmall (r : CaseRun) : Bool :=
  casedRanges.hasAll r.target r.reach && caseIgnorableRanges.misses r.target r.reach

def isValid (r : CaseRun) : Bool := r.reach.blt 0xD800 || (Nat.blt 0xDFFF r.target && r.reach.blt 0x110000)

/-- Only the capital sigma moves to the small one. -/
def sparesSigma (r : CaseRun) : Bool :=
  r.reach.blt 0x3C3 || Nat.blt 0x3C3 r.target || (r.first + (0x3C3 - r.target)).beq 0x3A3

end CaseRun

theorem lowerRuns_apart : ∀ r ∈ lowerRuns, ∀ q ∈ lowerRuns, r.isApart q = true := by
  have hall : (lowerRuns.all fun r => lowerRuns.all r.isApart) = true := by decide +kernel
  intro r hr q hq
  exact List.all_eq_true.1 (List.all_eq_true.1 hall r hr) q hq

theorem lowerRuns_small : ∀ r ∈ lowerRuns, (r.isSmall && r.isValid && r.sparesSigma) = true := by
  rw [← List.all_eq_true]
  decide +kernel

/-- The number of a character that a run moves, and where the run moves it. -/
structure CaseRun.Moves (r : CaseRun) (n m : Nat) : Prop where
  mem : r ∈ lowerRuns
  first : r.first ≤ n
  last : n ≤ r.last
  step : (n - r.first) % r.step = 0
  target : m = r.target + (n - r.first)

theorem exists_moves {n : Nat} (h : CaseRun.map lowerRuns n ≠ n) :
    ∃ r : CaseRun, r.Moves n (CaseRun.map lowerRuns n) := by
  unfold CaseRun.map at h ⊢
  split
  · rename_i r hr
    have hin := List.find?_some hr
    simp only [Bool.and_eq_true, decide_eq_true_eq, beq_iff_eq] at hin
    exact ⟨r, List.mem_of_find?_eq_some hr, hin.1.1, hin.1.2, hin.2, rfl⟩
  · rename_i hnone
    rw [hnone] at h
    exact (h rfl).elim

namespace CaseRun.Moves
variable {r : CaseRun} {n m : Nat}

theorem facts (h : r.Moves n m) : r.isSmall = true ∧ r.isValid = true ∧ r.sparesSigma = true := by
  have htable := lowerRuns_small r h.mem
  rw [Bool.and_eq_true, Bool.and_eq_true] at htable
  exact ⟨htable.1.1, htable.1.2, htable.2⟩

theorem bounds (h : r.Moves n m) : r.target ≤ m ∧ m ≤ r.reach := by
  have hfirst := h.first
  have hlast := h.last
  have htarget := h.target
  unfold reach
  omega

theorem toNat_ofNat (h : r.Moves n m) : (Char.ofNat m).toNat = m := by
  have hbounds := h.bounds
  have hvalid := h.facts.2.1
  unfold isValid at hvalid
  rw [Bool.or_eq_true, Bool.and_eq_true, Nat.blt_eq, Nat.blt_eq, Nat.blt_eq] at hvalid
  have hchar : m.isValidChar := by
    unfold Nat.isValidChar
    omega
  rw [Char.toNat_ofNat, if_pos hchar]

theorem map_eq (h : r.Moves n m) : CaseRun.map lowerRuns m = m := by
  by_contra hmoved
  obtain ⟨q, hq⟩ := exists_moves hmoved
  have hbounds := h.bounds
  have hapart := lowerRuns_apart r h.mem q hq.mem
  have hfirst := hq.first
  have hlast := hq.last
  unfold isApart at hapart
  simp only [Bool.or_eq_true, Bool.and_eq_true, Nat.blt_eq, Nat.beq_eq] at hapart
  rcases hapart with (hapart | hapart) | ⟨⟨hstep, hparity⟩, hodd⟩
  · omega
  · omega
  · have hq' := hq.step
    rw [hstep] at hq'
    have htarget := h.target
    have hr' := h.step
    have hn := h.first
    have hn' := h.last
    rcases hparity with htwo | hone
    · rw [htwo] at hr'
      omega
    · omega

theorem cased (h : r.Moves n m) :
    isCased (Char.ofNat m) = true ∧ isCaseIgnorable (Char.ofNat m) = false := by
  have hbounds := h.bounds
  have hsmall := h.facts.1
  unfold isSmall at hsmall
  rw [Bool.and_eq_true] at hsmall
  unfold isCased isCaseIgnorable
  rw [h.toNat_ofNat]
  exact ⟨Ranges.has_of_hasAll hsmall.1 hbounds.1 hbounds.2,
    Ranges.has_of_misses hsmall.2 hbounds.1 hbounds.2⟩

theorem eq_sigma (h : r.Moves n 0x3C3) : n = 0x3A3 := by
  have hbounds := h.bounds
  have hsigma := h.facts.2.2
  have htarget := h.target
  have hfirst := h.first
  unfold sparesSigma at hsigma
  rw [Bool.or_eq_true, Bool.or_eq_true, Nat.blt_eq, Nat.blt_eq, Nat.beq_eq] at hsigma
  omega

end CaseRun.Moves

/-- The forms of a character: a dotted `i` in two, any other in one. -/
theorem lowerChar_cases (c : Char) : c = 'İ' ∨ ∃ d, lowerChar c = [d] := by
  unfold lowerChar
  split
  · exact .inr ⟨_, rfl⟩
  · split
    · rename_i hdotted
      exact .inl hdotted
    · exact .inr ⟨_, rfl⟩

theorem eq_capital_sigma {c : Char} (hc : isCapital c = true) (h : lowerChar c = ['σ']) : c = 'Σ' := by
  unfold lowerChar at h
  split at h
  · rename_i hascii
    have hnot : ∀ c : Char, c.toNat < 128 → c.toLower ≠ 'σ' := fun c =>
      Script.forall_ascii (p := fun c => c.toLower ≠ 'σ') (by decide)
    exact (hnot c hascii (List.singleton_inj.1 h)).elim
  · split at h
    · cases h
    · have hd := List.singleton_inj.1 h
      by_cases hmap : CaseRun.map lowerRuns c.toNat = c.toNat
      · rw [hmap, Char.ofNat_toNat] at hd
        subst hd
        revert hc
        decide
      · obtain ⟨r, hr⟩ := exists_moves hmap
        have hm := hr.toNat_ofNat
        rw [hd] at hm
        rw [← hm] at hr
        have hn : c.toNat = 0x3A3 := hr.eq_sigma
        rw [← Char.ofNat_toNat c, hn]

theorem capitalRuns_tail : ∀ run ∈ capitalRuns.tail, 127 < run.1 := by decide +kernel

/-- Only the first run of the table is of letters of seven bits. -/
theorem isCapital_ascii {c : Char} (hc : c.toNat < 128) : isCapital c = c.isUpper := by
  have htable : capitalRuns = (0x41, 0x5A, 1) :: capitalRuns.tail := rfl
  have hlate : (capitalRuns.tail.any fun (first, last, step) =>
      first ≤ c.toNat && c.toNat ≤ last && (c.toNat - first) % step == 0) = false := by
    rw [List.any_eq_false]
    rintro ⟨first, last, step⟩ hrun
    have hfirst : 127 < first := capitalRuns_tail _ hrun
    simp only [Bool.and_eq_true, decide_eq_true_eq]
    omega
  have hupper : c.isUpper = decide (c.val ≥ 65 ∧ c.val ≤ 90) := rfl
  unfold isCapital
  rw [htable, List.any_cons, hlate, Bool.or_false, hupper]
  simp only [Nat.mod_one, beq_self_eq_true, Bool.and_true, ← Bool.decide_and]
  rfl

theorem toLower_of_isUpper {c : Char} (hc : c.toNat < 128) (h : c.isUpper = true) :
    isCased c.toLower = true ∧ isCaseIgnorable c.toLower = false ∧ lowerChar c.toLower = [c.toLower] :=
  Script.forall_ascii (p := fun c => c.isUpper = true → isCased c.toLower = true ∧
    isCaseIgnorable c.toLower = false ∧ lowerChar c.toLower = [c.toLower]) (by decide) hc h

/-- The small form of a capital letter is a small letter, unless it is the letter itself. -/
theorem small_of_isCapital {c d : Char} (hc : isCapital c = true) (hd : isCapital d = false)
    (h : lowerChar c = [d]) : isCased d = true ∧ isCaseIgnorable d = false ∧ lowerChar d = [d] := by
  unfold lowerChar at h
  split at h
  · rename_i hlow
    rw [isCapital_ascii hlow] at hc
    rw [← List.singleton_inj.1 h]
    exact toLower_of_isUpper hlow hc
  · split at h
    · cases h
    · have hform := List.singleton_inj.1 h
      by_cases hmap : CaseRun.map lowerRuns c.toNat = c.toNat
      · rw [hmap, Char.ofNat_toNat] at hform
        rw [hform, hd] at hc
        cases hc
      · obtain ⟨r, hr⟩ := exists_moves hmap
        have hcased := hr.cased
        have hm := hr.toNat_ofNat
        rw [hform] at hcased hm
        refine ⟨hcased.1, hcased.2, ?_⟩
        unfold lowerChar
        split
        · rename_i hlow
          rw [isCapital_ascii hlow] at hd
          rw [Char.toLower_eq_of_not_isUpper (Bool.eq_false_iff.1 hd)]
        · split
          · rename_i hdotted
            subst hdotted
            revert hd
            decide
          · rw [hm, hr.map_eq, ← hm, Char.ofNat_toNat]

theorem lowerRuns_ne_dotted : ∀ r ∈ lowerRuns, ¬ (r.target ≤ 0x130 ∧ 0x130 ≤ r.reach) := by
  decide +kernel

theorem toLower_of_map_eq {c : Char} (h : CaseRun.map lowerRuns c.toNat = c.toNat) :
    c.toLower = c := by
  refine Char.toLower_eq_of_not_isUpper fun hupper => ?_
  have hrange : 65 ≤ c.toNat ∧ c.toNat ≤ 90 := of_decide_eq_true hupper
  have htable : lowerRuns = ⟨0x41, 0x5A, 1, 0x61⟩ :: lowerRuns.tail := rfl
  rw [htable, CaseRun.map, List.find?_cons_of_pos (by simp [hrange, Nat.mod_one])] at h
  simp only at h
  omega

theorem lowerChar_of_mem {c d : Char} (h : d ∈ lowerChar c) : lowerChar d = [d] := by
  unfold lowerChar at h
  split at h
  · rename_i hlow
    rw [List.mem_singleton.1 h]
    exact Script.forall_ascii (p := fun c => lowerChar c.toLower = [c.toLower]) (by decide) hlow
  · rename_i hhigh
    split at h
    · revert d
      decide
    · rename_i hdotted
      have hd := List.mem_singleton.1 h
      by_cases hmap : CaseRun.map lowerRuns c.toNat = c.toNat
      · rw [hmap, Char.ofNat_toNat] at hd
        rw [hd, lowerChar, if_neg hhigh, if_neg hdotted, hmap, Char.ofNat_toNat]
      · obtain ⟨r, hr⟩ := exists_moves hmap
        have hm := hr.toNat_ofNat
        rw [← hd] at hm
        have hfixed := hr.map_eq
        rw [← hm] at hfixed
        unfold lowerChar
        split
        · rename_i hlow
          rw [toLower_of_map_eq hfixed]
        · split
          · rename_i hd'
            have hbounds := hr.bounds
            rw [← hm, hd'] at hbounds
            exact (lowerRuns_ne_dotted r hr.mem hbounds).elim
          · rw [hfixed, Char.ofNat_toNat]

theorem lowerFrom_of_small {cs : List Char} (h : ∀ c ∈ cs, lowerChar c = [c]) (cased : Bool) :
    lowerFrom cased cs = cs := by
  induction cs generalizing cased with
  | nil => rfl
  | cons c rest ih =>
    obtain ⟨hc, hrest⟩ := List.forall_mem_cons.1 h
    have hsigma : c ≠ 'Σ' := by
      rintro rfl
      revert hc
      decide
    rw [lowerFrom, if_neg hsigma, hc, ih hrest]
    rfl

theorem lowerChar_of_mem_lowerFrom {cs : List Char} {cased : Bool} {d : Char} (h : d ∈ lowerFrom cased cs) :
    lowerChar d = [d] := by
  induction cs generalizing cased with
  | nil => cases h
  | cons c rest ih =>
    rw [lowerFrom, List.mem_append] at h
    rcases h with h | h
    · split at h
      · split at h
        · rw [List.mem_singleton.1 h]
          decide
        · rw [List.mem_singleton.1 h]
          decide
      · exact lowerChar_of_mem h
    · exact ih h

@[simp] theorem lower_lower (s : String) : lower (lower s) = lower s := by
  have hsmall : ∀ c ∈ lowerChars s.toList, lowerChar c = [c] := fun _ => lowerChar_of_mem_lowerFrom
  rw [lower, lower, String.toList_ofList, lowerChars, lowerFrom_of_small hsmall]

theorem areCapitalRuns_lowerRuns :
    areCapitalRuns 0 casedRanges caseIgnorableRanges (lowerRuns.map fun r => (r.first, r.last, r.step)) =
        true := by
  decide +kernel

/-- A character and its small form are both letters with case, unless they are one. -/
theorem cased_of_lowerChar {c d : Char} (h : lowerChar c = [d]) :
    d = c ∨ (isCased c = true ∧ isCaseIgnorable c = false) ∧ isCased d = true ∧
        isCaseIgnorable d = false := by
  unfold lowerChar at h
  split at h
  · rename_i hlow
    obtain rfl := List.singleton_inj.1 h
    cases hupper : c.isUpper with
    | false => exact .inl (Char.toLower_eq_of_not_isUpper (Bool.eq_false_iff.1 hupper))
    | true =>
      obtain ⟨hcased, hignorable, _⟩ := toLower_of_isUpper hlow hupper
      rw [← isCapital_ascii hlow] at hupper
      exact .inr ⟨cased_of_isCapital hupper, hcased, hignorable⟩
  · split at h
    · cases h
    · have hform := List.singleton_inj.1 h
      by_cases hmap : CaseRun.map lowerRuns c.toNat = c.toNat
      · rw [hmap, Char.ofNat_toNat] at hform
        exact .inl hform.symm
      · obtain ⟨r, hr⟩ := exists_moves hmap
        have hcased := hr.cased
        rw [hform] at hcased
        have hrun := List.mem_map_of_mem (f := fun r : CaseRun => (r.first, r.last, r.step)) hr.mem
        exact .inr
          ⟨(has_of_areCapitalRuns areCapitalRuns_lowerRuns hrun hr.first hr.last hr.step).2, hcased⟩

/-- A text has the same small form when its first character is small already. -/
theorem lowerFrom_lowerChar_append (c : Char) (rest : List Char) :
    lowerFrom false (lowerChar c ++ rest) = lowerFrom false (c :: rest) := by
  rcases lowerChar_cases c with rfl | ⟨d, hd⟩
  · rfl
  have hsmall : lowerChar d = [d] := lowerChar_of_mem (hd ▸ List.mem_singleton_self d)
  have hsigma : d ≠ 'Σ' := by
    rintro rfl
    exact absurd hsmall (by decide)
  have hhead : (if c = 'Σ' then [if false && !casedAhead rest then 'ς' else 'σ'] else lowerChar c) =
      [d] := by
    split
    · rename_i hcapital
      rw [hcapital] at hd
      exact (by decide : ['σ'] = lowerChar 'Σ').trans hd
    · exact hd
  have hstate : (if isCaseIgnorable d then false else isCased d) = if isCaseIgnorable c then false
      else isCased c := by
    rcases cased_of_lowerChar hd with rfl | ⟨⟨hc, hc'⟩, hcased, hignorable⟩
    · rfl
    · rw [hc, hc', hcased, hignorable]
  rw [hd, List.singleton_append, lowerFrom, lowerFrom, if_neg hsigma, hsmall, hstate, hhead]

end SchemaBindings.Text

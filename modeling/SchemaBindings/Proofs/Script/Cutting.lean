import SchemaBindings.Proofs.Script.Closing
import SchemaBindings.Proofs.Script.Nesting

/-!
What is left of a script whose end is cut off. Without comments the part that is left is the start of the
whole script, but for its last character, which may have opened a comment together with the one behind it.
A header or a closing parenthesis that the part still holds stands in the whole script too.
-/

namespace SchemaBindings.Script

set_option autoImplicit false

open Text (isBlank isWordChar matchesLetter)
open Reader

variable {α β : Type}

def isParenthesis (c : Char) : Bool := c == '(' || c == ')'

/-- The first text is the start of the second one, but for its last character; where that differs, no
parenthesis stands in either text. -/
inductive Cut : List Char → List Char → Prop
  | intro (w r : List Char) {x y : Char}
      (h : x = y ∨ isParenthesis x = false ∧ isParenthesis y = false) : Cut (w ++ [x]) (w ++ y :: r)

theorem Cut.exists_eq {short whole : List Char} (h : Cut short whole) :
    ∃ w r x y, short = w ++ [x] ∧ whole = w ++ y :: r ∧
      (x = y ∨ isParenthesis x = false ∧ isParenthesis y = false) := by
  obtain ⟨w, r, hxy⟩ := h
  exact ⟨w, r, _, _, rfl, rfl, hxy⟩

/-- How a text is read up to a character does not depend on anything behind that character. -/
theorem exists_zonesFrom_append_cons (m : Mode) (a : List Char) (c : Char) :
    ∃ zs m', zs.length = a.length ∧ ∀ b, zonesFrom m (a ++ c :: b) = zs ++ zonesFrom m' (c :: b) := by
  induction a generalizing m with
  | nil => exact ⟨[], m, rfl, fun _ => rfl⟩
  | cons d rest ih =>
    have hnext : ∀ b, (rest ++ c :: b).head? = (rest ++ [c]).head? := by
      intro b
      cases rest <;> rfl
    obtain ⟨zs, m', hlength, hzones⟩ := ih (m.step d (rest ++ [c]).head?).2
    refine ⟨(m.step d (rest ++ [c]).head?).1 :: zs, m', by simp [hlength], ?_⟩
    intro b
    rw [List.cons_append, zonesFrom, hnext, hzones]
    rfl

theorem Mode.step_parenthesis {c : Char} (hc : isParenthesis c = true) (m : Mode) (next : Option Char) :
    m.step c next = m.step c none := by
  rw [isParenthesis, Bool.or_eq_true, beq_iff_eq, beq_iff_eq] at hc
  rcases hc with rfl | rfl
  · cases m <;> rfl
  · cases m <;> rfl

theorem isParenthesis_blank {c : Char} (hc : isParenthesis c = false) (z : Zone) :
    isParenthesis (blank c z) = false := by
  rcases blank_eq_or_space c z with h | h
  · rw [h, hc]
  · rw [h]
    rfl

theorem cut_mask (a : List Char) (c : Char) (b : List Char) :
    Cut (mask (a ++ [c])) (mask (a ++ c :: b)) := by
  obtain ⟨zs, m, hlength, hzones⟩ := exists_zonesFrom_append_cons .code a c
  have hmask : ∀ b, mask (a ++ c :: b) = List.zipWith blank a zs ++
      blank c (m.step c b.head?).1 :: List.zipWith blank b (zonesFrom (m.step c b.head?).2 b) := by
    intro b
    rw [mask, zones, hzones, List.zipWith_append hlength.symm]
    rfl
  rw [hmask, hmask]
  refine .intro _ _ ?_
  cases hc : isParenthesis c with
  | true =>
    rw [Mode.step_parenthesis hc m b.head?]
    exact .inl rfl
  | false => exact .inr ⟨isParenthesis_blank hc _, isParenthesis_blank hc _⟩

/-- What of a cut text is read as a literal is read as one in the whole text, but for the last character. -/
theorem zones_mask_cut (a : List Char) (c : Char) (b : List Char) {i : Nat} (hi : i < a.length) :
    (zones (mask (a ++ [c])))[i]? = (zones (mask (a ++ c :: b)))[i]? := by
  obtain ⟨zs, m, hlength, hzones⟩ := exists_zonesFrom_append_cons .code a c
  have hcommon : ∀ b, (zones (mask (a ++ c :: b)))[i]? = zs[i]?.map Zone.cleared := by
    intro b
    rw [zones_mask, List.getElem?_map, zones, hzones, List.getElem?_append_left (hlength ▸ hi)]
  rw [hcommon [], hcommon b]

theorem closingFrom_cons_of_not {c : Char} (hc : isParenthesis c = false) (z : Zone) (depth : Nat)
    (rest : List (Char × Zone)) :
    closingFrom depth ((c, z) :: rest) = (closingFrom depth rest).map (· + 1) := by
  obtain ⟨hopen, hclose⟩ := Bool.or_eq_false_iff.1 hc
  have hopens : opens (c, z) = false := by
    rw [opens, hopen, Bool.false_and]
  have hcloses : closes (c, z) = false := by
    rw [closes, hclose, Bool.false_and]
  cases depth <;> simp [closingFrom, hopens, hcloses]

theorem closingFrom_lt {depth k : Nat} {xs : List (Char × Zone)} (h : closingFrom depth xs = some k) :
    k < xs.length := by
  obtain ⟨x, hx, -⟩ := closes_of_closingFrom h
  exact (List.getElem?_eq_some_iff.1 hx).1

theorem isParenthesis_of_closes {c : Char} {z : Zone} (h : closes (c, z) = true) : isParenthesis c = true :=
  Bool.or_eq_true_iff.2 (.inr (Bool.and_eq_true_iff.1 h).1)

/-- What closes a parenthesis in a cut text closes it in the whole text. -/
theorem closingFrom_cut {w r : List Char} {x y : Char}
    (hxy : x = y ∨ isParenthesis x = false ∧ isParenthesis y = false) {m : Mode} {depth k : Nat}
    (h : closingFrom depth ((w ++ [x]).zip (zonesFrom m (w ++ [x]))) = some k) :
    closingFrom depth ((w ++ y :: r).zip (zonesFrom m (w ++ y :: r))) = some k := by
  induction w generalizing m depth k with
  | nil =>
    simp only [List.nil_append, zonesFrom, List.zip_cons_cons, List.head?_nil, List.zip_nil_left] at h ⊢
    rcases closingFrom_cons depth (x, (m.step x none).1) with ⟨hcloses, hclosed⟩ | ⟨d, hmore⟩
    · have hx := isParenthesis_of_closes hcloses
      obtain rfl : x = y := hxy.resolve_right fun hne => Bool.noConfusion (hne.1.symm.trans hx)
      rw [Mode.step_parenthesis hx, hclosed]
      rwa [hclosed] at h
    · rw [hmore] at h
      cases h
  | cons c w ih =>
    simp only [List.cons_append, zonesFrom, List.zip_cons_cons] at h ⊢
    by_cases hstep : m.step c (w ++ [x]).head? = m.step c (w ++ y :: r).head?
    · rw [hstep] at h
      rcases closingFrom_cons depth (c, (m.step c (w ++ y :: r).head?).1) with
        ⟨_, hclosed⟩ | ⟨d, hmore⟩
      · rw [hclosed] at h ⊢
        exact h
      · rw [hmore] at h ⊢
        obtain ⟨j, hj, rfl⟩ := Option.map_eq_some_iff.1 h
        rw [ih hj, Option.map_some]
    · cases w with
      | cons d more => exact (hstep rfl).elim
      | nil =>
        have hx : isParenthesis x = false := by
          rcases hxy with rfl | ⟨hx, _⟩
          · exact (hstep rfl).elim
          · exact hx
        have hc : isParenthesis c = false := by
          refine Bool.eq_false_iff.2 fun hc => hstep ?_
          exact (Mode.step_parenthesis hc m _).trans (Mode.step_parenthesis hc m _).symm
        simp only [List.nil_append, zonesFrom, List.zip_cons_cons] at h
        rw [closingFrom_cons_of_not hc, closingFrom_cons_of_not hx] at h
        cases h

theorem closingParen?_of_cut {w r : List Char} {x y : Char}
    (hxy : x = y ∨ isParenthesis x = false ∧ isParenthesis y = false) {start stop : Nat}
    (h : closingParen? (w ++ [x]) start = some stop) : closingParen? (w ++ y :: r) start = some stop := by
  by_cases hstart : start ≤ w.length
  · rw [closingParen?, List.drop_append_of_le_length hstart] at h ⊢
    obtain ⟨k, hk, rfl⟩ := Option.map_eq_some_iff.1 h
    rw [marked, zones, closingFrom_cut hxy hk, Option.map_some]
  · have hdrop : (w ++ [x]).drop start = [] := by
      rw [List.drop_eq_nil_iff, List.length_append, List.length_singleton]
      omega
    rw [closingParen?, hdrop] at h
    cases h

theorem closingParen?_lt {text : List Char} {start stop : Nat} (h : closingParen? text start = some stop) :
    stop < text.length := by
  obtain ⟨k, hk, rfl⟩ := Option.map_eq_some_iff.1 h
  have hlength := closingFrom_lt hk
  rw [length_marked, List.length_drop] at hlength
  omega

/-- What is true of a text without `d`, and of a text with one if it is true of what stands behind the
first, is true of every text. -/
theorem text_induction (d : Char) {motive : List Char → Prop} (last : ∀ p, d ∉ p → motive p)
    (step : ∀ p q, d ∉ p → motive q → motive (p ++ d :: q)) (text : List Char) : motive text := by
  induction hn : text.length using Nat.strong_induction_on generalizing text with
  | _ n ih =>
    by_cases hd : d ∈ text
    · obtain ⟨p, q, rfl, hp⟩ := List.eq_append_cons_of_mem hd
      refine step p q hp (ih q.length ?_ q rfl)
      rw [← hn, List.length_append, List.length_cons]
      omega
    · exact last text hd

/-- What is found up to a `d` is not cut off by what comes behind it. -/
theorem Clause.ClosedBy.filter_findFrom_or {c : Clause α} {d : Char} (hc : c.ClosedBy d)
    (wanted : Nat → Bool) (before : Option Char) {offset bound : Nat} {p : List Char}
    (hbound : offset + p.length + 1 ≤ bound) (o : Option (Found α)) :
    ((c.findFrom wanted before offset 0 (p ++ [d])).or o).filter (fun f => f.stop ≤ bound) =
      (c.findFrom wanted before offset 0 (p ++ [d])).or (o.filter fun f => f.stop ≤ bound) := by
  cases hfind : c.findFrom wanted before offset 0 (p ++ [d]) with
  | none => rw [Option.none_or, Option.none_or]
  | some f =>
    have hstop := hc.stop_le hfind
    rw [List.length_append, List.length_singleton] at hstop
    rw [Option.some_or, Option.some_or, Option.filter_some, if_pos]
    exact decide_eq_true (by omega)

/-- A search in a cut text finds what a search in the whole text finds, unless that is cut off. -/
theorem Clause.ClosedBy.findFrom_cut {c : Clause α} {d : Char} (hc : c.ClosedBy d) {w r : List Char}
    {x y : Char} (hxy : x = y ∨ x ≠ d ∧ y ≠ d) (wanted : Nat → Bool) (before : Option Char)
    (offset : Nat) :
    c.findFrom wanted before offset 0 (w ++ [x]) =
      (c.findFrom wanted before offset 0 (w ++ y :: r)).filter fun f => f.stop ≤ offset + w.length + 1 := by
  induction w using text_induction d generalizing before offset with
  | step p q hp ih =>
    have hlength : offset + (p ++ d :: q).length + 1 = offset + p.length + 1 + q.length + 1 := by
      rw [List.length_append, List.length_cons]
      omega
    rw [List.append_assoc, List.cons_append, List.append_assoc, List.cons_append,
      hc.findFrom_append_cons wanted before offset p (q ++ [x]) (Nat.zero_le _),
      hc.findFrom_append_cons wanted before offset p (q ++ y :: r) (Nat.zero_le _), hlength,
      hc.filter_findFrom_or wanted before (by omega), ih]
  | last w hw =>
    by_cases hx : x = d
    · obtain rfl : x = y := by
        rcases hxy with hxy | ⟨hne, _⟩
        · exact hxy
        · exact (hne hx).elim
      subst hx
      rw [hc.findFrom_append_cons wanted before offset w r (Nat.zero_le _),
        hc.filter_findFrom_or wanted before (Nat.le_refl _)]
      have hbehind : (c.findFrom wanted (some x) (offset + w.length + 1) 0 r).filter
          (fun f => f.stop ≤ offset + w.length + 1) = none := by
        refine Option.filter_eq_none_iff.2 fun f hf => ?_
        have hlater := hc.lt_stop hf
        simpa using hlater
      rw [hbehind, Option.or_none]
    · have hy : y ≠ d := by
        rcases hxy with rfl | ⟨_, hy⟩
        · exact hx
        · exact hy
      have hconcat : ∀ z, z ≠ d → d ∉ w ++ [z] := by
        intro z hz hmem
        rcases List.mem_append.1 hmem with hmem | hmem
        · exact hw hmem
        · exact hz (List.mem_singleton.1 hmem).symm
      rw [hc.findFrom_of_not_mem (hconcat x hx), List.append_cons]
      refine (Option.filter_eq_none_iff.2 fun f hf => ?_).symm
      have hlater := hc.length_lt_stop (hconcat y hy) hf
      rw [List.length_append, List.length_singleton] at hlater
      simpa [Nat.add_assoc] using hlater

end SchemaBindings.Script

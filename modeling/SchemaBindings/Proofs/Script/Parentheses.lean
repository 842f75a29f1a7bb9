import SchemaBindings.Proofs.Script.Lexemes
import SchemaBindings.Proofs.Script.Nesting
import Mathlib.Order.Bounds.Basic
import Mathlib.Order.Nat

/-!
The two scans for parentheses. The parenthesis that closes is the first one behind which more have been closed
than opened, and the outermost groups are found by one such scan after the other: from each parenthesis that
opens to the one that closes it, and on behind that.
-/

namespace SchemaBindings.Script

set_option autoImplicit false

/-- The character stands at the place, outside literals and comments. -/
def CodeChar (text : List Char) (d : Char) (i : Nat) : Prop := text[i]? = some d ∧ InZone text .code i

theorem codeChar_iff {text : List Char} {d : Char} {i : Nat} :
    CodeChar text d i ↔ (marked text)[i]? = some (d, .code) := by
  rw [CodeChar, ← zone_iff, marked, List.getElem?_zip_eq_some]

theorem eq_code_iff {x : Char × Zone} {d : Char} : (x.1 == d && x.2 == .code) = true ↔ x = (d, .code) := by
  simp [Prod.ext_iff]

instance (text : List Char) (d : Char) (i : Nat) : Decidable (CodeChar text d i) :=
  decidable_of_iff _ codeChar_iff.symm

/-- How often the character stands in code at the first `n` places. -/
def codeCount (text : List Char) (d : Char) (n : Nat) :
    Nat := (List.range n).countP fun i => CodeChar text d i

/-- A parenthesis closes at the place, and up to it more have been closed than opened. -/
def Overcloses (text : List Char) (i : Nat) : Prop :=
  CodeChar text ')' i ∧ codeCount text '(' (i + 1) < codeCount text ')' (i + 1)

/-- The same of characters with their zones, `depth` parentheses being open before them. -/
def OverclosesFrom (depth : Nat) (xs : List (Char × Zone)) (i : Nat) : Prop :=
  (∃ x, xs[i]? = some x ∧ closes x = true) ∧
    depth + (xs.take (i + 1)).countP opens < (xs.take (i + 1)).countP closes

theorem codeCount_eq_countP (text : List Char) (d : Char) (n : Nat) :
    codeCount text d n = ((marked text).take n).countP fun x => x.1 == d && x.2 == .code := by
  induction n with
  | zero => rfl
  | succ n ih =>
    have hlast : ([n].countP fun i => CodeChar text d i) =
        (marked text)[n]?.toList.countP fun x => x.1 == d && x.2 == .code := by
      simp only [codeChar_iff]
      cases hx : (marked text)[n]? with
      | none => simp [hx]
      | some x => simp [hx, List.countP_singleton, Prod.ext_iff]
    rw [codeCount] at ih
    rw [codeCount, List.range_succ, List.countP_append, ih, hlast, List.take_add_one, List.countP_append]

theorem overcloses_iff {text : List Char} {i : Nat} :
    Overcloses text i ↔ OverclosesFrom 0 (marked text) i := by
  have hcloser : CodeChar text ')' i ↔ ∃ x, (marked text)[i]? = some x ∧ closes x = true := by
    simp only [codeChar_iff, closes, eq_code_iff, exists_eq_right]
  rw [Overcloses, OverclosesFrom, hcloser, codeCount_eq_countP, codeCount_eq_countP, Nat.zero_add]
  rfl

theorem closes_eq_false_of_opens {x : Char × Zone} (h : opens x = true) : closes x = false := by
  simp only [opens, Bool.and_eq_true, beq_iff_eq] at h
  rw [closes, h.1]
  rfl

/-- The first number of a kind that zero is not of is found one further down. -/
theorem isLeast_iff_of_succ {p q : Nat → Prop} (hzero : ¬ p 0)
    (hsucc : ∀ i, p (i + 1) ↔ q i) {k : Nat} :
    IsLeast {i | p i} k ↔ ∃ j, IsLeast {i | q i} j ∧ j + 1 = k := by
  constructor
  · rintro ⟨hk, hleast⟩
    cases k with
    | zero => exact (hzero hk).elim
    | succ j =>
      refine ⟨j, ⟨(hsucc j).1 hk, fun i hi => ?_⟩, rfl⟩
      exact Nat.le_of_succ_le_succ (hleast ((hsucc i).2 hi))
  · rintro ⟨j, ⟨hj, hleast⟩, rfl⟩
    refine ⟨(hsucc j).2 hj, fun i hi => ?_⟩
    cases i with
    | zero => exact (hzero hi).elim
    | succ i => exact Nat.succ_le_succ (hleast ((hsucc i).1 hi))

section
variable {depth d k : Nat} {x : Char × Zone} {rest : List (Char × Zone)}

theorem overclosesFrom_zero : OverclosesFrom depth (x :: rest) 0 ↔ closes x = true ∧ depth = 0 := by
  cases ho : opens x with
  | true => simp [OverclosesFrom, ho, closes_eq_false_of_opens ho]
  | false =>
    cases hc : closes x with
    | true => simp [OverclosesFrom, ho, hc]
    | false => simp [OverclosesFrom, hc]

/-- One character further on, with as many parentheses open as the character leaves. -/
theorem overclosesFrom_succ (h : depth + [x].countP opens = d + [x].countP closes) (i : Nat) :
    OverclosesFrom depth (x :: rest) (i + 1) ↔ OverclosesFrom d rest i := by
  have htake : ∀ p : Char × Zone → Bool, ((x :: rest).take (i + 1 + 1)).countP p =
      [x].countP p + (rest.take (i + 1)).countP p := by
    intro p
    rw [List.take_succ_cons, ← List.singleton_append, List.countP_append]
  rw [OverclosesFrom, OverclosesFrom, htake, htake, List.getElem?_cons_succ]
  refine and_congr_right fun _ => ?_
  omega

theorem isLeast_overclosesFrom_cons (hzero : ¬ (closes x = true ∧ depth = 0))
    (h : depth + [x].countP opens = d + [x].countP closes)
    (ih : ∀ j, closingFrom d rest = some j ↔ IsLeast {i | OverclosesFrom d rest i} j) :
    (closingFrom d rest).map (· + 1) = some k ↔ IsLeast {i | OverclosesFrom depth (x :: rest) i} k := by
  rw [isLeast_iff_of_succ (fun h0 => hzero (overclosesFrom_zero.1 h0)) (overclosesFrom_succ h),
    Option.map_eq_some_iff]
  exact exists_congr fun j => and_congr_left fun _ => ih j

end

theorem closingFrom_eq_some_iff {depth k : Nat} {xs : List (Char × Zone)} :
    closingFrom depth xs = some k ↔ IsLeast {i | OverclosesFrom depth xs i} k := by
  induction xs generalizing depth k with
  | nil =>
    constructor
    · rintro ⟨⟩
    · rintro ⟨⟨⟨x, hx, _⟩, _⟩, _⟩
      cases hx
  | cons x rest ih =>
    unfold closingFrom
    split
    · rename_i hopens
      have hcloses := closes_eq_false_of_opens hopens
      refine isLeast_overclosesFrom_cons (by simp [hcloses]) ?_ fun j => ih
      simp [hopens, hcloses]
    · rename_i hopens
      split
      · rename_i hcloses
        cases depth with
        | zero =>
          have hfirst : IsLeast {i | OverclosesFrom 0 (x :: rest) i} 0 :=
            ⟨overclosesFrom_zero.2 ⟨hcloses, rfl⟩, fun i _ => Nat.zero_le i⟩
          constructor
          · rintro ⟨⟩
            exact hfirst
          · exact fun hk => congrArg some (hfirst.unique hk)
        | succ d =>
          refine isLeast_overclosesFrom_cons (by simp) ?_ fun j => ih
          simp [hopens, hcloses]
      · rename_i hcloses
        refine isLeast_overclosesFrom_cons (by simp [hcloses]) ?_ fun j => ih
        simp [hopens, hcloses]

/-- The text from `start` on, read as a text of its own, is closed more often than opened for the first
time at a place that is counted from the start of the whole text. -/
def ClosesBehind (text : List Char) (start e : Nat) : Prop := ∃ i, Overcloses (text.drop start) i ∧
    start + i = e

theorem closingParen?_eq_some_iff {text : List Char} {start e : Nat} :
    closingParen? text start = some e ↔ IsLeast {i | ClosesBehind text start i} e := by
  rw [closingParen?, Option.map_eq_some_iff]
  constructor
  · rintro ⟨i, hi, rfl⟩
    obtain ⟨hclose, hleast⟩ := closingFrom_eq_some_iff.1 hi
    refine ⟨⟨i, overcloses_iff.2 hclose, rfl⟩, ?_⟩
    rintro _ ⟨j, hj, rfl⟩
    exact Nat.add_le_add_left (hleast (overcloses_iff.1 hj)) start
  · rintro ⟨⟨i, hi, rfl⟩, hleast⟩
    refine ⟨i, closingFrom_eq_some_iff.2 ⟨overcloses_iff.1 hi, fun j hj => ?_⟩, rfl⟩
    exact Nat.le_of_add_le_add_left (hleast ⟨j, overcloses_iff.2 hj, rfl⟩)

theorem closingParen?_eq_none_iff {text : List Char} {start : Nat} :
    closingParen? text start = none ↔ ∀ e, ¬ ClosesBehind text start e := by
  classical
  constructor
  · intro hnone e he
    have hleast := closingParen?_eq_some_iff.2 (Nat.isLeast_find ⟨e, he⟩)
    cases hnone.symm.trans hleast
  · intro hnever
    cases hclose : closingParen? text start with
    | none => rfl
    | some e => exact (hnever e (closingParen?_eq_some_iff.1 hclose).1).elim

/-- The next place from `k` on where a parenthesis opens. -/
def NextOpening (text : List Char) (k p : Nat) : Prop := IsLeast {p | k ≤ p ∧ CodeChar text '(' p} p

/-- The groups of a text from a place on, taken one behind the other. -/
inductive GroupsBehind (text : List Char) : Nat → List (List Char) → Prop
  | unopened {k : Nat} (h : ∀ p, k ≤ p → ¬ CodeChar text '(' p) : GroupsBehind text k []
  | unclosed {k p : Nat} (hopen : NextOpening text k p) (hclose : closingParen? text (p + 1) = none) :
      GroupsBehind text k []
  | group {k p e : Nat} {gs : List (List Char)} (hopen : NextOpening text k p)
      (hclose : closingParen? text (p + 1) = some e) (h : GroupsBehind text (e + 1) gs) :
      GroupsBehind text k (text.extract (p + 1) e :: gs)

/-- An open group goes on to the parenthesis that closes it. -/
theorem groupsFrom_some (depth : Nat) (body : List Char) (xs : List (Char × Zone)) :
    groupsFrom (some (depth, body)) xs =
      match closingFrom depth xs with
      | none => []
      | some j => (body.reverse ++ (xs.take j).map Prod.fst) :: groupsFrom none (xs.drop (j + 1)) := by
  induction xs generalizing depth body with
  | nil => rfl
  | cons x rest ih =>
    have goOn : ∀ d, groupsFrom (some (d, x.1 :: body)) rest =
        match (closingFrom d rest).map (· + 1) with
        | none => []
        | some j => (body.reverse ++ ((x :: rest).take j).map Prod.fst) ::
            groupsFrom none ((x :: rest).drop (j + 1)) := by
      intro d
      rw [ih]
      cases closingFrom d rest with
      | none => rfl
      | some j => simp
    simp only [groupsFrom, closingFrom]
    split
    · exact goOn (depth + 1)
    · split
      · cases depth with
        | zero => simp
        | succ d => exact goOn d
      · exact goOn depth

theorem groupsFrom_none_of_not {xs : List (Char × Zone)} {n : Nat}
    (h : ∀ i < n, ∀ x, xs[i]? = some x → opens x = false) :
    groupsFrom none xs = groupsFrom none (xs.drop n) := by
  induction n generalizing xs with
  | zero => rfl
  | succ n ih =>
    cases xs with
    | nil => rfl
    | cons x rest =>
      have hx : opens x = false := h 0 (Nat.succ_pos n) x rfl
      rw [groupsFrom, hx, List.drop_succ_cons]
      exact ih fun i hi y hy => h (i + 1) (Nat.succ_lt_succ hi) y hy

section
variable {text : List Char} {d : Char} {k p e : Nat}

theorem CodeChar.boundary (h : CodeChar text d p) : Boundary text (p + 1) :=
  have ⟨hcut, hlexeme⟩ := h.2.lexeme_of_code
  hcut.next hlexeme

theorem Boundary.drop_marked (h : Boundary text k) : (marked text).drop k = marked (text.drop k) := by
  rw [marked, marked, ← h.drop_zones]
  exact List.drop_zipWith

theorem opens_eq_false {x : Char × Zone} (h : ¬ CodeChar text '(' p) (hx : (marked text)[p]? = some x) :
    opens x = false := by
  rw [codeChar_iff, hx] at h
  exact eq_false_of_ne_true fun hopens => h (congrArg some (eq_code_iff.1 hopens))

theorem NextOpening.groupsFrom_eq (h : NextOpening text k p) :
    groupsFrom none ((marked text).drop k) = groupsFrom (some (0, [])) (marked (text.drop (p + 1))) := by
  obtain ⟨⟨hk, hopen⟩, hleast⟩ := h
  obtain ⟨n, rfl⟩ := Nat.exists_eq_add_of_le hk
  have hskip : ∀ i < n, ∀ x, ((marked text).drop k)[i]? = some x → opens x = false := by
    intro i hi x hx
    rw [List.getElem?_drop] at hx
    refine opens_eq_false (fun hbefore => ?_) hx
    have hle := hleast ⟨Nat.le_add_right k i, hbefore⟩
    omega
  rw [groupsFrom_none_of_not hskip, List.drop_drop, ← hopen.boundary.drop_marked,
    List.drop_eq_getElem?_toList_append, codeChar_iff.1 hopen]
  rfl

theorem GroupsBehind.groupsFrom_eq {gs : List (List Char)} (h : GroupsBehind text k gs) :
    groupsFrom none ((marked text).drop k) = gs := by
  induction h with
  | @unopened k hnone =>
    have hskip : ∀ i < ((marked text).drop k).length, ∀ x, ((marked text).drop k)[i]? = some x →
        opens x = false := by
      intro i _ x hx
      rw [List.getElem?_drop] at hx
      exact opens_eq_false (hnone (k + i) (Nat.le_add_right k i)) hx
    rw [groupsFrom_none_of_not hskip, List.drop_length]
    rfl
  | unclosed hopen hclose =>
    rw [closingParen?, Option.map_eq_none_iff] at hclose
    rw [hopen.groupsFrom_eq, groupsFrom_some, hclose]
  | @group k p e gs hopen hclose _ ih =>
    rw [closingParen?, Option.map_eq_some_iff] at hclose
    obtain ⟨j, hj, rfl⟩ := hclose
    have hbody : ((marked (text.drop (p + 1))).take j).map Prod.fst = text.extract (p + 1) (p + 1 + j) := by
      rw [List.map_take, map_fst_marked, List.extract_eq_take_drop, Nat.add_sub_cancel_left]
    have hbehind : groupsFrom none ((marked (text.drop (p + 1))).drop (j + 1)) = gs := by
      rw [← hopen.1.2.boundary.drop_marked, List.drop_drop]
      exact ih
    rw [hopen.groupsFrom_eq, groupsFrom_some, hj]
    simp only [hbody, hbehind, List.reverse_nil, List.nil_append]

theorem exists_groupsBehind (text : List Char) (k : Nat) : ∃ gs, GroupsBehind text k gs := by
  classical
  induction hrest : text.length - k using Nat.strongRecOn generalizing k with
  | _ rest ih =>
    by_cases hsome : ∃ p, k ≤ p ∧ CodeChar text '(' p
    · have hopen : NextOpening text k (Nat.find hsome) := Nat.isLeast_find hsome
      have hk : k ≤ Nat.find hsome := hopen.1.1
      have hlength : Nat.find hsome < text.length := (List.getElem?_eq_some_iff.1 hopen.1.2.1).1
      cases hclose : closingParen? text (Nat.find hsome + 1) with
      | none => exact ⟨[], .unclosed hopen hclose⟩
      | some e =>
        have he : Nat.find hsome + 1 ≤ e := by
          obtain ⟨i, _, rfl⟩ := (closingParen?_eq_some_iff.1 hclose).1
          exact Nat.le_add_right _ i
        obtain ⟨gs, hgs⟩ := ih (text.length - (e + 1)) (by omega) (e + 1) rfl
        exact ⟨_, .group hopen hclose hgs⟩
    · exact ⟨[], .unopened fun p hp hopen => hsome ⟨p, hp, hopen⟩⟩

theorem groups_eq_iff {gs : List (List Char)} : groups text = gs ↔ GroupsBehind text 0 gs := by
  constructor
  · rintro rfl
    obtain ⟨gs, hgs⟩ := exists_groupsBehind text 0
    rw [← hgs.groupsFrom_eq] at hgs
    exact hgs
  · exact fun h => h.groupsFrom_eq

end

/-- The scan for a closing parenthesis gives the first place at which more have been closed than opened,
or nothing when there is none; and the outermost groups are those that it finds one behind the other. -/
theorem closings_and_groups (text : List Char) :
    (∀ start e, closingParen? text start = some e ↔ IsLeast {i | ClosesBehind text start i} e) ∧
      (∀ start, closingParen? text start = none ↔ ∀ e, ¬ ClosesBehind text start e) ∧
      ∀ gs, groups text = gs ↔ GroupsBehind text 0 gs :=
  ⟨fun _ _ => closingParen?_eq_some_iff, fun _ => closingParen?_eq_none_iff, fun _ => groups_eq_iff⟩

example : groups ")(a'(' /*)*/ (b))--(\n(c)(".toList = ["a'(' /*)*/ (b)".toList, ['c']] := by decide

end SchemaBindings.Script

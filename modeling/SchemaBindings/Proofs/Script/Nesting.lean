import SchemaBindings.Proofs.Script.Zones
import SchemaBindings.Script.Cell

/-!
Texts whose parentheses pair up. A balanced text is passed over as a whole by everything that counts
parentheses, whatever stands around it, and blanking its comments leaves it balanced.
-/

namespace SchemaBindings.Script

set_option autoImplicit false

/-- How many parentheses are open behind the characters when `depth` are open before them; nothing
when one is closed that was not opened. -/
def nesting? (depth : Nat) : List (Char × Zone) → Option Nat
  | [] => some depth
  | x :: rest =>
    if opens x then nesting? (depth + 1) rest
    else if closes x then
      match depth with
      | 0 => none
      | depth + 1 => nesting? depth rest
    else nesting? depth rest

/-- The parentheses outside literals and comments pair up. -/
def Balanced (text : List Char) : Prop := nesting? 0 (marked text) = some 0

instance (text : List Char) : Decidable (Balanced text) :=
  inferInstanceAs (Decidable (nesting? 0 (marked text) = some 0))

/-- Characters that lead from `k` to `e` open parentheses do so inside `d` further ones. -/
theorem nesting?_append {k e : Nat} {xs : List (Char × Zone)} (h : nesting? k xs = some e) (d : Nat)
    (rest : List (Char × Zone)) : nesting? (d + k) (xs ++ rest) = nesting? (d + e) rest := by
  induction xs generalizing k with
  | nil =>
    obtain rfl : k = e := by simpa [nesting?] using h
    rfl
  | cons x more ih =>
    simp only [nesting?] at h
    simp only [List.cons_append, nesting?]
    split at h
    · rename_i ho
      rw [if_pos ho, Nat.add_assoc, ih h]
    · rename_i ho
      rw [if_neg ho]
      split at h
      · rename_i hc
        rw [if_pos hc]
        cases k with
        | zero => simp at h
        | succ k => exact ih h
      · rename_i hc
        rw [if_neg hc, ih h]

theorem Balanced.append {a b : List Char} (hs : Sealed a) (ha : Balanced a) (hb : Balanced b) :
    Balanced (a ++ b) := by
  have happ := nesting?_append ha 0 (marked b)
  rw [Nat.add_zero] at happ
  rw [Balanced, hs.marked, happ]
  exact hb

theorem balanced_of_plain {a : List Char} (ha : ∀ c ∈ a, c ≠ '(' ∧ c ≠ ')') : Balanced a := by
  have hplain : ∀ xs : List (Char × Zone), (∀ x ∈ xs, x.1 ≠ '(' ∧ x.1 ≠ ')') →
      nesting? 0 xs = some 0 := by
    intro xs hxs
    induction xs with
    | nil => rfl
    | cons x rest ih =>
      obtain ⟨ho, hc⟩ := hxs x List.mem_cons_self
      have hrest := ih fun y hy => hxs y (List.mem_cons_of_mem x hy)
      simp [nesting?, opens, closes, ho, hc, hrest]
  refine hplain _ ?_
  intro x hx
  exact ha x.1 (List.of_mem_zip hx).1

theorem Balanced.parenthesised {a : List Char} (hc : Closed a) (h : Balanced a) :
    Balanced ('(' :: (a ++ [')'])) := by
  have hopen : Sealed ['('] := sealed_singleton (by decide)
  have hclose : marked (a ++ [')']) = marked a ++ [(')', .code)] :=
    hc.marked_append (by simp [isMarker])
  have hinner := nesting?_append h 1 [(')', .code)]
  rw [Balanced, ← List.singleton_append, hopen.marked, hclose]
  exact hinner

theorem balanced_intercalate {s : List Char} (hs : Sealed s) (hb : Balanced s)
    {pieces : List (List Char)} (hp : ∀ a ∈ pieces, Sealed a) (h : ∀ a ∈ pieces, Balanced a) :
    Balanced (s.intercalate pieces) := by
  induction pieces with
  | nil => exact rfl
  | cons a rest ih =>
    have hrest := ih (fun b hb => hp b (List.mem_cons_of_mem a hb))
      (fun b hb => h b (List.mem_cons_of_mem a hb))
    cases rest with
    | nil => simpa using h a List.mem_cons_self
    | cons b more =>
      have ha := hp a List.mem_cons_self
      rw [List.intercalate_cons_cons]
      exact ((h a List.mem_cons_self).append ha hb).append (ha.append hs) hrest

/-- A text without literals and comments whose parentheses pair up. -/
structure Paired (a : List Char) : Prop where
  plain : ∀ c ∈ a, isMarker c = false
  balanced : Balanced a

theorem paired_of_plain {a : List Char}
    (h : ∀ c ∈ a, isMarker c = false ∧ c ≠ '(' ∧ c ≠ ')') : Paired a where
  plain := fun c hc => (h c hc).1
  balanced := balanced_of_plain fun c hc => (h c hc).2

theorem Paired.append {a b : List Char} (ha : Paired a) (hb : Paired b) : Paired (a ++ b) where
  plain := by
    simp only [List.forall_mem_append]
    exact ⟨ha.plain, hb.plain⟩
  balanced := ha.balanced.append (sealed_of_plain ha.plain) hb.balanced

theorem Paired.parenthesised {a : List Char} (h : Paired a) : Paired (['('] ++ (a ++ [')'])) where
  plain := by
    simp only [List.forall_mem_append]
    exact ⟨by decide, h.plain, by decide⟩
  balanced := h.balanced.parenthesised (closed_of_plain h.plain)

theorem blank_comment_ne {d : Char} (hs : d ≠ ' ') (hr : d ≠ '\r') (hn : d ≠ '\n') (c : Char) :
    blank c .comment ≠ d := by
  unfold blank
  split
  · exact fun h => hs h.symm
  · rename_i h
    rintro rfl
    exact h ⟨rfl, hr, hn⟩

/-- Blanking comments neither makes nor removes a mark that stands in code. -/
theorem isCodeChar_cleared {d : Char} (hs : d ≠ ' ') (hr : d ≠ '\r') (hn : d ≠ '\n')
    (x : Char × Zone) :
    ((cleared x).1 == d && (cleared x).2 == .code) = (x.1 == d && x.2 == .code) := by
  obtain ⟨c, z⟩ := x
  cases z with
  | code => rw [cleared, blank_code]; rfl
  | literal => rw [cleared, blank_literal]; rfl
  | comment =>
    have hblank : (blank c .comment == d) = false := beq_false_of_ne (blank_comment_ne hs hr hn c)
    have hzone : (Zone.comment == Zone.code) = false := rfl
    simp only [cleared, hblank, hzone, Bool.false_and, Bool.and_false]

theorem opens_cleared (x : Char × Zone) : opens (cleared x) = opens x :=
  isCodeChar_cleared (by decide) (by decide) (by decide) x

theorem closes_cleared (x : Char × Zone) : closes (cleared x) = closes x :=
  isCodeChar_cleared (by decide) (by decide) (by decide) x

theorem nesting?_cleared (depth : Nat) (xs : List (Char × Zone)) :
    nesting? depth (xs.map cleared) = nesting? depth xs := by
  induction xs generalizing depth with
  | nil => rfl
  | cons x rest ih =>
    cases depth <;> simp only [List.map_cons, nesting?, opens_cleared, closes_cleared, ih]

theorem Balanced.mask {text : List Char} (h : Balanced text) : Balanced (mask text) := by
  rw [Balanced, marked_mask, nesting?_cleared]
  exact h

/-- One character closes the parenthesis that is asked for, or the search goes on behind it. -/
theorem closingFrom_cons (depth : Nat) (x : Char × Zone) :
    (closes x = true ∧ ∀ rest, closingFrom depth (x :: rest) = some 0) ∨
      ∃ d, ∀ rest, closingFrom depth (x :: rest) = (closingFrom d rest).map (· + 1) := by
  cases hopens : opens x with
  | true => exact .inr ⟨depth + 1, fun rest => by simp [closingFrom, hopens]⟩
  | false =>
    cases hcloses : closes x with
    | true =>
      cases depth with
      | zero => exact .inl ⟨rfl, fun rest => by simp [closingFrom, hopens, hcloses]⟩
      | succ d => exact .inr ⟨d, fun rest => by simp [closingFrom, hopens, hcloses]⟩
    | false => exact .inr ⟨depth, fun rest => by simp [closingFrom, hopens, hcloses]⟩

theorem closes_of_closingFrom {depth k : Nat} {xs : List (Char × Zone)} (h : closingFrom depth xs = some k) :
    ∃ x, xs[k]? = some x ∧ closes x = true := by
  induction xs generalizing depth k with
  | nil => cases h
  | cons x rest ih =>
    rcases closingFrom_cons depth x with ⟨hcloses, hclosed⟩ | ⟨d, hmore⟩
    · rw [hclosed] at h
      cases h
      exact ⟨x, rfl, hcloses⟩
    · rw [hmore] at h
      obtain ⟨j, hj, rfl⟩ := Option.map_eq_some_iff.1 h
      exact ih hj

theorem closingFrom_append {k e : Nat} {xs : List (Char × Zone)} (h : nesting? k xs = some e)
    (d : Nat) (rest : List (Char × Zone)) :
    closingFrom (d + k) (xs ++ rest) = (closingFrom (d + e) rest).map (· + xs.length) := by
  induction xs generalizing k with
  | nil =>
    obtain rfl : k = e := by simpa [nesting?] using h
    simp
  | cons x more ih =>
    simp only [nesting?] at h
    simp only [List.cons_append, closingFrom, List.length_cons]
    split at h
    · rename_i ho
      rw [if_pos ho, Nat.add_assoc, ih h, Option.map_map]
      rfl
    · rename_i ho
      rw [if_neg ho]
      split at h
      · rename_i hc
        rw [if_pos hc]
        cases k with
        | zero => simp at h
        | succ k =>
          change (closingFrom (d + k) (more ++ rest)).map (· + 1) = _
          rw [ih h, Option.map_map]
          rfl
      · rename_i hc
        rw [if_neg hc, ih h, Option.map_map]
        rfl

theorem groupsFrom_append {k e : Nat} {xs : List (Char × Zone)} (h : nesting? k xs = some e)
    (d : Nat) (body : List Char) (rest : List (Char × Zone)) :
    groupsFrom (some (d + k, body)) (xs ++ rest) =
      groupsFrom (some (d + e, (xs.map Prod.fst).reverse ++ body)) rest := by
  induction xs generalizing k body with
  | nil =>
    obtain rfl : k = e := by simpa [nesting?] using h
    simp
  | cons x more ih =>
    simp only [nesting?] at h
    simp only [List.cons_append, groupsFrom, List.map_cons, List.reverse_cons, List.append_assoc,
      List.nil_append]
    split at h
    · rename_i ho
      rw [if_pos ho, Nat.add_assoc, ih h]
    · rename_i ho
      rw [if_neg ho]
      split at h
      · rename_i hc
        rw [if_pos hc]
        cases k with
        | zero => simp at h
        | succ k => exact ih h (x.1 :: body)
      · rename_i hc
        rw [if_neg hc, ih h]

/-- The parenthesis behind a balanced text closes one before it. -/
theorem closingFrom_balanced {text : List Char} (h : Balanced text) (rest : List (Char × Zone)) :
    closingFrom 0 (marked text ++ (')', .code) :: rest) = some text.length := by
  have happ := closingFrom_append h 0 ((')', .code) :: rest)
  simpa [closingFrom, opens, closes] using happ

/-- A balanced text in parentheses is a group of its own. -/
theorem groupsFrom_balanced {text : List Char} (h : Balanced text) (rest : List (Char × Zone)) :
    groupsFrom none (('(', .code) :: marked text ++ (')', .code) :: rest) =
      text :: groupsFrom none rest := by
  have happ := groupsFrom_append h 0 [] ((')', .code) :: rest)
  simp only [Nat.add_zero, map_fst_marked, List.append_nil] at happ
  rw [List.cons_append, groupsFrom]
  simpa [groupsFrom, opens, closes] using happ

end SchemaBindings.Script

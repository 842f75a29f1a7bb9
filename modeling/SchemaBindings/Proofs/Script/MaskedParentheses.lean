import SchemaBindings.Proofs.Script.Parentheses

/-!
Parentheses of a script with its comments blanked. They are found where they are found in the script
itself, and each group is the group of the script with its own comments blanked: where a group begins the
text is cut, and no mark begins with the parenthesis that ends it.
-/

namespace SchemaBindings.Script

set_option autoImplicit false

variable {text : List Char} {d : Char} {k p e : Nat}

theorem Boundary.drop_mask (h : Boundary text k) : (mask text).drop k = mask (text.drop k) := by
  rw [mask, mask, ← h.drop_zones]
  exact List.drop_zipWith

/-- The start of a text is blanked as it stands when no mark goes on behind it. -/
theorem take_mask (h : ∀ c ∈ (text.drop k).head?, isMarker c = false) :
    (mask text).take k = mask (text.take k) := by
  have hzones : (zones text).take k = zones (text.take k) := by
    have happ := zonesFrom_append h .code (text.take k)
    rw [List.take_append_drop] at happ
    rw [zones, happ]
    rcases Nat.le_total k text.length with hk | hk
    · exact List.take_left' (by rw [length_zonesFrom, List.length_take, Nat.min_eq_left hk])
    · rw [List.drop_eq_nil_of_le hk, zonesFrom_nil, List.append_nil, List.take_of_length_le]
      · rfl
      · rw [length_zonesFrom]
        exact List.length_take_le k text
  rw [mask, mask, List.take_zipWith, hzones]

theorem codeChar_mask (hs : d ≠ ' ') (hr : d ≠ '\r') (hn : d ≠ '\n') :
    CodeChar (mask text) d p ↔ CodeChar text d p := by
  rw [codeChar_iff, codeChar_iff, marked_mask, List.getElem?_map]
  cases (marked text)[p]? with
  | none => rfl
  | some x =>
    have hclear := isCodeChar_cleared hs hr hn x
    rw [Option.map_some, Option.some.injEq, Option.some.injEq, ← eq_code_iff, ← eq_code_iff, hclear]

theorem nextOpening_mask : NextOpening (mask text) k p ↔ NextOpening text k p := by
  rw [NextOpening, NextOpening]
  simp only [codeChar_mask (d := '(') (by decide) (by decide) (by decide)]

theorem closingFrom_cleared (depth : Nat) (xs : List (Char × Zone)) :
    closingFrom depth (xs.map cleared) = closingFrom depth xs := by
  induction xs generalizing depth with
  | nil => rfl
  | cons x rest ih =>
    cases depth <;> simp only [List.map_cons, closingFrom, opens_cleared, closes_cleared, ih]

theorem Boundary.closingParen?_mask (h : Boundary text k) :
    closingParen? (mask text) k = closingParen? text k := by
  rw [closingParen?, h.drop_mask, marked_mask, closingFrom_cleared]
  rfl

theorem extract_mask (hopen : CodeChar text '(' p) (hclose : closingParen? text (p + 1) = some e) :
    (mask text).extract (p + 1) e = mask (text.extract (p + 1) e) := by
  obtain ⟨i, ⟨⟨hparen, _⟩, _⟩, rfl⟩ := (closingParen?_eq_some_iff.1 hclose).1
  have hhead : ∀ c ∈ ((text.drop (p + 1)).drop i).head?, isMarker c = false := by
    rw [List.head?_drop, hparen]
    decide
  rw [List.extract_eq_take_drop, List.extract_eq_take_drop, hopen.boundary.drop_mask, Nat.add_sub_cancel_left,
    take_mask hhead]

theorem GroupsBehind.mask {gs : List (List Char)} (h : GroupsBehind text k gs) :
    GroupsBehind (mask text) k (gs.map Script.mask) := by
  induction h with
  | unopened hnone =>
    refine .unopened fun p hp hopen => hnone p hp ?_
    exact (codeChar_mask (by decide) (by decide) (by decide)).1 hopen
  | unclosed hopen hclose =>
    exact .unclosed (nextOpening_mask.2 hopen) (hopen.1.2.boundary.closingParen?_mask.trans hclose)
  | group hopen hclose _ ih =>
    rw [List.map_cons, ← extract_mask hopen.1.2 hclose]
    exact .group (nextOpening_mask.2 hopen) (hopen.1.2.boundary.closingParen?_mask.trans hclose) ih

/-- Blanking the comments of a text and scanning it for parentheses may change places. -/
theorem parentheses_mask (text : List Char) :
    groups (mask text) = (groups text).map mask ∧
      ∀ p, CodeChar text '(' p → closingParen? (mask text) (p + 1) = closingParen? text (p + 1) :=
  ⟨groups_eq_iff.2 (groups_eq_iff.1 rfl).mask, fun _ hopen => hopen.boundary.closingParen?_mask⟩

example : groups (mask "(a--'(\n)(/*)*/b)".toList) = ["a    \n".toList, "     b".toList] := by decide

end SchemaBindings.Script

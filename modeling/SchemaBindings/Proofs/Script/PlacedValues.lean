import SchemaBindings.Proofs.Script.RowValues

/-!
One value in a row of any text. Commas cut off what stands in front of it and behind it, as long as no literal
in front of it is left open.
-/

namespace SchemaBindings.Script

set_option autoImplicit false

/-- Whether a literal is open at the end of a text. A doubled quote closes it and opens it again. -/
def openAtEnd (quoted : Bool) (text : List Char) : Bool :=
  text.foldl (fun quoted c => if c = '\'' then !quoted else quoted) quoted

theorem openAtEnd_cons_of_ne {c : Char} (hc : c ≠ '\'') (quoted : Bool) (text : List Char) :
    openAtEnd quoted (c :: text) = openAtEnd quoted text := by
  rw [openAtEnd, List.foldl_cons, if_neg hc]
  rfl

theorem head?_append_comma_ne {text : List Char} (h : text.head? ≠ some '\'') (rest : List Char) :
    (text ++ ',' :: rest).head? ≠ some '\'' := by
  cases text with
  | nil => exact fun heq => absurd (Option.some.inj heq) (by decide)
  | cons c more => exact h

/-- A comma outside literals ends the values in front of it. -/
theorem cellsFrom_append_comma {quoted : Bool} {cell text : List Char} (h : openAtEnd quoted text = false)
    (rest : List Char) :
    cellsFrom quoted cell (text ++ ',' :: rest) = cellsFrom quoted cell text ++ cellsFrom false [] rest := by
  fun_induction cellsFrom quoted cell text with
  | case1 quoted cell =>
    obtain rfl : quoted = false := h
    rw [List.nil_append, cellsFrom, List.singleton_append]
  | case2 cell text ih => exact ih h
  | case3 cell text hnext ih =>
    have hhead : text.head? ≠ some '\'' := by
      intro hhead
      obtain ⟨more, rfl⟩ := List.head?_eq_some_iff.1 hhead
      exact hnext more rfl
    have hclose : cellsFrom true cell ('\'' :: (text ++ ',' :: rest)) =
        cellsFrom false cell (text ++ ',' :: rest) := by
      rw [cellsFrom]
      intro more hmore
      exact head?_append_comma_ne hhead rest (hmore ▸ rfl)
    rw [List.cons_append, hclose]
    exact ih h
  | case4 cell c text _ hquote ih =>
    rw [openAtEnd_cons_of_ne hquote] at h
    rw [List.cons_append, cellsFrom_quoted_cons hquote]
    exact ih h
  | case5 cell text ih =>
    rw [List.cons_append, cellsFrom]
    exact ih h
  | case6 cell text ih => exact ih h
  | case7 cell text ih =>
    rw [List.cons_append, cellsFrom, List.cons_append]
    exact congrArg _ (ih h)
  | case8 cell c text hquote hnational hcomma ih =>
    rw [openAtEnd_cons_of_ne hquote] at h
    have hnext : c = 'N' → (text ++ ',' :: rest).head? ≠ some '\'' := by
      rintro rfl
      apply head?_append_comma_ne
      intro hhead
      obtain ⟨more, rfl⟩ := List.head?_eq_some_iff.1 hhead
      exact hnational more rfl rfl
    rw [List.cons_append, cellsFrom_cons hcomma hquote hnext]
    exact ih h

/-- A value in a row, with the texts in front of it and behind it, if there are such texts. -/
structure PlacedValue where
  value : RowValue
  before : Option (List Char) := none
  after : Option (List Char) := none
  closed : ∀ text ∈ before, openAtEnd false text = false := by decide

namespace PlacedValue
variable (p : PlacedValue)

def back : List Char := (p.after.map (',' :: ·)).getD []

def text : List Char := (p.before.map (· ++ [','])).getD [] ++ (p.value.text ++ p.back)

def place : Nat := (p.before.map fun text => (cellsFrom false [] text).length).getD 0

theorem cellsFrom_value :
    ∃ rest, cellsFrom false [] (p.value.text ++ p.back) = p.value.written.value :: rest := by
  have hback : p.back.head? ≠ some '\'' := by
    unfold back
    cases p.after with
    | none => simp
    | some text => exact fun heq => absurd (Option.some.inj heq) (by decide)
  rw [p.value.cellsFrom_text hback]
  unfold back
  cases p.after with
  | none => exact ⟨[], congrArg (· :: []) (List.reverse_reverse _)⟩
  | some text =>
    refine ⟨cellsFrom false [] text, ?_⟩
    rw [Option.map_some, Option.getD_some, cellsFrom, List.reverse_reverse]

theorem cellsFrom_text : (cellsFrom false [] p.text)[p.place]? = some p.value.written.value := by
  obtain ⟨rest, hvalue⟩ := p.cellsFrom_value
  have hclosed := p.closed
  unfold text place
  cases hbefore : p.before with
  | none =>
    rw [Option.map_none, Option.map_none, Option.getD_none, Option.getD_none, List.nil_append, hvalue]
    rfl
  | some text =>
    rw [Option.map_some, Option.map_some, Option.getD_some, Option.getD_some, List.append_assoc,
      List.singleton_append, cellsFrom_append_comma (hclosed text hbefore), hvalue,
      List.getElem?_append_right (Nat.le_refl _), Nat.sub_self]
    rfl

theorem all_isBlank_text : p.text.all Text.isBlank = false := by
  obtain ⟨c, hc, hnot⟩ := p.value.written.exists_not_blank
  have hvalue : c ∈ p.value.text := List.mem_append_right _ (List.mem_append_left _ hc)
  rw [List.all_eq_false]
  exact ⟨c, List.mem_append_right _ (List.mem_append_left _ hvalue), by rw [hnot]; decide⟩

/-- A value is read back in its place, whatever values stand around it. -/
theorem cellStrings_place : (cellStrings p.text)[p.place]? = some (String.ofList p.value.written.value) := by
  rw [cellStrings, cells, p.all_isBlank_text, if_neg Bool.false_ne_true, List.getElem?_map, p.cellsFrom_text,
    Option.map_some]

end PlacedValue

end SchemaBindings.Script

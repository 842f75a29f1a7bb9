import SchemaBindings.Proofs.Script.Nesting
import SchemaBindings.Schema.Seed
import SchemaBindings.Script.Cell

/-!
How many values a row has: one more than the commas outside its literals. A comma between parentheses
separates values as well, so a call with several arguments takes several places, and a row with such a call
is wider than its columns.
-/

namespace SchemaBindings.Script

set_option autoImplicit false

open Text (isBlank)

def isComma (x : Char × Zone) : Bool := x.1 == ',' && x.2 == .code

/-- How many parentheses are open at each comma, `depth` being open at the start. -/
def commaDepths (depth : Nat) : List (Char × Zone) → List Nat
  | [] => []
  | x :: rest =>
    if opens x then commaDepths (depth + 1) rest
    else if closes x then commaDepths (depth - 1) rest
    else if isComma x then depth :: commaDepths depth rest
    else commaDepths depth rest

theorem isComma_of_parenthesis {x : Char × Zone} (h : opens x = true ∨ closes x = true) :
    isComma x = false := by
  unfold opens closes at h
  unfold isComma
  rcases h with h | h
  · rw [Bool.and_eq_true, beq_iff_eq] at h
    rw [h.1]
    rfl
  · rw [Bool.and_eq_true, beq_iff_eq] at h
    rw [h.1]
    rfl

theorem length_commaDepths (depth : Nat) (xs : List (Char × Zone)) :
    (commaDepths depth xs).length = xs.countP isComma := by
  induction xs generalizing depth with
  | nil => rfl
  | cons x rest ih =>
    rw [commaDepths, List.countP_cons]
    split
    · rename_i hopens
      rw [ih, isComma_of_parenthesis (.inl hopens)]
      rfl
    · split
      · rename_i hcloses
        rw [ih, isComma_of_parenthesis (.inr hcloses)]
        rfl
      · split
        · rw [List.length_cons, ih]
        · rw [ih]
          rfl

/-- The commas in code of a text that is read from a mode on. -/
def commas (m : Mode) (text : List Char) : Nat := (text.zip (zonesFrom m text)).countP isComma

def NoComment (m : Mode) (text : List Char) : Prop := ∀ z ∈ zonesFrom m text, z ≠ .comment

instance (m : Mode) (text : List Char) : Decidable (NoComment m text) :=
  inferInstanceAs (Decidable (∀ z ∈ zonesFrom m text, z ≠ .comment))

section
variable {m m' : Mode} {c : Char} {z : Zone} {rest : List Char}

theorem commas_cons (h : m.step c rest.head? = (z, m')) (hz : isComma (c, z) = false) :
    commas m (c :: rest) = commas m' rest := by
  rw [commas, zonesFrom, h, List.zip_cons_cons, List.countP_cons, hz]
  rfl

theorem commas_comma (rest : List Char) : commas .code (',' :: rest) = commas .code rest + 1 := by
  have hstep : Mode.code.step ',' rest.head? = (.code, .code) := rfl
  rw [commas, zonesFrom, hstep, List.zip_cons_cons, List.countP_cons_of_pos rfl]
  rfl

theorem noComment_cons (h : m.step c rest.head? = (z, m')) :
    NoComment m (c :: rest) ↔ z ≠ .comment ∧ NoComment m' rest := by
  rw [NoComment, zonesFrom, h, List.forall_mem_cons]
  rfl

theorem step_code_of_noComment (hq : c ≠ '\'') (h : NoComment .code (c :: rest)) :
    Mode.code.step c rest.head? = (.code, .code) := by
  have hzone : (Mode.code.step c rest.head?).1 ≠ .comment := ((noComment_cons rfl).1 h).1
  unfold Mode.step at hzone ⊢
  split <;> simp_all

end

/-- The mode in which the rest of a row is read, in a literal or outside. -/
def rowMode (quoted : Bool) : Mode := if quoted then .literal else .code

/-- Without comments, a row ends its values where the zones have a comma in code. -/
theorem length_cellsFrom (quoted : Bool) (cell row : List Char) (h : NoComment (rowMode quoted) row) :
    (cellsFrom quoted cell row).length = commas (rowMode quoted) row + 1 := by
  fun_induction cellsFrom quoted cell row with
  | case1 => rfl
  | case2 cell rest ih =>
    have hfirst : Mode.literal.step '\'' ('\'' :: rest).head? = (.literal, .doubled) := rfl
    have hsecond : Mode.doubled.step '\'' rest.head? = (.literal, .literal) := rfl
    rw [ih ((noComment_cons hsecond).1 ((noComment_cons hfirst).1 h).2).2]
    exact congrArg Nat.succ ((commas_cons hfirst rfl).trans (commas_cons hsecond rfl)).symm
  | case3 cell rest hrest ih =>
    have hnext : rest.head? ≠ some '\'' := by
      intro hhead
      obtain ⟨more, rfl⟩ := List.head?_eq_some_iff.1 hhead
      exact hrest more rfl
    have hstep := Mode.step_literal_quote hnext
    rw [ih ((noComment_cons hstep).1 h).2]
    exact congrArg Nat.succ (commas_cons hstep rfl).symm
  | case4 cell c rest _ hquote ih =>
    have hstep := Mode.step_literal_of_ne hquote rest.head?
    rw [ih ((noComment_cons hstep).1 h).2]
    exact congrArg Nat.succ (commas_cons hstep (Bool.and_false _)).symm
  | case5 cell rest ih =>
    have hstep : Mode.code.step '\'' rest.head? = (.literal, .literal) := rfl
    rw [ih ((noComment_cons hstep).1 h).2]
    exact congrArg Nat.succ (commas_cons hstep rfl).symm
  | case6 cell rest ih =>
    have hfirst : Mode.code.step 'N' ('\'' :: rest).head? = (.code, .code) := rfl
    have hsecond : Mode.code.step '\'' rest.head? = (.literal, .literal) := rfl
    rw [ih ((noComment_cons hsecond).1 ((noComment_cons hfirst).1 h).2).2]
    exact congrArg Nat.succ ((commas_cons hfirst rfl).trans (commas_cons hsecond rfl)).symm
  | case7 cell rest ih =>
    have hstep : Mode.code.step ',' rest.head? = (.code, .code) := rfl
    rw [List.length_cons, ih ((noComment_cons hstep).1 h).2]
    exact congrArg Nat.succ (commas_comma rest).symm
  | case8 cell c rest hquote _ hcomma ih =>
    have hstep := step_code_of_noComment hquote h
    have hzone : isComma (c, .code) = false := by
      rw [isComma, beq_false_of_ne hcomma]
      rfl
    rw [ih ((noComment_cons hstep).1 h).2]
    exact congrArg Nat.succ (commas_cons hstep hzone).symm

section
variable {row : List Char}

theorem length_cells (hrow : row.all isBlank = false) (h : NoComment .code row) :
    (cells row).length = (commaDepths 0 (marked row)).length + 1 := by
  rw [cells, hrow, if_neg Bool.false_ne_true, length_commaDepths]
  exact length_cellsFrom false [] row h

/-- A row without comments has one value more than there are commas outside its literals, however deep
they stand in parentheses. So it is as wide as the commas outside parentheses make it only if there are
no others. -/
theorem fits_cellStrings (hrow : row.all isBlank = false) (h : NoComment .code row) :
    (cells row).length = (commaDepths 0 (marked row)).length + 1 ∧
    ∀ s : Seed, s.columnNames.length = (commaDepths 0 (marked row)).count 0 + 1 →
      (s.fits (cellStrings row) = true ↔ ∀ d ∈ commaDepths 0 (marked row), d = 0) := by
  have hlength := length_cells hrow h
  refine ⟨hlength, fun s hwidth => ?_⟩
  rw [Seed.fits, beq_iff_eq, cellStrings, List.length_map, hlength, hwidth, Nat.add_right_cancel_iff, eq_comm,
    List.count_eq_length]
  simp only [eq_comm]

end

/-- A row for three columns, of which the last value is a call. -/
def castRow : List Char := "1, 'Low (,)', CAST(1.50 AS decimal(5,2))".toList

def rateSeed : Seed where
  schemaName := "dbo"
  tableName := "Rate"
  columnNames := ["RateID", "RateName", "Amount"]
  rows := []

theorem fits_castRow : castRow.all isBlank = false ∧ NoComment .code castRow ∧
    rateSeed.columnNames.length = (commaDepths 0 (marked castRow)).count 0 + 1 ∧
    (cells castRow).length = 4 ∧ rateSeed.fits (cellStrings castRow) = false := by
  have hrow : castRow.all isBlank = false := by decide
  have hcode : NoComment .code castRow := by decide
  have hwidth : rateSeed.columnNames.length = (commaDepths 0 (marked castRow)).count 0 + 1 := by decide
  obtain ⟨hlength, hfits⟩ := fits_cellStrings hrow hcode
  have hdeep : ¬ ∀ d ∈ commaDepths 0 (marked castRow), d = 0 := by decide
  refine ⟨hrow, hcode, hwidth, hlength.trans (by decide), ?_⟩
  rw [Bool.eq_false_iff]
  exact mt (hfits rateSeed hwidth).1 hdeep

/-- The comma in the call ends a value. -/
theorem cellStrings_castRow : Balanced castRow ∧ Closed castRow ∧ castRow.all isBlank = false ∧
    NoComment .code castRow ∧ (commaDepths 0 (marked castRow)).count 0 + 1 = 3 ∧
    cellStrings castRow = ["1", "Low (,)", "CAST(1.50ASdecimal(5", "2))"] := by
  decide

end SchemaBindings.Script

import SchemaBindings.Proofs.Results
import SchemaBindings.Proofs.Text.Digits

/-!
Which texts can be read as whole numbers, and which numbers can be written. A text that is no number is
read as nothing; a text that is one is refused only for its length, or for a separator beside it. A number
is written in one way, without zeros in front.
-/

namespace SchemaBindings.Text

set_option autoImplicit false

theorem isBlank_of_isDecimal {c : Char} (h : isDecimal c = true) : isBlank c = false := by
  have hword := isWordChar_of_isAlphanumeric (isAlphanumeric_of_isDigit (isDigit_of_isDecimal h))
  rw [← Bool.not_eq_true]
  intro hblank
  rw [Script.isWordChar_of_isBlank hblank] at hword
  cases hword

theorem isDecimal_of_isBlank {c : Char} (h : isBlank c = true) : isDecimal c = false := by
  rw [← Bool.not_eq_true]
  intro hdecimal
  rw [isBlank_of_isDecimal hdecimal] at h
  cases h

theorem decimalValue?_lt (c : Char) : (decimalValue? c).getD 0 < 10 := by
  unfold decimalValue?
  cases hfind : decimalZeros.find? fun z => z ≤ c.toNat && c.toNat < z + 10 with
  | none => exact Nat.succ_pos 9
  | some z =>
    have hz := List.find?_some hfind
    simp only [Bool.and_eq_true, decide_eq_true_eq] at hz
    simp only [Option.map_some, Option.getD_some]
    omega

namespace Numeral

theorem value_lt (digits : List Char) : value digits < 10 ^ digits.length := by
  have hfold : ∀ (cs : List Char) (n : Nat),
      cs.foldl (fun n c => 10 * n + (decimalValue? c).getD 0) n < (n + 1) * 10 ^ cs.length := by
    intro cs
    induction cs with
    | nil =>
      intro n
      simp
    | cons c rest ih =>
      intro n
      have hc := decimalValue?_lt c
      have hstep : 10 * n + (decimalValue? c).getD 0 + 1 ≤ (n + 1) * 10 := by omega
      have hmore := Nat.mul_le_mul_right (10 ^ rest.length) hstep
      rw [List.foldl_cons, List.length_cons, Nat.pow_succ', ← Nat.mul_assoc]
      exact Nat.lt_of_lt_of_le (ih _) hmore
  have hall := hfold digits 0
  rwa [Nat.zero_add, Nat.one_mul] at hall

theorem value_lt_pow {digits : List Char} {limit : Nat} (h : digits.length ≤ limit) :
    value digits < Nat.pow 10 limit :=
  Nat.lt_of_lt_of_le (value_lt digits) (Nat.pow_le_pow_right (by decide) h)

theorem ten_lt_pow {limit : Nat} (h : 2 ≤ limit) : 10 < Nat.pow 10 limit :=
  Nat.lt_of_lt_of_le (by decide : 10 < 10 ^ 2) (Nat.pow_le_pow_right (by decide) h)

/-- The number has no more digits than are written. -/
def Writable (n : Int) : Prop := n.natAbs < Nat.pow 10 digitLimit

theorem writable_ten : Writable 10 := ten_lt_pow (by decide)

theorem write_returns {n : Int} : (∃ text, write n = .ok text) ↔ Writable n := by
  unfold write Writable
  constructor
  · rintro ⟨text, h⟩
    by_contra hlong
    rw [if_neg hlong] at h
    cases h
  · intro h
    exact ⟨toString n, if_pos h⟩

/-- A text that stands for a whole number. -/
structure Form where
  before : List Char
  sign : List Char
  digits : List Char
  after : List Char
  before_blank : ∀ c ∈ before, isBlank c = true
  sign_cases : sign = [] ∨ sign = ['-'] ∨ sign = ['+']
  digits_ne_nil : digits ≠ []
  digits_decimal : ∀ c ∈ digits, isDecimal c = true
  after_blank : ∀ c ∈ after, isBlank c = true

namespace Form

def text (f : Form) : List Char := f.before ++ (f.sign ++ (f.digits ++ f.after))

/-- Nothing keeps the number from being read. -/
structure Legible (f : Form) : Prop where
  length : f.digits.length ≤ digitLimit
  before : f.before.any isSeparator = false
  after : f.after.any isSeparator = false

def number (f : Form) : Int := if (splitSign f.sign).1 then -(value f.digits : Int) else value f.digits

theorem exists_digits_eq_cons (f : Form) : ∃ c rest, f.digits = c :: rest ∧ isDecimal c = true := by
  obtain ⟨c, rest, hdigits⟩ := List.exists_cons_of_ne_nil f.digits_ne_nil
  refine ⟨c, rest, hdigits, f.digits_decimal c ?_⟩
  rw [hdigits]
  exact List.mem_cons_self

theorem head_signed (f : Form) : ∀ c ∈ (f.sign ++ (f.digits ++ f.after)).head?, isBlank c = false := by
  obtain ⟨d, rest, hdigits, hd⟩ := f.exists_digits_eq_cons
  rw [hdigits]
  rcases f.sign_cases with hsign | hsign | hsign
  · rw [hsign]
    rintro c ⟨⟩
    exact isBlank_of_isDecimal hd
  · rw [hsign]
    rintro c ⟨⟩
    decide
  · rw [hsign]
    rintro c ⟨⟩
    decide

theorem splitSign_signed (f : Form) :
    splitSign (f.sign ++ (f.digits ++ f.after)) = ((splitSign f.sign).1, f.digits ++ f.after) := by
  obtain ⟨d, rest, hdigits, hd⟩ := f.exists_digits_eq_cons
  rcases f.sign_cases with hsign | hsign | hsign
  · rw [hsign, hdigits]
    unfold splitSign
    split
    · rename_i heq
      obtain rfl : d = '-' := (List.cons.inj heq).1
      cases hd
    · rename_i heq
      obtain rfl : d = '+' := (List.cons.inj heq).1
      cases hd
    · rfl
  · rw [hsign]
    rfl
  · rw [hsign]
    rfl

theorem head_after (f : Form) : ∀ c ∈ f.after.head?, isDecimal c = false := by
  intro c hc
  exact isDecimal_of_isBlank (f.after_blank c (List.mem_of_mem_head? hc))

theorem read?_text (f : Form) : read? f.text =
    if f.before.any isSeparator then .error (.separated (String.ofList f.text))
    else if digitLimit < f.digits.length then .error (.tooLongToRead f.digits.length)
    else if f.after.any isSeparator then .error (.separated (String.ofList f.text))
    else .ok (some f.number) := by
  have hblank : f.after.all isBlank = true := List.all_eq_true.2 f.after_blank
  have hne : f.digits.isEmpty = false := List.isEmpty_eq_false_iff.2 f.digits_ne_nil
  unfold read?
  rw [text, takeWhile_append_of_head f.before_blank f.head_signed,
    dropWhile_append_of_head f.before_blank f.head_signed, f.splitSign_signed]
  simp only [takeWhile_append_of_head f.digits_decimal f.head_after,
    dropWhile_append_of_head f.digits_decimal f.head_after, hne, hblank, Bool.not_true, Bool.or_self,
    Bool.false_eq_true, if_false]
  split
  · rfl
  · unfold readDigits
    split
    · rfl
    · split
      · rfl
      · rfl

theorem legible (f : Form) {n : Option Int} (h : read? f.text = .ok n) :
    f.Legible ∧ n = some f.number := by
  rw [read?_text] at h
  split at h
  · cases h
  · rename_i hbefore
    split at h
    · cases h
    · rename_i hlength
      split at h
      · cases h
      · rename_i hafter
        cases h
        exact ⟨⟨Nat.not_lt.1 hlength, Bool.not_eq_true _ ▸ hbefore, Bool.not_eq_true _ ▸ hafter⟩,
          rfl⟩

end Form

theorem exists_sign (cs : List Char) : ∃ sign, (sign = [] ∨ sign = ['-'] ∨ sign = ['+']) ∧
    cs = sign ++ (splitSign cs).2 := by
  unfold splitSign
  split
  · exact ⟨['-'], by simp, rfl⟩
  · exact ⟨['+'], by simp, rfl⟩
  · exact ⟨[], by simp, rfl⟩

/-- A text that is not read as nothing stands for a number. -/
theorem exists_form {cs : List Char} (h : read? cs ≠ .ok none) : ∃ f : Form, f.text = cs := by
  unfold read? at h
  simp only at h
  split at h
  · exact (h rfl).elim
  · rename_i hform
    rw [Bool.or_eq_true, not_or, Bool.not_eq_true', Bool.not_eq_false, List.isEmpty_iff] at hform
    obtain ⟨sign, hsign, hsigned⟩ := exists_sign (cs.dropWhile isBlank)
    refine ⟨⟨cs.takeWhile isBlank, sign, _, _, fun c => List.mem_takeWhile_imp, hsign, hform.1,
      fun c => List.mem_takeWhile_imp, List.all_eq_true.1 hform.2⟩, ?_⟩
    rw [Form.text, List.takeWhile_append_dropWhile, ← hsigned, List.takeWhile_append_dropWhile]

theorem read?_eq_none_iff {cs : List Char} : read? cs = .ok none ↔ ∀ f : Form, f.text ≠ cs := by
  constructor
  · rintro h f rfl
    cases (f.legible h).2
  · intro h
    by_contra hread
    obtain ⟨f, hf⟩ := exists_form hread
    exact h f hf

theorem read?_eq_some_iff {cs : List Char} {n : Int} :
    read? cs = .ok (some n) ↔ ∃ f : Form, f.text = cs ∧ f.Legible ∧ n = f.number := by
  constructor
  · intro h
    have hform : read? cs ≠ .ok none := by
      rw [h]
      rintro ⟨⟩
    obtain ⟨f, rfl⟩ := exists_form hform
    obtain ⟨hlegible, hn⟩ := f.legible h
    exact ⟨f, rfl, hlegible, Option.some.inj hn⟩
  · rintro ⟨f, rfl, hlegible, rfl⟩
    rw [f.read?_text, hlegible.before, hlegible.after, if_neg (Nat.not_lt.2 hlegible.length)]
    rfl

theorem writable_of_read? {cs : List Char} {n : Int} (h : read? cs = .ok (some n)) : Writable n := by
  obtain ⟨f, rfl, hlegible, rfl⟩ := read?_eq_some_iff.1 h
  have hlt := value_lt_pow hlegible.length
  unfold Form.number
  split
  · rwa [Writable, Int.natAbs_neg, Int.natAbs_natCast]
  · rwa [Writable, Int.natAbs_natCast]

/-- A whole number as it is written: no zeros in front of it, and a minus only if it is not zero. -/
inductive Canonical : List Char → Prop
  | zero : Canonical ['0']
  | positive {d : Char} {rest : List Char} (hd : d.isDigit = true) (hne : d ≠ '0')
      (hrest : ∀ c ∈ rest, c.isDigit = true) : Canonical (d :: rest)
  | negative {d : Char} {rest : List Char} (hd : d.isDigit = true) (hne : d ≠ '0')
      (hrest : ∀ c ∈ rest, c.isDigit = true) : Canonical ('-' :: d :: rest)

theorem head?_toDigits_ne_zero {n : Nat} (h : 0 < n) : (Nat.toDigits 10 n).head? ≠ some '0' := by
  induction n using Nat.strongRecOn with
  | ind n ih =>
    by_cases hsmall : n < 10
    · have hdigits : ∀ n : Fin 10, 0 < n.val → Nat.digitChar n ≠ '0' := by decide
      rw [Nat.toDigits_of_lt_base hsmall, List.head?_cons, ne_eq, Option.some.injEq]
      exact hdigits ⟨n, hsmall⟩ h
    · rw [Nat.toDigits_of_base_le (by decide) (by omega), List.head?_append_of_ne_nil _ Nat.toDigits_ne_nil]
      exact ih (n / 10) (by omega) (by omega)

theorem exists_toDigits_eq_cons {n : Nat} (h : 0 < n) : ∃ d rest, Nat.toDigits 10 n = d :: rest ∧
    d.isDigit = true ∧ d ≠ '0' ∧ ∀ c ∈ rest, c.isDigit = true := by
  have hdigit : ∀ c ∈ Nat.toDigits 10 n, c.isDigit = true :=
    fun c => Nat.isDigit_of_mem_toDigits (by decide) (by decide)
  have hhead := head?_toDigits_ne_zero h
  obtain ⟨d, rest, hdigits⟩ := List.exists_cons_of_ne_nil (Nat.toDigits_ne_nil (n := n) (b := 10))
  rw [hdigits, List.forall_mem_cons] at hdigit
  rw [hdigits, List.head?_cons, ne_eq, Option.some.injEq] at hhead
  exact ⟨d, rest, hdigits, hdigit.1, hhead, hdigit.2⟩

theorem canonical_toString (n : Int) : Canonical (toString n).toList := by
  rw [toList_toString_int]
  by_cases hzero : n = 0
  · rw [hzero]
    exact .zero
  · obtain ⟨d, rest, hdigits, hd, hne, hrest⟩ := exists_toDigits_eq_cons (n := n.natAbs) (by omega)
    rw [hdigits]
    split
    · exact .negative hd hne hrest
    · exact .positive hd hne hrest

theorem canonical_of_write {n : Int} {text : String} (h : write n = .ok text) : Canonical text.toList := by
  unfold write at h
  split at h
  · cases h
    exact canonical_toString n
  · cases h

end Numeral

end SchemaBindings.Text

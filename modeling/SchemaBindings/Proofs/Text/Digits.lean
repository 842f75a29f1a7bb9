import SchemaBindings.Proofs.Script.Names
import SchemaBindings.Text.Numeral

/-!
Whole numbers as scripts are written with: decimal digits of ASCII, perhaps with zeros in front. A number that
is written by itself has digits, and a minus if it is negative.
-/

namespace SchemaBindings.Text

set_option autoImplicit false

theorem toNat_lt_of_isDigit {c : Char} (h : c.isDigit = true) : c.toNat < 128 := by
  have hd := Char.isDigit_iff_toNat.1 h
  have hnine : '9'.toNat = 57 := rfl
  omega

/-- What is true of the ten digits is true of every digit. -/
theorem forall_digit {p : Char → Prop}
    (h : ∀ i : Fin 128, (Char.ofNat i).isDigit = true → p (Char.ofNat i))
    {c : Char} (hc : c.isDigit = true) : p c :=
  Script.forall_ascii (p := fun c => c.isDigit = true → p c) h (toNat_lt_of_isDigit hc) hc

/-- A number in the spelling of a script. -/
structure NumberText where
  number : Nat
  zeros : Nat

namespace NumberText

def text (n : NumberText) : List Char := List.replicate n.zeros '0' ++ Nat.toDigits 10 n.number

theorem text_ne_nil (n : NumberText) : n.text ≠ [] :=
  List.append_ne_nil_of_right_ne_nil _ Nat.toDigits_ne_nil

theorem isDigit_of_mem_text {n : NumberText} {c : Char} (h : c ∈ n.text) : c.isDigit = true := by
  rcases List.mem_append.1 h with h | h
  · rw [List.eq_of_mem_replicate h]
    rfl
  · exact Nat.isDigit_of_mem_toDigits (by decide) (by decide) h

theorem forall_mem_text {p : Char → Prop}
    (h : ∀ i : Fin 128, (Char.ofNat i).isDigit = true → p (Char.ofNat i))
    (n : NumberText) : ∀ c ∈ n.text, p c :=
  fun _ hc => forall_digit h (isDigit_of_mem_text hc)

theorem isDecimal_text (n : NumberText) : ∀ c ∈ n.text, isDecimal c = true :=
  n.forall_mem_text (by decide)

theorem isAsciiWord_text (n : NumberText) : ∀ c ∈ n.text, Script.isAsciiWord c = true :=
  n.forall_mem_text (by decide)

theorem decimalValue?_text (n : NumberText) :
    ∀ c ∈ n.text, (decimalValue? c).getD 0 = c.toNat - '0'.toNat :=
  n.forall_mem_text (by decide)

theorem value_text (n : NumberText) : Numeral.value n.text = n.number := by
  have hfold : ∀ (cs : List Char) (init : Nat),
      (∀ c ∈ cs, (decimalValue? c).getD 0 = c.toNat - '0'.toNat) →
        cs.foldl (fun n c => 10 * n + (decimalValue? c).getD 0) init = Nat.ofDigitChars 10 cs init := by
    intro cs
    induction cs with
    | nil => simp
    | cons c more ih =>
      intro init h
      rw [List.foldl_cons, Nat.ofDigitChars_cons, h c List.mem_cons_self,
        ih _ fun d hd => h d (List.mem_cons_of_mem c hd)]
  rw [Numeral.value, hfold _ _ n.decimalValue?_text, text, Nat.ofDigitChars_append,
    Nat.ofDigitChars_replicate_zero, Nat.mul_zero, Nat.ofDigitChars_ten_toDigits]

theorem readDigits_text (n : NumberText) (h : n.text.length ≤ Numeral.digitLimit) :
    Numeral.readDigits n.text = .ok n.number := by
  rw [Numeral.readDigits, if_neg (by omega), value_text]

end NumberText

theorem toList_toString_nat (n : Nat) : (toString n).toList = Nat.toDigits 10 n := by
  have hrepr : toString n = String.ofList (Nat.toDigits 10 n) := Nat.repr_eq_ofList_toDigits
  rw [hrepr, String.toList_ofList]

theorem toList_toString_int (n : Int) :
    (toString n).toList = (if n < 0 then ['-'] else []) ++ Nat.toDigits 10 n.natAbs := by
  cases n with
  | ofNat n => exact toList_toString_nat n
  | negSucc n =>
    have htext : toString (Int.negSucc n) = "-" ++ toString (n + 1) := rfl
    rw [htext, String.toList_append, toList_toString_nat, if_pos (Int.negSucc_lt_zero n)]
    rfl

/-- A whole number is written with digits, perhaps behind a minus. -/
theorem mem_toString_int {n : Int} {c : Char} (h : c ∈ (toString n).toList) :
    c = '-' ∨ c.isDigit = true := by
  rw [toList_toString_int, List.mem_append] at h
  rcases h with h | h
  · split at h
    · exact .inl (List.mem_singleton.1 h)
    · cases h
  · exact .inr (Nat.isDigit_of_mem_toDigits (by decide) (by decide) h)

/-- A text of ASCII has the small forms of its characters, one by one. -/
theorem lowerChars_ascii {cs : List Char} (h : ∀ c ∈ cs, c.toNat < 128) :
    lowerChars cs = cs.map Char.toLower := by
  have hfrom : ∀ cased, lowerFrom cased cs = cs.map Char.toLower := by
    induction cs with
    | nil => intro cased; rfl
    | cons c rest ih =>
      intro cased
      have hc := h c List.mem_cons_self
      have hsigma : c ≠ 'Σ' := by
        rintro rfl
        revert hc
        decide
      rw [lowerFrom, if_neg hsigma, lowerChar, if_pos hc,
        ih (fun d hd => h d (List.mem_cons_of_mem c hd))]
      rfl
  exact hfrom false

end SchemaBindings.Text

import SchemaBindings.Json.Reader
import SchemaBindings.Json.Writer
import SchemaBindings.Proofs.Text.Numerals
import SchemaBindings.Proofs.Text.Pieces

/-!
A number is read back as it was written, with or without an exponent.
-/

namespace SchemaBindings.Json

set_option autoImplicit false

open Text (toList_toString_int mem_toString_int takeWhile_append_of_head dropWhile_append_of_head)

theorem isDigit_toDigits {n : Nat} : ∀ c ∈ Nat.toDigits 10 n, c.isDigit = true :=
  fun _ => Nat.isDigit_of_mem_toDigits (by decide) (by decide)

theorem digitsValue?_toDigits (n : Nat) : digitsValue? (Nat.toDigits 10 n) = some n := by
  unfold digitsValue?
  rw [if_pos ⟨Nat.toDigits_ne_nil, List.all_eq_true.2 isDigit_toDigits⟩]
  exact congrArg some Nat.ofDigitChars_ten_toDigits

theorem signed_natAbs (n : Int) : signed (decide (n < 0)) n.natAbs = n := by
  unfold signed
  split
  · rename_i h
    have hn := of_decide_eq_true h
    omega
  · rename_i h
    have hn := of_decide_eq_false (Bool.eq_false_iff.2 h)
    omega

theorem exists_toDigits_eq_cons (n : Nat) : ∃ d rest, Nat.toDigits 10 n = d :: rest ∧ d ≠ '-' ∧
      d ≠ '+' := by
  obtain ⟨d, rest, hdigits⟩ := List.exists_cons_of_ne_nil (Nat.toDigits_ne_nil (n := n) (b := 10))
  have hd : d.isDigit = true := isDigit_toDigits d (hdigits ▸ List.mem_cons_self)
  refine ⟨d, rest, hdigits, ?_, ?_⟩
  · rintro rfl
    cases hd
  · rintro rfl
    cases hd

theorem signedValue?_toString (n : Int) : signedValue? (toString n).toList = some n := by
  have hvalue := digitsValue?_toDigits n.natAbs
  have hsigned := signed_natAbs n
  rw [toList_toString_int]
  by_cases hn : n < 0
  · rw [decide_eq_true hn] at hsigned
    rw [if_pos hn, List.singleton_append, signedValue?, hvalue, Option.map_some, hsigned]
  · rw [decide_eq_false hn] at hsigned
    obtain ⟨d, rest, hdigits, hminus, hplus⟩ := exists_toDigits_eq_cons n.natAbs
    rw [if_neg hn, List.nil_append, hdigits, signedValue?, ← hdigits, hvalue, Option.map_some, hsigned]
    · exact fun _ h => hminus (List.cons.inj h).1
    · exact fun _ h => hplus (List.cons.inj h).1

/-- The sign of a number is told from its digits, whatever comes behind them. -/
theorem number?_append (n : Int) (tail : List Char) :
    number? ((toString n).toList ++ tail) = unsigned? (decide (n < 0))
      (Nat.toDigits 10 n.natAbs ++ tail) := by
  rw [toList_toString_int]
  by_cases hn : n < 0
  · rw [if_pos hn, decide_eq_true hn, List.singleton_append, List.cons_append, number?]
  · obtain ⟨d, rest, hdigits, hminus, _⟩ := exists_toDigits_eq_cons n.natAbs
    rw [if_neg hn, decide_eq_false hn, List.nil_append, hdigits, List.cons_append, number?]
    exact fun _ h => hminus (List.cons.inj h).1

theorem not_zeroLed_toDigits (n : Nat) :
    ¬ (Nat.toDigits 10 n = [] ∨ (Nat.toDigits 10 n).head? = some '0' ∧ Nat.toDigits 10 n ≠ ['0']) := by
  rintro (hnil | ⟨hzero, hlong⟩)
  · exact Nat.toDigits_ne_nil hnil
  · cases n with
    | zero => exact hlong rfl
    | succ n => exact Text.Numeral.head?_toDigits_ne_zero (Nat.succ_pos n) hzero

/-- The digits of a number are told from what comes behind them. -/
theorem unsigned?_append (negative : Bool) (n : Nat) {tail : List Char}
    (h : ∀ c ∈ tail.head?, c.isDigit = false) :
    unsigned? negative (Nat.toDigits 10 n ++ tail) =
      if tail = [] then some (.int (signed negative n))
      else do
        let (fraction, rest) ← fraction? tail
        let mantissa ← digitsValue? (Nat.toDigits 10 n ++ fraction)
        let e ← exponent? rest
        return .decimal (signed negative mantissa) (e - fraction.length) := by
  unfold unsigned?
  rw [takeWhile_append_of_head isDigit_toDigits h, dropWhile_append_of_head isDigit_toDigits h,
    if_neg (not_zeroLed_toDigits n), digitsValue?_toDigits]
  rfl

theorem number?_int (n : Int) : number? (toString n).toList = some (.int n) := by
  have hread := number?_append n []
  rw [unsigned?_append _ _ (by simp), if_pos rfl, signed_natAbs, List.append_nil] at hread
  exact hread

theorem number?_decimal (m e : Int) : number? (decimalText m e).toList = some (.decimal m e) := by
  have htext : (decimalText m e).toList = (toString m).toList ++ 'e' :: (toString e).toList := by
    unfold decimalText
    rw [String.toList_append, String.toList_append, List.append_assoc]
    rfl
  have hfraction : fraction? ('e' :: (toString e).toList) = some ([], 'e' :: (toString e).toList) := by
    rw [fraction?]
    rintro _ ⟨⟩
  have hexponent : exponent? ('e' :: (toString e).toList) = some e := by
    rw [exponent?, if_pos (.inl rfl), signedValue?_toString]
  rw [htext, number?_append, unsigned?_append _ _ (by simp), if_neg (List.cons_ne_nil _ _), hfraction]
  simp only [Option.bind_eq_bind, Option.bind_some, List.append_nil, digitsValue?_toDigits, hexponent,
    signed_natAbs, List.length_nil, Nat.cast_zero, sub_zero, Option.pure_def]

end SchemaBindings.Json

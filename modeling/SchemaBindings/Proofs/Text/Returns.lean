import Mathlib
import SchemaBindings.Proofs.Text.Digits
import SchemaBindings.Proofs.Text.Pieces

/-!
Texts without carriage returns. They are the ones that come back from a file as they were written, and
what is put together from them is again one of them.
-/

namespace SchemaBindings.Text

set_option autoImplicit false

def NoReturn (s : String) : Prop := '\r' ∉ s.toList

instance (s : String) : Decidable (NoReturn s) := inferInstanceAs (Decidable ('\r' ∉ s.toList))

@[simp] theorem noReturn_append {a b : String} : NoReturn (a ++ b) ↔ NoReturn a ∧ NoReturn b := by
  simp [NoReturn, String.toList_append]

@[simp] theorem noReturn_ofList {cs : List Char} : NoReturn (String.ofList cs) ↔ '\r' ∉ cs := by
  simp [NoReturn]

/-- What is true of the characters of all pieces is true of those of a text that is put together from them. -/
theorem forall_mem_toList_intercalate {p : Char → Prop} {sep : String} (hsep : ∀ c ∈ sep.toList, p c)
    {parts : List String} (h : ∀ a ∈ parts, ∀ c ∈ a.toList, p c) :
    ∀ c ∈ (sep.intercalate parts).toList, p c := by
  rw [String.toList_intercalate]
  exact forall_mem_intercalate hsep (List.forall_mem_map.2 h)

theorem noReturn_iff {s : String} : NoReturn s ↔ ∀ c ∈ s.toList, c ≠ '\r' := List.forall_mem_ne'.symm

theorem noReturn_intercalate {sep : String} (hsep : NoReturn sep) {pieces : List String}
    (h : ∀ p ∈ pieces, NoReturn p) : NoReturn (sep.intercalate pieces) :=
  noReturn_iff.2 (forall_mem_toList_intercalate (noReturn_iff.1 hsep) fun a ha => noReturn_iff.1 (h a ha))

@[simp] theorem noReturn_toString_int (n : Int) : NoReturn (toString n) := by
  intro h
  rcases mem_toString_int h with hminus | hdigit
  · cases hminus
  · revert hdigit
    decide

/-- A character that is not a letter of ASCII has a small form, and that is a letter too. -/
theorem map_lowerRuns {c : Char} (h : 127 < c.toNat) :
    64 < CaseRun.map lowerRuns c.toNat ∧ (CaseRun.map lowerRuns c.toNat).isValidChar := by
  unfold CaseRun.map
  split
  · rename_i r hr
    have htargets : ∀ r ∈ lowerRuns, 64 < r.target ∧ (r.target + (r.last - r.first) < 0xD800 ∨
        0xDFFF < r.target ∧ r.target + (r.last - r.first) < 0x110000) := by decide +kernel
    obtain ⟨htarget, hvalid⟩ := htargets r (List.mem_of_find?_eq_some hr)
    have hrun := List.find?_some hr
    simp only [Bool.and_eq_true, decide_eq_true_eq] at hrun
    constructor
    · omega
    · unfold Nat.isValidChar
      omega
  · exact ⟨by omega, c.valid⟩

/-- A character before the letters stands in no small form but its own. -/
theorem not_mem_lowerChar {c d : Char} (hd : d.toNat < 65) (h : c ≠ d) : d ∉ lowerChar c := by
  unfold lowerChar
  split
  · rename_i hascii
    have hall : c.toLower = c ∨ 64 < c.toLower.toNat :=
      Script.forall_ascii (p := fun c => c.toLower = c ∨ 64 < c.toLower.toNat) (by decide) hascii
    rw [List.mem_singleton]
    rintro rfl
    rcases hall with hsame | hlate
    · exact h hsame.symm
    · omega
  · rename_i hascii
    split
    · rw [List.mem_cons, List.mem_singleton]
      rintro (rfl | rfl)
      · revert hd
        decide
      · revert hd
        decide
    · rw [List.mem_singleton]
      rintro rfl
      obtain ⟨hlate, hvalid⟩ := map_lowerRuns (c := c) (by omega)
      rw [Char.toNat_ofNat, if_pos hvalid] at hd
      omega

end SchemaBindings.Text

import SchemaBindings.Proofs.Settings.Checks
import SchemaBindings.Proofs.Text.Pieces
import SchemaBindings.Proofs.Text.Returns

/-!
The name space of checked settings is a dotted name, whatever document they were read from.
-/

namespace SchemaBindings.Settings

set_option autoImplicit false

open Text

theorem checkNameSpace_eq_ok {d : Datum} {name : String} (h : checkNameSpace d = .ok name) :
    isDottedName name = true := by
  unfold checkNameSpace at h
  split at h
  · cases h
  · obtain ⟨s, _, h⟩ := Check.andThen_eq_ok.1 h
    simp only at h
    split at h
    · rename_i hdotted
      cases h
      exact hdotted
    · cases h

theorem isDottedName_nameSpace {d : Datum} {s : Settings} (h : ofDatum d = .ok s) :
    isDottedName s.nameSpace = true := by
  obtain ⟨entries, rfl, h⟩ := ofDatum_eq_ok.1 h
  obtain ⟨names, _, h⟩ := ofEntries_eq_ok.1 h
  rcases entry_eq_ok h.nameSpace with hdefault | ⟨d, hchecked⟩
  · rw [hdefault]
    decide
  · exact checkNameSpace_eq_ok hchecked

theorem mem_of_isDottedName {name : String} (h : isDottedName name = true) {c : Char}
    (hc : c ∈ name.toList) : c = '.' ∨ c.isAlphanum = true ∨ c = '_' := by
  unfold isDottedName at h
  rw [List.all_eq_true] at h
  rcases mem_piece_of_mem (p := (· == '.')) hc with hsep | ⟨word, hword, hmem⟩
  · exact .inl (eq_of_beq hsep)
  · refine .inr ?_
    have hchars := h word hword
    cases word with
    | nil => cases hmem
    | cons d rest =>
      simp only [Bool.and_eq_true, Bool.or_eq_true, List.all_eq_true, beq_iff_eq] at hchars
      rcases List.mem_cons.1 hmem with rfl | hmem
      · refine hchars.1.imp_left fun halpha => ?_
        rw [Char.isAlphanum, halpha, Bool.true_or]
      · exact hchars.2 _ hmem

theorem noReturn_of_isDottedName {name : String} (h : isDottedName name = true) : NoReturn name := by
  intro hmem
  have hchar := mem_of_isDottedName h hmem
  revert hchar
  decide

end SchemaBindings.Settings

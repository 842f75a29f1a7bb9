import SchemaBindings.Proofs.Text.Capitals
import SchemaBindings.Proofs.Text.Digits

/-!
Texts of ASCII and texts whose small form is one. The second kind is hardly larger: the Kelvin sign is the
only further character that such a text can hold, so each of its characters has one small form and one
capital form, and the text is as long as either.
-/

namespace SchemaBindings

set_option autoImplicit false

open Text (lower)

def IsAscii (s : String) : Prop := ∀ c ∈ s.toList, c.toNat < 128

instance (s : String) : Decidable (IsAscii s) :=
  inferInstanceAs (Decidable (∀ c ∈ s.toList, c.toNat < 128))

theorem IsAscii.append {a b : String} (ha : IsAscii a) (hb : IsAscii b) : IsAscii (a ++ b) := by
  intro c hc
  rw [String.toList_append, List.mem_append] at hc
  exact hc.elim (ha c) (hb c)

theorem lower_append_of_isAscii {a b : String} (ha : IsAscii a) (hb : IsAscii b) :
    lower (a ++ b) = lower a ++ lower b := by
  have hab := ha.append hb
  unfold lower
  rw [Text.lowerChars_ascii hab, Text.lowerChars_ascii ha, Text.lowerChars_ascii hb, String.toList_append,
    List.map_append, String.ofList_append]

namespace Text

/-- A character whose small form is of ASCII. -/
def HasAsciiForm (c : Char) : Prop := c.toNat < 128 ∨ c = '\u212a'

/-- What is true of ASCII can be checked one by one, and the Kelvin sign on its own. -/
theorem forall_asciiForm {p : Char → Prop} (h : ∀ n : Fin 128, p (Char.ofNat n)) (hkelvin : p '\u212a')
    {c : Char} (hc : HasAsciiForm c) : p c := by
  rcases hc with hascii | rfl
  · exact Script.forall_ascii h hascii
  · exact hkelvin

def small (c : Char) : Char := (lowerChar c).headD c

def capital (c : Char) : Char := (upperChar c).headD c

theorem lowerChar_of_asciiForm {c : Char} (h : HasAsciiForm c) : lowerChar c = [small c] :=
  forall_asciiForm (p := fun c => lowerChar c = [small c]) (by decide) (by decide +kernel) h

theorem upperChar_of_asciiForm {c : Char} (h : HasAsciiForm c) : upperChar c = [capital c] :=
  forall_asciiForm (p := fun c => upperChar c = [capital c]) (by decide) (by decide +kernel) h

theorem hasAsciiForm_small {c : Char} (h : HasAsciiForm c) : HasAsciiForm (small c) :=
  .inl (forall_asciiForm (p := fun c => (small c).toNat < 128) (by decide +kernel) (by decide +kernel) h)

/-- Of the runs only that of the Kelvin sign leads from outside ASCII into it. -/
theorem lowerRuns_into_ascii : ∀ r ∈ lowerRuns, r.target < 128 →
    r.last < 128 ∨ r.first = 0x212A ∧ r.last = 0x212A := by decide +kernel

theorem hasAsciiForm_of_lowerChar {c : Char} (h : ∀ d ∈ lowerChar c, d.toNat < 128) : HasAsciiForm c := by
  by_cases hascii : c.toNat < 128
  · exact .inl hascii
  refine .inr ?_
  rw [lowerChar, if_neg hascii] at h
  split at h
  · exact absurd (h '\u0307' (by decide)) (by decide)
  · have hform := h _ List.mem_cons_self
    by_cases hmap : CaseRun.map lowerRuns c.toNat = c.toNat
    · rw [hmap, Char.ofNat_toNat] at hform
      exact (hascii hform).elim
    · obtain ⟨r, hr⟩ := exists_moves hmap
      have htarget := hr.bounds.1
      rw [hr.toNat_ofNat] at hform
      have hfirst := hr.first
      have hlast := hr.last
      have hkelvin : c.toNat = 0x212A := by
        rcases lowerRuns_into_ascii r hr.mem (by omega) with hlow | ⟨hrun, hrun'⟩
        · omega
        · omega
      rw [← Char.ofNat_toNat c, hkelvin]

theorem not_hasAsciiForm_sigma : ¬ HasAsciiForm 'Σ' := by
  rintro (h | h)
  · exact absurd h (by decide)
  · exact absurd h (by decide)

theorem lowerChars_of_asciiForm {cs : List Char} (h : ∀ c ∈ cs, HasAsciiForm c) :
    lowerChars cs = cs.map small := by
  have hfrom : ∀ cased, lowerFrom cased cs = cs.map small := by
    induction cs with
    | nil => intro cased; rfl
    | cons c rest ih =>
      intro cased
      obtain ⟨hc, hrest⟩ := List.forall_mem_cons.1 h
      have hsigma : c ≠ 'Σ' := by
        rintro rfl
        exact not_hasAsciiForm_sigma hc
      rw [lowerFrom, if_neg hsigma, lowerChar_of_asciiForm hc, ih hrest]
      rfl
  exact hfrom false

theorem upperChars_of_asciiForm {cs : List Char} (h : ∀ c ∈ cs, HasAsciiForm c) :
    upperChars cs = cs.map capital := by
  rw [upperChars, List.flatMap_def, List.map_congr_left fun c hc => upperChar_of_asciiForm (h c hc),
    ← List.flatMap_def, List.map_eq_flatMap]

theorem hasAsciiForm_of_lowerFrom {cs : List Char} (cased : Bool)
    (h : ∀ d ∈ lowerFrom cased cs, d.toNat < 128) : ∀ c ∈ cs, HasAsciiForm c := by
  induction cs generalizing cased with
  | nil => simp
  | cons c rest ih =>
    rw [lowerFrom, List.forall_mem_append] at h
    obtain ⟨hhead, hrest⟩ := h
    refine List.forall_mem_cons.2 ⟨?_, ih _ hrest⟩
    split at hhead
    · have hform := hhead _ List.mem_cons_self
      split at hform
      · exact absurd hform (by decide)
      · exact absurd hform (by decide)
    · exact hasAsciiForm_of_lowerChar hhead

section
variable {s : String}

theorem hasAsciiForm_of_mem (h : IsAscii (lower s)) : ∀ c ∈ s.toList, HasAsciiForm c := by
  refine hasAsciiForm_of_lowerFrom false ?_
  rw [IsAscii, lower, String.toList_ofList] at h
  exact h

theorem toList_lower_of_asciiForm (h : IsAscii (lower s)) : (lower s).toList = s.toList.map small := by
  rw [lower, String.toList_ofList, lowerChars_of_asciiForm (hasAsciiForm_of_mem h)]

theorem length_lower_of_asciiForm (h : IsAscii (lower s)) : (lower s).length = s.length := by
  rw [← String.length_toList, toList_lower_of_asciiForm h, List.length_map, String.length_toList]

theorem isAscii_lower (h : IsAscii s) : IsAscii (lower s) := by
  rw [IsAscii, lower, String.toList_ofList, lowerChars_ascii h]
  refine List.forall_mem_map.2 fun c hc => ?_
  exact Script.forall_ascii (p := fun c => c.toLower.toNat < 128) (by decide) (h c hc)

end

end Text

end SchemaBindings

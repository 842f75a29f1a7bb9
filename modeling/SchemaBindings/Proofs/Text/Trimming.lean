import SchemaBindings.Proofs.Text.Capitals
import SchemaBindings.Proofs.Text.Pieces

/-!
Texts with no blank at either end. Trimming gives such a text and leaves such a text as it is, and so does
taking the small form: no character but a blank has a blank in its small form.
-/

namespace SchemaBindings.Text

set_option autoImplicit false

section
variable {α : Type} {p : α → Bool} {cs : List α}

/-- Neither end of the list is of the class. -/
structure Trimmed (p : α → Bool) (cs : List α) : Prop where
  head : ∀ c ∈ cs.head?, p c = false
  last : ∀ c ∈ cs.getLast?, p c = false

theorem Trimmed.trimOf_eq (h : Trimmed p cs) : trimOf p cs = cs := trimOf_of_ends h.head h.last

theorem trimmed_of_not_mem (h : ∀ c ∈ cs, p c = false) : Trimmed p cs where
  head := fun c hc => h c (List.mem_of_mem_head? hc)
  last := fun c hc => h c (List.mem_of_mem_getLast? hc)

theorem trimmed_trimOf (p : α → Bool) (cs : List α) : Trimmed p (trimOf p cs) where
  head := by
    intro c hc
    obtain ⟨dropped, hdropped⟩ := isPrefix_trimEndOf p (cs.dropWhile p)
    refine forall_head?_dropWhile (p := p) cs c ?_
    rw [← hdropped, List.head?_append]
    rw [trimOf, Option.mem_def] at hc
    rw [hc]
    rfl
  last := by
    intro c hc
    rw [trimOf, trimEndOf, List.getLast?_reverse] at hc
    exact forall_head?_dropWhile _ c hc

end

/-- There are no blanks around the text. -/
def IsTrimmed (s : String) : Prop := Trimmed isBlank s.toList

theorem isTrimmed_trimString (s : String) : IsTrimmed (trimString s) := by
  rw [IsTrimmed, trimString, String.toList_ofList]
  exact trimmed_trimOf isBlank s.toList

theorem trimString_eq_iff {s : String} : trimString s = s ↔ IsTrimmed s := by
  constructor
  · intro h
    rw [← h]
    exact isTrimmed_trimString s
  · intro h
    rw [trimString, trim, h.trimOf_eq, String.ofList_toList]

theorem casedRanges_miss_blanks : ∀ r ∈ blankRanges, casedRanges.misses r.1 r.2 = true := by
  decide +kernel

theorem isCased_of_isBlank {c : Char} (h : isBlank c = true) : isCased c = false := by
  obtain ⟨r, hr, hfirst, hlast⟩ := Script.exists_range_of_has h
  exact Ranges.has_of_misses (casedRanges_miss_blanks r hr) hfirst hlast

theorem isBlank_of_mem_lowerChar {c d : Char} (h : d ∈ lowerChar c) (hd : isBlank d = true) :
    isBlank c = true := by
  rcases lowerChar_cases c with rfl | ⟨e, he⟩
  · have hforms : ∀ e ∈ lowerChar 'İ', isBlank e = false := by decide
    rw [hforms d h] at hd
    cases hd
  · rw [he, List.mem_singleton] at h
    subst h
    rcases cased_of_lowerChar he with rfl | ⟨_, hcased, _⟩
    · exact hd
    · rw [isCased_of_isBlank hd] at hcased
      cases hcased

/-- What stands for a character in the small form of a text. -/
def IsFormOf (c d : Char) : Prop := d ∈ lowerChar c ∨ d = 'σ' ∨ d = 'ς'

theorem IsFormOf.isBlank_eq {c d : Char} (h : IsFormOf c d) (hc : isBlank c = false) : isBlank d = false := by
  rcases h with h | rfl | rfl
  · exact Bool.eq_false_iff.2 fun hd => Bool.eq_false_iff.1 hc (isBlank_of_mem_lowerChar h hd)
  · decide
  · decide

/-- The characters of a small form come in groups, one for each character of the text. -/
theorem lowerFrom_cons (cased : Bool) (c : Char) (rest : List Char) : ∃ forms cased', forms ≠ [] ∧
    (∀ d ∈ forms, IsFormOf c d) ∧ lowerFrom cased (c :: rest) = forms ++ lowerFrom cased' rest := by
  refine ⟨_, _, ?_, ?_, rfl⟩
  · split
    · exact List.cons_ne_nil _ _
    · rcases lowerChar_cases c with rfl | ⟨d, hd⟩
      · decide
      · rw [hd]
        exact List.cons_ne_nil _ _
  · intro d hd
    split at hd
    · split at hd
      · exact .inr (.inr (List.mem_singleton.1 hd))
      · exact .inr (.inl (List.mem_singleton.1 hd))
    · exact .inl hd

theorem head?_lowerFrom {cased : Bool} {cs : List Char} {d : Char} (h : d ∈ (lowerFrom cased cs).head?) :
    ∃ c ∈ cs.head?, IsFormOf c d := by
  cases cs with
  | nil => cases h
  | cons c rest =>
    obtain ⟨forms, cased', hne, hforms, heq⟩ := lowerFrom_cons cased c rest
    rw [heq, List.head?_append_of_ne_nil _ hne] at h
    exact ⟨c, rfl, hforms d (List.mem_of_mem_head? h)⟩

theorem getLast?_lowerFrom {cased : Bool} {cs : List Char} {d : Char}
    (h : d ∈ (lowerFrom cased cs).getLast?) : ∃ c ∈ cs.getLast?, IsFormOf c d := by
  induction cs generalizing cased with
  | nil => cases h
  | cons c rest ih =>
    obtain ⟨forms, cased', hne, hforms, heq⟩ := lowerFrom_cons cased c rest
    rw [heq] at h
    cases rest with
    | nil =>
      rw [lowerFrom, List.append_nil] at h
      exact ⟨c, rfl, hforms d (List.mem_of_mem_getLast? h)⟩
    | cons c' more =>
      obtain ⟨forms', _, hne', _, heq'⟩ := lowerFrom_cons cased' c' more
      have hrest : lowerFrom cased' (c' :: more) ≠ [] := by
        rw [heq']
        exact List.append_ne_nil_of_left_ne_nil hne' _
      rw [List.getLast?_append_of_ne_nil _ hrest] at h
      obtain ⟨e, he, hform⟩ := ih h
      exact ⟨e, by rwa [List.getLast?_cons_cons], hform⟩

theorem IsTrimmed.lower {s : String} (h : IsTrimmed s) : IsTrimmed (lower s) := by
  rw [IsTrimmed, Text.lower, String.toList_ofList]
  constructor
  · intro d hd
    obtain ⟨c, hc, hform⟩ := head?_lowerFrom hd
    exact hform.isBlank_eq (h.head c hc)
  · intro d hd
    obtain ⟨c, hc, hform⟩ := getLast?_lowerFrom hd
    exact hform.isBlank_eq (h.last c hc)

end SchemaBindings.Text

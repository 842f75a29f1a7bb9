import SchemaBindings.Proofs.Script.Reading
import SchemaBindings.Proofs.Script.Zones
import SchemaBindings.Script.Clause

/-!
Names as scripts are written with: words of ASCII letters, digits and underscores, with or without
square brackets. A name is read back as it was written wherever something follows that ends it.
-/

namespace SchemaBindings.Script

set_option autoImplicit false

open Text (isBlank isWordChar blankRanges Ranges)

theorem forall_ascii {p : Char → Prop} (h : ∀ n : Fin 128, p (Char.ofNat n)) {c : Char}
    (hc : c.toNat < 128) : p c := by
  have hn := h ⟨c.toNat, hc⟩
  rwa [Char.ofNat_toNat] at hn

def isAsciiWord (c : Char) : Bool := c.isAlphanum || c == '_'

theorem toNat_lt_of_isAsciiWord {c : Char} (h : isAsciiWord c) : c.toNat < 128 := by
  have hword : isAsciiWord c = (c.isUpper || c.isLower || c.isDigit || c == '_') := rfl
  have hupper : c.isUpper = decide (c.val ≥ 65 ∧ c.val ≤ 90) := rfl
  have hlower : c.isLower = (decide (c.val ≥ 97) && decide (c.val ≤ 122)) := rfl
  have hdigit : c.isDigit = (decide (c.val ≥ 48) && decide (c.val ≤ 57)) := rfl
  simp only [hword, hupper, hlower, hdigit, Bool.or_eq_true, Bool.and_eq_true, decide_eq_true_eq,
    beq_iff_eq, ge_iff_le, UInt32.le_iff_toNat_le] at h
  change ((65 ≤ c.toNat ∧ c.toNat ≤ 90 ∨ 97 ≤ c.toNat ∧ c.toNat ≤ 122) ∨
    48 ≤ c.toNat ∧ c.toNat ≤ 57) ∨ c = '_' at h
  rcases h with ((h | h) | h) | rfl
  · omega
  · omega
  · omega
  · decide

/-- What is true of the word characters of ASCII can be checked one by one. -/
theorem forall_asciiWord {p : Char → Prop}
    (h : ∀ n : Fin 128, isAsciiWord (Char.ofNat n) → p (Char.ofNat n)) {c : Char}
    (hc : isAsciiWord c) : p c :=
  forall_ascii (p := fun c => isAsciiWord c → p c) h (toNat_lt_of_isAsciiWord hc) hc

theorem isWordChar_of_isAsciiWord {c : Char} (h : isAsciiWord c) : isWordChar c = true :=
  forall_asciiWord (p := fun c => isWordChar c = true) (by decide) h

theorem isBlank_of_isAsciiWord {c : Char} (h : isAsciiWord c) : isBlank c = false :=
  forall_asciiWord (p := fun c => isBlank c = false) (by decide) h

theorem ne_of_isAsciiWord {c d : Char} (hd : isAsciiWord d = false) (hc : isAsciiWord c) :
    c ≠ d := by
  rintro rfl
  rw [hd] at hc
  cases hc

theorem exists_range_of_has {ranges : Ranges} {n : Nat} (h : ranges.has n = true) :
    ∃ r ∈ ranges, r.1 ≤ n ∧ n ≤ r.2 := by
  induction ranges with
  | nil => cases h
  | cons r rest ih =>
    obtain ⟨lo, hi⟩ := r
    rw [Ranges.has] at h
    split at h
    · cases h
    · rename_i hlo
      rcases Bool.or_eq_true_iff.1 h with hn | hn
      · exact ⟨(lo, hi), List.mem_cons_self, by simp_all⟩
      · obtain ⟨r, hr, hb⟩ := ih hn
        exact ⟨r, List.mem_cons_of_mem _ hr, hb⟩

theorem isWordChar_of_isBlank {c : Char} (h : isBlank c = true) : isWordChar c = false := by
  have hall : ∀ r ∈ blankRanges, ∀ i ∈ List.range (r.2 + 1 - r.1),
      isWordChar (Char.ofNat (r.1 + i)) = false := by decide +kernel
  obtain ⟨r, hr, hlo, hhi⟩ := exists_range_of_has h
  have hc := hall r hr (c.toNat - r.1) (List.mem_range.2 (by omega))
  rwa [Nat.add_sub_cancel' hlo, Char.ofNat_toNat] at hc

/-- The characters of words, and those that stand around them on a line without comments. -/
def isLineChar (c : Char) : Bool :=
  isAsciiWord c || [' ', '(', ')', ',', '.', '[', ']'].contains c

theorem forall_lineChar {p : Char → Prop}
    (h : ∀ n : Fin 128, isLineChar (Char.ofNat n) = true → p (Char.ofNat n)) {c : Char}
    (hc : isLineChar c = true) : p c := by
  refine forall_ascii (p := fun c => isLineChar c = true → p c) h ?_ hc
  rw [isLineChar, Bool.or_eq_true] at hc
  rcases hc with hc | hc
  · exact toNat_lt_of_isAsciiWord hc
  · have hall : ∀ d ∈ [' ', '(', ')', ',', '.', '[', ']'], d.toNat < 128 := by decide
    exact hall c (by simpa using hc)

theorem isLineChar_of_isAsciiWord {c : Char} (h : isAsciiWord c) : isLineChar c = true := by
  simp [isLineChar, h]

theorem isMarker_of_isLineChar {c : Char} (h : isLineChar c = true) : isMarker c = false :=
  forall_lineChar (p := fun c => isMarker c = false) (by decide) h

/-- A name in the spelling of a script. -/
structure ScriptName where
  letters : List Char
  bracketed : Bool
  nonempty : letters ≠ []
  ascii : ∀ c ∈ letters, isAsciiWord c

namespace ScriptName

def ofLetters (letters : List Char) (bracketed : Bool)
    (h : (!letters.isEmpty && letters.all isAsciiWord) = true) : ScriptName where
  letters := letters
  bracketed := bracketed
  nonempty := by
    rintro rfl
    cases h
  ascii := List.all_eq_true.1 (Bool.and_eq_true_iff.1 h).2

def name (n : ScriptName) : String := String.ofList n.letters

def text (n : ScriptName) : List Char :=
  if n.bracketed then '[' :: (n.letters ++ [']']) else n.letters

/-- A character that ends a name without brackets. -/
def isEnd (c : Char) : Bool := !isWordChar c && c != ']'

theorem isEnd_of_isBlank {c : Char} (h : isBlank c = true) : isEnd c = true := by
  have hne : c ≠ ']' := by
    rintro rfl
    revert h
    decide
  simp [isEnd, isWordChar_of_isBlank h, hne]

theorem text_ne_nil (n : ScriptName) : n.text ≠ [] := by
  unfold text
  split
  · simp
  · exact n.nonempty

theorem mem_text {n : ScriptName} {c : Char} (h : c ∈ n.text) :
    isAsciiWord c ∨ c = '[' ∨ c = ']' := by
  unfold text at h
  split at h
  · rcases List.mem_cons.1 h with h | h
    · exact .inr (.inl h)
    rcases List.mem_append.1 h with h | h
    · exact .inl (n.ascii c h)
    · exact .inr (.inr (List.mem_singleton.1 h))
  · exact .inl (n.ascii c h)

theorem forall_mem_text {p : Char → Bool} (hw : ∀ c, isAsciiWord c → p c) (ho : p '[') (hc : p ']')
    (n : ScriptName) : ∀ c ∈ n.text, p c := by
  intro c h
  rcases mem_text h with h | rfl | rfl
  · exact hw c h
  · exact ho
  · exact hc

theorem isLineChar_text (n : ScriptName) : ∀ c ∈ n.text, isLineChar c = true :=
  n.forall_mem_text (fun _ hc => isLineChar_of_isAsciiWord hc) (by decide) (by decide)

theorem isMarker_text (n : ScriptName) : ∀ c ∈ n.text, isMarker c = false :=
  fun c hc => isMarker_of_isLineChar (n.isLineChar_text c hc)

theorem ne_of_mem_text {d : Char} (hd : isAsciiWord d = false) (ho : d ≠ '[') (hc : d ≠ ']')
    (n : ScriptName) : ∀ c ∈ n.text, c ≠ d := by
  intro c h
  rcases mem_text h with h | rfl | rfl
  · exact ne_of_isAsciiWord hd h
  · exact ho.symm
  · exact hc.symm

theorem not_mem_text {d : Char} (hd : isAsciiWord d = false) (ho : d ≠ '[') (hc : d ≠ ']')
    (n : ScriptName) : d ∉ n.text :=
  fun h => n.ne_of_mem_text hd ho hc d h rfl

theorem isBlank_text (n : ScriptName) : ∀ c ∈ n.text, isBlank c = false := by
  have hall : ∀ c ∈ n.text, (!isBlank c) = true :=
    n.forall_mem_text (fun c hc => by simp [isBlank_of_isAsciiWord hc]) (by decide) (by decide)
  simpa using hall

theorem isBlank_head_append (n : ScriptName) (rest : List Char) :
    ∀ c ∈ (n.text ++ rest).head?, isBlank c = false := by
  intro c hc
  obtain ⟨d, more, hd⟩ := List.exists_cons_of_ne_nil n.text_ne_nil
  rw [hd, List.cons_append, List.head?_cons, Option.mem_some] at hc
  exact n.isBlank_text c (by rw [hd, hc]; exact List.mem_cons_self)

theorem word_append (n : ScriptName) {r : List Char} (hr : ∀ c ∈ r.head?, isWordChar c = false) :
    Reader.word (n.letters ++ r) = some (n.name, r) := by
  have hletters : ∀ c ∈ n.letters, isWordChar c = true := fun c hc =>
    isWordChar_of_isAsciiWord (n.ascii c hc)
  exact Reader.bind_of_eq (Reader.many1_append n.nonempty hletters hr)

theorem read_append (n : ScriptName) {rest : List Char} (hr : ∀ c ∈ rest.head?, isEnd c = true) :
    Reader.name (n.text ++ rest) = some (n.name, rest) := by
  have hend : ∀ c ∈ rest.head?, isWordChar c = false ∧ c ≠ ']' := by
    intro c hc
    simpa [isEnd] using hr c hc
  unfold text
  split
  · have hword : Reader.word (n.letters ++ ']' :: rest) = some (n.name, ']' :: rest) :=
      n.word_append (Reader.forall_head?_cons (by decide) rest)
    have happ : '[' :: (n.letters ++ [']']) ++ rest = '[' :: (n.letters ++ ']' :: rest) := by simp
    rw [happ]
    refine (Reader.bind_of_eq (Reader.optional_char_cons '[' _)).trans ?_
    refine (Reader.bind_of_eq hword).trans ?_
    exact Reader.bind_of_eq (Reader.optional_char_cons ']' rest)
  · have hhead : ∀ c ∈ (n.letters ++ rest).head?, c ≠ '[' := by
      intro c hc
      have hmem : c ∈ n.letters := by
        obtain ⟨d, more, hd⟩ := List.exists_cons_of_ne_nil n.nonempty
        rw [hd, List.cons_append, List.head?_cons, Option.mem_some] at hc
        rw [hd, ← hc]
        exact List.mem_cons_self
      exact ne_of_isAsciiWord (by decide) (n.ascii c hmem)
    have hword := n.word_append (r := rest) fun c hc => (hend c hc).1
    refine (Reader.bind_of_eq (Reader.optional_char_of_head hhead)).trans ?_
    refine (Reader.bind_of_eq hword).trans ?_
    exact Reader.bind_of_eq (Reader.optional_char_of_head fun c hc => (hend c hc).2)

end ScriptName

theorem qualifiedName_append (schema table : ScriptName) {rest : List Char}
    (hr : ∀ c ∈ rest.head?, ScriptName.isEnd c = true) :
    qualifiedName (schema.text ++ '.' :: (table.text ++ rest)) =
      some (⟨schema.name, table.name⟩, rest) := by
  have hdot : ∀ c ∈ ('.' :: (table.text ++ rest)).head?, ScriptName.isEnd c = true :=
    Reader.forall_head?_cons (by decide) _
  refine (Reader.bind_of_eq (schema.read_append hdot)).trans ?_
  refine (Reader.bind_of_eq (Reader.char_self '.' _)).trans ?_
  exact Reader.bind_of_eq (table.read_append hr)

end SchemaBindings.Script

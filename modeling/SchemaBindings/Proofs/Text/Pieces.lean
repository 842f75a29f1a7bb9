import Mathlib.Data.List.TakeWhile
import SchemaBindings.Text.Trim

/-!
Cutting a text that was put together, and trimming one whose ends are known.
-/

namespace SchemaBindings.Text

set_option autoImplicit false

variable {α : Type} {p : α → Bool}

theorem pieces_cons_sep {s : α} (hs : p s = true) (b : List α) :
    pieces p (s :: b) = [] :: pieces p b := by
  obtain ⟨first, more, hb⟩ := List.exists_cons_of_ne_nil (pieces_ne_nil p b)
  simp [pieces, hb, hs]

theorem pieces_cons_of_not {c : α} (hc : p c = false) (rest : List α) :
    ∃ first more, pieces p rest = first :: more ∧ pieces p (c :: rest) = (c :: first) :: more := by
  obtain ⟨first, more, hrest⟩ := List.exists_cons_of_ne_nil (pieces_ne_nil p rest)
  exact ⟨first, more, hrest, by simp [pieces, hrest, hc]⟩

theorem pieces_append_sep {s : α} (hs : p s = true) (a b : List α) :
    pieces p (a ++ s :: b) = pieces p a ++ pieces p b := by
  induction a with
  | nil => exact pieces_cons_sep hs b
  | cons c rest ih =>
    rw [List.cons_append]
    cases hc : p c with
    | true => rw [pieces_cons_sep hc, pieces_cons_sep hc, ih, List.cons_append]
    | false =>
      obtain ⟨first, more, hrest, hcons⟩ := pieces_cons_of_not hc rest
      obtain ⟨first', more', hrest', hcons'⟩ := pieces_cons_of_not hc (rest ++ s :: b)
      rw [ih, hrest, List.cons_append] at hrest'
      obtain ⟨rfl, rfl⟩ := List.cons.inj hrest'
      rw [hcons, hcons', List.cons_append]

theorem mem_piece_of_mem {cs : List α} {c : α} (hc : c ∈ cs) :
      p c = true ∨ ∃ piece ∈ pieces p cs, c ∈ piece := by
  induction cs with
  | nil => cases hc
  | cons d rest ih =>
    by_cases hd : p d = true
    · rw [pieces_cons_sep hd]
      rcases List.mem_cons.1 hc with rfl | hc
      · exact .inl hd
      · rcases ih hc with hsep | ⟨piece, hpiece, hmem⟩
        · exact .inl hsep
        · exact .inr ⟨piece, List.mem_cons_of_mem _ hpiece, hmem⟩
    · obtain ⟨first, more, hpieces, hcons⟩ := pieces_cons_of_not (Bool.eq_false_iff.2 hd) rest
      rw [hpieces] at ih
      rw [hcons]
      rcases List.mem_cons.1 hc with rfl | hc
      · exact .inr ⟨c :: first, List.mem_cons_self, List.mem_cons_self⟩
      · rcases ih hc with hsep | ⟨piece, hpiece, hmem⟩
        · exact .inl hsep
        · rcases List.mem_cons.1 hpiece with rfl | hpiece
          · exact .inr ⟨d :: piece, List.mem_cons_self, List.mem_cons_of_mem d hmem⟩
          · exact .inr ⟨piece, List.mem_cons_of_mem _ hpiece, hmem⟩

theorem mem_of_mem_pieces {cs piece : List α} (hpiece : piece ∈ pieces p cs) {c : α} (hc : c ∈ piece) :
    c ∈ cs := by
  induction cs generalizing piece with
  | nil =>
    rw [pieces_nil, List.mem_singleton] at hpiece
    subst hpiece
    exact hc
  | cons x rest ih =>
    cases hx : p x with
    | true =>
      rw [pieces_cons_sep hx] at hpiece
      rcases List.mem_cons.1 hpiece with rfl | hpiece
      · cases hc
      · exact List.mem_cons_of_mem x (ih hpiece hc)
    | false =>
      obtain ⟨first, more, hrest, hcons⟩ := pieces_cons_of_not hx rest
      rw [hcons] at hpiece
      rw [hrest] at ih
      rcases List.mem_cons.1 hpiece with rfl | hpiece
      · rcases List.mem_cons.1 hc with rfl | hc
        · exact List.mem_cons_self
        · exact List.mem_cons_of_mem x (ih List.mem_cons_self hc)
      · exact List.mem_cons_of_mem x (ih (List.mem_cons_of_mem first hpiece) hc)

theorem pieces_of_not_mem {a : List α} (ha : ∀ c ∈ a, p c = false) : pieces p a = [a] := by
  induction a with
  | nil => rfl
  | cons c rest ih =>
    have hrest := ih fun d hd => ha d (List.mem_cons_of_mem c hd)
    simp [pieces, hrest, ha c List.mem_cons_self]

theorem pieces_append_cons {a : List α} {s : α} (ha : ∀ c ∈ a, p c = false) (hs : p s = true)
    (b : List α) : pieces p (a ++ s :: b) = a :: pieces p b := by
  rw [pieces_append_sep hs, pieces_of_not_mem ha]
  rfl

theorem pieces_append_of_not_mem {a : List α} (ha : ∀ c ∈ a, p c = false) (b : List α) :
    ∃ first more, pieces p b = first :: more ∧ pieces p (a ++ b) = (a ++ first) :: more := by
  induction a with
  | nil =>
    obtain ⟨first, more, hb⟩ := List.exists_cons_of_ne_nil (pieces_ne_nil p b)
    exact ⟨first, more, hb, hb⟩
  | cons c rest ih =>
    obtain ⟨first, more, hb, hrest⟩ := ih fun d hd => ha d (List.mem_cons_of_mem c hd)
    obtain ⟨first', more', hrest', hcons⟩ := pieces_cons_of_not (ha c List.mem_cons_self) (rest ++ b)
    rw [hrest] at hrest'
    obtain ⟨rfl, rfl⟩ := List.cons.inj hrest'
    exact ⟨first, more, hb, hcons⟩

/-- Cutting at a separator takes apart what was put together with it. What the separator is followed
by stays with the pieces. -/
theorem pieces_intercalate {s : α} (hs : p s = true) {sep : List α} (hsep : ∀ c ∈ sep, p c = false)
    {a : List α} {parts : List (List α)} (h : ∀ b ∈ a :: parts, ∀ c ∈ b, p c = false) :
    pieces p ((s :: sep).intercalate (a :: parts)) = a :: parts.map (sep ++ ·) := by
  induction parts generalizing a with
  | nil => simpa using pieces_of_not_mem (h a List.mem_cons_self)
  | cons b more ih =>
    have hb : ∀ d ∈ (sep ++ b) :: more, ∀ c ∈ d, p c = false := by
      intro d hd c hc
      rcases List.mem_cons.1 hd with rfl | hd
      · rcases List.mem_append.1 hc with hc | hc
        · exact hsep c hc
        · exact h b (by simp) c hc
      · exact h d (by simp [hd]) c hc
    have hcat : (s :: sep).intercalate (a :: b :: more) =
        a ++ s :: (s :: sep).intercalate ((sep ++ b) :: more) := by
      cases more <;> simp [List.intercalate_cons_cons]
    rw [hcat, pieces_append_cons (h a List.mem_cons_self) hs, ih hb, List.map_cons]

theorem forall_mem_intercalate {q : α → Prop} {s : List α} (hs : ∀ c ∈ s, q c)
    {parts : List (List α)} (h : ∀ a ∈ parts, ∀ c ∈ a, q c) :
      ∀ c ∈ s.intercalate parts, q c := by
  induction parts with
  | nil => simp
  | cons a rest ih =>
    have hrest := ih fun b hb => h b (List.mem_cons_of_mem a hb)
    cases rest with
    | nil => simpa using h a List.mem_cons_self
    | cons b more =>
      intro c hc
      rw [List.intercalate_cons_cons, List.mem_append, List.mem_append] at hc
      rcases hc with (hc | hc) | hc
      · exact h a List.mem_cons_self c hc
      · exact hs c hc
      · exact hrest c hc

theorem exists_intercalate_eq_concat {d : α} (s : List α) {parts : List (List α)} (hne : parts ≠ [])
    (h : ∀ a ∈ parts, ∃ front, a = front ++ [d]) : ∃ front, s.intercalate parts = front ++ [d] := by
  induction parts with
  | nil => exact (hne rfl).elim
  | cons a rest ih =>
    cases rest with
    | nil => simpa using h a List.mem_cons_self
    | cons b more =>
      obtain ⟨front, hfront⟩ := ih (by simp) fun e he => h e (List.mem_cons_of_mem a he)
      refine ⟨a ++ s ++ front, ?_⟩
      rw [List.intercalate_cons_cons, hfront, List.append_assoc (a ++ s)]

theorem dropWhile_of_head {cs : List α} (h : ∀ c ∈ cs.head?, p c = false) :
    cs.dropWhile p = cs := by
  cases cs with
  | nil => rfl
  | cons c rest =>
    have hc : p c = false := h c rfl
    simp [hc]

theorem takeWhile_append_of_head {a b : List α} (ha : ∀ c ∈ a, p c = true)
    (hb : ∀ c ∈ b.head?, p c = false) : (a ++ b).takeWhile p = a := by
  rw [List.takeWhile_append_of_pos ha]
  cases b with
  | nil => exact List.append_nil a
  | cons c rest =>
    have hc : ¬ p c = true := Bool.eq_false_iff.1 (hb c rfl)
    rw [List.takeWhile_cons_of_neg hc, List.append_nil]

theorem dropWhile_append_of_head {a b : List α} (ha : ∀ c ∈ a, p c = true)
    (hb : ∀ c ∈ b.head?, p c = false) : (a ++ b).dropWhile p = b := by
  rw [List.dropWhile_append_of_pos ha, dropWhile_of_head hb]

theorem dropWhile_append_cons {d : α} (hd : p d = false) (a b : List α) :
    (a ++ d :: b).dropWhile p = a.dropWhile p ++ d :: b := by
  induction a with
  | nil => exact List.dropWhile_cons_of_neg (by simp [hd])
  | cons x a ih =>
    cases hx : p x with
    | true => rw [List.cons_append, List.dropWhile_cons_of_pos hx, List.dropWhile_cons_of_pos hx, ih]
    | false =>
      rw [List.cons_append, List.dropWhile_cons_of_neg (by simp [hx]),
        List.dropWhile_cons_of_neg (by simp [hx])]
      rfl

theorem forall_head?_dropWhile (cs : List α) : ∀ c ∈ (cs.dropWhile p).head?, p c = false := by
  intro c hc
  have hdrop := List.head?_dropWhile_not p cs
  rwa [Option.mem_def.1 hc] at hdrop

theorem trimEndOf_append {a b : List α} (hb : ∀ c ∈ b, p c = true) :
    trimEndOf p (a ++ b) = trimEndOf p a := by
  rw [trimEndOf, List.reverse_append, List.dropWhile_append_of_pos fun c hc => hb c (List.mem_reverse.1 hc)]
  rfl

theorem trimEndOf_of_getLast {a : List α} (h : ∀ c ∈ a.getLast?, p c = false) :
    trimEndOf p a = a := by
  rw [trimEndOf, dropWhile_of_head (by simpa using h), List.reverse_reverse]

theorem trimEndOf_append_cons {d : α} (hd : p d = false) (a b : List α) :
    trimEndOf p (a ++ d :: b) = a ++ d :: trimEndOf p b := by
  rw [trimEndOf, List.reverse_append, List.reverse_cons, List.append_assoc, List.singleton_append,
    dropWhile_append_cons hd, List.reverse_append, List.reverse_cons, List.reverse_reverse, List.append_assoc]
  rfl

theorem isPrefix_trimEndOf (p : α → Bool) (cs : List α) : trimEndOf p cs <+: cs := by
  have hsuffix := List.reverse_prefix.2 (List.dropWhile_suffix p (l := cs.reverse))
  rw [List.reverse_reverse] at hsuffix
  exact hsuffix

theorem trimOf_append_left {a b : List α} (ha : ∀ c ∈ a, p c = true) :
    trimOf p (a ++ b) = trimOf p b := by
  rw [trimOf, List.dropWhile_append_of_pos ha]
  rfl

theorem trimOf_append_right {a b : List α} (hb : ∀ c ∈ b, p c = true) :
    trimOf p (a ++ b) = trimOf p a := by
  have hdrop : (a ++ b).dropWhile p = a.dropWhile p ++ b ∨
      (a.dropWhile p = [] ∧ (a ++ b).dropWhile p = []) := by
    by_cases ha : ∀ c ∈ a, p c = true
    · refine .inr ⟨List.dropWhile_eq_nil_iff.2 ha, List.dropWhile_eq_nil_iff.2 ?_⟩
      intro c hc
      rcases List.mem_append.1 hc with hc | hc
      · exact ha c hc
      · exact hb c hc
    · refine .inl ?_
      rw [List.dropWhile_append, if_neg]
      simpa [List.isEmpty_iff, List.dropWhile_eq_nil_iff] using ha
  rcases hdrop with h | ⟨ha, hab⟩
  · rw [trimOf, h, trimEndOf_append hb, trimOf]
  · rw [trimOf, hab, trimOf, ha]

theorem trimOf_of_ends {a : List α} (hf : ∀ c ∈ a.head?, p c = false)
    (hl : ∀ c ∈ a.getLast?, p c = false) : trimOf p a = a := by
  rw [trimOf, dropWhile_of_head hf, trimEndOf_of_getLast hl]

theorem trimOf_of_not_mem {a : List α} (h : ∀ c ∈ a, p c = false) : trimOf p a = a :=
  trimOf_of_ends (fun c hc => h c (List.mem_of_mem_head? hc))
    (fun c hc => h c (List.mem_of_mem_getLast? hc))

theorem trimOf_cons {d : α} (hd : p d = false) (more : List α) :
    trimOf p (d :: more) = d :: trimEndOf p more := by
  rw [trimOf, List.dropWhile_cons_of_neg (by simp [hd])]
  exact trimEndOf_append_cons hd [] more

theorem trimOf_cons_ne_nil {d : α} (hd : p d = false) (more : List α) : trimOf p (d :: more) ≠ [] := by
  rw [trimOf_cons hd]
  exact List.cons_ne_nil _ _

/-- A text with blanks in it is only trimmed at its ends. -/
theorem trimOf_append_of_head {a b : List α} (ha : ∀ c ∈ a.head?, p c = false)
    {d : α} {more : List α} (hb : b = d :: more) (hd : p d = false) :
    trimOf p (a ++ b) = a ++ trimOf p b := by
  rw [hb, trimOf_cons hd, trimOf, dropWhile_append_cons hd, dropWhile_of_head ha, trimEndOf_append_cons hd]

end SchemaBindings.Text

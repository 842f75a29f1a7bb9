import SchemaBindings.Proofs.Script.Reading
import SchemaBindings.Proofs.Script.Zones
import SchemaBindings.Proofs.Text.Pieces
import SchemaBindings.Schema.TableScript

/-!
The lines of a column block that was put together from items and the gaps between them. A gap is made
of blanks, line breaks and comments; one with a line break ends a line.
-/

namespace SchemaBindings

set_option autoImplicit false

open Script Text

/-- Blanks, line breaks and comments. -/
structure Gap where
  text : List Char
  sealed : Sealed text
  blank : ∀ c ∈ mask text, isBlank c = true

def Gap.spaces (g : Gap) : List Char := mask g.text

theorem Gap.isBlank_spaces (g : Gap) : ∀ c ∈ g.spaces, isBlank c = true := g.blank

theorem not_mem_blanks {ws : List Char} (hws : ∀ c ∈ ws, isBlank c = true) {d : Char}
    (hd : isBlank d = false) : d ∉ ws := by
  intro h
  rw [hws d h] at hd
  cases hd

theorem isMarker_of_isBlank {c : Char} (h : isBlank c = true) : isMarker c = false := by
  have hmarkers : ∀ d ∈ ['\'', '-', '/', '*'], isBlank d = false := by decide
  by_contra hm
  have hmem : c ∈ ['\'', '-', '/', '*'] := by
    simp only [isMarker, Bool.not_eq_false, Bool.or_eq_true, beq_iff_eq] at hm
    simpa [or_assoc] using hm
  rw [hmarkers c hmem] at h
  cases h

theorem Gap.clears (g : Gap) : Clears g.text g.spaces where
  sealed := g.sealed
  mask := rfl
  plain := fun c hc => isMarker_of_isBlank (g.blank c hc)

def Gap.blanks (text : List Char) (h : ∀ c ∈ text, isBlank c = true) : Gap where
  text := text
  sealed := sealed_of_plain fun c hc => isMarker_of_isBlank (h c hc)
  blank := by
    rw [mask_of_plain fun c hc => isMarker_of_isBlank (h c hc)]
    exact h

def Gap.empty : Gap := Gap.blanks [] (by simp)

def Gap.indent : Gap := Gap.blanks ['\n', ' ', ' '] (by decide)

/-- A gap that ends a line. -/
structure LineEnd extends Gap where
  breaks : ∃ c ∈ mask text, Table.isLineBreak c = true

theorem zonesFrom_lineComment {t : List Char} (ht : '\n' ∉ t) (b : List Char) :
    zonesFrom .lineComment (t ++ '\n' :: b) =
      List.replicate t.length .comment ++ .code :: zones b := by
  induction t with
  | nil => rfl
  | cons c rest ih =>
    have hc : c ≠ '\n' := fun h => ht (by simp [h])
    have hrest : '\n' ∉ rest := fun h => ht (List.mem_cons_of_mem c h)
    rw [List.cons_append, zonesFrom, Mode.step_lineComment_of_ne hc, ih hrest]
    rfl

theorem isBlank_blank_comment {c : Char} (hc : c ≠ '\n') : isBlank (blank c .comment) = true := by
  by_cases hr : c = '\r'
  · subst hr
    decide
  · have hspace : blank c .comment = ' ' := by simp [blank, hr, hc]
    rw [hspace]
    decide

theorem zipWith_blank_replicate (t : List Char) (z : Zone) :
    List.zipWith blank t (List.replicate t.length z) = t.map (blank · z) := by
  induction t with
  | nil => rfl
  | cons c rest ih => simp [List.replicate_succ, ih]

def LineEnd.comment (t : List Char) (ht : '\n' ∉ t) : LineEnd :=
  have hzones : ∀ b, zones ([' ', '-', '-'] ++ (t ++ '\n' :: b)) =
      [.code, .comment, .comment] ++ (List.replicate t.length .comment ++ .code :: zones b) :=
    fun b => congrArg (fun zs => [Zone.code, Zone.comment, Zone.comment] ++ zs)
      (zonesFrom_lineComment ht b)
  have hmask : mask ([' ', '-', '-'] ++ (t ++ ['\n'])) =
      [' ', ' ', ' '] ++ (t.map (blank · .comment) ++ ['\n']) := by
    rw [mask, hzones, List.zipWith_append (by simp), List.zipWith_append (by simp), zipWith_blank_replicate]
    rfl
  { text := [' ', '-', '-'] ++ (t ++ ['\n'])
    sealed := by
      intro b
      rw [hzones, List.append_assoc, List.append_assoc, List.singleton_append, hzones]
      simp [zones, zonesFrom]
    blank := by
      have hcomment : ∀ c ∈ t.map (blank · .comment), isBlank c = true := by
        intro c hc
        obtain ⟨d, hd, rfl⟩ := List.mem_map.1 hc
        exact isBlank_blank_comment fun h => ht (h ▸ hd)
      rw [hmask]
      simp only [List.forall_mem_append]
      exact ⟨by decide, hcomment, by decide⟩
    breaks := ⟨'\n', by rw [hmask]; simp, by decide⟩ }

def LineEnd.plain : LineEnd where
  toGap := Gap.blanks ['\n'] (by decide)
  breaks := ⟨'\n', by decide, by decide⟩

theorem blockLines_append_break {s : Char} (hs : Table.isLineBreak s = true) (a b : List Char) :
    Table.blockLines (a ++ s :: b) = Table.blockLines a ++ Table.blockLines b := by
  rw [Table.blockLines, pieces_append_sep hs, List.map_append, List.filter_append]
  rfl

theorem blockLines_blank_append {ws : List Char} (hws : ∀ c ∈ ws, isBlank c = true)
    (rest : List Char) : Table.blockLines (ws ++ rest) = Table.blockLines rest := by
  induction ws with
  | nil => rfl
  | cons w more ih =>
    have hmore := ih fun c hc => hws c (List.mem_cons_of_mem w hc)
    have hw : isBlank w = true := hws w List.mem_cons_self
    cases hbreak : Table.isLineBreak w with
    | true =>
      have hnil : Table.blockLines [] = [] := rfl
      have hsplit := blockLines_append_break hbreak [] (more ++ rest)
      rw [List.cons_append, ← hmore, ← List.nil_append (w :: _), hsplit, hnil, List.nil_append]
    | false =>
      obtain ⟨first, lines, hlines, hcons⟩ := pieces_cons_of_not hbreak (more ++ rest)
      have htrim : trim (w :: first) = trim first :=
        trimOf_append_left (a := [w]) (by simpa using hw)
      rw [← hmore, List.cons_append, Table.blockLines, hcons, Table.blockLines, hlines,
        List.map_cons, List.map_cons, htrim]

theorem blockLines_of_no_break {a : List Char} (ha : ∀ c ∈ a, Table.isLineBreak c = false) :
    Table.blockLines a = if trim a = [] then [] else [trim a] := by
  rw [Table.blockLines, pieces_of_not_mem ha]
  by_cases h : trim a = [] <;> simp [h]

theorem exists_first_break {ws : List Char} (h : ∃ c ∈ ws, Table.isLineBreak c = true) :
    ∃ front s back, ws = front ++ s :: back ∧ Table.isLineBreak s = true ∧
      ∀ c ∈ front, Table.isLineBreak c = false := by
  obtain ⟨s, hs⟩ := Option.isSome_iff_exists.1 (List.find?_isSome.2 h)
  obtain ⟨hbreak, front, back, hws, hfront⟩ := List.find?_eq_some_iff_append.1 hs
  exact ⟨front, s, back, hws, hbreak, by simpa using hfront⟩

theorem blockLines_append_end (a : List Char) {ws : List Char} (hws : ∀ c ∈ ws, isBlank c = true)
    (hbreaks : ∃ c ∈ ws, Table.isLineBreak c = true) :
    ∃ front, (∀ c ∈ front, isBlank c = true ∧ Table.isLineBreak c = false) ∧
      ∀ rest, Table.blockLines (a ++ (ws ++ rest)) =
        Table.blockLines (a ++ front) ++ Table.blockLines rest := by
  obtain ⟨front, s, back, rfl, hs, hfront⟩ := exists_first_break hbreaks
  have hback : ∀ c ∈ back, isBlank c = true := fun c hc => hws c (by simp [hc])
  refine ⟨front, fun c hc => ⟨hws c (by simp [hc]), hfront c hc⟩, ?_⟩
  intro rest
  rw [List.append_assoc, ← List.append_assoc a, List.cons_append, blockLines_append_break hs,
    blockLines_blank_append hback]

theorem isBlank_of_isLineBreak {c : Char} (h : Table.isLineBreak c = true) : isBlank c = true := by
  simp only [Table.isLineBreak, Bool.or_eq_true, beq_iff_eq] at h
  rcases h with rfl | rfl <;> decide

/-- A piece of a line that neither starts nor ends with a blank. -/
structure LinePiece (a : List Char) : Prop where
  ne_nil : a ≠ []
  one_line : ∀ c ∈ a, Table.isLineBreak c = false
  head : ∀ c ∈ a.head?, isBlank c = false
  last : ∀ c ∈ a.getLast?, isBlank c = false

theorem LinePiece.of_no_blank {a : List Char} (hne : a ≠ []) (h : ∀ c ∈ a, isBlank c = false) :
    LinePiece a where
  ne_nil := hne
  one_line := by
    intro c hc
    by_contra hbreak
    have hblank := isBlank_of_isLineBreak (c := c) (by simpa using hbreak)
    rw [h c hc] at hblank
    cases hblank
  head := fun c hc => h c (List.mem_of_mem_head? hc)
  last := fun c hc => h c (List.mem_of_mem_getLast? hc)

theorem LinePiece.trim {a : List Char} (h : LinePiece a) : trim a = a := trimOf_of_ends h.head h.last

theorem LinePiece.blockLines {a front : List Char} (h : LinePiece a)
    (hfront : ∀ c ∈ front, isBlank c = true ∧ Table.isLineBreak c = false) :
    Table.blockLines (a ++ front) = [a] := by
  have hone : ∀ c ∈ a ++ front, Table.isLineBreak c = false := by
    intro c hc
    rcases List.mem_append.1 hc with hc | hc
    · exact h.one_line c hc
    · exact (hfront c hc).2
  have htrim : Text.trim (a ++ front) = a := by
    rw [Text.trim, trimOf_append_right fun c hc => (hfront c hc).1]
    exact h.trim
  rw [blockLines_of_no_break hone, htrim, if_neg h.ne_nil]

/-- Blanks and line breaks behind a piece are no part of its line. -/
theorem LinePiece.blockLines_blanks {a ws : List Char} (h : LinePiece a)
    (hws : ∀ c ∈ ws, isBlank c = true) : Table.blockLines (a ++ ws) = [a] := by
  by_cases hbreaks : ∃ c ∈ ws, Table.isLineBreak c = true
  · obtain ⟨front, hfront, happend⟩ := blockLines_append_end a hws hbreaks
    have hall := happend []
    rw [List.append_nil, h.blockLines hfront] at hall
    exact hall
  · refine h.blockLines fun c hc => ⟨hws c hc, ?_⟩
    exact Bool.eq_false_iff.2 fun hb => hbreaks ⟨c, hc, hb⟩

/-- A piece and what follows it behind a gap: on one line if the gap has no line break. -/
theorem LinePiece.blockLines_gap {a ws b h : List Char} {lines : List (List Char)} (ha : LinePiece a)
    (hws : ∀ c ∈ ws, isBlank c = true) {d : Char} {more : List Char} (hb : b = d :: more)
    (hd : isBlank d = false) (hlines : Table.blockLines b = h :: lines) :
    Table.blockLines (a ++ (ws ++ b)) = a :: h :: lines ∨
      Table.blockLines (a ++ (ws ++ b)) = (a ++ (ws ++ h)) :: lines := by
  by_cases hbreaks : ∃ c ∈ ws, Table.isLineBreak c = true
  · obtain ⟨front, hfront, happend⟩ := blockLines_append_end a hws hbreaks
    rw [happend, ha.blockLines hfront, hlines]
    exact .inl rfl
  · refine .inr ?_
    have hone : ∀ c ∈ a ++ ws, Table.isLineBreak c = false := by
      intro c hc
      rcases List.mem_append.1 hc with hc | hc
      · exact ha.one_line c hc
      · exact Bool.eq_false_iff.2 fun h => hbreaks ⟨c, hc, h⟩
    have hdbreak : Table.isLineBreak d = false := by
      by_contra hbreak
      rw [isBlank_of_isLineBreak (by simpa using hbreak)] at hd
      cases hd
    obtain ⟨first, rest, hrest, hfirst⟩ := pieces_cons_of_not hdbreak more
    obtain ⟨first', rest', hpieces, happend⟩ := pieces_append_of_not_mem hone b
    rw [hb, hfirst] at hpieces
    obtain ⟨rfl, rfl⟩ := List.cons.inj hpieces
    have htrim : Text.trim (a ++ ws ++ (d :: first)) = a ++ ws ++ Text.trim (d :: first) :=
      trimOf_append_of_head (Script.Reader.forall_head?_append ha.ne_nil ha.head ws) rfl hd
    have hne : Text.trim (d :: first) ≠ [] := trimOf_cons_ne_nil hd first
    have hne' : a ++ ws ++ Text.trim (d :: first) ≠ [] := List.append_ne_nil_of_right_ne_nil _ hne
    rw [Table.blockLines, hb, hfirst] at hlines
    simp only [List.map_cons, List.filter_cons, decide_eq_true hne, if_pos] at hlines
    obtain ⟨rfl, rfl⟩ := List.cons.inj hlines
    rw [← List.append_assoc, Table.blockLines, happend]
    simp only [List.map_cons, List.filter_cons, htrim, decide_eq_true hne', if_pos]
    rw [List.append_assoc]

end SchemaBindings

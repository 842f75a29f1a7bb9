import SchemaBindings.Script.Zone

/-!
How the zones of a text follow from the zones of its pieces. A piece is sealed when no text behind it
changes how it is read or how it leaves things; a text that closes all it opens is sealed by any
character that is no part of a marker. Masking keeps every zone, except that comments become code.
-/

namespace SchemaBindings.Script

set_option autoImplicit false

instance (priority := high) decidableForallText (p : Char → Prop) [DecidablePred p] (text : List Char) :
    Decidable (∀ c, c ∈ text → p c) :=
  List.decidableBAll p text

instance (priority := high) decidableForallHead (p : Char → Prop) [DecidablePred p] (c? : Option Char) :
    Decidable (∀ c, c ∈ c? → p c) :=
  Option.decidableForallMem c?

def Mode.after (m : Mode) : List Char → Mode
  | [] => m
  | c :: rest => (m.step c rest.head?).2.after rest

/-- The text closes every literal and every comment that it opens. -/
def Closed (text : List Char) : Prop := Mode.code.after text = .code

instance (text : List Char) : Decidable (Closed text) :=
  inferInstanceAs (Decidable (Mode.code.after text = .code))

/-- The characters that quotes and the marks of comments are made of. -/
def isMarker (c : Char) : Bool := c == '\'' || c == '-' || c == '/' || c == '*'

theorem Mode.step_code_of_ne {c : Char} {next : Option Char} (hq : c ≠ '\'')
    (hd : c = '-' → next ≠ some '-') (hs : c = '/' → next ≠ some '*') :
    Mode.code.step c next = (.code, .code) := by
  unfold Mode.step
  split <;> simp_all

theorem Mode.step_code {c : Char} (hc : isMarker c = false) (next : Option Char) :
    Mode.code.step c next = (.code, .code) := by
  simp only [isMarker, Bool.or_eq_false_iff, beq_eq_false_iff_ne, ne_eq] at hc
  obtain ⟨⟨⟨hq, hd⟩, hs⟩, _⟩ := hc
  exact Mode.step_code_of_ne hq (fun h => (hd h).elim) (fun h => (hs h).elim)

theorem Mode.step_literal_of_ne {c : Char} (hq : c ≠ '\'') (next : Option Char) :
    Mode.literal.step c next = (.literal, .literal) := by
  unfold Mode.step
  split <;> simp_all

theorem Mode.step_literal_quote {next : Option Char} (hn : next ≠ some '\'') :
    Mode.literal.step '\'' next = (.literal, .code) := by
  unfold Mode.step
  split <;> simp_all

theorem Mode.step_lineComment_of_ne {c : Char} (hc : c ≠ '\n') (next : Option Char) :
    Mode.lineComment.step c next = (.comment, .lineComment) := by
  unfold Mode.step
  split <;> simp_all

/-- What follows matters to a mode only if it is part of a marker. -/
theorem Mode.step_next {d : Char} (hd : isMarker d = false) (m : Mode) (c : Char) :
    m.step c (some d) = m.step c none := by
  simp only [isMarker, Bool.or_eq_false_iff, beq_eq_false_iff_ne, ne_eq] at hd
  obtain ⟨⟨⟨hq, hm⟩, hs⟩, ha⟩ := hd
  cases m <;> unfold Mode.step <;> split <;> simp_all

theorem zonesFrom_append {b : List Char} (hb : ∀ c ∈ b.head?, isMarker c = false) (m : Mode)
    (a : List Char) : zonesFrom m (a ++ b) = zonesFrom m a ++ zonesFrom (m.after a) b := by
  induction a generalizing m with
  | nil => rfl
  | cons c rest ih =>
    have hstep : m.step c (rest ++ b).head? = m.step c rest.head? := by
      cases rest with
      | cons d more => rfl
      | nil =>
        cases b with
        | nil => rfl
        | cons d more => exact Mode.step_next (hb d rfl) m c
    simp only [List.cons_append, zonesFrom, Mode.after, hstep, ih]

/-- Whatever follows the text is read as if it stood alone, and so is the text. -/
def Sealed (a : List Char) : Prop := ∀ b, zones (a ++ b) = zones a ++ zones b

theorem sealed_nil : Sealed [] := fun _ => rfl

theorem Sealed.append {a b : List Char} (ha : Sealed a) (hb : Sealed b) : Sealed (a ++ b) := by
  intro c
  rw [List.append_assoc, ha, hb, ha, List.append_assoc]

theorem sealed_singleton {c : Char} (hc : isMarker c = false) : Sealed [c] := by
  intro b
  simp [zones, zonesFrom, Mode.step_code hc]

theorem Sealed.cons {c : Char} {a : List Char} (hc : isMarker c = false) (ha : Sealed a) :
    Sealed (c :: a) :=
  (sealed_singleton hc).append ha

theorem sealed_of_plain {a : List Char} (ha : ∀ c ∈ a, isMarker c = false) : Sealed a := by
  induction a with
  | nil => exact sealed_nil
  | cons c rest ih =>
    exact Sealed.cons (ha c List.mem_cons_self) (ih fun d hd => ha d (List.mem_cons_of_mem c hd))

theorem closed_of_plain {a : List Char} (ha : ∀ c ∈ a, isMarker c = false) : Closed a := by
  induction a with
  | nil => rfl
  | cons c rest ih =>
    rw [Closed, Mode.after, Mode.step_code (ha c List.mem_cons_self)]
    exact ih fun d hd => ha d (List.mem_cons_of_mem c hd)

theorem Closed.zones_append {a b : List Char} (ha : Closed a)
    (hb : ∀ c ∈ b.head?, isMarker c = false) : zones (a ++ b) = zones a ++ zones b := by
  rw [zones, zonesFrom_append hb, ha]
  rfl

theorem Closed.marked_append {a b : List Char} (ha : Closed a)
    (hb : ∀ c ∈ b.head?, isMarker c = false) : marked (a ++ b) = marked a ++ marked b := by
  simp only [marked, ha.zones_append hb]
  exact List.zip_append (length_zones a).symm

theorem Closed.mask_append {a b : List Char} (ha : Closed a)
    (hb : ∀ c ∈ b.head?, isMarker c = false) : mask (a ++ b) = mask a ++ mask b := by
  simp only [mask, ha.zones_append hb]
  exact List.zipWith_append (length_zones a).symm

theorem Closed.sealed {a : List Char} (ha : Closed a) {c : Char} (hc : isMarker c = false) :
    Sealed (a ++ [c]) := by
  intro b
  have hhead : ∀ d ∈ (c :: b).head?, isMarker d = false := by simpa using hc
  have hlast : ∀ d ∈ [c].head?, isMarker d = false := by simpa using hc
  have hcons := sealed_singleton hc b
  rw [List.singleton_append] at hcons
  rw [List.append_assoc, List.singleton_append, ha.zones_append hhead, ha.zones_append hlast, hcons,
    List.append_assoc]

theorem Sealed.marked {a : List Char} (ha : Sealed a) (b : List Char) :
    marked (a ++ b) = marked a ++ marked b := by
  simp only [Script.marked, ha b]
  exact List.zip_append (length_zones a).symm

theorem sealed_intercalate {s : List Char} (hs : Sealed s) {pieces : List (List Char)}
    (h : ∀ a ∈ pieces, Sealed a) : Sealed (s.intercalate pieces) := by
  induction pieces with
  | nil => exact sealed_nil
  | cons a rest ih =>
    have hrest := ih fun b hb => h b (List.mem_cons_of_mem a hb)
    cases rest with
    | nil => simpa using h a List.mem_cons_self
    | cons b more =>
      rw [List.intercalate_cons_cons]
      exact ((h a List.mem_cons_self).append hs).append hrest

theorem Sealed.zone_behind {a : List Char} (ha : Sealed a) {c : Char} (hc : isMarker c = false)
    (b : List Char) : (zones (a ++ c :: b))[a.length]? = some .code := by
  rw [ha, List.getElem?_append_right (by simp), length_zones, Nat.sub_self]
  simp [zones, zonesFrom, Mode.step_code hc]

theorem zones_of_plain {a : List Char} (ha : ∀ c ∈ a, isMarker c = false) :
    zones a = List.replicate a.length .code := by
  induction a with
  | nil => rfl
  | cons c rest ih =>
    have hrest := ih fun d hd => ha d (List.mem_cons_of_mem c hd)
    simp only [zones] at hrest
    simp [zones, zonesFrom, Mode.step_code (ha c List.mem_cons_self), hrest, List.replicate_succ]

theorem Sealed.mask {a : List Char} (ha : Sealed a) (b : List Char) :
    mask (a ++ b) = mask a ++ mask b := by
  simp only [Script.mask, ha b]
  exact List.zipWith_append (length_zones a).symm

theorem mask_intercalate {s : List Char} (hs : Sealed s) {pieces : List (List Char)}
    (h : ∀ a ∈ pieces, Sealed a) :
    mask (s.intercalate pieces) = (mask s).intercalate (pieces.map mask) := by
  induction pieces with
  | nil => rfl
  | cons a rest ih =>
    have hrest := ih fun b hb => h b (List.mem_cons_of_mem a hb)
    cases rest with
    | nil => simp
    | cons b more =>
      rw [List.intercalate_cons_cons, ((h a List.mem_cons_self).append hs).mask,
        (h a List.mem_cons_self).mask, hrest]
      simp [List.intercalate_cons_cons]

theorem mask_of_plain {a : List Char} (ha : ∀ c ∈ a, isMarker c = false) : mask a = a := by
  rw [mask, zones_of_plain ha]
  clear ha
  induction a with
  | nil => rfl
  | cons c rest ih => simp [List.replicate_succ, ih]

theorem mask_plain_append {a : List Char} (ha : ∀ c ∈ a, isMarker c = false) (b : List Char) :
    mask (a ++ b) = a ++ mask b := by
  rw [(sealed_of_plain ha).mask, mask_of_plain ha]

/-- Without its comments the text `a` is `a'`, and it holds nothing that could start one. -/
structure Clears (a a' : List Char) : Prop where
  sealed : Sealed a
  mask : mask a = a'
  plain : ∀ c ∈ a', isMarker c = false

theorem clears_of_plain {a : List Char} (ha : ∀ c ∈ a, isMarker c = false) : Clears a a where
  sealed := sealed_of_plain ha
  mask := mask_of_plain ha
  plain := ha

theorem Clears.append {a a' b b' : List Char} (ha : Clears a a') (hb : Clears b b') :
    Clears (a ++ b) (a' ++ b') where
  sealed := ha.sealed.append hb.sealed
  mask := by rw [ha.sealed.mask, ha.mask, hb.mask]
  plain := by
    simp only [List.forall_mem_append]
    exact ⟨ha.plain, hb.plain⟩

theorem blank_comment (c : Char) : isMarker (blank c .comment) = false := by
  by_cases hr : c = '\r'
  · subst hr; rfl
  by_cases hn : c = '\n'
  · subst hn; rfl
  · simp [blank, hr, hn, isMarker]

theorem blank_eq_or_space (c : Char) (z : Zone) : blank c z = c ∨ blank c z = ' ' := by
  unfold blank
  split
  · exact .inr rfl
  · exact .inl rfl

def Zone.cleared : Zone → Zone
  | .literal => .literal
  | _ => .code

def Mode.cleared : Mode → Mode
  | .literal => .literal
  | .doubled => .doubled
  | _ => .code

theorem Mode.step_blockComment (c : Char) (next : Option Char) :
    (Mode.blockComment.step c next).1 = .comment ∧
      (Mode.blockComment.step c next).2.cleared = .code := by
  unfold Mode.step
  split <;> simp_all [Mode.cleared]

/-- Blanking gives no character that a marker could start with or go on with. -/
theorem ne_some_of_map_blank {next : Option Char} {f : Char → Zone} {d : Char} (hd : d ≠ ' ')
    (hn : next ≠ some d) : (next.map fun e => blank e (f e)) ≠ some d := by
  intro h
  obtain ⟨e, rfl, he⟩ := Option.map_eq_some_iff.1 h
  rcases blank_eq_or_space e (f e) with hb | hb
  · exact hn (by rw [← he, hb])
  · exact hd (by rw [← he, hb])

/-- One step on a masked text does what it does on the text, apart from comments. -/
theorem Mode.step_cleared (m : Mode) (c : Char) (next more : Option Char) :
    m.cleared.step (blank c (m.step c next).1)
        (next.map fun d => blank d ((m.step c next).2.step d more).1) =
      ((m.step c next).1.cleared, (m.step c next).2.cleared) := by
  cases m with
  | code =>
    by_cases hq : c = '\''
    · subst hq; rfl
    by_cases hd : c = '-' ∧ next = some '-'
    · obtain ⟨rfl, rfl⟩ := hd; rfl
    by_cases hs : c = '/' ∧ next = some '*'
    · obtain ⟨rfl, rfl⟩ := hs; rfl
    have hd' : c = '-' → next ≠ some '-' := fun h e => hd ⟨h, e⟩
    have hs' : c = '/' → next ≠ some '*' := fun h e => hs ⟨h, e⟩
    rw [Mode.step_code_of_ne hq hd' hs']
    simp only [blank_code]
    exact Mode.step_code_of_ne hq (fun h => ne_some_of_map_blank (by decide) (hd' h))
      (fun h => ne_some_of_map_blank (by decide) (hs' h))
  | literal =>
    by_cases hq : c = '\''
    · subst hq
      by_cases hn : next = some '\''
      · subst hn; rfl
      · rw [Mode.step_literal_quote hn]
        exact Mode.step_literal_quote (ne_some_of_map_blank (by decide) hn)
    · rw [Mode.step_literal_of_ne hq, blank_literal]
      exact Mode.step_literal_of_ne hq _
  | doubled => rfl
  | lineComment =>
    by_cases hc : c = '\n'
    · subst hc; rfl
    · rw [Mode.step_lineComment_of_ne hc]
      exact Mode.step_code (blank_comment c) _
  | opening => exact Mode.step_code (blank_comment c) _
  | blockComment =>
    rw [(Mode.step_blockComment c next).1, (Mode.step_blockComment c next).2]
    exact Mode.step_code (blank_comment c) _
  | closing => exact Mode.step_code (blank_comment c) _

/-- The same of a character in a text that goes on behind it. -/
theorem Mode.step_mask (m : Mode) (c : Char) (rest : List Char) :
    m.cleared.step (blank c (m.step c rest.head?).1)
        (List.zipWith blank rest (zonesFrom (m.step c rest.head?).2 rest)).head? =
      ((m.step c rest.head?).1.cleared, (m.step c rest.head?).2.cleared) := by
  rw [← Mode.step_cleared m c rest.head? rest.tail.head?]
  cases rest <;> rfl

theorem zonesFrom_mask (m : Mode) (text : List Char) :
    zonesFrom m.cleared (List.zipWith blank text (zonesFrom m text)) =
      (zonesFrom m text).map Zone.cleared := by
  induction text generalizing m with
  | nil => rfl
  | cons c rest ih => simp only [zonesFrom, List.zipWith_cons_cons, List.map_cons, Mode.step_mask, ih]

theorem Mode.after_mask (m : Mode) (text : List Char) :
    m.cleared.after (List.zipWith blank text (zonesFrom m text)) = (m.after text).cleared := by
  induction text generalizing m with
  | nil => rfl
  | cons c rest ih => simp only [zonesFrom, List.zipWith_cons_cons, Mode.after, Mode.step_mask, ih]

theorem Closed.mask {text : List Char} (h : Closed text) : Closed (mask text) := by
  have hafter := Mode.after_mask .code text
  rw [h] at hafter
  exact hafter

/-- Masking leaves literals where they are, and no comment. -/
theorem zones_mask (text : List Char) : zones (mask text) = (zones text).map Zone.cleared :=
  zonesFrom_mask .code text

def cleared (x : Char × Zone) : Char × Zone := (blank x.1 x.2, x.2.cleared)

theorem marked_mask (text : List Char) : marked (mask text) = (marked text).map cleared := by
  rw [marked, zones_mask, mask, marked]
  generalize zones text = zs
  induction text generalizing zs with
  | nil => rfl
  | cons c rest ih =>
    cases zs with
    | nil => rfl
    | cons z more => simp [cleared, ih]

@[simp] theorem mask_mask (text : List Char) : mask (mask text) = mask text := by
  have hclear : ∀ c z, blank (blank c z) z.cleared = blank c z := by
    intro c z
    cases z <;> simp [Zone.cleared]
  rw [mask, zones_mask, mask]
  generalize zones text = zs
  induction text generalizing zs with
  | nil => rfl
  | cons c rest ih =>
    cases zs with
    | nil => rfl
    | cons z more => simp [hclear, ih]

theorem map_fst_marked (text : List Char) : (marked text).map Prod.fst = text :=
  List.map_fst_zip (Nat.le_of_eq (length_zones text).symm)

end SchemaBindings.Script

import SchemaBindings.Proofs.Text.Pieces
import SchemaBindings.Script.Reader

/-!
What readers do with a text whose start is known, and what they can take off a text at all.
-/

namespace SchemaBindings.Script.Reader

set_option autoImplicit false

open Text (isBlank isWordChar isDecimal matchesLetter)

variable {α β : Type}

theorem pure_apply (a : α) (text : List Char) : (pure a : Reader α) text = some (a, text) := rfl

theorem bind_apply (x : Reader α) (f : α → Reader β) (text : List Char) :
    (x >>= f) text = (x text).bind fun p => f p.1 p.2 := rfl

theorem bind_of_eq {x : Reader α} {f : α → Reader β} {text r : List Char} {a : α}
    (h : x text = some (a, r)) : (x >>= f) text = f a r := by
  rw [bind_apply, h, Option.bind_some]

theorem bind_of_none {x : Reader α} {f : α → Reader β} {text : List Char} (h : x text = none) :
    (x >>= f) text = none := by
  rw [bind_apply, h, Option.bind_none]

theorem get_apply (text : List Char) : (get : Reader (List Char)) text = some (text, text) := rfl

theorem orElse_apply (x y : Reader α) (text : List Char) :
    (x <|> y) text = (x text).or (y text) := by
  change (x text).orElse _ = _
  cases x text <;> rfl

theorem optional_apply (x : Reader α) (text : List Char) :
    optional x text = some (((x text).map fun p => (some p.1, p.2)).getD (none, text)) := by
  change (some <$> x <|> pure none : Reader (Option α)) text = _
  rw [orElse_apply]
  change ((x text).bind fun p => some (some p.1, p.2)).or _ = _
  cases x text <;> rfl

theorem optional_of_eq {x : Reader α} {text rest : List Char} {a : α}
    (h : x text = some (a, rest)) : optional x text = some (some a, rest) := by
  rw [optional_apply, h]
  rfl

theorem optional_of_none {x : Reader α} {text : List Char} (h : x text = none) :
    optional x text = some (none, text) := by
  rw [optional_apply, h]
  rfl

theorem char_cons (c d : Char) (rest : List Char) :
    char c (d :: rest) = if d = c then some ((), rest) else none := by
  simp only [char, bind_apply, satisfy_cons, beq_iff_eq]
  split <;> rfl

theorem char_self (c : Char) (rest : List Char) : char c (c :: rest) = some ((), rest) := by
  rw [char_cons, if_pos rfl]

theorem char_of_ne {c d : Char} (h : d ≠ c) (rest : List Char) : char c (d :: rest) = none := by
  rw [char_cons, if_neg h]

theorem optional_char_cons (c : Char) (rest : List Char) :
    optional (char c) (c :: rest) = some (some (), rest) :=
  optional_of_eq (char_self c rest)

theorem optional_char_of_head {c : Char} {rest : List Char} (hr : ∀ d ∈ rest.head?, d ≠ c) :
    optional (char c) rest = some (none, rest) := by
  cases rest with
  | nil => rfl
  | cons d more => exact optional_of_none (char_of_ne (hr d rfl) more)

theorem forall_head?_cons {p : Char → Prop} {c : Char} (h : p c) (rest : List Char) :
    ∀ d ∈ (c :: rest).head?, p d := by
  intro d hd
  obtain rfl : c = d := by simpa using hd
  exact h

theorem forall_head?_append {p : Char → Prop} {a : List Char} (hne : a ≠ [])
    (h : ∀ c ∈ a.head?, p c) (rest : List Char) : ∀ c ∈ (a ++ rest).head?, p c := by
  cases a with
  | nil => exact (hne rfl).elim
  | cons c more => exact h

theorem forall_getLast?_append {p : Char → Prop} {b : List Char} (hne : b ≠ [])
    (h : ∀ c ∈ b.getLast?, p c) (a : List Char) : ∀ c ∈ (a ++ b).getLast?, p c := by
  rwa [List.getLast?_append, List.getLast?_eq_some_getLast hne, Option.some_or,
    ← List.getLast?_eq_some_getLast hne]

theorem many_append {p : Char → Bool} {taken rest : List Char}
    (ht : ∀ c ∈ taken, p c = true) (hr : ∀ c ∈ rest.head?, p c = false) :
    many p (taken ++ rest) = some (taken, rest) := by
  rw [many_apply, Text.takeWhile_append_of_head ht hr, Text.dropWhile_append_of_head ht hr]

theorem many1_append {p : Char → Bool} {taken rest : List Char} (hne : taken ≠ [])
    (ht : ∀ c ∈ taken, p c = true) (hr : ∀ c ∈ rest.head?, p c = false) :
    many1 p (taken ++ rest) = some (taken, rest) := by
  cases taken with
  | nil => exact (hne rfl).elim
  | cons c more =>
    have hc : p c = true := ht c List.mem_cons_self
    have hmore : many p (more ++ rest) = some (more, rest) :=
      many_append (fun d hd => ht d (List.mem_cons_of_mem c hd)) hr
    have hfirst : satisfy p (c :: (more ++ rest)) = some (c, more ++ rest) := by
      rw [satisfy_cons, if_pos hc]
    exact (bind_of_eq hfirst).trans (bind_of_eq hmore)

theorem many1_of_head {p : Char → Bool} {rest : List Char} (hr : ∀ c ∈ rest.head?, p c = false) :
    many1 p rest = none := by
  cases rest with
  | nil => rfl
  | cons c more =>
    have hc : p c = false := hr c rfl
    refine bind_of_none ?_
    rw [satisfy_cons, hc]
    rfl

theorem many1_eq_some {p : Char → Bool} {text a rest : List Char}
    (h : many1 p text = some (a, rest)) : rest = text.dropWhile p := by
  cases text with
  | nil => cases h
  | cons c more =>
    cases hc : p c with
    | false =>
      rw [many1_of_head (forall_head?_cons hc more)] at h
      cases h
    | true =>
      have hfirst : satisfy p (c :: more) = some (c, more) := by rw [satisfy_cons, if_pos hc]
      rw [many1, bind_of_eq hfirst] at h
      obtain ⟨_, rfl⟩ : c :: more.takeWhile p = a ∧ more.dropWhile p = rest := by
        simpa [bind_apply, pure_apply] using h
      rw [List.dropWhile_cons_of_pos hc]

theorem head?_dropWhile_append {p : Char → Bool} {w : List Char} {d : Char} (hd : p d = false)
    (b : List Char) : ∀ c ∈ ((w ++ d :: b).dropWhile p).head?, c ∈ w ∨ c = d := by
  induction w with
  | nil =>
    intro c hc
    rw [List.nil_append, List.dropWhile_cons_of_neg (by simp [hd])] at hc
    exact .inr (by simpa using hc.symm)
  | cons x more ih =>
    intro c hc
    rw [List.cons_append] at hc
    cases hx : p x with
    | true =>
      rw [List.dropWhile_cons_of_pos hx] at hc
      rcases ih c hc with h | h
      · exact .inl (List.mem_cons_of_mem x h)
      · exact .inr h
    | false =>
      rw [List.dropWhile_cons_of_neg (by simp [hx])] at hc
      exact .inl (by simp_all)

theorem blanks_append {w r : List Char} (ht : ∀ c ∈ w, isBlank c = true)
    (hr : ∀ c ∈ r.head?, isBlank c = false) : blanks (w ++ r) = some ((), r) :=
  bind_of_eq (many_append ht hr)

theorem blanks_of_head {rest : List Char} (hr : ∀ c ∈ rest.head?, isBlank c = false) :
    blanks rest = some ((), rest) :=
  blanks_append (w := []) (by simp) hr

theorem blanks1_append {w r : List Char} (hne : w ≠ [])
    (ht : ∀ c ∈ w, isBlank c = true) (hr : ∀ c ∈ r.head?, isBlank c = false) :
    blanks1 (w ++ r) = some ((), r) :=
  bind_of_eq (many1_append hne ht hr)

theorem blanks1_of_head {rest : List Char} (hr : ∀ c ∈ rest.head?, isBlank c = false) :
    blanks1 rest = none :=
  bind_of_none (many1_of_head hr)

theorem wordEnd_of_head {rest : List Char} (hr : ∀ c ∈ rest.head?, isWordChar c = false) :
    wordEnd rest = some ((), rest) := by
  cases rest with
  | nil => rfl
  | cons c more =>
    have hc : isWordChar c = false := hr c rfl
    simp [wordEnd, hc]

/-- The letters of a keyword as they may stand in a text. -/
def spells : List Char → List Char → Bool
  | [], [] => true
  | k :: keys, c :: letters => matchesLetter k c && spells keys letters
  | _, _ => false

theorem keyLetters_cons_of_match {k c : Char} (h : matchesLetter k c = true)
    (keys rest : List Char) : keyLetters (k :: keys) (c :: rest) = keyLetters keys rest := by
  refine bind_of_eq (a := c) ?_
  rw [satisfy_cons, if_pos h]

theorem keyLetters_cons_of_not {k c : Char} (h : matchesLetter k c = false) (keys rest : List Char) :
    keyLetters (k :: keys) (c :: rest) = none := by
  refine bind_of_none ?_
  rw [satisfy_cons, h]
  rfl

theorem keyLetters_append {keys letters : List Char} (h : spells keys letters) (rest : List Char) :
    keyLetters keys (letters ++ rest) = some ((), rest) := by
  induction keys generalizing letters with
  | nil =>
    cases letters with
    | nil => rfl
    | cons c more => simp [spells] at h
  | cons k keys ih =>
    cases letters with
    | nil => simp [spells] at h
    | cons c more =>
      obtain ⟨hc, hmore⟩ : matchesLetter k c ∧ spells keys more := by simpa [spells] using h
      exact (keyLetters_cons_of_match hc _ _).trans (ih hmore)

theorem keyword_append {word : String} {w : List Char} (h : spells word.toList w)
    (rest : List Char) : keyword word (w ++ rest) = some ((), rest) :=
  keyLetters_append h rest

theorem keyLetters_eq_some {keys text : List Char} {v : Unit × List Char}
    (h : keyLetters keys text = some v) : ∃ w, text = w ++ v.2 ∧ spells keys w = true := by
  induction keys generalizing text with
  | nil =>
    obtain rfl := Option.some.inj h
    exact ⟨[], rfl, rfl⟩
  | cons k keys ih =>
    cases text with
    | nil => cases h
    | cons c rest =>
      cases hc : matchesLetter k c with
      | false =>
        rw [keyLetters_cons_of_not hc] at h
        cases h
      | true =>
        rw [keyLetters_cons_of_match hc] at h
        obtain ⟨w, htext, hspells⟩ := ih h
        refine ⟨c :: w, congrArg (c :: ·) htext, ?_⟩
        rw [spells, hc, hspells]
        rfl

theorem length_of_spells {keys letters : List Char} (h : spells keys letters = true) :
    letters.length = keys.length := by
  induction keys, letters using spells.induct with
  | case1 => rfl
  | case2 k keys c letters ih =>
    rw [spells, Bool.and_eq_true] at h
    exact congrArg Nat.succ (ih h.2)
  | case3 => simp [spells] at h

/-- A keyword without `s`, `k` and `i` is spelled with the letters of ASCII alone. -/
theorem map_toLower_of_spells {keys letters : List Char}
    (hkeys : ∀ k ∈ keys, k ≠ 's' ∧ k ≠ 'k' ∧ k ≠ 'i')
    (h : spells keys letters = true) : letters.map Char.toLower = keys := by
  induction keys, letters using spells.induct with
  | case1 => rfl
  | case2 k keys c letters ih =>
    rw [spells, Bool.and_eq_true] at h
    obtain ⟨hk, hmore⟩ := List.forall_mem_cons.1 hkeys
    have hc : c.toLower = k := by simpa [matchesLetter, hk] using h.1
    rw [List.map_cons, hc, ih hmore h.2]
  | case3 => simp [spells] at h

theorem lastLine_apply (text : List Char) : lastLine text =
    if text.dropWhile (· ≠ '\n') = [] ∨ text.dropWhile (· ≠ '\n') = ['\n']
    then some (text.takeWhile (· ≠ '\n'), text.dropWhile (· ≠ '\n')) else none := rfl

theorem lastLine_append {a : List Char} (ha : '\n' ∉ a) (b : List Char) :
    lastLine (a ++ b) = (lastLine b).map fun w => (a ++ w.1, w.2) := by
  have hline : ∀ c ∈ a, decide (c ≠ '\n') = true := by
    intro c hc
    rw [decide_eq_true_eq]
    rintro rfl
    exact ha hc
  rw [lastLine_apply, lastLine_apply, List.dropWhile_append_of_pos hline, List.takeWhile_append_of_pos hline]
  split
  · rfl
  · rfl

theorem lastLine_of_mem {a : List Char} (ha : '\n' ∈ a) (d : Char) (b : List Char) :
    lastLine (a ++ d :: b) = none := by
  obtain ⟨p, q, rfl, hp⟩ := List.eq_append_cons_of_mem ha
  have hbreak : lastLine ('\n' :: (q ++ d :: b)) = none := by
    rw [lastLine_apply, List.dropWhile_cons_of_neg (by decide), if_neg]
    simp
  rw [List.append_assoc, List.cons_append, lastLine_append hp, hbreak, Option.map_none]

theorem isPrefix_lastLine {text : List Char} {w : List Char × List Char} (h : lastLine text = some w) :
    w.1 <+: text := by
  rw [lastLine_apply, Option.ite_none_right_eq_some] at h
  obtain ⟨_, h⟩ := h
  rw [← Option.some.inj h]
  exact List.takeWhile_prefix _

/-- Whatever the reader takes off a text is of the class. -/
def Takes (p : Char → Prop) (r : Reader α) : Prop :=
  ∀ text a rest, r text = some (a, rest) → ∃ taken, text = taken ++ rest ∧ ∀ c ∈ taken, p c

section Takes
variable {p : Char → Prop}

theorem takes_pure (a : α) : Takes p (pure a : Reader α) := by
  intro text b rest h
  obtain ⟨rfl, rfl⟩ : a = b ∧ text = rest := by simpa [pure_apply] using h
  exact ⟨[], rfl, by simp⟩

theorem Takes.bind {x : Reader α} {f : α → Reader β} (hx : Takes p x) (hf : ∀ a, Takes p (f a)) :
    Takes p (x >>= f) := by
  intro text b rest h
  rw [bind_apply, Option.bind_eq_some_iff] at h
  obtain ⟨⟨a, middle⟩, ha, hb⟩ := h
  obtain ⟨first, rfl, hfirst⟩ := hx text a middle ha
  obtain ⟨second, rfl, hsecond⟩ := hf a middle b rest hb
  refine ⟨first ++ second, by simp, ?_⟩
  intro c hc
  rcases List.mem_append.1 hc with hc | hc
  · exact hfirst c hc
  · exact hsecond c hc

theorem Takes.orElse {x y : Reader α} (hx : Takes p x) (hy : Takes p y) : Takes p (x <|> y) := by
  intro text a rest h
  rw [orElse_apply] at h
  cases hr : x text with
  | none => exact hy text a rest (by simpa [hr] using h)
  | some r => exact hx text a rest (by simpa [hr] using h)

theorem Takes.optional {x : Reader α} (hx : Takes p x) : Takes p (optional x) := by
  intro text a rest h
  rw [optional_apply, Option.some.injEq] at h
  cases hr : x text with
  | none =>
    obtain ⟨rfl, rfl⟩ : none = a ∧ text = rest := by simpa [hr] using h
    exact ⟨[], rfl, by simp⟩
  | some r =>
    obtain ⟨_, rfl⟩ : some r.1 = a ∧ r.2 = rest := by simpa [hr] using h
    exact hx text r.1 r.2 hr

theorem takes_satisfy {q : Char → Bool} (hq : ∀ c, q c = true → p c) : Takes p (satisfy q) := by
  intro text a rest h
  cases text with
  | nil => simp at h
  | cons c more =>
    rw [satisfy_cons] at h
    split at h
    · rename_i hc
      obtain ⟨_, rfl⟩ : c = a ∧ more = rest := by simpa using h
      exact ⟨[c], rfl, by simpa using hq c hc⟩
    · simp at h

theorem takes_many {q : Char → Bool} (hq : ∀ c, q c = true → p c) : Takes p (many q) := by
  intro text a rest h
  obtain ⟨_, rfl⟩ : text.takeWhile q = a ∧ text.dropWhile q = rest := by simpa using h
  refine ⟨text.takeWhile q, List.takeWhile_append_dropWhile.symm, ?_⟩
  intro c hc
  exact hq c (List.mem_takeWhile_imp hc)

theorem takes_many1 {q : Char → Bool} (hq : ∀ c, q c = true → p c) : Takes p (many1 q) :=
  (takes_satisfy hq).bind fun _ => (takes_many hq).bind fun _ => takes_pure _

theorem takes_char {c : Char} (hc : p c) : Takes p (char c) :=
  (takes_satisfy fun d hd => by rw [eq_of_beq hd]; exact hc).bind fun _ => takes_pure _

theorem takes_blanks (h : ∀ c, isBlank c = true → p c) : Takes p blanks :=
  (takes_many h).bind fun _ => takes_pure _

theorem takes_blanks1 (h : ∀ c, isBlank c = true → p c) : Takes p blanks1 :=
  (takes_many1 h).bind fun _ => takes_pure _

theorem takes_name (hw : ∀ c, isWordChar c = true → p c) (ho : p '[') (hc : p ']') :
    Takes p name :=
  (takes_char ho).optional.bind fun _ =>
    ((takes_many1 hw).bind fun _ => takes_pure _).bind fun _ =>
      (takes_char hc).optional.bind fun _ => takes_pure _

theorem takes_keyLetters {keys : List Char}
    (h : ∀ k ∈ keys, ∀ c, matchesLetter k c = true → p c) : Takes p (keyLetters keys) := by
  induction keys with
  | nil => exact takes_pure ()
  | cons k rest ih =>
    exact (takes_satisfy (h k List.mem_cons_self)).bind fun _ =>
      ih fun l hl => h l (List.mem_cons_of_mem k hl)

theorem takes_any_blanks : Takes (fun _ => True) blanks := takes_blanks fun _ _ => trivial

theorem takes_any_blanks1 : Takes (fun _ => True) blanks1 := takes_blanks1 fun _ _ => trivial

theorem takes_any_name : Takes (fun _ => True) name :=
  takes_name (fun _ _ => trivial) trivial trivial

theorem takes_any_keyword (word : String) : Takes (fun _ => True) (keyword word) :=
  takes_keyLetters fun _ _ _ _ => trivial

end Takes

/-- The reader fails on a text without the character. -/
def Needs (d : Char) (r : Reader α) : Prop :=
  ∀ text a rest, r text = some (a, rest) → d ∈ text

theorem Needs.bind {d : Char} {x : Reader α} {f : α → Reader β}
    (hx : Takes (fun _ => True) x) (hf : ∀ a, Needs d (f a)) : Needs d (x >>= f) := by
  intro text b rest h
  rw [bind_apply, Option.bind_eq_some_iff] at h
  obtain ⟨⟨a, middle⟩, ha, hb⟩ := h
  obtain ⟨taken, rfl, _⟩ := hx text a middle ha
  exact List.mem_append_right taken (hf a middle b rest hb)

theorem needs_char (d : Char) (f : Reader α) : Needs d (do char d; f) := by
  intro text a rest h
  cases text with
  | nil => cases h
  | cons c more =>
    by_cases hc : c = d
    · rw [hc]
      exact List.mem_cons_self
    · rw [bind_of_none (char_of_ne hc more)] at h
      cases h

end SchemaBindings.Script.Reader

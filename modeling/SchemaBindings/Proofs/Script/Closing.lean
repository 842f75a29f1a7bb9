import SchemaBindings.Proofs.Script.Searching

/-!
Clauses that end with the first character of some kind behind their start, a parenthesis say, and clauses
that stop in front of it. What stands behind such a character has no part in what is found in front of it, so
a search falls into one search for each stretch up to such a character.
-/

namespace SchemaBindings.Script

set_option autoImplicit false

open Text (isBlank isWordChar matchesLetter)
open Reader

variable {α β : Type}

/-- A `d` is to the reader what the end of the text is. -/
structure Reader.StopsAt (d : Char) (r : Reader α) : Prop where
  takes : Takes (fun _ => True) r
  stops : ∀ p q, r (p ++ d :: q) = (r p).map fun v => (v.1, v.2 ++ d :: q)

/-- The reader takes nothing from the first `d` of a text on, and what stands behind that `d` does not
matter to it. -/
def Reader.Before (d : Char) (r : Reader α) : Prop :=
  ∀ p, d ∉ p → ∃ o : Option (α × List Char), (∀ v ∈ o, d ∉ v.2) ∧
    ∀ q, r (p ++ d :: q) = o.map fun v => (v.1, v.2 ++ d :: q)

/-- The reader takes a text up to and with its first `d`, whatever stands behind that `d`. -/
def Reader.Closes (d : Char) (r : Reader α) : Prop :=
  ∀ p, d ∉ p → ∃ o : Option α, ∀ q, r (p ++ d :: q) = o.map (·, q)

namespace Reader
variable {d : Char}

theorem stopsAt_pure (a : α) : StopsAt d (pure a : Reader α) := ⟨takes_pure a, fun _ _ => rfl⟩

theorem StopsAt.bind {x : Reader α} {f : α → Reader β} (hx : StopsAt d x) (hf : ∀ a, StopsAt d (f a)) :
    StopsAt d (x >>= f) := by
  refine ⟨hx.takes.bind fun a => (hf a).takes, fun p q => ?_⟩
  rw [bind_apply, bind_apply, hx.stops]
  cases x p with
  | none => rfl
  | some v => exact (hf v.1).stops v.2 q

theorem StopsAt.optional {x : Reader α} (hx : StopsAt d x) : StopsAt d (optional x) := by
  refine ⟨hx.takes.optional, fun p q => ?_⟩
  rw [optional_apply, optional_apply, hx.stops]
  cases x p <;> rfl

theorem StopsAt.orElse {x y : Reader α} (hx : StopsAt d x) (hy : StopsAt d y) : StopsAt d (x <|> y) := by
  refine ⟨hx.takes.orElse hy.takes, fun p q => ?_⟩
  rw [orElse_apply, orElse_apply, hx.stops, hy.stops, Option.map_or]

theorem stopsAt_satisfy {p : Char → Bool} (hd : p d = false) : StopsAt d (satisfy p) := by
  refine ⟨takes_satisfy fun _ _ => trivial, fun text q => ?_⟩
  cases text with
  | nil =>
    rw [List.nil_append, satisfy_cons, hd]
    rfl
  | cons c rest =>
    rw [List.cons_append, satisfy_cons, satisfy_cons]
    cases p c <;> rfl

theorem stopsAt_many {p : Char → Bool} (hd : p d = false) : StopsAt d (many p) := by
  refine ⟨takes_many fun _ _ => trivial, fun text q => ?_⟩
  rw [many_apply, many_apply, Option.map_some, Option.some.injEq, Prod.mk.injEq]
  induction text with
  | nil => simp [hd]
  | cons c rest ih =>
    cases hc : p c with
    | false => simp [hc]
    | true => simp [hc, ih]

theorem stopsAt_char {c : Char} (hc : d ≠ c) : StopsAt d (char c) :=
  (stopsAt_satisfy (by simpa using hc)).bind fun _ => stopsAt_pure ()

theorem stopsAt_many1 {p : Char → Bool} (hd : p d = false) : StopsAt d (many1 p) :=
  (stopsAt_satisfy hd).bind fun _ => (stopsAt_many hd).bind fun _ => stopsAt_pure _

theorem stopsAt_blanks (hd : isBlank d = false) : StopsAt d blanks :=
  (stopsAt_many hd).bind fun _ => stopsAt_pure ()

theorem stopsAt_blanks1 (hd : isBlank d = false) : StopsAt d blanks1 :=
  (stopsAt_many1 hd).bind fun _ => stopsAt_pure ()

theorem stopsAt_name (hd : isWordChar d = false) (ho : d ≠ '[') (hc : d ≠ ']') : StopsAt d name :=
  (stopsAt_char ho).optional.bind fun _ => ((stopsAt_many1 hd).bind fun _ => stopsAt_pure _).bind fun _ =>
    (stopsAt_char hc).optional.bind fun _ => stopsAt_pure _

theorem stopsAt_keyLetters {keys : List Char} (h : ∀ k ∈ keys, matchesLetter k d = false) :
    StopsAt d (keyLetters keys) := by
  induction keys with
  | nil => exact stopsAt_pure ()
  | cons k rest ih =>
    exact (stopsAt_satisfy (h k List.mem_cons_self)).bind fun _ =>
      ih fun l hl => h l (List.mem_cons_of_mem k hl)

theorem stopsAt_spelled {word : String} {d : Char} (h : ∀ k ∈ word.toList, matchesLetter k d = false) :
    StopsAt d (do let text ← get; keyword word; return text.take word.toList.length) := by
  have hword : StopsAt d (keyword word) := stopsAt_keyLetters h
  constructor
  · intro text a rest hread
    rw [bind_of_eq (get_apply text)] at hread
    exact (hword.takes.bind fun _ => takes_pure _) text a rest hread
  · intro p q
    rw [bind_of_eq (get_apply _), bind_of_eq (get_apply _), bind_apply, bind_apply, hword.stops]
    cases hread : keyword word p with
    | none => rfl
    | some v =>
      obtain ⟨w, rfl, hspells⟩ := keyLetters_eq_some hread
      have hlength := length_of_spells hspells
      rw [Option.map_some, Option.bind_some, Option.bind_some, List.append_assoc, List.take_left' hlength,
        List.take_left' hlength]
      rfl

theorem wordEnd_cons (c : Char) (rest : List Char) :
    wordEnd (c :: rest) = if isWordChar c then none else some ((), c :: rest) := rfl

theorem stopsAt_wordEnd (hd : isWordChar d = false) : StopsAt d wordEnd := by
  constructor
  · intro text a rest h
    refine ⟨[], ?_, by simp⟩
    cases text with
    | nil =>
      cases h
      rfl
    | cons c more =>
      rw [wordEnd_cons, Option.ite_none_left_eq_some] at h
      exact congrArg Prod.snd (Option.some.inj h.2)
  · intro text q
    cases text with
    | nil => exact wordEnd_of_head (forall_head?_cons hd q)
    | cons c rest =>
      rw [List.cons_append, wordEnd_cons, wordEnd_cons]
      split
      · rfl
      · rfl

theorem StopsAt.before {x : Reader α} (hx : StopsAt d x) : Before d x := by
  intro p hp
  refine ⟨x p, fun v hv => ?_, hx.stops p⟩
  obtain ⟨taken, rfl, _⟩ := hx.takes p v.1 v.2 hv
  exact fun hmem => hp (List.mem_append_right taken hmem)

theorem Before.closes_bind {x : Reader α} {f : α → Reader β} (hx : Before d x)
    (hf : ∀ a, Closes d (f a)) : Closes d (x >>= f) := by
  intro p hp
  obtain ⟨o, ho, hread⟩ := hx p hp
  cases o with
  | none => exact ⟨none, fun q => bind_of_none (hread q)⟩
  | some v =>
    obtain ⟨o', hread'⟩ := hf v.1 v.2 (ho v rfl)
    exact ⟨o', fun q => (bind_of_eq (hread q)).trans (hread' q)⟩

theorem closes_char (a : α) : Closes d (do char d; return a : Reader α) := by
  intro p hp
  cases p with
  | nil => exact ⟨some a, fun q => bind_of_eq (char_self d q)⟩
  | cons c rest =>
    have hc : c ≠ d := fun h => hp (h ▸ List.mem_cons_self)
    exact ⟨none, fun q => bind_of_none (char_of_ne hc _)⟩

end Reader

/-- A clause that is read up to and with the first `d` behind its start. -/
structure Clause.ClosedBy (c : Clause α) (d : Char) : Prop where
  needs : Needs d c.read
  closes : Closes d c.read

namespace Clause.ClosedBy
variable {c : Clause α} {d : Char}

/-- What is found in front of a `d` does not depend on anything behind that `d`. -/
theorem exists_here? (hc : c.ClosedBy d) (before : Option Char) (a : List Char) :
    ∃ r : Option (α × Nat), (∀ v ∈ r, v.2 ≤ a.length + 1) ∧
        ∀ b, c.here? before (a ++ d :: b) = r := by
  have hd : d ∈ a ++ [d] := List.mem_append_right a List.mem_cons_self
  obtain ⟨p, q, htext, hp⟩ := List.eq_append_cons_of_mem hd
  have hbehind : ∀ b, a ++ d :: b = p ++ d :: (q ++ b) := by
    intro b
    rw [List.append_cons, htext, List.append_assoc, List.cons_append]
  have hlength : a.length = p.length + q.length := by
    have hsum := congrArg List.length htext
    simp only [List.length_append, List.length_cons, List.length_nil] at hsum
    omega
  obtain ⟨o, hread⟩ := hc.closes p hp
  refine ⟨if c.anchor.allows before then o.map fun v => (v, p.length + 1) else none, ?_, fun b => ?_⟩
  · intro v hv
    split at hv
    · obtain ⟨_, _, rfl⟩ := Option.map_eq_some_iff.1 hv
      simp only [hlength]
      omega
    · cases hv
  · have htaken : (p ++ d :: (q ++ b)).length - (q ++ b).length = p.length + 1 := by
      simp only [List.length_append, List.length_cons]
      omega
    rw [hbehind, here?, hread, Option.map_map]
    simp only [Function.comp_def, htaken]

/-- A search finds what it finds up to a `d`, or goes on behind it. -/
theorem findFrom_append_cons (hc : c.ClosedBy d) (wanted : Nat → Bool) (before : Option Char) (offset : Nat)
    {taken : Nat} (a b : List Char) (ht : taken ≤ a.length + 1) :
    c.findFrom wanted before offset taken (a ++ d :: b) =
      (c.findFrom wanted before offset taken (a ++ [d])).or
        (c.findFrom wanted (some d) (offset + a.length + 1) 0 b) := by
  induction a generalizing before offset taken with
  | nil =>
    cases taken with
    | succ taken =>
      obtain rfl : taken = 0 := by simpa using ht
      rfl
    | zero =>
      obtain ⟨r, hr, hhere⟩ := hc.exists_here? before []
      have hwhole := hhere b
      have halone := hhere []
      rw [List.nil_append] at hwhole halone
      simp only [List.nil_append, findFrom, hwhole, halone]
      cases r with
      | none => rfl
      | some v =>
        have hn : v.2 - 1 = 0 := by
          have hbound := hr v rfl
          simp only [List.length_nil] at hbound
          omega
        simp only [hn]
        split <;> rfl
  | cons x a ih =>
    have goOn : ∀ taken, taken ≤ a.length + 1 →
        c.findFrom wanted (some x) (offset + 1) taken (a ++ d :: b) =
          (c.findFrom wanted (some x) (offset + 1) taken (a ++ [d])).or
            (c.findFrom wanted (some d) (offset + (x :: a).length + 1) 0 b) := by
      intro taken ht
      rw [ih (some x) (offset + 1) ht, List.length_cons, Nat.add_right_comm offset 1, Nat.add_assoc offset]
    cases taken with
    | succ taken => exact goOn taken (Nat.le_of_succ_le_succ ht)
    | zero =>
      obtain ⟨r, hr, hhere⟩ := hc.exists_here? before (x :: a)
      have hwhole := hhere b
      have halone := hhere []
      rw [List.cons_append] at hwhole halone
      simp only [List.cons_append, findFrom, hwhole, halone]
      cases r with
      | none => exact goOn 0 (Nat.zero_le _)
      | some v =>
        simp only
        split
        · rfl
        · have hbound := hr v rfl
          rw [List.length_cons] at hbound
          exact goOn (v.2 - 1) (by omega)

/-- What is found first in a text stands up to some `d` or behind it. -/
theorem map_value_find?_append_cons (hc : c.ClosedBy d) (hanywhere : c.anchor = .anywhere)
    (a b : List Char) : (c.find? (a ++ d :: b)).map Found.value =
      ((c.find? (a ++ [d])).map Found.value).or ((c.find? b).map Found.value) := by
  have hbehind : (c.findFrom (fun _ => true) (some d) (0 + a.length + 1) 0 b).map Found.value =
      (c.find? b).map Found.value := by
    apply c.map_value_findFrom
    rw [hanywhere]
    rfl
  unfold Clause.find?
  rw [hc.findFrom_append_cons _ none 0 a b (Nat.zero_le _), Option.map_or, hbehind]
  rfl

theorem findFrom_of_not_mem (hc : c.ClosedBy d) {text : List Char} (h : d ∉ text) (wanted : Nat → Bool)
    (before : Option Char) (offset : Nat) : c.findFrom wanted before offset 0 text = none := by
  have hpass := passes_of_needs hc.needs h wanted before offset
  rw [List.append_nil] at hpass
  exact hpass

theorem exists_stop (hc : c.ClosedBy d) {wanted : Nat → Bool} {before : Option Char} {offset : Nat}
    {text : List Char} {f : Found α} (h : c.findFrom wanted before offset 0 text = some f) :
    ∃ a b, text = a ++ d :: b ∧ f.start ≤ offset + a.length ∧ f.stop = offset + a.length + 1 := by
  obtain ⟨p, q, rest, rfl, hread, hstart, hstop⟩ := findFrom_eq_some h
  obtain ⟨taken, more, rfl, htaken⟩ := List.eq_append_cons_of_mem (hc.needs q f.value rest hread)
  obtain ⟨o, ho⟩ := hc.closes taken htaken
  rw [ho, Option.map_eq_some_iff] at hread
  obtain ⟨_, _, hrest⟩ := hread
  have hlength : (p ++ taken).length = p.length + taken.length := List.length_append
  refine ⟨p ++ taken, more, (List.append_assoc _ _ _).symm, by omega, ?_⟩
  rw [hstop, hstart, ← (Prod.mk.inj hrest).2, hlength]
  simp only [List.length_append, List.length_cons]
  omega

theorem start_lt_stop (hc : c.ClosedBy d) {wanted : Nat → Bool} {before : Option Char} {offset : Nat}
    {text : List Char} {f : Found α} (h : c.findFrom wanted before offset 0 text = some f) :
    f.start < f.stop := by
  obtain ⟨a, b, _, hstart, hstop⟩ := hc.exists_stop h
  omega

theorem lt_stop (hc : c.ClosedBy d) {wanted : Nat → Bool} {before : Option Char} {offset : Nat}
    {text : List Char} {f : Found α} (h : c.findFrom wanted before offset 0 text = some f) :
    offset < f.stop := by
  obtain ⟨a, b, _, _, hstop⟩ := hc.exists_stop h
  omega

theorem stop_le (hc : c.ClosedBy d) {wanted : Nat → Bool} {before : Option Char} {offset : Nat}
    {text : List Char} {f : Found α} (h : c.findFrom wanted before offset 0 text = some f) :
    f.stop ≤ offset + text.length := by
  obtain ⟨a, b, rfl, _, hstop⟩ := hc.exists_stop h
  rw [List.length_append, List.length_cons]
  omega

/-- What is found in a text that begins without `d` ends behind its beginning. -/
theorem length_lt_stop (hc : c.ClosedBy d) {wanted : Nat → Bool} {before : Option Char} {offset : Nat}
    {w r : List Char} (hw : d ∉ w) {f : Found α}
    (h : c.findFrom wanted before offset 0 (w ++ r) = some f) : offset + w.length < f.stop := by
  obtain ⟨a, b, htext, _, hstop⟩ := hc.exists_stop h
  have hlength : w.length ≤ a.length := by
    rcases List.append_eq_append_iff.1 htext with ⟨more, rfl, _⟩ | ⟨more, rfl, hmore⟩
    · simp
    · cases more with
      | nil => simp
      | cons e more =>
        obtain rfl : d = e := (List.cons.inj hmore).1
        exact (hw (by simp)).elim
  omega

end Clause.ClosedBy

/-- A `d` is to the clause what the end of the text is, and right behind one it may start as at the start of
a text. -/
structure Clause.StopsAt (c : Clause α) (d : Char) : Prop where
  reads : Reader.StopsAt d c.read
  read_nil : c.read [] = none
  allows : c.anchor.allows (some d) = c.anchor.allows none

namespace Clause.StopsAt
variable {c : Clause α} {d : Char}

theorem map_fst_here? (hc : c.StopsAt d) (before : Option Char) (a b : List Char) :
    (c.here? before (a ++ d :: b)).map Prod.fst = (c.here? before a).map Prod.fst := by
  unfold here?
  rw [hc.reads.stops]
  split
  · cases c.read a <;> rfl
  · rfl

theorem here?_cons (hc : c.StopsAt d) (before : Option Char) (b : List Char) :
    c.here? before (d :: b) = none := by
  apply here?_eq_none
  have hread := hc.reads.stops [] b
  rw [hc.read_nil] at hread
  exact hread

/-- What is found first in a text stands in front of a `d` or behind it. -/
theorem map_value_find? (hc : c.StopsAt d) (a b : List Char) :
    (c.find? (a ++ d :: b)).map Found.value =
      ((c.find? a).map Found.value).or ((c.find? b).map Found.value) := by
  have hfrom : ∀ before offset, (c.findFrom (fun _ => true) before offset 0 (a ++ d :: b)).map Found.value =
      ((c.findFrom (fun _ => true) before offset 0 a).map Found.value).or ((c.find? b).map Found.value) := by
    induction a with
    | nil =>
      intro before offset
      rw [List.nil_append, findFrom_cons_of_none (hc.here?_cons before b),
        c.map_value_findFrom hc.allows (offset + 1) 0]
      rfl
    | cons x a ih =>
      intro before offset
      have hhere := hc.map_fst_here? before (x :: a) b
      cases ha : c.here? before (x :: a) with
      | none =>
        have hwhole : c.here? before (x :: a ++ d :: b) = none := by
          rw [ha, Option.map_none, Option.map_eq_none_iff] at hhere
          exact hhere
        rw [findFrom_cons_of_none ha, ← ih]
        exact congrArg _ (findFrom_cons_of_none hwhole _ offset)
      | some v =>
        rw [ha, Option.map_some, Option.map_eq_some_iff] at hhere
        obtain ⟨w, hwhole, hvalue⟩ := hhere
        rw [List.cons_append] at hwhole ⊢
        simp only [findFrom, ha, hwhole, if_true, Option.map_some, Option.some_or, hvalue]
  exact hfrom none 0

end Clause.StopsAt

end SchemaBindings.Script

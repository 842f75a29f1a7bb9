import SchemaBindings.Proofs.Script.Reading
import SchemaBindings.Proofs.Script.Zones
import SchemaBindings.Script.Search

/-!
Where a search for a clause gets to. A search passes over a stretch in which the clause does not stand;
a stretch that no match leads out of either holds the match that is found or does not matter.
-/

namespace SchemaBindings.Script.Clause

set_option autoImplicit false

variable {α : Type}

theorem here?_eq_some {c : Clause α} {before : Option Char} {text rest : List Char} {a : α}
    (hb : c.anchor.allows before = true) (hr : c.read text = some (a, rest)) :
    c.here? before text = some (a, text.length - rest.length) := by
  rw [here?, if_pos hb, hr]
  rfl

theorem here?_eq_none {c : Clause α} (before : Option Char) {text : List Char}
    (hr : c.read text = none) : c.here? before text = none := by
  rw [here?, hr]
  split <;> rfl

theorem findFrom_cons_of_none {c : Clause α} {before : Option Char} {x : Char} {rest : List Char}
    (h : c.here? before (x :: rest) = none) (wanted : Nat → Bool) (offset : Nat) :
    c.findFrom wanted before offset 0 (x :: rest) =
      c.findFrom wanted (some x) (offset + 1) 0 rest := by
  rw [findFrom, h]

theorem findFrom_of_read {c : Clause α} {p : Option Char} {taken b : List Char} {a : α}
    {q : Nat → Bool} {n : Nat} (hne : taken ≠ [])
    (hb : c.anchor.allows p = true) (hr : c.read (taken ++ b) = some (a, b))
    (hw : q n = true) :
    c.findFrom q p n 0 (taken ++ b) =
      some ⟨n, n + taken.length, a⟩ := by
  cases taken with
  | nil => exact (hne rfl).elim
  | cons x more =>
    have hlen : (x :: (more ++ b)).length - b.length = (x :: more).length := by
      simp only [List.length_cons, List.length_append]
      omega
    rw [List.cons_append] at hr ⊢
    rw [findFrom, here?_eq_some hb hr, hlen]
    exact if_pos hw

theorem findFrom_eq_some {c : Clause α} {wanted : Nat → Bool} {before : Option Char} {offset taken : Nat}
    {text : List Char} {f : Found α} (h : c.findFrom wanted before offset taken text = some f) :
    ∃ p q rest, text = p ++ q ∧ c.read q = some (f.value, rest) ∧ f.start = offset + p.length ∧
      f.stop = f.start + (q.length - rest.length) := by
  induction text generalizing before offset taken with
  | nil => cases h
  | cons x more ih =>
    have hlater : ∀ {taken}, c.findFrom wanted (some x) (offset + 1) taken more = some f →
        ∃ p q rest, x :: more = p ++ q ∧ c.read q = some (f.value, rest) ∧
          f.start = offset + p.length ∧
          f.stop = f.start + (q.length - rest.length) := by
      intro taken hmore
      obtain ⟨p, q, rest, htext, hread, hstart, hstop⟩ := ih hmore
      refine ⟨x :: p, q, rest, congrArg (x :: ·) htext, hread, ?_, hstop⟩
      rw [hstart, List.length_cons]
      omega
    cases taken with
    | succ taken => exact hlater h
    | zero =>
      rw [findFrom] at h
      split at h
      · rename_i a n hhere
        split at h
        · cases h
          unfold here? at hhere
          split at hhere
          · obtain ⟨⟨a', rest⟩, hread, hfound⟩ := Option.map_eq_some_iff.1 hhere
            cases hfound
            exact ⟨[], x :: more, rest, rfl, hread, rfl, rfl⟩
          · cases hhere
        · exact hlater h
      · exact hlater h

theorem getLast?_cons_or {β : Type} (x : β) (l : List β) (d : Option β) :
    (x :: l).getLast?.or d = l.getLast?.or (some x) := by
  cases l with
  | nil => rfl
  | cons y more => simp [List.getLast?_eq_some_getLast]

theorem findFrom_append_of_none {c : Clause α} (wanted : Nat → Bool) {before : Option Char}
    (offset : Nat) {a b : List Char}
    (h : ∀ p x q, a = p ++ x :: q → c.here? (p.getLast?.or before) (x :: (q ++ b)) = none) :
    c.findFrom wanted before offset 0 (a ++ b) =
      c.findFrom wanted (a.getLast?.or before) (offset + a.length) 0 b := by
  induction a generalizing before offset with
  | nil => rfl
  | cons x q ih =>
    have hrest : ∀ p y more, q = p ++ y :: more →
        c.here? (p.getLast?.or (some x)) (y :: (more ++ b)) = none := by
      intro p y more e
      have hy := h (x :: p) y more (by rw [e]; rfl)
      rwa [getLast?_cons_or] at hy
    have hfirst : c.here? before (x :: (q ++ b)) = none := by simpa using h [] x q rfl
    rw [List.cons_append, findFrom_cons_of_none hfirst, ih (offset + 1) hrest, getLast?_cons_or,
      List.length_cons, Nat.add_assoc, Nat.add_comm 1]

/-- A search passes over the stretch `a` of a text that goes on with `b`. -/
def Passes (c : Clause α) (a b : List Char) : Prop :=
  ∀ wanted before offset, c.findFrom wanted before offset 0 (a ++ b) =
    c.findFrom wanted (a.getLast?.or before) (offset + a.length) 0 b

theorem passes_nil (c : Clause α) (b : List Char) : c.Passes [] b := by
  intro wanted before offset
  rfl

theorem Passes.behind {c : Clause α} {a₁ a₂ b : List Char} (h₂ : c.Passes a₂ b)
    (h₁ : c.Passes a₁ (a₂ ++ b)) : c.Passes (a₁ ++ a₂) b := by
  intro wanted before offset
  rw [List.append_assoc, h₁, h₂, List.getLast?_append, Option.or_assoc, List.length_append,
    Nat.add_assoc]

theorem passes_of_read {c : Clause α} {a b : List Char}
    (h : ∀ p x q, a = p ++ x :: q → c.read (x :: (q ++ b)) = none) : c.Passes a b := by
  intro wanted before offset
  refine findFrom_append_of_none wanted offset ?_
  intro p x q e
  exact here?_eq_none _ (h p x q e)

/-- A clause that starts a word does not start inside one. -/
theorem passes_word {c : Clause α} (hc : c.anchor = .wordStart) {w b : List Char} (hne : w ≠ [])
    (hw : ∀ y ∈ w, Text.isWordChar y = true) (hread : c.read (w ++ b) = none) : c.Passes w b := by
  intro wanted before offset
  refine findFrom_append_of_none wanted offset ?_
  intro p y q e
  cases p with
  | nil =>
    obtain rfl : w = y :: q := e
    exact here?_eq_none _ hread
  | cons z more =>
    have hlast : ∃ l ∈ w, (z :: more).getLast?.or before = some l := by
      refine ⟨(z :: more).getLast (by simp), ?_, ?_⟩
      · rw [e]
        exact List.mem_append_left _ (List.getLast_mem _)
      · rw [List.getLast?_eq_some_getLast (by simp), Option.some_or]
    obtain ⟨l, hl, hbefore⟩ := hlast
    rw [here?, hc, hbefore, Anchor.allows, Option.map_some, hw l hl]
    rfl

theorem Passes.find?_eq_none {c : Clause α} {a : List Char} (h : c.Passes a []) :
    c.find? a = none := by
  have hfind := h (fun _ => true) none 0
  rw [List.append_nil] at hfind
  rw [find?, hfind]
  rfl

/-- A clause that starts a text does not start behind a character. -/
theorem findFrom_textStart {c : Clause α} (hc : c.anchor = .textStart)
    (wanted : Nat → Bool) (x : Char) (offset : Nat) (text : List Char) :
    c.findFrom wanted (some x) offset 0 text = none := by
  induction text generalizing x offset with
  | nil => rfl
  | cons y rest ih =>
    have hhere : c.here? (some x) (y :: rest) = none := by
      rw [here?, hc]
      rfl
    rw [findFrom_cons_of_none hhere, ih]

/-- A clause that starts a text is found by reading the text. -/
theorem map_value_find?_textStart {c : Clause α} (hc : c.anchor = .textStart) (hnil : c.read [] = none)
    (text : List Char) : (c.find? text).map Found.value = (c.read text).map Prod.fst := by
  cases text with
  | nil =>
    rw [hnil]
    rfl
  | cons x rest =>
    rw [find?, findFrom]
    cases hread : c.read (x :: rest) with
    | none =>
      rw [here?_eq_none _ hread]
      simp only []
      rw [findFrom_textStart hc]
      rfl
    | some r =>
      have hstart : c.anchor.allows none = true := hc ▸ rfl
      rw [here?_eq_some hstart hread]
      rfl

theorem passes_of_needs {c : Clause α} {d : Char} (hc : Reader.Needs d c.read) {text : List Char}
    (h : d ∉ text) : c.Passes text [] := by
  refine passes_of_read ?_
  rintro p x q rfl
  cases hread : c.read (x :: (q ++ [])) with
  | none => rfl
  | some r =>
    have hmem := hc _ r.1 r.2 hread
    rw [List.append_nil] at hmem
    exact (h (List.mem_append_right p hmem)).elim

/-- In a text without comments, a search outside quotes goes over what is behind its start. -/
theorem findOutside?_append (c : Clause α) {text a b : List Char} (hmask : mask text = text)
    (htext : text = a ++ b) :
    c.findOutside? text a.length =
      c.findFrom (fun i => (zones text)[i]? != some .literal) a.getLast? a.length 0 b := by
  have htake : text.take a.length = a := by rw [htext, List.take_left]
  have hdrop : text.drop a.length = b := by rw [htext, List.drop_left]
  rw [findOutside?]
  simp only [hmask, htake, hdrop]

/-- The clause is recognised by its first letter. -/
def StartsWith (c : Clause α) (k : Char) : Prop :=
  ∀ x rest, Text.matchesLetter k x = false → c.read (x :: rest) = none

theorem StartsWith.passes {c : Clause α} {k : Char} (hk : c.StartsWith k) {a : List Char}
    (ha : ∀ x ∈ a, Text.matchesLetter k x = false) (b : List Char) : c.Passes a b := by
  refine passes_of_read ?_
  rintro p x q rfl
  exact hk x _ (ha x (by simp))

/-- A search that begins at a later offset finds the same at a later place. -/
theorem findFrom_shift (c : Clause α) (wanted : Nat → Bool) (before : Option Char) (k offset taken : Nat)
    (text : List Char) :
    c.findFrom wanted before (k + offset) taken text =
      (c.findFrom (fun i => wanted (k + i)) before offset taken text).map fun f =>
        ⟨k + f.start, k + f.stop, f.value⟩ := by
  induction text generalizing before offset taken with
  | nil => rfl
  | cons x rest ih =>
    have goOn : ∀ taken, c.findFrom wanted (some x) (k + offset + 1) taken rest =
        (c.findFrom (fun i => wanted (k + i)) (some x) (offset + 1) taken rest).map fun f =>
          ⟨k + f.start, k + f.stop, f.value⟩ := by
      intro taken
      rw [Nat.add_assoc]
      exact ih (some x) (offset + 1) taken
    cases taken with
    | succ taken => exact goOn taken
    | zero =>
      rw [findFrom, findFrom]
      cases c.here? before (x :: rest) with
      | none => exact goOn 0
      | some v =>
        simp only [goOn]
        split
        · simp only [Option.map_some, Nat.add_assoc]
        · rfl

/-- What a search finds does not depend on where its text stands, and on the character before it only in so
far as the clause may start behind it. -/
theorem map_value_findFrom (c : Clause α) {before before' : Option Char}
    (h : c.anchor.allows before = c.anchor.allows before') (offset offset' : Nat) (text : List Char) :
    (c.findFrom (fun _ => true) before offset 0 text).map Found.value =
      (c.findFrom (fun _ => true) before' offset' 0 text).map Found.value := by
  have hshift : ∀ offset, (c.findFrom (fun _ => true) before' offset 0 text).map Found.value =
      (c.findFrom (fun _ => true) before' 0 0 text).map Found.value := by
    intro offset
    have hmoved := c.findFrom_shift (fun _ => true) before' offset 0 0 text
    rw [Nat.add_zero] at hmoved
    rw [hmoved, Option.map_map]
    rfl
  have hbefore : c.findFrom (fun _ => true) before offset 0 text =
      c.findFrom (fun _ => true) before' offset 0 text := by
    cases text with
    | nil => rfl
    | cons x rest => simp only [findFrom, here?, h]
  rw [hbefore, hshift offset, hshift offset']

/-- Only the places at which something can be read matter, and that is not the last one when nothing is read
from a single character. -/
theorem findFrom_congr {c : Clause α} (hone : ∀ x, c.read [x] = none) {wanted wanted' : Nat → Bool}
    (before : Option Char) {offset : Nat} (taken : Nat) {text : List Char}
    (h : ∀ i, i + 1 < text.length → wanted (offset + i) = wanted' (offset + i)) :
    c.findFrom wanted before offset taken text = c.findFrom wanted' before offset taken text := by
  induction text generalizing before offset taken with
  | nil => rfl
  | cons x rest ih =>
    have hrest : ∀ i, i + 1 < rest.length → wanted (offset + 1 + i) = wanted' (offset + 1 + i) := by
      intro i hi
      have hnext := h (i + 1) (by rw [List.length_cons]; omega)
      rwa [Nat.add_comm i, ← Nat.add_assoc] at hnext
    have goOn : ∀ taken, c.findFrom wanted (some x) (offset + 1) taken rest =
        c.findFrom wanted' (some x) (offset + 1) taken rest := fun taken => ih (some x) taken hrest
    cases taken with
    | succ taken => exact goOn taken
    | zero =>
      rw [findFrom, findFrom]
      cases rest with
      | nil => rw [here?_eq_none before (hone x)]; rfl
      | cons y more =>
        have hhere : wanted offset = wanted' offset := h 0 (by simp)
        simp only [goOn, hhere]

end SchemaBindings.Script.Clause

import SchemaBindings.Proofs.Script.Names
import SchemaBindings.Proofs.Script.Searching
import SchemaBindings.Proofs.Text.Digits
import SchemaBindings.Script.Clause

/-!
How the clauses of a table definition are read where they stand, and what keeps a clause from being
read off a name or off another clause.
-/

namespace SchemaBindings.Script

set_option autoImplicit false

open Text (isBlank isWordChar isDecimal matchesLetter NumberText)
open Reader

variable {α β : Type}

theorem isAsciiWord_of_toLower {c : Char} (h : c.toLower.isLower = true) : isAsciiWord c := by
  have hword : isAsciiWord c = (c.isUpper || c.isLower || c.isDigit || c == '_') := rfl
  unfold Char.toLower at h
  split at h
  · rename_i hupper
    have hu : c.isUpper = true := decide_eq_true hupper
    simp [hword, hu]
  · simp [hword, h]

theorem isWordChar_of_matchesLetter {k c : Char} (hk : k.isLower = true)
    (h : matchesLetter k c = true) : isWordChar c = true := by
  have hspecial : isWordChar 'ſ' = true ∧ isWordChar '\u212a' = true ∧ isWordChar 'İ' = true ∧
      isWordChar 'ı' = true := by decide +kernel
  simp only [matchesLetter, Bool.or_eq_true, Bool.and_eq_true, beq_iff_eq] at h
  rcases h with ((h | ⟨_, rfl⟩) | ⟨_, rfl⟩) | ⟨_, rfl | rfl⟩
  · exact isWordChar_of_isAsciiWord (isAsciiWord_of_toLower (h ▸ hk))
  · exact hspecial.1
  · exact hspecial.2.1
  · exact hspecial.2.2.1
  · exact hspecial.2.2.2

/-- A clause that goes on with something else than a word cannot be read off a word, unless it goes on
with what is behind the word. -/
theorem Reader.keyLetters_word {keys w b : List Char} {f : Reader α}
    (hk : ∀ k ∈ keys, k.isLower = true) (hw : ∀ x ∈ w, isAsciiWord x)
    (hb : ∀ x ∈ b.head?, isWordChar x = false)
    (hword : ∀ x rest, isAsciiWord x → f (x :: rest) = none) (hf : f b = none) :
    (do keyLetters keys; f : Reader α) (w ++ b) = none := by
  induction keys generalizing w with
  | nil =>
    refine (bind_of_eq (pure_apply () (w ++ b))).trans ?_
    cases w with
    | nil => exact hf
    | cons x more => exact hword x _ (hw x List.mem_cons_self)
  | cons k keys ih =>
    rw [bind_apply]
    cases w with
    | nil =>
      have hnone : keyLetters (k :: keys) b = none := by
        cases b with
        | nil => rfl
        | cons x more =>
          refine keyLetters_cons_of_not ?_ keys more
          by_contra hm
          have hx := isWordChar_of_matchesLetter (hk k List.mem_cons_self) (by simpa using hm)
          rw [hb x rfl] at hx
          cases hx
      rw [List.nil_append, hnone, Option.bind_none]
    | cons x more =>
      rw [List.cons_append]
      cases hm : matchesLetter k x with
      | false => rw [keyLetters_cons_of_not hm, Option.bind_none]
      | true =>
        rw [keyLetters_cons_of_match hm]
        exact ih (fun l hl => hk l (List.mem_cons_of_mem k hl))
          fun y hy => hw y (List.mem_cons_of_mem x hy)

/-- The clause begins with a keyword, and goes on with a blank or a parenthesis. -/
structure Clause.Begins (c : Clause α) (keys : List Char) (f : Reader α) : Prop where
  read : c.read = do keyLetters keys; f
  lower : ∀ k ∈ keys, k.isLower = true
  stops : ∀ x rest, isBlank x = false → x ≠ '(' → f (x :: rest) = none

namespace Clause.Begins

variable {c : Clause α} {k : Char} {keys : List Char} {f : Reader α}

theorem startsWith (h : c.Begins (k :: keys) f) : c.StartsWith k := by
  intro x rest hx
  rw [h.read]
  exact bind_of_none (keyLetters_cons_of_not hx keys rest)

theorem passes_plain (h : c.Begins (k :: keys) f) {a : List Char}
    (ha : ∀ x ∈ a, isWordChar x = false) (b : List Char) : c.Passes a b := by
  refine h.startsWith.passes ?_ b
  intro x hx
  by_contra hm
  have hword := isWordChar_of_matchesLetter (h.lower k List.mem_cons_self) (by simpa using hm)
  rw [ha x hx] at hword
  cases hword

theorem passes_word (h : c.Begins keys f) {w b : List Char} (hw : ∀ x ∈ w, isAsciiWord x)
    (hb : ∀ x ∈ b.head?, isWordChar x = false) (hf : f b = none) : c.Passes w b := by
  refine Clause.passes_of_read ?_
  rintro p x q rfl
  have hsuffix : ∀ y ∈ x :: q, isAsciiWord y := fun y hy => hw y (List.mem_append_right p hy)
  have hstops : ∀ y rest, isAsciiWord y → f (y :: rest) = none := fun y rest hy =>
    h.stops y rest (isBlank_of_isAsciiWord hy) (ne_of_isAsciiWord (by decide) hy)
  rw [h.read]
  exact keyLetters_word h.lower hsuffix hb hstops hf

theorem passes_name (h : c.Begins (k :: keys) f) (n : ScriptName) {b : List Char}
    (hb : ∀ x ∈ b.head?, isWordChar x = false) (hf : f b = none) : c.Passes n.text b := by
  have hletters : ∀ x ∈ n.letters, isAsciiWord x := n.ascii
  unfold ScriptName.text
  split
  · have hopen : ∀ x ∈ ['['], isWordChar x = false := by decide
    have hclose : ∀ x ∈ [']'], isWordChar x = false := by decide
    have hbracket : ∀ x ∈ (']' :: b).head?, isWordChar x = false :=
      forall_head?_cons (by decide) b
    have hword : c.Passes n.letters ([']'] ++ b) :=
      h.passes_word hletters hbracket (h.stops ']' b (by decide) (by decide))
    exact ((h.passes_plain hclose b).behind hword).behind (h.passes_plain hopen _)
  · exact h.passes_word hletters hb hf

end Clause.Begins

theorem begins_notNull :
    notNull.Begins ['n', 'o', 't'] (do blanks1; keyword "null"; wordEnd) where
  read := rfl
  lower := by decide
  stops := fun _ rest hx _ => bind_of_none (blanks1_of_head (forall_head?_cons hx rest))

theorem begins_inlineKey :
    inlineKey.Begins ['p', 'r', 'i', 'm', 'a', 'r', 'y'] (do blanks1; keyword "key"; wordEnd) where
  read := rfl
  lower := by decide
  stops := fun _ rest hx _ => bind_of_none (blanks1_of_head (forall_head?_cons hx rest))

def seedAndIncrement : Reader Unit := do
  blanks
  char '('
  blanks
  let _ ← digits
  blanks
  char ','
  blanks
  let _ ← digits
  blanks
  char ')'

theorem begins_identity :
    identity.Begins ['i', 'd', 'e', 'n', 't', 'i', 't', 'y'] seedAndIncrement where
  read := rfl
  lower := by decide
  stops := fun _ rest hx hp =>
    (bind_of_eq (blanks_of_head (forall_head?_cons hx rest))).trans (bind_of_none (char_of_ne hp rest))

def referencedTable : Reader String := do
  blanks1
  let _ ← optional (do
    let _ ← name
    char '.')
  let table ← name
  blanks
  char '('
  return table

theorem begins_foreignKey :
    foreignKey.Begins ['r', 'e', 'f', 'e', 'r', 'e', 'n', 'c', 'e', 's'] referencedTable where
  read := rfl
  lower := by decide
  stops := fun _ rest hx _ => bind_of_none (blanks1_of_head (forall_head?_cons hx rest))

def keyColumns : Reader String := do
  blanks
  let _ ← optional (keyword "clustered" <|> keyword "nonclustered")
  blanks
  char '('
  blanks
  let column ← name
  blanks
  let _ ← optional (keyword "asc" <|> keyword "desc")
  blanks
  char ')'
  return column

def keyBehindName : Reader String := do
  blanks1
  keyword "primary"
  blanks1
  keyword "key"
  keyColumns

def keyBehindConstraint : Reader String := do
  blanks1
  let _ ← name
  keyBehindName

theorem begins_keyConstraint :
    keyConstraint.Begins ['c', 'o', 'n', 's', 't', 'r', 'a', 'i', 'n', 't'] keyBehindConstraint where
  read := rfl
  lower := by decide
  stops := fun _ rest hx _ => bind_of_none (blanks1_of_head (forall_head?_cons hx rest))

theorem name_of_head {rest : List Char} (hr : ∀ c ∈ rest.head?, isWordChar c = false ∧ c ≠ '[') :
    name rest = none := by
  have hopen : optional (char '[') rest = some (none, rest) :=
    optional_char_of_head fun c hc => (hr c hc).2
  have hword : word rest = none := bind_of_none (many1_of_head fun c hc => (hr c hc).1)
  exact (bind_of_eq hopen).trans (bind_of_none hword)

theorem blanks1_bind_of_none {f : Reader α} {ws b : List Char} (hws : ∀ c ∈ ws, isBlank c = true)
    (hb : ∀ c ∈ b.head?, isBlank c = false) (hf : f b = none) :
    (do blanks1; f : Reader α) (ws ++ b) = none := by
  cases ws with
  | nil => exact bind_of_none (blanks1_of_head hb)
  | cons w more => exact (bind_of_eq (blanks1_append (by simp) hws hb)).trans hf

theorem keyBehindConstraint_blanks {ws b : List Char} (hws : ∀ c ∈ ws, isBlank c = true)
    (hblank : ∀ c ∈ b.head?, isBlank c = false)
    (hb : ∀ c ∈ b.head?, isWordChar c = false ∧ c ≠ '[') :
    keyBehindConstraint (ws ++ b) = none :=
  blanks1_bind_of_none hws hblank (bind_of_none (name_of_head hb))

theorem keyBehindConstraint_name (n : ScriptName) {r : List Char}
    (hr : ∀ c ∈ r.head?, ScriptName.isEnd c = true) :
    keyBehindConstraint (' ' :: (n.text ++ r)) = keyBehindName r := by
  have hblank : blanks1 ([' '] ++ (n.text ++ r)) = some ((), n.text ++ r) :=
    blanks1_append (by simp) (by decide) (n.isBlank_head_append r)
  exact (bind_of_eq hblank).trans (bind_of_eq (n.read_append hr))

theorem keyBehindName_blanks {w b : List Char} (hws : ∀ c ∈ w, isBlank c = true)
    (hblank : ∀ c ∈ b.head?, isBlank c = false)
    (hb : ∀ c ∈ b.head?, matchesLetter 'p' c = false) : keyBehindName (w ++ b) = none := by
  refine blanks1_bind_of_none hws hblank (bind_of_none ?_)
  cases b with
  | nil => rfl
  | cons c more => exact keyLetters_cons_of_not (hb c rfl) _ more

/-- A name that reads like the first word of a key does not go on like one. -/
theorem keyBehindName_name (n : ScriptName) {w b : List Char} (hws : ∀ c ∈ w, isBlank c = true)
    (hend : ∀ c ∈ (w ++ b).head?, isWordChar c = false)
    (hblank : ∀ c ∈ b.head?, isBlank c = false) (hb : ∀ c ∈ b.head?, matchesLetter 'k' c = false) :
    keyBehindName (' ' :: (n.text ++ (w ++ b))) = none := by
  have hkey : (do keyword "key"; keyColumns : Reader String) b = none := by
    cases b with
    | nil => rfl
    | cons c more => exact bind_of_none (keyLetters_cons_of_not (hb c rfl) _ more)
  have hrest : (do blanks1; keyword "key"; keyColumns : Reader String) (w ++ b) = none :=
    blanks1_bind_of_none hws hblank hkey
  have hfirst : blanks1 ([' '] ++ (n.text ++ (w ++ b))) = some ((), n.text ++ (w ++ b)) :=
    blanks1_append (by simp) (by decide) (n.isBlank_head_append _)
  refine (bind_of_eq hfirst).trans ?_
  unfold ScriptName.text
  split
  · exact bind_of_none (keyLetters_cons_of_not (by decide) _ _)
  · refine keyLetters_word (by decide) n.ascii hend ?_ hrest
    intro x rest hx
    exact bind_of_none (blanks1_of_head (forall_head?_cons (isBlank_of_isAsciiWord hx) rest))

end SchemaBindings.Script

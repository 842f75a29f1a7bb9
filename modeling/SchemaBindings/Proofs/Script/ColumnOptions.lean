import SchemaBindings.Proofs.Script.TableClauses

/-!
The options of a column in the spelling of a script, and what the searches for the single options make
of a list of them. A search finds the options that it is for, and passes over all others.
-/

namespace SchemaBindings.Script

set_option autoImplicit false

open Text (isBlank isWordChar isDecimal matchesLetter NumberText)
open Reader

inductive ColumnOption
  | identity (seed increment : NumberText)
  | notNull
  | null
  | primaryKey
  | references (schema : Option ScriptName) (table column : ScriptName)

namespace ColumnOption

def schemaText : Option ScriptName → List Char
  | some schema => schema.text ++ ['.']
  | none => []

def text : ColumnOption → List Char
  | identity seed increment =>
    ['I', 'D', 'E', 'N', 'T', 'I', 'T', 'Y'] ++
      (['('] ++ (seed.text ++ ([','] ++ (increment.text ++ [')']))))
  | notNull => ['N', 'O', 'T', ' ', 'N', 'U', 'L', 'L']
  | null => ['N', 'U', 'L', 'L']
  | primaryKey => ['P', 'R', 'I', 'M', 'A', 'R', 'Y', ' ', 'K', 'E', 'Y']
  | references schema table column =>
    ['R', 'E', 'F', 'E', 'R', 'E', 'N', 'C', 'E', 'S'] ++ ([' '] ++ (schemaText schema ++
      (table.text ++ ([' ', '('] ++ (column.text ++ [')'])))))

theorem isLineChar_text (o : ColumnOption) : ∀ c ∈ o.text, isLineChar c = true := by
  have hnumber : ∀ n : NumberText, ∀ c ∈ n.text, isLineChar c = true := fun n c hc =>
    isLineChar_of_isAsciiWord (n.isAsciiWord_text c hc)
  cases o with
  | identity seed increment =>
    simp only [text, List.forall_mem_append]
    exact ⟨by decide, by decide, hnumber seed, by decide, hnumber increment, by decide⟩
  | notNull => decide
  | null => decide
  | primaryKey => decide
  | references schema table column =>
    have hschema : ∀ c ∈ schemaText schema, isLineChar c = true := by
      cases schema with
      | none => simp [schemaText]
      | some schema =>
        simp only [schemaText, List.forall_mem_append]
        exact ⟨schema.isLineChar_text, by decide⟩
    simp only [text, List.forall_mem_append]
    exact ⟨by decide, by decide, hschema, table.isLineChar_text, by decide, column.isLineChar_text,
      by decide⟩

theorem exists_cons_text (o : ColumnOption) : ∃ x w, o.text = x :: w ∧ isAsciiWord x := by
  cases o <;> exact ⟨_, _, rfl, by decide⟩

theorem exists_concat_text (o : ColumnOption) :
    ∃ w x, o.text = w ++ [x] ∧ isBlank x = false ∧ x ≠ ',' := by
  cases o with
  | identity seed increment =>
    refine ⟨['I', 'D', 'E', 'N', 'T', 'I', 'T', 'Y', '('] ++ (seed.text ++ ([','] ++ increment.text)),
      ')', ?_, by decide⟩
    simp [text]
  | notNull => exact ⟨['N', 'O', 'T', ' ', 'N', 'U', 'L'], 'L', rfl, by decide⟩
  | null => exact ⟨['N', 'U', 'L'], 'L', rfl, by decide⟩
  | primaryKey => exact ⟨['P', 'R', 'I', 'M', 'A', 'R', 'Y', ' ', 'K', 'E'], 'Y', rfl, by decide⟩
  | references schema table column =>
    refine ⟨['R', 'E', 'F', 'E', 'R', 'E', 'N', 'C', 'E', 'S', ' '] ++ (schemaText schema ++
      (table.text ++ ([' ', '('] ++ column.text))), ')', ?_, by decide⟩
    simp [text]

/-- What may stand behind an option. -/
def EndsOption (b : List Char) : Prop := ∀ c ∈ b.head?, isWordChar c = false

section
variable {α : Type} {c : Clause α} {k : Char} {keys : List Char} {f : Reader α}

theorem passes_schemaText (h : c.Begins (k :: keys) f) (schema : Option ScriptName) (b : List Char) :
    c.Passes (schemaText schema) b := by
  cases schema with
  | none => exact c.passes_nil b
  | some schema =>
    have hdot : ∀ x ∈ ['.'], isWordChar x = false := by decide
    have hend : ∀ x ∈ ('.' :: b).head?, isWordChar x = false := forall_head?_cons (by decide) b
    exact (h.passes_plain hdot b).behind
      (h.passes_name schema hend (h.stops '.' b (by decide) (by decide)))

/-- The names of a referenced table and column are passed over. -/
theorem passes_target (h : c.Begins (k :: keys) f) (schema : Option ScriptName)
    (table column : ScriptName) {b : List Char}
    (hopen : f ([' ', '('] ++ (column.text ++ ([')'] ++ b))) = none) :
    c.Passes ([' '] ++ (schemaText schema ++ (table.text ++ ([' ', '('] ++ (column.text ++ [')']))))) b := by
  have hspace : ∀ x ∈ [' '], isWordChar x = false := by decide
  have hparen : ∀ x ∈ [' ', '('], isWordChar x = false := by decide
  have hclose : ∀ x ∈ [')'], isWordChar x = false := by decide
  have hcolumn : c.Passes (column.text ++ [')']) b :=
    (h.passes_plain hclose b).behind (h.passes_name column
      (forall_head?_cons (by decide) b) (h.stops ')' b (by decide) (by decide)))
  have htable := (hcolumn.behind (h.passes_plain hparen _)).behind (h.passes_name table
    (forall_head?_cons (by decide) _) (by simpa using hopen))
  exact (htable.behind (passes_schemaText h schema _)).behind (h.passes_plain hspace _)

theorem passes_identity (h : c.Begins (k :: keys) f)
    (hd : ∀ i : Fin 128, (Char.ofNat i).isDigit = true → matchesLetter k (Char.ofNat i) = false)
    (hword : ∀ b, c.Passes ['I', 'D', 'E', 'N', 'T', 'I', 'T', 'Y'] b)
    (seed increment : NumberText) (b : List Char) :
    c.Passes (identity seed increment).text b := by
  have hopen : ∀ x ∈ ['('], isWordChar x = false := by decide
  have hcomma : ∀ x ∈ [','], isWordChar x = false := by decide
  have hclose : ∀ x ∈ [')'], isWordChar x = false := by decide
  have hnumber : ∀ n : NumberText, ∀ b, c.Passes n.text b := fun n =>
    h.startsWith.passes (n.forall_mem_text hd)
  have hnumbers := (((h.passes_plain hclose b).behind (hnumber increment _)).behind
    (h.passes_plain hcomma _)).behind (hnumber seed _)
  exact (hnumbers.behind (h.passes_plain hopen _)).behind (hword _)

theorem passes_word_of_head (h : c.Begins (k :: keys) f) (hc : c.anchor = .wordStart) {x : Char}
    {w : List Char} (hx : matchesLetter k x = false) (hw : ∀ y ∈ x :: w, isWordChar y = true)
    (b : List Char) : c.Passes (x :: w) b :=
  Clause.passes_word hc (by simp) hw (h.startsWith x _ hx)

/-- `PRIMARY` is passed over as a word, since its letters may begin the clause further on. -/
theorem passes_primaryKey (h : c.Begins (k :: keys) f) (hc : c.anchor = .wordStart)
    (hk : ∀ x ∈ ['P', ' ', 'K', 'E', 'Y'], matchesLetter k x = false) (b : List Char) :
    c.Passes primaryKey.text b := by
  rw [List.forall_mem_cons] at hk
  have hkey := h.startsWith.passes hk.2 b
  exact hkey.behind (passes_word_of_head h hc (w := ['R', 'I', 'M', 'A', 'R', 'Y']) hk.1 (by decide) _)

end

/-- A second word is no parenthesis. -/
theorem secondWord_open (word : String) {k : Char} {keys : List Char} (hword : word.toList = k :: keys)
    (hk : matchesLetter k '(' = false) (rest : List Char) :
    (do blanks1; keyword word; wordEnd : Reader Unit) ([' ', '('] ++ rest) = none := by
  refine (bind_of_eq (blanks1_append (w := [' ']) (by simp) (by decide)
    (forall_head?_cons (by decide) _))).trans (bind_of_none ?_)
  rw [keyword, hword]
  exact keyLetters_cons_of_not hk _ _

/-- Two words with a blank between them are read. -/
theorem twoWords_append (first second : String) {v w : List Char} (hv : spells first.toList v)
    (hw : spells second.toList w) (hne : w ≠ []) (hblank : ∀ x ∈ w.head?, isBlank x = false)
    {b : List Char} (hb : EndsOption b) :
    (do keyword first; blanks1; keyword second; wordEnd : Reader Unit) (v ++ ([' '] ++ (w ++ b))) =
      some ((), b) := by
  refine (bind_of_eq (keyword_append hv _)).trans ?_
  refine (bind_of_eq (blanks1_append (by simp) (by decide)
    (forall_head?_append hne hblank b))).trans ?_
  refine (bind_of_eq (keyword_append hw b)).trans ?_
  exact wordEnd_of_head hb

theorem passes_notNull {o : ColumnOption} (ho : o ≠ .notNull) (b : List Char) :
    Script.notNull.Passes o.text b := by
  have hbegins := begins_notNull
  cases o with
  | notNull => exact (ho rfl).elim
  | identity seed increment =>
    exact passes_identity hbegins (by decide)
      (passes_word_of_head hbegins rfl (by decide) (by decide)) seed increment b
  | null =>
    refine Clause.passes_word rfl (by decide) (by decide) (bind_of_none ?_)
    exact (keyLetters_cons_of_match (by decide) _ _).trans
      (keyLetters_cons_of_not (by decide) _ _)
  | primaryKey => exact hbegins.startsWith.passes (by decide) b
  | references schema table column =>
    have hopen := secondWord_open "null" rfl (by decide) (column.text ++ ([')'] ++ b))
    exact (passes_target hbegins schema table column hopen).behind
      (passes_word_of_head hbegins rfl (by decide) (by decide) _)

theorem passes_inlineKey {o : ColumnOption} (ho : o ≠ .primaryKey) (b : List Char) :
    Script.inlineKey.Passes o.text b := by
  have hbegins := begins_inlineKey
  cases o with
  | primaryKey => exact (ho rfl).elim
  | identity seed increment =>
    exact passes_identity hbegins (by decide) (hbegins.startsWith.passes (by decide))
      seed increment b
  | notNull => exact hbegins.startsWith.passes (by decide) b
  | null => exact hbegins.startsWith.passes (by decide) b
  | references schema table column =>
    have hopen := secondWord_open "key" rfl (by decide) (column.text ++ ([')'] ++ b))
    exact (passes_target hbegins schema table column hopen).behind
      (hbegins.startsWith.passes (by decide) _)

theorem passes_foreignKey {o : ColumnOption} (ho : ∀ s t c, o ≠ .references s t c) (b : List Char) :
    foreignKey.Passes o.text b := by
  have hbegins := begins_foreignKey
  cases o with
  | references schema table column => exact (ho schema table column rfl).elim
  | identity seed increment =>
    exact passes_identity hbegins (by decide) (hbegins.startsWith.passes (by decide))
      seed increment b
  | notNull => exact hbegins.startsWith.passes (by decide) b
  | null => exact hbegins.startsWith.passes (by decide) b
  | primaryKey => exact passes_primaryKey hbegins rfl (by decide) b

/-- One column of a referenced table is no seed with an increment. -/
theorem seedAndIncrement_column (column : ScriptName) (b : List Char) :
    seedAndIncrement ([' ', '('] ++ (column.text ++ ([')'] ++ b))) = none := by
  have hparen : ∀ c ∈ ('(' :: (column.text ++ ([')'] ++ b))).head?, isBlank c = false :=
    forall_head?_cons (by decide) _
  refine (bind_of_eq (blanks_append (w := [' ']) (by decide) hparen)).trans ?_
  refine (bind_of_eq (char_self '(' _)).trans ?_
  refine (bind_of_eq (blanks_of_head (column.isBlank_head_append _))).trans ?_
  cases hdigits : digits (column.text ++ ([')'] ++ b)) with
  | none => exact bind_of_none hdigits
  | some r =>
    have hrest := many1_eq_some hdigits
    have hhead : ∀ c ∈ r.2.head?, isBlank c = false ∧ c ≠ ',' := by
      intro c hc
      rw [hrest] at hc
      rcases head?_dropWhile_append (w := column.text) (d := ')') (by decide) b c hc
        with h | rfl
      · exact ⟨column.isBlank_text c h,
          column.ne_of_mem_text (by decide) (by decide) (by decide) c h⟩
      · decide
    refine (bind_of_eq hdigits).trans ?_
    refine (bind_of_eq (blanks_of_head fun c hc => (hhead c hc).1)).trans (bind_of_none ?_)
    cases hr : r.2 with
    | nil => rfl
    | cons c more => exact char_of_ne (hhead c (by rw [hr]; rfl)).2 more

theorem passes_identityClause {o : ColumnOption} (ho : ∀ s i, o ≠ .identity s i) (b : List Char) :
    Script.identity.Passes o.text b := by
  have hbegins := begins_identity
  cases o with
  | identity seed increment => exact (ho seed increment rfl).elim
  | notNull => exact hbegins.startsWith.passes (by decide) b
  | null => exact hbegins.startsWith.passes (by decide) b
  | primaryKey => exact passes_primaryKey hbegins rfl (by decide) b
  | references schema table column =>
    exact (passes_target hbegins schema table column (seedAndIncrement_column column b)).behind
      (hbegins.startsWith.passes (by decide) _)

/-- The clause stands where the option does. -/
def Finds {α : Type} (c : Clause α) (o : ColumnOption) (v : α) : Prop :=
  ∀ before, c.anchor.allows before = true → ∀ offset b, EndsOption b →
    ∃ stop, c.findFrom (fun _ => true) before offset 0 (o.text ++ b) = some ⟨offset, stop, v⟩

theorem finds_notNull : Finds Script.notNull .notNull () := by
  intro before hbefore offset b hb
  have hread := twoWords_append "not" "null" (v := ['N', 'O', 'T'])
    (w := ['N', 'U', 'L', 'L']) (by decide) (by decide) (by decide) (by decide) hb
  exact ⟨_, Clause.findFrom_of_read (by decide) hbefore hread rfl⟩

theorem finds_inlineKey : Finds Script.inlineKey .primaryKey () := by
  intro before hbefore offset b hb
  have hread := twoWords_append "primary" "key" (v := ['P', 'R', 'I', 'M', 'A', 'R', 'Y'])
    (w := ['K', 'E', 'Y']) (by decide) (by decide) (by decide) (by decide) hb
  exact ⟨_, Clause.findFrom_of_read (by decide) hbefore hread rfl⟩

theorem digits_append (n : NumberText) {rest : List Char}
    (hr : ∀ c ∈ rest.head?, isDecimal c = false) : digits (n.text ++ rest) = some (n.text, rest) :=
  many1_append n.text_ne_nil n.isDecimal_text hr

theorem isBlank_head_number (n : NumberText) (rest : List Char) :
    ∀ c ∈ (n.text ++ rest).head?, isBlank c = false := by
  obtain ⟨d, more, hd⟩ := List.exists_cons_of_ne_nil n.text_ne_nil
  have hblank := isBlank_of_isAsciiWord (n.isAsciiWord_text d (by rw [hd]; exact List.mem_cons_self))
  rw [hd]
  exact forall_head?_cons hblank _

theorem finds_identity (seed increment : NumberText) :
    Finds Script.identity (.identity seed increment) () := by
  intro before hbefore offset b hb
  refine ⟨_, Clause.findFrom_of_read (List.append_ne_nil_of_left_ne_nil (by decide) _) hbefore ?_ rfl⟩
  have hopen : ∀ text, ∀ c ∈ (['('] ++ text).head?, isBlank c = false :=
    fun text => forall_head?_cons (by decide) text
  have hcomma : ∀ text, (∀ c ∈ ([','] ++ text).head?, isDecimal c = false) ∧
      ∀ c ∈ ([','] ++ text).head?, isBlank c = false := fun text =>
    ⟨forall_head?_cons (by decide) text, forall_head?_cons (by decide) text⟩
  have hclose : ∀ text, (∀ c ∈ ([')'] ++ text).head?, isDecimal c = false) ∧
      ∀ c ∈ ([')'] ++ text).head?, isBlank c = false := fun text =>
    ⟨forall_head?_cons (by decide) text, forall_head?_cons (by decide) text⟩
  rw [text]
  simp only [List.append_assoc]
  refine (bind_of_eq (keyword_append (by decide) _)).trans ?_
  refine (bind_of_eq (blanks_of_head (hopen _))).trans ?_
  refine (bind_of_eq (char_self '(' _)).trans ?_
  refine (bind_of_eq (blanks_of_head (isBlank_head_number seed _))).trans ?_
  refine (bind_of_eq (digits_append seed (hcomma _).1)).trans ?_
  refine (bind_of_eq (blanks_of_head (hcomma _).2)).trans ?_
  refine (bind_of_eq (char_self ',' _)).trans ?_
  refine (bind_of_eq (blanks_of_head (isBlank_head_number increment _))).trans ?_
  refine (bind_of_eq (digits_append increment (hclose _).1)).trans ?_
  refine (bind_of_eq (blanks_of_head (hclose _).2)).trans ?_
  exact char_self ')' b

/-- The schema in front of a table is read with its dot, or it is not there. -/
theorem optional_schemaText (schema : Option ScriptName) (table : ScriptName) {rest : List Char}
    (hr : ∀ c ∈ rest.head?, ScriptName.isEnd c = true ∧ c ≠ '.') :
    optional (do let _ ← name; char '.' : Reader Unit) (schemaText schema ++ (table.text ++ rest)) =
      some (schema.map fun _ => (), table.text ++ rest) := by
  cases schema with
  | none =>
    refine optional_of_none ((bind_of_eq (table.read_append fun c hc => (hr c hc).1)).trans ?_)
    cases rest with
    | nil => rfl
    | cons c rest => exact char_of_ne (hr c rfl).2 rest
  | some schema =>
    have hdot : ∀ c ∈ (['.'] ++ (table.text ++ rest)).head?, ScriptName.isEnd c = true :=
      forall_head?_cons (by decide) _
    rw [schemaText, List.append_assoc]
    exact optional_of_eq ((bind_of_eq (schema.read_append hdot)).trans (char_self '.' _))

theorem isBlank_head_schemaText (schema : Option ScriptName) (table : ScriptName) (rest : List Char) :
    ∀ c ∈ (schemaText schema ++ (table.text ++ rest)).head?, isBlank c = false := by
  cases schema with
  | none => exact table.isBlank_head_append rest
  | some schema =>
    rw [schemaText, List.append_assoc]
    exact schema.isBlank_head_append _

theorem finds_foreignKey (schema : Option ScriptName) (table column : ScriptName) :
    Finds foreignKey (.references schema table column) table.name := by
  intro before hbefore offset b hb
  let taken := ['R', 'E', 'F', 'E', 'R', 'E', 'N', 'C', 'E', 'S'] ++ ([' '] ++ (schemaText schema ++
    (table.text ++ [' ', '('])))
  let behind := column.text ++ ([')'] ++ b)
  have htext : (references schema table column).text ++ b = taken ++ behind := by
    simp [text, taken, behind]
  have hparen : ∀ c ∈ ([' ', '('] ++ behind).head?, ScriptName.isEnd c = true ∧ c ≠ '.' :=
    forall_head?_cons (by decide) _
  have hread : foreignKey.read (taken ++ behind) = some (table.name, behind) := by
    simp only [taken, List.append_assoc]
    refine (bind_of_eq (keyword_append (by decide) _)).trans ?_
    refine (bind_of_eq (blanks1_append (w := [' ']) (by simp) (by decide)
      (isBlank_head_schemaText schema table _))).trans ?_
    refine (bind_of_eq (optional_schemaText schema table hparen)).trans ?_
    refine (bind_of_eq (table.read_append fun c hc => (hparen c hc).1)).trans ?_
    refine (bind_of_eq (blanks_append (w := [' ']) (r := '(' :: behind) (by decide)
      (forall_head?_cons (by decide) _))).trans ?_
    exact bind_of_eq (char_self '(' behind)
  refine ⟨offset + taken.length, ?_⟩
  rw [htext]
  exact Clause.findFrom_of_read (List.append_ne_nil_of_left_ne_nil (by decide) _) hbefore hread rfl

def spaced (options : List ColumnOption) : List Char := options.flatMap fun o => ' ' :: o.text

theorem spaced_cons_append (o : ColumnOption) (rest : List ColumnOption) (behind : List Char) :
    spaced (o :: rest) ++ behind = [' '] ++ (o.text ++ (spaced rest ++ behind)) := by
  simp [spaced]

theorem exists_cons_spaced {options : List ColumnOption} (hne : options ≠ []) :
    ∃ x w, spaced options = ' ' :: x :: w ∧ isAsciiWord x := by
  obtain ⟨o, rest, rfl⟩ := List.exists_cons_of_ne_nil hne
  obtain ⟨x, w, ho, hx⟩ := o.exists_cons_text
  refine ⟨x, w ++ spaced rest, ?_, hx⟩
  simp [spaced, ho]

theorem exists_concat_spaced {options : List ColumnOption} (hne : options ≠ []) :
    ∃ w x, spaced options = w ++ [x] ∧ isBlank x = false ∧ x ≠ ',' := by
  obtain ⟨front, o, rfl⟩ := List.eq_nil_or_concat options |>.resolve_left hne
  obtain ⟨w, x, ho, hx⟩ := o.exists_concat_text
  refine ⟨spaced front ++ ' ' :: w, x, ?_, hx⟩
  simp [spaced, ho]

theorem endsOption_spaced (options : List ColumnOption) {behind : List Char} (hb : EndsOption behind) :
    EndsOption (spaced options ++ behind) := by
  cases options with
  | nil => exact hb
  | cons o rest => exact forall_head?_cons (by decide) _

section
variable {α : Type} {c : Clause α} {k : Char} {keys : List Char} {f : Reader α}

/-- Blanks in front of a text hold nothing and keep nothing from being found behind them. -/
theorem map_find?_dropWhile (h : c.Begins (k :: keys) f) (hc : c.anchor = .wordStart) (text : List Char) :
    (c.find? (text.dropWhile isBlank)).map Found.value = (c.find? text).map Found.value := by
  let w := text.takeWhile isBlank
  have hplain : ∀ x ∈ w, isWordChar x = false := fun x hx =>
    isWordChar_of_isBlank (List.mem_takeWhile_imp hx)
  have hallows : c.anchor.allows none = c.anchor.allows (w.getLast?.or none) := by
    rw [hc]
    cases hlast : w.getLast? with
    | none => rfl
    | some x =>
      have hx := hplain x (List.mem_of_getLast? hlast)
      simp [Anchor.allows, hx]
  have hpass := h.passes_plain hplain (text.dropWhile isBlank) (fun _ => true) none 0
  rw [List.takeWhile_append_dropWhile] at hpass
  rw [Clause.find?, Clause.find?, hpass]
  exact c.map_value_findFrom hallows _ _ _

/-- A search that finds the options which it gives a value and passes over the others finds the first
one with a value, or else what stands behind the options. -/
theorem findFrom_spaced_append (h : c.Begins (k :: keys) f) (hc : c.anchor = .wordStart)
    (value : ColumnOption → Option α) (hpass : ∀ o b, value o = none → c.Passes o.text b)
    (hfind : ∀ o v, value o = some v → Finds c o v) (options : List ColumnOption) {behind : List Char}
    (hb : EndsOption behind) (before : Option Char) (offset : Nat) :
    (c.findFrom (fun _ => true) before offset 0 (spaced options ++ behind)).map Found.value =
      (options.findSome? value).or ((c.find? behind).map Found.value) := by
  induction options generalizing before offset with
  | nil =>
    cases behind with
    | nil => rfl
    | cons x more =>
      have hx : ∀ y ∈ [x], isWordChar y = false := by simpa using hb x rfl
      have hskip := h.passes_plain hx more (fun _ => true)
      rw [Clause.find?, spaced, List.flatMap_nil, List.nil_append, ← List.singleton_append, hskip, hskip]
      exact c.map_value_findFrom rfl _ _ _
  | cons o rest ih =>
    have hspace : ∀ x ∈ [' '], isWordChar x = false := by decide
    rw [spaced_cons_append, h.passes_plain hspace, List.findSome?_cons]
    cases ho : value o with
    | none => rw [hpass o _ ho, ih]
    | some v =>
      have hallows : c.anchor.allows (some ' ') = true := by
        rw [hc]
        decide
      obtain ⟨stop, hfound⟩ := hfind o v ho (some ' ') hallows (offset + 1) (spaced rest ++ behind)
        (endsOption_spaced rest hb)
      exact congrArg (Option.map Found.value) hfound

/-- What is found in the options and what follows them once the blanks before them are gone. -/
theorem find?_spaced_append (h : c.Begins (k :: keys) f) (hc : c.anchor = .wordStart)
    (value : ColumnOption → Option α) (hpass : ∀ o b, value o = none → c.Passes o.text b)
    (hfind : ∀ o v, value o = some v → Finds c o v) (options : List ColumnOption) {behind : List Char}
    (hb : EndsOption behind) :
    (c.find? ((spaced options ++ behind).dropWhile isBlank)).map Found.value =
      (options.findSome? value).or ((c.find? behind).map Found.value) := by
  rw [map_find?_dropWhile h hc]
  exact findFrom_spaced_append h hc value hpass hfind options hb none 0

end

theorem occursIn_spaced_append {c : Clause Unit} {k : Char} {keys : List Char} {f : Reader Unit}
    (h : c.Begins (k :: keys) f) (hc : c.anchor = .wordStart) (p : ColumnOption → Bool)
    (hpass : ∀ o b, p o = false → c.Passes o.text b) (hfind : ∀ o, p o = true → Finds c o ())
    (options : List ColumnOption) {behind : List Char} (hb : EndsOption behind) :
    c.occursIn ((spaced options ++ behind).dropWhile isBlank) = (options.any p || c.occursIn behind) := by
  have hany : (options.findSome? fun o => if p o then some () else none).isSome = options.any p := by
    induction options with
    | nil => rfl
    | cons o rest ih => cases h : p o <;> simp [h, ih]
  have hfound := find?_spaced_append h hc (fun o => if p o then some () else none)
    (fun o b h => hpass o b (by simpa using h)) (fun o _ h => hfind o (by simpa using h)) options hb
  have hsome := congrArg Option.isSome hfound
  rwa [Option.isSome_map, Option.isSome_or, Option.isSome_map, hany] at hsome

def isNotNull : ColumnOption → Bool
  | notNull => true
  | _ => false

def isIdentity : ColumnOption → Bool
  | identity _ _ => true
  | _ => false

def isPrimaryKey : ColumnOption → Bool
  | primaryKey => true
  | _ => false

def referenced? : ColumnOption → Option String
  | references _ table _ => some table.name
  | _ => none

section
variable (options : List ColumnOption) {behind : List Char} (hb : EndsOption behind)
include hb

theorem occursIn_notNull : Script.notNull.occursIn ((spaced options ++ behind).dropWhile isBlank) =
    (options.any isNotNull || Script.notNull.occursIn behind) := by
  refine occursIn_spaced_append begins_notNull rfl isNotNull ?_ ?_ options hb
  · rintro o b ho
    exact passes_notNull (by rintro rfl; cases ho) b
  · rintro (_ | _ | _ | _ | _) ho
    all_goals first | exact finds_notNull | cases ho

theorem occursIn_inlineKey : Script.inlineKey.occursIn ((spaced options ++ behind).dropWhile isBlank) =
    (options.any isPrimaryKey || Script.inlineKey.occursIn behind) := by
  refine occursIn_spaced_append begins_inlineKey rfl isPrimaryKey ?_ ?_ options hb
  · rintro o b ho
    exact passes_inlineKey (by rintro rfl; cases ho) b
  · rintro (_ | _ | _ | _ | _) ho
    all_goals first | exact finds_inlineKey | cases ho

theorem occursIn_identity : Script.identity.occursIn ((spaced options ++ behind).dropWhile isBlank) =
    (options.any isIdentity || Script.identity.occursIn behind) := by
  refine occursIn_spaced_append begins_identity rfl isIdentity ?_ ?_ options hb
  · rintro o b ho
    exact passes_identityClause (by rintro s i rfl; cases ho) b
  · rintro (_ | _ | _ | _ | _) ho
    all_goals first | exact finds_identity _ _ | cases ho

theorem find?_foreignKey :
    (foreignKey.find? ((spaced options ++ behind).dropWhile isBlank)).map Found.value =
      (options.findSome? referenced?).or ((foreignKey.find? behind).map Found.value) := by
  refine find?_spaced_append begins_foreignKey rfl referenced? ?_ ?_ options hb
  · rintro o b ho
    exact passes_foreignKey (by rintro s t c rfl; cases ho) b
  · rintro (_ | _ | _ | _ | ⟨schema, table, column⟩) v ho
    case references =>
      obtain rfl : table.name = v := by simpa [referenced?] using ho
      exact finds_foreignKey schema table column
    all_goals cases ho

end

/-- What stands before the text is neither the word nor the name that a key constraint begins with. -/
structure NoKeyBehind (b : List Char) : Prop where
  constraint : keyBehindConstraint b = none
  name : keyBehindName b = none
  head : ∀ c ∈ b.head?, ScriptName.isEnd c = true

theorem NoKeyBehind.word_head {b : List Char} (h : NoKeyBehind b) :
    ∀ c ∈ b.head?, isWordChar c = false := by
  intro c hc
  have hend := h.head c hc
  simp only [ScriptName.isEnd, Bool.and_eq_true, Bool.not_eq_true'] at hend
  exact hend.1

theorem NoKeyBehind.of_word {w b : List Char} (hne : w ≠ []) (hw : ∀ c ∈ w, isAsciiWord c)
    (hp : ∀ c ∈ w.head?, matchesLetter 'p' c = false) (hb : ∀ c ∈ b.head?, ScriptName.isEnd c = true)
    (hname : keyBehindName b = none) : NoKeyBehind (' ' :: (w ++ b)) where
  constraint := (keyBehindConstraint_name ⟨w, false, hne, hw⟩ hb).trans hname
  name := by
    have hhead : ∀ c ∈ (w ++ b).head?, isBlank c = false ∧ matchesLetter 'p' c = false := by
      refine forall_head?_append hne ?_ b
      intro c hc
      exact ⟨isBlank_of_isAsciiWord (hw c (List.mem_of_mem_head? hc)), hp c hc⟩
    exact keyBehindName_blanks (w := [' ']) (by decide) (fun c hc => (hhead c hc).1)
      fun c hc => (hhead c hc).2
  head := forall_head?_cons (by decide) _

theorem keyBehindName_of_head {x : Char} (hx : isBlank x = false) (rest : List Char) :
    keyBehindName (x :: rest) = none :=
  bind_of_none (blanks1_of_head (forall_head?_cons hx rest))

theorem keyBehindName_target (schema : Option ScriptName) (table : ScriptName) (rest : List Char) :
    keyBehindName (' ' :: (schemaText schema ++ (table.text ++ ([' '] ++ ('(' :: rest))))) = none := by
  cases schema with
  | none =>
    exact keyBehindName_name table (w := [' ']) (b := '(' :: rest) (by decide)
      (forall_head?_cons (by decide) _) (forall_head?_cons (by decide) _)
      (forall_head?_cons (by decide) _)
  | some schema =>
    rw [schemaText, List.append_assoc]
    exact keyBehindName_name schema (w := []) (b := ['.'] ++ _) (by simp)
      (forall_head?_cons (by decide) _) (forall_head?_cons (by decide) _)
      (forall_head?_cons (by decide) _)

theorem NoKeyBehind.option {b : List Char} (h : NoKeyBehind b) {o : ColumnOption}
    (ho : o ≠ .primaryKey) : NoKeyBehind (' ' :: (o.text ++ b)) := by
  cases o with
  | primaryKey => exact (ho rfl).elim
  | identity seed increment =>
    rw [text, List.append_assoc]
    exact .of_word (by decide) (by decide) (by decide) (forall_head?_cons (by decide) _)
      (keyBehindName_of_head (by decide) _)
  | null => exact .of_word (w := ['N', 'U', 'L', 'L']) (by decide) (by decide) (by decide) h.head h.name
  | notNull =>
    refine .of_word (w := ['N', 'O', 'T']) (b := [' '] ++ (['N', 'U', 'L', 'L'] ++ b)) (by decide)
      (by decide) (by decide) (forall_head?_cons (by decide) _) ?_
    exact keyBehindName_blanks (w := [' ']) (by decide) (forall_head?_cons (by decide) _)
      (forall_head?_cons (by decide) _)
  | references schema table column =>
    rw [text]
    simp only [List.append_assoc]
    exact .of_word (by decide) (by decide) (by decide) (forall_head?_cons (by decide) _)
      (keyBehindName_target schema table _)

theorem passes_keyConstraint {o : ColumnOption} (ho : o ≠ .primaryKey) (b : List Char) :
    keyConstraint.Passes o.text b := by
  have hbegins := begins_keyConstraint
  cases o with
  | primaryKey => exact (ho rfl).elim
  | identity seed increment =>
    exact passes_identity hbegins (by decide) (hbegins.startsWith.passes (by decide))
      seed increment b
  | null => exact hbegins.startsWith.passes (by decide) b
  | notNull => exact hbegins.startsWith.passes (by decide) b
  | references schema table column =>
    have hopen : keyBehindConstraint ([' '] ++ ('(' :: (column.text ++ ([')'] ++ b)))) = none :=
      keyBehindConstraint_blanks (by decide) (forall_head?_cons (by decide) _)
        (forall_head?_cons (by decide) _)
    refine (passes_target hbegins schema table column hopen).behind
      (hbegins.passes_word (by decide) (forall_head?_cons (by decide) _) ?_)
    rw [List.append_assoc, List.append_assoc, List.append_assoc]
    cases schema with
    | none =>
      refine (keyBehindConstraint_name table (forall_head?_cons (by decide) _)).trans ?_
      exact keyBehindName_blanks (w := [' ']) (by decide) (forall_head?_cons (by decide) _)
        (forall_head?_cons (by decide) _)
    | some schema =>
      rw [schemaText, List.append_assoc]
      refine (keyBehindConstraint_name schema (forall_head?_cons (by decide) _)).trans ?_
      exact keyBehindName_of_head (by decide) _

theorem NoKeyBehind.spaced {b : List Char} (h : NoKeyBehind b) {options : List ColumnOption}
    (ho : ∀ o ∈ options, o ≠ .primaryKey) : NoKeyBehind (spaced options ++ b) := by
  induction options with
  | nil => exact h
  | cons o rest ih =>
    have hrest := ih fun o' ho' => ho o' (List.mem_cons_of_mem o ho')
    have hcons := hrest.option (ho o List.mem_cons_self)
    rw [ColumnOption.spaced, List.flatMap_cons, List.append_assoc, List.cons_append]
    exact hcons

theorem passes_spaced {options : List ColumnOption} (ho : ∀ o ∈ options, o ≠ .primaryKey)
    (b : List Char) : keyConstraint.Passes (spaced options) b := by
  induction options with
  | nil => exact keyConstraint.passes_nil b
  | cons o rest ih =>
    have hrest : ∀ o' ∈ rest, o' ≠ .primaryKey := fun o' ho' => ho o' (List.mem_cons_of_mem o ho')
    have hoption := passes_keyConstraint (ho o List.mem_cons_self) (spaced rest ++ b)
    have hspace : ∀ b, keyConstraint.Passes [' '] b :=
      begins_keyConstraint.startsWith.passes (by decide)
    have hcons := ((ih hrest).behind hoption).behind (hspace _)
    rw [ColumnOption.spaced, List.flatMap_cons, List.cons_append]
    exact hcons

end ColumnOption

end SchemaBindings.Script

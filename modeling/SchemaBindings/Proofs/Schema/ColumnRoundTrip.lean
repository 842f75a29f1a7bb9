import Mathlib.Data.List.Basic
import SchemaBindings.Proofs.Script.ColumnOptions
import SchemaBindings.Proofs.Text.Pieces
import SchemaBindings.Schema.TableScript

/-!
Reading back one line that defines a column: its name, its type, its length and the options that stand
behind it, in any order, whatever else follows them on the line.
-/

namespace SchemaBindings

set_option autoImplicit false

open Script Text
open Script.Reader

/-- The length of a column in the spelling of a script. -/
inductive LengthText
  | absent
  | max (letters : List Char) (spelled : letters.map Char.toLower = ['m', 'a', 'x'])
  | number (n : NumberText) (short : n.text.length ≤ Numeral.digitLimit) (scale : Option NumberText)

namespace LengthText

def scaleText : Option NumberText → List Char
  | some scale => ',' :: scale.text
  | none => []

/-- What stands between the parentheses in front of the scale. -/
def body? : LengthText → Option (List Char)
  | absent => none
  | max letters _ => some letters
  | number n _ _ => some n.text

def text : LengthText → List Char
  | absent => []
  | max letters _ => '(' :: (letters ++ [')'])
  | number n _ scale => '(' :: (n.text ++ (scaleText scale ++ [')']))

def value : LengthText → Option Int
  | absent => none
  | max _ _ => some Column.unbounded
  | number n _ _ => some n.number

theorem max_letters {letters : List Char} (h : letters.map Char.toLower = ['m', 'a', 'x']) :
    ∀ c ∈ letters, isAsciiWord c ∧ isDecimal c = false := by
  intro c hc
  have hlower : c.toLower ∈ ['m', 'a', 'x'] := h ▸ List.mem_map_of_mem hc
  have hisLower : ∀ d ∈ ['m', 'a', 'x'], d.isLower = true := by decide
  have hword : isAsciiWord c := isAsciiWord_of_toLower (hisLower _ hlower)
  have hdecimal := forall_asciiWord
    (p := fun c => c.toLower ∈ ['m', 'a', 'x'] → isDecimal c = false) (by decide) hword
  exact ⟨hword, hdecimal hlower⟩

theorem lower_ascii {cs : List Char} (h : ∀ c ∈ cs, isAsciiWord c) :
    lower (String.ofList cs) = String.ofList (cs.map Char.toLower) := by
  rw [lower, String.toList_ofList, lowerChars_ascii fun c hc => toNat_lt_of_isAsciiWord (h c hc)]

theorem lower_number_ne (n : NumberText) : lower (String.ofList n.text) ≠ "max" := by
  intro h
  rw [lower_ascii n.isAsciiWord_text] at h
  have hmap : n.text.map Char.toLower = ['m', 'a', 'x'] := by
    simpa using congrArg String.toList h
  obtain ⟨d, more, hd⟩ := List.exists_cons_of_ne_nil n.text_ne_nil
  have hm : d.toLower = 'm' := by
    rw [hd, List.map_cons] at hmap
    exact (List.cons.inj hmap).1
  exact n.forall_mem_text (p := fun c => c.toLower ≠ 'm') (by decide) d
    (by rw [hd]; exact List.mem_cons_self) hm

theorem lengthOf_body (l : LengthText) :
    (l.body? = none ∧ l.value = none) ∨
      ∃ body n, l.body? = some body ∧ Table.lengthOf (String.ofList body) = .ok n ∧
        l.value = some n := by
  cases l with
  | absent => exact .inl ⟨rfl, rfl⟩
  | max letters spelled =>
    have hlower : lower (String.ofList letters) = "max" := by
      rw [lower_ascii fun c hc => (max_letters spelled c hc).1, spelled]
    refine .inr ⟨letters, Column.unbounded, rfl, ?_, rfl⟩
    rw [Table.lengthOf, hlower]
    rfl
  | number n short scale =>
    have hne : (lower (String.ofList n.text) == "max") = false := by
      simpa using lower_number_ne n
    refine .inr ⟨n.text, n.number, rfl, ?_, rfl⟩
    rw [Table.lengthOf, hne, String.toList_ofList, n.readDigits_text short]
    rfl

theorem columnLength_of_body {body tail rest : List Char}
    (hblank : ∀ c ∈ (body ++ tail).head?, isBlank c = false)
    (hbody : (digits <|> (do let text ← get; keyword "max"; return text.take 3) : Reader (List Char))
      (body ++ tail) = some (body, tail))
    (htail : ∀ c ∈ tail.head?, isBlank c = false)
    (hscale : ∃ scale, optional (do char ','; blanks; let _ ← digits; blanks : Reader Unit) tail =
      some (scale, ')' :: rest)) :
    columnLength ('(' :: (body ++ tail)) = some (String.ofList body, rest) := by
  have hopen : ∀ c ∈ ('(' :: (body ++ tail)).head?, isBlank c = false :=
    forall_head?_cons (by decide) _
  refine (bind_of_eq (blanks_of_head hopen)).trans ?_
  refine (bind_of_eq (char_self '(' _)).trans ?_
  refine (bind_of_eq (blanks_of_head hblank)).trans ?_
  refine (bind_of_eq hbody).trans ?_
  refine (bind_of_eq (blanks_of_head htail)).trans ?_
  obtain ⟨scale, hscale⟩ := hscale
  exact (bind_of_eq hscale).trans (bind_of_eq (char_self ')' rest))

theorem scale_none (rest : List Char) :
    optional (do char ','; blanks; let _ ← digits; blanks : Reader Unit) (')' :: rest) =
      some (none, ')' :: rest) :=
  optional_of_none (bind_of_none (char_of_ne (by decide) rest))

theorem columnLength_max {letters : List Char} (h : letters.map Char.toLower = ['m', 'a', 'x'])
    (rest : List Char) :
    columnLength ('(' :: (letters ++ ')' :: rest)) = some (String.ofList letters, rest) := by
  have hlen : letters.length = 3 := by
    have hlength := congrArg List.length h
    simpa using hlength
  have hne : letters ≠ [] := by
    rintro rfl
    cases hlen
  have hhead : ∀ c ∈ (letters ++ ')' :: rest).head?, isBlank c = false ∧ isDecimal c = false := by
    refine forall_head?_append hne ?_ _
    intro c hc
    obtain ⟨hword, hdecimal⟩ := max_letters h c (List.mem_of_mem_head? hc)
    exact ⟨isBlank_of_isAsciiWord hword, hdecimal⟩
  have hspells : spells "max".toList letters = true := by
    obtain ⟨a, b, c, rfl⟩ := List.length_eq_three.1 hlen
    obtain ⟨ha, hb, hc⟩ : a.toLower = 'm' ∧ b.toLower = 'a' ∧ c.toLower = 'x' := by simpa using h
    simp [spells, matchesLetter, ha, hb, hc]
  have hmax : (do let text ← get; keyword "max"; return text.take 3 : Reader (List Char))
      (letters ++ ')' :: rest) = some (letters, ')' :: rest) := by
    refine (bind_of_eq (get_apply _)).trans ((bind_of_eq (keyword_append hspells _)).trans ?_)
    rw [List.take_left' hlen]
    rfl
  refine columnLength_of_body (fun c hc => (hhead c hc).1) ?_ (forall_head?_cons (by decide) rest)
    ⟨none, scale_none rest⟩
  have hdigits : digits (letters ++ ')' :: rest) = none := many1_of_head fun c hc => (hhead c hc).2
  rw [orElse_apply, hdigits, Option.none_or, hmax]

theorem columnLength_number (n : NumberText) (scale : Option NumberText) (rest : List Char) :
    columnLength ('(' :: (n.text ++ (scaleText scale ++ ')' :: rest))) =
      some (String.ofList n.text, rest) := by
  have hclose : ∀ c ∈ (')' :: rest).head?, isBlank c = false ∧ isDecimal c = false :=
    forall_head?_cons (by decide) rest
  have htail : ∀ c ∈ (scaleText scale ++ ')' :: rest).head?, isBlank c = false ∧
      isDecimal c = false := by
    cases scale with
    | none => exact hclose
    | some scale => exact forall_head?_cons (by decide) _
  refine columnLength_of_body (ColumnOption.isBlank_head_number n _) ?_
    (fun c hc => (htail c hc).1) ?_
  · rw [orElse_apply, ColumnOption.digits_append n fun c hc => (htail c hc).2]
    rfl
  · cases scale with
    | none => exact ⟨none, scale_none rest⟩
    | some scale =>
      refine ⟨some (), optional_of_eq ?_⟩
      rw [scaleText, List.cons_append]
      refine (bind_of_eq (char_self ',' _)).trans ?_
      refine (bind_of_eq (blanks_of_head (ColumnOption.isBlank_head_number scale _))).trans ?_
      refine (bind_of_eq (ColumnOption.digits_append scale fun c hc => (hclose c hc).2)).trans ?_
      exact blanks_of_head fun c hc => (hclose c hc).1

theorem optional_columnLength (l : LengthText) {rest : List Char}
    (hr : ∀ c ∈ (rest.dropWhile isBlank).head?, c ≠ '(') :
    optional columnLength (l.text ++ rest) = some (l.body?.map String.ofList, rest) := by
  cases l with
  | absent =>
    refine optional_of_none ((bind_of_eq (a := ()) (r := rest.dropWhile isBlank) rfl).trans
      (bind_of_none ?_))
    cases hd : rest.dropWhile isBlank with
    | nil => rfl
    | cons c more => exact char_of_ne (hr c (by rw [hd]; rfl)) more
  | max letters spelled =>
    refine optional_of_eq ?_
    rw [text, List.cons_append, List.append_assoc]
    exact columnLength_max spelled rest
  | number n short scale =>
    refine optional_of_eq ?_
    rw [text, List.cons_append, List.append_assoc, List.append_assoc]
    exact columnLength_number n scale rest

theorem isLineChar_text (l : LengthText) : ∀ x ∈ l.text, isLineChar x = true := by
  have hnumber : ∀ n : NumberText, ∀ c ∈ n.text, isLineChar c = true := fun n c hc =>
    isLineChar_of_isAsciiWord (n.isAsciiWord_text c hc)
  cases l with
  | absent => simp [text]
  | max letters spelled =>
    simp only [text, List.forall_mem_append, List.forall_mem_cons]
    exact ⟨by decide, fun c hc => isLineChar_of_isAsciiWord (max_letters spelled c hc).1, by decide,
      by simp⟩
  | number n short scale =>
    have hscale : ∀ c ∈ scaleText scale, isLineChar c = true := by
      cases scale with
      | none => simp [scaleText]
      | some scale =>
        simp only [scaleText, List.forall_mem_cons]
        exact ⟨by decide, hnumber scale⟩
    simp only [text, List.forall_mem_append, List.forall_mem_cons]
    exact ⟨by decide, hnumber n, hscale, by decide, by simp⟩

end LengthText

/-- A column in the spelling of a script. Neither its name nor its type is a word of constraints. -/
structure ColumnScript where
  name : ScriptName
  type : ScriptName
  name_plain : Table.isConstraintKeyword name.name = false
  type_plain : Table.isConstraintKeyword type.name = false
  length : LengthText
  options : List ColumnOption

namespace ColumnScript

def text (c : ColumnScript) : List Char :=
  c.name.text ++ (' ' :: (c.type.text ++ (c.length.text ++ ColumnOption.spaced c.options)))

def column (c : ColumnScript) : Column where
  name := c.name.name
  sqlType := c.type.name
  nullable := !c.options.any ColumnOption.isNotNull
  maxLength := c.length.value
  isIdentity := c.options.any ColumnOption.isIdentity
  isPrimaryKey := c.options.any ColumnOption.isPrimaryKey
  referencesTable := c.options.findSome? ColumnOption.referenced?

def comma (more : Bool) : List Char := if more then [','] else []

theorem isLineChar_spaced (options : List ColumnOption) :
    ∀ x ∈ ColumnOption.spaced options, isLineChar x = true := by
  intro x hx
  obtain ⟨o, _, hx⟩ := List.mem_flatMap.1 hx
  rcases List.mem_cons.1 hx with rfl | hx
  · decide
  · exact o.isLineChar_text x hx

theorem isLineChar_comma (more : Bool) : ∀ x ∈ comma more, isLineChar x = true := by
  cases more <;> decide

theorem isLineChar_text (c : ColumnScript) : ∀ x ∈ c.text, isLineChar x = true := by
  simp only [text, List.forall_mem_append, List.forall_mem_cons]
  exact ⟨c.name.isLineChar_text, by decide, c.type.isLineChar_text, c.length.isLineChar_text,
    isLineChar_spaced c.options⟩

end ColumnScript

section
open ColumnScript (comma isLineChar_comma isLineChar_spaced)

theorem isLineBreak_of_isLineChar {x : Char} (hx : isLineChar x = true) : Table.isLineBreak x = false :=
  forall_lineChar (p := fun x => Table.isLineBreak x = false) (by decide) hx

theorem forall_head?_comma {p : Char → Prop} (hcomma : p ',') {tail : List Char}
    (h : ∀ x ∈ tail.head?, p x) (more : Bool) : ∀ x ∈ (tail ++ comma more).head?, p x := by
  by_cases hne : tail = []
  · rw [hne]
    cases more with
    | true => exact forall_head?_cons hcomma []
    | false => simp [comma]
  · exact forall_head?_append hne h _

theorem forall_head?_dropWhile_comma {p : Char → Prop} (hcomma : p ',') {tail : List Char}
    (h : ∀ x ∈ (tail.dropWhile isBlank).head?, p x) (more : Bool) :
    ∀ x ∈ ((tail ++ comma more).dropWhile isBlank).head?, p x := by
  have hdrop : (comma more).dropWhile isBlank = comma more := by cases more <;> decide
  have hrest : (tail ++ comma more).dropWhile isBlank = tail.dropWhile isBlank ++ comma more := by
    rw [List.dropWhile_append]
    split
    · rename_i hempty
      rw [List.isEmpty_iff.1 hempty, List.nil_append, hdrop]
    · rfl
  rw [hrest]
  exact forall_head?_comma hcomma h more

/-- The rest of a line, up to the comma that may end it. -/
structure LineTail (text : List Char) : Prop where
  one_line : ∀ x ∈ text, Table.isLineBreak x = false
  last : ∀ x ∈ text.getLast?, isBlank x = false ∧ x ≠ ','

/-- The rest of a line behind a definition, which is no length of its type. -/
structure EndsLine (behind : List Char) : Prop extends LineTail behind where
  head : ∀ x ∈ behind.head?, x = ' ' ∨ x = ','
  word_head : ∀ x ∈ (behind.dropWhile isBlank).head?, x ≠ '('

theorem endsLine_nil : EndsLine [] where
  one_line := by simp
  last := by simp
  head := by simp
  word_head := by simp

theorem EndsLine.endsOption {behind : List Char} (h : EndsLine behind) : ColumnOption.EndsOption behind := by
  intro x hx
  rcases h.head x hx with rfl | rfl
  · decide
  · decide

/-- Options stand behind a definition like everything else. -/
theorem EndsLine.spaced {behind : List Char} (h : EndsLine behind) (options : List ColumnOption) :
    EndsLine (ColumnOption.spaced options ++ behind) := by
  by_cases hne : options = []
  · rw [hne]
    exact h
  obtain ⟨x, w, hcons, hx⟩ := ColumnOption.exists_cons_spaced hne
  obtain ⟨w', y, hconcat, hy⟩ := ColumnOption.exists_concat_spaced hne
  have hhead : ∀ z ∈ ((ColumnOption.spaced options).dropWhile isBlank).head?, z ≠ '(' := by
    have hspace : isBlank ' ' = true := by decide
    rw [hcons, List.dropWhile_cons_of_pos hspace,
      List.dropWhile_cons_of_neg (by simp [isBlank_of_isAsciiWord hx])]
    exact forall_head?_cons (p := fun z => z ≠ '(') (ne_of_isAsciiWord (by decide) hx) w
  refine ⟨⟨?_, ?_⟩, ?_, ?_⟩
  · simp only [List.forall_mem_append]
    exact ⟨fun z hz => isLineBreak_of_isLineChar (isLineChar_spaced options z hz), h.one_line⟩
  · by_cases hbehind : behind = []
    · rw [hbehind, List.append_nil, hconcat]
      simpa using hy
    · exact forall_getLast?_append hbehind h.last _
  · rw [hcons]
    exact forall_head?_cons (.inl rfl) _
  · rw [List.dropWhile_append, if_neg]
    · refine forall_head?_append ?_ hhead behind
      simp [hcons, isBlank_of_isAsciiWord hx, show isBlank ' ' = true by decide]
    · simp [hcons, isBlank_of_isAsciiWord hx, show isBlank ' ' = true by decide]

/-- The options are what is left of the line without the blanks before them and the comma behind them. -/
theorem LineTail.optionsText {text : List Char} (h : LineTail text) (more : Bool) :
    Table.optionsText (text ++ comma more) = text.dropWhile isBlank := by
  let options := text.dropWhile isBlank
  have hblank : ∀ x ∈ text.takeWhile isBlank, isBlank x = true := fun x hx => List.mem_takeWhile_imp hx
  have hsplit : text ++ comma more = text.takeWhile isBlank ++ (options ++ comma more) := by
    rw [← List.append_assoc, List.takeWhile_append_dropWhile]
  have hlast : ∀ x ∈ options.getLast?, isBlank x = false ∧ x ≠ ',' := by
    intro x hx
    have hsuffix : text = text.takeWhile isBlank ++ options := List.takeWhile_append_dropWhile.symm
    refine h.last x ?_
    rw [hsuffix, List.getLast?_append, hx]
    rfl
  have hhead : ∀ x ∈ (options ++ comma more).head?, isBlank x = false := by
    by_cases hne : options = []
    · rw [hne]
      cases more <;> decide
    · exact forall_head?_append hne (forall_head?_dropWhile text) _
  have htrim : trim (text ++ comma more) = options ++ comma more := by
    rw [hsplit, trim, trimOf_append_left hblank]
    refine trimOf_of_ends hhead ?_
    cases more with
    | true => exact forall_getLast?_append (b := [',']) (by simp) (by decide) options
    | false => simpa [comma] using fun x hx => (hlast x hx).1
  rw [Table.optionsText, htrim]
  cases more with
  | true =>
    have hend : trimEnd options = options := trimEndOf_of_getLast fun x hx => (hlast x hx).1
    simp [comma, hend, options]
  | false =>
    have hcomma : (options ++ comma false).getLast? ≠ some ',' := by
      rw [comma, if_neg (by simp), List.append_nil]
      exact fun hx => (hlast ',' hx).2 rfl
    rw [if_neg hcomma, comma, if_neg (by simp), List.append_nil]

theorem LineTail.lastLine {text : List Char} (h : LineTail text) (more : Bool) :
    Reader.lastLine (text ++ comma more) = some (text ++ comma more, []) := by
  have hne : ∀ x ∈ text ++ comma more, decide (x ≠ '\n') = true := by
    intro x hx
    have hbreak : Table.isLineBreak x = false := by
      rcases List.mem_append.1 hx with hx | hx
      · exact h.one_line x hx
      · exact isLineBreak_of_isLineChar (isLineChar_comma more x hx)
    rw [decide_eq_true_eq]
    rintro rfl
    revert hbreak
    decide
  rw [Reader.lastLine, List.takeWhile_eq_self_iff.2 hne, List.dropWhile_eq_nil_iff.2 hne]
  rfl

end

namespace ColumnScript

/-- The column that is read from a line which goes on behind the definition: whatever options stand there
count as well. -/
def columnWith (c : ColumnScript) (behind : List Char) : Column where
  name := c.name.name
  sqlType := c.type.name
  nullable := !(c.options.any ColumnOption.isNotNull || Script.notNull.occursIn behind)
  maxLength := c.length.value
  isIdentity := c.options.any ColumnOption.isIdentity || Script.identity.occursIn behind
  isPrimaryKey := c.options.any ColumnOption.isPrimaryKey || Script.inlineKey.occursIn behind
  referencesTable := (c.options.findSome? ColumnOption.referenced?).or
    ((foreignKey.find? behind).map Found.value)

theorem columnWith_nil (c : ColumnScript) : c.columnWith [] = c.column := by
  have hnone : ∀ clause : Clause Unit, clause.occursIn [] = false := fun _ => rfl
  have hfind : (foreignKey.find? []).map Found.value = none := rfl
  rw [columnWith, hnone, hnone, hnone, hfind]
  simp only [Bool.or_false, Option.or_none]
  rfl

theorem columnParts?_append (c : ColumnScript) {behind : List Char} (h : EndsLine behind) (more : Bool) :
    Table.columnParts? (c.text ++ (behind ++ comma more)) =
      some ⟨c.name.name, c.type.name, c.length.body?.map String.ofList,
        ColumnOption.spaced c.options ++ behind ++ comma more⟩ := by
  let rest := ColumnOption.spaced c.options ++ behind ++ comma more
  have htail := h.spaced c.options
  have htext : c.text ++ (behind ++ comma more) =
      c.name.text ++ ([' '] ++ (c.type.text ++ (c.length.text ++ rest))) := by
    simp [text, rest]
  have hspace : ∀ text, ∀ x ∈ ([' '] ++ text).head?, ScriptName.isEnd x = true :=
    fun text => forall_head?_cons (by decide) text
  have hend : ∀ x ∈ (ColumnOption.spaced c.options ++ behind).head?, ScriptName.isEnd x = true := by
    intro x hx
    rcases htail.head x hx with rfl | rfl
    · decide
    · decide
  have hrest : ∀ x ∈ rest.head?, ScriptName.isEnd x = true :=
    forall_head?_comma (by decide) hend more
  have htype : ∀ x ∈ (c.length.text ++ rest).head?, ScriptName.isEnd x = true := by
    cases c.length with
    | absent => exact hrest
    | max letters spelled => exact forall_head?_cons (by decide) _
    | number n short scale => exact forall_head?_cons (by decide) _
  have hread : columnLine.read (c.text ++ (behind ++ comma more)) =
      some (⟨c.name.name, c.type.name, c.length.body?.map String.ofList, rest⟩, []) := by
    rw [htext]
    refine (bind_of_eq (blanks_of_head (c.name.isBlank_head_append _))).trans ?_
    refine (bind_of_eq (c.name.read_append (hspace _))).trans ?_
    refine (bind_of_eq (blanks1_append (by simp) (by decide) (c.type.isBlank_head_append _))).trans ?_
    refine (bind_of_eq (c.type.read_append htype)).trans ?_
    refine (bind_of_eq (c.length.optional_columnLength
      (forall_head?_dropWhile_comma (by decide) htail.word_head more))).trans ?_
    exact bind_of_eq (htail.toLineTail.lastLine more)
  have hne : c.text ++ (behind ++ comma more) ≠ [] := by
    rw [htext]
    exact List.append_ne_nil_of_left_ne_nil c.name.text_ne_nil _
  have hfind := Clause.findFrom_of_read (p := none) (n := 0) (b := []) hne rfl
    (by rw [List.append_nil]; exact hread) (q := fun _ => true) rfl
  rw [List.append_nil] at hfind
  rw [Table.columnParts?, Clause.find?, hfind]
  simp [c.name_plain, c.type_plain, rest]

/-- A line that begins with a definition is read as its column. -/
theorem lineOf_append (c : ColumnScript) {behind : List Char} (h : EndsLine behind) (more : Bool) :
    Table.lineOf (c.text ++ (behind ++ comma more)) = .ok (.column (c.columnWith behind)) := by
  have hb := h.endsOption
  have hreferences := ColumnOption.find?_foreignKey c.options hb
  rw [Table.lineOf, c.columnParts?_append h more]
  simp only [Table.columnOf, (h.spaced c.options).toLineTail.optionsText more,
    ColumnOption.occursIn_notNull c.options hb,
    ColumnOption.occursIn_identity c.options hb, ColumnOption.occursIn_inlineKey c.options hb, hreferences,
    columnWith]
  rcases c.length.lengthOf_body with ⟨hbody, hvalue⟩ | ⟨body, n, hbody, hn, hvalue⟩
  · rw [hbody, hvalue]
    rfl
  · rw [hbody, hvalue]
    simp only [Option.map_some, hn]
    rfl

/-- A line that was put together from a column is read back as this column. -/
theorem lineOf_text (c : ColumnScript) (more : Bool) :
    Table.lineOf (c.text ++ comma more) = .ok (.column c.column) := by
  rw [← c.columnWith_nil]
  exact c.lineOf_append endsLine_nil more

end ColumnScript

/-- A line defines a column if it is read as one whose name and type are no words of constraints. -/
theorem columnParts?_eq (line : List Char) : Table.columnParts? line =
    ((columnLine.read line).map Prod.fst).filter fun p =>
      !(Table.isConstraintKeyword p.name || Table.isConstraintKeyword p.type) := by
  rw [Table.columnParts?, Clause.map_value_find?_textStart rfl rfl]

theorem columnParts?_eq_none {line : List Char}
    (h : ∀ p rest, columnLine.read line = some (p, rest) →
      (Table.isConstraintKeyword p.name || Table.isConstraintKeyword p.type) = true) :
    Table.columnParts? line = none := by
  rw [columnParts?_eq]
  cases hread : columnLine.read line with
  | none => rfl
  | some r =>
    rw [Option.map_some, Option.filter_some, h r.1 r.2 hread]
    rfl

theorem columnParts?_of_head {line : List Char}
    (h : ∀ c ∈ line.head?, isBlank c = false ∧ isWordChar c = false ∧ c ≠ '[') :
    Table.columnParts? line = none := by
  refine columnParts?_eq_none ?_
  intro p rest hread
  have hnone : columnLine.read line = none :=
    (bind_of_eq (blanks_of_head fun c hc => (h c hc).1)).trans
      (bind_of_none (name_of_head fun c hc => (h c hc).2))
  rw [hnone] at hread
  cases hread

def columnBehindName (n : String) : Reader ColumnParts := do
  blanks1
  let type ← name
  let length ← optional columnLength
  return ⟨n, type, length, ← lastLine⟩

theorem columnLine_name (n : ScriptName) {b : List Char}
    (hb : ∀ c ∈ b.head?, ScriptName.isEnd c = true) :
    columnLine.read (n.text ++ b) = columnBehindName n.name b :=
  (bind_of_eq (blanks_of_head (n.isBlank_head_append b))).trans (bind_of_eq (n.read_append hb))

theorem columnBehindName_eq_some {n : String} {text rest : List Char} {p : ColumnParts}
    (h : columnBehindName n text = some (p, rest)) : p.name = n := by
  simp only [columnBehindName, bind_apply, pure_apply, Option.bind_eq_some_iff] at h
  obtain ⟨_, _, _, _, _, _, _, _, h⟩ := h
  simp only [Option.some.injEq, Prod.mk.injEq] at h
  rw [← h.1]

theorem columnBehindName_type {n : String} {t : ScriptName} {ws b rest : List Char} {p : ColumnParts}
    (hne : ws ≠ []) (hws : ∀ c ∈ ws, isBlank c = true)
    (hb : ∀ c ∈ b.head?, ScriptName.isEnd c = true)
    (h : columnBehindName n (ws ++ (t.text ++ b)) = some (p, rest)) : p.type = t.name := by
  have hblank := blanks1_append hne hws (t.isBlank_head_append b)
  rw [columnBehindName, bind_of_eq hblank, bind_of_eq (t.read_append hb)] at h
  simp only [bind_apply, pure_apply, Option.bind_eq_some_iff] at h
  obtain ⟨_, _, _, _, h⟩ := h
  simp only [Option.some.injEq, Prod.mk.injEq] at h
  rw [← h.1]

theorem columnParts?_name (n : ScriptName) {w b : List Char} (hws : ∀ c ∈ w, isBlank c = true)
    (hb : ∀ c ∈ b.head?, isBlank c = false ∧ isWordChar c = false ∧ c ≠ '[')
    (hend : ∀ c ∈ (w ++ b).head?, ScriptName.isEnd c = true) :
    Table.columnParts? (n.text ++ (w ++ b)) = none := by
  refine columnParts?_eq_none ?_
  intro p rest hread
  have hnone : columnBehindName n.name (w ++ b) = none :=
    blanks1_bind_of_none hws (fun c hc => (hb c hc).1)
      (bind_of_none (name_of_head fun c hc => (hb c hc).2))
  rw [columnLine_name n hend, hnone] at hread
  cases hread

theorem columnParts?_of_name (n : ScriptName) (hn : Table.isConstraintKeyword n.name = true)
    {b : List Char} (hb : ∀ c ∈ b.head?, ScriptName.isEnd c = true) :
    Table.columnParts? (n.text ++ b) = none := by
  refine columnParts?_eq_none ?_
  intro p rest hread
  rw [columnLine_name n hb] at hread
  rw [columnBehindName_eq_some hread, hn, Bool.true_or]

theorem columnParts?_of_type (n t : ScriptName) (ht : Table.isConstraintKeyword t.name = true)
    {ws b : List Char} (hne : ws ≠ []) (hws : ∀ c ∈ ws, isBlank c = true)
    (hb : ∀ c ∈ b.head?, ScriptName.isEnd c = true) :
    Table.columnParts? (n.text ++ (ws ++ (t.text ++ b))) = none := by
  have hend : ∀ c ∈ (ws ++ (t.text ++ b)).head?, ScriptName.isEnd c = true :=
    forall_head?_append hne (fun c hc => ScriptName.isEnd_of_isBlank (hws c (List.mem_of_mem_head? hc))) _
  refine columnParts?_eq_none ?_
  intro p rest hread
  rw [columnLine_name n hend] at hread
  rw [columnBehindName_type hne hws hb hread, ht, Bool.or_true]

end SchemaBindings

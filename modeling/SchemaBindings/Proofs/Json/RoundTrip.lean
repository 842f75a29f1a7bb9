import SchemaBindings.Proofs.Json.Numbers
import SchemaBindings.Proofs.Json.Strings

/-!
A document is read back as the value that it was written for. The text of a value is cut into the tokens of
the value, whatever comes behind it, and reading these tokens inside any open frames finishes that value.
-/

namespace SchemaBindings.Json

set_option autoImplicit false

mutual

def tokensOf : Json → List Token
  | .null => [.scalar .null]
  | .bool b => [.scalar (.bool b)]
  | .int n => [.scalar (.int n)]
  | .decimal m e => [.scalar (.decimal m e)]
  | .string s => [.string s]
  | .array items => .openBracket :: ([Token.comma].intercalate (itemTokens items) ++ [.closeBracket])
  | .object members => .openBrace :: ([Token.comma].intercalate (memberTokens members) ++ [.closeBrace])

def itemTokens : List Json → List (List Token)
  | [] => []
  | item :: rest => tokensOf item :: itemTokens rest

def memberTokens : List (String × Json) → List (List Token)
  | [] => []
  | (key, value) :: rest => (.string key :: .colon :: tokensOf value) :: memberTokens rest

end

theorem isSpace_cases {c : Char} (h : isSpace c = true) : c = ' ' ∨ c = '\n' ∨ c = '\r' ∨ c = '\t' := by
  simpa only [isSpace, Bool.or_eq_true, beq_iff_eq, or_assoc] using h

theorem tokens_space {c : Char} (h : isSpace c = true) (rest : List Char) :
    tokens (c :: rest) = tokens rest := by
  rw [tokens, if_pos h]

theorem tokens_punctuation {c : Char} {t : Token} (h : punctuation? c = some t) (rest : List Char) :
    tokens (c :: rest) = (tokens rest).map (t :: ·) := by
  have hspace : ¬ isSpace c = true := by
    intro hspace
    rcases isSpace_cases hspace with rfl | rfl | rfl | rfl
    all_goals cases h
  have hquote : c ≠ '"' := by
    rintro rfl
    cases h
  rw [tokens, if_neg hspace, if_neg hquote, h]

theorem tokens_quote (s : String) (rest : List Char) :
    tokens ((quote s).toList ++ rest) = (tokens rest).map (.string s :: ·) := by
  have hunits := stringUnits_quote s.toList rest
  unfold quote
  rw [String.toList_ofList, List.cons_append, List.cons_append, List.append_assoc,
    List.singleton_append, tokens, if_neg (by decide), if_pos rfl]
  split
  · rename_i hnone
    rw [hunits] at hnone
    cases hnone
  · rename_i hsome
    rw [hunits] at hsome
    cases hsome
    rw [joined_utf16Units, String.ofList_toList]

/-- Nothing here goes on with a number or a name. -/
def Ends (rest : List Char) : Prop := ∀ c ∈ rest.head?, isNumberChar c = false ∧ c.isAlpha = false

theorem numberChar_apart {c : Char} (h : isNumberChar c = true) :
    isSpace c = false ∧ c ≠ '"' ∧ punctuation? c = none := by
  simp only [isNumberChar, Bool.or_eq_true, beq_iff_eq] at h
  rcases h with ((((hdigit | rfl) | rfl) | rfl) | rfl) | rfl
  · exact Text.forall_digit (p := fun c => isSpace c = false ∧ c ≠ '"' ∧ punctuation? c = none)
      (by decide) hdigit
  all_goals decide

theorem tokens_number {text : List Char} {v : Json} (hv : number? text = some v) (hne : text ≠ [])
    (h : ∀ c ∈ text, isNumberChar c = true) {rest : List Char} (hrest : Ends rest) :
    tokens (text ++ rest) = (tokens rest).map (.scalar v :: ·) := by
  obtain ⟨c, more, rfl⟩ := List.exists_cons_of_ne_nil hne
  obtain ⟨hc, hmore⟩ := List.forall_mem_cons.1 h
  have hends : ∀ d ∈ rest.head?, isNumberChar d = false := fun d hd => (hrest d hd).1
  obtain ⟨hspace, hquote, hpunctuation⟩ := numberChar_apart hc
  rw [List.cons_append, tokens, if_neg (Bool.eq_false_iff.1 hspace), if_neg hquote, hpunctuation]
  simp only [hc, if_true, Text.takeWhile_append_of_head hmore hends,
    Text.dropWhile_append_of_head hmore hends, hv]
  cases tokens rest with
  | none => rfl
  | some ts => rfl

theorem tokens_name {c : Char} {more : List Char} {v : Json} (hv : word? (c :: more) = some v)
    (hc : isSpace c = false ∧ c ≠ '"' ∧ punctuation? c = none ∧ isNumberChar c = false)
    (h : ∀ d ∈ more, d.isAlpha = true) {rest : List Char} (hrest : Ends rest) :
    tokens (c :: more ++ rest) = (tokens rest).map (.scalar v :: ·) := by
  obtain ⟨hspace, hquote, hpunctuation, hnumber⟩ := hc
  have hends : ∀ d ∈ rest.head?, d.isAlpha = false := fun d hd => (hrest d hd).2
  rw [List.cons_append, tokens, if_neg (Bool.eq_false_iff.1 hspace), if_neg hquote, hpunctuation]
  simp only [hnumber, Bool.false_eq_true, if_false, Text.takeWhile_append_of_head h hends,
    Text.dropWhile_append_of_head h hends, hv]
  cases tokens rest with
  | none => rfl
  | some ts => rfl

/-- The text is cut into these tokens, whatever comes behind it. -/
def Cuts (text : String) (ts : List Token) : Prop :=
  ∀ rest, tokens (text.toList ++ rest) = (tokens rest).map (ts ++ ·)

/-- The text is cut into these tokens where nothing goes on with its end. -/
def CutsBefore (text : String) (ts : List Token) : Prop :=
  ∀ rest, Ends rest → tokens (text.toList ++ rest) = (tokens rest).map (ts ++ ·)

variable {a b : String} {s t : List Token}

theorem map_append_append (found : Option (List Token)) :
    (found.map (t ++ ·)).map (s ++ ·) = found.map (s ++ t ++ ·) := by
  simp only [Option.map_map, Function.comp_def, List.append_assoc]

theorem Cuts.before (h : Cuts a s) : CutsBefore a s := fun rest _ => h rest

theorem Cuts.append (ha : Cuts a s) (hb : Cuts b t) : Cuts (a ++ b) (s ++ t) := by
  intro rest
  rw [String.toList_append, List.append_assoc, ha, hb, map_append_append]

theorem Cuts.append_before (ha : Cuts a s) (hb : CutsBefore b t) : CutsBefore (a ++ b) (s ++ t) := by
  intro rest hrest
  rw [String.toList_append, List.append_assoc, ha, hb rest hrest, map_append_append]

theorem CutsBefore.append (ha : CutsBefore a s) (hb : Cuts b t) (hends : ∀ rest, Ends (b.toList ++ rest)) :
    Cuts (a ++ b) (s ++ t) := by
  intro rest
  rw [String.toList_append, List.append_assoc, ha _ (hends rest), hb, map_append_append]

theorem cuts_blanks (h : ∀ c ∈ a.toList, isSpace c = true) : Cuts a [] := by
  intro rest
  have hskip : ∀ blanks : List Char, (∀ c ∈ blanks, isSpace c = true) →
      tokens (blanks ++ rest) = tokens rest := by
    intro blanks hblanks
    induction blanks with
    | nil => rfl
    | cons c more ih =>
      obtain ⟨hc, hmore⟩ := List.forall_mem_cons.1 hblanks
      rw [List.cons_append, tokens_space hc, ih hmore]
  rw [hskip _ h]
  exact Option.map_id'.symm

theorem ends_blanks (h : ∀ c ∈ a.toList, isSpace c = true) : Ends a.toList := by
  intro c hc
  rcases isSpace_cases (h c (List.mem_of_mem_head? hc)) with rfl | rfl | rfl | rfl
  all_goals decide

theorem cuts_spaces (n : Nat) : Cuts (String.ofList (List.replicate n ' ')) [] := by
  refine cuts_blanks fun c hc => ?_
  rw [String.toList_ofList] at hc
  rw [(List.mem_replicate.1 hc).2]
  rfl

theorem cuts_of_punctuation {c : Char} {t : Token} (hc : punctuation? c = some t) (ha : a.toList = [c]) :
    Cuts a [t] := by
  intro rest
  rw [ha, List.singleton_append, tokens_punctuation hc]
  rfl

theorem cutsBefore_intercalate {sep : String} {separator : Token} (hsep : Cuts sep [separator])
    (hends : ∀ rest, Ends (sep.toList ++ rest)) {entries : List String} {parts : List (List Token)}
    (h : List.Forall₂ CutsBefore entries parts) (hne : entries ≠ []) :
    CutsBefore (sep.intercalate entries) ([separator].intercalate parts) := by
  induction h with
  | nil => exact (hne rfl).elim
  | cons hentry hrest ih =>
    cases hrest with
    | nil =>
      rw [String.intercalate_singleton, List.intercalate_singleton]
      exact hentry
    | cons hnext hmore =>
      rw [String.intercalate_cons_cons, List.intercalate_cons_cons]
      exact (hentry.append hsep hends).append_before (ih (List.cons_ne_nil _ _))

theorem cuts_block {opening closing : String} {left right : Token} (hopening : Cuts opening [left])
    (hclosing : Cuts closing [right]) (depth : Nat) {entries : List String} {parts : List (List Token)}
    (h : List.Forall₂ CutsBefore entries parts) :
    Cuts (block opening closing depth entries) (left :: ([Token.comma].intercalate parts ++ [right])) := by
  unfold block
  split
  · rename_i hnil
    subst hnil
    cases h
    exact hopening.append hclosing
  · rename_i hne
    have hbreak : Cuts "\n" [] := cuts_blanks (by decide)
    have hmargin := hbreak.append (cuts_spaces (2 * (depth + 1)))
    have hcomma : Cuts "," [.comma] := cuts_of_punctuation rfl rfl
    have hsep : ∀ margin rest, Ends (("," ++ margin : String).toList ++ rest) := by
      intro margin rest
      rw [String.toList_append]
      rintro c ⟨⟩
      decide
    have hentries := cutsBefore_intercalate (hcomma.append hmargin) (hsep _) h hne
    have hend : ∀ rest, Ends ("\n".toList ++ rest) := by
      rintro rest c ⟨⟩
      decide
    have hall := (((hopening.append hmargin).append_before hentries).append hbreak hend).append
      (cuts_spaces (2 * depth)) |>.append hclosing
    simp only [List.append_nil, List.cons_append, List.nil_append] at hall
    exact hall

theorem mem_toString_isNumberChar {n : Int} : ∀ c ∈ (toString n).toList, isNumberChar c = true := by
  intro c hc
  rcases Text.mem_toString_int hc with rfl | hdigit
  · rfl
  · simp only [isNumberChar, hdigit, Bool.true_or]

theorem toString_ne_nil (n : Int) : (toString n).toList ≠ [] := by
  rw [Text.toList_toString_int]
  exact List.append_ne_nil_of_right_ne_nil _ Nat.toDigits_ne_nil

theorem cutsBefore_int (n : Int) : CutsBefore (toString n) [.scalar (.int n)] :=
  fun _ hrest => tokens_number (number?_int n) (toString_ne_nil n) mem_toString_isNumberChar hrest

theorem cutsBefore_decimal (m e : Int) : CutsBefore (decimalText m e) [.scalar (.decimal m e)] := by
  intro rest hrest
  refine tokens_number (number?_decimal m e) ?_ ?_ hrest
  · unfold decimalText
    rw [String.toList_append, String.toList_append]
    exact List.append_ne_nil_of_left_ne_nil (List.append_ne_nil_of_left_ne_nil (toString_ne_nil m) _) _
  · unfold decimalText
    rw [String.toList_append, String.toList_append, List.forall_mem_append, List.forall_mem_append]
    exact ⟨⟨mem_toString_isNumberChar, by decide⟩, mem_toString_isNumberChar⟩

theorem cuts_quote (s : String) : Cuts (quote s) [.string s] := tokens_quote s

mutual

theorem cutsBefore_indented (depth : Nat) : ∀ j : Json, CutsBefore (indented depth j) (tokensOf j)
  | .null => by
    unfold indented tokensOf
    exact fun _ => tokens_name rfl (by decide) (by decide)
  | .bool b => by
    unfold indented tokensOf
    cases b with
    | true => exact fun _ => tokens_name rfl (by decide) (by decide)
    | false => exact fun _ => tokens_name rfl (by decide) (by decide)
  | .int n => by
    unfold indented tokensOf
    exact cutsBefore_int n
  | .decimal m e => by
    unfold indented tokensOf
    exact cutsBefore_decimal m e
  | .string s => by
    unfold indented tokensOf
    exact (cuts_quote s).before
  | .array items => by
    unfold indented tokensOf
    exact (cuts_block (cuts_of_punctuation rfl rfl) (cuts_of_punctuation rfl rfl) depth
      (cutsBefore_items (depth + 1) items)).before
  | .object members => by
    unfold indented tokensOf
    exact (cuts_block (cuts_of_punctuation rfl rfl) (cuts_of_punctuation rfl rfl) depth
      (cutsBefore_members (depth + 1) members)).before

theorem cutsBefore_items (depth : Nat) :
    ∀ items : List Json, List.Forall₂ CutsBefore (indentedItems depth items) (itemTokens items)
  | [] => by
    unfold indentedItems itemTokens
    exact .nil
  | item :: rest => by
    unfold indentedItems itemTokens
    exact .cons (cutsBefore_indented depth item) (cutsBefore_items depth rest)

theorem cutsBefore_members (depth : Nat) : ∀ members : List (String × Json),
    List.Forall₂ CutsBefore (indentedMembers depth members) (memberTokens members)
  | [] => by
    unfold indentedMembers memberTokens
    exact .nil
  | (key, value) :: rest => by
    unfold indentedMembers memberTokens
    have hcolon : Cuts (":" ++ " ") [.colon] :=
      (cuts_of_punctuation rfl rfl).append (cuts_blanks (by decide))
    exact .cons (((cuts_quote key).append hcolon).append_before (cutsBefore_indented depth value))
      (cutsBefore_members depth rest)

end

theorem intercalate_cons {α : Type} (c : α) (first : List α) (rest : List (List α)) :
    [c].intercalate (first :: rest) = first ++ rest.flatMap (c :: ·) := by
  induction rest generalizing first with
  | nil => rw [List.intercalate_singleton, List.flatMap_nil, List.append_nil]
  | cons next more ih =>
    rw [List.intercalate_cons_cons, ih, List.flatMap_cons, List.append_assoc, List.singleton_append,
      List.cons_append]

theorem tokensOf_eq_cons (j : Json) : ∃ t ts, tokensOf j = t :: ts ∧ t ≠ .closeBracket := by
  cases j
  all_goals
    unfold tokensOf
    exact ⟨_, _, rfl, nofun⟩

mutual

/-- Reading the tokens of a value inside open frames finishes the value, and goes on with the frames. -/
theorem build_tokensOf (frames : List Frame) (ts : List Token) :
    ∀ j : Json, build frames none (tokensOf j ++ ts) = build frames (some j) ts
  | .null => by rw [tokensOf, List.singleton_append, build]
  | .bool b => by rw [tokensOf, List.singleton_append, build]
  | .int n => by rw [tokensOf, List.singleton_append, build]
  | .decimal m e => by rw [tokensOf, List.singleton_append, build]
  | .string s => by rw [tokensOf, List.singleton_append, build]
  | .array [] => by
    rw [tokensOf, itemTokens, List.intercalate_nil, List.nil_append, List.cons_append,
      List.singleton_append, build]
  | .array (item :: rest) => by
    obtain ⟨t, more, hitem, hbracket⟩ := tokensOf_eq_cons item
    rw [tokensOf, itemTokens, intercalate_cons, List.cons_append, List.append_assoc, List.append_assoc,
      List.singleton_append, build, build_tokensOf, build_items, List.reverse_nil, List.nil_append]
    rw [hitem]
    exact fun _ h => hbracket (List.cons.inj h).1
  | .object [] => by
    rw [tokensOf, memberTokens, List.intercalate_nil, List.nil_append, List.cons_append,
      List.singleton_append, build]
  | .object ((key, value) :: rest) => by
    rw [tokensOf, memberTokens, intercalate_cons, List.cons_append, List.append_assoc, List.append_assoc,
      List.singleton_append, List.cons_append, List.cons_append, build, build_tokensOf, build_members,
      List.reverse_nil, List.nil_append]

theorem build_items (frames : List Frame) (ts : List Token) :
      ∀ (rest : List Json) (done : List Json) (item : Json),
    build (.items done :: frames) (some item)
      ((itemTokens rest).flatMap (.comma :: ·) ++ .closeBracket :: ts) =
      build frames (some (.array (done.reverse ++ item :: rest))) ts
  | [], done, item => by
    rw [itemTokens, List.flatMap_nil, List.nil_append, build, List.reverse_cons]
  | next :: rest, done, item => by
    rw [itemTokens, List.flatMap_cons, List.append_assoc, List.cons_append, build,
      build_tokensOf, build_items, List.reverse_cons, List.append_assoc, List.singleton_append]

theorem build_members (frames : List Frame) (ts : List Token) :
    ∀ (rest : List (String × Json)) (done : List (String × Json)) (key : String) (value : Json),
    build (.members done key :: frames) (some value)
      ((memberTokens rest).flatMap (.comma :: ·) ++ .closeBrace :: ts) =
        build frames (some (.object (done.reverse ++ (key, value) :: rest))) ts
  | [], done, key, value => by
    rw [memberTokens, List.flatMap_nil, List.nil_append, build, List.reverse_cons]
  | (nextKey, next) :: rest, done, key, value => by
    rw [memberTokens, List.flatMap_cons, List.append_assoc, List.cons_append, List.cons_append,
      List.cons_append,
      build, build_tokensOf, build_members, List.reverse_cons, List.append_assoc, List.singleton_append]

end

theorem ofString?_indented (depth : Nat) (j : Json) {blanks : String}
    (h : ∀ c ∈ blanks.toList, isSpace c = true) :
    ofString? (indented depth j ++ blanks) = some j := by
  have hblanks : tokens blanks.toList = some [] := by
    have hskip := cuts_blanks h []
    rwa [List.append_nil, tokens] at hskip
  have hbuild := build_tokensOf [] [] j
  unfold ofString?
  rw [String.toList_append, cutsBefore_indented depth j _ (ends_blanks h), hblanks, Option.map_some,
    Option.bind_some, hbuild, build]

end SchemaBindings.Json

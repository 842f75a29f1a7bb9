import SchemaBindings.Proofs.Script.Zones

/-!
A script cut into lexemes, one behind the other: a literal with its quotes, a comment with its marks, and
every other character on its own. What a lexeme is depends on the text from its start on and on nothing
before it, so the cuts say of each character which zone it is in, whichever scan asks for it.
-/

namespace SchemaBindings.Script

set_option autoImplicit false

/-- How many characters behind a quote still belong to the literal that it opens. -/
def literalLength : List Char → Nat
  | [] => 0
  | '\'' :: '\'' :: rest => 2 + literalLength rest
  | '\'' :: _ => 1
  | _ :: rest => 1 + literalLength rest

/-- The text starts with a lexeme of the zone and the length. -/
inductive Lexeme : List Char → Zone → Nat → Prop
  | code {c : Char} {rest : List Char} (hquote : c ≠ '\'') (hcomment : commentLength? (c :: rest) = none) :
      Lexeme (c :: rest) .code 1
  | literal (rest : List Char) : Lexeme ('\'' :: rest) .literal (1 + literalLength rest)
  | comment {text : List Char} {n : Nat} (h : commentLength? text = some n) : Lexeme text .comment n

/-- The place is one that the text is cut at. -/
inductive Boundary (text : List Char) : Nat → Prop
  | start : Boundary text 0
  | next {k n : Nat} {z : Zone} (h : Boundary text k) (hlexeme : Lexeme (text.drop k) z n) :
    Boundary text (k + n)

/-- The place lies in a lexeme of the zone. -/
def InZone (text : List Char) (z : Zone) (i : Nat) : Prop :=
  ∃ k n, Boundary text k ∧ Lexeme (text.drop k) z n ∧ k ≤ i ∧ i < k + n

theorem zonesFrom_literal (rest : List Char) : zonesFrom .literal rest =
    List.replicate (literalLength rest) .literal ++ zones (rest.drop (literalLength rest)) := by
  induction rest using literalLength.induct with
  | case1 => rfl
  | case2 rest ih =>
    rw [literalLength, Nat.add_comm]
    change .literal :: .literal :: zonesFrom .literal rest = _
    rw [ih]
    rfl
  | case3 rest hdoubled =>
    have hnext : rest.head? ≠ some '\'' := by
      intro h
      obtain ⟨more, hmore⟩ := List.head?_eq_some_iff.1 h
      exact hdoubled more hmore
    rw [zonesFrom, Mode.step_literal_quote hnext, literalLength]
    · rfl
    · exact hdoubled
  | case4 c rest hdoubled hquote ih =>
    have hc : c ≠ '\'' := fun h => hquote h
    rw [zonesFrom, Mode.step_literal_of_ne hc, ih, literalLength, Nat.add_comm]
    · rfl
    · exact hdoubled
    · exact hquote

theorem zonesFrom_lineRest (rest : List Char) : zonesFrom .lineComment rest =
    List.replicate (rest.takeWhile (· ≠ '\n')).length .comment ++
      zones (rest.drop (rest.takeWhile (· ≠ '\n')).length) := by
  induction rest with
  | nil => rfl
  | cons c rest ih =>
    by_cases hc : c = '\n'
    · subst hc
      rfl
    · rw [zonesFrom, Mode.step_lineComment_of_ne hc, List.takeWhile_cons_of_pos (by simpa using hc), ih]
      rfl

theorem Mode.step_blockComment_of_ne {c : Char} {next : Option Char} (h : c = '*' → next ≠ some '/') :
    Mode.blockComment.step c next = (.comment, .blockComment) := by
  unfold Mode.step
  split <;> simp_all

theorem zonesFrom_blockRest (rest : List Char) : zonesFrom .blockComment rest =
    List.replicate (commentLength?.blockLength rest) .comment ++
      zones (rest.drop (commentLength?.blockLength rest)) := by
  induction rest using commentLength?.blockLength.induct with
  | case1 => rfl
  | case2 rest => rfl
  | case3 c rest hclose ih =>
    have hnext : c = '*' → rest.head? ≠ some '/' := by
      intro hc h
      obtain ⟨more, hmore⟩ := List.head?_eq_some_iff.1 h
      exact hclose more hc hmore
    rw [zonesFrom, Mode.step_blockComment_of_ne hnext, ih, commentLength?.blockLength, Nat.add_comm]
    · rfl
    · exact hclose

theorem commentLength?_eq_some {text : List Char} {n : Nat} (h : commentLength? text = some n) :
    (∃ rest, text = '-' :: '-' :: rest ∧ n = 2 + (rest.takeWhile (· ≠ '\n')).length) ∨
      ∃ rest, text = '/' :: '*' :: rest ∧ n = 2 + commentLength?.blockLength rest := by
  unfold commentLength? at h
  split at h
  · exact .inl ⟨_, rfl, (Option.some.inj h).symm⟩
  · exact .inr ⟨_, rfl, (Option.some.inj h).symm⟩
  · cases h

theorem head_ne_of_commentLength?_eq_none {c : Char} {rest : List Char}
    (h : commentLength? (c :: rest) = none) :
    (c = '-' → rest.head? ≠ some '-') ∧ (c = '/' → rest.head? ≠ some '*') := by
  constructor
  · rintro rfl hnext
    obtain ⟨more, rfl⟩ := List.head?_eq_some_iff.1 hnext
    cases h
  · rintro rfl hnext
    obtain ⟨more, rfl⟩ := List.head?_eq_some_iff.1 hnext
    cases h

/-- A lexeme is of one zone, and behind it the text is read as if it started there. -/
theorem zones_of_lexeme {text : List Char} {z : Zone} {n : Nat} (h : Lexeme text z n) :
    zones text = List.replicate n z ++ zones (text.drop n) := by
  cases h with
  | @code c rest hquote hcomment =>
    obtain ⟨hline, hblock⟩ := head_ne_of_commentLength?_eq_none hcomment
    rw [zones, zonesFrom, Mode.step_code_of_ne hquote hline hblock]
    rfl
  | literal rest =>
    rw [Nat.add_comm]
    exact congrArg (Zone.literal :: ·) (zonesFrom_literal rest)
  | comment hcomment =>
    rcases commentLength?_eq_some hcomment with ⟨rest, rfl, rfl⟩ | ⟨rest, rfl, rfl⟩
    · rw [Nat.add_comm]
      exact congrArg (Zone.comment :: Zone.comment :: ·) (zonesFrom_lineRest rest)
    · rw [Nat.add_comm]
      exact congrArg (Zone.comment :: Zone.comment :: ·) (zonesFrom_blockRest rest)

theorem Lexeme.length_pos {text : List Char} {z : Zone} {n : Nat} (h : Lexeme text z n) : 0 < n := by
  cases h with
  | code => exact Nat.one_pos
  | literal rest => omega
  | comment hcomment =>
    rcases commentLength?_eq_some hcomment with ⟨_, _, rfl⟩ | ⟨_, _, rfl⟩ <;> omega

theorem Lexeme.length_of_code {text : List Char} {n : Nat} (h : Lexeme text .code n) : n = 1 := by
  cases h with
  | code => rfl

theorem exists_lexeme {text : List Char} (hne : text ≠ []) : ∃ z n, Lexeme text z n := by
  obtain ⟨c, rest, rfl⟩ := List.exists_cons_of_ne_nil hne
  cases hcomment : commentLength? (c :: rest) with
  | some n => exact ⟨_, _, .comment hcomment⟩
  | none =>
    by_cases hquote : c = '\''
    · subst hquote
      exact ⟨_, _, .literal rest⟩
    · exact ⟨_, _, .code hquote hcomment⟩

section
variable {text : List Char} {z : Zone} {i k : Nat}

theorem Boundary.drop_zones (h : Boundary text k) : (zones text).drop k = zones (text.drop k) := by
  induction h with
  | start => rfl
  | @next k n z _ hlexeme ih =>
    rw [← List.drop_drop, ih, zones_of_lexeme hlexeme, List.drop_left' List.length_replicate,
      List.drop_drop]

theorem InZone.zone (h : InZone text z i) : (zones text)[i]? = some z := by
  obtain ⟨k, n, hcut, hlexeme, hk, hi⟩ := h
  obtain ⟨j, rfl⟩ := Nat.exists_eq_add_of_le hk
  rw [← List.getElem?_drop, hcut.drop_zones, zones_of_lexeme hlexeme,
    List.getElem?_append_left (by rw [List.length_replicate]; omega), List.getElem?_replicate,
      if_pos (by omega)]

/-- From each cut on lexemes follow up to every later place. -/
theorem Boundary.exists_inZone (h : Boundary text k) (hk : k ≤ i) (hi : i < text.length) :
      ∃ z, InZone text z i := by
  induction hrest : i - k using Nat.strongRecOn generalizing k with
  | _ rest ih =>
    have hne : text.drop k ≠ [] := by
      rw [ne_eq, List.drop_eq_nil_iff]
      omega
    obtain ⟨z, n, hlexeme⟩ := exists_lexeme hne
    have hn := hlexeme.length_pos
    by_cases hin : i < k + n
    · exact ⟨z, k, n, h, hlexeme, hk, hin⟩
    · exact ih (i - (k + n)) (by omega) (.next h hlexeme) (by omega) rfl

theorem zone_iff : (zones text)[i]? = some z ↔ InZone text z i := by
  constructor
  · intro h
    have hi : i < text.length := by
      rw [← length_zones text]
      exact (List.getElem?_eq_some_iff.1 h).1
    obtain ⟨z', hz⟩ := Boundary.start.exists_inZone (Nat.zero_le i) hi
    obtain rfl : z = z' := Option.some.inj (h.symm.trans hz.zone)
    exact hz
  · exact InZone.zone

/-- The text is cut on both sides of a character of code. -/
theorem InZone.lexeme_of_code (h : InZone text .code i) :
    Boundary text i ∧ Lexeme (text.drop i) .code 1 := by
  obtain ⟨k, n, hcut, hlexeme, hk, hi⟩ := h
  obtain rfl := hlexeme.length_of_code
  obtain rfl : k = i := by omega
  exact ⟨hcut, hlexeme⟩

theorem commentLength?_of_code (h : (zones text)[i]? = some .code) : commentLength? (text.drop i) = none := by
  obtain ⟨k, n, _, hlexeme, hk, hi⟩ := zone_iff.1 h
  generalize hrest : text.drop k = rest at hlexeme
  cases hlexeme with
  | code hquote hcomment =>
    obtain rfl : i = k := by omega
    rw [hrest]
    exact hcomment

end

theorem spansFrom_replicate_of_ne {z : Zone} (hz : z ≠ .literal) (offset n : Nat) (zs : List Zone) :
    spansFrom offset none (List.replicate n z ++ zs) = spansFrom (offset + n) none zs := by
  induction n generalizing offset with
  | zero => rfl
  | succ n ih =>
    have hskip : ∀ rest, spansFrom offset none (z :: rest) = spansFrom (offset + 1) none rest := by
      intro rest
      cases z with
      | code => rfl
      | literal => exact (hz rfl).elim
      | comment => rfl
    rw [List.replicate_succ, List.cons_append, hskip, ih, Nat.add_assoc, Nat.add_comm 1]

theorem spansFrom_replicate_literal (a offset n : Nat) (zs : List Zone) :
    spansFrom offset (some a) (List.replicate n .literal ++ zs) = spansFrom (offset + n) (some a) zs := by
  induction n generalizing offset with
  | zero => rfl
  | succ n ih =>
    rw [List.replicate_succ, List.cons_append]
    change spansFrom (offset + 1) (some a) _ = _
    rw [ih, Nat.add_assoc, Nat.add_comm 1]

theorem spansFrom_some {zs : List Zone} (h : zs.head? ≠ some .literal) (a offset : Nat) :
    spansFrom offset (some a) zs = (a, offset) :: spansFrom offset none zs := by
  cases zs with
  | nil => rfl
  | cons z rest =>
    cases z with
    | code => rfl
    | literal => exact (h rfl).elim
    | comment => rfl

theorem head?_drop_literalLength (rest : List Char) :
    (rest.drop (literalLength rest)).head? ≠ some '\'' := by
  induction rest using literalLength.induct with
  | case1 => simp
  | case2 rest ih =>
    rw [literalLength, Nat.add_comm]
    exact ih
  | case3 rest hdoubled =>
    rw [literalLength]
    · intro h
      obtain ⟨more, hmore⟩ := List.head?_eq_some_iff.1 h
      exact hdoubled more hmore
    · exact hdoubled
  | case4 c rest hdoubled hquote ih =>
    rw [literalLength, Nat.add_comm]
    · exact ih
    · exact hdoubled
    · exact hquote

theorem head?_of_head?_zones {text : List Char} (h : (zones text).head? = some .literal) :
    text.head? = some '\'' := by
  cases text with
  | nil => cases h
  | cons c rest =>
    by_cases hquote : c = '\''
    · rw [hquote]
      rfl
    · have hstep : (Mode.code.step c rest.head?).1 ≠ .literal := by
        unfold Mode.step
        split <;> simp_all
      exact (hstep (Option.some.inj h)).elim

theorem spansFrom_zones_of_ne {text : List Char} {z : Zone} {n : Nat} (h : Lexeme text z n)
    (hz : z ≠ .literal)
    (offset : Nat) :
    spansFrom offset none (zones text) = spansFrom (offset + n) none (zones (text.drop n)) := by
  rw [zones_of_lexeme h, spansFrom_replicate_of_ne hz]

theorem spansFrom_zones_of_literal {text : List Char} {n : Nat} (h : Lexeme text .literal n) (offset : Nat) :
    spansFrom offset none (zones text) =
      (offset, offset + n) :: spansFrom (offset + n) none (zones (text.drop n)) := by
  rw [zones_of_lexeme h]
  cases h with
  | literal rest =>
    have hhead : (zones (rest.drop (literalLength rest))).head? ≠ some .literal := fun hliteral =>
      head?_drop_literalLength rest (head?_of_head?_zones hliteral)
    rw [Nat.add_comm 1, List.replicate_succ, List.cons_append, List.drop_succ_cons]
    change spansFrom (offset + 1) (some offset) _ = _
    rw [spansFrom_replicate_literal, spansFrom_some hhead, Nat.add_assoc, Nat.add_comm 1]

section
variable {text : List Char} {a b k : Nat}

theorem Boundary.spans_suffix (h : Boundary text k) :
    spansFrom k none (zones (text.drop k)) <:+ quotedSpans text := by
  induction h with
  | start => exact List.suffix_rfl
  | @next k n z _ hlexeme ih =>
    refine List.IsSuffix.trans ?_ ih
    rw [← List.drop_drop]
    by_cases hz : z = .literal
    · subst hz
      exact ⟨[(k, k + n)], (spansFrom_zones_of_literal hlexeme k).symm⟩
    · exact ⟨[], (spansFrom_zones_of_ne hlexeme hz k).symm⟩

theorem Boundary.exists_literal (h : Boundary text k)
    (hspan : (a, b) ∈ spansFrom k none (zones (text.drop k))) :
    ∃ n, Boundary text a ∧ Lexeme (text.drop a) .literal n ∧ b = a + n := by
  induction hrest : text.length - k using Nat.strongRecOn generalizing k with
  | _ rest ih =>
    by_cases hne : text.drop k = []
    · rw [hne] at hspan
      cases hspan
    · obtain ⟨z, n, hlexeme⟩ := exists_lexeme hne
      have hn := hlexeme.length_pos
      have hlt : k < text.length := by
        rw [List.drop_eq_nil_iff] at hne
        omega
      have hmore : (a, b) ∈ spansFrom (k + n) none (zones (text.drop (k + n))) →
          ∃ n, Boundary text a ∧ Lexeme (text.drop a) .literal n ∧ b = a + n := fun hmem =>
        ih (text.length - (k + n)) (by omega) (.next h hlexeme) hmem rfl
      rw [← List.drop_drop] at hmore
      by_cases hz : z = .literal
      · subst hz
        rw [spansFrom_zones_of_literal hlexeme] at hspan
        rcases List.mem_cons.1 hspan with heq | hmem
        · obtain ⟨rfl, rfl⟩ := Prod.mk.inj heq
          exact ⟨n, h, hlexeme, rfl⟩
        · exact hmore hmem
      · rw [spansFrom_zones_of_ne hlexeme hz] at hspan
        exact hmore hspan

/-- The quoted spans are the literals that the text is cut into. -/
theorem mem_quotedSpans_iff : (a, b) ∈ quotedSpans text ↔
    ∃ n, Boundary text a ∧ Lexeme (text.drop a) .literal n ∧ b = a + n := by
  constructor
  · exact Boundary.start.exists_literal
  · rintro ⟨n, hcut, hlexeme, rfl⟩
    have hspans := hcut.spans_suffix
    rw [spansFrom_zones_of_literal hlexeme] at hspans
    exact hspans.mem List.mem_cons_self

end

def InSpan (text : List Char) (i : Nat) : Prop := ∃ a b, (a, b) ∈ quotedSpans text ∧ a ≤ i ∧ i < b

/-- What a text without its comments has of the text: the same offsets, lines and literals, and blanks
where the comments were. -/
structure IsMask (text masked : List Char) : Prop where
  length : masked.length = text.length
  blanked : ∀ (i : Nat) c, text[i]? = some c → InZone text .comment i → c ≠ '\r' → c ≠ '\n' →
    masked[i]? = some ' '
  breaks : ∀ (i : Nat) c, text[i]? = some c → c = '\r' ∨ c = '\n' → masked[i]? = some c
  outside : ∀ i : Nat, ¬ InZone text .comment i → masked[i]? = text[i]?
  quoted : ∀ i : Nat, InSpan text i → masked[i]? = text[i]?
  spans : quotedSpans masked = quotedSpans text
  clear : ∀ i : Nat, ¬ InSpan masked i → commentLength? (masked.drop i) = none
  again : mask masked = masked

section
variable {text : List Char} {i : Nat}

theorem inSpan_iff : InSpan text i ↔ (zones text)[i]? = some .literal := by
  rw [zone_iff]
  constructor
  · rintro ⟨a, b, hspan, ha, hb⟩
    obtain ⟨n, hcut, hlexeme, rfl⟩ := mem_quotedSpans_iff.1 hspan
    exact ⟨a, n, hcut, hlexeme, ha, hb⟩
  · rintro ⟨a, n, hcut, hlexeme, ha, hb⟩
    exact ⟨a, a + n, mem_quotedSpans_iff.2 ⟨n, hcut, hlexeme, rfl⟩, ha, hb⟩

theorem getElem?_mask {c : Char} {z : Zone} (hc : text[i]? = some c) (hz : (zones text)[i]? = some z) :
    (mask text)[i]? = some (blank c z) :=
  List.getElem?_zipWith_eq_some.2 ⟨c, z, hc, hz, rfl⟩

theorem getElem?_mask_of_ne (h : (zones text)[i]? ≠ some .comment) : (mask text)[i]? = text[i]? := by
  cases hc : text[i]? with
  | none =>
    rw [List.getElem?_eq_none_iff] at hc ⊢
    rwa [length_mask]
  | some c =>
    have hi : i < (zones text).length := by
      rw [length_zones]
      exact (List.getElem?_eq_some_iff.1 hc).1
    have hz := List.getElem?_eq_getElem hi
    rw [hz] at h
    rw [getElem?_mask hc hz, blank, if_neg fun hboth => h (congrArg some hboth.1)]

theorem spansFrom_cleared (offset : Nat) (start : Option Nat) (zs : List Zone) :
    spansFrom offset start (zs.map Zone.cleared) = spansFrom offset start zs := by
  induction zs generalizing offset start with
  | nil => rfl
  | cons z rest ih => cases z <;> simp only [List.map_cons, Zone.cleared, spansFrom, ih]

theorem quotedSpans_mask (text : List Char) : quotedSpans (mask text) = quotedSpans text := by
  rw [quotedSpans, zones_mask, spansFrom_cleared]
  rfl

theorem zone_mask_ne_comment : (zones (mask text))[i]? ≠ some .comment := by
  rw [zones_mask, List.getElem?_map]
  cases (zones text)[i]? with
  | none => rintro ⟨⟩
  | some z => cases z <;> decide

end

/-- Masking changes the comments of a text and nothing else. The quoted spans that it keeps are the literals
that the text is cut into. -/
theorem isMask_mask (text : List Char) : IsMask text (mask text) ∧
    ∀ a b, (a, b) ∈ quotedSpans text ↔ ∃ n, Boundary text a ∧ Lexeme (text.drop a) .literal n ∧
        b = a + n := by
  refine ⟨?_, fun _ _ => mem_quotedSpans_iff⟩
  constructor
  · exact length_mask text
  · intro i c hc hcomment hr hn
    rw [getElem?_mask hc hcomment.zone, blank, if_pos ⟨rfl, hr, hn⟩]
  · intro i c hc hbreak
    by_cases hcomment : InZone text .comment i
    · rw [getElem?_mask hc hcomment.zone, blank, if_neg]
      rintro ⟨_, hr, hn⟩
      exact hbreak.elim hr hn
    · rw [getElem?_mask_of_ne fun h => hcomment (zone_iff.1 h), hc]
  · exact fun i hcomment => getElem?_mask_of_ne fun h => hcomment (zone_iff.1 h)
  · intro i hspan
    refine getElem?_mask_of_ne fun h => ?_
    cases (inSpan_iff.1 hspan).symm.trans h
  · exact quotedSpans_mask text
  · intro i hspan
    cases hz : (zones (mask text))[i]? with
    | none =>
      rw [List.getElem?_eq_none_iff, length_zones] at hz
      rw [List.drop_eq_nil_of_le hz]
      rfl
    | some z =>
      cases z with
      | code => exact commentLength?_of_code hz
      | literal => exact (hspan (inSpan_iff.2 hz)).elim
      | comment => exact (zone_mask_ne_comment hz).elim
  · exact mask_mask text

example : mask "a--it's\n/*'*/'b''--'/*".toList = "a      \n     'b''--'  ".toList := by decide

end SchemaBindings.Script

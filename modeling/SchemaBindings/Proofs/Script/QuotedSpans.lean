import SchemaBindings.Proofs.Script.Lexemes

/-!
The shape of the quoted spans of a text. They stand one behind the other with something between them,
each is a quote, a text in which every quote is doubled, and the quote that closes it, and only the last
may lack this one, at the end of the text. A quote that is in none of them stands in a comment.
-/

namespace SchemaBindings.Script

set_option autoImplicit false

section
variable {offset : Nat} {start : Option Nat} {zs : List Zone} {s : Nat × Nat}

theorem spansFrom_cons_of_ne {z : Zone} (hz : z ≠ .literal) (offset : Nat) (start : Option Nat)
    (rest : List Zone) :
    spansFrom offset start (z :: rest) = (start.map (·, offset)).toList ++ spansFrom
      (offset + 1) none rest := by
  cases z with
  | code => rfl
  | literal => exact (hz rfl).elim
  | comment => rfl

theorem mem_toList_map_pair :
    s ∈ (start.map (·, offset)).toList ↔ start = some s.1 ∧ s.2 = offset := by
  cases start with
  | none => simp
  | some a => simp [Prod.ext_iff, eq_comm]

/-- A span begins where the open one began, or behind the offset. It holds something and ends within the
text. -/
theorem spansFrom_bounds (hstart : ∀ a ∈ start, a < offset) (hs : s ∈ spansFrom offset start zs) :
    start.getD offset ≤ s.1 ∧ s.1 < s.2 ∧ s.2 ≤ offset + zs.length := by
  induction zs generalizing offset start with
  | nil =>
    obtain ⟨rfl, rfl⟩ := mem_toList_map_pair.1 hs
    exact ⟨Nat.le_refl _, hstart _ rfl, Nat.le_refl _⟩
  | cons z rest ih =>
    have hlow : start.getD offset ≤ offset := by
      cases start with
      | none => exact Nat.le_refl offset
      | some a => exact Nat.le_of_lt (hstart a rfl)
    rw [List.length_cons]
    by_cases hz : z = .literal
    · subst hz
      have hgoOn : s ∈ spansFrom (offset + 1) (some (start.getD offset)) rest := hs
      obtain ⟨hfrom, hlt, hle⟩ := ih (by rintro _ ⟨⟩; omega) hgoOn
      exact ⟨hfrom, hlt, by omega⟩
    · rw [spansFrom_cons_of_ne hz, List.mem_append] at hs
      rcases hs with hs | hs
      · obtain ⟨rfl, rfl⟩ := mem_toList_map_pair.1 hs
        exact ⟨Nat.le_refl _, hstart _ rfl, by omega⟩
      · obtain ⟨hfrom, hlt, hle⟩ := ih (by simp) hs
        rw [Option.getD_none] at hfrom
        exact ⟨by omega, hlt, by omega⟩

/-- Behind the end of a span comes a character that is in no literal. -/
theorem pairwise_spansFrom (offset : Nat) (start : Option Nat) (zs : List Zone) :
    (spansFrom offset start zs).Pairwise fun s t => s.2 < t.1 := by
  induction zs generalizing offset start with
  | nil => cases start <;> simp [spansFrom]
  | cons z rest ih =>
    by_cases hz : z = .literal
    · subst hz
      exact ih (offset + 1) (some (start.getD offset))
    · rw [spansFrom_cons_of_ne hz, List.pairwise_append]
      refine ⟨by cases start <;> simp, ih (offset + 1) none, fun s hs t ht => ?_⟩
      rw [(mem_toList_map_pair.1 hs).2]
      exact (spansFrom_bounds (by simp) ht).1

end

/-- What may stand between the quotes of a literal: every quote in it is doubled. -/
inductive QuotedText : List Char → Prop
  | nil : QuotedText []
  | plain {c : Char} {rest : List Char} (hquote : c ≠ '\'') (h : QuotedText rest) : QuotedText (c :: rest)
  | doubled {rest : List Char} (h : QuotedText rest) : QuotedText ('\'' :: '\'' :: rest)

def ClosedLiteral (text : List Char) : Prop := ∃ body, QuotedText body ∧ text = '\'' :: (body ++ ['\''])

def OpenLiteral (text : List Char) : Prop := ∃ body, QuotedText body ∧ text = '\'' :: body

/-- What is left of a literal behind its first quote is closed, or it is all that is left of the text. -/
theorem take_literalLength (rest : List Char) :
    (∃ body, QuotedText body ∧ rest.take (literalLength rest) = body ++ ['\'']) ∨
      QuotedText rest ∧ literalLength rest = rest.length := by
  induction rest using literalLength.induct with
  | case1 => exact .inr ⟨.nil, rfl⟩
  | case2 rest ih =>
    rw [literalLength, Nat.add_comm]
    rcases ih with ⟨body, hbody, htake⟩ | ⟨hbody, hlength⟩
    · exact .inl ⟨_, .doubled hbody, congrArg (fun l => '\'' :: '\'' :: l) htake⟩
    · exact .inr ⟨.doubled hbody, by rw [hlength]; rfl⟩
  | case3 rest hdoubled =>
    rw [literalLength]
    · exact .inl ⟨[], .nil, rfl⟩
    · exact hdoubled
  | case4 c rest hdoubled hquote ih =>
    have hc : c ≠ '\'' := fun h => hquote h
    rw [literalLength, Nat.add_comm]
    · rcases ih with ⟨body, hbody, htake⟩ | ⟨hbody, hlength⟩
      · exact .inl ⟨_, .plain hc hbody, congrArg (c :: ·) htake⟩
      · exact .inr ⟨.plain hc hbody, by rw [hlength]; rfl⟩
    · exact hdoubled
    · exact hquote

section
variable {text : List Char} {a b : Nat}

theorem mem_quotedSpans_bounds (h : (a, b) ∈ quotedSpans text) : a < b ∧ b ≤ text.length := by
  have hbounds := (spansFrom_bounds (by simp) h).2
  rwa [Nat.zero_add, length_zones] at hbounds

theorem literal_of_mem_quotedSpans (h : (a, b) ∈ quotedSpans text) :
    ClosedLiteral (text.extract a b) ∨ b = text.length ∧ OpenLiteral (text.extract a b) := by
  obtain ⟨n, -, hlexeme, rfl⟩ := mem_quotedSpans_iff.1 h
  rw [List.extract_eq_take_drop, Nat.add_sub_cancel_left]
  have hlength : (text.drop a).length = text.length - a := List.length_drop
  generalize text.drop a = behind at hlexeme hlength
  cases hlexeme with
  | literal rest =>
    rw [Nat.add_comm 1, List.take_succ_cons]
    rcases take_literalLength rest with ⟨body, hbody, htake⟩ | ⟨hbody, hall⟩
    · exact .inl ⟨body, hbody, congrArg _ htake⟩
    · rw [List.length_cons] at hlength
      exact .inr ⟨by omega, rest, hbody, by rw [hall, List.take_length]⟩

/-- Behind a span that is not the last there is more text. -/
theorem lt_length_of_mem_dropLast (h : (a, b) ∈ (quotedSpans text).dropLast) : b < text.length := by
  have hne : quotedSpans text ≠ [] := List.ne_nil_of_mem (List.dropLast_subset _ h)
  have hapart : (quotedSpans text).Pairwise fun s t => s.2 < t.1 := pairwise_spansFrom 0 none (zones text)
  rw [← List.dropLast_concat_getLast hne, List.pairwise_append] at hapart
  have hgap := hapart.2.2 _ h _ List.mem_cons_self
  obtain ⟨hlt, hle⟩ := mem_quotedSpans_bounds (List.getLast_mem hne)
  omega

end

/-- Spans that go over the literals of a text, one for each. -/
structure TilesLiterals (text : List Char) (spans : List (Nat × Nat)) : Prop where
  bounds : ∀ a b, (a, b) ∈ spans → a < b ∧ b ≤ text.length
  apart : spans.Pairwise fun s t => s.2 < t.1
  closed : ∀ a b, (a, b) ∈ spans.dropLast → ClosedLiteral (text.extract a b)
  last : ∀ a b, (a, b) ∈ spans.getLast? →
    ClosedLiteral (text.extract a b) ∨ b = text.length ∧ OpenLiteral (text.extract a b)
  literals : ∀ i, InZone text .literal i ↔ ∃ a b, (a, b) ∈ spans ∧ a ≤ i ∧ i < b
  quotes : ∀ i : Nat, text[i]? = some '\'' →
    (∃ a b, (a, b) ∈ spans ∧ a ≤ i ∧ i < b) ∨
      InZone text .comment i ∧ (mask text)[i]? = some ' '

theorem ne_quote_of_code {text : List Char} {i : Nat} (h : InZone text .code i) : text[i]? ≠ some '\'' := by
  intro hquote
  have hlexeme := h.lexeme_of_code.2
  rw [List.drop_eq_getElem?_toList_append, hquote] at hlexeme
  cases hlexeme with
  | code hne => exact hne rfl

/-- The quoted spans of a text go over its literals and leave out no quote that is not in a comment. -/
theorem tilesLiterals_quotedSpans (text : List Char) : TilesLiterals text (quotedSpans text) where
  bounds := fun _ _ => mem_quotedSpans_bounds
  apart := pairwise_spansFrom 0 none (zones text)
  closed := by
    intro a b h
    rcases literal_of_mem_quotedSpans (List.dropLast_subset _ h) with hclosed | ⟨hend, _⟩
    · exact hclosed
    · exact absurd hend (Nat.ne_of_lt (lt_length_of_mem_dropLast h))
  last := fun _ _ h => literal_of_mem_quotedSpans (List.mem_of_getLast? h)
  literals := fun _ => zone_iff.symm.trans inSpan_iff.symm
  quotes := by
    intro i hquote
    obtain ⟨z, hz⟩ := Boundary.start.exists_inZone (Nat.zero_le i) (List.getElem?_eq_some_iff.1 hquote).1
    cases z with
    | code => exact absurd hquote (ne_quote_of_code hz)
    | literal => exact .inl (inSpan_iff.2 hz.zone)
    | comment =>
      refine .inr ⟨hz, ?_⟩
      rw [getElem?_mask hquote hz.zone]
      rfl

example : quotedSpans "a'b''c'--'\n'd".toList = [(1, 7), (11, 13)] := by decide

end SchemaBindings.Script

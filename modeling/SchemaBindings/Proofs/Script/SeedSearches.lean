import SchemaBindings.Proofs.Script.SearchingOutside
import SchemaBindings.Proofs.Script.SeedClauses
import SchemaBindings.Proofs.Script.TableClauses

/-!
The searches outside quotes for the clauses of a seed script. A match of `USING (VALUES` holds no second
one, so the first that stands outside quotes is always found. A list of source columns may begin in a
literal and reach over the quote that ends it, up to the next closing parenthesis; a list that stands
there is missed.
-/

namespace SchemaBindings.Script

set_option autoImplicit false

open Text (isBlank isWordChar matchesLetter)
open Reader

/-- In the stretch no word begins that may spell a word with the letter, `before` being in front of it. -/
def NoWordStart (k : Char) (before : Option Char) (w : List Char) : Prop :=
  ∀ p x q, w = p ++ x :: q → matchesLetter k x = true →
    Anchor.wordStart.allows (p.getLast?.or before) = false

theorem noWordStart_of_letters {k : Char} {w : List Char} (h : ∀ x ∈ w, matchesLetter k x = false)
    (before : Option Char) : NoWordStart k before w := by
  rintro p x q rfl hx
  cases (h x (by simp)).symm.trans hx

theorem noWordStart_word {k : Char} {w : List Char} (hw : ∀ y ∈ w, isWordChar y = true)
    (hhead : ∀ x ∈ w.head?, matchesLetter k x = false) (before : Option Char) :
    NoWordStart k before w := by
  rintro p x q rfl hx
  cases hlast : p.getLast? with
  | none =>
    rw [List.getLast?_eq_none_iff.1 hlast] at hhead
    cases (hhead x rfl).symm.trans hx
  | some l =>
    have hl : isWordChar l = true := hw l (List.mem_append_left _ (List.mem_of_getLast? hlast))
    simp [Anchor.allows, hl]

theorem NoWordStart.append {k : Char} {before : Option Char} {a b : List Char} (ha : NoWordStart k before a)
    (hb : NoWordStart k (a.getLast?.or before) b) : NoWordStart k before (a ++ b) := by
  intro p x q hsplit hx
  rcases List.append_eq_append_iff.1 hsplit with ⟨more, rfl, hmore⟩ | ⟨more, rfl, hmore⟩
  · have hallows := hb more x q hmore hx
    rwa [← Option.or_assoc, ← List.getLast?_append] at hallows
  · cases more with
    | nil =>
      rw [List.append_nil] at hb
      exact hb [] x q hmore.symm hx
    | cons y more =>
      obtain ⟨rfl, rfl⟩ := List.cons.inj hmore
      exact ha p x more rfl hx

/-- A clause that starts a word does not stand within a stretch where no word begins like it. -/
theorem Clause.at?_eq_none_of_noWordStart {α : Type} {c : Clause α} {k : Char} (hc : c.anchor = .wordStart)
    (hk : c.StartsWith k) {text stretch rest : List Char} {y : Char} {i j : Nat}
    (htext : text.drop i = y :: (stretch ++ rest)) (hstretch : NoWordStart k (some y) stretch) (hij : i < j)
    (hj : j < i + 1 + stretch.length) : c.at? text j = none := by
  obtain ⟨m, rfl⟩ := Nat.exists_eq_add_of_lt hij
  have hm : m < stretch.length := by omega
  have hsplit : stretch = stretch.take m ++ stretch[m] :: stretch.drop (m + 1) := by
    rw [← List.drop_eq_getElem_cons hm, List.take_append_drop]
  have hdrop : text.drop (i + m + 1) = stretch[m] :: (stretch.drop (m + 1) ++ rest) := by
    rw [Nat.add_assoc, ← List.drop_drop, htext, List.drop_succ_cons,
      List.drop_append_of_le_length (Nat.le_of_lt hm),
      List.drop_eq_getElem_cons hm, List.cons_append]
  have hbefore : (text.take (i + m + 1)).getLast? = (stretch.take m).getLast?.or (some y) := by
    rw [Nat.add_assoc, List.take_add, htext, List.take_succ_cons,
      List.take_append_of_le_length (Nat.le_of_lt hm), List.getLast?_append, getLast?_cons_or]
  rw [at?, Option.map_eq_none_iff, hdrop, hbefore]
  cases hletter : matchesLetter k stretch[m] with
  | false => exact here?_eq_none _ (hk _ _ hletter)
  | true => rw [here?, hc, hstretch _ _ _ hsplit hletter, if_neg (by simp)]

theorem matchesLetter_u_of_ne {k x : Char} (hk : k ≠ 'u') (h : matchesLetter k x = true) :
    matchesLetter 'u' x = false := by
  have hother : ∀ c ∈ ['ſ', '\u212a', 'İ', 'ı'], matchesLetter 'u' c = false := by decide
  by_cases hu : x.toLower = 'u'
  · simp only [matchesLetter, Bool.or_eq_true, Bool.and_eq_true, beq_iff_eq] at h
    rcases h with ((h | ⟨_, rfl⟩) | ⟨_, rfl⟩) | ⟨_, rfl | rfl⟩
    · exact (hk (h.symm.trans hu)).elim
    all_goals exact hother _ (by decide)
  · simpa [matchesLetter] using hu

theorem exists_key_of_spells {keys w : List Char} (h : spells keys w = true) :
    ∀ x ∈ w, ∃ k ∈ keys, matchesLetter k x = true := by
  induction keys, w using spells.induct with
  | case1 => simp
  | case2 k keys c letters ih =>
    rw [spells, Bool.and_eq_true] at h
    intro x hx
    rcases List.mem_cons.1 hx with rfl | hx
    · exact ⟨k, List.mem_cons_self, h.1⟩
    · obtain ⟨k', hk', hmatch⟩ := ih h.2 x hx
      exact ⟨k', List.mem_cons_of_mem k hk', hmatch⟩
  | case3 => simp [spells] at h

theorem noWordStart_keyword {keys w : List Char} (hkeys : ∀ k ∈ keys, k ≠ 'u')
    (h : spells keys w = true) (before : Option Char) : NoWordStart 'u' before w := by
  refine noWordStart_of_letters (fun x hx => ?_) before
  obtain ⟨k, hk, hmatch⟩ := exists_key_of_spells h x hx
  exact matchesLetter_u_of_ne (hkeys k hk) hmatch

theorem noWordStart_blanks {w : List Char} (hw : ∀ x ∈ w, isBlank x = true) (before : Option Char) :
    NoWordStart 'u' before w := by
  refine noWordStart_of_letters (fun x hx => eq_false_of_ne_true fun hmatch => ?_) before
  cases (isWordChar_of_isBlank (hw x hx)).symm.trans (isWordChar_of_matchesLetter (by decide) hmatch)

theorem noWordStart_values {w : List Char} (h : spells "values".toList w = true) (before : Option Char) :
    NoWordStart 'u' before w := by
  refine noWordStart_word (fun x hx => ?_) ?_ before
  · obtain ⟨k, hk, hmatch⟩ := exists_key_of_spells h x hx
    exact isWordChar_of_matchesLetter ((by decide : ∀ k ∈ "values".toList, k.isLower = true) k hk) hmatch
  · cases w with
    | nil => simp
    | cons x rest =>
      rintro _ ⟨⟩
      obtain ⟨hv, -⟩ : matchesLetter 'v' x = true ∧ spells ['a', 'l', 'u', 'e', 's'] rest = true := by
        rwa [← Bool.and_eq_true]
      exact matchesLetter_u_of_ne (by decide) hv

theorem Reader.eq_cons_of_char {c : Char} {text : List Char} {v : Unit × List Char}
    (h : char c text = some v) : text = c :: v.2 := by
  cases text with
  | nil => cases h
  | cons d rest =>
    rw [char_cons] at h
    split at h
    · rename_i hd
      cases h
      rw [hd]
    · cases h

theorem Reader.eq_of_wordEnd {text : List Char} {v : Unit × List Char} (h : wordEnd text = some v) :
    text = v.2 := by
  cases text with
  | nil =>
    cases h
    rfl
  | cons c rest =>
    rw [wordEnd_cons, Option.ite_none_left_eq_some] at h
    exact congrArg Prod.snd (Option.some.inj h.2)

/-- Behind its first letter, a match of `USING (VALUES` holds no word that begins like it. -/
theorem noWordStart_valuesStart {text rest : List Char} {n : Nat}
    (h : valuesStart.read text = some (n, rest)) :
    ∃ y stretch, text = y :: (stretch ++ rest) ∧ NoWordStart 'u' (some y) stretch := by
  simp only [valuesStart, bind_apply, get_apply, pure_apply, Option.bind_some, Option.bind_eq_some_iff] at h
  obtain ⟨⟨_, _⟩, husing, ⟨_, _⟩, hfirst, ⟨_, _⟩, hopen, ⟨_, _⟩, hsecond, h⟩ := h
  obtain ⟨⟨_, _⟩, hvalues, ⟨_, _⟩, hend, heq⟩ := h
  obtain ⟨w, rfl, hw⟩ := keyLetters_eq_some husing
  obtain ⟨b, rfl, hb⟩ := takes_blanks (fun _ hblank => hblank) _ _ _ hfirst
  obtain rfl := eq_cons_of_char hopen
  obtain ⟨b', rfl, hb'⟩ := takes_blanks (fun _ hblank => hblank) _ _ _ hsecond
  obtain ⟨w', rfl, hw'⟩ := keyLetters_eq_some hvalues
  obtain rfl := eq_of_wordEnd hend
  obtain ⟨-, rfl⟩ := Prod.mk.inj (Option.some.inj heq)
  cases w with
  | nil => cases hw
  | cons y letters =>
    obtain ⟨-, hletters⟩ : matchesLetter 'u' y = true ∧ spells ['s', 'i', 'n', 'g'] letters = true := by
      rwa [← Bool.and_eq_true]
    refine ⟨y, letters ++ (b ++ (['('] ++ (b' ++ w'))), by simp, ?_⟩
    have hparen : ∀ before, NoWordStart 'u' before ['('] := noWordStart_of_letters (by decide)
    refine (noWordStart_keyword (by decide) hletters _).append ?_
    refine (noWordStart_blanks hb _).append ((hparen _).append ?_)
    exact (noWordStart_blanks hb' _).append (noWordStart_values hw' _)

theorem at?_valuesStart_behind {text : List Char} {i j : Nat} {f : Found Nat}
    (h : valuesStart.at? text i = some f)
    (hij : i < j) (hj : j < f.stop) : valuesStart.at? text j = none := by
  obtain ⟨-, -, rest, hread, hstop⟩ := Clause.at?_eq_some h
  obtain ⟨y, stretch, htext, hstretch⟩ := noWordStart_valuesStart hread
  refine Clause.at?_eq_none_of_noWordStart rfl startsWith_valuesStart htext hstretch hij ?_
  rw [htext, List.length_cons, List.length_append] at hstop
  omega

theorem findsFirst_valuesStart (text : List Char) (start : Nat) :
    valuesStart.FindsFirst text start (valuesStart.StandsOutside text start) := by
  have htogether : valuesStart.EndTogether (mask text) := by
    intro i j f g hf hg hij hj
    cases (at?_valuesStart_behind hf hij hj).symm.trans hg
  have hfree : ∀ q, valuesStart.StandsOutside text start q ∧ ¬ valuesStart.ReachesOver text start q ↔
      valuesStart.StandsOutside text start q := by
    refine fun q => and_iff_left_of_imp fun h => ?_
    rintro ⟨p, f, _, hpq, _, hat, hover⟩
    have hstands := h.stands
    rw [at?_valuesStart_behind hat hpq hover] at hstands
    cases hstands
  have hfirst : valuesStart.FindsFirst text start fun q =>
      valuesStart.StandsOutside text start q ∧ ¬ valuesStart.ReachesOver text start q :=
    Clause.findsFirst_of_endTogether rfl htogether
  simpa only [hfree] using hfirst

theorem findsFirst_sourceColumns (text : List Char) (start : Nat) :
    sourceColumns.FindsFirst text start fun q =>
    sourceColumns.StandsOutside text start q ∧ ¬ sourceColumns.ReachesOver text start q :=
  Clause.findsFirst_of_endTogether rfl (closedBy_sourceColumns.endTogether _)

/-- A search outside quotes finds the first `USING (VALUES` that stands there, and the first list of
source columns that stands there and that no list which begins in a literal reaches over. -/
theorem findsFirst_seedClauses (text : List Char) (start : Nat) :
    valuesStart.FindsFirst text start (valuesStart.StandsOutside text start) ∧
      sourceColumns.FindsFirst text start fun q =>
        sourceColumns.StandsOutside text start q ∧ ¬ sourceColumns.ReachesOver text start q :=
  ⟨findsFirst_valuesStart text start, findsFirst_sourceColumns text start⟩

/-- A literal that a list of columns begins in, with one behind it. -/
def quotedStart : List Char := "'x AS Fake (' AS Real (a)".toList

theorem findOutside?_quotedStart : sourceColumns.StandsOutside quotedStart 0 14 ∧
    sourceColumns.findOutside? quotedStart 0 = none ∧
    ¬ sourceColumns.FindsFirst quotedStart 0 (sourceColumns.StandsOutside quotedStart 0) := by
  have hstands : sourceColumns.StandsOutside quotedStart 0 14 := by
    refine ⟨Nat.zero_le _, ?_, by decide +kernel⟩
    rw [inSpan_iff]
    decide +kernel
  have hmissed : sourceColumns.findOutside? quotedStart 0 = none := by decide +kernel
  refine ⟨hstands, hmissed, fun h => ?_⟩
  obtain ⟨f, hf⟩ := h.finds ⟨14, hstands⟩
  cases hmissed.symm.trans hf

end SchemaBindings.Script

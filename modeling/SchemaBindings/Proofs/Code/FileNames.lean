import SchemaBindings.Code.CSharp
import SchemaBindings.Code.Identifier
import SchemaBindings.Code.RegularBinding
import SchemaBindings.Code.TypeScript
import SchemaBindings.Proofs.Schema.ReadNames
import SchemaBindings.Proofs.Text.Capitals

/-!
Files for different tables have different names. Two tables whose file names agree have names that agree
ignoring case.
-/

namespace SchemaBindings.Code

set_option autoImplicit false

open Text

def kebabFirst (c : Char) : List Char := if isCapital c then lowerChar c else [c]

def kebabRest (c : Char) : List Char := if isCapital c then '-' :: lowerChar c else [c]

theorem toList_kebabCase {name : String} {c : Char} {rest : List Char} (h : name.toList = c :: rest) :
    (kebabCase name).toList = kebabFirst c ++ rest.flatMap kebabRest := by
  unfold kebabCase
  rw [h]
  simp only [String.toList_ofList]
  rfl

/-- Two characters that are written alike behind the start of a name. -/
def Alike (c d : Char) : Prop :=
  c = d ∨ isCapital c = true ∧ isCapital d = true ∧ lowerChar c = lowerChar d

theorem ne_of_isWordChar {c d : Char} (hd : isWordChar d = false) (hc : isWordChar c = true) : c ≠ d := by
  rintro rfl
  rw [hc] at hd
  cases hd

theorem not_isWordChar_hyphen : isWordChar '-' = false := by decide

theorem not_isWordChar_dot : isWordChar '\u0307' = false := by decide

theorem head?_kebabRest {u : List Char} (hu : ∀ c ∈ u, isWordChar c = true) :
    ∀ d ∈ (u.flatMap kebabRest).head?, d ≠ '\u0307' := by
  intro d hd
  cases u with
  | nil => cases hd
  | cons c rest =>
    unfold List.flatMap kebabRest at hd
    rw [List.map_cons, List.flatten_cons] at hd
    split at hd
    · cases hd
      decide
    · cases hd
      exact ne_of_isWordChar not_isWordChar_dot (hu d List.mem_cons_self)

theorem lowerChar_append_singleton {c d : Char} {a b : List Char} (hb : ∀ x ∈ b.head?, x ≠ '\u0307')
    (h : lowerChar c ++ a = [d] ++ b) : lowerChar c = [d] ∧ a = b := by
  rcases lowerChar_cases c with rfl | ⟨x, hx⟩
  · have hdotted : lowerChar 'İ' = ['i', '\u0307'] := by decide
    rw [hdotted] at h
    have htail : '\u0307' :: a = b := (List.cons.inj h).2
    rw [← htail] at hb
    exact (hb _ rfl rfl).elim
  · rw [hx] at h
    obtain ⟨rfl, htail⟩ := List.cons.inj h
    exact ⟨hx, htail⟩

/-- A small form is told apart from what comes behind it. -/
theorem lowerChar_append_inj {c d : Char} {a b : List Char} (ha : ∀ x ∈ a.head?, x ≠ '\u0307')
    (hb : ∀ x ∈ b.head?, x ≠ '\u0307') (h : lowerChar c ++ a = lowerChar d ++ b) :
    lowerChar c = lowerChar d ∧ a = b := by
  rcases lowerChar_cases d with rfl | ⟨y, hy⟩
  · rcases lowerChar_cases c with rfl | ⟨x, hx⟩
    · exact ⟨rfl, List.append_cancel_left h⟩
    · rw [hx] at h
      obtain ⟨hform, htail⟩ := lowerChar_append_singleton ha h.symm
      exact ⟨hx.trans hform.symm, htail.symm⟩
  · rw [hy] at h ⊢
    exact lowerChar_append_singleton hb h

theorem alike_of_kebabRest {u v : List Char} (hu : ∀ c ∈ u, isWordChar c = true)
    (hv : ∀ c ∈ v, isWordChar c = true) (h : u.flatMap kebabRest = v.flatMap kebabRest) :
    List.Forall₂ Alike u v := by
  have hne : ∀ c, kebabRest c ≠ [] := by
    intro c
    unfold kebabRest
    split <;> exact List.cons_ne_nil _ _
  induction u generalizing v with
  | nil =>
    cases v with
    | nil => exact .nil
    | cons d v =>
      rw [List.flatMap_cons] at h
      exact (hne d (List.append_eq_nil_iff.1 h.symm).1).elim
  | cons c u ih =>
    cases v with
    | nil =>
      rw [List.flatMap_cons] at h
      exact (hne c (List.append_eq_nil_iff.1 h).1).elim
    | cons d v =>
      have hu' : ∀ x ∈ u, isWordChar x = true := fun x hx => hu x (List.mem_cons_of_mem c hx)
      have hv' : ∀ x ∈ v, isWordChar x = true := fun x hx => hv x (List.mem_cons_of_mem d hx)
      have hcword := hu c List.mem_cons_self
      have hdword := hv d List.mem_cons_self
      rw [List.flatMap_cons, List.flatMap_cons] at h
      have hstep : Alike c d ∧ u.flatMap kebabRest = v.flatMap kebabRest := by
        unfold kebabRest at h
        split at h
        · rename_i hc
          split at h
          · rename_i hd
            obtain ⟨hform, htail⟩ := lowerChar_append_inj (head?_kebabRest hu') (head?_kebabRest hv')
              (List.cons.inj h).2
            exact ⟨.inr ⟨hc, hd, hform⟩, htail⟩
          · exact (ne_of_isWordChar not_isWordChar_hyphen hdword (List.cons.inj h).1.symm).elim
        · split at h
          · exact (ne_of_isWordChar not_isWordChar_hyphen hcword (List.cons.inj h).1).elim
          · exact ⟨.inl (List.cons.inj h).1, (List.cons.inj h).2⟩
      exact .cons hstep.1 (ih hu' hv' hstep.2)

theorem Alike.cased {c d : Char} (h : Alike c d) :
    isCased c = isCased d ∧ isCaseIgnorable c = isCaseIgnorable d := by
  rcases h with rfl | ⟨hc, hd, _⟩
  · exact ⟨rfl, rfl⟩
  · have hc' := cased_of_isCapital hc
    have hd' := cased_of_isCapital hd
    exact ⟨hc'.1.trans hd'.1.symm, hc'.2.trans hd'.2.symm⟩

theorem casedAhead_alike {u v : List Char} (h : List.Forall₂ Alike u v) :
    casedAhead u = casedAhead v := by
  unfold casedAhead
  induction h with
  | nil => rfl
  | @cons c d u v hcd _ ih =>
    rw [List.dropWhile_cons, List.dropWhile_cons, hcd.cased.2]
    split
    · exact ih
    · simp only [List.head?_cons, Option.map_some, hcd.cased.1]

theorem Alike.sigma {c d : Char} (h : Alike c d) (hc : c = 'Σ') : d = 'Σ' := by
  rcases h with rfl | ⟨_, hd, hform⟩
  · exact hc
  · rw [hc] at hform
    exact eq_capital_sigma hd (hform.symm.trans (by decide))

theorem Alike.symm {c d : Char} (h : Alike c d) : Alike d c := by
  rcases h with rfl | ⟨hc, hd, hform⟩
  · exact .inl rfl
  · exact .inr ⟨hd, hc, hform.symm⟩

theorem Alike.lowerChar {c d : Char} (h : Alike c d) : lowerChar c = lowerChar d := by
  rcases h with rfl | ⟨_, _, hform⟩
  · rfl
  · exact hform

theorem lowerFrom_alike {u v : List Char} (h : List.Forall₂ Alike u v) (cased : Bool) :
    lowerFrom cased u = lowerFrom cased v := by
  induction h generalizing cased with
  | nil => rfl
  | @cons c d u v hcd huv ih =>
    unfold lowerFrom
    rw [hcd.cased.1, hcd.cased.2, ih, casedAhead_alike huv, hcd.lowerChar]
    by_cases hc : c = 'Σ'
    · rw [if_pos hc, if_pos (hcd.sigma hc)]
    · rw [if_neg hc, if_neg fun hd => hc (hcd.symm.sigma hd)]

/-- At the start of a name a capital letter and its small form are written alike too. -/
theorem lowerFrom_small {c d : Char} {u v : List Char} (hc : isCapital c = true)
    (hd : isCapital d = false) (hform : lowerChar c = [d]) (h : List.Forall₂ Alike u v) :
    lowerFrom false (c :: u) = lowerFrom false (d :: v) := by
  obtain ⟨hcased, hignorable, hfixed⟩ := small_of_isCapital hc hd hform
  have hcapital := cased_of_isCapital hc
  have hsigma : d ≠ 'Σ' := by
    rintro rfl
    revert hd
    decide
  unfold lowerFrom
  rw [hcased, hignorable, hcapital.1, hcapital.2, if_neg hsigma, hfixed, hform, lowerFrom_alike h]
  split
  · rename_i heq
    subst heq
    have hsmall : lowerChar 'Σ' = ['σ'] := by decide
    rw [hsmall] at hform
    rw [← List.singleton_inj.1 hform]
    rfl
  · rfl

theorem kebabFirst_append_inj {c d : Char} {u v : List Char} (hu : ∀ x ∈ u, isWordChar x = true)
    (hv : ∀ x ∈ v, isWordChar x = true)
    (h : kebabFirst c ++ u.flatMap kebabRest = kebabFirst d ++ v.flatMap kebabRest) :
    lowerFrom false (c :: u) = lowerFrom false (d :: v) := by
  unfold kebabFirst at h
  split at h
  · rename_i hc
    split at h
    · rename_i hd
      obtain ⟨hform, htail⟩ := lowerChar_append_inj (head?_kebabRest hu) (head?_kebabRest hv) h
      exact lowerFrom_alike (.cons (.inr ⟨hc, hd, hform⟩) (alike_of_kebabRest hu hv htail)) false
    · rename_i hd
      obtain ⟨hform, htail⟩ := lowerChar_append_singleton (head?_kebabRest hv) h
      exact lowerFrom_small hc (Bool.eq_false_iff.2 hd) hform (alike_of_kebabRest hu hv htail)
  · rename_i hc
    split at h
    · rename_i hd
      obtain ⟨hform, htail⟩ := lowerChar_append_singleton (head?_kebabRest hu) h.symm
      exact (lowerFrom_small hd (Bool.eq_false_iff.2 hc) hform (alike_of_kebabRest hv hu htail)).symm
    · obtain ⟨rfl, htail⟩ := List.cons.inj h
      exact lowerFrom_alike (.cons (.inl rfl) (alike_of_kebabRest hu hv htail)) false

/-- Names that are written alike with hyphens agree ignoring case. -/
theorem sameIgnoringCase_of_kebabCase {a b : String} (ha : IsWord a) (hb : IsWord b)
    (h : kebabCase a = kebabCase b) : sameIgnoringCase a b = true := by
  obtain ⟨c, u, hcu⟩ := List.exists_cons_of_ne_nil ha.1
  obtain ⟨d, v, hdv⟩ := List.exists_cons_of_ne_nil hb.1
  have hu := ha.2
  have hv := hb.2
  rw [hcu] at hu
  rw [hdv] at hv
  have hlists := congrArg String.toList h
  rw [toList_kebabCase hcu, toList_kebabCase hdv] at hlists
  unfold sameIgnoringCase lower lowerChars
  rw [hcu, hdv, kebabFirst_append_inj (fun x hx => hu x (List.mem_cons_of_mem c hx))
    (fun x hx => hv x (List.mem_cons_of_mem d hx)) hlists]
  exact beq_self_eq_true _

/-- A name that one of a table's files may have. -/
inductive FileOf (table : String) : String → Prop
  | key : FileOf table (table ++ "PrimaryKey.cs")
  | binding : FileOf table (table ++ ".Binding.cs")
  | script : FileOf table (typeScriptFileName table)

theorem append_ne_append {a b e f : String} (hef : ¬ e.toList <:+ f.toList)
    (hfe : ¬ f.toList <:+ e.toList) : a ++ e ≠ b ++ f := by
  intro h
  have hlists := congrArg String.toList h
  rw [String.toList_append, String.toList_append] at hlists
  have he : e.toList <:+ b.toList ++ f.toList := hlists ▸ List.suffix_append a.toList e.toList
  rcases List.suffix_or_suffix_of_suffix he (List.suffix_append b.toList f.toList) with h | h
  · exact hef h
  · exact hfe h

theorem key_ne_binding (a b : String) : a ++ "PrimaryKey.cs" ≠ b ++ ".Binding.cs" :=
  append_ne_append (by decide) (by decide)

theorem key_ne_script (a b : String) : a ++ "PrimaryKey.cs" ≠ typeScriptFileName b :=
  append_ne_append (by decide) (by decide)

theorem binding_ne_script (a b : String) : a ++ ".Binding.cs" ≠ typeScriptFileName b :=
  append_ne_append (by decide) (by decide)

theorem FileOf.ne_manifest {table name : String} (h : FileOf table name) : name ≠ manifestFileName := by
  have hmanifest : manifestFileName = "TypeScriptEnums" ++ ".manifest.json" := by decide
  rw [hmanifest]
  cases h with
  | key => exact append_ne_append (by decide) (by decide)
  | binding => exact append_ne_append (by decide) (by decide)
  | script => exact append_ne_append (by decide) (by decide)

theorem not_mem_kebabCase {name : String} {d : Char} (hyphen : d ≠ '-') (hd : d.toNat < 65)
    (h : d ∉ name.toList) : d ∉ (kebabCase name).toList := by
  cases hname : name.toList with
  | nil =>
    unfold kebabCase
    rw [hname]
    exact List.not_mem_nil
  | cons c rest =>
    rw [hname, List.mem_cons, not_or] at h
    rw [toList_kebabCase hname, List.mem_append, List.mem_flatMap]
    rintro (hmem | ⟨e, he, hmem⟩)
    · unfold kebabFirst at hmem
      split at hmem
      · exact not_mem_lowerChar hd (Ne.symm h.1) hmem
      · exact h.1 (List.mem_singleton.1 hmem)
    · have hother : e ≠ d := fun heq => h.2 (heq ▸ he)
      unfold kebabRest at hmem
      split at hmem
      · rcases List.mem_cons.1 hmem with heq | hmem
        · exact hyphen heq
        · exact not_mem_lowerChar hd hother hmem
      · exact hother (List.mem_singleton.1 hmem).symm

theorem FileOf.not_mem {table name : String} (ht : IsWord table) (h : FileOf table name) {d : Char}
    (hword : isWordChar d = false) (hd : d.toNat < 65) (hmark : d ≠ '-' ∧ d ≠ '.') :
    d ∉ name.toList := by
  have htable : d ∉ table.toList := fun hmem => ne_of_isWordChar hword (ht.2 d hmem) rfl
  have hending : ∀ {base ending : String}, d ∉ base.toList →
      (∀ c ∈ ending.toList, 64 < c.toNat ∨ c = '-' ∨ c = '.') → d ∉ (base ++ ending).toList := by
    intro base ending hbase hchars
    rw [String.toList_append, List.mem_append]
    rintro (hmem | hmem)
    · exact hbase hmem
    · rcases hchars d hmem with hletter | hhyphen | hdot
      · omega
      · exact hmark.1 hhyphen
      · exact hmark.2 hdot
  cases h with
  | key => exact hending htable (by decide)
  | binding => exact hending htable (by decide)
  | script => exact hending (not_mem_kebabCase hmark.1 hd htable) (by decide)

theorem FileOf.step {table name : String} (ht : IsWord table) (h : FileOf table name) :
    '/' ∉ name.toList ∧ 2 < name.length := by
  refine ⟨h.not_mem ht (by decide) (by decide) (by decide), ?_⟩
  have hending : ∀ {base ending : String}, 2 < ending.length → 2 < (base ++ ending).length := by
    intro base ending hlength
    rw [String.length_append]
    omega
  cases h with
  | key => exact hending (by decide)
  | binding => exact hending (by decide)
  | script => exact hending (by decide)

theorem FileOf.sameIgnoringCase {a b name other : String} (ha : IsWord a) (hb : IsWord b)
    (h : FileOf a name) (h' : FileOf b other) (heq : name = other) : sameIgnoringCase a b = true := by
  have hself : a = b → Text.sameIgnoringCase a b = true := by
    rintro rfl
    exact sameIgnoringCase_self a
  cases h with
  | key =>
    cases h' with
    | key => exact hself (String.append_left_inj _ |>.1 heq)
    | binding => exact (key_ne_binding _ _ heq).elim
    | script => exact (key_ne_script _ _ heq).elim
  | binding =>
    cases h' with
    | key => exact (key_ne_binding _ _ heq.symm).elim
    | binding => exact hself (String.append_left_inj _ |>.1 heq)
    | script => exact (binding_ne_script _ _ heq).elim
  | script =>
    cases h' with
    | key => exact (key_ne_script _ _ heq.symm).elim
    | binding => exact (binding_ne_script _ _ heq.symm).elim
    | script => exact sameIgnoringCase_of_kebabCase ha hb (String.append_left_inj _ |>.1 heq)

end SchemaBindings.Code

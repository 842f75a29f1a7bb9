import SchemaBindings.Proofs.Reference.Resolving
import SchemaBindings.Proofs.Text.SmallForms

/-!
Resolving ignores case. It commutes with taking the small form of every name that it gets, as long as the
small forms are of ASCII: then a name has the length of its small form, and longer names stay longer. So two
runs on names that are the same ignoring case give tables that are the same ignoring case.
-/

namespace SchemaBindings

set_option autoImplicit false

open Text (lower sameIgnoringCase upperChars small capital HasAsciiForm)

namespace Text

@[simp] theorem sameIgnoringCase_lower (a b : String) :
    sameIgnoringCase (lower a) (lower b) = sameIgnoringCase a b := by
  rw [sameIgnoringCase, lower_lower, lower_lower, sameIgnoringCase]

theorem lowerFrom_ne_nil {cs : List Char} (h : cs ≠ []) (cased : Bool) : lowerFrom cased cs ≠ [] := by
  cases cs with
  | nil => exact (h rfl).elim
  | cons c rest =>
    rw [lowerFrom]
    refine List.append_ne_nil_of_left_ne_nil ?_ _
    split
    · exact List.cons_ne_nil _ _
    · rcases lowerChar_cases c with rfl | ⟨d, hd⟩
      · exact List.cons_ne_nil _ _
      · exact hd ▸ List.cons_ne_nil _ _

theorem isEmpty_lower (s : String) : (lower s).isEmpty = s.isEmpty := by
  rw [Bool.eq_iff_iff, String.isEmpty_iff, String.isEmpty_iff, ← String.toList_eq_nil_iff,
    ← String.toList_eq_nil_iff, lower, String.toList_ofList]
  constructor
  · intro hnil
    by_contra hs
    exact lowerFrom_ne_nil hs false hnil
  · intro hnil
    rw [hnil]
    rfl

end Text

namespace NameSet

theorem spellings_insert_lower {s t : NameSet} (h : t.spellings = s.spellings.map lower) (name : String) :
    (t.insert (lower name)).spellings = (s.insert name).spellings.map lower := by
  have hsame : t.contains (lower name) = s.contains name := by
    unfold contains
    rw [h, List.any_map]
    exact congrArg (List.any s.spellings) (funext fun n => Text.sameIgnoringCase_lower n name)
  unfold insert
  by_cases hname : s.contains name = true
  · rw [dif_pos hname, dif_pos (hsame.trans hname), h]
  · rw [dif_neg hname, dif_neg (hsame ▸ hname)]
    simp only [h, List.map_append, List.map_singleton]

theorem spellings_ofList_lower (names : List String) :
    (ofList (names.map lower)).spellings = (ofList names).spellings.map lower := by
  have hfrom : ∀ s t : NameSet, t.spellings = s.spellings.map lower →
      ((names.map lower).foldl insert t).spellings = (names.foldl insert s).spellings.map lower := by
    induction names with
    | nil => exact fun s t h => h
    | cons name rest ih => exact fun s t h => ih _ _ (spellings_insert_lower h name)
  exact hfrom empty empty rfl

section
variable (names : List String) (name : String)

theorem contains_ofList_lower :
    (ofList (names.map lower)).contains (lower name) = (ofList names).contains name := by
  unfold contains
  rw [spellings_ofList_lower, List.any_map]
  exact congrArg (List.any _) (funext fun n => Text.sameIgnoringCase_lower n name)

theorem canonical?_ofList_lower :
    (ofList (names.map lower)).canonical? (lower name) = ((ofList names).canonical? name).map lower := by
  unfold canonical?
  rw [spellings_ofList_lower, List.find?_map]
  exact congrArg _ (congrArg (List.find? · _) (funext fun n => Text.sameIgnoringCase_lower n name))

end

end NameSet

namespace Reference

theorem suffix_map_of_forall {α β : Type} {f g : α → β} {l : List α} {ks : List β}
    (h : ∀ k ∈ ks, ∀ a ∈ l, f a = k → g a = k) (hf : ks <:+ l.map f) : ks <:+ l.map g := by
  obtain ⟨before, hsplit⟩ := hf
  obtain ⟨l₁, l₂, rfl, _, rfl⟩ := List.append_eq_map_iff.1 hsplit
  have hsame : l₂.map g = l₂.map f := by
    refine List.map_congr_left fun a ha => ?_
    exact h (f a) (List.mem_map_of_mem ha) a (List.mem_append_right l₁ ha) rfl
  rw [List.map_append, hsame]
  exact List.suffix_append _ _

/-- The capital form of the Kelvin sign is not that of its small form, but neither is in `ID`. -/
theorem capital_small_iff {c : Char} (h : HasAsciiForm c) :
    ∀ k ∈ "ID".toList, capital (small c) = k ↔ capital c = k :=
  Text.forall_asciiForm (p := fun c => ∀ k ∈ "ID".toList, capital (small c) = k ↔ capital c = k)
    (by decide +kernel) (by decide +kernel) h

theorem id_suffix_small {cs : List Char} (h : ∀ c ∈ cs, HasAsciiForm c) :
    "ID".toList <:+ upperChars (cs.map small) ↔ "ID".toList <:+ upperChars cs := by
  have hsmall : ∀ c ∈ cs.map small, HasAsciiForm c :=
    List.forall_mem_map.2 fun c hc => Text.hasAsciiForm_small (h c hc)
  rw [Text.upperChars_of_asciiForm hsmall, Text.upperChars_of_asciiForm h, List.map_map]
  constructor
  · exact suffix_map_of_forall fun k hk c hc => (capital_small_iff (h c hc) k hk).1
  · exact suffix_map_of_forall fun k hk c hc => (capital_small_iff (h c hc) k hk).2

theorem propertyName?_lower {column : String} (h : IsAscii (lower column)) :
    propertyName? (lower column) = (propertyName? column).map lower := by
  have hform := Text.hasAsciiForm_of_mem h
  have hid : "ID".toList.isSuffixOf (upperChars (column.toList.map small)) =
      "ID".toList.isSuffixOf (upperChars column.toList) := by
    rw [Bool.eq_iff_iff, List.isSuffixOf_iff_suffix, List.isSuffixOf_iff_suffix]
    exact id_suffix_small hform
  unfold propertyName?
  simp only [Text.toList_lower_of_asciiForm h, List.length_map, hid, ← List.map_take]
  split
  · rfl
  · have htake : ∀ c ∈ column.toList.take (column.toList.length - 2), HasAsciiForm c :=
      fun c hc => hform c (List.mem_of_mem_take hc)
    rw [Option.map_some, lower, String.toList_ofList, Text.lowerChars_of_asciiForm htake]

theorem fit?_lower (property table : String) : fit? (lower property) (lower table) = fit? property table := by
  unfold fit?
  rw [Text.lower_lower, Text.lower_lower]

/-- The candidate with the small form of its name. -/
def Candidate.lowered (c : Candidate) : Candidate := ⟨lower c.table, c.fit⟩

theorem candidates_lower (property : String) (tables : List String) :
    candidates (lower property) (tables.map lower) = (candidates property tables).map Candidate.lowered := by
  unfold candidates
  rw [List.filterMap_map, List.map_filterMap]
  refine List.filterMap_congr fun t _ => ?_
  rw [Function.comp_apply, fit?_lower, Option.map_map]
  rfl

theorem Candidate.beats_lowered {a b : Candidate} (ha : (lower a.table).length = a.table.length)
    (hb : (lower b.table).length = b.table.length) : a.lowered.beats b.lowered = a.beats b := by
  unfold beats lowered
  rw [ha, hb, Text.lower_lower, Text.lower_lower]

theorem prefer_lowered {best : Option Candidate} {c : Candidate}
    (hc : (lower c.table).length = c.table.length)
    (hbest : ∀ b ∈ best, (lower b.table).length = b.table.length) :
    prefer (best.map Candidate.lowered) c.lowered = (prefer best c).map Candidate.lowered := by
  cases best with
  | none => rfl
  | some b =>
    have hbeats := Candidate.beats_lowered hc (hbest b rfl)
    unfold prefer
    simp only [Option.map_some, hbeats, apply_ite Candidate.lowered]

theorem mem_prefer {best : Option Candidate} {c d : Candidate} (h : d ∈ prefer best c) :
    d = c ∨ d ∈ best := by
  cases best with
  | none => exact .inl (Option.some.inj h).symm
  | some b =>
    obtain rfl := Option.some.inj h
    split
    · exact .inl rfl
    · exact .inr rfl

theorem foldl_prefer_lowered {cs : List Candidate} (best : Option Candidate)
    (h : ∀ c ∈ cs, (lower c.table).length = c.table.length)
    (hbest : ∀ b ∈ best, (lower b.table).length = b.table.length) :
    (cs.map Candidate.lowered).foldl prefer (best.map Candidate.lowered) =
      (cs.foldl prefer best).map Candidate.lowered := by
  induction cs generalizing best with
  | nil => rfl
  | cons c rest ih =>
    obtain ⟨hc, hrest⟩ := List.forall_mem_cons.1 h
    have hkept : ∀ b ∈ prefer best c, (lower b.table).length = b.table.length := by
      intro b hb
      rcases mem_prefer hb with rfl | hb
      · exact hc
      · exact hbest b hb
    rw [List.map_cons, List.foldl_cons, List.foldl_cons, prefer_lowered hc hbest, ih _ hrest hkept]

theorem bestMatch?_lower (property : String) {tables : List String}
    (h : ∀ t ∈ tables, (lower t).length = t.length) :
    bestMatch? (lower property) (tables.map lower) = (bestMatch? property tables).map lower := by
  have hkept : ∀ c ∈ candidates property tables, (lower c.table).length = c.table.length :=
    fun c hc => h c.table (mem_candidates.1 hc).1
  have hfold := foldl_prefer_lowered none hkept (by simp)
  rw [Option.map_none] at hfold
  unfold bestMatch?
  rw [candidates_lower, hfold, Option.map_map, Option.map_map]
  rfl

section
variable {column column' : String} {lookups lookups' tables tables' : List String}
variable {explicit explicit' : Option String}

theorem named?_lower (lookups : List String) (explicit : Option String) :
    named? (.ofList (lookups.map lower)) (explicit.map lower) =
      (named? (.ofList lookups) explicit).map lower := by
  cases explicit with
  | none => rfl
  | some name =>
    unfold named?
    rw [Option.map_some, Option.filter_some, Option.filter_some, Text.isEmpty_lower]
    cases name.isEmpty with
    | true => rfl
    | false => exact NameSet.canonical?_ofList_lower lookups name

theorem resolve?_lower (hcolumn : IsAscii (lower column)) (hlookups : ∀ n ∈ lookups, IsAscii (lower n)) :
    resolve? (lower column) (.ofList (lookups.map lower)) (.ofList (tables.map lower)) (explicit.map lower) =
      (resolve? column (.ofList lookups) (.ofList tables) explicit).map lower := by
  have hlength : ∀ n ∈ (NameSet.ofList lookups).spellings, (lower n).length = n.length :=
    fun n hn => Text.length_lower_of_asciiForm (hlookups n (NameSet.mem_ofList hn))
  rw [resolve?_eq, resolve?_eq, propertyName?_lower hcolumn]
  cases propertyName? column with
  | none => rfl
  | some property =>
    simp only [Option.map_some, Option.bind_some, named?_lower, NameSet.spellings_ofList_lower,
      bestMatch?_lower property hlength, NameSet.contains_ofList_lower, ← Option.map_or, Option.filter_map]
    refine congrArg _ (congrArg (Option.filter · _) (funext fun table => ?_))
    rw [Function.comp_apply, Text.sameIgnoringCase_lower]

/-- Names of ASCII and any names that are the same ignoring case, each in its place, refer to tables that
are the same ignoring case, or both to none. -/
theorem resolve?_ignoringCase (hcolumn : IsAscii column) (hlookups : ∀ n ∈ lookups, IsAscii n)
    (hc : lower column' = lower column) (hl : lookups'.map lower = lookups.map lower)
    (ht : tables'.map lower = tables.map lower) (he : explicit'.map lower = explicit.map lower) :
    (resolve? column' (.ofList lookups') (.ofList tables') explicit').map lower =
      (resolve? column (.ofList lookups) (.ofList tables) explicit).map lower := by
  have hcolumn₁ : IsAscii (lower column) := Text.isAscii_lower hcolumn
  have hlookups₁ : ∀ n ∈ lookups, IsAscii (lower n) := fun n hn => Text.isAscii_lower (hlookups n hn)
  have hcolumn₂ : IsAscii (lower column') := hc ▸ hcolumn₁
  have hlookups₂ : ∀ n ∈ lookups', IsAscii (lower n) := by
    intro n hn
    have hmem : lower n ∈ lookups.map lower := hl ▸ List.mem_map_of_mem hn
    obtain ⟨m, hm, heq⟩ := List.mem_map.1 hmem
    exact heq ▸ hlookups₁ m hm
  rw [← resolve?_lower hcolumn₁ hlookups₁, ← resolve?_lower hcolumn₂ hlookups₂, hc, hl, ht, he]

end

/-- Two names of one length fit, and only their small forms decide. The second run has the Kelvin sign for
the letter. -/
theorem resolve?_kinds :
    IsAscii "KindID" ∧ (∀ n ∈ ["CarKind", "BoxKind"], IsAscii n) ∧
    lower "\u212aindId" = lower "KindID" ∧
    ["CAR\u212aIND", "boxKIND"].map lower = ["CarKind", "BoxKind"].map lower ∧
    ["ITEM", "car\u212aind"].map lower = ["Item", "CarKind"].map lower ∧
    (some "maker").map lower = (some "Maker").map lower ∧
    resolve? "KindID" (.ofList ["CarKind", "BoxKind"]) (.ofList ["Item", "CarKind"]) (some "Maker") =
      some "BoxKind" ∧
    (resolve? "\u212aindId" (.ofList ["CAR\u212aIND", "boxKIND"]) (.ofList ["ITEM", "car\u212aind"])
      (some "maker")).map lower = some "boxkind" := by
  have hcolumn : IsAscii "KindID" := by decide
  have hlookups : ∀ n ∈ ["CarKind", "BoxKind"], IsAscii n := by decide
  have hc : lower "\u212aindId" = lower "KindID" := by decide +kernel
  have hl : ["CAR\u212aIND", "boxKIND"].map lower = ["CarKind", "BoxKind"].map lower := by decide +kernel
  have ht : ["ITEM", "car\u212aind"].map lower = ["Item", "CarKind"].map lower := by decide +kernel
  have he : (some "maker").map lower = (some "Maker").map lower := by decide +kernel
  have hfirst : resolve? "KindID" (.ofList ["CarKind", "BoxKind"]) (.ofList ["Item", "CarKind"])
      (some "Maker") = some "BoxKind" := by
    rw [resolve?_eq]
    decide +kernel
  refine ⟨hcolumn, hlookups, hc, hl, ht, he, hfirst, ?_⟩
  rw [resolve?_ignoringCase hcolumn hlookups hc hl ht he, hfirst]
  decide +kernel

end Reference

end SchemaBindings

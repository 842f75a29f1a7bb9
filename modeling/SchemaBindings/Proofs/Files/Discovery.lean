import SchemaBindings.Files.Discovery
import SchemaBindings.Proofs.Files.Writing

/-!
Finding scripts again on a disk that has grown outside the root. What grew inside it are empty folders, which
hold no scripts.
-/

namespace SchemaBindings

set_option autoImplicit false

namespace FileTree

variable {t t' c : FileTree} {cs : List (String × FileTree)} {name : String} {q : List String}

mutual

/-- Whether a disk can hold the tree: in each folder the names differ, and none of them goes back. -/
def isProper : FileTree → Bool
  | file _ => true
  | folder cs => areProper cs

def areProper : List (String × FileTree) → Bool
  | [] => true
  | (name, c) :: rest => name != ".." && (rest.lookup name).isNone && c.isProper && areProper rest

end

theorem areProper_cons {rest : List (String × FileTree)} : areProper ((name, c) :: rest) = true ↔
    name ≠ ".." ∧ rest.lookup name = none ∧ c.isProper = true ∧ areProper rest = true := by
  rw [areProper, Bool.and_eq_true, Bool.and_eq_true, Bool.and_eq_true, bne_iff_ne, Option.isNone_iff_eq_none]
  constructor
  · rintro ⟨⟨⟨hback, hnone⟩, hc⟩, hrest⟩
    exact ⟨hback, hnone, hc, hrest⟩
  · rintro ⟨hback, hnone, hc, hrest⟩
    exact ⟨⟨⟨hback, hnone⟩, hc⟩, hrest⟩

theorem isProper_of_lookup (h : areProper cs = true) (hc : cs.lookup name = some c) : c.isProper = true := by
  induction cs with
  | nil => cases hc
  | cons x rest ih =>
    obtain ⟨_, _, hx, hrest⟩ := areProper_cons.1 h
    rw [List.lookup_cons] at hc
    split at hc
    · cases hc
      exact hx
    · exact ih hrest hc

theorem mem_of_lookup (hc : cs.lookup name = some c) : (name, c) ∈ cs := by
  obtain ⟨before, behind, rfl, _⟩ := List.lookup_eq_some_iff.1 hc
  exact List.mem_append_right before List.mem_cons_self

theorem ne_of_mem (h : areProper cs = true) (hc : (name, c) ∈ cs) : name ≠ ".." := by
  induction cs with
  | nil => cases hc
  | cons x rest ih =>
    obtain ⟨hback, _, _, hrest⟩ := areProper_cons.1 h
    rcases List.mem_cons.1 hc with rfl | hc
    · exact hback
    · exact ih hrest hc

theorem lookup_of_mem (h : areProper cs = true) (hc : (name, c) ∈ cs) : cs.lookup name = some c := by
  induction cs with
  | nil => cases hc
  | cons x rest ih =>
    obtain ⟨n, d⟩ := x
    obtain ⟨_, hnone, _, hrest⟩ := areProper_cons.1 h
    rcases List.mem_cons.1 hc with heq | hmem
    · cases heq
      exact List.lookup_cons_self
    · have hne : (name == n) = false := by
        rw [beq_eq_false_iff_ne]
        rintro rfl
        exact bne_iff_ne.1 (List.lookup_eq_none_iff.1 hnone _ hmem) rfl
      rw [List.lookup_cons, hne]
      exact ih hrest hmem

theorem isProper_of_get? (ht : t.isProper = true) (h : t.get? q = some c) : c.isProper = true := by
  induction q generalizing t with
  | nil =>
    cases h
    exact ht
  | cons name rest ih =>
    obtain ⟨cs, d, rfl, hd, hc⟩ := exists_folder_of_get?_cons h
    exact ih (isProper_of_lookup ht hd) hc

theorem not_mem_of_get? (ht : t.isProper = true) (h : t.get? q = some c) : ".." ∉ q := by
  induction q generalizing t with
  | nil => exact List.not_mem_nil
  | cons name rest ih =>
    obtain ⟨cs, d, rfl, hd, hc⟩ := exists_folder_of_get?_cons h
    apply List.not_mem_cons_of_ne_of_not_mem
    · exact (ne_of_mem ht (mem_of_lookup hd)).symm
    · exact ih (isProper_of_lookup ht hd) hc

mutual

/-- What holds of files, and of a folder when it holds of all that stands in it, holds of every tree. -/
@[elab_as_elim]
theorem tree_induction {motive : FileTree → Prop} (file : ∀ b, motive (.file b))
    (folder : ∀ cs, (∀ x ∈ cs, motive x.2) → motive (.folder cs)) (t : FileTree) : motive t := by
  cases t with
  | file b => exact file b
  | folder cs => exact folder cs (children_induction file folder cs)

theorem children_induction {motive : FileTree → Prop} (file : ∀ b, motive (.file b))
    (folder : ∀ cs, (∀ x ∈ cs, motive x.2) → motive (.folder cs)) (cs : List (String × FileTree)) :
    ∀ x ∈ cs, motive x.2 := by
  cases cs with
  | nil => exact List.forall_mem_nil _
  | cons x rest =>
    obtain ⟨name, c⟩ := x
    exact List.forall_mem_cons.2 ⟨tree_induction file folder c, children_induction file folder rest⟩

end

/-- On the way from a base to a place no name is hidden and no folder is ignored, and what stands at the place
is not ignored. -/
structure IsReached (ignored : String → Bool) (base place : List String) : Prop where
  visible : ∀ step ∈ place, isHidden step = false
  entered : ∀ up, up ≠ [] → up <+: place → up ≠ place →
    ignored (relative (base ++ up) ++ "/") = false
  kept : ignored (relative (base ++ place)) = false

theorem isReached_singleton {ignored : String → Bool} {base : List String} :
    IsReached ignored base [name] ↔ isHidden name = false ∧
        ignored (relative (base ++ [name])) = false := by
  constructor
  · intro h
    exact ⟨h.visible name List.mem_cons_self, h.kept⟩
  · rintro ⟨hname, hkept⟩
    refine ⟨List.forall_mem_singleton.2 hname, ?_, hkept⟩
    intro up hne hup hup'
    rcases List.prefix_cons_iff.1 hup with rfl | ⟨more, rfl, hmore⟩
    · exact (hne rfl).elim
    · exact (hup' (by rw [List.prefix_nil.1 hmore])).elim

theorem isReached_cons {ignored : String → Bool} {base rest : List String} (hrest : rest ≠ []) :
    IsReached ignored base (name :: rest) ↔ isHidden name = false ∧
      ignored (relative (base ++ [name]) ++ "/") = false ∧ IsReached ignored (base ++ [name]) rest := by
  have hsteps : ∀ up, base ++ name :: up = base ++ [name] ++ up := fun up => List.append_cons base name up
  constructor
  · intro h
    refine ⟨h.visible name List.mem_cons_self, ?_, ?_, ?_, ?_⟩
    · apply h.entered [name] (List.cons_ne_nil _ _) (List.cons_prefix_cons.2 ⟨rfl, List.nil_prefix⟩)
      rintro ⟨⟩
      exact hrest rfl
    · exact fun step hstep => h.visible step (List.mem_cons_of_mem name hstep)
    · intro up _ hup hne
      rw [← hsteps]
      apply h.entered (name :: up) (List.cons_ne_nil _ _) (List.cons_prefix_cons.2 ⟨rfl, hup⟩)
      rintro ⟨⟩
      exact hne rfl
    · rw [← hsteps]
      exact h.kept
  · rintro ⟨hname, hfolder, h⟩
    refine ⟨List.forall_mem_cons.2 ⟨hname, h.visible⟩, ?_, ?_⟩
    · intro up hne hup hup'
      rcases List.prefix_cons_iff.1 hup with rfl | ⟨more, rfl, hmore⟩
      · exact (hne rfl).elim
      · rcases List.eq_nil_or_concat more with rfl | ⟨_, _, hcons⟩
        · exact hfolder
        · rw [hsteps]
          apply h.entered more ?_ hmore
          · rintro rfl
            exact hup' rfl
          · rw [hcons, List.concat_eq_append]
            exact List.append_ne_nil_of_right_ne_nil _ (List.cons_ne_nil _ _)
    · rw [hsteps]
      exact h.kept

def filesAt (ignored : String → Bool) (base : List String) (name : String) (c : FileTree) :
    List (List String) :=
  if isHidden name then []
  else match c with
    | file _ => if ignored (relative (base ++ [name])) then [] else [base ++ [name]]
    | folder ds =>
      if ignored (relative (base ++ [name]) ++ "/") then []
      else (folder ds).filesBelow ignored (base ++ [name])

theorem childFiles_eq_map (ignored : String → Bool) (base : List String) (cs : List (String × FileTree)) :
    childFiles ignored base cs = cs.map fun x => (x.1, filesAt ignored base x.1 x.2) := by
  induction cs with
  | nil => rfl
  | cons x rest ih =>
    obtain ⟨name, c⟩ := x
    unfold childFiles
    rw [ih]
    cases c <;> rfl

/-- What is found below a folder that stands at a base. -/
def Finds (t : FileTree) (ignored : String → Bool) (base place : List String) : Prop :=
  ∃ rest b, rest ≠ [] ∧ place = base ++ rest ∧ t.get? rest = some (file b) ∧
    IsReached ignored base rest

theorem mem_filesAt {ignored : String → Bool} {base place : List String}
    (hbelow : place ∈ c.filesBelow ignored (base ++ [name]) ↔ c.Finds ignored (base ++ [name]) place) :
    place ∈ filesAt ignored base name c ↔ ∃ rest b, place = base ++ name :: rest ∧
      c.get? rest = some (file b) ∧ IsReached ignored base (name :: rest) := by
  unfold filesAt
  cases hname : isHidden name with
  | true =>
    constructor
    · intro h
      cases h
    · rintro ⟨rest, b, _, _, hreached⟩
      rw [hreached.visible name List.mem_cons_self] at hname
      cases hname
  | false =>
    rw [if_neg Bool.false_ne_true]
    cases c with
    | file b =>
      simp only
      constructor
      · intro h
        split at h
        · cases h
        · rename_i hkept
          obtain rfl := List.mem_singleton.1 h
          exact ⟨[], b, rfl, rfl, isReached_singleton.2 ⟨hname, Bool.eq_false_of_not_eq_true hkept⟩⟩
      · rintro ⟨rest, b', rfl, hfile, hreached⟩
        cases rest with
        | nil =>
          rw [(isReached_singleton.1 hreached).2]
          exact List.mem_singleton_self _
        | cons step more =>
          obtain ⟨_, _, hfolder, _⟩ := exists_folder_of_get?_cons hfile
          cases hfolder
    | folder ds =>
      simp only
      constructor
      · intro h
        split at h
        · cases h
        · rename_i hfolder
          obtain ⟨rest, b, hne, rfl, hfile, hreached⟩ := hbelow.1 h
          refine ⟨rest, b, (List.append_cons base name rest).symm, hfile, ?_⟩
          exact (isReached_cons hne).2 ⟨hname, Bool.eq_false_of_not_eq_true hfolder, hreached⟩
      · rintro ⟨rest, b, rfl, hfile, hreached⟩
        have hne : rest ≠ [] := by
          rintro rfl
          cases hfile
        obtain ⟨_, hfolder, hrest⟩ := (isReached_cons hne).1 hreached
        rw [hfolder]
        exact hbelow.2 ⟨rest, b, hne, List.append_cons base name rest, hfile, hrest⟩

theorem mem_filesBelow {ignored : String → Bool} {base place : List String} (ht : t.isProper = true) :
    place ∈ t.filesBelow ignored base ↔ t.Finds ignored base place := by
  induction t using tree_induction generalizing base place with
  | file b =>
    constructor
    · intro h
      cases h
    · rintro ⟨rest, _, hne, _, hfile, _⟩
      cases rest with
      | nil => exact (hne rfl).elim
      | cons name more =>
        obtain ⟨_, _, hfolder, _⟩ := exists_folder_of_get?_cons hfile
        cases hfolder
  | folder cs ih =>
    have hchild : ∀ x ∈ cs, ∀ place, place ∈ filesAt ignored base x.1 x.2 ↔ ∃ rest b,
        place = base ++ x.1 :: rest ∧ x.2.get? rest = some (file b) ∧
          IsReached ignored base (x.1 :: rest) := by
      intro x hx place
      exact mem_filesAt (ih x hx (isProper_of_lookup ht (lookup_of_mem ht hx)))
    unfold filesBelow
    rw [List.mem_flatMap, childFiles_eq_map]
    simp only [List.mem_mergeSort, List.mem_map]
    constructor
    · rintro ⟨_, ⟨x, hx, rfl⟩, hplace⟩
      obtain ⟨rest, b, hplace, hfile, hreached⟩ := (hchild x hx place).1 hplace
      refine ⟨x.1 :: rest, b, List.cons_ne_nil _ _, hplace, ?_, hreached⟩
      rw [get?_cons, children, lookup_of_mem ht hx]
      exact hfile
    · rintro ⟨rest, b, hne, hplace, hfile, hreached⟩
      cases rest with
      | nil => exact (hne rfl).elim
      | cons name more =>
        obtain ⟨_, c, heq, hc, hfile⟩ := exists_folder_of_get?_cons hfile
        cases heq
        have hx := mem_of_lookup hc
        exact ⟨_, ⟨(name, c), hx, rfl⟩, (hchild (name, c) hx place).2
          ⟨more, b, hplace, hfile, hreached⟩⟩

theorem file_of_mem_filesBelow {ignored : String → Bool} {base place : List String} (t : FileTree)
    (ht : t.isProper = true) (h : place ∈ t.filesBelow ignored base) :
    ∃ rest b, place = base ++ rest ∧ t.get? rest = some (file b) ∧ ".." ∉ rest := by
  obtain ⟨rest, b, _, hplace, hfile, _⟩ := (mem_filesBelow ht).1 h
  exact ⟨rest, b, hplace, hfile, not_mem_of_get? ht hfile⟩

/-- A list is cut in one way only into elements without a property and elements with it. -/
theorem append_inj_of_filter {α : Type} {p : α → Bool} {a b a' b' : List α} (h : a ++ b = a' ++ b')
    (ha : ∀ x ∈ a, (!p x) = true) (hb : ∀ x ∈ b, p x = true) (ha' : ∀ x ∈ a', (!p x) = true)
    (hb' : ∀ x ∈ b', p x = true) : a = a' ∧ b = b' := by
  have hwith : ∀ {u v : List α}, (∀ x ∈ u, (!p x) = true) → (∀ x ∈ v, p x = true) →
      (u ++ v).filter p = v := by
    intro u v hu hv
    rw [List.filter_append, List.filter_eq_self.2 hv, List.filter_eq_nil_iff.2, List.nil_append]
    intro x hx hpx
    have hno := hu x hx
    rw [hpx] at hno
    cases hno
  have hright : b = b' := by
    rw [← hwith ha hb, h, hwith ha' hb']
  rw [hright] at h
  exact ⟨List.append_cancel_right h, hright⟩

theorem filter_mergeSort {α : Type} {le : α → α → Bool}
    (htrans : ∀ a b c, le a b → le b c → le a c)
    (htotal : ∀ a b, le a b || le b a) (p : α → Bool) (l : List α) :
    (l.mergeSort le).filter p = (l.filter p).mergeSort le := by
  induction l with
  | nil => rw [List.mergeSort_nil, List.filter_nil, List.mergeSort_nil]
  | cons a l ih =>
    obtain ⟨less, more, hsort, hrest, hless⟩ := List.mergeSort_cons htrans htotal a l
    have hsorted := List.pairwise_mergeSort htrans htotal (a :: l)
    rw [hrest, List.filter_append] at ih
    rw [hsort] at hsorted ⊢
    have hmore := (List.pairwise_cons.1 (List.pairwise_append.1 hsorted).2.1).1
    rw [List.filter_append]
    by_cases ha : p a = true
    · rw [List.filter_cons_of_pos ha, List.filter_cons_of_pos ha]
      obtain ⟨less', more', hsort', hrest', hless'⟩ := List.mergeSort_cons htrans htotal a (l.filter p)
      have hsorted' := List.pairwise_mergeSort htrans htotal (a :: l.filter p)
      rw [hsort'] at hsorted' ⊢
      have hmore' := (List.pairwise_cons.1 (List.pairwise_append.1 hsorted').2.1).1
      rw [hrest'] at ih
      obtain ⟨hsame, hsame'⟩ := append_inj_of_filter ih
        (fun x hx => hless x (List.mem_of_mem_filter hx)) (fun x hx => hmore x (List.mem_of_mem_filter hx))
        hless' hmore'
      rw [hsame, hsame']
    · rw [List.filter_cons_of_neg ha, List.filter_cons_of_neg ha]
      exact ih

theorem flatMap_snd_filter {α β : Type} (l : List (α × List β)) :
    (l.filter fun x => !x.2.isEmpty).flatMap Prod.snd = l.flatMap Prod.snd := by
  induction l with
  | nil => rfl
  | cons x rest ih =>
    obtain ⟨a, bs⟩ := x
    cases bs with
    | nil => exact ih
    | cons b bs =>
      rw [List.filter_cons_of_pos rfl, List.flatMap_cons, List.flatMap_cons, ih]

theorem childFiles_cons (ignored : String → Bool) (base : List String) (x : String × FileTree)
    (rest : List (String × FileTree)) :
    childFiles ignored base (x :: rest) = childFiles ignored base [x] ++ childFiles ignored base rest := by
  obtain ⟨name, c⟩ := x
  cases c <;> simp [childFiles]

theorem childFiles_append (ignored : String → Bool) (base : List String)
    (cs ds : List (String × FileTree)) :
    childFiles ignored base (cs ++ ds) = childFiles ignored base cs ++ childFiles ignored base ds := by
  induction cs with
  | nil => rfl
  | cons x rest ih =>
    rw [List.cons_append, childFiles_cons, ih, childFiles_cons ignored base x rest, List.append_assoc]

theorem childFiles_folder (ignored : String → Bool) (base : List String) (name : String)
    (ds : List (String × FileTree)) : childFiles ignored base [(name, folder ds)] =
      [(name, if isHidden name then [] else if ignored (relative (base ++ [name]) ++ "/") then []
        else (folder ds).filesBelow ignored (base ++ [name]))] := by
  simp [childFiles]

theorem setChild_of_none (h : cs.lookup name = none) (c : FileTree) :
    setChild name c cs = cs ++ [(name, c)] := by
  induction cs with
  | nil => rfl
  | cons x rest ih =>
    obtain ⟨n, d⟩ := x
    rw [List.lookup_cons] at h
    split at h
    · cases h
    · rename_i hn
      rw [beq_eq_false_iff_ne] at hn
      rw [setChild, if_neg fun heq => hn (beq_iff_eq.1 heq).symm, ih h, List.cons_append]

theorem name_le_trans {α : Type} (a b c : String × α) (hab : decide (a.1 ≤ b.1) = true)
    (hbc : decide (b.1 ≤ c.1) = true) : decide (a.1 ≤ c.1) = true :=
  decide_eq_true (le_trans (of_decide_eq_true hab) (of_decide_eq_true hbc))

theorem name_le_total {α : Type} (a b : String × α) :
    (decide (a.1 ≤ b.1) || decide (b.1 ≤ a.1)) = true := by
  rw [Bool.or_eq_true, decide_eq_true_iff, decide_eq_true_iff]
  exact le_total a.1 b.1

theorem filesBelow_append_folder (ignored : String → Bool) (base : List String)
    (cs : List (String × FileTree))
    (name : String) : (folder (cs ++ [(name, folder [])])).filesBelow ignored base =
      (folder cs).filesBelow ignored base := by
  have hempty : childFiles ignored base [(name, folder [])] = [(name, [])] := by
    have hfolder : (folder []).filesBelow ignored (base ++ [name]) = [] := by
      unfold filesBelow childFiles
      rw [List.mergeSort_nil, List.flatMap_nil]
    rw [childFiles_folder, hfolder, ite_self, ite_self]
  have hdropped : [(name, ([] : List (List String)))].filter (fun x => !x.2.isEmpty) = [] := rfl
  unfold filesBelow
  rw [← flatMap_snd_filter, filter_mergeSort name_le_trans name_le_total, childFiles_append, hempty,
    List.filter_append]
  rw [← flatMap_snd_filter (List.mergeSort (childFiles ignored base cs) _),
    filter_mergeSort name_le_trans name_le_total]
  rw [hdropped, List.append_nil]

theorem childFiles_setChild {ds ds' : List (String × FileTree)} {ignored : String → Bool}
    (h : cs.lookup name = some (folder ds))
    (hsame : ∀ base, (folder ds').filesBelow ignored base = (folder ds).filesBelow ignored base)
    (base : List String) :
    childFiles ignored base (setChild name (folder ds') cs) = childFiles ignored base cs := by
  induction cs with
  | nil => cases h
  | cons x rest ih =>
    obtain ⟨n, d⟩ := x
    rw [List.lookup_cons] at h
    split at h
    · rename_i hn
      cases h
      obtain rfl := beq_iff_eq.1 hn
      rw [setChild, if_pos (beq_self_eq_true _), childFiles_cons, childFiles_folder, hsame,
        ← childFiles_folder, ← childFiles_cons]
    · rename_i hn
      rw [beq_eq_false_iff_ne] at hn
      rw [setChild, if_neg fun heq => hn (beq_iff_eq.1 heq).symm, childFiles_cons, ih h, ← childFiles_cons]

/-- Where nothing stands, an empty folder changes nothing in what is found. -/
theorem filesBelow_put_folder {up : List String} {ds : List (String × FileTree)} (ignored : String → Bool)
    (hup : (folder cs).get? up = some (folder ds)) (hnone : ds.lookup name = none) :
    ∃ cs', (folder cs).put (folder []) (up ++ [name]) = folder cs' ∧
      ∀ base, (folder cs').filesBelow ignored base = (folder cs).filesBelow ignored base := by
  induction up generalizing cs with
  | nil =>
    cases hup
    refine ⟨ds ++ [(name, folder [])], ?_, fun base => filesBelow_append_folder ignored base ds name⟩
    rw [List.nil_append, put_singleton, setChild_of_none hnone]
  | cons x up ih =>
    obtain ⟨_, c, heq, hc, hup⟩ := exists_folder_of_get?_cons hup
    cases heq
    obtain ⟨es, rfl⟩ : ∃ es, c = folder es := by
      cases up with
      | nil => exact ⟨ds, Option.some.inj hup⟩
      | cons y more =>
        obtain ⟨es, _, rfl, _⟩ := exists_folder_of_get?_cons hup
        exact ⟨es, rfl⟩
    obtain ⟨es', hput, hsame⟩ := ih hup
    refine ⟨setChild x (folder es') cs, ?_, ?_⟩
    · rw [List.cons_append, put_cons hc, hput]
    · intro base
      unfold filesBelow
      rw [childFiles_setChild hc hsame]

/-- A folder stays as it is when something is put elsewhere. -/
theorem get?_put_outside {up root : List String} {ds : List (String × FileTree)}
    (hup : t.get? up = some (folder ds))
    (hfree : t.Free (up ++ [name])) (hroot : t.get? root = some (folder cs))
    (hstart : ¬ root <+: up ++ [name])
    (node : FileTree) : (t.put node (up ++ [name])).get? root = some (folder cs) := by
  rw [get?_put_of_apart hup node ?_ hstart, hroot]
  intro h
  rw [hfree.eq_of_start h hroot] at hstart
  exact hstart List.prefix_rfl

/-- A folder below which no files were put holds the files that it held. -/
theorem Grown.filesBelow_eq {places : List (List String)} {root : List String} (ignored : String → Bool)
    (h : Grown places t t') (hplaces : ∀ q ∈ places, root <+: q → q = root)
    (hroot : t.get? root = some (.folder cs)) :
    ∃ cs', t'.get? root = some (.folder cs') ∧ ∀ base, (FileTree.folder cs').filesBelow ignored base =
      (FileTree.folder cs).filesBelow ignored base := by
  induction h with
  | refl => exact ⟨cs, hroot, fun _ => rfl⟩
  | @folder t' up name ds h hup hfree ih =>
    obtain ⟨cs', hroot', hsame⟩ := ih
    by_cases hstart : root <+: up ++ [name]
    · rcases List.prefix_concat_iff.1 hstart with heq | hstart
      · rw [heq, hfree] at hroot'
        cases hroot'
      · obtain ⟨rest, rfl⟩ := hstart
        rw [get?_append, hroot', Option.bind_some] at hup
        have hnone : ds.lookup name = none := by
          rw [List.append_assoc, get?_append, hroot', Option.bind_some, get?_concat hup] at hfree
          exact hfree
        obtain ⟨cs'', hput, hsame'⟩ := filesBelow_put_folder ignored hup hnone
        refine ⟨cs'', ?_, ?_⟩
        · rw [List.append_assoc, get?_put_append hroot', hput]
        · intro base
          rw [hsame', hsame]
    · exact ⟨cs', get?_put_outside hup (free_of_none hfree) hroot' hstart _, hsame⟩
  | @file t' up name ds content h hup hfree hplace ih =>
    obtain ⟨cs', hroot', hsame⟩ := ih
    refine ⟨cs', get?_put_outside hup hfree hroot' ?_ _, hsame⟩
    intro hstart
    rw [hplaces _ hplace hstart] at hfree
    cases hfree _ hroot'

end FileTree

namespace Path

theorem settle_of_not_mem {steps : List String} (h : ".." ∉ steps) : settle steps = steps := by
  have hfold : ∀ done, steps.foldl settleStep done = done ++ steps := by
    induction steps with
    | nil => exact fun done => (List.append_nil done).symm
    | cons step rest ih =>
      intro done
      obtain ⟨hstep, hrest⟩ := List.ne_and_not_mem_of_not_mem_cons h
      rw [List.foldl_cons, settleStep, if_neg hstep.symm, ih hrest, List.append_assoc, List.singleton_append]
  rw [settle_eq_foldl, hfold, List.nil_append]

end Path

namespace Disk

variable {d d' : Disk} {p root : Path} {places : List (List String)}

/-- A path without `..` finds alike what stands on two disks in its place. -/
theorem find_of_get? {n n' : FileTree} (habs : p.isAbsolute = true) (hback : ".." ∉ p.steps)
    (h : d.tree.get? p.steps = some n) (h' : d'.tree.get? p.steps = some n') :
    d'.find p = (d.find p).map fun _ => n' := by
  have hfollow := follow_of_get? (s := []) h hback
  have hfollow' := follow_of_get? (s := []) h' hback
  unfold find locate
  rw [if_pos habs, if_pos habs, hfollow, hfollow']
  split
  · rfl
  · split
    · rfl
    · split <;> rfl

theorem find_file_later (h : Later places d d') (habs : p.isAbsolute = true) (hback : ".." ∉ p.steps)
    {b : ByteArray} (hfile : d.tree.get? p.steps = some (.file b)) (hplace : p.steps ∉ places) :
    d'.find p = d.find p := by
  rw [find_of_get? habs hback hfile (h.grown.file_kept hplace hfile)]
  exact (find_of_get? habs hback hfile hfile).symm

theorem find_of_find? {n : FileTree} (h : d.find? p = .ok (some n)) : d.find p = .ok n := by
  unfold find? at h
  split at h
  · rename_i n' hn'
    cases h
    exact hn'
  · cases h
  · cases h

theorem scripts_eq_ok {ignoreFile : String} {extensions : List String} {found : List (List String)} :
    d.scripts root ignoreFile extensions = .ok found ↔
      ∃ cs rules, d.find root = .ok (.folder cs) ∧ d.ignoreRules (root.child ignoreFile) = .ok rules ∧
        found = (FileTree.folder cs).scripts (IgnoreRule.ignores rules) extensions := by
  unfold scripts
  constructor
  · intro h
    obtain ⟨there, hthere, h⟩ := bind_eq_ok.1 h
    cases there with
    | none => cases h
    | some n =>
      cases n with
      | file b => cases h
      | folder cs =>
        obtain ⟨rules, hrules, h⟩ := bind_eq_ok.1 h
        exact ⟨cs, rules, find_of_find? (mapError_eq_ok.1 hthere), hrules, (Except.ok.inj h).symm⟩
  · rintro ⟨cs, rules, hfolder, hrules, rfl⟩
    rw [find?_of_find hfolder, hrules]
    rfl

/-- The same scripts are found again when nothing was written below the root and the ignore file says the
same; each of them is a file below the root. -/
theorem scripts_later {ignoreFile : String} {extensions : List String} {found : List (List String)}
    (h : Later places d d') (hproper : d.tree.isProper = true) (habs : root.isAbsolute = true)
    (hback : ".." ∉ root.steps) (houtside : ∀ q ∈ places, root.steps <+: q → q = root.steps)
    (hrules : d'.ignoreRules (root.child ignoreFile) = d.ignoreRules (root.child ignoreFile))
    (hfound : d.scripts root ignoreFile extensions = .ok found) :
    d'.scripts root ignoreFile extensions = .ok found ∧
      ∀ place ∈ found, ".." ∉ place ∧ root.steps ++ place ∉ places ∧
        ∃ b, d.tree.get? (root.steps ++ place) = some (.file b) := by
  obtain ⟨cs, rules, hfind, hignore, rfl⟩ := scripts_eq_ok.1 hfound
  obtain ⟨place, hlocate⟩ := find_eq_ok.1 hfind
  obtain ⟨_, _, hfollow⟩ := locate_eq_ok.1 hlocate
  rw [if_pos habs] at hfollow
  have hplace : place = root.steps := by
    rw [← Path.settle_of_not_mem hback]
    exact follow_place hfollow
  have hroot : d.tree.get? root.steps = some (.folder cs) := by
    rw [← hplace]
    exact get?_of_follow hfollow
  obtain ⟨cs', hroot', hsame⟩ := h.grown.filesBelow_eq (IgnoreRule.ignores rules) houtside hroot
  constructor
  · refine scripts_eq_ok.2 ⟨cs', rules, ?_, hrules.trans hignore, ?_⟩
    · rw [find_of_get? habs hback hroot hroot', hfind]
      rfl
    · unfold FileTree.scripts
      rw [hsame]
  · intro place hmem
    obtain ⟨rest, b, heq, hfile, hrest⟩ := FileTree.file_of_mem_filesBelow (FileTree.folder cs)
      (FileTree.isProper_of_get? hproper hroot) (List.mem_of_mem_filter hmem)
    rw [List.nil_append] at heq
    subst heq
    have hthere : d.tree.get? (root.steps ++ place) = some (.file b) := by
      rw [FileTree.get?_append, hroot]
      exact hfile
    refine ⟨hrest, ?_, b, hthere⟩
    intro hwritten
    rw [houtside _ hwritten (List.prefix_append root.steps place), hroot] at hthere
    cases hthere

/-- The current directory was not removed. -/
def HasCurrent (d : Disk) : Prop := ∃ cs, d.tree.get? d.cwd = some (.folder cs)

theorem HasCurrent.later (hd : d.HasCurrent) (h : Later places d d') : d'.HasCurrent := by
  have hkept := h.grown.folder_kept hd
  rw [← h.cwd] at hkept
  exact hkept

theorem current_eq_ok {base : Path} : d.current = .ok base ↔ d.HasCurrent ∧ base = ⟨"/", d.cwd⟩ := by
  unfold current HasCurrent
  split
  · rename_i cs hcs
    rw [hcs]
    constructor
    · intro h
      cases h
      exact ⟨⟨cs, rfl⟩, rfl⟩
    · rintro ⟨_, rfl⟩
      rfl
  · rename_i hfolder
    constructor
    · intro h
      cases h
    · rintro ⟨⟨cs, hcs⟩, _⟩
      exact (hfolder cs hcs).elim

theorem resolve_eq_ok : d.resolve p = .ok root ↔
    p.hasNul = false ∧ (p.isAbsolute = true ∨ d.HasCurrent) ∧ root = p.resolve d.cwd := by
  unfold resolve
  cases p.hasNul with
  | true => simp
  | false =>
    cases p.isAbsolute with
    | true => simp [eq_comm]
    | false =>
      simp only [Bool.false_eq_true, if_false, true_and, false_or, map_eq_ok, current_eq_ok]
      constructor
      · rintro ⟨base, ⟨hcurrent, rfl⟩, rfl⟩
        exact ⟨hcurrent, rfl⟩
      · rintro ⟨hcurrent, rfl⟩
        exact ⟨_, ⟨hcurrent, rfl⟩, rfl⟩

theorem back_of_resolve (h : d.resolve p = .ok root) : root.isAbsolute = true ∧ ".." ∉ root.steps := by
  obtain ⟨_, _, rfl⟩ := resolve_eq_ok.1 h
  exact ⟨rfl, Path.not_mem_settle _⟩

theorem current_later {base : Path} (h : Later places d d') (hbase : d.current = .ok base) :
    d'.current = .ok base := by
  obtain ⟨hcurrent, rfl⟩ := current_eq_ok.1 hbase
  rw [← h.cwd]
  exact current_eq_ok.2 ⟨hcurrent.later h, rfl⟩

theorem resolve_later (h : Later places d d') (hroot : d.resolve p = .ok root) : d'.resolve p = .ok root := by
  obtain ⟨hnul, hcurrent, rfl⟩ := resolve_eq_ok.1 hroot
  rw [← h.cwd]
  exact resolve_eq_ok.2 ⟨hnul, hcurrent.imp_right fun hd => hd.later h, rfl⟩

def rulesFor (d : Disk) (x : Discovery) : Except DiscoveryError (List IgnoreRule) := do
  let root ← (d.resolve (.ofString x.schemaRoot)).mapError .file
  d.ignoreRules (root.child x.ignoreFile)

theorem rulesFor_eq {x : Discovery} (h : d.resolve (.ofString x.schemaRoot) = .ok root) :
    d.rulesFor x = d.ignoreRules (root.child x.ignoreFile) := by
  unfold rulesFor
  rw [h]
  simp only [Except.mapError, bind, Except.bind]

theorem mem_classify {x : Discovery} {found : List (List String)}
    (h : p ∈ (classify x root found).tables ∨ p ∈ (classify x root found).seeds) :
    ∃ place ∈ found, p = ⟨root.root, root.steps ++ place⟩ := by
  rcases h with h | h
  · obtain ⟨place, hplace, rfl⟩ := List.mem_map.1 h
    exact ⟨place, List.mem_of_mem_filter hplace, rfl⟩
  · obtain ⟨place, hplace, rfl⟩ := List.mem_map.1 h
    exact ⟨place, List.mem_of_mem_filter hplace, rfl⟩

theorem scriptFiles_later {x : Discovery} {files : ScriptFiles} (h : Later places d d')
    (hproper : d.tree.isProper = true)
    (houtside : ∀ root, d.resolve (.ofString x.schemaRoot) = .ok root →
      ∀ q ∈ places, root.steps <+: q → q = root.steps)
    (hrules : d'.rulesFor x = d.rulesFor x) (hfiles : d.scriptFiles x.schemaRoot x = .ok files) :
    d'.scriptFiles x.schemaRoot x = .ok files ∧
      ∀ p, p ∈ files.tables ∨ p ∈ files.seeds → d'.find p = d.find p := by
  unfold scriptFiles at hfiles
  obtain ⟨root, hroot, hfiles⟩ := bind_eq_ok.1 hfiles
  obtain ⟨found, hfound, hfiles⟩ := bind_eq_ok.1 hfiles
  cases hfiles
  have hresolve : d.resolve (.ofString x.schemaRoot) = .ok root := mapError_eq_ok.1 hroot
  obtain ⟨habs, hback⟩ := back_of_resolve hresolve
  have hresolve' := resolve_later h hresolve
  rw [rulesFor_eq hresolve', rulesFor_eq hresolve] at hrules
  obtain ⟨hagain, hheld⟩ := scripts_later h hproper habs hback (houtside root hresolve) hrules hfound
  constructor
  · exact bind_eq_ok.2 ⟨root, mapError_eq_ok.2 hresolve', bind_eq_ok.2 ⟨found, hagain, rfl⟩⟩
  · intro p hp
    obtain ⟨place, hmem, rfl⟩ := mem_classify hp
    obtain ⟨hrest, hunwritten, b, hfile⟩ := hheld place hmem
    have hsteps : ".." ∉ root.steps ++ place := by
      rw [List.mem_append]
      rintro (hmem | hmem)
      · exact hback hmem
      · exact hrest hmem
    have habs' : Path.isAbsolute ⟨root.root, root.steps ++ place⟩ = true := habs
    exact find_file_later h habs' hsteps hfile hunwritten

end Disk

end SchemaBindings

import Mathlib
import SchemaBindings.Files.Tree

/-!
What stands where after something is put into a tree, and trees that grow by empty folders and by files.
-/

namespace SchemaBindings.FileTree

set_option autoImplicit false

variable {t t' node : FileTree} {up q : List String} {name : String} {cs : List (String × FileTree)}

theorem get?_cons (t : FileTree) (name : String) (rest : List String) :
    t.get? (name :: rest) = (t.children.lookup name).bind fun c => c.get? rest := rfl

theorem get?_append (t : FileTree) (p q : List String) : t.get? (p ++ q) = (t.get? p).bind (·.get? q) := by
  induction p generalizing t with
  | nil => rfl
  | cons name rest ih =>
    rw [List.cons_append, get?_cons, get?_cons]
    cases t.children.lookup name with
    | none => rfl
    | some c => exact ih c

theorem get?_singleton (t : FileTree) (name : String) : t.get? [name] = t.children.lookup name := by
  rw [get?_cons]
  cases t.children.lookup name <;> rfl

theorem get?_concat (h : t.get? up = some (.folder cs)) (name : String) :
    t.get? (up ++ [name]) = cs.lookup name := by
  rw [get?_append, h, Option.bind_some, get?_singleton]
  rfl

theorem get?_file {b : ByteArray} (hq : q ≠ []) : (FileTree.file b).get? q = none := by
  cases q with
  | nil => exact (hq rfl).elim
  | cons name rest => rfl

theorem exists_folder_of_get?_cons {rest : List String} (h : t.get? (name :: rest) = some node) :
    ∃ cs c, t = .folder cs ∧ cs.lookup name = some c ∧ c.get? rest = some node := by
  cases t with
  | file b => cases h
  | folder cs =>
    rw [get?_cons] at h
    obtain ⟨c, hc, hnode⟩ := Option.bind_eq_some_iff.1 h
    exact ⟨cs, c, rfl, hc, hnode⟩

theorem exists_folder_of_get?_concat (h : t.get? (up ++ [name]) = some node) :
    ∃ cs, t.get? up = some (.folder cs) := by
  rw [get?_append] at h
  obtain ⟨n, hn, hnode⟩ := Option.bind_eq_some_iff.1 h
  obtain ⟨cs, _, rfl, _⟩ := exists_folder_of_get?_cons hnode
  exact ⟨cs, hn⟩

theorem put_nil (t node : FileTree) : t.put node [] = node := by
  cases t <;> rfl

theorem put_cons {c : FileTree} (h : cs.lookup name = some c) (node : FileTree) (rest : List String) :
    (FileTree.folder cs).put node (name :: rest) = .folder (setChild name (c.put node rest) cs) := by
  change FileTree.folder (setChild name (((cs.lookup name).getD (folder [])).put node rest) cs) = _
  rw [h, Option.getD_some]

theorem put_singleton (cs : List (String × FileTree)) (node : FileTree) (name : String) :
    (FileTree.folder cs).put node [name] = .folder (setChild name node cs) := by
  change FileTree.folder (setChild name (((cs.lookup name).getD (folder [])).put node []) cs) = _
  rw [put_nil]

theorem get?_put_append {sub : FileTree} {p : List String} (h : t.get? p = some sub) (node : FileTree)
    (q : List String) : (t.put node (p ++ q)).get? p = some (sub.put node q) := by
  induction p generalizing t with
  | nil =>
    cases h
    rfl
  | cons name rest ih =>
    obtain ⟨cs, c, rfl, hc, hsub⟩ := exists_folder_of_get?_cons h
    rw [List.cons_append, put_cons hc]
    rw [get?_cons, children, lookup_setChild_self, Option.bind_some]
    exact ih hsub

theorem get?_put_self (h : t.get? up = some (.folder cs)) (node : FileTree) (name : String) :
    (t.put node (up ++ [name])).get? (up ++ [name]) = some node := by
  rw [get?_append, get?_put_append h, Option.bind_some, put_singleton, get?_singleton]
  exact lookup_setChild_self name node cs

theorem get?_put_below (h : t.get? up = some (.folder cs)) (node : FileTree) (name : String)
    (rest : List String) : (t.put node (up ++ [name])).get? (up ++ [name] ++ rest) = node.get? rest := by
  rw [get?_append, get?_put_self h, Option.bind_some]

theorem setChild_of_lookup {c : FileTree} (h : cs.lookup name = some c) : setChild name c cs = cs := by
  induction cs with
  | nil => cases h
  | cons x rest ih =>
    obtain ⟨n, d⟩ := x
    rw [List.lookup_cons] at h
    unfold setChild
    by_cases hn : name = n
    · subst hn
      rw [beq_self_eq_true] at h ⊢
      cases h
      rfl
    · rw [beq_false_of_ne hn] at h
      rw [beq_false_of_ne (Ne.symm hn), ih h]
      rfl

theorem put_of_get? (h : t.get? q = some node) : t.put node q = t := by
  induction q generalizing t with
  | nil =>
    cases h
    exact put_nil _ _
  | cons name rest ih =>
    obtain ⟨cs, c, rfl, hc, hnode⟩ := exists_folder_of_get?_cons h
    rw [put_cons hc, ih hnode, setChild_of_lookup hc]

/-- Whether a file or a folder stands at a place, and what the file holds. -/
def look (t : FileTree) (q : List String) : Option (Option ByteArray) := (t.get? q).map content?

theorem look_eq_folder : t.look q = some none ↔ ∃ cs, t.get? q = some (.folder cs) := by
  unfold look
  cases t.get? q with
  | none => simp
  | some n => cases n <;> simp [content?]

theorem look_eq_file {b : ByteArray} : t.look q = some (some b) ↔ t.get? q = some (.file b) := by
  unfold look
  cases t.get? q with
  | none => simp
  | some n => cases n <;> simp [content?]

/-- What stands neither on the way to the place nor below it stays as it is. -/
theorem get?_put_of_apart (h : t.get? up = some (.folder cs)) (node : FileTree) (hq : ¬ up ++ [name] <+: q)
    (hq' : ¬ q <+: up ++ [name]) : (t.put node (up ++ [name])).get? q = t.get? q := by
  induction up generalizing t q with
  | nil =>
    cases h
    rw [List.nil_append] at hq hq' ⊢
    cases q with
    | nil => exact (hq' List.nil_prefix).elim
    | cons n rest =>
      have hn : n ≠ name := by
        rintro rfl
        exact hq (List.prefix_append [n] rest)
      rw [put_singleton, get?_cons, get?_cons, children, children, lookup_setChild_of_ne hn]
  | cons x up ih =>
    obtain ⟨cs', c, rfl, hc, hup⟩ := exists_folder_of_get?_cons h
    rw [List.cons_append] at hq hq' ⊢
    cases q with
    | nil => exact (hq' List.nil_prefix).elim
    | cons n rest =>
      rw [put_cons hc, get?_cons, get?_cons, children, children]
      by_cases hn : n = x
      · subst hn
        rw [lookup_setChild_self, hc, Option.bind_some, Option.bind_some]
        apply ih hup
        · exact fun hstart => hq (List.cons_prefix_cons.2 ⟨rfl, hstart⟩)
        · exact fun hstart => hq' (List.cons_prefix_cons.2 ⟨rfl, hstart⟩)
      · rw [lookup_setChild_of_ne hn]

theorem exists_folder_of_start {rest : List String} (h : t.get? (q ++ rest) = some (.folder cs)) :
    ∃ ds, t.get? q = some (.folder ds) := by
  cases rest with
  | nil => exact ⟨cs, List.append_nil q ▸ h⟩
  | cons name rest =>
    rw [get?_append] at h
    obtain ⟨n, hn, hrest⟩ := Option.bind_eq_some_iff.1 h
    obtain ⟨ds, _, rfl, _⟩ := exists_folder_of_get?_cons hrest
    exact ⟨ds, hn⟩

/-- Nothing changes but at the place where something is put, and below it. -/
theorem look_put (h : t.get? up = some (.folder cs)) (node : FileTree) (hq : ¬ up ++ [name] <+: q) :
    (t.put node (up ++ [name])).look q = t.look q := by
  by_cases hway : q <+: up ++ [name]
  · rcases List.prefix_concat_iff.1 hway with rfl | ⟨rest, rfl⟩
    · exact (hq (List.prefix_refl _)).elim
    · obtain ⟨ds, hds⟩ := exists_folder_of_start h
      have hput := get?_put_append hds node (rest ++ [name])
      rw [look_eq_folder.2 ⟨ds, hds⟩, List.append_assoc, look_eq_folder]
      cases rest <;> exact ⟨_, hput⟩
  · unfold look
    rw [get?_put_of_apart h node hq hway]

/-- A file that is there afterwards was there before or belongs to what is put. -/
theorem file_of_put (h : t.get? up = some (.folder cs)) {b : ByteArray}
    (hfile : (t.put node (up ++ [name])).get? q = some (.file b)) :
    t.get? q = some (.file b) ∨ ∃ rest, q = up ++ [name] ++ rest ∧ node.get? rest = some (.file b) := by
  by_cases hstart : up ++ [name] <+: q
  · obtain ⟨rest, rfl⟩ := hstart
    rw [get?_put_below h] at hfile
    exact .inr ⟨rest, rfl, hfile⟩
  · rw [← look_eq_file, look_put h _ hstart, look_eq_file] at hfile
    exact .inl hfile

/-- No folder stands at the place. -/
def Free (t : FileTree) (place : List String) : Prop := ∀ n, t.get? place = some n → n.isFolder = false

theorem free_of_none (h : t.get? q = none) : t.Free q := by
  intro n hn
  rw [h] at hn
  cases hn

/-- Below a place where no folder stands there is nothing. -/
theorem Free.eq_of_start {place : List String} (hfree : t.Free place) (hq : place <+: q)
    (h : t.get? q = some node) : q = place := by
  obtain ⟨rest, rfl⟩ := hq
  rw [get?_append] at h
  obtain ⟨n, hn, hnode⟩ := Option.bind_eq_some_iff.1 h
  cases n with
  | folder cs => cases hfree _ hn
  | file b =>
    by_cases hrest : rest = []
    · rw [hrest, List.append_nil]
    · rw [get?_file hrest] at hnode
      cases hnode

theorem look_put_folder (hup : t.get? up = some (.folder cs)) (hfree : t.Free (up ++ [name]))
    (hq : t.look q = some none) : (t.put node (up ++ [name])).look q = some none := by
  rw [look_put hup]
  · exact hq
  · intro hstart
    obtain ⟨cs', hcs⟩ := look_eq_folder.1 hq
    have heq := hfree.eq_of_start hstart hcs
    rw [heq] at hcs
    cases hfree _ hcs

theorem look_put_file (hup : t.get? up = some (.folder cs)) (hfree : t.Free (up ++ [name]))
    (hne : q ≠ up ++ [name]) {b : ByteArray} (hq : t.look q = some (some b)) :
    (t.put node (up ++ [name])).look q = some (some b) := by
  rw [look_put hup]
  · exact hq
  · intro hstart
    exact hne (hfree.eq_of_start hstart (look_eq_file.1 hq))

/-- The tree comes from another one by putting empty folders where nothing stands, and files at the
places, where no folder stands. -/
inductive Grown (places : List (List String)) (t : FileTree) : FileTree → Prop
  | refl : Grown places t t
  | folder {t' : FileTree} {up : List String} {name : String} {cs : List (String × FileTree)}
      (h : Grown places t t') (hup : t'.get? up = some (.folder cs))
      (hfree : t'.get? (up ++ [name]) = none) : Grown places t (t'.put (.folder []) (up ++ [name]))
  | file {t' : FileTree} {up : List String} {name : String} {cs : List (String × FileTree)}
      {content : ByteArray} (h : Grown places t t') (hup : t'.get? up = some (.folder cs))
      (hfree : t'.Free (up ++ [name])) (hplace : up ++ [name] ∈ places) :
      Grown places t (t'.put (.file content) (up ++ [name]))

namespace Grown
variable {places more : List (List String)} {t'' : FileTree}

theorem trans (h : Grown places t t') (h' : Grown places t' t'') : Grown places t t'' := by
  induction h' with
  | refl => exact h
  | folder _ hup hfree ih => exact .folder ih hup hfree
  | file _ hup hfree hplace ih => exact .file ih hup hfree hplace

theorem mono (h : Grown places t t') (hmore : ∀ q ∈ places, q ∈ more) : Grown more t t' := by
  induction h with
  | refl => exact .refl
  | folder _ hup hfree ih => exact .folder ih hup hfree
  | file _ hup hfree hplace ih => exact .file ih hup hfree (hmore _ hplace)

theorem folder_kept (h : Grown places t t') (hq : ∃ cs, t.get? q = some (.folder cs)) :
    ∃ cs, t'.get? q = some (.folder cs) := by
  rw [← look_eq_folder] at hq ⊢
  induction h with
  | refl => exact hq
  | folder _ hup hfree ih => exact look_put_folder hup (free_of_none hfree) ih
  | file _ hup hfree _ ih => exact look_put_folder hup hfree ih

theorem file_kept (h : Grown places t t') (hq : q ∉ places) {b : ByteArray}
    (hfile : t.get? q = some (.file b)) : t'.get? q = some (.file b) := by
  rw [← look_eq_file] at hfile ⊢
  induction h with
  | refl => exact hfile
  | folder _ hup hfree ih =>
    refine look_put_file hup (free_of_none hfree) ?_ ih
    rintro rfl
    rw [look_eq_file, hfree] at ih
    cases ih
  | file _ hup hfree hplace ih =>
    refine look_put_file hup hfree ?_ ih
    rintro rfl
    exact hq hplace

/-- A file that is not at one of the places was there before. -/
theorem file_of_file (h : Grown places t t') (hq : q ∉ places) {b : ByteArray}
    (hfile : t'.get? q = some (.file b)) : t.get? q = some (.file b) := by
  induction h with
  | refl => exact hfile
  | folder _ hup _ ih =>
    obtain hbefore | ⟨rest, _, hrest⟩ := file_of_put hup hfile
    · exact ih hbefore
    · cases rest <;> cases hrest
  | file _ hup _ hplace ih =>
    obtain hbefore | ⟨rest, hwhere, hrest⟩ := file_of_put hup hfile
    · exact ih hbefore
    · cases rest with
      | nil =>
        rw [List.append_nil] at hwhere
        exact (hq (hwhere ▸ hplace)).elim
      | cons next more => cases hrest

end Grown

end SchemaBindings.FileTree

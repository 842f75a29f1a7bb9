import SchemaBindings.Files.Disk
import SchemaBindings.Proofs.Files.Placing
import SchemaBindings.Proofs.Results
import SchemaBindings.Proofs.Text.Pieces

/-!
Where paths lead, before and after a tree grows, and how making folders and writing files let it grow.
-/

namespace SchemaBindings

set_option autoImplicit false

open FileTree (Grown)

namespace Path

/-- One step of a path, `..` going back one. -/
def settleStep (done : List String) (step : String) : List String :=
  if step = ".." then done.dropLast else done ++ [step]

theorem settle_eq_foldl (steps : List String) : settle steps = steps.foldl settleStep [] := rfl

theorem settle_concat {steps : List String} {name : String} (hname : name ≠ "..") :
    settle (steps ++ [name]) = settle steps ++ [name] := by
  rw [settle_eq_foldl, List.foldl_append, List.foldl_cons, List.foldl_nil, settleStep, if_neg hname]
  rfl

theorem not_mem_settle (steps : List String) : ".." ∉ settle steps := by
  have hfold : ∀ done, ".." ∉ done → ".." ∉ steps.foldl settleStep done := by
    induction steps with
    | nil => exact fun done hdone => hdone
    | cons step rest ih =>
      intro done hdone
      apply ih
      unfold settleStep
      split
      · exact fun hmem => hdone (List.mem_of_mem_dropLast hmem)
      · rename_i hstep
        rw [List.mem_append, List.mem_singleton]
        rintro (hmem | rfl)
        · exact hdone hmem
        · exact hstep rfl
  rw [settle_eq_foldl]
  exact hfold [] List.not_mem_nil

theorem ofString_of_step {name : String} (hslash : '/' ∉ name.toList) (hlength : 2 < name.length) :
    ofString name = ⟨"", [name]⟩ ∧ name ≠ ".." := by
  have hother : ∀ c ∈ name.toList, isSlash c = false := by
    intro c hc
    exact beq_false_of_ne fun heq => hslash (heq ▸ hc)
  have hshort : ∀ s : String, s.length ≤ 2 → name ≠ s := by
    rintro s hs rfl
    omega
  have hroot : rootOf name.toList = "" := by
    unfold rootOf
    cases hname : name.toList with
    | nil => rfl
    | cons c rest =>
      rw [hname] at hother
      rw [List.takeWhile_cons, hother c List.mem_cons_self]
      rfl
  refine ⟨?_, hshort ".." (by decide)⟩
  unfold ofString
  simp only
  rw [hroot, Text.pieces_of_not_mem hother, List.map_singleton, String.ofList_toList, List.filter_cons_of_pos]
  · rfl
  · rw [Bool.and_eq_true, decide_eq_true_iff, decide_eq_true_iff]
    exact ⟨hshort "" (by decide), hshort "." (by decide)⟩

end Path

namespace Disk

variable {t t' : FileTree} {s steps : List String} {target : Target}

def Target.place : Target → List String
  | node place _ => place
  | vacant place => place

theorem follow_nil_eq_ok (h : follow t s [] = .ok target) :
    ∃ n, t.get? s = some n ∧ target = .node s n := by
  unfold follow at h
  split at h
  · rename_i n hn
    cases h
    exact ⟨n, hn, rfl⟩
  · cases h

theorem follow_cons_eq_ok {step : String} {rest : List String} (h : follow t s (step :: rest) = .ok target) :
    ∃ cs, t.get? s = some (.folder cs) ∧
      (step = ".." ∧ follow t s.dropLast rest = .ok target ∨
        step ≠ ".." ∧ step.utf8ByteSize ≤ nameLimit ∧
          ((cs.lookup step).isSome = true ∧ follow t (s ++ [step]) rest = .ok target ∨
            cs.lookup step = none ∧ rest = [] ∧ target = .vacant (s ++ [step]))) := by
  unfold follow at h
  split at h
  · cases h
  · cases h
  · rename_i cs hs
    refine ⟨cs, hs, ?_⟩
    split at h
    · rename_i hback
      exact .inl ⟨hback, h⟩
    · rename_i hback
      split at h
      · cases h
      · rename_i hlimit
        refine .inr ⟨hback, by omega, ?_⟩
        split at h
        · rename_i hstep
          exact .inl ⟨hstep, h⟩
        · rename_i hstep
          split at h
          · rename_i hrest
            cases h
            exact .inr ⟨Option.not_isSome_iff_eq_none.1 hstep, hrest, rfl⟩
          · cases h

theorem follow_back {cs : List (String × FileTree)} (h : t.get? s = some (.folder cs)) (rest : List String) :
    follow t s (".." :: rest) = follow t s.dropLast rest := by
  rw [follow]
  simp only [h]
  exact if_pos trivial

theorem follow_step {cs : List (String × FileTree)} {step : String} (h : t.get? s = some (.folder cs))
    (hback : step ≠ "..") (hlimit : step.utf8ByteSize ≤ nameLimit)
    (hstep : (cs.lookup step).isSome = true)
    (rest : List String) : follow t s (step :: rest) = follow t (s ++ [step]) rest := by
  rw [follow]
  simp only [h]
  rw [if_neg hback, if_neg (by omega), if_pos hstep]

theorem follow_nil {n : FileTree} (h : t.get? s = some n) : follow t s [] = .ok (.node s n) := by
  unfold follow
  rw [h]

/-- Where a path without `..` leads when something stands there; a name may be too long to be followed. -/
theorem follow_of_get? {n : FileTree} (h : t.get? (s ++ steps) = some n) (hback : ".." ∉ steps) :
    follow t s steps = if ∀ step ∈ steps, step.utf8ByteSize ≤ nameLimit then .ok (.node (s ++ steps) n)
      else .error .nameTooLong := by
  induction steps generalizing s with
  | nil =>
    rw [List.append_nil] at h ⊢
    rw [if_pos (List.forall_mem_nil _)]
    exact follow_nil h
  | cons step rest ih =>
    obtain ⟨hstep, hrest⟩ := List.ne_and_not_mem_of_not_mem_cons hback
    have hmore := h
    rw [FileTree.get?_append] at hmore
    obtain ⟨up, hup, hmore⟩ := Option.bind_eq_some_iff.1 hmore
    obtain ⟨cs, c, rfl, hc, _⟩ := FileTree.exists_folder_of_get?_cons hmore
    simp only [List.forall_mem_cons]
    by_cases hlimit : step.utf8ByteSize ≤ nameLimit
    · rw [follow_step hup hstep.symm hlimit (Option.isSome_of_eq_some hc)]
      rw [List.append_cons] at h
      rw [ih h hrest, ← List.append_cons]
      simp only [hlimit, true_and]
    · rw [if_neg fun hall => hlimit hall.1, follow]
      simp only [hup]
      rw [if_neg hstep.symm, if_pos (by omega)]

theorem follow_place (h : follow t s steps = .ok target) : target.place = steps.foldl Path.settleStep s := by
  induction steps generalizing s with
  | nil =>
    obtain ⟨n, _, rfl⟩ := follow_nil_eq_ok h
    rfl
  | cons step rest ih =>
    rw [List.foldl_cons, Path.settleStep]
    obtain ⟨cs, _, ⟨hback, hrest⟩ | ⟨hback, _, ⟨_, hrest⟩ | ⟨_, rfl, rfl⟩⟩⟩ :=
      follow_cons_eq_ok h
    · rw [if_pos hback]
      exact ih hrest
    · rw [if_neg hback]
      exact ih hrest
    · rw [if_neg hback]
      rfl

theorem get?_of_follow {q : List String} {n : FileTree} (h : follow t s steps = .ok (.node q n)) :
    t.get? q = some n := by
  induction steps generalizing s with
  | nil =>
    obtain ⟨n', hn, heq⟩ := follow_nil_eq_ok h
    cases heq
    exact hn
  | cons step rest ih =>
    obtain ⟨cs, _, ⟨_, hrest⟩ | ⟨_, _, ⟨_, hrest⟩ | ⟨_, _, heq⟩⟩⟩ := follow_cons_eq_ok h
    · exact ih hrest
    · exact ih hrest
    · cases heq

theorem vacant_of_follow {q : List String} (h : follow t s steps = .ok (.vacant q)) :
    ∃ up name cs, q = up ++ [name] ∧ t.get? up = some (.folder cs) ∧ cs.lookup name = none := by
  induction steps generalizing s with
  | nil =>
    obtain ⟨n, _, heq⟩ := follow_nil_eq_ok h
    cases heq
  | cons step rest ih =>
    obtain ⟨cs, hs, ⟨_, hrest⟩ | ⟨_, _, ⟨_, hrest⟩ | ⟨hnone, _, heq⟩⟩⟩ :=
      follow_cons_eq_ok h
    · exact ih hrest
    · exact ih hrest
    · cases heq
      exact ⟨s, step, cs, rfl, hs, hnone⟩

/-- A path leads to the same place when folders stay folders and something stands at that place. -/
theorem follow_of_folders (hfolders : ∀ q, (∃ cs, t.get? q = some (.folder cs)) →
    ∃ cs, t'.get? q = some (.folder cs)) (h : follow t s steps = .ok target) {n : FileTree}
    (hn : t'.get? target.place = some n) : follow t' s steps = .ok (.node target.place n) := by
  induction steps generalizing s with
  | nil =>
    obtain ⟨n', _, rfl⟩ := follow_nil_eq_ok h
    exact follow_nil hn
  | cons step rest ih =>
    obtain ⟨cs, hs, hcases⟩ := follow_cons_eq_ok h
    obtain ⟨cs', hs'⟩ := hfolders s ⟨cs, hs⟩
    rcases hcases with ⟨rfl, hrest⟩ | ⟨hback, hlimit, ⟨hstep, hrest⟩ | ⟨_, rfl, rfl⟩⟩
    · rw [follow_back hs']
      exact ih hrest
    · have hthere : (cs'.lookup step).isSome = true := by
        rw [← FileTree.get?_concat hs']
        cases rest with
        | nil =>
          obtain ⟨n', _, rfl⟩ := follow_nil_eq_ok hrest
          exact Option.isSome_of_eq_some hn
        | cons next more =>
          obtain ⟨cs'', hfolder, _⟩ := follow_cons_eq_ok hrest
          obtain ⟨_, hfolder'⟩ := hfolders _ ⟨cs'', hfolder⟩
          exact Option.isSome_of_eq_some hfolder'
      rw [follow_step hs' hback hlimit hthere]
      exact ih hrest
    · have hthere : (cs'.lookup step).isSome = true := by
        rw [← FileTree.get?_concat hs']
        exact Option.isSome_of_eq_some hn
      rw [follow_step hs' hback hlimit hthere]
      exact follow_nil hn

theorem follow_concat {last : String} (h : follow t s (steps ++ [last]) = .ok target) :
    ∃ q cs, follow t s steps = .ok (.node q (.folder cs)) := by
  induction steps generalizing s with
  | nil =>
    obtain ⟨cs, hs, _⟩ := follow_cons_eq_ok h
    exact ⟨s, cs, follow_nil hs⟩
  | cons step rest ih =>
    obtain ⟨cs, hs, ⟨rfl, hrest⟩ | ⟨hback, hlimit, ⟨hstep, hrest⟩ | ⟨_, hnil, _⟩⟩⟩ :=
      follow_cons_eq_ok h
    · rw [follow_back hs]
      exact ih hrest
    · rw [follow_step hs hback hlimit hstep]
      exact ih hrest
    · exact (List.append_ne_nil_of_right_ne_nil rest (List.cons_ne_nil last []) hnil).elim

end Disk

end SchemaBindings

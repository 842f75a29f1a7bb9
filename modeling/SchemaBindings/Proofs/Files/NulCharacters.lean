import SchemaBindings.Proofs.Files.Writing

/-!
Paths without a NUL character. What fails on the way to such a path is a fault of the disk, which an outcome
reports, so no write to it ends a run.
-/

namespace SchemaBindings

set_option autoImplicit false

def NoNul (s : String) : Prop := '\x00' ∉ s.toList

instance (s : String) : Decidable (NoNul s) := inferInstanceAs (Decidable ('\x00' ∉ s.toList))

theorem noNul_iff {s : String} : NoNul s ↔ ∀ c ∈ s.toList, c ≠ '\x00' := List.forall_mem_ne'.symm

namespace Path

variable {p q : Path}

structure NulFree (p : Path) : Prop where
  root : NoNul p.root
  steps : ∀ step ∈ p.steps, NoNul step

theorem NulFree.hasNul (h : p.NulFree) : p.hasNul = false := by
  have hsteps : NoNul ("/".intercalate p.steps) :=
    noNul_iff.2 (Text.forall_mem_toList_intercalate (by decide) fun step hstep => noNul_iff.1
      (h.steps step hstep))
  have htext : NoNul p.toString := by
    unfold toString
    split
    · decide
    · unfold NoNul
      rw [String.toList_append, List.mem_append, not_or]
      exact ⟨h.root, hsteps⟩
  unfold Path.hasNul
  rw [← Bool.not_eq_true, List.contains_iff_mem]
  exact htext

theorem nulFree_ofString {s : String} (h : NoNul s) : (ofString s).NulFree where
  root := by
    unfold ofString rootOf
    simp only
    split <;> decide
  steps := by
    intro step hstep
    obtain ⟨piece, hpiece, rfl⟩ := List.mem_map.1 (List.mem_of_mem_filter hstep)
    unfold NoNul
    rw [String.toList_ofList]
    exact fun hmem => h (Text.mem_of_mem_pieces hpiece hmem)

theorem NulFree.append (hp : p.NulFree) (hq : q.NulFree) : (p.append q).NulFree := by
  unfold Path.append
  split
  · exact hq
  · exact ⟨hp.root, List.forall_mem_append.2 ⟨hp.steps, hq.steps⟩⟩

theorem NulFree.child (h : p.NulFree) {name : String} (hname : NoNul name) : (p.child name).NulFree :=
  h.append (nulFree_ofString hname)

theorem mem_of_mem_settle {steps : List String} {step : String} (h : step ∈ settle steps) :
    step ∈ steps := by
  have hfold : ∀ done, step ∈ steps.foldl settleStep done → step ∈ done ∨ step ∈ steps := by
    clear h
    induction steps with
    | nil => exact fun done h => .inl h
    | cons next rest ih =>
      intro done h
      rcases ih _ h with hdone | hrest
      · unfold settleStep at hdone
        split at hdone
        · exact .inl (List.mem_of_mem_dropLast hdone)
        · rcases List.mem_append.1 hdone with hdone | hnext
          · exact .inl hdone
          · rw [List.mem_singleton.1 hnext]
            exact .inr List.mem_cons_self
      · exact .inr (List.mem_cons_of_mem next hrest)
  rw [settle_eq_foldl] at h
  rcases hfold [] h with hnil | hsteps
  · cases hnil
  · exact hsteps

theorem NulFree.resolve {cwd : List String} (hcwd : ∀ step ∈ cwd, NoNul step) (h : p.NulFree) :
    (p.resolve cwd).NulFree where
  root := (by decide : NoNul "/")
  steps := by
    intro step hstep
    have hmem := mem_of_mem_settle hstep
    split at hmem
    · exact h.steps step hmem
    · rcases List.mem_append.1 hmem with hmem | hmem
      · exact hcwd step hmem
      · exact h.steps step hmem

end Path

namespace Disk

variable {d d' : Disk} {p : Path} {α β : Type}

theorem bind_ne_nul {x : Except FileError α} {f : α → Except FileError β} (hx : x ≠ .error .nul)
    (hf : ∀ a, f a ≠ .error .nul) : (x >>= f) ≠ .error .nul := by
  cases x with
  | error e => exact fun h => hx (congrArg Except.error (Except.error.inj h))
  | ok a => exact hf a

theorem locate_ne_nul (hp : p.NulFree) : d.locate p ≠ .error .nul := by
  unfold locate
  rw [hp.hasNul, if_neg Bool.false_ne_true]
  split
  · rintro ⟨⟩
  · cases follow d.tree (if p.isAbsolute then [] else d.cwd) p.steps with
    | error e => rintro ⟨⟩
    | ok target => rintro ⟨⟩

theorem locate_bind_ne_nul (hp : p.NulFree) {f : Target → Except FileError α}
    (hnode : ∀ place n, f (.node place n) ≠ .error .nul)
    (hvacant : ∀ place, f (.vacant place) ≠ .error .nul) :
    (d.locate p >>= f) ≠ .error .nul := by
  apply bind_ne_nul (locate_ne_nul hp)
  intro target
  cases target with
  | node place n => exact hnode place n
  | vacant place => exact hvacant place

theorem find_ne_nul (hp : p.NulFree) : d.find p ≠ .error .nul := by
  apply locate_bind_ne_nul hp
  · rintro place n ⟨⟩
  · rintro place ⟨⟩

theorem find?_ne_nul (d : Disk) (p : Path) : d.find? p ≠ .error .nul := by
  unfold find?
  split <;> rintro ⟨⟩

theorem map_find?_ne_nul (d : Disk) (p : Path) (f : Option FileTree → α) :
    (d.find? p).map f ≠ .error .nul := by
  have hfind := find?_ne_nul d p
  cases hthere : d.find? p with
  | error e =>
    rw [hthere] at hfind
    exact fun h => hfind (congrArg Except.error (Except.error.inj h))
  | ok there => rintro ⟨⟩

theorem makeFolder_ne_nul (hp : p.NulFree) : d.makeFolder p ≠ .error .nul := by
  apply locate_bind_ne_nul hp
  · rintro place n ⟨⟩
  · rintro place ⟨⟩

theorem acceptFolder_ne_nul (d : Disk) (p : Path) {e : FileError} (he : e ≠ .nul) :
    (d.acceptFolder p e).2 ≠ .error .nul := by
  have hfolder : d.isFolder p ≠ .error .nul := map_find?_ne_nul d p _
  unfold acceptFolder
  simp only
  split
  · rintro ⟨⟩
  · exact fun h => he (Except.error.inj h)
  · rename_i e' h
    rw [h] at hfolder
    exact fun h' => hfolder (congrArg Except.error (Except.error.inj h'))

theorem makeFoldersFrom_ne_nul {root : String} (hroot : NoNul root) (d : Disk) {steps : List String}
    (hsteps : ∀ step ∈ steps, NoNul step) : (makeFoldersFrom root d steps).2 ≠ .error .nul := by
  have hfree : ∀ steps : List String, (∀ step ∈ steps, NoNul step) →
      (Path.mk root steps.reverse).NulFree :=
    fun steps h => ⟨hroot, fun step hstep => h step (List.mem_reverse.1 hstep)⟩
  induction steps generalizing d with
  | nil =>
    have hmake := makeFolder_ne_nul (d := d) (hfree [] hsteps)
    unfold makeFoldersFrom
    split
    · rintro ⟨⟩
    · rename_i e h
      apply acceptFolder_ne_nul
      rintro rfl
      exact hmake h
  | cons last up ih =>
    have hmake := fun d : Disk => makeFolder_ne_nul (d := d) (hfree (last :: up) hsteps)
    have hup := ih d fun step hstep => hsteps step (List.mem_cons_of_mem last hstep)
    unfold makeFoldersFrom
    simp only
    split
    · rintro ⟨⟩
    · split
      · rename_i d' e h
        rw [h] at hup
        exact hup
      · rename_i d' h
        split
        · rintro ⟨⟩
        · rintro ⟨⟩
        · rename_i e _ h
          apply acceptFolder_ne_nul
          rintro rfl
          exact hmake d' h
    · rename_i e _ h
      apply acceptFolder_ne_nul
      rintro rfl
      exact hmake d h

theorem makeFolders_ne_nul (hp : p.NulFree) : (d.makeFolders p).2 ≠ .error .nul :=
  makeFoldersFrom_ne_nul hp.root d fun step hstep => hp.steps step (List.mem_reverse.1 hstep)

theorem readText_ne_nul (hp : p.NulFree) : d.readText p ≠ .error .nul := by
  apply bind_ne_nul
  · apply bind_ne_nul (find_ne_nul hp)
    intro n
    cases n with
    | file b => rintro ⟨⟩
    | folder cs => rintro ⟨⟩
  · rintro bytes ⟨⟩

theorem holds_ne_nul (hp : p.NulFree) (content : String) : d.holds p content ≠ .error .nul := by
  apply bind_ne_nul (map_find?_ne_nul d p _)
  intro there
  cases there with
  | false => rintro ⟨⟩
  | true =>
    apply bind_ne_nul (readText_ne_nul hp)
    rintro text ⟨⟩

theorem write_ne_nul (hp : p.NulFree) (content : ByteArray) : d.write p content ≠ .error .nul := by
  apply locate_bind_ne_nul hp
  · intro place n
    cases n with
    | file b => rintro ⟨⟩
    | folder cs => rintro ⟨⟩
  · rintro place ⟨⟩

theorem update_ne_nul (hp : p.NulFree) (content : String) : d.update p content ≠ .error .nul := by
  apply bind_ne_nul (holds_ne_nul hp content)
  intro held
  cases held with
  | true => rintro ⟨⟩
  | false =>
    apply bind_ne_nul (write_ne_nul hp content.toUTF8)
    rintro d' ⟨⟩

theorem exists_failure {e : FileError} (he : e ≠ .nul) : ∃ outcome, failure p e = .ok outcome := by
  unfold failure
  split
  · exact (he rfl).elim
  · exact ⟨_, rfl⟩

theorem writeIfChanged_returns {o : Order} (ho : o.path.NulFree) :
    ∃ d' outcome, d.writeIfChanged o.directory o.name o.content = (d', .ok outcome) := by
  have hparent : o.path.parent.NulFree :=
    ⟨ho.root, fun step hstep => ho.steps step (List.mem_of_mem_dropLast hstep)⟩
  have hfolders := makeFolders_ne_nul (d := d) hparent
  unfold writeIfChanged
  simp only
  split
  · rename_i d₁ e h
    change d.makeFolders o.path.parent = _ at h
    rw [h] at hfolders
    obtain ⟨outcome, houtcome⟩ := exists_failure (p := o.path) fun he =>
      hfolders (congrArg Except.error he)
    exact ⟨d₁, outcome, congrArg (Prod.mk d₁) houtcome⟩
  · rename_i d₁ h
    have hupdate := update_ne_nul (d := d₁) ho o.content
    split
    · exact ⟨_, _, rfl⟩
    · rename_i e h
      change d₁.update o.path o.content = _ at h
      rw [h] at hupdate
      obtain ⟨outcome, houtcome⟩ := exists_failure (p := o.path) fun he =>
        hupdate (congrArg Except.error he)
      exact ⟨d₁, outcome, congrArg (Prod.mk d₁) houtcome⟩

theorem writeAll_returns {orders : List Order} (d : Disk) (h : ∀ o ∈ orders, o.path.NulFree) :
    ∃ d' outcomes, d.writeAll orders = (d', .ok outcomes) := by
  induction orders generalizing d with
  | nil => exact ⟨d, [], rfl⟩
  | cons o rest ih =>
    obtain ⟨ho, hrest⟩ := List.forall_mem_cons.1 h
    obtain ⟨d₁, outcome, hfirst⟩ := writeIfChanged_returns (d := d) ho
    obtain ⟨d₂, outcomes, hmore⟩ := ih d₁ hrest
    refine ⟨d₂, outcome :: outcomes, ?_⟩
    unfold writeAll
    simp only [hfirst, hmore]

end Disk

end SchemaBindings

import SchemaBindings.Batch.Output
import SchemaBindings.Proofs.Files.Following
import SchemaBindings.Proofs.Text.Returns

/-!
Writing files. What writing leaves behind is a grown tree, in which the file holds its text; a file that
holds its text already is not written again.
-/

namespace SchemaBindings

set_option autoImplicit false

open FileTree (Grown)
open Text (NoReturn unifyNewlines unifyNewlines_of_not_mem)

namespace Disk

variable {d d' : Disk} {p : Path}

theorem locate_eq_ok {target : Target} :
    d.locate p = .ok target ↔ p.hasNul = false ∧ p.toString.utf8ByteSize ≤ pathLimit ∧
      follow d.tree (if p.isAbsolute then [] else d.cwd) p.steps = .ok target := by
  unfold locate
  split
  · rename_i hnul
    constructor
    · intro h
      cases h
    · rintro ⟨hno, _⟩
      rw [hno] at hnul
      cases hnul
  · rename_i hnul
    rw [Bool.not_eq_true] at hnul
    split
    · rename_i hlong
      constructor
      · intro h
        cases h
      · rintro ⟨_, hshort, _⟩
        omega
    · rw [mapError_eq_ok]
      constructor
      · intro h
        exact ⟨hnul, by omega, h⟩
      · intro h
        exact h.2.2

theorem locate_place {target : Target} (habs : p.isAbsolute = true) (h : d.locate p = .ok target) :
    target.place = Path.settle p.steps := by
  obtain ⟨_, _, hfollow⟩ := locate_eq_ok.1 h
  rw [if_pos habs] at hfollow
  exact follow_place hfollow

/-- A disk after another one, on which folders were made and files written at the places. -/
structure Later (places : List (List String)) (d d' : Disk) : Prop where
  cwd : d'.cwd = d.cwd
  grown : Grown places d.tree d'.tree

theorem Later.refl (places : List (List String)) (d : Disk) : Later places d d := ⟨rfl, .refl⟩

theorem Later.trans {places : List (List String)} {d'' : Disk} (h : Later places d d')
    (h' : Later places d' d'') : Later places d d'' :=
  ⟨h'.cwd.trans h.cwd, h.grown.trans h'.grown⟩

theorem Later.mono {places more : List (List String)} (h : Later places d d')
    (hmore : ∀ q ∈ places, q ∈ more) : Later more d d' :=
  ⟨h.cwd, h.grown.mono hmore⟩

theorem Later.isFolder {places : List (List String)} (h : Later places d d')
    (hroot : d.tree.isFolder = true) : d'.tree.isFolder = true := by
  have hfolder : ∃ cs, d.tree.get? [] = some (.folder cs) := by
    cases htree : d.tree with
    | file b =>
      rw [htree] at hroot
      cases hroot
    | folder cs => exact ⟨cs, rfl⟩
  obtain ⟨cs, hcs⟩ := h.grown.folder_kept hfolder
  rw [Option.some.inj hcs]
  rfl

/-- A path leads to the same place on the later disk, if something stands there. -/
theorem Later.locate {places : List (List String)} {target : Target} (h : Later places d d')
    (htarget : d.locate p = .ok target) {n : FileTree} (hn : d'.tree.get? target.place = some n) :
    d'.locate p = .ok (.node target.place n) := by
  obtain ⟨hnul, hshort, hfollow⟩ := locate_eq_ok.1 htarget
  refine locate_eq_ok.2 ⟨hnul, hshort, ?_⟩
  rw [h.cwd]
  exact follow_of_folders (fun q hq => h.grown.folder_kept hq) hfollow hn

theorem later_makeFolder (h : d.makeFolder p = .ok d') : Later [] d d' := by
  unfold makeFolder at h
  obtain ⟨target, htarget, h⟩ := bind_eq_ok.1 h
  cases target with
  | node place n => cases h
  | vacant place =>
    cases h
    obtain ⟨_, _, hfollow⟩ := locate_eq_ok.1 htarget
    obtain ⟨up, name, cs, rfl, hup, hnone⟩ := vacant_of_follow hfollow
    refine ⟨rfl, .folder .refl hup ?_⟩
    rw [FileTree.get?_concat hup]
    exact hnone

theorem later_makeFoldersFrom (root : String) (d : Disk) (steps : List String) :
    Later [] d (makeFoldersFrom root d steps).1 := by
  induction steps generalizing d with
  | nil =>
    unfold makeFoldersFrom
    split
    · rename_i d' h
      exact later_makeFolder h
    · exact .refl [] d
  | cons last up ih =>
    unfold makeFoldersFrom
    simp only
    split
    · rename_i d' h
      exact later_makeFolder h
    · have hup := ih d
      split
      · rename_i d' e h
        rw [h] at hup
        exact hup
      · rename_i d' h
        rw [h] at hup
        split
        · rename_i d'' h
          exact hup.trans (later_makeFolder h)
        · exact hup
        · exact hup
    · exact .refl [] d

theorem later_makeFolders (d : Disk) (p : Path) : Later [] d (d.makeFolders p).1 :=
  later_makeFoldersFrom p.root d p.steps.reverse

theorem find_eq_ok {n : FileTree} : d.find p = .ok n ↔ ∃ place, d.locate p = .ok (.node place n) := by
  unfold find
  rw [bind_eq_ok]
  constructor
  · rintro ⟨target, htarget, h⟩
    cases target with
    | node place n' =>
      cases h
      exact ⟨place, htarget⟩
    | vacant place => cases h
  · rintro ⟨place, h⟩
    exact ⟨_, h, rfl⟩

theorem find?_of_find {n : FileTree} (h : d.find p = .ok n) : d.find? p = .ok (some n) := by
  unfold find?
  rw [h]

theorem makeFolders_of_folder {place : List String} {cs : List (String × FileTree)}
    (h : d.locate p = .ok (.node place (.folder cs))) : d.makeFolders p = (d, .ok ()) := by
  have hp : (⟨p.root, p.steps.reverse.reverse⟩ : Path) = p := by rw [List.reverse_reverse]
  have hexists : d.makeFolder p = .error (.fault .exists p) := by
    unfold makeFolder
    rw [h]
    rfl
  have hfolder : d.isFolder p = .ok true := by
    unfold isFolder
    rw [find?_of_find (find_eq_ok.2 ⟨place, h⟩)]
    rfl
  have haccept : acceptFolder d p (.fault .exists p) = (d, .ok ()) := by
    unfold acceptFolder
    rw [hfolder]
  unfold makeFolders
  generalize p.steps.reverse = back at hp
  cases back with
  | nil =>
    rw [List.reverse_nil] at hp
    unfold makeFoldersFrom
    rw [hp, hexists]
    exact haccept
  | cons last up =>
    unfold makeFoldersFrom
    simp only [hp, hexists]
    exact haccept

theorem exists_intercalate_concat (sep : String) (steps : List String) (last : String) :
    ∃ tail, sep.intercalate (steps ++ [last]) = sep.intercalate steps ++ tail := by
  induction steps with
  | nil =>
    refine ⟨last, ?_⟩
    rw [List.nil_append, String.intercalate_singleton, String.intercalate_nil, String.empty_append]
  | cons a rest ih =>
    cases rest with
    | nil =>
      refine ⟨sep ++ last, ?_⟩
      rw [List.cons_append, List.nil_append, String.intercalate_cons_cons, String.intercalate_singleton,
        String.intercalate_singleton, String.append_assoc]
    | cons b more =>
      obtain ⟨tail, htail⟩ := ih
      refine ⟨tail, ?_⟩
      rw [List.cons_append, List.cons_append, String.intercalate_cons_cons, String.intercalate_cons_cons,
        ← List.cons_append, htail, String.append_assoc, String.append_assoc, String.append_assoc]

theorem toString_of_isAbsolute (h : p.isAbsolute = true) :
    p.toString = p.root ++ "/".intercalate p.steps := by
  have hroot : p.root ≠ "" := of_decide_eq_true h
  unfold Path.toString
  rw [if_neg fun hempty => hroot hempty.1]

theorem locate_parent {place : List String} {n : FileTree} (habs : p.isAbsolute = true) (hne : p.steps ≠ [])
    (h : d.locate p = .ok (.node place n)) :
    ∃ q cs, d.locate p.parent = .ok (.node q (.folder cs)) := by
  obtain ⟨hnul, hshort, hfollow⟩ := locate_eq_ok.1 h
  obtain ⟨steps, last, hsteps⟩ : ∃ steps last, p.steps = steps ++ [last] :=
    ⟨_, _, (List.dropLast_append_getLast hne).symm⟩
  have hparent : p.parent = ⟨p.root, steps⟩ := by
    unfold Path.parent
    rw [hsteps, List.dropLast_concat]
  have habs' : p.parent.isAbsolute = true := habs
  obtain ⟨tail, htail⟩ := exists_intercalate_concat "/" steps last
  have htext : p.toString = p.parent.toString ++ tail := by
    rw [toString_of_isAbsolute habs, toString_of_isAbsolute habs', hparent, hsteps, htail,
      String.append_assoc]
  rw [if_pos habs, hsteps] at hfollow
  obtain ⟨q, cs, hfolder⟩ := follow_concat hfollow
  refine ⟨q, cs, locate_eq_ok.2 ⟨?_, ?_, ?_⟩⟩
  · unfold Path.hasNul at hnul ⊢
    rw [htext, String.toList_append, List.contains_append, Bool.or_eq_false_iff] at hnul
    exact hnul.1
  · rw [htext, String.utf8ByteSize_append] at hshort
    omega
  · rw [if_pos habs', hparent]
    exact hfolder

/-- The text that is read of a file of the bytes. -/
def reading (bytes : ByteArray) : String := String.ofList (unifyNewlines (Utf8.decodeLossy bytes).toList)

theorem reading_toUTF8 {s : String} (h : NoReturn s) : reading s.toUTF8 = s := by
  unfold reading
  rw [Utf8.decodeLossy_toUTF8, unifyNewlines_of_not_mem h, String.ofList_toList]

/-- A file is where the absolute path leads, and holds the text. -/
def Held (d : Disk) (p : Path) (content : String) : Prop :=
  ∃ place bytes, d.locate p = .ok (.node place (.file bytes)) ∧
    String.ofList (unifyNewlines (Utf8.decodeLossy bytes).toList) = content

theorem readText_of_file {place : List String} {bytes : ByteArray}
    (h : d.locate p = .ok (.node place (.file bytes))) :
    d.readText p = .ok (reading bytes) := by
  unfold readText read
  rw [find_eq_ok.2 ⟨place, h⟩]
  rfl

theorem readText_of_held {content : String} (h : d.Held p content) : d.readText p = .ok content := by
  obtain ⟨place, bytes, hlocate, rfl⟩ := h
  exact readText_of_file hlocate

/-- Whether a file that is there holds a text is seen from what is read of it. -/
theorem holds_of_readText {place : List String} {bytes : ByteArray} {text : String}
    (h : d.locate p = .ok (.node place (.file bytes))) (htext : d.readText p = .ok text) (content : String) :
    d.holds p content = .ok (text == content) := by
  have hexists : d.exists? p = .ok true := by
    unfold exists?
    rw [find?_of_find (find_eq_ok.2 ⟨place, h⟩)]
    rfl
  unfold holds
  rw [hexists, htext]
  rfl

theorem holds_of_held {content : String} (h : d.Held p content) : d.holds p content = .ok true := by
  have htext := readText_of_held h
  obtain ⟨place, bytes, hlocate, _⟩ := h
  rw [holds_of_readText hlocate htext, beq_self_eq_true]

theorem held_of_holds {content : String} (h : d.holds p content = .ok true) : d.Held p content := by
  unfold holds at h
  obtain ⟨there, hthere, h⟩ := bind_eq_ok.1 h
  cases there with
  | false => cases h
  | true =>
    obtain ⟨text, htext, h⟩ := bind_eq_ok.1 h
    have hsame : text = content := eq_of_beq (Except.ok.inj h)
    unfold readText at htext
    obtain ⟨bytes, hbytes, htext⟩ := bind_eq_ok.1 htext
    unfold read at hbytes
    obtain ⟨n, hn, hbytes⟩ := bind_eq_ok.1 hbytes
    cases n with
    | folder cs => cases hbytes
    | file b =>
      cases hbytes
      obtain ⟨place, hlocate⟩ := find_eq_ok.1 hn
      exact ⟨place, _, hlocate, (Except.ok.inj htext).trans hsame⟩

/-- What a file holds, it holds until something is put in its place. -/
theorem Held.later {content : String} {places : List (List String)} (h : d.Held p content)
    (habs : p.isAbsolute = true) (hlater : Later places d d') (hplace : Path.settle p.steps ∉ places) :
    d'.Held p content := by
  obtain ⟨place, bytes, hlocate, hcontent⟩ := h
  obtain ⟨_, _, hfollow⟩ := locate_eq_ok.1 hlocate
  have hsettle : place = Path.settle p.steps := locate_place habs hlocate
  have hfile := hlater.grown.file_kept (hsettle ▸ hplace) (get?_of_follow hfollow)
  exact ⟨place, bytes, hlater.locate hlocate hfile, hcontent⟩

theorem write_eq_ok {content : ByteArray} : d.write p content = .ok d' ↔
    ∃ target, d.locate p = .ok target ∧ (∀ q n, target = .node q n → n.isFolder = false) ∧
      d' = { d with tree := d.tree.put (.file content) target.place } := by
  unfold write
  rw [bind_eq_ok]
  constructor
  · rintro ⟨target, htarget, h⟩
    refine ⟨target, htarget, ?_⟩
    cases target with
    | vacant place =>
      cases h
      refine ⟨?_, rfl⟩
      rintro q n ⟨⟩
    | node place n =>
      cases n with
      | folder cs => cases h
      | file b =>
        cases h
        refine ⟨?_, rfl⟩
        rintro q n ⟨⟩
        rfl
  · rintro ⟨target, htarget, hfile, rfl⟩
    refine ⟨target, htarget, ?_⟩
    cases target with
    | vacant place => rfl
    | node place n =>
      cases n with
      | folder cs => cases hfile place _ rfl
      | file b => rfl

/-- Where a file can be put: in a folder, and not in the place of a folder. -/
theorem exists_folder_of_locate {target : Target} (hplace : target.place ≠ []) (h : d.locate p = .ok target)
    (htarget : ∀ q n, target = .node q n → n.isFolder = false) :
    ∃ up name cs, target.place = up ++ [name] ∧ d.tree.get? up = some (.folder cs) ∧
      d.tree.Free (up ++ [name]) := by
  obtain ⟨_, _, hfollow⟩ := locate_eq_ok.1 h
  cases target with
  | node place n =>
    have hthere : d.tree.get? place = some n := get?_of_follow hfollow
    obtain ⟨up, name, hconcat⟩ : ∃ up name, place = up ++ [name] :=
      ⟨_, _, (List.dropLast_append_getLast hplace).symm⟩
    subst hconcat
    obtain ⟨cs, hup⟩ := FileTree.exists_folder_of_get?_concat hthere
    refine ⟨up, name, cs, rfl, hup, ?_⟩
    intro n' hn'
    rw [hthere] at hn'
    cases hn'
    exact htarget _ _ rfl
  | vacant place =>
    obtain ⟨up, name, cs, rfl, hup, hnone⟩ := vacant_of_follow hfollow
    refine ⟨up, name, cs, rfl, hup, FileTree.free_of_none ?_⟩
    rw [FileTree.get?_concat hup]
    exact hnone

theorem later_write {content : ByteArray}
    (hplace : ∀ target, d.locate p = .ok target → target.place ≠ [])
    (h : d.write p content = .ok d') :
    ∃ place, Later [place] d d' ∧ d'.locate p = .ok (.node place (.file content)) := by
  obtain ⟨target, htarget, hfile, rfl⟩ := write_eq_ok.1 h
  obtain ⟨up, name, cs, hwhere, hup, hfree⟩ := exists_folder_of_locate (hplace _ htarget) htarget hfile
  have hlater : Later [up ++ [name]] d
      { d with tree := d.tree.put (.file content) (up ++ [name]) } :=
    ⟨rfl, .file .refl hup hfree (List.mem_singleton_self _)⟩
  rw [← hwhere] at hlater
  refine ⟨target.place, hlater, hlater.locate htarget ?_⟩
  rw [hwhere]
  exact FileTree.get?_put_self hup _ name

theorem place_ne_nil_of_write {content : ByteArray} (hroot : d.tree.isFolder = true)
    (h : d.write p content = .ok d') : ∀ target, d.locate p = .ok target → target.place ≠ [] := by
  intro target htarget hnil
  obtain ⟨_, _, hfollow⟩ := locate_eq_ok.1 htarget
  cases target with
  | vacant place =>
    obtain ⟨up, name, _, rfl, _⟩ := vacant_of_follow hfollow
    exact List.concat_ne_nil name up hnil
  | node place n =>
    cases hnil
    obtain ⟨_, hsame, hfile, _⟩ := write_eq_ok.1 h
    rw [htarget] at hsame
    cases hsame
    obtain rfl : d.tree = n := Option.some.inj (get?_of_follow hfollow)
    rw [hfile [] _ rfl] at hroot
    cases hroot

theorem held_of_toUTF8 {content : String} {place : List String} (hcontent : NoReturn content)
    (h : d.locate p = .ok (.node place (.file content.toUTF8))) : d.Held p content :=
  ⟨place, content.toUTF8, h, reading_toUTF8 hcontent⟩

namespace Order

def path (o : Order) : Path := o.directory.child o.name

def place (o : Order) : List String := Path.settle o.directory.steps ++ [o.name]

/-- The directory is absolute, the file name is one step of a path, and the text comes back from a file
as it was written. -/
structure Fit (o : Order) : Prop where
  isAbsolute : o.directory.isAbsolute = true
  name : Path.ofString o.name = ⟨"", [o.name]⟩
  plain : o.name ≠ ".."
  content : NoReturn o.content

/-- The path is absolute, and the text comes back from a file as it was written. -/
structure Sound (o : Order) : Prop where
  isAbsolute : o.path.isAbsolute = true
  content : NoReturn o.content

variable {o : Order}

theorem Fit.path_eq (h : o.Fit) : o.path = ⟨o.directory.root, o.directory.steps ++ [o.name]⟩ := by
  unfold path Path.child
  rw [h.name]
  rfl

theorem Fit.settle_path (h : o.Fit) : Path.settle o.path.steps = o.place := by
  rw [h.path_eq]
  exact Path.settle_concat h.plain

theorem Fit.isAbsolute_path (h : o.Fit) : o.path.isAbsolute = true := by
  rw [h.path_eq]
  exact h.isAbsolute

theorem Fit.sound (h : o.Fit) : o.Sound := ⟨h.isAbsolute_path, h.content⟩

theorem Fit.settle_ne_nil (h : o.Fit) : Path.settle o.path.steps ≠ [] := by
  rw [h.settle_path]
  exact List.concat_ne_nil _ _

end Order

variable {o : Order}

/-- A file that holds the text is left alone, and any other one is written. -/
theorem update_eq_ok {content : String} {status : WriteStatus} :
    d.update p content = .ok (d', status) ↔
      d.holds p content = .ok true ∧ d' = d ∧ status = .unchanged ∨
        d.holds p content = .ok false ∧ d.write p content.toUTF8 = .ok d' ∧ status = .written := by
  unfold update
  rw [bind_eq_ok]
  constructor
  · rintro ⟨there, hthere, h⟩
    cases there with
    | true =>
      cases h
      exact .inl ⟨hthere, rfl, rfl⟩
    | false =>
      obtain ⟨d'', hwrite, h⟩ := bind_eq_ok.1 h
      cases h
      exact .inr ⟨hthere, hwrite, rfl⟩
  · rintro (⟨hthere, rfl, rfl⟩ | ⟨hthere, hwrite, rfl⟩)
    · exact ⟨true, hthere, rfl⟩
    · exact ⟨false, hthere, bind_eq_ok.2 ⟨d', hwrite, rfl⟩⟩

theorem failure_eq_ok {e : FileError} {outcome : WriteOutcome} (h : failure p e = .ok outcome) :
    outcome = ⟨p, .failed e⟩ := by
  unfold failure at h
  split at h
  · cases h
  · cases h
    rfl

/-- A write either fails, having made folders at most, or makes the folder and updates the file. -/
theorem writeIfChanged_eq_ok {directory : Path} {name content : String} {outcome : WriteOutcome}
    (h : d.writeIfChanged directory name content = (d', .ok outcome)) :
    outcome.path = directory.child name ∧
      ((∃ e, outcome.status = .failed e) ∧ d' = (d.makeFolders (directory.child name).parent).1 ∨
        ∃ d₁, d.makeFolders (directory.child name).parent = (d₁, .ok ()) ∧
          d₁.update (directory.child name) content = .ok (d', outcome.status)) := by
  unfold writeIfChanged at h
  simp only at h
  split at h
  · rename_i d₁ e hmade
    obtain ⟨rfl, hfailed⟩ := Prod.mk.inj h
    rw [failure_eq_ok hfailed, hmade]
    exact ⟨rfl, .inl ⟨⟨e, rfl⟩, rfl⟩⟩
  · rename_i d₁ hmade
    split at h
    · rename_i hupdate
      cases h
      exact ⟨rfl, .inr ⟨d₁, hmade, hupdate⟩⟩
    · rename_i e _
      obtain ⟨rfl, hfailed⟩ := Prod.mk.inj h
      rw [failure_eq_ok hfailed, hmade]
      exact ⟨rfl, .inl ⟨⟨e, rfl⟩, rfl⟩⟩

theorem later_writeIfChanged (ho : o.Sound)
    (hroot : d.tree.isFolder = true ∨ Path.settle o.path.steps ≠ [])
    {outcome : WriteOutcome} (h : d.writeIfChanged o.directory o.name o.content = (d', .ok outcome)) :
    Later [Path.settle o.path.steps] d d' ∧ outcome.path = o.path ∧
      ((∀ e, outcome.status ≠ .failed e) → d'.Held o.path o.content) := by
  have hfolders := later_makeFolders d o.path.parent
  have hfirst : Later [Path.settle o.path.steps] d (d.makeFolders o.path.parent).1 :=
    hfolders.mono (List.forall_mem_nil _)
  obtain ⟨hpath, ⟨⟨e, hfailed⟩, rfl⟩ | ⟨d₁, hmade, hupdate⟩⟩ := writeIfChanged_eq_ok h
  · exact ⟨hfirst, hpath, fun hstatus => (hstatus e hfailed).elim⟩
  · change d.makeFolders o.path.parent = _ at hmade
    rw [hmade] at hfolders hfirst
    rcases update_eq_ok.1 hupdate with ⟨hholds, rfl, _⟩ | ⟨_, hwrite, _⟩
    · exact ⟨hfirst, hpath, fun _ => held_of_holds hholds⟩
    · have hplace : ∀ target, d₁.locate o.path = .ok target → target.place ≠ [] := by
        rcases hroot with hroot | hplace
        · exact place_ne_nil_of_write (hfolders.isFolder hroot) hwrite
        · intro target htarget
          rw [locate_place ho.isAbsolute htarget]
          exact hplace
      obtain ⟨place, hlater, hlocate⟩ := later_write hplace hwrite
      obtain rfl : place = Path.settle o.path.steps := locate_place ho.isAbsolute hlocate
      exact ⟨hfirst.trans hlater, hpath, fun _ => held_of_toUTF8 ho.content hlocate⟩

theorem writeIfChanged_of_update {directory : Path} {name content : String} {d₁ : Disk}
    {status : WriteStatus} (hmade : d.makeFolders (directory.child name).parent = (d₁, .ok ()))
    (hupdate : d₁.update (directory.child name) content = .ok (d', status)) :
    d.writeIfChanged directory name content = (d', .ok ⟨directory.child name, status⟩) := by
  unfold writeIfChanged
  simp only [hmade, hupdate]

theorem writeIfChanged_of_held (hfit : o.Fit) (h : d.Held o.path o.content) :
    d.writeIfChanged o.directory o.name o.content = (d, .ok ⟨o.path, .unchanged⟩) := by
  have hholds : d.holds (o.directory.child o.name) o.content = .ok true := holds_of_held h
  obtain ⟨place, bytes, hlocate, _⟩ := h
  have hsteps : o.path.steps ≠ [] := by
    rw [hfit.path_eq]
    exact List.concat_ne_nil _ _
  obtain ⟨q, cs, hparent⟩ := locate_parent hfit.isAbsolute_path hsteps hlocate
  exact writeIfChanged_of_update (makeFolders_of_folder hparent)
    (update_eq_ok.2 (.inl ⟨hholds, rfl, rfl⟩))

/-- One write after the other: what does not fail is held in the end, whatever fails. -/
theorem outcomes_writeAll {orders : List Order} (hsound : ∀ o ∈ orders, o.Sound)
    (hroot : d.tree.isFolder = true ∨ ∀ o ∈ orders, Path.settle o.path.steps ≠ [])
    (hplaces : (orders.map fun o => Path.settle o.path.steps).Nodup) {outcomes : List WriteOutcome}
    (h : d.writeAll orders = (d', .ok outcomes)) :
    Later (orders.map fun o => Path.settle o.path.steps) d d' ∧
      List.Forall₂ (fun o outcome => outcome.path = o.path ∧
        ((∀ e, outcome.status ≠ .failed e) → d'.Held o.path o.content)) orders outcomes := by
  induction orders generalizing d outcomes with
  | nil =>
    cases h
    exact ⟨.refl [] _, .nil⟩
  | cons o rest ih =>
    obtain ⟨hnew, hrest⟩ := List.nodup_cons.1 hplaces
    obtain ⟨ho, hsound⟩ := List.forall_mem_cons.1 hsound
    unfold writeAll at h
    split at h
    · cases h
    · rename_i d₁ outcome hfirst
      split at h
      · cases h
      · rename_i d₂ more hmore
        cases h
        obtain ⟨hlater, hpath, hheld⟩ :=
          later_writeIfChanged ho (hroot.imp_right fun hne => hne o List.mem_cons_self) hfirst
        have hroot' : d₁.tree.isFolder = true ∨ ∀ o ∈ rest, Path.settle o.path.steps ≠ [] := by
          rcases hroot with hroot | hne
          · exact .inl (hlater.isFolder hroot)
          · exact .inr fun x hx => hne x (List.mem_cons_of_mem o hx)
        obtain ⟨hlater', hall⟩ := ih hsound hroot' hrest hmore
        constructor
        · apply Later.trans
          · exact hlater.mono (List.forall_mem_singleton.2 List.mem_cons_self)
          · exact hlater'.mono fun q hq => List.mem_cons_of_mem _ hq
        · refine .cons ⟨hpath, fun hstatus => ?_⟩ hall
          exact (hheld hstatus).later ho.isAbsolute hlater' hnew

/-- Orders that are all carried out leave all their files behind. -/
theorem later_writeAll {orders : List Order} (hfit : ∀ o ∈ orders, o.Fit)
    (hplaces : (orders.map Order.place).Nodup) {outcomes : List WriteOutcome}
    (h : d.writeAll orders = (d', .ok outcomes))
    (hstatus : ∀ o ∈ outcomes, ∀ e, o.status ≠ .failed e) :
    Later (orders.map Order.place) d d' ∧ (∀ o ∈ orders, d'.Held o.path o.content) ∧
      outcomes.map WriteOutcome.path = orders.map Order.path := by
  have hsettle : orders.map Order.place = orders.map fun o => Path.settle o.path.steps :=
    List.map_congr_left fun o ho => (hfit o ho).settle_path.symm
  rw [hsettle] at hplaces ⊢
  obtain ⟨hlater, hall⟩ := outcomes_writeAll (fun o ho => (hfit o ho).sound)
    (.inr fun o ho => (hfit o ho).settle_ne_nil) hplaces h
  refine ⟨hlater, ?_⟩
  clear h hlater hsettle hplaces hfit
  induction hall with
  | nil => exact ⟨List.forall_mem_nil _, rfl⟩
  | cons hfirst _ ih =>
    obtain ⟨hheld, hpaths⟩ := ih fun o ho => hstatus o (List.mem_cons_of_mem _ ho)
    rw [List.forall_mem_cons, List.map_cons, List.map_cons, hfirst.1, hpaths]
    exact ⟨⟨hfirst.2 (hstatus _ List.mem_cons_self), hheld⟩, rfl⟩

theorem writeAll_of_held {orders : List Order} (hfit : ∀ o ∈ orders, o.Fit)
    (hheld : ∀ o ∈ orders, d.Held o.path o.content) :
    d.writeAll orders = (d, .ok (orders.map fun o => ⟨o.path, .unchanged⟩)) := by
  induction orders with
  | nil => rfl
  | cons o rest ih =>
    have hfirst := writeIfChanged_of_held (hfit o List.mem_cons_self) (hheld o List.mem_cons_self)
    have hrest := ih (fun x hx => hfit x (List.mem_cons_of_mem o hx))
      fun x hx => hheld x (List.mem_cons_of_mem o hx)
    unfold writeAll
    simp only [hfirst, hrest]
    rfl

end Disk

end SchemaBindings

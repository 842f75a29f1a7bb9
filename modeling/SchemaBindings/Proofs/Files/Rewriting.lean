import SchemaBindings.Proofs.Files.Writing

/-!
Writing a text where a file may be already. A file that is read as the text is left alone, and what is read of
a file has line feeds for all line breaks and replacement characters for what is no UTF-8. So the file holds
the bytes of the text afterwards exactly if it was written or its bytes were those of a text without carriage
returns; and a text with a carriage return is written every time.
-/

namespace SchemaBindings.Disk

set_option autoImplicit false

open Text (NoReturn not_mem_unifyNewlines)

variable {d d' : Disk} {p : Path}

/-- The path leads to a folder. -/
def FolderAt (d : Disk) (p : Path) : Prop := ∃ place cs, d.locate p = .ok (.node place (.folder cs))

theorem FolderAt.later {places : List (List String)} (h : d.FolderAt p) (hlater : Later places d d') :
    d'.FolderAt p := by
  obtain ⟨place, cs, hlocate⟩ := h
  obtain ⟨_, _, hfollow⟩ := locate_eq_ok.1 hlocate
  obtain ⟨cs', hcs⟩ := hlater.grown.folder_kept ⟨cs, get?_of_follow hfollow⟩
  exact ⟨place, cs', hlater.locate hlocate hcs⟩

theorem FolderAt.root (h : d.FolderAt p) : d.tree.isFolder = true := by
  obtain ⟨place, cs, hlocate⟩ := h
  obtain ⟨_, _, hfollow⟩ := locate_eq_ok.1 hlocate
  have hfolder := get?_of_follow hfollow
  cases htree : d.tree with
  | folder _ => rfl
  | file b =>
    rw [htree] at hfolder
    cases place <;> cases hfolder

theorem folderAt_makeFolder (h : d.makeFolder p = .ok d') : d'.FolderAt p := by
  have hlater := later_makeFolder h
  unfold makeFolder at h
  obtain ⟨target, htarget, h⟩ := bind_eq_ok.1 h
  cases target with
  | node place n => cases h
  | vacant place =>
    cases h
    obtain ⟨_, _, hfollow⟩ := locate_eq_ok.1 htarget
    obtain ⟨up, name, cs, rfl, hup, _⟩ := vacant_of_follow hfollow
    exact ⟨up ++ [name], [], hlater.locate htarget (FileTree.get?_put_self hup _ name)⟩

theorem folderAt_acceptFolder {e : FileError} (h : acceptFolder d p e = (d', .ok ())) :
    d' = d ∧ d'.FolderAt p := by
  unfold acceptFolder at h
  obtain ⟨rfl, h⟩ := Prod.mk.inj h
  refine ⟨rfl, ?_⟩
  split at h
  · rename_i hfolder
    unfold isFolder at hfolder
    obtain ⟨node, hnode, hfolder⟩ := map_eq_ok.1 hfolder
    unfold find? at hnode
    split at hnode
    · rename_i n hn
      cases hnode
      obtain ⟨place, hlocate⟩ := find_eq_ok.1 hn
      cases n with
      | file b => cases hfolder
      | folder cs => exact ⟨place, cs, hlocate⟩
    · cases hnode
    · cases hnode
      cases hfolder
  · cases h
  · cases h

theorem folderAt_makeFoldersFrom {root : String} {steps : List String}
    (h : makeFoldersFrom root d steps = (d', .ok ())) : d'.FolderAt ⟨root, steps.reverse⟩ := by
  cases steps with
  | nil =>
    unfold makeFoldersFrom at h
    split at h
    · rename_i hmade
      cases h
      exact folderAt_makeFolder hmade
    · exact (folderAt_acceptFolder h).2
  | cons last up =>
    unfold makeFoldersFrom at h
    simp only at h
    split at h
    · rename_i hmade
      cases h
      exact folderAt_makeFolder hmade
    · split at h
      · cases h
      · split at h
        · rename_i hmade
          cases h
          exact folderAt_makeFolder hmade
        · cases h
        · exact (folderAt_acceptFolder h).2
    · exact (folderAt_acceptFolder h).2

theorem folderAt_makeFolders (h : d.makeFolders p = (d', .ok ())) : d'.FolderAt p := by
  have hfolder := folderAt_makeFoldersFrom h
  rw [List.reverse_reverse] at hfolder
  exact hfolder

theorem noReturn_reading (bytes : ByteArray) : NoReturn (reading bytes) := by
  unfold NoReturn reading
  rw [String.toList_ofList]
  exact not_mem_unifyNewlines _

/-- Bytes are those of the text that is read of them only if they are those of a text without returns. -/
theorem eq_toUTF8_reading_iff {bytes : ByteArray} :
    bytes = (reading bytes).toUTF8 ↔ ∃ s, NoReturn s ∧ bytes = s.toUTF8 := by
  constructor
  · intro h
    exact ⟨reading bytes, noReturn_reading bytes, h⟩
  · rintro ⟨s, hs, rfl⟩
    rw [reading_toUTF8 hs]

variable {directory : Path} {name content : String}

theorem update_of_held (h : d.Held p content) : d.update p content = .ok (d, .unchanged) :=
  update_eq_ok.2 (.inl ⟨holds_of_held h, rfl, rfl⟩)

/-- A text with a carriage return is never what is read of a file, and is written over its own bytes. -/
theorem update_of_return {place : List String} (hreturn : ¬ NoReturn content)
    (h : d.locate p = .ok (.node place (.file content.toUTF8))) :
    d.update p content = .ok (d, .written) := by
  have hread : d.readText p = .ok (reading content.toUTF8) := readText_of_file h
  have hother : reading content.toUTF8 ≠ content := by
    intro hsame
    rw [← hsame] at hreturn
    exact hreturn (noReturn_reading _)
  obtain ⟨_, _, hfollow⟩ := locate_eq_ok.1 h
  have hput : d.tree.put (.file content.toUTF8) place = d.tree :=
    FileTree.put_of_get? (get?_of_follow hfollow)
  refine update_eq_ok.2 (.inr ⟨?_, ?_, rfl⟩)
  · rw [holds_of_readText h hread, beq_false_of_ne hother]
  · refine write_eq_ok.2 ⟨_, h, ?_, ?_⟩
    · rintro q n ⟨⟩
      rfl
    · change d = { d with tree := d.tree.put (.file content.toUTF8) place }
      rw [hput]

/-- A text is written again exactly if there is a carriage return in it. -/
theorem update_again {place : List String} {bytes : ByteArray}
    (h : d.locate p = .ok (.node place (.file bytes)))
    (hbytes : bytes = content.toUTF8 ∨ reading bytes = content) :
    d.update p content = .ok (d, if NoReturn content then .unchanged else .written) := by
  split
  · rename_i hcontent
    apply update_of_held
    rcases hbytes with rfl | hread
    · exact held_of_toUTF8 hcontent h
    · exact ⟨place, bytes, h, hread⟩
  · rename_i hreturn
    rcases hbytes with rfl | hread
    · exact update_of_return hreturn h
    · rw [← hread] at hreturn
      exact (hreturn (noReturn_reading bytes)).elim

/-- What a file holds after an update, and what it held before one that leaves it alone. -/
theorem file_of_update {status : WriteStatus} (hroot : d.tree.isFolder = true)
    (h : d.update p content = .ok (d', status)) :
    ∃ place bytes, d'.locate p = .ok (.node place (.file bytes)) ∧
      (status = .written ∧ Later [place] d d' ∧ bytes = content.toUTF8 ∨
        status = .unchanged ∧ d' = d ∧ reading bytes = content) := by
  obtain ⟨hholds, rfl, rfl⟩ | ⟨_, hwrite, rfl⟩ := update_eq_ok.1 h
  · obtain ⟨place, bytes, hlocate, hcontent⟩ := held_of_holds hholds
    exact ⟨place, bytes, hlocate, .inr ⟨rfl, rfl, hcontent⟩⟩
  · obtain ⟨place, hlater, hlocate⟩ := later_write (place_ne_nil_of_write hroot hwrite) hwrite
    exact ⟨place, _, hlocate, .inl ⟨rfl, hlater, rfl⟩⟩

/-- Where nothing fails, the file holds the bytes of the text if it was written, and otherwise the bytes
that it held before: these are read as the text, and are its bytes exactly if they are those of a text
without carriage returns. Writing the text once more changes nothing, and says so unless there is a
carriage return in it. -/
theorem writeIfChanged_twice {outcome : WriteOutcome}
    (h : d.writeIfChanged directory name content = (d', .ok outcome))
    (hstatus : ∀ e, outcome.status ≠ .failed e) :
    outcome.path = directory.child name ∧
      ∃ place bytes, d'.locate (directory.child name) = .ok (.node place (.file bytes)) ∧
        (outcome.status = .written ∧ Later [place] d d' ∧ bytes = content.toUTF8 ∨
          outcome.status = .unchanged ∧ Later [] d d' ∧ d.tree.get? place = some (.file bytes) ∧
            reading bytes = content ∧
              (bytes = content.toUTF8 ↔ ∃ s, NoReturn s ∧ bytes = s.toUTF8)) ∧
        d'.writeIfChanged directory name content =
          (d', .ok ⟨directory.child name, if NoReturn content then .unchanged else .written⟩) := by
  obtain ⟨hpath, ⟨⟨e, hfailed⟩, _⟩ | ⟨d₁, hmade, hupdate⟩⟩ := writeIfChanged_eq_ok h
  · exact (hstatus e hfailed).elim
  have hfolders : Later [] d d₁ := by
    have hlater := later_makeFolders d (directory.child name).parent
    rw [hmade] at hlater
    exact hlater
  have hparent := folderAt_makeFolders hmade
  have hroot := hparent.root
  obtain ⟨place, bytes, hlocate, hfile⟩ := file_of_update hroot hupdate
  refine ⟨hpath, place, bytes, hlocate, ?_, ?_⟩
  · rcases hfile with ⟨hwritten, hlater, hbytes⟩ | ⟨hunchanged, rfl, hread⟩
    · refine .inl ⟨hwritten, ?_, hbytes⟩
      exact (hfolders.mono (List.forall_mem_nil _)).trans hlater
    · obtain ⟨_, _, hfollow⟩ := locate_eq_ok.1 hlocate
      have hbefore := hfolders.grown.file_of_file List.not_mem_nil (get?_of_follow hfollow)
      refine .inr ⟨hunchanged, hfolders, hbefore, hread, ?_⟩
      rw [← hread]
      exact eq_toUTF8_reading_iff
  · have hparent' : d'.FolderAt (directory.child name).parent := by
      rcases hfile with ⟨_, hlater, _⟩ | ⟨_, rfl, _⟩
      · exact hparent.later hlater
      · exact hparent
    obtain ⟨q, cs, hq⟩ := hparent'
    refine writeIfChanged_of_update (makeFolders_of_folder hq) ?_
    apply update_again hlocate
    rcases hfile with ⟨_, _, hbytes⟩ | ⟨_, _, hread⟩
    · exact .inl hbytes
    · exact .inr hread

/-- A disk with a file whose line ends with a carriage return, and a file that is no UTF-8. -/
def noteDisk : Disk where
  tree := .folder [("notes", .folder
    [("day.txt", .file "one\r\n".toUTF8), ("night.txt", .file ⟨#[0x61, 0xFF]⟩)])]
  cwd := []

theorem writeIfChanged_twice_noteDisk : ∃ d' place,
    noteDisk.writeIfChanged ⟨"", ["notes"]⟩ "day.txt" "two\r\n" =
      (d', .ok ⟨⟨"", ["notes", "day.txt"]⟩, .written⟩) ∧
    d'.locate ⟨"", ["notes", "day.txt"]⟩ = .ok (.node place (.file "two\r\n".toUTF8)) ∧
    d'.writeIfChanged ⟨"", ["notes"]⟩ "day.txt" "two\r\n" =
      (d', .ok ⟨⟨"", ["notes", "day.txt"]⟩, .written⟩) := by
  have hpath : Path.child ⟨"", ["notes"]⟩ "day.txt" = ⟨"", ["notes", "day.txt"]⟩ := by decide +kernel
  obtain ⟨d', hfirst⟩ : ∃ d', noteDisk.writeIfChanged ⟨"", ["notes"]⟩ "day.txt" "two\r\n" =
      (d', .ok ⟨⟨"", ["notes", "day.txt"]⟩, .written⟩) := ⟨_, Prod.ext rfl (by decide +kernel)⟩
  obtain ⟨_, place, bytes, hlocate, hfile, hagain⟩ := writeIfChanged_twice hfirst (by rintro e ⟨⟩)
  obtain ⟨_, _, rfl⟩ | ⟨hunchanged, _⟩ := hfile
  · rw [hpath] at hlocate hagain
    exact ⟨d', place, hfirst, hlocate, hagain⟩
  · cases hunchanged

/-- Files with other bytes than those of the text pass for unchanged, and a text with a carriage return is
written a second time. -/
theorem writeIfChanged_unread :
    (noteDisk.writeIfChanged ⟨"", ["notes"]⟩ "day.txt" "one\n").2 =
      .ok ⟨⟨"", ["notes", "day.txt"]⟩, .unchanged⟩ ∧
    (noteDisk.writeIfChanged ⟨"", ["notes"]⟩ "day.txt" "one\n").1.read ⟨"", ["notes", "day.txt"]⟩ =
      .ok "one\r\n".toUTF8 ∧ "one\r\n".toUTF8 ≠ "one\n".toUTF8 ∧
    (noteDisk.writeIfChanged ⟨"", ["notes"]⟩ "night.txt" "a\ufffd").2 =
      .ok ⟨⟨"", ["notes", "night.txt"]⟩, .unchanged⟩ ∧
    (noteDisk.writeIfChanged ⟨"", ["notes"]⟩ "night.txt" "a\ufffd").1.read
        ⟨"", ["notes", "night.txt"]⟩ =
      .ok ⟨#[0x61, 0xFF]⟩ ∧ ⟨#[0x61, 0xFF]⟩ ≠ "a\ufffd".toUTF8 ∧
    ((noteDisk.writeIfChanged ⟨"", ["notes"]⟩ "day.txt" "two\r\n").1.writeIfChanged
      ⟨"", ["notes"]⟩ "day.txt" "two\r\n").2 = .ok ⟨⟨"", ["notes", "day.txt"]⟩, .written⟩ := by
  decide +kernel

end SchemaBindings.Disk

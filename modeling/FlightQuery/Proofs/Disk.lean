import FlightQuery.Disk
import FlightQuery.Proofs.Dictionary
import FlightQuery.Proofs.Outcome

/-! What is found on a disk on which folders have been made and a file has been written. -/

namespace FlightQuery

namespace Place

/-- A place in a folder has this folder as its parent. -/
@[simp] theorem parent_append (folder : Place) (name : String) :
    parent (folder ++ [name]) = folder := List.dropLast_concat

/-- A place in a folder has its last name there. -/
@[simp] theorem name_append (folder : Place) (file : String) : name (folder ++ [file]) = file := by
  simp [name]

end Place

namespace Disk

/-- A folder that is set is found in its place, and the other ones stay as they are. -/
theorem folder?_setFolder (disk : Disk) (place other : Place) (folder : Folder) :
    (disk.setFolder place folder).folder? other =
      if other.text = place.text then some folder else disk.folder? other :=
  Dictionary.find?_insert ..

/-- A folder is found by the text of its place. -/
theorem folder?_congr (disk : Disk) {place other : Place} (same : place.text = other.text) :
    disk.folder? place = disk.folder? other := by
  rw [folder?, folder?, same]

/-! ### Folders that are made -/

/-- A folder that is there need not be made. -/
theorem addFolders_of_isFolder {disk : Disk} {place : Place}
    (present : disk.isFolder place = true) : disk.addFolders place = .ok disk := if_pos present

/-- A folder that is made is empty, and all other ones stay as they are. -/
theorem getD_folder?_of_addFolder {disk made : Disk} {place : Place}
    (added : disk.addFolder place = .ok made) (other : Place) :
    (made.folder? other).getD .empty = (disk.folder? other).getD .empty := by
  unfold addFolder at added
  split at added
  · -- The folder is there already.
    cases added
    rfl
  · rename_i absent
    split at added
    · cases added
    · cases added
      rw [folder?_setFolder]
      by_cases same : other.text = place.text
      · -- Where the folder is made there was none.
        have missing : disk.folder? other = none := by
          rw [disk.folder?_congr same]
          exact Option.not_isSome_iff_eq_none.1 absent
        rw [if_pos same, missing, Option.getD_some, Option.getD_none]
      · rw [if_neg same]

/-- Folders that are made on the way to a place are empty, and all other ones stay as they are. -/
theorem getD_folder?_of_addFolders {disk made : Disk} {place : Place}
    (added : disk.addFolders place = .ok made) (other : Place) :
    (made.folder? other).getD .empty = (disk.folder? other).getD .empty := by
  unfold addFolders at added
  split at added
  · cases added
    rfl
  · -- Each step makes one folder, whichever have been made before.
    rename_i absent
    clear absent
    generalize List.range place.length = counts at added
    induction counts generalizing disk with
    | nil =>
      cases added
      rfl
    | cons count counts ih =>
      obtain ⟨middle, first, rest⟩ := Outcome.bind_eq_ok_iff.1 (List.foldlM_cons.symm.trans added)
      rw [ih rest, getD_folder?_of_addFolder first]

/-- A folder that cannot be made cannot be stored. -/
theorem eq_storage_of_addFolder {disk : Disk} {place : Place} {error : Error}
    (failed : disk.addFolder place = .error error) : error = .storage := by
  -- The only failure is that of a file in the place of the folder.
  unfold addFolder at failed
  split at failed
  · cases failed
  · split at failed
    · exact (Except.error.inj failed).symm
    · cases failed

/-- Folders on the way to a place that cannot be made cannot be stored. -/
theorem eq_storage_of_addFolders {disk : Disk} {place : Place} {error : Error}
    (failed : disk.addFolders place = .error error) : error = .storage := by
  unfold addFolders at failed
  split at failed
  · cases failed
  · -- The first folder that cannot be made decides.
    rename_i absent
    clear absent
    generalize List.range place.length = counts at failed
    induction counts generalizing disk with
    | nil => cases failed
    | cons count counts ih =>
      rw [List.foldlM_cons] at failed
      cases first : disk.addFolder (place.take (count + 1)) with
      | error error' =>
        rw [first] at failed
        cases failed
        exact eq_storage_of_addFolder first
      -- The failure belongs to a later folder, which the induction covers.
      | ok middle =>
        rw [first] at failed
        exact ih failed

/-- A text is found in a folder, and no folder stands in its place. -/
theorem of_find_eq_text {disk : Disk} {place : Place} {content : String}
    (found : disk.find place = .text content) :
    disk.isFolder place = false ∧ disk.isFolder place.parent = true := by
  unfold find at found
  split at found
  · simp at found
  · next free =>
    refine ⟨by simpa using free, ?_⟩
    -- Without a folder there would be no stored file.
    cases folder : disk.folder? place.parent with
    | none => simp [stored?, folder] at found
    | some folder => simp [isFolder, *]

/-! ### Files that are written -/

variable {disk after : Disk} {now : Int} {place : Place} {content : Content}

/-- A file is written into a folder that is there, unless a folder stands in its place. -/
theorem write_eq_ok_iff : disk.write now place content = .ok after ↔
    disk.isFolder place = false ∧ ∃ folder, disk.folder? place.parent = some folder ∧
      disk.setFolder place.parent (folder.insert place.name { content, modified := now }) =
        after := by
  -- The two failures of a write are a folder in the place and no folder to write into.
  unfold write
  cases disk.isFolder place with
  | true => simp
  | false => cases disk.folder? place.parent <;> simp

/-- A file that cannot be written cannot be stored. -/
theorem eq_storage_of_write {error : Error}
    (failed : disk.write now place content = .error error) : error = .storage := by
  -- The same error is told of a folder in the place and of a missing folder.
  unfold write at failed
  split at failed
  · exact (Except.error.inj failed).symm
  · split at failed
    · cases failed
    · exact (Except.error.inj failed).symm

/-- A file that is written makes no folder and takes none away. -/
theorem isFolder_of_write (written : disk.write now place content = .ok after) (other : Place) :
    after.isFolder other = disk.isFolder other := by
  obtain ⟨_, folder, folder_eq, rfl⟩ := write_eq_ok_iff.1 written
  rw [isFolder, isFolder, folder?_setFolder]
  by_cases same : other.text = place.parent.text
  · -- The folder that the file is written into was there before.
    rw [if_pos same, disk.folder?_congr same, folder_eq]
    rfl
  · rw [if_neg same]

/-- Names lead to the same place where the same folders stand. -/
theorem locate?_congr (same : ∀ place, after.isFolder place = disk.isFolder place) (place : Place)
    (names : List String) : after.locate? place names = disk.locate? place names := by
  induction names generalizing place with
  | nil => rfl
  | cons name names ih => simp only [locate?, same, ih]

/-- A path leads to the same place when a file has been written. -/
theorem resolve?_of_write (written : disk.write now place content = .ok after) (folder : Place)
    (path : String) : after.resolve? folder path = disk.resolve? folder path := by
  simp only [resolve?, locate?_congr (isFolder_of_write written)]

/-- A file that is written is found. -/
theorem find_of_write (written : disk.write now place content = .ok after) :
    after.find place = StoredFile.toFile { content, modified := now } := by
  -- A place that could be written is no folder, so what is found there is the stored file.
  have free := isFolder_of_write written place
  obtain ⟨free', folder, _, rfl⟩ := write_eq_ok_iff.1 written
  simp [find, free, free', stored?, folder?_setFolder, Dictionary.find?_insert]

/-- A text that is written into a folder is found there. -/
theorem find_write {folder : Place} {name : String} (now : Int) (content : String)
    (free : disk.isFolder (folder ++ [name]) = false) (present : disk.isFolder folder = true) :
    ∃ after, disk.write now (folder ++ [name]) (.text content) = .ok after ∧
      after.find (folder ++ [name]) = .text content := by
  -- The folder is there, so that the write succeeds, and what is written is found.
  obtain ⟨files, files_eq⟩ := Option.isSome_iff_exists.1 present
  have written : disk.write now (folder ++ [name]) (.text content) = .ok _ :=
    write_eq_ok_iff.2 ⟨free, files, by rw [Place.parent_append, files_eq], rfl⟩
  exact ⟨_, written, find_of_write written⟩

/-- In each folder the same files are found as before, apart from the one that is written. -/
theorem find?_of_write (written : disk.write now place content = .ok after) (folder : Place)
    (name : String) : ((after.folder? folder).bind fun files => files.find? name) =
      if folder.text = place.parent.text ∧ name = place.name then
        some { content, modified := now }
      else (disk.folder? folder).bind fun files => files.find? name := by
  obtain ⟨_, files, files_eq, rfl⟩ := write_eq_ok_iff.1 written
  -- Only one folder is set, and in this folder only one name is written.
  rw [folder?_setFolder]
  by_cases same : folder.text = place.parent.text
  · have files_eq' : disk.folder? folder = some files := (disk.folder?_congr same).trans files_eq
    simp [same, files_eq', Dictionary.find?_insert]
  · simp [same]

end Disk
end FlightQuery

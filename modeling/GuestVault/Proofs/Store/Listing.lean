import GuestVault.Proofs.FileTree.Path
import GuestVault.Store.Directory

/-!
# What a store lists

A directory store lists the names of its regular files that are not temporary (`fileNames`), in
order (`names_eq`, `pairwise_sorted`). A name without a slash byte has no slash in it, whatever is
replaced (`slash_notMem_lossy`), so a record that is opened by its name has that name
(`name_of_record`). A record is opened by what is shown of the name of its file, so it is that file
that is opened if the name is a text (`exists_record_iff`).
-/

namespace GuestVault

namespace DirectoryStore

open GuestVault.Text

variable (store : DirectoryStore) {t : FileTree} {dir : Location} {name : String}

/-- The names of the regular files of a directory that are not temporary. -/
def fileNames (t : FileTree) (dir : Location) : List String :=
  (((t.children dir).filter fun file => isRegular file.2).map fun file => lossy file.1).filter
    fun name => (dropFront? temporaryPrefix.toList name.toList).isNone

/-- The files of a directory that hold records: the regular ones that are not temporary. -/
def recordFiles (t : FileTree) (dir : Location) : List FileName :=
  (((t.children dir).filter fun file => isRegular file.2).map (·.1)).filter fun file =>
    (dropFront? temporaryPrefix.toList (lossy file).toList).isNone

theorem fileNames_eq_map (t : FileTree) (dir : Location) :
    fileNames t dir = (recordFiles t dir).map lossy := by
  unfold fileNames recordFiles
  have hmap (files : List (FileName × Entry)) :
      (files.map fun file => lossy file.1) = (files.map (·.1)).map lossy := by
    rw [List.map_map]
    rfl
  rw [hmap, List.filter_map]
  rfl

/-- Names of files hold no slash, as long as those of entries hold no slash byte. -/
theorem slash_notMem_of_mem_fileNames (hslash : ∀ file ∈ t.children dir, Route.slash ∉ file.1)
    (hmem : name ∈ fileNames t dir) : '/' ∉ name.toList := by
  unfold fileNames at hmem
  obtain ⟨file, hfile, rfl⟩ := List.mem_map.mp (List.mem_filter.mp hmem).1
  exact slash_notMem_lossy (hslash file (List.mem_filter.mp hfile).1)

theorem names_eq (hdir : t.find true (.ofText store.root) = .ok (dir, .directory)) :
    store.names t = .ok (fileNames t dir).mergeSort := by
  unfold names fileNames
  rw [hdir]
  have hfound : ((t.children dir).filterMap fun file =>
      if isRegular file.2 then some (lossy file.1) else none) =
        ((t.children dir).filter fun file => isRegular file.2).map fun file => lossy file.1 := by
    rw [← List.filterMap_eq_map, List.filterMap_filter]
    rfl
  show Except.ok _ = _
  rw [← hfound]

theorem pairwise_sorted (names : List String) : names.mergeSort.Pairwise (· ≤ ·) := by
  refine (List.pairwise_mergeSort ?_ ?_ names).imp fun h => of_decide_eq_true h
  · intro a b c hab hbc
    exact decide_eq_true (String.le_trans (of_decide_eq_true hab) (of_decide_eq_true hbc))
  · intro a b
    rw [Bool.or_eq_true, decide_eq_true_iff, decide_eq_true_iff]
    exact String.le_total a b

theorem pathname_of_record {record : Record Script} (h : store.record name t = .ok record) :
    record.pathname = "/" ++ name := by
  unfold DirectoryStore.record osFailure at h
  cases hopen : t.openInput (.ofText (store.path name)) with
  | error fault => rw [hopen] at h; cases h
  | ok reader =>
    rw [hopen] at h
    cases h
    rfl

theorem name_of_record (hname : '/' ∉ name.toList) {record : Record Script}
    (h : store.record name t = .ok record) : record.name = name := by
  unfold Record.name basename
  rw [pathname_of_record store h]
  apply String.toList_inj.mp
  rw [String.toList_ofList, String.toList_append]
  exact (baseChars_append_slash [] name.toList).trans (baseChars_of_notMem hname)

/-- A file of the store can be opened. -/
def CanOpen (t : FileTree) (file : FileName) : Prop :=
  ∃ reader, t.openInput (.ofBytes (SystemPath.join (utf8 store.root) file)) = .ok reader

theorem canOpen_of_toBool {file : FileName}
    (h : (t.openInput (.ofBytes (SystemPath.join (utf8 store.root) file))).toBool = true) :
    store.CanOpen t file := by
  unfold CanOpen
  cases hopen : t.openInput (.ofBytes (SystemPath.join (utf8 store.root) file)) with
  | error fault =>
    rw [hopen] at h
    cases h
  | ok reader => exact ⟨reader, rfl⟩

theorem exists_record_iff : (∃ record, store.record name t = .ok record) ↔
    store.CanOpen t (utf8 name) := by
  have hpath : Route.ofText (store.path name) =
      .ofBytes (SystemPath.join (utf8 store.root) (utf8 name)) := by
    rw [SystemPath.join_utf8]
    rfl
  unfold CanOpen DirectoryStore.record osFailure
  rw [hpath]
  cases t.openInput (.ofBytes (SystemPath.join (utf8 store.root) (utf8 name))) with
  | error fault => exact iff_of_false nofun nofun
  | ok reader => exact iff_of_true ⟨_, rfl⟩ ⟨_, rfl⟩

/-- The names that are listed can be opened exactly if there are files of what is shown. -/
theorem forall_fileNames_iff : (∀ name ∈ fileNames t dir, ∃ record, store.record name t = .ok record) ↔
    ∀ file ∈ recordFiles t dir, store.CanOpen t (utf8 (lossy file)) := by
  rw [fileNames_eq_map, List.forall_mem_map]
  simp only [exists_record_iff]

end DirectoryStore

end GuestVault

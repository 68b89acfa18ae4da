import GuestVault.Proofs.FileTree.Edit
import GuestVault.Proofs.Store.Listing

/-!
# What a store holds

`DirectoryStore.Holds` says which files a store holds, and that it holds nothing else. A record that
can be read to its end is stored as a whole under its name, in place of any other, and nothing else
in the store changes but for the temporary file of that name (`put_holds`); one that cannot be read to
its end leaves nothing at all (`put_holds_of_error`). What a store holds can be listed and opened
(`Holds.fileNames_eq`, `Holds.record`).
-/

namespace GuestVault

open GuestVault.Text

namespace DirectoryStore

open FileTree Route

variable {store : DirectoryStore} {t t' : FileTree} {dir : Location}
  {files : List (String × Bytes)} {pathname name : String} {data : Bytes}

/-! ## Names of records -/

/-- A name that a record can be stored under, with a temporary name that a directory can hold. -/
structure Storable (name : String) : Prop where
  slash_notMem : '/' ∉ name.toList
  ne_empty : name ≠ ""
  ne_dot : name ≠ "."
  ne_dots : name ≠ ".."
  nul_free : ¬ holdsNul name
  length_le : (utf8 (temporaryPrefix ++ name)).length ≤ maxNameLength

theorem slash_notMem_utf8 (h : '/' ∉ name.toList) : slash ∉ utf8 name := by
  intro hmem
  obtain ⟨c, hc, hslash⟩ := exists_of_mem_utf8 hmem (by decide)
  exact h ((Char.toNat_inj.mp hslash : c = '/') ▸ hc)

theorem Storable.ordinary (h : Storable name) : Ordinary (utf8 name) where
  slash_notMem := slash_notMem_utf8 h.slash_notMem
  ne_nil hnil := h.ne_empty (utf8_eq_nil_iff.mp hnil)
  ne_here hhere := h.ne_dot (utf8_inj.mp (hhere.trans rfl))
  ne_above habove := h.ne_dots (utf8_inj.mp (habove.trans rfl))
  length_le := by
    refine Nat.le_trans ?_ h.length_le
    rw [utf8_append, List.length_append]
    exact Nat.le_add_left _ _

theorem slash_notMem_temporary (h : '/' ∉ name.toList) :
    slash ∉ utf8 (temporaryPrefix ++ name) := by
  refine slash_notMem_utf8 ?_
  rw [String.toList_append, List.mem_append, not_or]
  exact ⟨by decide, h⟩

theorem Storable.ordinary_temporary (h : Storable name) :
    Ordinary (utf8 (temporaryPrefix ++ name)) where
  slash_notMem := slash_notMem_temporary h.slash_notMem
  ne_nil hnil := by
    rw [utf8_append] at hnil
    exact absurd (List.append_eq_nil_iff.mp hnil).1 (by decide)
  ne_here hhere := by
    rw [utf8_append] at hhere
    exact absurd (congrArg (List.drop 1) hhere) (by
      show utf8 "tmp-" ++ _ ≠ []
      exact List.append_ne_nil_of_left_ne_nil (by decide) _)
  ne_above habove := by
    rw [utf8_append] at habove
    exact absurd (congrArg (List.drop 2) habove) (by
      show utf8 "mp-" ++ _ ≠ []
      exact List.append_ne_nil_of_left_ne_nil (by decide) _)
  length_le := h.length_le

theorem temporary_ne (name : String) : temporaryPrefix ++ name ≠ name := by
  intro h
  have hlength := congrArg List.length (congrArg String.toList h)
  have hfront : temporaryPrefix.toList.length = 5 := rfl
  rw [String.toList_append, List.length_append, hfront] at hlength
  omega

theorem basename_slash (hslash : '/' ∉ name.toList) : basename ("/" ++ name) = name := by
  apply String.toList_inj.mp
  unfold basename
  rw [String.toList_ofList, String.toList_append]
  exact (baseChars_append_slash [] name.toList).trans (baseChars_of_notMem hslash)

theorem Storable.basename_eq (h : Storable name) : basename ("/" ++ name) = name :=
  basename_slash h.slash_notMem

theorem nameOf_slash (hslash : '/' ∉ name.toList) (hempty : name ≠ "") (hdot : name ≠ ".")
    (hdots : name ≠ "..") : nameOf ("/" ++ name) = .ok name := by
  unfold nameOf
  simp only [basename_slash hslash]
  exact if_neg fun h => by
    rcases h with h | h | h
    · exact hempty h
    · exact hdot h
    · exact hdots h

theorem nameOf_eq (h : Storable name) : nameOf ("/" ++ name) = .ok name :=
  nameOf_slash h.slash_notMem h.ne_empty h.ne_dot h.ne_dots

/-! ## Files of a store -/

/-- The entry of a file. -/
def entryOf (dir : Location) (file : String × Bytes) : Location × Entry :=
  (dir ++ [utf8 file.1], .file file.2 false)

/-- The store is the directory `dir`, and these files are all that is in it. -/
structure Holds (store : DirectoryStore) (t : FileTree) (dir : Location)
    (files : List (String × Bytes)) : Prop where
  find : t.find true (.ofText store.root) = .ok (dir, .directory)
  below : t.below dir = files.map (entryOf dir)

theorem entryOf_fst_inj {file : String × Bytes} :
    (entryOf dir file).1 = dir ++ [utf8 name] ↔ file.1 = name := by
  unfold entryOf
  rw [List.append_cancel_left_eq, List.cons.injEq, utf8_inj]
  exact and_iff_left rfl

theorem Holds.get?_entry (h : Holds store t dir files) (name : String) :
    t.get? (dir ++ [utf8 name]) = (files.lookup name).map fun data => .file data false := by
  rw [← lookup_below (isBelow_entry dir _), h.below]
  clear h
  induction files with
  | nil => rfl
  | cons file rest ih =>
    have hkey : (dir ++ [utf8 name] == (entryOf dir file).1) = (name == file.1) := by
      rw [Bool.eq_iff_iff, beq_iff_eq, beq_iff_eq, eq_comm, entryOf_fst_inj, eq_comm]
    rw [List.map_cons, List.lookup_cons, List.lookup_cons, hkey, ih]
    cases name == file.1 with
    | true => rfl
    | false => rfl

theorem Holds.isFile_entry (h : Holds store t dir files) (name : String) :
    IsFile (t.get? (dir ++ [utf8 name])) := by
  rw [h.get?_entry]
  cases files.lookup name with
  | none => trivial
  | some data => trivial

theorem Holds.below_entry (h : Holds store t dir files) (name : String) :
    t.below (dir ++ [utf8 name]) = [] := by
  refine List.filter_eq_nil_iff.mpr fun entry hmem hbelow => ?_
  obtain ⟨next, rest, hentry⟩ := isBelow_iff.mp hbelow
  rw [List.append_assoc] at hentry
  have hmem' : entry ∈ t.below dir :=
    List.mem_filter.mpr ⟨hmem, isBelow_iff.mpr ⟨utf8 name, next :: rest, hentry⟩⟩
  rw [h.below] at hmem'
  obtain ⟨file, -, rfl⟩ := List.mem_map.mp hmem'
  have hlength := congrArg List.length (List.append_cancel_left hentry)
  simp at hlength

/-- What is put into the place of one file takes that place only. -/
theorem filter_entryOf (files : List (String × Bytes)) (name : String) :
    (files.map (entryOf dir)).filter (fun e => e.1 ≠ dir ++ [utf8 name]) =
      (files.filter fun file => file.1 ≠ name).map (entryOf dir) := by
  rw [List.filter_map]
  congr 1
  refine List.filter_congr fun file _ => ?_
  exact decide_eq_decide.mpr (not_congr entryOf_fst_inj)

theorem Holds.put (h : Holds store t dir files) (name : String) (data : Bytes) :
    Holds store (t.put (dir ++ [utf8 name]) (.file data false)) dir
      ((name, data) :: files.filter fun file => file.1 ≠ name) where
  find := (keeps_put (h.isFile_entry name).isPlain (entry_ne_nil _ _) _).find h.find
  below := by
    rw [below_put _ _ (isBelow_entry dir _), h.below, filter_entryOf, List.map_cons]
    rfl

theorem Holds.erase (h : Holds store t dir files) (name : String) :
    Holds store (t.erase (dir ++ [utf8 name])) dir (files.filter fun file => file.1 ≠ name) where
  find := (keeps_erase (h.isFile_entry name).isPlain).find h.find
  below := by rw [below_erase, h.below, filter_entryOf]

/-- The path of a file leads to its entry, be it there or not. -/
theorem Holds.locate (h : Holds store t dir files) (hname : Ordinary (utf8 name)) (follow : Bool) :
    t.locate follow (.ofText (store.path name)) = .ok (dir ++ [utf8 name]) := by
  refine locate_joinPath hname h.find fun _ target htarget => ?_
  have hfile := h.isFile_entry name
  rw [htarget] at hfile
  exact hfile

theorem toDirectory_path (hfind : t.find true (.ofText store.root) = .ok (dir, .directory))
    (hslash : slash ∉ utf8 name) (hnil : utf8 name ≠ []) :
    (ofText (store.path name)).toDirectory = false := by
  have hroot : store.root ≠ "" := by
    intro hempty
    rw [hempty] at hfind
    cases hfind
  unfold path
  rw [ofText_joinPath hroot hslash hnil]

theorem Holds.toDirectory (h : Holds store t dir files) (hslash : slash ∉ utf8 name)
    (hnil : utf8 name ≠ []) : (ofText (store.path name)).toDirectory = false :=
  toDirectory_path h.find hslash hnil

/-- A new file is started in place of any other of its name. -/
theorem Holds.create_eq (h : Holds store t dir files) (hname : Ordinary (utf8 name)) :
    t.create (.ofText (store.path name)) =
      .ok ({ location := dir ++ [utf8 name] }, t.put (dir ++ [utf8 name]) (.file [] false)) :=
  FileTree.create_eq (h.toDirectory hname.slash_notMem hname.ne_nil) (h.locate hname true)
    (h.isFile_entry name)

/-- What can be read to its end is written to a file of its own. -/
theorem Holds.fill {ρ : Type} [ByteSource ρ] {reader reader' : ρ} (h : Holds store t dir files)
    (hname : Ordinary (utf8 name)) (hread : readToEnd reader = (.ok (), data, reader'))
    (pathname : String) :
    DirectoryStore.fill pathname (store.path name) reader t =
      ((.ok data.length, reader'), t.put (dir ++ [utf8 name]) (.file data false)) := by
  have hne : dir ++ [utf8 name] ≠ [] := entry_ne_nil _ _
  unfold DirectoryStore.fill
  rw [h.create_eq hname]
  dsimp only
  rw [hread, write_put_eq hne]
  dsimp only
  rw [sync_put_eq hne]
  rfl

/-- What cannot be read to its end is written as far as it was read, and the error is reported. -/
theorem fill_of_unread {ρ : Type} [ByteSource ρ] {reader reader' : ρ} {e : IoError}
    {temporary : String} {file file' : OpenFile} {t₁ t₂ : FileTree}
    (hcreate : t.create (.ofText temporary) = .ok (file, t₁))
    (hwrite : t₁.write file data = .ok (file', t₂))
    (hread : readToEnd reader = (.error e, data, reader')) :
    fill pathname temporary reader t =
      ((.error (.context ("store " ++ pathname) (.io e)), reader'), t₂) := by
  unfold fill
  rw [hcreate]
  dsimp only
  rw [hread]
  dsimp only
  rw [hwrite]

theorem Holds.fill_of_error {ρ : Type} [ByteSource ρ] {reader reader' : ρ} {e : IoError}
    (h : Holds store t dir files) (hname : Ordinary (utf8 name))
    (hread : readToEnd reader = (.error e, data, reader')) (pathname : String) :
    DirectoryStore.fill pathname (store.path name) reader t =
      ((.error (.context ("store " ++ pathname) (.io e)), reader'),
        t.put (dir ++ [utf8 name]) (.file data false)) :=
  fill_of_unread (h.create_eq hname) (write_put_eq (entry_ne_nil _ _) data) hread

/-- A file of this name can be made in the store, and written. -/
def Writable (store : DirectoryStore) (t : FileTree) (name : String) : Prop :=
  ∃ file t', t.create (.ofText (store.path name)) = .ok (file, t') ∧
    ∀ data, ∃ written, t'.write file data = .ok written

theorem Holds.writable (h : Holds store t dir files) (hname : Ordinary (utf8 name)) :
    store.Writable t name :=
  ⟨_, _, h.create_eq hname, fun data => ⟨_, write_put_eq (entry_ne_nil _ _) data⟩⟩

/-- **A store reports what its reader met**, if it can write its own file. -/
theorem put_of_unread {ρ : Type} [ByteSource ρ] {reader reader' : ρ} {e : IoError}
    (hpath : nameOf pathname = .ok name) (hnul : ¬ holdsNul name)
    (hwritable : store.Writable t (temporaryPrefix ++ name))
    (hread : readToEnd reader = (.error e, data, reader')) :
    (store.put pathname reader t).1 =
      (.error (.context ("store " ++ pathname) (.io e)), reader') := by
  obtain ⟨file, t₁, hcreate, hwrite⟩ := hwritable
  obtain ⟨⟨file', t₂⟩, hwritten⟩ := hwrite data
  unfold DirectoryStore.put
  rw [hpath]
  dsimp only
  rw [if_neg hnul, fill_of_unread hcreate hwritten hread]

theorem Holds.discard_eq (h : Holds store t dir files) (hname : Ordinary (utf8 name))
    (hthere : files.lookup name = some data) :
    discard (store.path name) t = t.erase (dir ++ [utf8 name]) := by
  have hget : t.get? (dir ++ [utf8 name]) = some (.file data false) := by
    rw [h.get?_entry, hthere]
    rfl
  unfold discard
  rw [removeFile_eq (find_eq_ok_iff.mpr ⟨h.locate hname false, hget⟩)]

/-- **A record that cannot be read to its end leaves nothing in the store**, not even the temporary
file. -/
theorem put_holds_of_error {ρ : Type} [ByteSource ρ] {reader reader' : ρ} {e : IoError}
    (h : Holds store t dir files) (hname : Storable name) (hpath : nameOf pathname = .ok name)
    (hread : readToEnd reader = (.error e, data, reader')) :
    ∃ f t', store.put pathname reader t = ((.error f, reader'), t') ∧
      Holds store t' dir (files.filter fun file => file.1 ≠ temporaryPrefix ++ name) := by
  let temporary := temporaryPrefix ++ name
  have hfilled := h.put temporary data
  have hdiscard := hfilled.discard_eq hname.ordinary_temporary List.lookup_cons_self
  have hleft := hfilled.erase temporary
  rw [List.filter_cons_of_neg (by simp), List.filter_filter] at hleft
  simp only [Bool.and_self] at hleft
  refine ⟨.context ("store " ++ pathname) (.io e), _, ?_, hleft⟩
  unfold DirectoryStore.put
  rw [hpath]
  dsimp only
  rw [if_neg hname.nul_free, h.fill_of_error hname.ordinary_temporary hread]
  dsimp only
  rw [hdiscard]

/-- **A record that can be read to its end is stored as a whole**, and nothing else changes. -/
theorem put_holds {ρ : Type} [ByteSource ρ] {reader reader' : ρ} (h : Holds store t dir files)
    (hname : Storable name) (hpath : nameOf pathname = .ok name)
    (hread : readToEnd reader = (.ok (), data, reader')) :
    ∃ t', store.put pathname reader t = ((.ok data.length, reader'), t') ∧
      Holds store t' dir ((name, data) ::
        (files.filter fun file => file.1 ≠ temporaryPrefix ++ name).filter
          fun file => file.1 ≠ name) := by
  let temporary := temporaryPrefix ++ name
  let source := dir ++ [utf8 temporary]
  let target := dir ++ [utf8 name]
  have hne : source ≠ target := by
    intro heq
    have hnames := (List.cons.inj (List.append_cancel_left heq)).1
    exact temporary_ne name (utf8_inj.mp hnames)
  have hfilled : Holds store (t.put source (.file data false)) dir _ := h.put temporary data
  have hget : (t.put source (.file data false)).get? source = some (.file data false) :=
    get?_put_self t _ (entry_ne_nil _ _)
  have hrename : (t.put source (.file data false)).rename (.ofText (store.path temporary))
      (.ofText (store.path name)) = .ok ((t.erase source).put target (.file data false)) := by
    rw [rename_eq (find_eq_ok_iff.mpr ⟨hfilled.locate hname.ordinary_temporary false, hget⟩)
      (h.toDirectory hname.ordinary.slash_notMem hname.ordinary.ne_nil)
      (hfilled.locate hname.ordinary false) hne]
    · exact congrArg _ (moveTree_put (hfilled.below_entry temporary))
    · intro hdir
      have hfile := hfilled.isFile_entry name
      rw [hdir] at hfile
      exact hfile
  refine ⟨(t.erase source).put target (.file data false), ?_, (h.erase temporary).put name data⟩
  unfold DirectoryStore.put
  rw [hpath]
  dsimp only
  rw [if_neg hname.nul_free, h.fill hname.ordinary_temporary hread]
  dsimp only
  rw [hrename]

/-! ## Records of a store -/

theorem Holds.children (h : Holds store t dir files) :
    t.children dir = files.map fun file => (utf8 file.1, .file file.2 false) := by
  rw [children_eq, h.below, List.filterMap_map, ← List.filterMap_eq_map]
  refine List.filterMap_congr fun file _ => ?_
  unfold entryOf
  dsimp only [Function.comp_apply]
  rw [List.dropLast_concat, if_pos ⟨rfl, entry_ne_nil _ _⟩, List.getLast?_concat]
  rfl

theorem Holds.fileNames_eq (h : Holds store t dir files) :
    fileNames t dir = (files.map (·.1)).filter fun name =>
      (dropFront? temporaryPrefix.toList name.toList).isNone := by
  have hregular : ((t.children dir).filter fun file => isRegular file.2) = t.children dir := by
    refine List.filter_eq_self.mpr fun child hmem => ?_
    rw [h.children] at hmem
    obtain ⟨file, -, rfl⟩ := List.mem_map.mp hmem
    rfl
  unfold fileNames
  rw [hregular, h.children, List.map_map]
  congr 1
  exact List.map_congr_left fun file _ => lossy_utf8 file.1

theorem Holds.record (h : Holds store t dir files) (hname : Ordinary (utf8 name))
    (hdata : files.lookup name = some data) :
    store.record name t = .ok { pathname := "/" ++ name, reader := .ofBytes data } := by
  have hfind : t.find true (.ofText (store.path name)) =
      .ok (dir ++ [utf8 name], .file data false) := by
    refine find_eq_ok_iff.mpr ⟨h.locate hname true, ?_⟩
    rw [h.get?_entry, hdata]
    rfl
  have hopen : t.openInput (.ofText (store.path name)) = .ok (.ofBytes data) := by
    unfold openInput
    rw [hfind]
    rfl
  unfold DirectoryStore.record
  rw [hopen]
  rfl

end DirectoryStore

end GuestVault

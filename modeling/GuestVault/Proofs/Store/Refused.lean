import GuestVault.Proofs.Store.Map

/-!
# Records that are not stored

A disk may refuse each step of storing a record (`Refusals`): to create the temporary file, to write
all of it, to sync it, and to rename it. Whatever it refuses, and whatever the reader meets, nothing is
left of the record, unless the renaming fails.

1. `putOn_none`: with a disk that refuses nothing, a record is stored as ever.
2. `filled_fillOn`: the temporary file is filled, or can be discarded.
3. `putOn_error`: what a failure leaves behind.
4. `failed_put_iff`: a failure leaves the store as it was exactly if it is not that of the renaming.
-/

namespace GuestVault

open GuestVault.Text

namespace DirectoryStore

open FileTree Route

variable {ρ : Type} [ByteSource ρ] {store : DirectoryStore} {t t' : FileTree} {dir : Location}
  {pathname name : String} {reader reader' : ρ} {f : Failure}

/-! ## Disks that refuse -/

/-- What a disk refuses while a record is stored, besides what its files make impossible. -/
structure Refusals where
  create : Option OsFault := none
  /-- No more than so many bytes are written. -/
  write : Option (Nat × OsFault) := none
  sync : Option OsFault := none
  rename : Option OsFault := none

/-- Something that a disk does, unless it is refused. -/
def attempt {α : Type} (refusal : Option OsFault) (done : Except OsFault α) : Except OsFault α :=
  match refusal with
  | some fault => .error fault
  | none => done

@[simp] theorem attempt_none {α : Type} (done : Except OsFault α) : attempt none done = done := rfl

/-- Writes all data, or as much as is not refused. -/
def writeOn (refusal : Option (Nat × OsFault)) (file : OpenFile) (data : Bytes) (t : FileTree) :
    Except OsFault OpenFile × FileTree :=
  match refusal with
  | some (room, fault) =>
    match t.write file (data.take room) with
    | .ok (_, t) => (.error fault, t)
    | .error _ => (.error fault, t)
  | none =>
    match t.write file data with
    | .ok (file, t) => (.ok file, t)
    | .error fault => (.error fault, t)

/-- Fills a temporary file on a disk that refuses some of it. -/
def fillOn (r : Refusals) (pathname temporary : String) (reader : ρ) (t : FileTree) :
    (Except Failure Nat × ρ) × FileTree :=
  match attempt r.create (t.create (.ofText temporary)) with
  | .error fault => ((osFailure ("create " ++ temporary) (.error fault), reader), t)
  | .ok (file, t) =>
    let (result, data, reader) := readToEnd reader
    match writeOn r.write file data t with
    | (.error fault, t) =>
      ((osFailure (writeContext pathname temporary data) (.error fault), reader), t)
    | (.ok file, t) =>
      match result with
      | .error e => ((.error (.context ("store " ++ pathname) (.io e)), reader), t)
      | .ok () =>
        ((osFailure ("sync " ++ temporary) ((attempt r.sync (t.sync file)).map fun () => data.length),
          reader), t)

/-- Gives a filled file the name of its record. -/
def renameOn (r : Refusals) (temporary target : String) (count : Nat) (reader : ρ) (t : FileTree) :
    (Except Failure Nat × ρ) × FileTree :=
  match attempt r.rename (t.rename (.ofText temporary) (.ofText target)) with
  | .ok t => ((.ok count, reader), t)
  | .error fault =>
    ((osFailure ("rename " ++ temporary ++ " -> " ++ target) (.error fault), reader), t)

/-- Stores a record on a disk that refuses some of it. -/
def putOn (store : DirectoryStore) (r : Refusals) (pathname : String) (reader : ρ) (t : FileTree) :
    (Except Failure Nat × ρ) × FileTree :=
  match nameOf pathname with
  | .error f => ((.error f, reader), t)
  | .ok name =>
    let temporary := store.path (temporaryPrefix ++ name)
    let target := store.path name
    if holdsNul name then
      ((.error (.context ("create " ++ temporary) (.io .nulInPath)), reader), t)
    else
      match fillOn r pathname temporary reader t with
      | ((.error f, reader), t) => ((.error f, reader), discard temporary t)
      | ((.ok count, reader), t) => renameOn r temporary target count reader t

theorem fillOn_none (pathname temporary : String) (reader : ρ) (t : FileTree) :
    fillOn {} pathname temporary reader t = fill pathname temporary reader t := by
  unfold fillOn fill attempt writeOn
  cases t.create (.ofText temporary) with
  | error fault => rfl
  | ok made =>
    dsimp only
    cases made.2.write made.1 (readToEnd reader).2.1 with
    | error fault => rfl
    | ok written => rfl

/-- **A disk that refuses nothing** stores a record as ever. -/
theorem putOn_none (store : DirectoryStore) (pathname : String) (reader : ρ) (t : FileTree) :
    store.putOn {} pathname reader t = store.put pathname reader t := by
  unfold putOn DirectoryStore.put
  simp only [fillOn_none]
  rfl

/-! ## Temporary files -/

/-- The store is the directory `dir`, and nothing in it has a temporary name. -/
structure Clean (store : DirectoryStore) (t : FileTree) (dir : Location) : Prop where
  find : t.find true (.ofText store.root) = .ok (dir, .directory)
  no_temporary : ∀ n : FileName, utf8 temporaryPrefix <+: n → t.get? (dir ++ [n]) = none

/-- The place of the temporary file. -/
def temporaryAt (dir : Location) (name : String) : Location :=
  dir ++ [utf8 (temporaryPrefix ++ name)]

theorem temporaryAt_ne_nil (dir : Location) (name : String) : temporaryAt dir name ≠ [] :=
  entry_ne_nil _ _

theorem Clean.get?_temporaryAt (h : Clean store t dir) (name : String) :
    t.get? (temporaryAt dir name) = none := by
  refine h.no_temporary _ ?_
  rw [utf8_append]
  exact List.prefix_append _ _

/-- What stands at the place of the temporary file is no obstacle to the path that leads there. -/
theorem Clean.locate_temporary (h : Clean store t dir) (hname : Storable name) (follow : Bool) :
    t.locate follow (.ofText (store.path (temporaryPrefix ++ name))) = .ok (temporaryAt dir name) := by
  refine locate_joinPath hname.ordinary_temporary h.find fun _ target htarget => ?_
  rw [show dir ++ [_] = temporaryAt dir name from rfl, h.get?_temporaryAt] at htarget
  cases htarget

theorem Clean.find_put (h : Clean store t dir) (name : String) (data : Bytes) :
    (t.put (temporaryAt dir name) (.file data false)).find true (.ofText store.root) =
      .ok (dir, .directory) := by
  refine (keeps_put ?_ (temporaryAt_ne_nil dir name) _).find h.find
  rw [h.get?_temporaryAt]
  trivial

theorem Clean.find_temporary (h : Clean store t dir) (hname : Storable name) (data : Bytes) :
    (t.put (temporaryAt dir name) (.file data false)).find false
        (.ofText (store.path (temporaryPrefix ++ name))) =
      .ok (temporaryAt dir name, .file data false) :=
  find_eq_ok_iff.mpr ⟨locate_joinPath hname.ordinary_temporary (h.find_put name data) nofun,
    get?_put_self t _ (temporaryAt_ne_nil dir name)⟩

theorem discard_of_locate {path : String} (hlocate : ∀ l,
    t.locate false (.ofText path) = .ok l → t.get? l = none) : discard path t = t := by
  unfold discard removeFile FileTree.find
  cases h : t.locate false (.ofText path) with
  | error fault => rfl
  | ok l =>
    dsimp only [bind, Except.bind]
    rw [hlocate l h]
    rfl

theorem Clean.discard_put (h : Clean store t dir) (hname : Storable name) (data : Bytes) :
    discard (store.path (temporaryPrefix ++ name))
      (t.put (temporaryAt dir name) (.file data false)) = t := by
  unfold discard
  rw [removeFile_eq (h.find_temporary hname data)]
  exact erase_put (temporaryAt_ne_nil dir name) (h.get?_temporaryAt name) _

/-- All that is done before the renaming is allowed. -/
structure Refusals.Fills (r : Refusals) : Prop where
  create : r.create = none
  write : r.write = none
  sync : r.sync = none

/-- What can become of a temporary file: it can be discarded, or the whole record is in it. -/
inductive Filled (r : Refusals) (temporary : String) (l : Location) (reader : ρ) (t : FileTree) :
    (Except Failure Nat × ρ) × FileTree → Prop where
  | stopped (f : Failure) (reader' : ρ) (t' : FileTree) (hdiscard : discard temporary t' = t)
      (hcause : ¬ ((readToEnd reader).1 = .ok () ∧ r.Fills)) :
      Filled r temporary l reader t ((.error f, reader'), t')
  | done (data : Bytes) (reader' : ρ) (hread : readToEnd reader = (.ok (), data, reader'))
      (hfills : r.Fills) :
      Filled r temporary l reader t ((.ok data.length, reader'), t.put l (.file data false))

/-- Data is written to a fresh file as a whole, or in part if some of it is refused. -/
theorem writeOn_put (refusal : Option (Nat × OsFault)) {l : Location} (hl : l ≠ []) (data : Bytes) :
    (refusal = none ∧ writeOn refusal { location := l } data (t.put l (.file [] false)) =
      (.ok { location := l, position := data.length }, t.put l (.file data false))) ∨
    (refusal ≠ none ∧ ∃ fault part, writeOn refusal { location := l } data
      (t.put l (.file [] false)) = (.error fault, t.put l (.file part false))) := by
  unfold writeOn
  cases refusal with
  | none =>
    rw [write_put_eq hl]
    exact Or.inl ⟨rfl, rfl⟩
  | some refused =>
    refine Or.inr ⟨Option.some_ne_none _, refused.2, data.take refused.1, ?_⟩
    dsimp only
    rw [write_put_eq hl]

/-- **A temporary file is filled, or can be discarded.** -/
theorem Clean.filled_fillOn (h : Clean store t dir) (hname : Storable name) (r : Refusals)
    (pathname : String) (reader : ρ) :
    Filled r (store.path (temporaryPrefix ++ name)) (temporaryAt dir name) reader t
      (fillOn r pathname (store.path (temporaryPrefix ++ name)) reader t) := by
  have hcreate := FileTree.create_eq
    (toDirectory_path h.find hname.ordinary_temporary.slash_notMem hname.ordinary_temporary.ne_nil)
    (h.locate_temporary hname true) (by rw [h.get?_temporaryAt]; trivial)
  unfold fillOn
  cases hrefused : r.create with
  | some fault =>
    refine .stopped _ _ _ (discard_of_locate fun l hl => ?_) fun hcause => ?_
    · rw [h.locate_temporary hname false] at hl
      rw [← Except.ok.inj hl, h.get?_temporaryAt]
    · rw [hcause.2.create] at hrefused
      cases hrefused
  | none =>
    rw [hcreate, attempt_none]
    obtain ⟨result, data, reader', hread⟩ :
        ∃ result data reader', readToEnd reader = (result, data, reader') := ⟨_, _, _, rfl⟩
    have hne := temporaryAt_ne_nil dir name
    dsimp only
    rw [hread]
    dsimp only
    rcases writeOn_put r.write hne data (t := t) with ⟨hall, hwrite⟩ | ⟨hnot, fault, part, hwrite⟩
    · rw [hwrite]
      cases result with
      | error e =>
        refine .stopped _ _ _ (h.discard_put hname data) fun hcause => ?_
        rw [hread] at hcause
        cases hcause.1
      | ok =>
        dsimp only
        rw [sync_put_eq hne]
        cases hrefusedSync : r.sync with
        | none => exact .done data reader' hread ⟨hrefused, hall, hrefusedSync⟩
        | some fault =>
          refine .stopped _ _ _ (h.discard_put hname data) fun hcause => ?_
          rw [hcause.2.sync] at hrefusedSync
          cases hrefusedSync
    · rw [hwrite]
      exact .stopped _ _ _ (h.discard_put hname part) fun hcause => hnot hcause.2.write

theorem Clean.fillOn_of_long (h : Clean store t dir) (r : Refusals) (pathname : String) (reader : ρ)
    (hslash : '/' ∉ name.toList)
    (hlong : maxNameLength < (utf8 (temporaryPrefix ++ name)).length) :
    ∃ f, fillOn r pathname (store.path (temporaryPrefix ++ name)) reader t =
        ((.error f, reader), t) ∧
      discard (store.path (temporaryPrefix ++ name)) t = t := by
  have hbyte := slash_notMem_temporary hslash
  have hnil : utf8 (temporaryPrefix ++ name) ≠ [] := List.ne_nil_of_length_pos (by omega)
  have hlocate (follow : Bool) :
      t.locate follow (.ofText (store.path (temporaryPrefix ++ name))) = .error .nameTooLong :=
    locate_joinPath_of_long hbyte hlong h.find
  have hdiscard : discard (store.path (temporaryPrefix ++ name)) t = t := by
    refine discard_of_locate fun l hl => ?_
    rw [hlocate] at hl
    cases hl
  unfold fillOn
  rw [create_of_error (toDirectory_path h.find hbyte hnil) (hlocate true)]
  cases r.create with
  | none => exact ⟨_, rfl, hdiscard⟩
  | some fault => exact ⟨_, rfl, hdiscard⟩

/-! ## What failures leave behind -/

/-- Nothing is in the way of a record but the renaming of its temporary file. -/
structure OnlyRenameFails (t : FileTree) (dir : Location) (r : Refusals) (pathname : String)
    (reader : ρ) : Prop where
  storable : Storable (basename pathname)
  readable : (readToEnd reader).1 = .ok ()
  fills : r.Fills
  refused : r.rename ≠ none ∨ t.get? (dir ++ [utf8 (basename pathname)]) = some .directory

theorem Clean.rename_eq (h : Clean store t dir) (hname : Storable name) (data : Bytes) :
    (t.get? (dir ++ [utf8 name]) = some .directory ∧
      (t.put (temporaryAt dir name) (.file data false)).rename
        (.ofText (store.path (temporaryPrefix ++ name))) (.ofText (store.path name)) =
          .error .isDirectory) ∨
    (t.get? (dir ++ [utf8 name]) ≠ some .directory ∧
      ∃ t', (t.put (temporaryAt dir name) (.file data false)).rename
        (.ofText (store.path (temporaryPrefix ++ name))) (.ofText (store.path name)) = .ok t') := by
  have hne : temporaryAt dir name ≠ dir ++ [utf8 name] := by
    intro heq
    have hnames := (List.cons.inj (List.append_cancel_left heq)).1
    exact temporary_ne name (utf8_inj.mp hnames)
  have hold := h.find_temporary hname data
  have hfile := toDirectory_path h.find hname.ordinary.slash_notMem hname.ordinary.ne_nil
  have hnew : (t.put (temporaryAt dir name) (.file data false)).locate false
      (.ofText (store.path name)) = .ok (dir ++ [utf8 name]) :=
    locate_joinPath hname.ordinary (h.find_put name data) nofun
  have hget := get?_put_of_ne t (.file data false) hne.symm
  by_cases hdir : t.get? (dir ++ [utf8 name]) = some .directory
  · exact Or.inl ⟨hdir, rename_of_directory hold hfile hnew hne (hget.trans hdir)⟩
  · exact Or.inr ⟨hdir, _, FileTree.rename_eq hold hfile hnew hne (by rwa [hget])⟩

omit [ByteSource ρ] in
theorem Clean.renameOn_error (h : Clean store t dir) (hname : Storable name) (r : Refusals)
    (data : Bytes) {count : Nat} {reader'' : ρ}
    (hrename : renameOn r (store.path (temporaryPrefix ++ name)) (store.path name) count reader
      (t.put (temporaryAt dir name) (.file data false)) = ((.error f, reader''), t')) :
    t' = t.put (temporaryAt dir name) (.file data false) ∧
      (r.rename ≠ none ∨ t.get? (dir ++ [utf8 name]) = some .directory) := by
  unfold renameOn at hrename
  cases hrefused : r.rename with
  | some fault =>
    rw [hrefused] at hrename
    cases hrename
    exact ⟨rfl, Or.inl (Option.some_ne_none _)⟩
  | none =>
    rw [hrefused, attempt_none] at hrename
    rcases h.rename_eq hname data with ⟨hdir, hfails⟩ | ⟨-, t₂, hdone⟩
    · rw [hfails] at hrename
      cases hrename
      exact ⟨rfl, Or.inr hdir⟩
    · rw [hdone] at hrename
      cases hrename

/-- A record with a name that fits is left under its temporary name if only the renaming fails. -/
theorem Clean.putOn_error_of_storable (h : Clean store t dir) (hname : Storable (basename pathname))
    (hpath : nameOf pathname = .ok (basename pathname)) (r : Refusals)
    (hput : store.putOn r pathname reader t = ((.error f, reader'), t')) :
    (¬ OnlyRenameFails t dir r pathname reader ∧ t' = t) ∨
      (OnlyRenameFails t dir r pathname reader ∧
        t' = t.put (temporaryAt dir (basename pathname)) (.file (readToEnd reader).2.1 false)) := by
  have hfilled := h.filled_fillOn hname r pathname reader
  unfold putOn at hput
  rw [hpath] at hput
  dsimp only at hput
  rw [if_neg hname.nul_free] at hput
  generalize fillOn r pathname _ reader t = filled at hput hfilled
  cases hfilled with
  | stopped f reader' t' hdiscard hcause =>
    dsimp only at hput
    rw [hdiscard] at hput
    cases hput
    exact Or.inl ⟨fun honly => hcause ⟨honly.readable, honly.fills⟩, rfl⟩
  | done data reader' hread hfills =>
    obtain ⟨hleft, hrefused⟩ := h.renameOn_error hname r data hput
    rw [hread]
    exact Or.inr ⟨⟨hname, by rw [hread], hfills, hrefused⟩, hleft⟩

/-- **What a failure leaves behind**: the store as it was, unless only the renaming fails. Then the whole
record is left under its temporary name. -/
theorem Clean.putOn_error (h : Clean store t dir) (r : Refusals)
    (hput : store.putOn r pathname reader t = ((.error f, reader'), t')) :
    (¬ OnlyRenameFails t dir r pathname reader ∧ t' = t) ∨
      (OnlyRenameFails t dir r pathname reader ∧
        t' = t.put (temporaryAt dir (basename pathname)) (.file (readToEnd reader).2.1 false)) := by
  rcases nameOf_cases pathname with ⟨hname, hpath⟩ | ⟨hname, hpath⟩
  · unfold putOn at hput
    rw [hpath] at hput
    cases hput
    exact Or.inl ⟨fun honly => (storable_basename_iff.mp honly.storable).1 hname, rfl⟩
  by_cases hnul : holdsNul (basename pathname)
  · unfold putOn at hput
    rw [hpath] at hput
    dsimp only at hput
    rw [if_pos hnul] at hput
    cases hput
    exact Or.inl ⟨fun honly => honly.storable.nul_free hnul, rfl⟩
  by_cases hlength : (utf8 (temporaryPrefix ++ basename pathname)).length ≤ maxNameLength
  · exact h.putOn_error_of_storable (storable_basename_iff.mpr ⟨hname, hnul, hlength⟩) hpath r hput
  · obtain ⟨f', hfill, hdiscard⟩ := h.fillOn_of_long r pathname reader
      (slash_notMem_basename pathname) (Nat.not_le.mp hlength)
    unfold putOn at hput
    rw [hpath] at hput
    dsimp only at hput
    rw [if_neg hnul, hfill] at hput
    dsimp only at hput
    rw [hdiscard] at hput
    cases hput
    exact Or.inl ⟨fun honly => hlength honly.storable.length_le, rfl⟩

theorem put_temporary_ne (h : Clean store t dir) (name : String) (e : Entry) :
    t.put (temporaryAt dir name) e ≠ t := by
  intro hsame
  have hget := get?_put_self t e (temporaryAt_ne_nil dir name)
  rw [hsame, h.get?_temporaryAt] at hget
  cases hget

/-- **When a failure leaves the store as it was.** In a directory without temporary names, whatever the
disk refuses and whatever the reader meets, a record that is not stored leaves everything as it was
exactly if it is not the renaming alone that fails, be it refused or because a directory has the name
of the record. On a disk that refuses nothing, a record is stored as ever. -/
theorem failed_put_iff (h : Clean store t dir) (pathname : String) (reader : ρ) :
    store.putOn {} pathname reader t = store.put pathname reader t ∧
    ∀ (r : Refusals) (f : Failure) (reader' : ρ) (t' : FileTree),
      store.putOn r pathname reader t = ((.error f, reader'), t') →
        (t' = t ↔ ¬ OnlyRenameFails t dir r pathname reader) := by
  refine ⟨store.putOn_none pathname reader t, fun r f reader' t' hput => ?_⟩
  rcases h.putOn_error r hput with ⟨honly, rfl⟩ | ⟨honly, rfl⟩
  · exact iff_of_true rfl honly
  · exact iff_of_false (put_temporary_ne h _ _) (not_not_intro honly)

theorem clean_of_entries (hfind : t.find true (.ofText store.root) = .ok (dir, .directory))
    (hentries : ∀ entry ∈ t.entries, entry.1.dropLast = dir →
      ¬ utf8 temporaryPrefix <+: entry.1.getLast?.getD []) : Clean store t dir where
  find := hfind
  no_temporary n hn := by
    unfold get?
    rw [if_neg (entry_ne_nil dir n), List.lookup_eq_none_iff]
    intro entry hentry
    refine bne_iff_ne.mpr fun heq => ?_
    refine hentries entry hentry ?_ ?_
    · rw [← heq, List.dropLast_concat]
    · rw [← heq, List.getLast?_concat]
      exact hn

/-- A store with a file and a directory. -/
def mixedTree : FileTree :=
  { entries := [([utf8 "store"], .directory), ([utf8 "store", utf8 "a.vma"], .directory),
      ([utf8 "store", utf8 "b.vma"], .file [7] false)] }

def mixedStore : DirectoryStore :=
  { root := "store" }

/-- A record that breaks off does not touch the file of its name. -/
theorem failed_put_of_broken_record :
    Clean mixedStore mixedTree [utf8 "store"] ∧
      ∃ f reader', mixedStore.put "x/b.vma" ([.data [1], .fail (.os .noSpace)] : Script) mixedTree =
        ((.error f, reader'), mixedTree) := by
  have hclean : Clean mixedStore mixedTree [utf8 "store"] :=
    clean_of_entries (by decide +kernel) (by decide +kernel)
  obtain ⟨hsame, hfailed⟩ :=
    failed_put_iff hclean "x/b.vma" ([.data [1], .fail (.os .noSpace)] : Script)
  have hbroken : (mixedStore.putOn {} "x/b.vma" ([.data [1], .fail (.os .noSpace)] : Script)
      mixedTree).1.1.toBool = false := by decide +kernel
  rw [← hsame]
  rcases hput : mixedStore.putOn {} "x/b.vma" ([.data [1], .fail (.os .noSpace)] : Script)
    mixedTree with ⟨⟨f | n, reader'⟩, t'⟩
  · refine ⟨hclean, f, reader', ?_⟩
    rw [(hfailed {} f reader' t' hput).mpr fun honly => absurd honly.readable (by decide)]
  · rw [hput] at hbroken
    cases hbroken

/-- The whole record is left behind where a directory has its name. -/
theorem temporary_file_left_behind :
    Clean mixedStore mixedTree [utf8 "store"] ∧
      (mixedStore.put "a.vma" ([.data (utf8 "xyz")] : Script) mixedTree).1.1.toBool = false ∧
      (mixedStore.put "a.vma" ([.data (utf8 "xyz")] : Script) mixedTree).2.get?
        [utf8 "store", utf8 ".tmp-a.vma"] = some (.file (utf8 "xyz") false) ∧
      (mixedStore.put "a.vma" ([.data (utf8 "xyz")] : Script) mixedTree).2 ≠ mixedTree := by
  have hleft : (mixedStore.put "a.vma" ([.data (utf8 "xyz")] : Script) mixedTree).2.get?
      [utf8 "store", utf8 ".tmp-a.vma"] = some (.file (utf8 "xyz") false) := by decide +kernel
  refine ⟨clean_of_entries (by decide +kernel) (by decide +kernel), by decide +kernel, hleft, ?_⟩
  intro hsame
  rw [hsame] at hleft
  exact absurd hleft (by decide +kernel)

end DirectoryStore

end GuestVault

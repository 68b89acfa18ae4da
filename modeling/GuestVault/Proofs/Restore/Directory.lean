import GuestVault.Proofs.Host.Counting
import GuestVault.Proofs.Restore.Accounting
import GuestVault.Proofs.Restore.Blocks
import GuestVault.Proofs.Restore.Conduct

/-!
# Restoring a directory

A directory store feeds its records in the order of their names. If all of them can be opened and
nothing that is done touches the store, every record is resolved once, and the archives that are
restored are those that the store describes well enough (`Restorable`), each once. A record is opened
by what is shown of the name of its file. If that is not the name, because the name is no text, there
may be no such file, and then the job fails (`stray_name_breaks_run`).

1. `pathnames_conductAll`: a job on known records resolves each of them once.
2. `mem_started_iff`, `count_started_le_one`: which archives it starts to restore, and how often.
3. `run_directory_iff`: when a job on a directory store gives resolutions, and that it does the same
   then.
-/

namespace GuestVault.Restore

open Correlator

attribute [local irreducible] Correlator.react archiveOf RecordClass.ofName ArchiveName.parse
  Metadata.decode Metadata.validate

variable {σ κ : Type} {settings : RestoreSettings} {store : DirectoryStore} {t : FileTree}
  {names : List String} {records : List (Record Script)} {archive : String}

/-- What must be there for an archive to be restored: both halves, under names that belong
together, and metadata that fits the archive and a guest that is asked for. -/
structure Restorable (settings : RestoreSettings) (names : List String)
    (contents : String → Except Failure (Record Script)) (archive : String) : Prop where
  payload_mem : archive ∈ names
  sidecar_mem : Sidecar.name archive ∈ names
  not_sidecar : Sidecar.archive? archive = none
  named : (∃ named, ArchiveName.parse archive = .ok named) ∨
    "vzdump-".toList.isPrefixOf archive.toList = false ∧ RecordClass.HasExtension archive
  described : ∃ record metadata named, contents (Sidecar.name archive) = .ok record ∧
    Metadata.decode record.reader = .ok metadata ∧ metadata.validate archive = .ok named ∧
    ∀ want, settings.vmid = some want → filterId archive metadata = want

/-! ## The records of a store -/

/-- The records of the given names, in order. -/
structure Opened (store : DirectoryStore) (t : FileTree) (names : List String)
    (records : List (Record Script)) : Prop where
  names_eq : records.map Record.name = names
  record_eq : ∀ record ∈ records, store.record record.name t = .ok record

/-- Either all records can be opened, or there is a first one that cannot. -/
theorem opened_or_broken (store : DirectoryStore) (t : FileTree) (names : List String) :
    (∃ records,
      List.Forall₂ (fun name record => store.record name t = .ok record) names records) ∨
    ∃ front name rest records f, names = front ++ name :: rest ∧
      List.Forall₂ (fun name record => store.record name t = .ok record) front records ∧
      store.record name t = .error f := by
  induction names with
  | nil => exact .inl ⟨[], .nil⟩
  | cons first names ih =>
    cases hrecord : store.record first t with
    | error f => exact .inr ⟨[], first, names, [], f, rfl, .nil, hrecord⟩
    | ok record =>
      rcases ih with ⟨records, hrecords⟩ | ⟨front, name, rest, records, f, rfl, hrecords, hbad⟩
      · exact .inl ⟨record :: records, .cons hrecord hrecords⟩
      · exact .inr ⟨first :: front, name, rest, record :: records, f, rfl, .cons hrecord hrecords,
          hbad⟩

theorem opened_of_forall₂ (hslash : ∀ name ∈ names, '/' ∉ name.toList)
    (h : List.Forall₂ (fun name record => store.record name t = .ok record) names records) :
    Opened store t names records := by
  induction h with
  | nil => exact ⟨rfl, nofun⟩
  | cons hrecord _ ih =>
    obtain ⟨hfirst, hrest⟩ := List.forall_mem_cons.mp hslash
    obtain ⟨hnames, hrecords⟩ := ih hrest
    have hname := DirectoryStore.name_of_record store hfirst hrecord
    exact ⟨List.cons_eq_cons.mpr ⟨hname, hnames⟩,
      List.forall_mem_cons.mpr ⟨hname ▸ hrecord, hrecords⟩⟩

namespace Opened

theorem alike (h : Opened store t names records) : Alike records := by
  intro record hrecord other hother hname
  have heq := h.record_eq record hrecord
  rw [hname, h.record_eq other hother] at heq
  exact congrArg Record.reader (Except.ok.inj heq).symm

theorem pathnames_eq (h : Opened store t names records) :
    records.map (·.pathname) = names.map ("/" ++ ·) := by
  rw [← h.names_eq, List.map_map]
  exact List.map_congr_left fun record hrecord =>
    DirectoryStore.pathname_of_record store (h.record_eq record hrecord)

theorem sorted (h : Opened store t names records) (hsorted : names.Pairwise (· ≤ ·)) :
    records.Pairwise fun a b => a.name ≤ b.name := by
  rw [← h.names_eq] at hsorted
  exact List.pairwise_map.mp hsorted

theorem exists_mem (h : Opened store t names records) {name : String} (hmem : name ∈ names) :
    ∃ record ∈ records, record.name = name := by
  rw [← h.names_eq] at hmem
  exact List.mem_map.mp hmem

theorem name_mem (h : Opened store t names records) {record : Record Script}
    (hmem : record ∈ records) : record.name ∈ names := by
  rw [← h.names_eq]
  exact List.mem_map_of_mem hmem

end Opened

/-! ## Resolutions -/

section Conduct

variable (host : Host σ κ) (guest : Guest σ) (settings : RestoreSettings)

theorem pathnames_conduct (turns : List (Turn Script)) (s : σ) :
    (conduct host guest settings turns s).1.map (·.pathname) =
      turns.flatMap (·.reply.pathnames) := by
  induction turns generalizing s with
  | nil => rfl
  | cons turn rest ih =>
    have hplay : (play host guest settings turn s).1.map (·.pathname) = turn.reply.pathnames :=
      pathnames_enact host guest settings turn.reply _
    rw [List.flatMap_cons, ← hplay, ← ih (play host guest settings turn s).2]
    exact List.map_append

/-- **A job on known records resolves each of them once.** -/
theorem pathnames_conductAll (halike : Alike records) (s : σ) :
    ((conductAll host guest settings records s).1.map (·.pathname)).Perm
      (records.map (·.pathname)) := by
  have hsettled : (conductAll host guest settings records s).1.map (·.pathname) =
      settledPaths settings records := by
    refine List.map_append.trans (congrArg₂ (· ++ ·) ?_ ?_)
    · rw [pathnames_conduct, ← List.flatMap_map, replies_of_turns, List.flatMap_map]
    · exact List.map_map
  rw [hsettled]
  exact settledPaths_perm_of_alike settings halike

end Conduct

/-! ## Restored archives -/

/-- The archives that a job on known records starts to restore, in order. -/
def started (settings : RestoreSettings) (records : List (Record Script)) : List String :=
  (({} : Correlator Script).turns settings records).filterMap fun turn =>
    turn.reply.pair?.map (·.archive)

theorem started_eq (settings : RestoreSettings) (records : List (Record Script)) :
    started settings records = (pairs settings {} records).map (·.archive) := by
  have hpairs : pairs settings {} records =
      ((({} : Correlator Script).turns settings records).map (·.reply)).filterMap (·.pair?) := by
    rw [replies_of_turns, List.filterMap_map]
    rfl
  rw [hpairs, List.filterMap_map, List.map_filterMap]
  rfl

theorem count_started (archive : String) : (started settings records).count archive =
    ((pairs settings {} records).filter fun pair => pair.archive = archive).length := by
  rw [started_eq, List.count, List.countP_map, List.countP_eq_length_filter]
  rfl

/-- **Each archive is started at most once**, if records come in the order of their names. -/
theorem count_started_le_one (hsorted : records.Pairwise fun a b => a.name ≤ b.name)
    (archive : String) : (started settings records).count archive ≤ 1 := by
  rw [count_started, pairs_filter]
  exact length_pairs_le_one (hsorted.filter _) fun record hmem => (mem_recordsOf.mp hmem).2

theorem restorable_of_mem_started (h : Opened store t names records)
    (hstarted : archive ∈ started settings records) :
    Restorable settings names (fun name => store.record name t) archive := by
  rw [started_eq] at hstarted
  obtain ⟨pair, hpair, rfl⟩ := List.mem_map.mp hstarted
  obtain ⟨⟨payload, hpayload, -, hclass, hname, hgood⟩, sidecar, hsidecar, -, hside, hjudge⟩ :=
    pairs_sound hpair
  obtain ⟨hdecode, hother, named, hvalid⟩ := judgeSidecar_eq_good_iff.mp hjudge
  have hsideName := (RecordClass.ofName_eq_sidecar_iff.mp hside).2
  have hrecord := h.record_eq sidecar hsidecar
  rw [hname, RecordClass.ofName_eq_payload_iff] at hclass
  refine ⟨hname ▸ h.name_mem hpayload, hsideName ▸ h.name_mem hsidecar, hclass.1, ?_, ?_⟩
  · rcases judgePayload_eq_good_iff.mp hgood with ⟨kind, id, hparse, -⟩ | ⟨⟨e, herror⟩, hfront⟩
    · exact Or.inl ⟨_, hparse⟩
    · refine hclass.2.imp_right fun hextension => ⟨hfront, hextension⟩
  · rw [hsideName] at hrecord
    exact ⟨sidecar, pair.metadata, named, hrecord, hdecode, hvalid, isOther_eq_false_iff.mp hother⟩

theorem Restorable.judgePayload_eq {contents : String → Except Failure (Record Script)}
    (h : Restorable settings names contents archive) : judgePayload settings archive = .good () := by
  obtain ⟨-, metadata, -, -, -, -, hfilter⟩ := h.described
  rw [judgePayload_eq_good_iff]
  unfold filterId at hfilter
  rcases hparse : ArchiveName.parse archive with e | ⟨kind, id⟩
  · refine Or.inr ⟨⟨e, rfl⟩, ?_⟩
    rcases h.named with ⟨named, hnamed⟩ | ⟨hfront, -⟩
    · rw [hparse] at hnamed
      cases hnamed
    · exact hfront
  · rw [hparse] at hfilter
    exact Or.inl ⟨kind, id, rfl, isOther_eq_false_iff.mpr hfilter⟩

theorem Restorable.ofName_eq {contents : String → Except Failure (Record Script)}
    (h : Restorable settings names contents archive) :
    RecordClass.ofName archive = .payload ∧
      RecordClass.ofName (Sidecar.name archive) = .sidecar archive := by
  have hclass : RecordClass.ofName archive = .payload :=
    RecordClass.ofName_eq_payload_iff.mpr ⟨h.not_sidecar, h.named.imp_right And.right⟩
  refine ⟨hclass, RecordClass.ofName_eq_sidecar_iff.mpr ⟨?_, rfl⟩⟩
  rintro rfl
  have hempty : RecordClass.ofName "" = .other := by decide +kernel
  rw [hempty] at hclass
  cases hclass

/-- **The restored archives are those that the records describe well enough.** -/
theorem mem_started_iff (h : Opened store t names records)
    (hsorted : records.Pairwise fun a b => a.name ≤ b.name) :
    archive ∈ started settings records ↔
      Restorable settings names (fun name => store.record name t) archive := by
  refine ⟨restorable_of_mem_started h, fun hrestorable => ?_⟩
  obtain ⟨hclass, hside⟩ := hrestorable.ofName_eq
  obtain ⟨found, metadata, named, hfound, hdecode, hvalid, hfilter⟩ := hrestorable.described
  have hjudge : judgeSidecar settings archive found.reader = .good metadata :=
    judgeSidecar_eq_good_iff.mpr ⟨hdecode, isOther_eq_false_iff.mpr hfilter, named, hvalid⟩
  -- all metadata of the archive is the record of one name
  have hmetadata {record : Record Script} (hmem : record ∈ records)
      (hof : RecordClass.ofName record.name = .sidecar archive) :
      GoodMetadata settings archive record := by
    have hrecord := h.record_eq record hmem
    rw [(RecordClass.ofName_eq_sidecar_iff.mp hof).2] at hrecord
    cases hfound.symm.trans hrecord
    exact ⟨hof, metadata, hjudge⟩
  have hgood : ∀ record ∈ recordsOf archive records,
      GoodMetadata settings archive record ∨ GoodArchive settings archive record := by
    intro record hmem
    obtain ⟨hmem, hown⟩ := mem_recordsOf.mp hmem
    rcases archiveOf_eq hown with hof | ⟨hname, -⟩
    · exact Or.inl (hmetadata hmem hof)
    · exact Or.inr ⟨hname ▸ hclass, hname, hrestorable.judgePayload_eq⟩
  obtain ⟨sidecar, hsidecar, hsideName⟩ := h.exists_mem hrestorable.sidecar_mem
  obtain ⟨payload, hpayload, hname⟩ := h.exists_mem hrestorable.payload_mem
  have hsideOf : RecordClass.ofName sidecar.name = .sidecar archive := hsideName ▸ hside
  have hclassOf : RecordClass.ofName payload.name = .payload := hname ▸ hclass
  have hne := pairs_ne_nil (hsorted.filter _) (fun record hmem => (mem_recordsOf.mp hmem).2) hgood
    ⟨sidecar, mem_recordsOf.mpr ⟨hsidecar, archiveOf_of_ofName (Or.inl hsideOf)⟩,
      hmetadata hsidecar hsideOf⟩
    ⟨payload, mem_recordsOf.mpr ⟨hpayload, archiveOf_of_ofName (Or.inr ⟨hclassOf, hname⟩)⟩,
      hclassOf, hname, hrestorable.judgePayload_eq⟩
  obtain ⟨pair, hpair⟩ := List.exists_mem_of_ne_nil _ hne
  have hall : pair ∈ (pairs settings {} records).filter fun pair => pair.archive = archive := by
    rw [pairs_filter]
    exact hpair
  obtain ⟨hmem, harchive⟩ := List.mem_filter.mp hall
  rw [started_eq]
  exact List.mem_map.mpr ⟨pair, hmem, of_decide_eq_true harchive⟩

/-! ## Jobs on a directory -/

theorem Restorable.mono {names' : List String} {contents : String → Except Failure (Record Script)}
    (h : Restorable settings names contents archive) (hsub : names ⊆ names') :
    Restorable settings names' contents archive :=
  ⟨hsub h.payload_mem, hsub h.sidecar_mem, h.not_sidecar, h.named, h.described⟩

theorem Opened.pathnames_perm (h : Opened store t names.mergeSort records) (host : Host σ κ)
    (guest : Guest σ) (settings : RestoreSettings) (s : σ) :
    ((conductAll host guest settings records s).1.map (·.pathname)).Perm
      (names.map ("/" ++ ·)) := by
  refine (pathnames_conductAll host guest settings h.alike s).trans ?_
  rw [h.pathnames_eq]
  exact (List.mergeSort_perm names _).map _

theorem Opened.count_started (h : Opened store t names.mergeSort records) (archive : String) :
    (started settings records).count archive ≤ 1 ∧
      (archive ∈ started settings records ↔
        Restorable settings names (fun name => store.record name t) archive) := by
  have hperm := List.mergeSort_perm names (· ≤ ·)
  have hsorted := h.sorted (DirectoryStore.pairwise_sorted names)
  refine ⟨count_started_le_one hsorted archive, (mem_started_iff h hsorted).trans ?_⟩
  exact ⟨fun h => h.mono hperm.subset, fun h => h.mono hperm.symm.subset⟩

/-- A job on a directory store opens all records and goes on as if they were known, or it ends with the
failure to open one. -/
theorem run_opened_or_broken {host : Host σ κ} {guest : Guest σ} (settings : RestoreSettings)
    {tree : σ → FileTree} {s : σ} {dir : Location}
    (hdir : (tree s).find true (.ofText store.root) = .ok (dir, .directory))
    (hslash : ∀ file ∈ (tree s).children dir, Route.slash ∉ file.1)
    (huntouched : Untouched host guest tree store) :
    (∃ records, Opened store (tree s) (DirectoryStore.fileNames (tree s) dir).mergeSort records ∧
      (run host guest settings tree store).run s =
        (.ok (conductAll host guest settings records s).1,
          (conductAll host guest settings records s).2)) ∨
      ∃ name ∈ DirectoryStore.fileNames (tree s) dir, ∃ f, store.record name (tree s) = .error f ∧
        ((run host guest settings tree store).run s).1 =
          .error (.context "read store record" f) := by
  have hnames := DirectoryStore.names_eq store hdir
  rcases opened_or_broken store (tree s) (DirectoryStore.fileNames (tree s) dir).mergeSort with
    ⟨records, hrecords⟩ | ⟨front, name, rest, records, f, hsplit, hrecords, hbad⟩
  · refine .inl ⟨records, opened_of_forall₂ ?_ hrecords,
      run_eq_conductAll huntouched hnames hrecords⟩
    intro name hmem
    exact DirectoryStore.slash_notMem_of_mem_fileNames hslash (List.mem_mergeSort.mp hmem)
  · have hmem : name ∈ (DirectoryStore.fileNames (tree s) dir).mergeSort := by
      rw [hsplit]
      exact List.mem_append_right _ List.mem_cons_self
    rw [hsplit] at hnames
    exact .inr ⟨name, List.mem_mergeSort.mp hmem, f, hbad,
      congrArg Prod.fst (run_breaks huntouched hnames hrecords hbad)⟩

/-- **A job on a directory store gives resolutions exactly if for each file that holds a record there
is one that can be opened under the name that is shown of it**, as there is if the files can be opened
and their names are texts. Then it resolves every record once and restores each archive that is
described well enough, and no other, once. Names hold no slash as in any file system, and nothing that
the host or the guests do may touch the store. -/
theorem run_directory_iff (host : Host σ κ) (guest : Guest σ) (settings : RestoreSettings)
    {tree : σ → FileTree} {store : DirectoryStore} {s : σ} {dir : Location}
    (hdir : (tree s).find true (.ofText store.root) = .ok (dir, .directory))
    (hslash : ∀ file ∈ (tree s).children dir, Route.slash ∉ file.1)
    (huntouched : Untouched host guest tree store) :
    ((∃ resolved, ((run host guest settings tree store).run s).1 = .ok resolved) ↔
        ∀ file ∈ DirectoryStore.recordFiles (tree s) dir,
          store.CanOpen (tree s) (Text.utf8 (Text.lossy file))) ∧
      ((∀ file ∈ DirectoryStore.recordFiles (tree s) dir,
          store.CanOpen (tree s) file ∧ ∃ name, file = Text.utf8 name) →
        ∃ resolved, ((run host guest settings tree store).run s).1 = .ok resolved) ∧
      ∀ resolved, ((run host guest settings tree store).run s).1 = .ok resolved →
        ∃ records, Opened store (tree s) (DirectoryStore.fileNames (tree s) dir).mergeSort records ∧
          (run host guest settings tree store).run s =
            (.ok (conductAll host guest settings records s).1,
              (conductAll host guest settings records s).2) ∧
          (resolved.map (·.pathname)).Perm
            ((DirectoryStore.fileNames (tree s) dir).map ("/" ++ ·)) ∧
          ∀ archive, (started settings records).count archive ≤ 1 ∧
            (archive ∈ started settings records ↔
              Restorable settings (DirectoryStore.fileNames (tree s) dir)
                (fun name => store.record name (tree s)) archive) := by
  have hrun := run_opened_or_broken settings hdir hslash huntouched
  have hiff : (∃ resolved, ((run host guest settings tree store).run s).1 = .ok resolved) ↔
      ∀ file ∈ DirectoryStore.recordFiles (tree s) dir,
        store.CanOpen (tree s) (Text.utf8 (Text.lossy file)) := by
    rw [← DirectoryStore.forall_fileNames_iff]
    rcases hrun with ⟨records, hopened, hconducted⟩ | ⟨name, hmem, f, hbad, hfailed⟩
    · refine iff_of_true ⟨_, congrArg Prod.fst hconducted⟩ ?_
      intro name hmem
      obtain ⟨record, hrecord, rfl⟩ := hopened.exists_mem (List.mem_mergeSort.mpr hmem)
      exact ⟨record, hopened.record_eq record hrecord⟩
    · refine iff_of_false ?_ ?_
      · rintro ⟨resolved, hresolved⟩
        cases hfailed.symm.trans hresolved
      · intro hopen
        obtain ⟨record, hrecord⟩ := hopen name hmem
        cases hbad.symm.trans hrecord
  refine ⟨hiff, ?_, ?_⟩
  · intro hfiles
    refine hiff.mpr fun file hmem => ?_
    obtain ⟨hopen, htext⟩ := hfiles file hmem
    rwa [Text.utf8_lossy_eq_iff.mpr htext]
  · intro resolved hresolved
    rcases hrun with ⟨records, hopened, hconducted⟩ | ⟨name, -, f, -, hfailed⟩
    · rw [hconducted] at hresolved
      obtain rfl := Except.ok.inj hresolved
      exact ⟨records, hopened, hconducted, hopened.pathnames_perm host guest settings s,
        hopened.count_started⟩
    · cases hfailed.symm.trans hresolved

theorem untouched_within (host : Host σ κ) (store : DirectoryStore) :
    Untouched (host.within Prod.fst fun s (u : σ × FileTree) => (s, u.2)) Guest.willing Prod.snd
      store where
  host view := by
    constructor <;> intros <;> rintro u _ ⟨rfl, h⟩ <;> exact ⟨rfl, rfl, h⟩
  guest view kind vmid := ⟨.pure _, fun _ => .pure _⟩

/-- A store with one container, its metadata and a temporary file. -/
def smallTree : FileTree where
  entries :=
    [([Text.utf8 "store"], .directory),
      ([Text.utf8 "store", Text.utf8 ".tmp-guest.tar"], .file [] false),
      ([Text.utf8 "store", Text.utf8 ".vzdump-meta-guest.tar.json"],
        .file (Text.utf8 "\x7b\"vmid\":7,\"vm_type\":\"lxc\"\x7d") false),
      ([Text.utf8 "store", Text.utf8 "guest.tar"], .file (Text.utf8 "payload") false)]

theorem restorable_smallTree :
    Restorable { vmid := some 7 } (DirectoryStore.fileNames smallTree [Text.utf8 "store"])
      (fun name => DirectoryStore.record ⟨"/store"⟩ name smallTree) "guest.tar" where
  payload_mem := by decide +kernel
  sidecar_mem := by decide +kernel
  not_sidecar := by decide +kernel
  named := Or.inr (by unfold RecordClass.HasExtension; decide +kernel)
  described := by
    have hread : (DirectoryStore.record ⟨"/store"⟩ (Sidecar.name "guest.tar") smallTree).map
        (fun record => Metadata.decode record.reader) =
          .ok (.ok { vmid := 7, vmType := "lxc" }) := by
      decide +kernel
    cases hrecord : DirectoryStore.record ⟨"/store"⟩ (Sidecar.name "guest.tar") smallTree with
    | error f => rw [hrecord] at hread; cases hread
    | ok record =>
      rw [hrecord] at hread
      refine ⟨record, _, (.lxc, 7), rfl, Except.ok.inj hread, by decide +kernel, ?_⟩
      rintro want heq
      obtain rfl := Option.some.inj heq
      decide +kernel

/-- The container of the small store is restored once if it is asked for. -/
theorem run_small_directory :
    smallTree.find true (.ofText "/store") = .ok ([Text.utf8 "store"], .directory) ∧
      (∀ file ∈ smallTree.children [Text.utf8 "store"], Route.slash ∉ file.1) ∧
      Untouched (Host.counting.within Prod.fst fun s (u : Nat × FileTree) => (s, u.2))
        Guest.willing Prod.snd ⟨"/store"⟩ ∧
      (∀ file ∈ DirectoryStore.recordFiles smallTree [Text.utf8 "store"],
        DirectoryStore.CanOpen ⟨"/store"⟩ smallTree file) ∧
      ∃ resolved records,
        ((run (Host.counting.within Prod.fst fun s (u : Nat × FileTree) => (s, u.2)) Guest.willing
          { vmid := some 7 } Prod.snd ⟨"/store"⟩).run (0, smallTree)).1 = .ok resolved ∧
        (resolved.map (·.pathname)).Perm ["/.vzdump-meta-guest.tar.json", "/guest.tar"] ∧
        Opened ⟨"/store"⟩ smallTree [".vzdump-meta-guest.tar.json", "guest.tar"] records ∧
        (started { vmid := some 7 } records).count "guest.tar" = 1 := by
  have hfiles : DirectoryStore.recordFiles smallTree [Text.utf8 "store"] =
      [".vzdump-meta-guest.tar.json", "guest.tar"].map Text.utf8 := by
    decide +kernel
  have hnames : DirectoryStore.fileNames smallTree [Text.utf8 "store"] =
      [".vzdump-meta-guest.tar.json", "guest.tar"] := by
    decide +kernel
  have hsorted : (DirectoryStore.fileNames smallTree [Text.utf8 "store"]).mergeSort =
      [".vzdump-meta-guest.tar.json", "guest.tar"] := by
    rw [hnames]
    exact List.mergeSort_of_pairwise (by decide +kernel)
  have hdir : smallTree.find true (.ofText "/store") = .ok ([Text.utf8 "store"], .directory) := by
    decide +kernel
  have hslash : ∀ file ∈ smallTree.children [Text.utf8 "store"], Route.slash ∉ file.1 := by
    decide +kernel
  have hopen : ∀ file ∈ DirectoryStore.recordFiles smallTree [Text.utf8 "store"],
      DirectoryStore.CanOpen ⟨"/store"⟩ smallTree file := by
    rw [hfiles]
    intro file hmem
    apply DirectoryStore.canOpen_of_toBool
    revert file
    decide +kernel
  have htext : ∀ file ∈ DirectoryStore.recordFiles smallTree [Text.utf8 "store"],
      ∃ name, file = Text.utf8 name := by
    rw [hfiles, List.forall_mem_map]
    exact fun name _ => ⟨name, rfl⟩
  have huntouched := untouched_within Host.counting ⟨"/store"⟩
  obtain ⟨-, hgives, hjob⟩ := run_directory_iff _ _ { vmid := some 7 }
    (s := (0, smallTree)) hdir hslash huntouched
  obtain ⟨resolved, hresolved⟩ := hgives fun file hmem => ⟨hopen file hmem, htext file hmem⟩
  obtain ⟨records, hopened, -, hpathnames, harchives⟩ := hjob resolved hresolved
  obtain ⟨honce, hstarted⟩ := harchives "guest.tar"
  rw [hnames] at hpathnames
  refine ⟨hdir, hslash, huntouched, hopen, resolved, records, hresolved, hpathnames,
    hsorted ▸ hopened, ?_⟩
  exact Nat.le_antisymm honce (List.count_pos_iff.mpr (hstarted.mpr restorable_smallTree))

/-- A store with one file whose name ends in a byte that is no text. -/
def strayTree : FileTree where
  entries :=
    [([Text.utf8 "store"], .directory),
      ([Text.utf8 "store", Text.utf8 "!" ++ [0xFF]], .file (Text.utf8 "data") false)]

/-- The only file of the store can be opened, but there is none with the name that is shown of it. So
the job fails, although it is only to pass the file over. -/
theorem stray_name_breaks_run :
    strayTree.find true (.ofText "/store") = .ok ([Text.utf8 "store"], .directory) ∧
      DirectoryStore.recordFiles strayTree [Text.utf8 "store"] = [Text.utf8 "!" ++ [0xFF]] ∧
      (∀ file ∈ strayTree.children [Text.utf8 "store"],
        DirectoryStore.CanOpen ⟨"/store"⟩ strayTree file.1) ∧
      Untouched (Host.counting.within Prod.fst fun s (u : Nat × FileTree) => (s, u.2))
        Guest.willing Prod.snd ⟨"/store"⟩ ∧
      ((run (Host.counting.within Prod.fst fun s (u : Nat × FileTree) => (s, u.2)) Guest.willing
          {} Prod.snd ⟨"/store"⟩).run (0, strayTree)).1 =
        .error (.context "read store record"
          (.context "open /store/!\uFFFD" (.io (.os .noEntry)))) := by
  have hdir : strayTree.find true (.ofText "/store") = .ok ([Text.utf8 "store"], .directory) := by
    decide +kernel
  have huntouched := untouched_within Host.counting ⟨"/store"⟩
  have hnames : DirectoryStore.names ⟨"/store"⟩ strayTree = .ok ["!\uFFFD"] := by
    rw [DirectoryStore.names_eq ⟨"/store"⟩ hdir,
      show DirectoryStore.fileNames strayTree [Text.utf8 "store"] = ["!\uFFFD"] by decide +kernel,
      List.mergeSort_singleton]
  have hbad : DirectoryStore.record ⟨"/store"⟩ "!\uFFFD" strayTree =
      .error (.context "open /store/!\uFFFD" (.io (.os .noEntry))) := by
    rfl
  refine ⟨hdir, by decide +kernel, ?_, huntouched, ?_⟩
  · intro file hmem
    apply DirectoryStore.canOpen_of_toBool
    revert file
    decide +kernel
  · exact congrArg Prod.fst (run_breaks (s := (0, strayTree)) huntouched hnames .nil hbad)

end GuestVault.Restore

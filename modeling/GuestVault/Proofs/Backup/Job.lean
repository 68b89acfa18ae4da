import GuestVault.Backup.Job
import GuestVault.Proofs.Backup.Capture
import GuestVault.Proofs.Backup.Deposit
import GuestVault.Proofs.Host.Agreement

/-!
# Backups of all machines

If every dump delivers its bytes and ends well (`Dumps`), a backup leaves an archive with exactly
these bytes and fitting metadata for each machine, and nothing else: `guest_holds` for one machine,
`run_holds` for all.
-/

namespace GuestVault

open GuestVault.Text

variable {σ κ : Type}

/-- The output of a fresh handle is `bytes`, in whatever pieces and with whatever interruptions in
between, and its process ends well. -/
structure StreamHandle.Delivers (h : StreamHandle) (bytes : Bytes) : Prop where
  fresh : h.outcome = none
  not_cancelled : h.cancelled = false
  fault_free : h.stdout.fault? = none
  delivered : h.stdout.deliveredUntilFault = bytes
  ends_well : ∃ exit, h.process.ended = .ok exit ∧ exit.success = true

theorem StreamHandle.Delivers.due {h : StreamHandle} {bytes : Bytes} (hd : h.Delivers bytes) :
    h.Due (.ok ()) bytes := by
  obtain ⟨exit, hended, hsuccess⟩ := hd.ends_well
  refine Or.inl ⟨hd.fresh, hd.not_cancelled, hd.fault_free, hd.delivered, ?_⟩
  rw [hended]
  exact if_pos hsuccess

namespace Backup

/-- Nothing goes wrong when the machines are dumped one after the other: `Ready machines` holds before
their turn, each dump delivers its bytes and ends well, clocks show times with a text, and the files of
the store change only when a record is stored. -/
structure Dumps (host : Host σ κ) (backup : BackupSettings) (tree : σ → FileTree)
    (sink : RecordSink σ) (store : DirectoryStore) (dump : Machine → Bytes)
    (Ready : List Machine → σ → Prop) : Prop where
  openStream : ∀ {machine rest s}, Ready (machine :: rest) s → ∃ handle s',
    (host.openStream (Capture.command backup machine.vmid)).run s = (.ok handle, s') ∧
      handle.Delivers (dump machine) ∧ tree s' = tree s ∧ Ready rest s'
  now : ∀ {machines s}, Ready machines s →
    (host.now s).1.Encodable ∧ tree (host.now s).2 = tree s ∧ Ready machines (host.now s).2
  note : ∀ {machines s} level message, Ready machines s →
    tree (host.note level message s).2 = tree s ∧ Ready machines (host.note level message s).2
  put : ∀ {ρ : Type} [ByteSource ρ] {machines s} (pathname : String) (reader : ρ),
    Ready machines s → ∃ s',
      sink.put pathname reader s = ((store.put pathname reader (tree s)).1, s') ∧
        tree s' = (store.put pathname reader (tree s)).2 ∧ Ready machines s'

/-- Whatever a machine's dump does, clocks show times with a text, and the files of the store change
only when a record is stored. -/
structure Serves (host : Host σ κ) (tree : σ → FileTree) (sink : RecordSink σ)
    (store : DirectoryStore) (Ready : List Machine → σ → Prop) : Prop where
  now : ∀ {machines s}, Ready machines s →
    (host.now s).1.Encodable ∧ tree (host.now s).2 = tree s ∧ Ready machines (host.now s).2
  note : ∀ {machines s} level message, Ready machines s →
    tree (host.note level message s).2 = tree s ∧ Ready machines (host.note level message s).2
  put : ∀ {ρ : Type} [ByteSource ρ] {machines s} (pathname : String) (reader : ρ),
    Ready machines s → ∃ s',
      sink.put pathname reader s = ((store.put pathname reader (tree s)).1, s') ∧
        tree s' = (store.put pathname reader (tree s)).2 ∧ Ready machines s'

variable {host : Host σ κ} {tree : σ → FileTree} {sink : RecordSink σ} {store : DirectoryStore}
  {dump : Machine → Bytes} {Ready : List Machine → σ → Prop} {settings : Settings}
  {dir : Location} {files : List (String × Bytes)}
  {machine : Machine} {rest machines : List Machine} {s : σ} {archive : ArchiveName}

theorem Dumps.serves (h : Dumps host settings.backup tree sink store dump Ready) :
    Serves host tree sink store Ready :=
  ⟨h.now, h.note, h.put⟩

theorem Serves.noteOutcome (h : Serves host tree sink store Ready) (handle : StreamHandle)
    (hs : Ready machines s) :
    tree (host.noteOutcome handle s).2 = tree s ∧ Ready machines (host.noteOutcome handle s).2 := by
  unfold Host.noteOutcome
  rcases handle.outcome with _ | e | _
  · exact ⟨rfl, hs⟩
  · exact h.note _ _ hs
  · exact ⟨rfl, hs⟩

theorem noteOutcome_of_due (host : Host σ κ) {handle : StreamHandle} {due : Bytes}
    (h : handle.Due (.ok ()) due) : host.noteOutcome handle = pure () := by
  unfold Host.noteOutcome
  rcases h with ⟨hopen, -⟩ | ⟨hdone, -⟩
  · rw [hopen]
  · rw [hdone]

/-! ## Stages -/

theorem storeArchive_of_put {reader reader' : ArchiveReader} {stored : Except Failure Nat} {s' : σ}
    (h : sink.put ("/" ++ reader.name.render) reader s = ((stored, reader'), s')) :
    (storeArchive host sink machine reader).run s =
      (account host machine reader.name.render stored reader').run s' := by
  unfold storeArchive
  exact Action.run_bind_of_ok (Action.run_lift_of_eq h)

/-- What was not stored is given up, and its failure is the outcome. -/
theorem account_of_error {name : String} {reader : ArchiveReader} {f : Failure} :
    (account host machine name (.error f) reader).run s =
      (.error (.context ("store " ++ name) f), (host.noteOutcome reader.abort.2.stream s).2) := by
  unfold account
  refine (Action.run_bind_of_ok (Action.run_lift _ _)).trans ?_
  exact Action.run_bind_of_error rfl

theorem storeMetadata_of_error {name : String} {size : Nat} {e : Error}
    (hencode : (Metadata.ofArchive name machine.vmid settings.backup settings.origin size
      (host.now s).1).encode = .error e) :
    (storeMetadata host sink settings machine name size).run s =
      (.error (.error e), (host.now s).2) := by
  unfold storeMetadata
  rw [Action.run_bind_of_ok (Action.run_lift host.now s)]
  dsimp only
  rw [hencode]
  rfl

theorem storeMetadata_of_put {name text : String} {size : Nat} {stored : Except Failure Nat}
    {rest : Script} {s' : σ}
    (hencode : (Metadata.ofArchive name machine.vmid settings.backup settings.origin size
      (host.now s).1).encode = .ok text)
    (hput : sink.put ("/" ++ Sidecar.name name) (Script.ofBytes (utf8 text)) (host.now s).2 =
      ((stored, rest), s')) :
    (storeMetadata host sink settings machine name size).run s =
      ((inContext ("store metadata for " ++ name) stored).map fun _ => (), s') := by
  unfold storeMetadata
  rw [Action.run_bind_of_ok (Action.run_lift host.now s)]
  dsimp only
  rw [hencode]
  refine (Action.run_bind_of_ok rfl).trans ?_
  refine (Action.run_bind_of_ok (Action.run_lift_of_eq hput)).trans ?_
  rcases stored with f | n
  · rfl
  · rfl

theorem guest_of_refused {e : Error} {s' : σ}
    (hstart : (Capture.start host settings.backup machine).run
      (host.note .info ("[backup] " ++ machine.label ++ ": starting vzdump") s).2 =
        (.error e, s')) :
    (guest host sink settings machine).run s =
      (.error (.context ("start backup of " ++ machine.label) (.error e)), s') := by
  unfold guest
  refine (Action.run_bind_of_ok (Action.run_lift _ _)).trans ?_
  exact Action.run_bind_of_error (Action.run_mapError_of_error _ hstart)

theorem guest_of_started {reader : ArchiveReader} {s' : σ}
    (hstart : (Capture.start host settings.backup machine).run
      (host.note .info ("[backup] " ++ machine.label ++ ": starting vzdump") s).2 =
        (.ok reader, s')) :
    (guest host sink settings machine).run s =
      (do
        let count ← storeArchive host sink machine reader
        storeMetadata host sink settings machine reader.name.render count
        return (reader.name.render, count) : Action σ Failure (String × Nat)).run s' := by
  unfold guest
  refine (Action.run_bind_of_ok (Action.run_lift _ _)).trans ?_
  exact Action.run_bind_of_ok (Action.run_mapError_of_ok _ hstart)

/-! ## One machine -/

theorem start_seen {stream stream' : StreamHandle} {header : Bytes} {s₁ : σ}
    (h : Serves host tree sink store Ready)
    (hopen : (host.openStream (Capture.command settings.backup machine.vmid)).run s =
      (.ok stream, s₁))
    (hs : Ready rest s₁) (hpeek : Capture.peek stream = (.ok header, stream'))
    (hvmid : machine.vmid ≤ maxWord32) :
    ∃ name s', (Capture.start host settings.backup machine).run s =
        (.ok { name, header, stream := stream' }, s') ∧
      name.Proper ∧ name.kind = machine.kind ∧ name.vmid = machine.vmid ∧
      tree s' = tree s₁ ∧ Ready rest s' := by
  obtain ⟨message, hstart⟩ := Capture.start_of_peek_ok hopen hpeek
  obtain ⟨htree₁, hready₁⟩ := h.noteOutcome stream' hs
  obtain ⟨hnow, htree₂, hready₂⟩ := h.now hready₁
  obtain ⟨htree₃, hready₃⟩ := h.note .debug message hready₂
  refine ⟨_, _, hstart, ⟨Time.Moment.nameChars_stamp _, ?_, hvmid⟩, rfl, rfl,
    htree₃.trans (htree₂.trans htree₁), hready₃⟩
  exact Nat.le_of_eq (Time.Moment.length_stamp hnow.year_bounds)

theorem put_fresh {ρ : Type} [ByteSource ρ] {reader reader' : ρ} {data : Bytes} {name : String}
    (h : Serves host tree sink store Ready) (hs : Ready machines s)
    (hstore : store.Holds (tree s) dir files) (hname : DirectoryStore.Storable name)
    (hfresh : ∀ file ∈ files,
      file.1 ≠ name ∧ file.1 ≠ DirectoryStore.temporaryPrefix ++ name)
    (hread : readToEnd reader = (.ok (), data, reader')) :
    ∃ s', put sink ("/" ++ name) reader s =
        ((.ok data.length, reader'), s') ∧
      Ready machines s' ∧ store.Holds (tree s') dir ((name, data) :: files) := by
  obtain ⟨t, hput, hholds⟩ :=
    DirectoryStore.put_holds hstore hname (DirectoryStore.nameOf_eq hname) hread
  rw [List.filter_eq_self.mpr fun file hfile => decide_eq_true (hfresh file hfile).2,
    List.filter_eq_self.mpr fun file hfile => decide_eq_true (hfresh file hfile).1] at hholds
  obtain ⟨s', hsink, htree, hready⟩ := h.put ("/" ++ name) reader hs
  rw [hput] at hsink htree
  exact ⟨s', hsink, hready, htree.symm ▸ hholds⟩

theorem storeArchive_ok (machine : Machine) {reader : ArchiveReader} {data : Bytes}
    (h : Serves host tree sink store Ready) (hs : Ready machines s)
    (hreader : reader.Due (.ok ()) data.length data) (hname : reader.name.Proper)
    (hstore : store.Holds (tree s) dir files)
    (hfresh : ∀ file ∈ files, file.1 ≠ reader.name.render ∧
      file.1 ≠ DirectoryStore.temporaryPrefix ++ reader.name.render) :
    ∃ s', (storeArchive host sink machine reader).run s =
        (.ok data.length, s') ∧
      Ready machines s' ∧ store.Holds (tree s') dir ((reader.name.render, data) :: files) := by
  obtain ⟨reader', hread, -, hdone, hcount⟩ :=
    (ArchiveReader.delivery_due (.ok ()) data.length).readToEnd hreader
  obtain ⟨s₁, hput, hready, hholds⟩ := put_fresh h hs hstore hname.storable hfresh hread
  have hclose : reader'.close = (.ok (), reader') := by
    unfold ArchiveReader.close StreamHandle.close
    rw [StreamHandle.finalize_of_done hdone]
  have hdue : reader'.stream.Due (.ok ()) [] := Or.inr ⟨hdone, rfl⟩
  have hnote : host.noteOutcome reader'.stream = pure () := noteOutcome_of_due host hdue
  rw [storeArchive_of_put hput]
  unfold account
  dsimp only
  rw [hclose]
  dsimp only
  rw [hnote]
  by_cases hsilent : reader'.diagnostic = ""
  · refine ⟨s₁, ?_, hready, hholds⟩
    refine (Action.run_bind_of_ok rfl).trans ?_
    refine (Action.run_bind_of_ok rfl).trans ?_
    refine (Action.run_bind_of_ok rfl).trans ?_
    rw [if_pos hsilent, if_neg (not_not_intro hcount.symm)]
    rfl
  · let message := "[backup] " ++ machine.label ++ ": vzdump said: " ++ reader'.diagnostic
    obtain ⟨htree, hready'⟩ := h.note .debug message hready
    refine ⟨(host.note .debug message s₁).2, ?_, hready', htree.symm ▸ hholds⟩
    refine (Action.run_bind_of_ok rfl).trans ?_
    refine (Action.run_bind_of_ok rfl).trans ?_
    refine (Action.run_bind_of_ok rfl).trans ?_
    rw [if_neg hsilent]
    refine (Action.run_bind_of_ok (Action.run_lift _ _)).trans ?_
    rw [if_neg (not_not_intro hcount.symm)]
    rfl

theorem storeMetadata_ok {size : Nat} (settings : Settings)
    (h : Serves host tree sink store Ready) (hs : Ready machines s)
    (harchive : archive.Proper) (hkind : archive.kind = machine.kind)
    (hvmid : archive.vmid = machine.vmid) (hsize : size ≤ maxWord64)
    (hstore : store.Holds (tree s) dir files)
    (hfresh : ∀ file ∈ files, file.1 ≠ Sidecar.name archive.render ∧
      file.1 ≠ DirectoryStore.temporaryPrefix ++ Sidecar.name archive.render) :
    ∃ body s', (storeMetadata host sink settings machine archive.render size).run s =
        (.ok (), s') ∧
      Described machine size archive body ∧ Ready machines s' ∧
      store.Holds (tree s') dir ((Sidecar.name archive.render, body) :: files) := by
  obtain ⟨hnow, htree, hready⟩ := h.now hs
  obtain ⟨text, hencode, hread⟩ :=
    Metadata.ofArchive_readsBack harchive hsize hnow settings.backup settings.origin
  rw [← htree] at hstore
  obtain ⟨reader', hall, -⟩ := Script.delivery_holding.readToEnd (Script.holding_ofBytes (utf8 text))
  obtain ⟨s₁, hput, hready₁, hholds⟩ :=
    put_fresh h hready hstore harchive.storable_sidecar hfresh hall
  refine ⟨utf8 text, s₁, ?_, ⟨harchive, hkind, hvmid, _, hread, rfl, rfl, ?_, ?_⟩, hready₁, hholds⟩
  · rw [hvmid] at hencode
    exact storeMetadata_of_put hencode hput
  · exact congrArg Int.ofNat hvmid
  · rw [Metadata.vmType_ofArchive harchive, hkind]

/-- The records of a store belong to guests that are done. -/
def BelongsToOthers (machines : List Machine) (files : List (String × Bytes)) : Prop :=
  ∀ file ∈ files, ∃ vmid, ArchiveName.Belongs file.1 vmid ∧ vmid ∉ machines.map (·.vmid)

theorem BelongsToOthers.fresh (h : BelongsToOthers (machine :: rest) files) {name : String}
    (hname : ArchiveName.Belongs name machine.vmid) :
    ∀ file ∈ files, file.1 ≠ name ∧ file.1 ≠ DirectoryStore.temporaryPrefix ++ name := by
  intro file hfile
  obtain ⟨vmid, hbelongs, hother⟩ := h file hfile
  refine ⟨?_, hbelongs.ne_temporary name⟩
  rintro rfl
  exact hother (hbelongs.vmid_eq hname ▸ List.mem_cons_self)

/-- The records that are left for a machine. -/
def deposit (archive : ArchiveName) (data body : Bytes) : List (String × Bytes) :=
  [(Sidecar.name archive.render, body), (archive.render, data)]

theorem BelongsToOthers.append (h : BelongsToOthers (machine :: rest) files)
    (hnew : machine.vmid ∉ rest.map (·.vmid)) (hvmid : archive.vmid = machine.vmid)
    (data body : Bytes) : BelongsToOthers rest (deposit archive data body ++ files) := by
  intro file hfile
  rcases List.mem_append.mp hfile with hfile | hfile
  · refine ⟨machine.vmid, ?_, hnew⟩
    rw [← hvmid]
    rcases List.mem_pair.mp hfile with rfl | rfl
    · exact ArchiveName.belongs_sidecar archive
    · exact ArchiveName.belongs_render archive
  · obtain ⟨vmid, hbelongs, hother⟩ := h file hfile
    exact ⟨vmid, hbelongs, fun hmem => hother (List.mem_cons_of_mem _ hmem)⟩

/-- What was captured and can be read to a clean end is stored, and so is metadata that describes
it. -/
theorem guest_of_captured {reader : ArchiveReader} {data : Bytes} {s' : σ}
    (h : Serves host tree sink store Ready)
    (hstart : (Capture.start host settings.backup machine).run
      (host.note .info ("[backup] " ++ machine.label ++ ": starting vzdump") s).2 =
        (.ok reader, s'))
    (hs : Ready rest s') (hreader : reader.Due (.ok ()) data.length data)
    (hname : reader.name.Proper) (hkind : reader.name.kind = machine.kind)
    (hid : reader.name.vmid = machine.vmid) (hsize : data.length ≤ maxWord64)
    (hstore : store.Holds (tree s') dir files)
    (hothers : BelongsToOthers (machine :: rest) files) :
    ∃ body s'', (guest host sink settings machine).run s =
        (.ok (reader.name.render, data.length), s'') ∧
      Described machine data.length reader.name body ∧ Ready rest s'' ∧
      store.Holds (tree s'') dir (deposit reader.name data body ++ files) := by
  obtain ⟨s₃, harchive, hready₃, hholds₃⟩ := storeArchive_ok machine h hs hreader
    hname hstore (hothers.fresh (hid ▸ ArchiveName.belongs_render reader.name))
  have hfresh : ∀ file ∈ (reader.name.render, data) :: files,
      file.1 ≠ Sidecar.name reader.name.render ∧
        file.1 ≠ DirectoryStore.temporaryPrefix ++ Sidecar.name reader.name.render := by
    rintro file (_ | ⟨_, hfile⟩)
    · exact ⟨ArchiveName.render_ne_sidecar _ _, ArchiveName.render_ne_temporary _ _⟩
    · exact hothers.fresh (hid ▸ ArchiveName.belongs_sidecar reader.name) file hfile
  obtain ⟨body, s₄, hmetadata, hdescribed, hready₄, hholds₄⟩ :=
    storeMetadata_ok settings h hready₃ hname hkind hid hsize hholds₃ hfresh
  refine ⟨body, s₄, ?_, hdescribed, hready₄, hholds₄⟩
  rw [guest_of_started hstart, Action.run_bind_of_ok harchive, Action.run_bind_of_ok hmetadata]
  rfl

theorem run_cons {outcome : Except Failure (String × Nat)} {s' : σ}
    (h : (guest host sink settings machine).run s = (outcome, s')) :
    run host sink settings (machine :: rest) s =
      (⟨machine, outcome⟩ :: (run host sink settings rest
          (host.note (report machine outcome).level (report machine outcome).message s').2).1,
        (run host sink settings rest
          (host.note (report machine outcome).level (report machine outcome).message s').2).2) := by
  show (bind ((guest host sink settings machine).run) fun outcome =>
    bind (host.note (report machine outcome).level (report machine outcome).message) fun _ =>
      bind (run host sink settings rest) fun more =>
        pure (Stored.mk machine outcome :: more) : StateM σ (List Stored)) s = _
  simp only [bind, StateT.bind, h]
  rfl

end Backup

end GuestVault

import GuestVault.Proofs.Backup.Faithful
import GuestVault.Proofs.Backup.Job
import GuestVault.Proofs.Stream.Faults

/-!
# Backups of machines whose dumps may fail

A dump may fail to start, stop with an error in the middle, or end with a process that failed or could
not be waited for. Each of these leaves the store as it was, and the machines that come later are
dumped all the same. A dump is stored exactly if it is `Dump.Complete`: `guest_complete` and
`guest_incomplete` for one machine, `run_fates` for all.
-/

namespace GuestVault

open GuestVault.Text

variable {σ κ : Type}

/-- A dump tool that was started and is left to itself. -/
structure Dump where
  program : String
  stdout : Script
  stderr : Script
  process : ProcessFate

namespace Dump

/-- The handle of the dump tool. -/
def handle (d : Dump) : StreamHandle :=
  .start d.program d.stdout d.stderr d.process false

/-- The dump has some output without faults, and its process ends well. -/
structure Complete (d : Dump) : Prop where
  fault_free : d.stdout.fault? = none
  nonempty : d.stdout.delivered ≠ []
  ends_well : EndedWell d.process.ended

variable {d : Dump}

theorem due_handle (hfault : d.stdout.fault? = none) :
    d.handle.Due
      (StreamHandle.conclude d.program (StreamHandle.diagnosticOf d.stderr) false d.process.ended)
      d.stdout.delivered :=
  Or.inl ⟨rfl, rfl, hfault, (Script.delivered_eq hfault).symm, rfl⟩

theorem Complete.due (h : d.Complete) : d.handle.Due (.ok ()) d.stdout.delivered := by
  have hdue := due_handle h.fault_free
  rwa [(settles_conclude ..).ok_iff.mpr h.ends_well] at hdue

end Dump

theorem ArchiveReader.neverEnds {P : StreamHandle → Prop} (h : NeverEnds P) :
    NeverEnds fun r : ArchiveReader => P r.stream where
  reads := by
    intro n r hn hr
    have hread : ByteSource.read n r = r.read n := rfl
    have hbound (r : ArchiveReader) :
        ByteSource.bound r = r.header.length + ByteSource.bound r.stream := rfl
    rw [hread, hbound, hbound]
    cases hheader : r.header with
    | cons b bs =>
      obtain ⟨n, rfl⟩ := Nat.exists_eq_succ_of_ne_zero hn
      have hnext : r.header.take (n + 1) = b :: bs.take n := by rw [hheader]; rfl
      rw [read_header hnext, hheader]
      refine Or.inr ⟨List.cons_ne_nil _ _, hr, Nat.add_lt_add_right ?_ _⟩
      simp only [List.drop_succ_cons, List.length_drop, List.length_cons]
      omega
    | nil =>
      have hstream : ByteSource.read n r.stream = r.stream.read n := rfl
      have hlaw := h.reads hn hr
      rw [hstream] at hlaw
      rw [read_stream (by rw [hheader, List.take_nil])]
      rcases hlaw with ⟨e, stream, hfails, hint⟩ | ⟨hon, hkept, hless⟩
      · rw [hfails]
        exact Or.inl ⟨e, _, rfl, hint⟩
      · rcases hnext : r.stream.read n with ⟨e | bytes, stream⟩
        · rw [hnext] at hon hkept hless
          refine Or.inr ⟨hon, hkept, ?_⟩
          dsimp only
          rw [hheader]
          exact Nat.add_lt_add_left hless _
        · rw [hnext] at hon hkept hless
          refine Or.inr ⟨hon, hkept, ?_⟩
          dsimp only
          rw [hheader]
          exact Nat.add_lt_add_left hless _
  bound_pos hr := Nat.add_pos_right _ (h.bound_pos hr)

/-- If a dump is not complete, it cannot be looked at, or what is captured cannot be read to its
end. -/
theorem Capture.peek_incomplete {d : Dump} (hincomplete : ¬ d.Complete) :
    (∃ e stream', peek d.handle = (.error e, stream')) ∨
    ∃ header stream', peek d.handle = (.ok header, stream') ∧ ∀ name, ∃ e data r',
      readToEnd ({ name, header, stream := stream' } : ArchiveReader) = (.error e, data, r') := by
  cases hfault : d.stdout.fault? with
  | none =>
    have hdue := d.due_handle hfault
    have hsettles := settles_conclude d.program (StreamHandle.diagnosticOf d.stderr) false
      d.process.ended
    generalize StreamHandle.conclude d.program (StreamHandle.diagnosticOf d.stderr) false
      d.process.ended = done at hdue hsettles
    by_cases hshows : Shows done d.stdout.delivered
    · obtain ⟨stream', -, hpeek, hrest⟩ := peek_due hdue hshows
      refine Or.inr ⟨_, stream', hpeek, fun name => ?_⟩
      obtain ⟨r', hread, -⟩ := (ArchiveReader.delivery_due done d.stdout.delivered.length).readToEnd
        (r := { name, header := d.stdout.delivered.take Compression.headerLength, stream := stream' })
        ⟨_, hrest, (List.take_append_drop _ _).symm, Nat.zero_add _⟩
      rcases done with c | ⟨⟩
      · exact ⟨c.toIo, _, r', hread⟩
      · exact absurd ⟨hfault, hshows.1, hsettles.ok_iff.mp rfl⟩ hincomplete
    · exact Or.inl (peek_fails hdue hshows)
  | some e =>
    have hfaulty : d.handle.Faulty := ⟨⟨rfl, rfl⟩, Option.isSome_of_eq_some hfault⟩
    unfold peek
    rcases hread : readUpTo Compression.headerLength d.handle with ⟨e | (_ | ⟨b, bs⟩), stream'⟩
    · exact Or.inl ⟨_, _, rfl⟩
    · exact Or.inl ⟨_, _, rfl⟩
    · have hkept : stream'.Faulty := StreamHandle.neverEnds_faulty.readUpToOn hfaulty hread
      exact Or.inr ⟨b :: bs, stream', rfl, fun name =>
        (ArchiveReader.neverEnds StreamHandle.neverEnds_faulty).readToEnd hkept⟩

namespace Backup

/-- What the dump of each machine does is known: it is refused, or it is started and left to itself.
Clocks show times with a text, and the files of the store change only when a record is stored. -/
structure Fates (host : Host σ κ) (backup : BackupSettings) (tree : σ → FileTree)
    (sink : RecordSink σ) (store : DirectoryStore) (fate : Machine → Except Error Dump)
    (Ready : List Machine → σ → Prop) : Prop extends Serves host tree sink store Ready where
  openStream : ∀ {machine rest s}, Ready (machine :: rest) s → ∃ s',
    (host.openStream (Capture.command backup machine.vmid)).run s =
      ((fate machine).map Dump.handle, s') ∧ tree s' = tree s ∧ Ready rest s'

variable {host : Host σ κ} {tree : σ → FileTree} {sink : RecordSink σ} {store : DirectoryStore}
  {fate : Machine → Except Error Dump} {Ready : List Machine → σ → Prop} {settings : Settings}
  {dir : Location} {files : List (String × Bytes)}
  {machine : Machine} {rest machines : List Machine} {s s' : σ}

/-! ## One machine -/

theorem storeArchive_fails (machine : Machine) {reader reader' : ArchiveReader} {data : Bytes}
    {e : IoError} (h : Serves host tree sink store Ready) (hs : Ready machines s)
    (hread : readToEnd reader = (.error e, data, reader')) (hname : reader.name.Proper)
    (hstore : store.Holds (tree s) dir files)
    (hfresh : ∀ file ∈ files, file.1 ≠ DirectoryStore.temporaryPrefix ++ reader.name.render) :
    ∃ f s', (storeArchive host sink machine reader).run s = (.error f, s') ∧ Ready machines s' ∧
      store.Holds (tree s') dir files := by
  obtain ⟨f, t, hput, hholds⟩ :=
    DirectoryStore.put_holds_of_error hstore hname.storable
      (DirectoryStore.nameOf_eq hname.storable) hread
  rw [List.filter_eq_self.mpr fun file hfile => decide_eq_true (hfresh file hfile)] at hholds
  obtain ⟨s₁, hsink, htree₁, hready₁⟩ := h.put ("/" ++ reader.name.render) reader hs
  rw [hput] at hsink htree₁
  obtain ⟨htree₂, hready₂⟩ := h.noteOutcome reader'.abort.2.stream hready₁
  refine ⟨.context ("store " ++ reader.name.render) f,
    (host.noteOutcome reader'.abort.2.stream s₁).2, ?_, hready₂, ?_⟩
  · rw [storeArchive_of_put hsink, account_of_error]
  · rw [htree₂, htree₁]
    exact hholds

/-- **A complete dump is stored**, with metadata that describes it. -/
theorem guest_complete {d : Dump} (h : Fates host settings.backup tree sink store fate Ready)
    (hs : Ready (machine :: rest) s) (hfate : fate machine = .ok d) (hcomplete : d.Complete)
    (hsize : d.stdout.delivered.length ≤ maxWord64) (hvmid : machine.vmid ≤ maxWord32)
    (hstore : store.Holds (tree s) dir files) (hothers : BelongsToOthers (machine :: rest) files) :
    ∃ archive body s', (guest host sink settings machine).run s =
        (.ok (archive.render, d.stdout.delivered.length), s') ∧
      Described machine d.stdout.delivered.length archive body ∧ Ready rest s' ∧
      store.Holds (tree s') dir (deposit archive d.stdout.delivered body ++ files) := by
  obtain ⟨htree₁, hready₁⟩ := h.note .info ("[backup] " ++ machine.label ++ ": starting vzdump") hs
  obtain ⟨s₂, hopen, htree₂, hready₂⟩ := h.openStream hready₁
  rw [hfate] at hopen
  obtain ⟨stream, -, hpeek, hrest⟩ :=
    Capture.peek_due hcomplete.due ⟨hcomplete.nonempty, Or.inr rfl⟩
  obtain ⟨name, s₃, hstart, hname, hkind, hid, htree₃, hready₃⟩ :=
    start_seen h.toServes hopen hready₂ hpeek hvmid
  rw [← htree₁, ← htree₂, ← htree₃] at hstore
  obtain ⟨body, s', hrun, hdescribed, hready, hholds⟩ := guest_of_captured h.toServes hstart hready₃
    ⟨_, hrest, (List.take_append_drop _ _).symm, Nat.zero_add _⟩ hname hkind hid hsize hstore hothers
  exact ⟨name, body, s', hrun, hdescribed, hready, hholds⟩

/-- **Nothing is stored of any other dump.** -/
theorem guest_incomplete (h : Fates host settings.backup tree sink store fate Ready)
    (hs : Ready (machine :: rest) s) (hincomplete : ∀ d, fate machine = .ok d → ¬ d.Complete)
    (hvmid : machine.vmid ≤ maxWord32)
    (hstore : store.Holds (tree s) dir files) (hothers : BelongsToOthers (machine :: rest) files) :
    ∃ f s', (guest host sink settings machine).run s = (.error f, s') ∧ Ready rest s' ∧
      store.Holds (tree s') dir files := by
  obtain ⟨htree₁, hready₁⟩ := h.note .info ("[backup] " ++ machine.label ++ ": starting vzdump") hs
  obtain ⟨s₂, hopen, htree₂, hready₂⟩ := h.openStream hready₁
  rw [← htree₁, ← htree₂] at hstore
  cases hfate : fate machine with
  | error e =>
    rw [hfate] at hopen
    exact ⟨_, s₂, guest_of_refused (Capture.start_of_refused hopen), hready₂, hstore⟩
  | ok d =>
    rw [hfate] at hopen
    rcases Capture.peek_incomplete (hincomplete d hfate) with
      ⟨e, stream', hpeek⟩ | ⟨header, stream', hpeek, hunreadable⟩
    · obtain ⟨htree₃, hready₃⟩ := h.noteOutcome stream' hready₂
      rw [← htree₃] at hstore
      exact ⟨_, _, guest_of_refused (Capture.start_of_peek_error hopen hpeek), hready₃, hstore⟩
    · obtain ⟨name, s₃, hstart, hname, hkind, hid, htree₃, hready₃⟩ :=
        start_seen h.toServes hopen hready₂ hpeek hvmid
      rw [← htree₃] at hstore
      obtain ⟨e, data, reader', hread⟩ := hunreadable name
      obtain ⟨f, s', hstored, hready, hholds⟩ := storeArchive_fails machine h.toServes hready₃ hread
        hname hstore fun file hfile =>
          (hothers.fresh (hid ▸ ArchiveName.belongs_render name) file hfile).2
      refine ⟨f, s', ?_, hready, hholds⟩
      rw [guest_of_started hstart]
      exact Action.run_bind_of_error hstored

/-! ## All machines -/

/-- The outcome of a machine accounts for what the store has of it: of a complete dump all of its
output, with the size, and metadata that describes it; of any other dump nothing at all. -/
inductive Accounted (fate : Machine → Except Error Dump) : Stored → List (String × Bytes) → Prop
  | stored {machine : Machine} {d : Dump} {archive : ArchiveName} {body : Bytes} :
    fate machine = .ok d → d.Complete → Described machine d.stdout.delivered.length archive body →
    Accounted fate ⟨machine, .ok (archive.render, d.stdout.delivered.length)⟩
      (deposit archive d.stdout.delivered body)
  | failed {machine : Machine} {f : Failure} : (∀ d, fate machine = .ok d → ¬ d.Complete) →
    Accounted fate ⟨machine, .error f⟩ []

/-- **A backup of one machine is accounted for by its outcome**, whatever its dump does. -/
theorem guest_fate (h : Fates host settings.backup tree sink store fate Ready)
    (hs : Ready (machine :: rest) s)
    (hsize : ∀ d, fate machine = .ok d → d.stdout.delivered.length ≤ maxWord64)
    (hvmid : machine.vmid ≤ maxWord32) (hnew : machine.vmid ∉ rest.map (·.vmid))
    (hstore : store.Holds (tree s) dir files) (hothers : BelongsToOthers (machine :: rest) files) :
    ∃ outcome records s', (guest host sink settings machine).run s = (outcome, s') ∧
      Accounted fate ⟨machine, outcome⟩ records ∧ Ready rest s' ∧
      store.Holds (tree s') dir (records ++ files) ∧ BelongsToOthers rest (records ++ files) := by
  by_cases hdone : ∃ d, fate machine = .ok d ∧ d.Complete
  · obtain ⟨d, hfate, hcomplete⟩ := hdone
    obtain ⟨archive, body, s', hrun, hdescribed, hready, hholds⟩ :=
      guest_complete h hs hfate hcomplete (hsize d hfate) hvmid hstore hothers
    exact ⟨_, _, s', hrun, .stored hfate hcomplete hdescribed, hready, hholds,
      hothers.append hnew hdescribed.vmid_eq _ _⟩
  · have hincomplete : ∀ d, fate machine = .ok d → ¬ d.Complete :=
      fun d hfate hcomplete => hdone ⟨d, hfate, hcomplete⟩
    obtain ⟨f, s', hrun, hready, hholds⟩ :=
      guest_incomplete h hs hincomplete hvmid hstore hothers
    refine ⟨_, [], s', hrun, .failed hincomplete, hready, hholds, fun file hfile => ?_⟩
    obtain ⟨vmid, hbelongs, hother⟩ := hothers file hfile
    exact ⟨vmid, hbelongs, fun hmem => hother (List.mem_cons_of_mem _ hmem)⟩

/-- **A backup leaves exactly the records that its outcomes account for**, one outcome for each
machine and in their order. -/
theorem run_fates (h : Fates host settings.backup tree sink store fate Ready)
    (hs : Ready machines s)
    (hsize : ∀ m ∈ machines, ∀ d, fate m = .ok d → d.stdout.delivered.length ≤ maxWord64)
    (hvmid : ∀ m ∈ machines, m.vmid ≤ maxWord32) (hnodup : (machines.map (·.vmid)).Nodup)
    (hstore : store.Holds (tree s) dir files) (hothers : BelongsToOthers machines files) :
    ∃ stored s' left, run host sink settings machines s = (stored, s') ∧
      stored.map (·.machine) = machines ∧ List.Forall₂ (Accounted fate) stored left ∧
      store.Holds (tree s') dir (left.reverse.flatten ++ files) := by
  induction machines generalizing s files with
  | nil => exact ⟨[], s, [], rfl, rfl, .nil, hstore⟩
  | cons machine rest ih =>
    obtain ⟨hsize₁, hsizes⟩ := List.forall_mem_cons.mp hsize
    obtain ⟨hvmid₁, hvmids⟩ := List.forall_mem_cons.mp hvmid
    obtain ⟨hnew, hrest⟩ := List.nodup_cons.mp hnodup
    obtain ⟨outcome, records, s₁, hguest, haccounted, hready₁, hholds₁, hothers₁⟩ :=
      guest_fate h hs hsize₁ hvmid₁ hnew hstore hothers
    let entry := report machine outcome
    obtain ⟨htree, hready₂⟩ := h.note entry.level entry.message hready₁
    rw [← htree] at hholds₁
    obtain ⟨stored, s', left, hrun, hmachines, hall, hholds⟩ :=
      ih hready₂ hsizes hvmids hrest hholds₁ hothers₁
    refine ⟨⟨machine, outcome⟩ :: stored, s', records :: left, ?_, ?_, .cons haccounted hall, ?_⟩
    · rw [run_cons hguest, hrun]
    · rw [List.map_cons, hmachines]
    · rw [List.reverse_cons, List.flatten_append, List.flatten_singleton, List.append_assoc]
      exact hholds

end Backup

end GuestVault

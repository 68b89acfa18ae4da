import GuestVault.Proofs.Backup.Outcomes
import GuestVault.Proofs.Restore.RoundTrip

/-!
# Diagnostics of failed dumps

The error of a dump that did not end well is wrapped into an input error by the stream, taken out of it
again or handed on by the store, and put into contexts by the job. It comes through unharmed on every
way, so what the dump tool said is part of the outcome of its machine (`Backup.guest_reports_dump`).
-/

namespace GuestVault

open GuestVault.Text

/-! ## The error of a dump -/

/-- The error is the one that the handle keeps: what waiting for the dump tool found, with all that the
tool said. -/
structure Dump.FailsWith (d : Dump) (e : Error) : Prop where
  cached : d.handle.finalize.1 = .error e
  of_exit : ∀ exit, d.process.ended = .ok exit →
    e = .command "vzdump" exit.text (trim (lossy d.stderr.deliveredUntilFault))
  of_fault : ∀ fault, d.process.ended = .error fault → e = .io "wait for vzdump" fault

/-- A process that does not end well leads to an error. -/
theorem Dump.exists_failsWith {d : Dump} (hprogram : d.program = "vzdump")
    (hfailed : ¬ EndedWell d.process.ended) : ∃ e, d.FailsWith e := by
  have hconclude : d.handle.finalize.1 = StreamHandle.conclude d.program
      (StreamHandle.diagnosticOf d.stderr) false d.process.ended := rfl
  rw [StreamHandle.diagnosticOf_eq, hprogram] at hconclude
  cases hended : d.process.ended with
  | error fault =>
    rw [hended] at hconclude
    refine ⟨_, hconclude, fun exit h => ?_, fun fault' h => ?_⟩
    · cases hended.symm.trans h
    · cases hended.symm.trans h
      rfl
  | ok exit =>
    have hcode : ¬ exit.success = true := fun hsuccess => hfailed ⟨exit, hended, hsuccess⟩
    rw [hended, StreamHandle.conclude, if_neg hcode, if_neg Bool.false_ne_true] at hconclude
    refine ⟨_, hconclude, fun exit' h => ?_, fun fault h => ?_⟩
    · cases hended.symm.trans h
      rfl
    · cases hended.symm.trans h

theorem Dump.FailsWith.due {d : Dump} {e : Error} (h : d.FailsWith e)
    (hfault : d.stdout.fault? = none) : d.handle.Due (.error e) d.stdout.delivered := by
  rw [← h.cached]
  exact Dump.due_handle hfault

namespace Failure

theorem links_io_toIo (e : Error) : (io e.toIo).links = e.chain.map .text := by
  unfold links Error.toIo
  rw [IoError.chain]

end Failure

namespace Backup

variable {σ κ : Type} {host : Host σ κ} {tree : σ → FileTree} {sink : RecordSink σ}
  {store : DirectoryStore} {settings : Settings} {machine : Machine} {s s' : σ}

/-! ## Ways of an error -/

/-- What the reader of an archive met is reported by the store, and then by the job. -/
theorem storeArchive_of_unread {reader reader' : ArchiveReader} {data : Bytes} {e : IoError}
    (hsink : (sink.put ("/" ++ reader.name.render) reader s).1 =
      (store.put ("/" ++ reader.name.render) reader (tree s)).1)
    (hname : NameChars reader.name.stamp.toList)
    (hwritable : store.Writable (tree s) (DirectoryStore.temporaryPrefix ++ reader.name.render))
    (hread : readToEnd reader = (.error e, data, reader')) :
    ((storeArchive host sink machine reader).run s).1 =
      .error (.context ("store " ++ reader.name.render)
        (.context ("store " ++ ("/" ++ reader.name.render)) (.io e))) := by
  have hchars := ArchiveName.nameChars_render hname
  have hpath := DirectoryStore.nameOf_of_nameChars hchars
    (Nat.lt_of_lt_of_le (by decide) (ArchiveName.render_length reader.name))
  rw [DirectoryStore.put_of_unread hpath (DirectoryStore.nul_free_of_nameChars hchars) hwritable
    hread] at hsink
  rcases hput : sink.put ("/" ++ reader.name.render) reader s with ⟨stored, s₁⟩
  rw [hput] at hsink
  obtain rfl := hsink
  rw [storeArchive_of_put hput, account_of_error]

theorem exists_started {stream stream' : StreamHandle} {header more : Bytes}
    {done : Except Error Unit}
    (hopen : (host.openStream (Capture.command settings.backup machine.vmid)).run s =
      (.ok stream, s'))
    (hpeek : Capture.peek stream = (.ok header, stream')) (hmore : stream'.Due done more) :
    ∃ reader s'', (Capture.start host settings.backup machine).run s = (.ok reader, s'') ∧
      NameChars reader.name.stamp.toList ∧
      reader.Due done (header ++ more).length (header ++ more) := by
  obtain ⟨message, hstart⟩ := Capture.start_of_peek_ok hopen hpeek
  exact ⟨_, _, hstart, Time.Moment.nameChars_stamp _, more, hmore, rfl, Nat.zero_add _⟩

theorem guest_of_unstored {reader : ArchiveReader} {f : Failure} {s₁ : σ}
    (hstart : (Capture.start host settings.backup machine).run
      (host.note .info ("[backup] " ++ machine.label ++ ": starting vzdump") s).2 =
        (.ok reader, s₁))
    (hstored : ((storeArchive host sink machine reader).run s₁).1 = .error f) :
    ((guest host sink settings machine).run s).1 = .error f := by
  rw [guest_of_started hstart]
  rcases hrun : (storeArchive host sink machine reader).run s₁ with ⟨stored, s₂⟩
  rw [hrun] at hstored
  obtain rfl := hstored
  exact congrArg Prod.fst (Action.run_bind_of_error hrun)

/-- The failure of a dump that had little to show, and of one that had more. -/
def ReportsDump (machine : Machine) (e : Error) (size : Nat) (f : Failure) : Prop :=
  (size < Compression.headerLength ∧
    f = .context ("start backup of " ++ machine.label) (.error e)) ∨
  (Compression.headerLength ≤ size ∧ ∃ archive : String,
    f = .context ("store " ++ archive) (.context ("store " ++ ("/" ++ archive)) (.io e.toIo)))

/-- **What a failing dump tool said is part of the outcome of its machine.** Whatever a dump has put out,
in whatever pieces, if its process then does not end well, the job fails with the very error that the
stream settled on, as the first error of the chain. Nothing is asked of the store but that it can write
its own temporary file. -/
theorem guest_reports_dump (sink : RecordSink σ) (tree : σ → FileTree) (store : DirectoryStore)
    {d : Dump} {s₁ s₂ : σ} (hprogram : d.program = "vzdump")
    (hfault : d.stdout.fault? = none) (hfailed : ¬ EndedWell d.process.ended)
    (hnote : (host.note .info ("[backup] " ++ machine.label ++ ": starting vzdump") s).2 = s₁)
    (hopen : (host.openStream (Capture.command settings.backup machine.vmid)).run s₁ =
      (.ok d.handle, s₂))
    (hsink : ∀ {ρ : Type} [ByteSource ρ] (pathname : String) (reader : ρ) (s : σ),
      (sink.put pathname reader s).1 = (store.put pathname reader (tree s)).1)
    (hstore : ∀ reader s₃, (Capture.start host settings.backup machine).run s₁ =
        (.ok reader, s₃) →
      store.Writable (tree s₃) (DirectoryStore.temporaryPrefix ++ reader.name.render)) :
    ∃ e f, d.FailsWith e ∧ ((guest host sink settings machine).run s).1 = .error f ∧
      f.error? = some e ∧ e.chain.map .text <:+ f.links ∧
      ReportsDump machine e d.stdout.delivered.length f := by
  obtain ⟨e, he⟩ := Dump.exists_failsWith hprogram hfailed
  have hdue := he.due hfault
  by_cases hshort : d.stdout.delivered.length < Compression.headerLength
  · obtain ⟨stream', hpeek⟩ := Capture.peek_of_short hdue hshort
    have hstart := Capture.start_of_peek_error hopen hpeek
    rw [← hnote] at hstart
    refine ⟨e, _, he, congrArg Prod.fst (guest_of_refused hstart), rfl, List.suffix_cons _ _,
      Or.inl ⟨hshort, rfl⟩⟩
  · have hlong := Nat.le_of_not_lt hshort
    have hshows : Capture.Shows (.error e) d.stdout.delivered :=
      ⟨List.ne_nil_of_length_pos (Nat.lt_of_lt_of_le (by decide) hlong), Or.inl hlong⟩
    obtain ⟨stream', -, hpeek, hrest⟩ := Capture.peek_due hdue hshows
    obtain ⟨reader, s₃, hstart, hname, hreader⟩ := exists_started hopen hpeek hrest
    obtain ⟨reader', hread, -⟩ := (ArchiveReader.delivery_due (.error e) _).readToEnd hreader
    have hstored : ((storeArchive host sink machine reader).run s₃).1 = .error _ :=
      storeArchive_of_unread (hsink _ _ _) hname (hstore _ _ hstart) hread
    rw [← hnote] at hstart
    refine ⟨e, _, he, guest_of_unstored hstart hstored, rfl, ?_, Or.inr ⟨hlong, _, rfl⟩⟩
    rw [Failure.links, Failure.links, Failure.links_io_toIo]
    exact (List.suffix_cons _ _).trans (List.suffix_cons _ _)

/-! ## A locked guest -/

/-- A dump that breaks off after some output, because the guest is locked. -/
def lockedDump : Dump where
  program := "vzdump"
  stdout := [.data [0x56, 0x4D, 0x41], .fail (.plain .interrupted), .data (List.replicate 20 0)]
  stderr := [.data (utf8 " VM is locked\n")]
  process := { ended := .ok (.ofCode 255) }

/-- A scripted host with this dump, and an empty store. -/
def beforeLocked : ScriptedHost.WithTree :=
  ({ replies := [("vzdump", [ScriptedHost.replyOf (.ok lockedDump)])], moment := Restore.someTime },
    { entries := [([utf8 "store"], .directory)] })

theorem locked_reported :
    let host := ScriptedHost.hostWithTree
    let sink := ScriptedHost.sinkOf ⟨"/store"⟩
    lockedDump.stdout.fault? = none ∧ ¬ EndedWell lockedDump.process.ended ∧
      ∃ f, ((guest host sink Restore.containerOnly ⟨101, .qemu, none⟩).run beforeLocked).1 =
          .error f ∧
        f.error? = some (.command "vzdump" "exit status: 255" "VM is locked") := by
  intro host sink
  let machine : Machine := ⟨101, .qemu, none⟩
  have hfates : Fates host Restore.containerOnly.backup Prod.snd sink ⟨"/store"⟩
      (fun _ => .ok lockedDump)
      (ScriptedHost.Ready fun _ => ScriptedHost.replyOf (.ok lockedDump)) :=
    ScriptedHost.fates _ _ fun m d h => by
      cases h
      rfl
  have hready : ScriptedHost.Ready (fun _ => ScriptedHost.replyOf (.ok lockedDump)) [machine]
      beforeLocked := ⟨rfl, Restore.encodable_someTime⟩
  have hempty : DirectoryStore.Holds ⟨"/store"⟩ beforeLocked.2 [utf8 "store"] [] :=
    ⟨by decide +kernel, by decide +kernel⟩
  have hfault : lockedDump.stdout.fault? = none := by decide
  have hfailed : ¬ EndedWell lockedDump.process.ended := by decide +kernel
  obtain ⟨htree₁, hready₁⟩ :=
    hfates.note .info ("[backup] " ++ machine.label ++ ": starting vzdump") hready
  obtain ⟨s₂, hopen, htree₂, hready₂⟩ := hfates.openStream hready₁
  obtain ⟨stream', -, hpeek, -⟩ := Capture.peek_due (Dump.due_handle hfault)
    ⟨by decide, Or.inl (by decide)⟩
  obtain ⟨name, s₃, hstart, hname, -, -, htree₃, -⟩ :=
    start_seen hfates.toServes hopen hready₂ hpeek (by decide)
  obtain ⟨e, f, hfails, hguest, hfirst, -⟩ := guest_reports_dump sink Prod.snd
    ⟨"/store"⟩ rfl hfault hfailed rfl hopen (fun _ _ _ => rfl) fun reader s hreader => by
      cases hstart.symm.trans hreader
      rw [htree₃, htree₂, htree₁]
      exact hempty.writable hname.storable.ordinary_temporary
  refine ⟨hfault, hfailed, f, hguest, hfirst.trans (congrArg some ?_)⟩
  rw [hfails.of_exit (.ofCode 255) rfl]
  decide +kernel

end Backup

end GuestVault

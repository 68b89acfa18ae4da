import GuestVault.Host.Scripted
import GuestVault.Proofs.Backup.Capture
import GuestVault.Proofs.Stream.Rooms

/-!
# A capture is faithful

Looking at the first bytes of a dump may take many reads, meet interruptions, and even reach the end
of a short dump. None of this shows in the archive that is handed out: its reader delivers every byte
of the dump, in order and once, whatever the rooms of the reads, and it ends as the dump tool does.

1. `classify_take`: the bytes that are looked at tell the compression of the whole dump.
2. `ArchiveReader.delivery_steady`: what a reader has still to deliver.
3. `Capture.capture_faithful`: when there is a capture, and what it delivers.
-/

namespace GuestVault

open GuestVault.Text

/-- No magic number reaches beyond the bytes that are looked at. -/
theorem Compression.classify_take (bytes : Bytes) :
    classify (bytes.take headerLength) = classify bytes := by
  have hmagic (c : Compression) :
      c.magic.isPrefixOf (bytes.take headerLength) = c.magic.isPrefixOf bytes := by
    rw [Bool.eq_iff_iff, List.isPrefixOf_iff_prefix, List.isPrefixOf_iff_prefix,
      List.prefix_take_iff]
    exact and_iff_left (magic_length_le c)
  simp only [classify, hmagic]

namespace ArchiveReader

variable {r : ArchiveReader} {n : Nat} {done : Except Error Unit} {total : Nat} {due : Bytes}
  {stderr : Script} {idle : Prop}

theorem steady_read (hsteady : r.stream.Steady stderr idle) (n : Nat) :
    (r.read n).2.stream.Steady stderr idle := by
  cases hnext : r.header.take n with
  | cons b bs =>
    rw [read_header hnext]
    exact hsteady
  | nil =>
    have hstream := hsteady.read n
    rw [read_stream hnext]
    rcases hread : r.stream.read n with ⟨e | bytes, stream⟩
    · rw [hread] at hstream
      exact hstream
    · rw [hread] at hstream
      exact hstream

theorem live_read (hlive : r.stream.Live) (hon : ReadsOn (r.read n).1) :
    (r.read n).2.stream.Live := by
  cases hnext : r.header.take n with
  | cons b bs =>
    rw [read_header hnext]
    exact hlive
  | nil =>
    have hstream := hlive.read (n := n)
    rw [read_stream hnext] at hon ⊢
    rcases hread : r.stream.read n with ⟨e | bytes, stream⟩
    · rw [hread] at hstream hon
      exact hstream hon
    · rw [hread] at hstream hon
      exact hstream hon

theorem delivery_steady (done : Except Error Unit) (total : Nat) (stderr : Script) (idle : Prop) :
    Delivery (fun r due => Due done total r due ∧ r.stream.Steady stderr idle)
      (fun r => r.stream.outcome = some done ∧ r.count = total) (done.mapError Error.toIo) :=
  (delivery_due done total).and fun n _ hsteady => steady_read hsteady n

/-- A read without room leaves the bytes that were looked at alone. -/
theorem idles (hidle : idle) (hlive : r.stream.Live)
    (hdue : Due done total r due ∧ r.stream.Steady stderr idle) :
    Idles (fun r due => Due done total r due ∧ r.stream.Steady stderr idle)
      (fun r => r.stream.Live) r due := by
  obtain ⟨⟨more, hstream, rfl, htotal⟩, hsteady⟩ := hdue
  obtain ⟨result, stream, hread, hresult, ⟨hmore, hsteady'⟩, hlive', hless⟩ :=
    StreamHandle.idles hidle hlive ⟨hstream, hsteady⟩
  have hstreamRead : r.stream.read 0 = (result, stream) := hread
  have hsame : r.read 0 = (result, { r with stream }) := by
    rw [read_stream (by rw [List.take_zero]), hstreamRead]
    rcases hresult with rfl | ⟨e, rfl, -⟩
    · rfl
    · rfl
  exact ⟨result, { r with stream }, hsame, hresult, ⟨⟨more, hmore, rfl, htotal⟩, hsteady'⟩, hlive',
    Nat.add_le_add_left hless _⟩

/-- A reader of `bytes` that was just captured. -/
structure Fresh (done : Except Error Unit) (bytes : Bytes) (stderr : Script) (idle : Prop)
    (r : ArchiveReader) : Prop where
  due : r.Due done bytes.length bytes
  steady : r.stream.Steady stderr idle
  live : r.stream.Live

theorem Fresh.receives {bytes : Bytes} {program : String} {waited : Except IoError Exit}
    {sizes : List Nat} (h : r.Fresh done bytes stderr idle) (hsizes : 0 ∈ sizes → idle)
    (hsettles : Settles program (StreamHandle.diagnosticOf stderr) false waited done) :
    let progress := (receive sizes r).1
    let got := (receive sizes r).2.1
    let r' := (receive sizes r).2.2
    got <+: bytes ∧ r'.count = got.length ∧
      (ByteSource.bound r ≤ sizes.countP (0 < ·) → progress ≠ .reading) ∧
      (progress ≠ .reading → got = bytes ∧
        r'.diagnostic = trim (lossy stderr.deliveredUntilFault) ∧
        (progress = .finished ↔ EndedWell waited) ∧
        ∀ e, progress = .stopped e → ∃ c, e = c.toIo ∧
          Settles program r'.diagnostic false waited (.error c)) := by
  intro progress got r'
  obtain ⟨rest, hsplit, ⟨⟨more, -, -, hcount⟩, hsteady⟩, hprogress⟩ :=
    (delivery_steady done bytes.length stderr idle).receives
      (fun _ hlive hon => live_read hlive hon) (fun hidle _ _ hlive hdue => idles hidle hlive hdue)
      hsizes ⟨h.due, h.steady⟩ h.live
  have hgot : r'.count = got.length := by
    have hlength := congrArg List.length hsplit
    rw [List.length_append] at hlength
    simp only [got, r']
    omega
  refine ⟨⟨rest, hsplit.symm⟩, hgot, ?_, ?_⟩
  · intro hbound hreading
    rcases hprogress with ⟨-, hless⟩ | ⟨hend, -⟩
    · omega
    · rw [show (receive sizes r).1 = .reading from hreading] at hend
      rcases done with c | ⟨⟩
      · cases hend
      · cases hend
  · intro hended
    obtain ⟨hend, rfl, hdone, -⟩ := hprogress.resolve_left fun hreading => hended hreading.1
    have htold : r'.diagnostic = StreamHandle.diagnosticOf stderr := by
      rcases hsteady.tells with ⟨hopen, -⟩ | ⟨-, htext⟩
      · rw [hdone] at hopen
        cases hopen
      · exact htext
    rw [List.append_nil] at hsplit
    refine ⟨hsplit.symm, by rw [htold, StreamHandle.diagnosticOf_eq], ?_, ?_⟩
    · rw [← hsettles.ok_iff, show progress = _ from hend]
      rcases done with c | ⟨⟩
      · simp [Progress.atEnd, Except.mapError]
      · simp [Progress.atEnd, Except.mapError]
    · intro e hstopped
      rw [show progress = _ from hend] at hstopped
      rcases done with c | ⟨⟩
      · refine ⟨c, (Progress.stopped.inj hstopped).symm, ?_⟩
        rw [htold]
        exact hsettles
      · cases hstopped

end ArchiveReader

namespace Capture

variable {σ κ : Type} {done : Except Error Unit} {due : Bytes} {stderr : Script} {idle : Prop}
  {stream stream' : StreamHandle}

/-- A handle that was looked at has not failed: either all that was to be looked at was there, and
its end was not reached, or it ended well. -/
theorem live_of_shows (hstream : stream.Waiting) (hshows : Shows done due)
    (hread : readUpTo Compression.headerLength stream =
      (.ok (due.take Compression.headerLength), stream'))
    (hdue : stream'.Due done (due.drop Compression.headerLength)) : stream'.Live := by
  rcases hshows.2 with hlong | rfl
  · left
    refine readUpToOn_keeps (P := StreamHandle.Waiting) ?_ hstream hread ?_
    · intro n h _ hw hon
      have heq : (ByteSource.read n h).2 = _ := hw.read_eq hon
      rw [heq]
      exact hw
    · rw [List.length_take]
      omega
  · rcases hdue with ⟨hopen, hcancelled, -⟩ | ⟨hdone, -⟩
    · exact Or.inl ⟨hopen, hcancelled⟩
    · exact Or.inr hdone

theorem fresh_of_peek (hstream : stream.Due done due)
    (hwaiting : stream.Waiting) (hsteady : stream.Steady stderr idle) (hshows : Shows done due) :
    ∃ stream', peek stream = (.ok (due.take Compression.headerLength), stream') ∧
      ∀ name, ArchiveReader.Fresh done due stderr idle
        { name, header := due.take Compression.headerLength, stream := stream' } := by
  obtain ⟨stream', hread, hpeek, hrest⟩ := peek_due hstream hshows
  have hkept : (readUpTo Compression.headerLength stream).2.Steady stderr idle :=
    readUpToOn_invariant (fun n _ h => h.read n) _ _ hsteady
  rw [hread] at hkept
  exact ⟨stream', hpeek, fun name => ⟨⟨_, hrest, (List.take_append_drop _ _).symm, Nat.zero_add _⟩,
    hkept, live_of_shows hwaiting hshows hread hrest⟩⟩

/-- **A capture neither loses nor alters bytes.** Let the dump tool be started, and its output have no
errors but interruptions. Then there is a capture exactly if there is any output, and either as much
as is looked at or a process that ends well. The compression in the archive's name is that of the
whole output. Whatever the rooms of the reads, they give the front of the output, and the reader
counts them; with room often enough they come to the end, where all of the output has been given,
and the end is clean exactly if the process ended well, and otherwise the error of the process.
Reads without room are harmless, too, unless there is something behind an early end of the output. -/
theorem capture_faithful (host : Host σ κ) (backup : BackupSettings) (machine : Machine)
    {s s' : σ} {program : String} {stdout stderr : Script} {process : ProcessFate}
    (hopen : (host.openStream (command backup machine.vmid)).run s =
      (.ok (.start program stdout stderr process false), s'))
    (hfault : stdout.fault? = none) :
    ((∃ reader, ((start host backup machine).run s).1 = .ok reader) ↔
      stdout.delivered ≠ [] ∧
        (Compression.headerLength ≤ stdout.delivered.length ∨ EndedWell process.ended)) ∧
    ∀ reader, ((start host backup machine).run s).1 = .ok reader →
      reader.name.compression = Compression.classify stdout.delivered ∧
      ∀ sizes : List Nat, (0 ∈ sizes → stdout.EndsOnce) →
        let progress := (receive sizes reader).1
        let got := (receive sizes reader).2.1
        let reader' := (receive sizes reader).2.2
        got <+: stdout.delivered ∧ reader'.count = got.length ∧
        (ByteSource.bound reader ≤ sizes.countP (0 < ·) → progress ≠ .reading) ∧
        (progress ≠ .reading → got = stdout.delivered ∧
          reader'.diagnostic = trim (lossy stderr.deliveredUntilFault) ∧
          (progress = .finished ↔ EndedWell process.ended) ∧
          ∀ e, progress = .stopped e → ∃ c, e = c.toIo ∧
            Settles program reader'.diagnostic false process.ended (.error c)) := by
  have hbytes := Script.delivered_eq hfault
  generalize stdout.delivered = bytes at hbytes ⊢
  let stream := StreamHandle.start program stdout stderr process false
  let done := StreamHandle.conclude program (StreamHandle.diagnosticOf stderr) false process.ended
  have hsettles : Settles program (StreamHandle.diagnosticOf stderr) false process.ended done :=
    settles_conclude ..
  have hstream : stream.Due done bytes := Or.inl ⟨rfl, rfl, hfault, hbytes.symm, rfl⟩
  have hsteady : stream.Steady stderr stdout.EndsOnce := ⟨Or.inl ⟨rfl, rfl⟩, id⟩
  have hshows : Shows done bytes ↔
      bytes ≠ [] ∧ (Compression.headerLength ≤ bytes.length ∨ EndedWell process.ended) := by
    rw [← hsettles.ok_iff]
    rfl
  rw [← hshows]
  by_cases hlook : Shows done bytes
  · obtain ⟨stream', hpeek, hfresh⟩ := fresh_of_peek hstream ⟨rfl, rfl⟩ hsteady hlook
    obtain ⟨message, hstart⟩ := start_of_peek_ok hopen hpeek
    rw [hstart]
    refine ⟨⟨fun _ => hlook, fun _ => ⟨_, rfl⟩⟩, ?_⟩
    rintro reader ⟨⟩
    exact ⟨Compression.classify_take bytes, fun sizes hsizes =>
      (hfresh _).receives hsizes hsettles⟩
  · obtain ⟨e, stream', hpeek⟩ := peek_fails hstream hlook
    rw [start_of_peek_error hopen hpeek]
    refine ⟨⟨?_, fun h => absurd h hlook⟩, ?_⟩
    · rintro ⟨reader, h⟩
      cases h
    · intro reader h
      cases h

/-- Three bytes in two pieces, with an interruption in between: too few to fill what is looked at. -/
def shortDump : Script :=
  [.data [0x1f], .fail (.plain .interrupted), .data [0x8b, 0x08]]

/-- A host whose dump tool delivers them and ends well. -/
def shortDumpHost : ScriptedHost :=
  { replies := [("vzdump", [.stream shortDump [] {} false])]
    moment := { unix := 1700000000, nanos := 0, offset := 0 } }

/-- The short dump is captured, and all of it comes out. -/
theorem short_dump_captured :
    (∃ s', (ScriptedHost.host.openStream (command {} 101)).run shortDumpHost =
      (.ok (.start "vzdump" shortDump [] {} false), s')) ∧ shortDump.fault? = none ∧
    ∃ reader, ((start ScriptedHost.host {} ⟨101, .qemu, none⟩).run shortDumpHost).1 = .ok reader ∧
      reader.name.compression = .gzip ∧
      ∀ sizes, (receive sizes reader).1 ≠ .reading →
        (receive sizes reader).1 = .finished ∧ (receive sizes reader).2.1 = [0x1f, 0x8b, 0x08] := by
  have hfault : shortDump.fault? = none := rfl
  obtain ⟨s', hopen⟩ : ∃ s', (ScriptedHost.host.openStream (command {} 101)).run shortDumpHost =
      (.ok (.start "vzdump" shortDump [] {} false), s') := ⟨_, rfl⟩
  refine ⟨⟨s', hopen⟩, hfault, ?_⟩
  obtain ⟨hcaptured, hdelivers⟩ :=
    capture_faithful ScriptedHost.host {} ⟨101, .qemu, none⟩ hopen hfault
  have hwell : EndedWell ({} : ProcessFate).ended := ⟨.ofCode 0, rfl, rfl⟩
  obtain ⟨reader, hreader⟩ := hcaptured.mpr ⟨by decide, Or.inr hwell⟩
  obtain ⟨hcompression, hreads⟩ := hdelivers reader hreader
  refine ⟨reader, hreader, hcompression, fun sizes hended => ?_⟩
  obtain ⟨-, -, -, hend⟩ := hreads sizes fun _ => trivial
  obtain ⟨hgot, -, hclean, -⟩ := hend hended
  exact ⟨hclean.mpr hwell, hgot⟩

end Capture

end GuestVault

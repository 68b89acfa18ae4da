import GuestVault.Backup.Capture
import GuestVault.Proofs.Host.Agreement
import GuestVault.Proofs.Stream.Reading

/-!
# Captured archives

The first bytes of a stream are looked at to name the archive, and still delivered: what the reader of
an archive has to deliver is what was looked at and not yet handed out, and then what is left of the
stream (`ArchiveReader.delivery_due`). `Capture.peek_due` says what is looked at, and `Capture.start_of_peek_ok`
what the archive is called.
-/

namespace GuestVault

variable {done : Except Error Unit} {due : Bytes} {n : Nat}

namespace ArchiveReader

/-- A reader of `total` bytes, as far as they were handed out. -/
def Due (done : Except Error Unit) (total : Nat) (r : ArchiveReader) (due : Bytes) : Prop :=
  ∃ more, r.stream.Due done more ∧ due = r.header ++ more ∧ r.count + due.length = total

variable {r : ArchiveReader}

theorem read_header {b : UInt8} {bs : Bytes} (hnext : r.header.take n = b :: bs) :
    r.read n =
      (.ok (b :: bs), { r with header := r.header.drop n, count := r.count + (bs.length + 1) }) := by
  unfold read
  rw [hnext]

theorem read_stream (hnext : r.header.take n = []) :
    r.read n =
      match r.stream.read n with
      | (.ok bytes, stream) => (.ok bytes, { r with stream, count := r.count + bytes.length })
      | (.error e, stream) => (.error e, { r with stream }) := by
  unfold read
  split
  · next b bs hsome =>
    rw [hnext] at hsome
    cases hsome
  · rfl

/-- **The reader of an archive delivers the whole stream**, and counts it. -/
theorem delivery_due (done : Except Error Unit) (total : Nat) :
    Delivery (Due done total) (fun r => r.stream.outcome = some done ∧ r.count = total)
      (done.mapError Error.toIo) where
  reads := by
    rintro n r due hn ⟨more, hstream, rfl, htotal⟩
    have hread : ByteSource.read n r = r.read n := rfl
    have hbound (r : ArchiveReader) :
        ByteSource.bound r = r.header.length + ByteSource.bound r.stream := rfl
    unfold ReadsDue
    rw [hread]
    cases hheader : r.header with
    | cons b bs =>
      obtain ⟨n, rfl⟩ := Nat.exists_eq_succ_of_ne_zero hn
      have hnext : r.header.take (n + 1) = b :: bs.take n := by rw [hheader]; rfl
      have hdrop : r.header.drop (n + 1) = bs.drop n := by rw [hheader]; rfl
      refine Or.inr (Or.inr ⟨b, bs.take n, bs.drop n ++ more, _, read_header hnext, ?_, ?_, ?_, ?_⟩)
      · rw [List.cons_append, List.cons_append, ← List.append_assoc, List.take_append_drop]
      · exact Nat.lt_succ_of_le (List.length_take_le _ _)
      · refine ⟨more, hstream, by rw [hdrop], ?_⟩
        rw [hheader] at htotal
        simp only [List.length_append, List.length_cons, List.length_take, List.length_drop] at htotal ⊢
        omega
      · rw [hbound, hbound, hdrop, hheader]
        simp only [List.length_cons, List.length_drop]
        omega
    | nil =>
      have hstreamRead : ByteSource.read n r.stream = r.stream.read n := rfl
      rw [read_stream (by rw [hheader, List.take_nil]), List.nil_append]
      rw [hheader, List.nil_append] at htotal
      rcases (StreamHandle.delivery_due done).reads hn hstream with
        ⟨rfl, stream, hread, hdue, hended⟩ | ⟨e, stream, hread, hint, hdue, hless⟩ |
          ⟨b, bs, rest, stream, hread, rfl, hroom, hdue, hless⟩
      · have hrest : ({ r with stream } : ArchiveReader).Due done total [] :=
          ⟨[], hdue, by rw [hheader]; rfl, htotal⟩
        rw [hstreamRead] at hread
        rw [hread]
        rcases done with c | ⟨⟩
        · exact Or.inl ⟨rfl, _, rfl, hrest, hended, htotal⟩
        · exact Or.inl ⟨rfl, _, rfl, hrest, hended, htotal⟩
      · rw [hstreamRead] at hread
        rw [hread]
        refine Or.inr (Or.inl ⟨e, _, rfl, hint, ⟨more, hdue, by rw [hheader]; rfl, htotal⟩, ?_⟩)
        rw [hbound, hbound]
        exact Nat.add_lt_add_left hless _
      · rw [hstreamRead] at hread
        rw [hread]
        refine Or.inr (Or.inr ⟨b, bs, rest, _, rfl, rfl, hroom,
          ⟨rest, hdue, by rw [hheader]; rfl, ?_⟩, ?_⟩)
        · rw [← htotal, List.length_append, Nat.add_assoc]
        · rw [hbound, hbound]
          exact Nat.add_lt_add_left hless _
  bound_pos := by
    rintro r due ⟨more, hstream, -⟩
    exact Nat.add_pos_right _ ((StreamHandle.delivery_due done).bound_pos hstream)
  stop_final := (StreamHandle.delivery_due done).stop_final

end ArchiveReader

namespace Capture

/-- Something can be looked at if there is anything, and either as much as is to be looked at or a
clean end behind it. -/
def Shows (done : Except Error Unit) (due : Bytes) : Prop :=
  due ≠ [] ∧ (Compression.headerLength ≤ due.length ∨ done = .ok ())

/-- What is looked at is the beginning of the stream, and it is not lost. -/
theorem peek_due {stream : StreamHandle} (hstream : stream.Due done due) (hshows : Shows done due) :
    ∃ stream', readUpTo Compression.headerLength stream =
        (.ok (due.take Compression.headerLength), stream') ∧
      peek stream = (.ok (due.take Compression.headerLength), stream') ∧
      stream'.Due done (due.drop Compression.headerLength) := by
  obtain ⟨stream', hread, hrest⟩ :=
    (StreamHandle.delivery_due done).readUpTo hstream Compression.headerLength
  have htake : (if due.length < Compression.headerLength then
      (done.mapError Error.toIo).map fun () => due
      else .ok (due.take Compression.headerLength)) = .ok (due.take Compression.headerLength) := by
    split
    · rename_i hshort
      rw [hshows.2.resolve_left (by omega), List.take_of_length_le (by omega)]
      rfl
    · rfl
  rw [htake] at hread
  refine ⟨stream', hread, ?_, hrest⟩
  unfold peek
  rw [hread]
  cases hheader : due.take Compression.headerLength with
  | nil => exact absurd ((List.take_eq_nil_iff.mp hheader).resolve_left (by decide)) hshows.1
  | cons b bs => rfl

/-- What ends with an error before there is as much as is to be looked at fails with this very
error. -/
theorem peek_of_short {stream : StreamHandle} {e : Error} (hstream : stream.Due (.error e) due)
    (hshort : due.length < Compression.headerLength) :
    ∃ stream', peek stream = (.error e, stream') := by
  obtain ⟨stream', hread, -⟩ :=
    (StreamHandle.delivery_due (.error e)).readUpTo hstream Compression.headerLength
  unfold peek
  rw [if_pos hshort] at hread
  rw [hread]
  exact ⟨_, rfl⟩

theorem peek_fails {stream : StreamHandle} (hstream : stream.Due done due)
    (hshows : ¬ Shows done due) : ∃ e stream', peek stream = (.error e, stream') := by
  rcases done with c | ⟨⟩
  · by_cases hshort : due.length < Compression.headerLength
    · exact ⟨c, peek_of_short hstream hshort⟩
    · refine absurd ⟨?_, Or.inl (Nat.le_of_not_lt hshort)⟩ hshows
      rintro rfl
      exact hshort (by decide)
  · obtain rfl : due = [] := by
      by_contra hdue
      exact hshows ⟨hdue, Or.inr rfl⟩
    obtain ⟨stream', hread, -⟩ :=
      (StreamHandle.delivery_due (.ok ())).readUpTo hstream Compression.headerLength
    unfold peek
    rw [hread]
    exact ⟨_, _, rfl⟩

/-! ## Starting -/

variable {σ κ : Type} {host : Host σ κ} {backup : BackupSettings} {machine : Machine} {s s' : σ}
  {stream stream' : StreamHandle} {header : Bytes} {e : Error}

theorem nameFor_eq (backup : BackupSettings) (machine : Machine) (now : Time.Moment)
    (header : Bytes) :
    nameFor backup machine now header =
      .ok { ArchiveName.ofMoment machine.kind machine.vmid now (Compression.classify header) with
        tagged := backup.versionTag } := by
  unfold nameFor
  cases backup.versionTag with
  | true => rfl
  | false => rfl

theorem start_of_refused
    (hopen : (host.openStream (command backup machine.vmid)).run s = (.error e, s')) :
    (start host backup machine).run s = (.error e, s') := by
  unfold start
  exact Action.run_bind_of_error hopen

theorem start_of_peek_error
    (hopen : (host.openStream (command backup machine.vmid)).run s = (.ok stream, s'))
    (hpeek : peek stream = (.error e, stream')) :
    (start host backup machine).run s = (.error e, (host.noteOutcome stream' s').2) := by
  unfold start
  rw [Action.run_bind_of_ok hopen, hpeek]
  dsimp only
  refine (Action.run_bind_of_ok (Action.run_lift _ _)).trans ?_
  exact Action.run_bind_of_error rfl

/-- An archive is named after what was looked at and the time. -/
theorem start_of_peek_ok
    (hopen : (host.openStream (command backup machine.vmid)).run s = (.ok stream, s'))
    (hpeek : peek stream = (.ok header, stream')) :
    let s₁ := (host.noteOutcome stream' s').2
    ∃ message, (start host backup machine).run s =
      (.ok { name := { ArchiveName.ofMoment machine.kind machine.vmid (host.now s₁).1
              (Compression.classify header) with tagged := backup.versionTag }
             header, stream := stream' },
        (host.note .debug message (host.now s₁).2).2) := by
  intro s₁
  let name : ArchiveName :=
    { ArchiveName.ofMoment machine.kind machine.vmid (host.now s₁).1
        (Compression.classify header) with
      tagged := backup.versionTag }
  refine ⟨"[backup] " ++ machine.label ++ ": " ++ toString header.length ++
    " header bytes, compression " ++ name.compression.name.capitalize ++ ", archive " ++
    name.render, ?_⟩
  unfold start
  rw [Action.run_bind_of_ok hopen, hpeek]
  dsimp only
  refine (Action.run_bind_of_ok (Action.run_lift _ _)).trans ?_
  refine (Action.run_bind_of_ok rfl).trans ?_
  refine (Action.run_bind_of_ok (Action.run_lift host.now s₁)).trans ?_
  rw [nameFor_eq]
  refine (Action.run_bind_of_ok rfl).trans ?_
  exact Action.run_bind_of_ok (Action.run_lift _ _)

end Capture

end GuestVault

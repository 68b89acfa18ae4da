import GuestVault.Proofs.Backup.Job
import GuestVault.Proofs.Host.Watched
import GuestVault.Proofs.Stream.Rooms

/-!
# What a backup puts into its store

`RecordSink.logged` keeps a list of the records that a sink was asked to take, and of its answers.
Nothing else changes (`Backup.run_logged`), so `Backup.puts` is what a backup asks of any sink. For each
machine it is nothing, an archive, or an archive and its metadata, and the metadata is put only after
all of the archive was acknowledged and the dump tool had ended well (`Backup.PutsOf`).
-/

namespace GuestVault

open GuestVault.Text

variable {σ κ ρ : Type}

/-! ## Readers that are handed over -/

section
variable [ByteSource ρ] {r r' : ρ} {bytes : Bytes}

/-- The second reader is what the first one becomes when it is read, and these are the bytes that it
gives. -/
inductive Consumed : ρ → Bytes → ρ → Prop where
  | refl (r : ρ) : Consumed r [] r
  | read (n : Nat) {r r' : ρ} {more : Bytes} (h : Consumed (ByteSource.read n r).2 more r') :
      Consumed r (bytesRead (ByteSource.read n r).1 ++ more) r'

theorem Consumed.invariant {P : ρ → Prop} (h : Consumed r bytes r')
    (hP : ∀ n r, P r → P (ByteSource.read n r).2) (hr : P r) : P r' := by
  induction h with
  | refl => exact hr
  | read n _ ih => exact ih (hP n _ hr)

theorem consumed_readOn (fuel : Nat) (r : ρ) :
    Consumed r (readOn fuel r).2.1 (readOn fuel r).2.2 := by
  induction fuel generalizing r with
  | zero => exact .refl r
  | succ fuel ih =>
    have hnext := Consumed.read pieceSize (ih (ByteSource.read pieceSize r).2)
    have hlast := Consumed.read pieceSize (.refl (ByteSource.read pieceSize r).2)
    unfold readOn
    rcases hread : ByteSource.read pieceSize r with ⟨e | (_ | ⟨b, bs⟩), rest⟩
    · rw [hread] at hnext hlast
      dsimp only
      split
      · exact hnext
      · exact hlast
    · rw [hread] at hlast
      exact hlast
    · rw [hread] at hnext
      exact hnext

end

namespace StreamHandle

variable {h h' : StreamHandle}

/-- The process was waited for, and it ended well. -/
def Exited (h : StreamHandle) : Prop :=
  .wait ∈ h.calls ∧ EndedWell h.process.ended

/-- A good outcome is only there if the process ended well. -/
def Honest (h : StreamHandle) : Prop :=
  h.outcome = some (.ok ()) → h.Exited

theorem Moves.honest (hmoves : h.Moves h') (hopen : h.outcome = none) : h'.Honest := by
  intro hdone
  rcases hmoves.cases hopen with ⟨stdout, rfl⟩ | ⟨hsettled, -, hcalls⟩
  · rw [show h.outcome = some (.ok ()) from hdone] at hopen
    cases hopen
  · refine ⟨?_, (settles_conclude ..).ok_iff.mp (Option.some.inj (hsettled.symm.trans hdone))⟩
    rcases hcalls with ⟨hcalls, -⟩ | ⟨hcalls, -⟩
    · rw [hcalls]
      exact List.mem_append_right _ List.mem_cons_self
    · rw [hcalls]
      exact List.mem_append_right _ (List.mem_cons_of_mem _ List.mem_cons_self)

theorem Honest.read (hh : h.Honest) (n : Nat) : (h.read n).2.Honest := by
  cases hout : h.outcome with
  | none => exact (Moves.read hout n).honest hout
  | some done =>
    rw [read_of_done hout]
    exact hh

theorem Honest.close (hh : h.Honest) (hclosed : h.close.1 = .ok ()) : h.close.2.Exited := by
  have hdone : h.close.2.outcome = some (.ok ()) := (outcome_finalize h).trans (congrArg some hclosed)
  cases hout : h.outcome with
  | none => exact (Moves.waits h.stdout).honest hout hdone
  | some done =>
    have hsame : h.close.2 = h := congrArg Prod.snd (finalize_of_done hout)
    rw [hsame] at hdone ⊢
    exact hh hdone

end StreamHandle

namespace ArchiveReader

variable {r r' : ArchiveReader} {bytes : Bytes}

/-- A read of an archive leaves its stream alone, or is a read of the stream. -/
theorem read_keeps {P : StreamHandle → Prop} (hP : ∀ n h, P h → P (h.read n).2) (n : Nat)
    (hr : P r.stream) : P (r.read n).2.stream := by
  cases hheader : r.header.take n with
  | cons b bs =>
    rw [read_header hheader]
    exact hr
  | nil =>
    have hkept := hP n r.stream hr
    rw [read_stream hheader]
    rcases hread : r.stream.read n with ⟨e | piece, stream⟩
    · rw [hread] at hkept
      exact hkept
    · rw [hread] at hkept
      exact hkept

theorem count_read (r : ArchiveReader) (n : Nat) :
    (r.read n).2.count = r.count + (bytesRead (r.read n).1).length := by
  cases hheader : r.header.take n with
  | cons b bs =>
    rw [read_header hheader]
    rfl
  | nil =>
    rw [read_stream hheader]
    rcases r.stream.read n with ⟨e | piece, stream⟩
    · rfl
    · rfl

theorem count_of_consumed (h : Consumed r bytes r') : r'.count = r.count + bytes.length := by
  induction h with
  | refl => rfl
  | read n _ ih =>
    rw [ih, List.length_append, ← Nat.add_assoc]
    exact congrArg (· + _) (count_read _ n)

end ArchiveReader

/-- A sink does nothing to a reader but read it. -/
def RecordSink.OnlyReads (sink : RecordSink σ) : Prop :=
  ∀ {ρ : Type} [ByteSource ρ] (pathname : String) (reader : ρ) (s : σ),
    ∃ bytes, Consumed reader bytes (sink.put pathname reader s).1.2

/-- The commands that a host starts have not ended. -/
def Host.OpensFresh (host : Host σ κ) : Prop :=
  ∀ {command s handle s'}, (host.openStream command).run s = (.ok handle, s') →
    handle.outcome = none

/-! ## Logs -/

/-- A record that a sink was asked to take, and its answer. -/
structure Put where
  pathname : String
  answer : Except Failure Nat

/-- The same sink; what it is asked to take is noted. -/
def RecordSink.logged (sink : RecordSink σ) : RecordSink (σ × List Put) where
  put pathname reader t :=
    let ((answer, reader), s) := sink.put pathname reader t.1
    ((answer, reader), (s, t.2 ++ [⟨pathname, answer⟩]))

theorem RecordSink.put_logged [ByteSource ρ] {sink : RecordSink σ} {pathname : String}
    {reader reader' : ρ} {answer : Except Failure Nat} {s s' : σ}
    (h : sink.put pathname reader s = ((answer, reader'), s')) (log : List Put) :
    sink.logged.put pathname reader (s, log) =
      ((answer, reader'), (s', log ++ [⟨pathname, answer⟩])) :=
  congrArg (fun result : (Except Failure Nat × ρ) × σ =>
    ((result.1.1, result.1.2), (result.2, log ++ [Put.mk pathname result.1.1]))) h

/-- The same host, beside a log. -/
def Host.besideLog (host : Host σ κ) : Host (σ × List Put) κ :=
  host.within Prod.fst fun s t => (s, t.2)

/-- A state and the same state with a log. -/
def WithLog (log : List Put) (s : σ) (t : σ × List Put) : Prop :=
  t = (s, log)

theorem Agree.run_withLog {α : Type} {log : List Put} {x : StateM σ α}
    {y : StateM (σ × List Put) α} (h : Agree (WithLog log) x y) (s : σ) :
    y (s, log) = ((x s).1, ((x s).2, log)) := by
  obtain ⟨hresult, hstate⟩ := h s (s, log) rfl
  exact Prod.ext hresult.symm hstate

theorem Host.now_withLog (host : Host σ κ) (log : List Put) :
    GuestVault.Agree (WithLog log) host.now host.besideLog.now := by
  rintro s _ rfl
  exact ⟨rfl, rfl⟩

theorem Host.note_withLog (host : Host σ κ) (log : List Put) (level : LogLevel) (message : String) :
    GuestVault.Agree (WithLog log) (host.note level message) (host.besideLog.note level message) := by
  rintro s _ rfl
  exact ⟨rfl, rfl⟩

theorem Host.noteOutcome_withLog (host : Host σ κ) (log : List Put) (handle : StreamHandle) :
    GuestVault.Agree (WithLog log) (host.noteOutcome handle)
      (host.besideLog.noteOutcome handle) := by
  unfold Host.noteOutcome
  rcases handle.outcome with _ | e | _
  · exact .pure _
  · exact host.note_withLog log _ _
  · exact .pure _

theorem Capture.start_withLog (host : Host σ κ) (backup : BackupSettings) (machine : Machine)
    (log : List Put) :
    Agree (WithLog log) (start host backup machine).run
      (start host.besideLog backup machine).run := by
  unfold start
  refine .andThen ?_ fun stream => ?_
  · rintro s _ rfl
    exact ⟨rfl, rfl⟩
  rcases peek stream with ⟨header, stream⟩
  refine .andThen (.lift (host.noteOutcome_withLog log stream)) fun _ => ?_
  refine .andThen (.ofExcept header) fun header => ?_
  refine .andThen (.lift (host.now_withLog log)) fun now => ?_
  refine .andThen (.ofExcept _) fun name => ?_
  exact .andThen (.lift (host.note_withLog log _ _)) fun _ => .pure _

namespace Backup

variable (host : Host σ κ) (sink : RecordSink σ) (settings : Settings)

theorem account_withLog (machine : Machine) (archive : String) (stored : Except Failure Nat)
    (reader : ArchiveReader) (log : List Put) :
    Agree (WithLog log) (account host machine archive stored reader).run
      (account host.besideLog machine archive stored reader).run := by
  unfold account
  rcases stored with f | count
  · refine .andThen (.lift (host.noteOutcome_withLog log _)) fun _ => ?_
    exact .andThen_of_ok (.ofExcept _) nofun
  · dsimp only
    rcases reader.close with ⟨closed, reader⟩
    refine .andThen (.lift (host.noteOutcome_withLog log _)) fun _ => ?_
    refine .andThen (.ofExcept _) fun count => ?_
    refine .andThen (.ofExcept _) fun _ => ?_
    dsimp only
    split
    · split
      · exact .andThen (.throw _) fun _ => .pure _
      · exact .pure _
    · refine .andThen (.lift (host.note_withLog log _ _)) fun _ => ?_
      split
      · exact .andThen (.throw _) fun _ => .pure _
      · exact .pure _

variable {host sink settings} {machine : Machine} {s s₁ s₂ : σ} {reader reader' : ArchiveReader}

/-- An archive is accounted for only if the store acknowledged as many bytes as were read, and the dump
tool was closed without an error. -/
theorem account_ok {archive : String} {stored : Except Failure Nat} {count : Nat}
    (h : ((account host machine archive stored reader).run s).1 = .ok count) :
    stored = .ok reader.count ∧ reader.close.1 = .ok () := by
  unfold account at h
  rcases stored with f | stored
  · obtain ⟨_, -, h⟩ := Action.exists_of_bind_ok h
    obtain ⟨_, h, -⟩ := Action.exists_of_bind_ok h
    cases h
  · have hsame : reader.close.2.count = reader.count := rfl
    dsimp only at h
    rcases hclose : reader.close with ⟨closed, ended⟩
    rw [hclose] at h hsame
    obtain ⟨_, -, h⟩ := Action.exists_of_bind_ok h
    obtain ⟨number, hnumber, h⟩ := Action.exists_of_bind_ok h
    obtain ⟨_, hclosed, h⟩ := Action.exists_of_bind_ok h
    rw [Action.run_ofExcept] at hnumber hclosed
    obtain rfl : stored = number := Except.ok.inj hnumber
    have hcount : stored = ended.count := by
      by_contra hother
      dsimp only at h
      rw [if_pos hother] at h
      split at h
      · cases h
      · obtain ⟨_, -, h⟩ := Action.exists_of_bind_ok h
        cases h
    refine ⟨by rw [hcount, hsame], ?_⟩
    rcases closed with e | ⟨⟩
    · cases hclosed
    · rfl

theorem storeMetadata_logged (host : Host σ κ) (sink : RecordSink σ) (settings : Settings)
    (machine : Machine) (archive : String) (count : Nat) (s : σ) (log : List Put) :
    ∃ more, (storeMetadata host.besideLog sink.logged settings machine archive count).run (s, log) =
        (((storeMetadata host sink settings machine archive count).run s).1,
          (((storeMetadata host sink settings machine archive count).run s).2, log ++ more)) ∧
      (more = [] ∨ ∃ answer, more = [⟨"/" ++ Sidecar.name archive, answer⟩]) := by
  have hnow : host.besideLog.now (s, log) = ((host.now s).1, ((host.now s).2, log)) := rfl
  have hmoment : (host.besideLog.now (s, log)).1 = (host.now s).1 := congrArg Prod.fst hnow
  cases hencode : (Metadata.ofArchive archive machine.vmid settings.backup settings.origin count
      (host.now s).1).encode with
  | error e =>
    have hlogged : (storeMetadata host.besideLog sink.logged settings machine archive count).run
        (s, log) = _ := storeMetadata_of_error (hmoment.symm ▸ hencode)
    rw [hnow] at hlogged
    refine ⟨[], ?_, Or.inl rfl⟩
    rw [storeMetadata_of_error hencode, hlogged, List.append_nil]
  | ok body =>
    rcases hput : sink.put ("/" ++ Sidecar.name archive) (Script.ofBytes (utf8 body)) (host.now s).2
      with ⟨⟨stored, rest⟩, s₁⟩
    have hlogged : sink.logged.put ("/" ++ Sidecar.name archive) (Script.ofBytes (utf8 body))
        (host.besideLog.now (s, log)).2 =
          ((stored, rest), (s₁, log ++ [⟨"/" ++ Sidecar.name archive, stored⟩])) := by
      rw [hnow]
      exact RecordSink.put_logged hput log
    refine ⟨[⟨"/" ++ Sidecar.name archive, stored⟩], ?_, Or.inr ⟨stored, rfl⟩⟩
    rw [storeMetadata_of_put hencode hput,
      storeMetadata_of_put (hmoment.symm ▸ hencode) hlogged]

/-! ## One machine -/

/-- An archive of the machine is captured when its turn begins in the first state, and the second state
is the one in which it is put. -/
def Captured (host : Host σ κ) (settings : Settings) (machine : Machine) (s : σ)
    (reader : ArchiveReader) (s₁ : σ) : Prop :=
  (Capture.start host settings.backup machine).run
    (host.note .info ("[backup] " ++ machine.label ++ ": starting vzdump") s).2 = (.ok reader, s₁)

/-- What is put for a machine whose turn begins in state `s`. -/
inductive PutsOf (host : Host σ κ) (sink : RecordSink σ) (settings : Settings) (machine : Machine)
    (s : σ) : List Put → Prop where
  /-- Its dump cannot be captured. -/
  | nothing : PutsOf host sink settings machine s []
  /-- Only the archive is put. -/
  | archive {reader reader' : ArchiveReader} {s₁ s₂ : σ} {answer : Except Failure Nat}
      (hcaptured : Captured host settings machine s reader s₁)
      (hput : sink.put ("/" ++ reader.name.render) reader s₁ = ((answer, reader'), s₂)) :
      PutsOf host sink settings machine s [⟨"/" ++ reader.name.render, answer⟩]
  /-- The archive is put and then its metadata: the sink has acknowledged all the bytes that it read,
  and the dump tool has ended well. -/
  | both {reader reader' : ArchiveReader} {bytes : Bytes} {s₁ s₂ : σ} {answer : Except Failure Nat}
      (hcaptured : Captured host settings machine s reader s₁)
      (hput : sink.put ("/" ++ reader.name.render) reader s₁ = ((.ok bytes.length, reader'), s₂))
      (hread : Consumed reader bytes reader') (hexited : reader'.close.2.stream.Exited) :
      PutsOf host sink settings machine s
        [⟨"/" ++ reader.name.render, .ok bytes.length⟩,
          ⟨"/" ++ Sidecar.name reader.name.render, answer⟩]

theorem Captured.honest {reader : ArchiveReader} (h : Captured host settings machine s reader s₁)
    (hfresh : host.OpensFresh) : reader.stream.Honest ∧ reader.count = 0 := by
  unfold Captured at h
  generalize (host.note .info ("[backup] " ++ machine.label ++ ": starting vzdump") s).2 = t at h
  rcases hopen : (host.openStream (Capture.command settings.backup machine.vmid)).run t with
    ⟨e | handle, t₁⟩
  · rw [Capture.start_of_refused hopen] at h
    cases h
  have hhonest : handle.Honest := by
    intro hdone
    rw [hfresh hopen] at hdone
    cases hdone
  rcases hpeek : Capture.peek handle with ⟨e | header, stream⟩
  · rw [Capture.start_of_peek_error hopen hpeek] at h
    cases h
  · obtain ⟨message, hstart⟩ := Capture.start_of_peek_ok hopen hpeek
    rw [hstart] at h
    cases h
    refine ⟨?_, rfl⟩
    have hkept := readUpToOn_invariant (P := StreamHandle.Honest) (fun n h hh => hh.read n)
      (ByteSource.bound handle) Compression.headerLength hhonest
    unfold Capture.peek readUpTo at hpeek
    rcases hread : readUpToOn (ByteSource.bound handle) Compression.headerLength handle with
      ⟨e | (_ | ⟨b, bs⟩), rest⟩
    · rw [hread] at hpeek
      cases hpeek
    · rw [hread] at hpeek
      cases hpeek
    · rw [hread] at hpeek hkept
      cases hpeek
      exact hkept

/-- If an archive is accounted for and only read, all of it was acknowledged and the dump tool has ended
well. -/
theorem Captured.acknowledged {stored : Except Failure Nat} {count : Nat}
    (h : Captured host settings machine s reader s₁) (hfresh : host.OpensFresh)
    (hreads : sink.OnlyReads)
    (hput : sink.put ("/" ++ reader.name.render) reader s₁ = ((stored, reader'), s₂))
    (haccount : ((account host machine reader.name.render stored reader').run s₂).1 = .ok count) :
    ∃ bytes, stored = .ok bytes.length ∧ Consumed reader bytes reader' ∧
      reader'.close.2.stream.Exited := by
  obtain ⟨hhonest, hunread⟩ := h.honest hfresh
  obtain ⟨bytes, hread⟩ := hreads ("/" ++ reader.name.render) reader s₁
  rw [hput] at hread
  obtain ⟨hstored, hclosed⟩ := account_ok haccount
  have hcount := ArchiveReader.count_of_consumed hread
  rw [hunread, Nat.zero_add] at hcount
  have hkept : reader'.stream.Honest :=
    hread.invariant (P := fun r : ArchiveReader => r.stream.Honest)
      (fun n r hr => ArchiveReader.read_keeps (fun n h hh => hh.read n) n hr) hhonest
  exact ⟨bytes, hcount ▸ hstored, hread, hkept.close hclosed⟩

/-- What is put for one machine; beside that, its turn is the one without a log. -/
theorem guest_logged (host : Host σ κ) (sink : RecordSink σ) (settings : Settings)
    (machine : Machine) (s : σ) (log : List Put) :
    ∃ puts, (guest host.besideLog sink.logged settings machine).run (s, log) =
        (((guest host sink settings machine).run s).1,
          (((guest host sink settings machine).run s).2, log ++ puts)) ∧
      (host.OpensFresh → sink.OnlyReads → PutsOf host sink settings machine s puts) := by
  let t := (host.note .info ("[backup] " ++ machine.label ++ ": starting vzdump") s).2
  have hbeside : (Capture.start host.besideLog settings.backup machine).run (t, log) = _ :=
    (Capture.start_withLog host settings.backup machine log).run_withLog t
  rcases hstart : (Capture.start host settings.backup machine).run t with ⟨e | reader, s₁⟩
  · rw [hstart] at hbeside
    have hrefused : (guest host.besideLog sink.logged settings machine).run (s, log) = _ :=
      guest_of_refused hbeside
    refine ⟨[], ?_, fun _ _ => .nothing⟩
    rw [guest_of_refused hstart, hrefused, List.append_nil]
  rw [hstart] at hbeside
  have hstarted : (guest host.besideLog sink.logged settings machine).run (s, log) = _ :=
    guest_of_started hbeside
  rw [guest_of_started hstart, hstarted]
  rcases hput : sink.put ("/" ++ reader.name.render) reader s₁ with ⟨⟨stored, reader'⟩, s₂⟩
  have hlogged : (storeArchive host.besideLog sink.logged machine reader).run (s₁, log) = _ :=
    storeArchive_of_put (RecordSink.put_logged hput log)
  have hnoted := (account_withLog host machine reader.name.render stored reader'
    (log ++ [⟨"/" ++ reader.name.render, stored⟩])).run_withLog s₂
  rw [hnoted] at hlogged
  have hstored : (storeArchive host sink machine reader).run s₁ = _ := storeArchive_of_put hput
  rcases haccount : (account host machine reader.name.render stored reader').run s₂ with
    ⟨f | count, s₃⟩
  · rw [haccount] at hlogged hstored
    refine ⟨[⟨"/" ++ reader.name.render, stored⟩], ?_, fun _ _ => .archive hstart hput⟩
    rw [Action.run_bind_of_error hlogged, Action.run_bind_of_error hstored]
  · rw [haccount] at hlogged hstored
    obtain ⟨more, hmetadata, hmore⟩ := storeMetadata_logged host sink settings machine
      reader.name.render count s₃ (log ++ [⟨"/" ++ reader.name.render, stored⟩])
    refine ⟨⟨"/" ++ reader.name.render, stored⟩ :: more, ?_, fun hfresh hreads => ?_⟩
    · rw [Action.run_bind_of_ok hlogged, Action.run_bind_of_ok hstored]
      rcases hdone : (storeMetadata host sink settings machine reader.name.render count).run s₃ with
        ⟨f | ⟨⟩, s₄⟩
      · rw [hdone, List.append_assoc] at hmetadata
        rw [Action.run_bind_of_error hmetadata, Action.run_bind_of_error hdone]
        rfl
      · rw [hdone, List.append_assoc] at hmetadata
        rw [Action.run_bind_of_ok hmetadata, Action.run_bind_of_ok hdone]
        rfl
    · rcases hmore with rfl | ⟨answer, rfl⟩
      · exact .archive hstart hput
      · obtain ⟨bytes, rfl, hread, hexited⟩ := Captured.acknowledged hstart hfresh hreads hput
          (congrArg Prod.fst haccount)
        exact .both hstart hput hread hexited

/-! ## All machines -/

/-- The machines, each with the state in which its turn begins. -/
def turns (host : Host σ κ) (sink : RecordSink σ) (settings : Settings) :
    List Machine → σ → List (Machine × σ)
  | [], _ => []
  | machine :: rest, s =>
    (machine, s) :: turns host sink settings rest (run host sink settings [machine] s).2

/-- What a backup asks its sink to take, and what the answers are. -/
def puts (host : Host σ κ) (sink : RecordSink σ) (settings : Settings) (machines : List Machine)
    (s : σ) : List Put :=
  (run host.besideLog sink.logged settings machines (s, [])).2.2

theorem run_logged_from (host : Host σ κ) (sink : RecordSink σ) (settings : Settings)
    (machines : List Machine) (s : σ) (log : List Put) :
    ∃ parts, run host.besideLog sink.logged settings machines (s, log) =
        ((run host sink settings machines s).1,
          ((run host sink settings machines s).2, log ++ parts.flatten)) ∧
      (host.OpensFresh → sink.OnlyReads →
        List.Forall₂ (fun turn => PutsOf host sink settings turn.1 turn.2)
          (turns host sink settings machines s) parts) := by
  induction machines generalizing s log with
  | nil => exact ⟨[], by rw [List.flatten_nil, List.append_nil]; rfl, fun _ _ => .nil⟩
  | cons machine rest ih =>
    obtain ⟨own, hguest, hown⟩ := guest_logged host sink settings machine s log
    rcases hturn : (guest host sink settings machine).run s with ⟨outcome, s₁⟩
    rw [hturn] at hguest
    let entry := report machine outcome
    have hnext : (run host sink settings [machine] s).2 = (host.note entry.level entry.message s₁).2 := by
      rw [run_cons hturn]
      rfl
    obtain ⟨parts, hrest, hparts⟩ := ih (host.note entry.level entry.message s₁).2 (log ++ own)
    refine ⟨own :: parts, ?_, fun hfresh hreads => ?_⟩
    · have hbeside : (host.besideLog.note entry.level entry.message (s₁, log ++ own)).2 =
          ((host.note entry.level entry.message s₁).2, log ++ own) := rfl
      rw [run_cons hguest, run_cons hturn, hbeside, hrest, List.flatten_cons, List.append_assoc]
    · refine .cons (hown hfresh hreads) ?_
      rw [hnext]
      exact hparts hfresh hreads

theorem run_logged (host : Host σ κ) (sink : RecordSink σ) (settings : Settings)
    (machines : List Machine) (s : σ) :
    run host.besideLog sink.logged settings machines (s, []) =
      ((run host sink settings machines s).1,
        ((run host sink settings machines s).2, puts host sink settings machines s)) := by
  obtain ⟨parts, hrun, -⟩ := run_logged_from host sink settings machines s []
  unfold puts
  rw [hrun]

/-- **The metadata of an archive is put only after all of the archive was acknowledged and the dump
tool had ended well**, whatever the host and the sink do. -/
theorem puts_of_turns (hfresh : host.OpensFresh) (hreads : sink.OnlyReads)
    (machines : List Machine) (s : σ) :
    ∃ parts, puts host sink settings machines s = parts.flatten ∧
      List.Forall₂ (fun turn => PutsOf host sink settings turn.1 turn.2)
        (turns host sink settings machines s) parts := by
  obtain ⟨parts, hrun, hparts⟩ := run_logged_from host sink settings machines s []
  exact ⟨parts, congrArg (·.2.2) hrun, hparts hfresh hreads⟩

end Backup

end GuestVault

import GuestVault.Proofs.Backup.Job
import GuestVault.Proofs.Restore.Directory
import GuestVault.Proofs.Restore.Order
import GuestVault.Proofs.Restore.Smooth

/-!
# Restoring deposits

The records of a store that holds the deposits of some machines, and nothing else, are the archives
of these machines and their metadata (`Deposits`). From these records a restore makes one pair for
each machine that is asked for (`pairs_perm`), and resolves the two records of a machine alike
(`resolutions_perm`).
-/

namespace GuestVault.Restore

open Correlator GuestVault.Text

attribute [local irreducible] Correlator.react archiveOf RecordClass.ofName ArchiveName.parse
  Metadata.decode Metadata.validate

variable {settings : RestoreSettings} {store : DirectoryStore} {t : FileTree} {dir : Location}
  {files : List (String × Bytes)}

/-! ## Records of a store -/

/-- The record of a file. -/
def recordOf (file : String × Bytes) : Record Script :=
  { pathname := "/" ++ file.1, reader := .ofBytes file.2 }

/-- A guest is asked for if it is the one asked for, or if none is. -/
def asksFor (settings : RestoreSettings) (vmid : Nat) : Bool :=
  settings.vmid.all (· = vmid)

theorem isOther_eq (settings : RestoreSettings) (vmid : Nat) :
    isOther settings vmid = !asksFor settings vmid := by
  unfold isOther asksFor
  cases settings.vmid with
  | none => rfl
  | some want =>
    show decide ((vmid : Int) ≠ want) = !decide (want = vmid)
    rw [← decide_not, decide_eq_decide, ne_comm, ne_eq, Int.ofNat_inj]

theorem ofName_sidecar {archive : ArchiveName} (h : archive.Proper) :
    RecordClass.ofName (Sidecar.name archive.render) = .sidecar archive.render :=
  RecordClass.ofName_eq_sidecar_iff.mpr ⟨h.storable.ne_empty, rfl⟩

section Machine

variable {m : Machine} {size : Nat} {archive : ArchiveName} {body : Bytes}

theorem judgePayload_eq (settings : RestoreSettings) (h : Deposited m size archive body) :
    judgePayload settings archive.render =
      if asksFor settings m.vmid then .good () else .foreign m.vmid := by
  unfold judgePayload
  rw [h.proper.parse, h.vmid_eq]
  dsimp only
  rw [isOther_eq]
  cases asksFor settings m.vmid with
  | true => rfl
  | false => rfl

/-- What becomes of the records of a machine. -/
def fate (settings : RestoreSettings) (staged : Machine → String) (m : Machine) : Outcome :=
  if asksFor settings m.vmid then .restored m.kind m.vmid (staged m) none else .skipped

end Machine

/-! ## Deposits of several machines -/

/-- The files that are left for some machines. -/
def depositsOf (machines : List Machine) (archive : Machine → ArchiveName)
    (dump body : Machine → Bytes) : List (String × Bytes) :=
  machines.flatMap fun m => Backup.deposit (archive m) (dump m) (body m)

/-- The records are the deposits of the machines, in the order of their names. -/
structure Deposits (machines : List Machine) (archive : Machine → ArchiveName)
    (dump body : Machine → Bytes) (records : List (Record Script)) : Prop where
  vmids : (machines.map (·.vmid)).Nodup
  deposited : ∀ m ∈ machines, Deposited m (dump m).length (archive m) (body m)
  perm : records.Perm ((depositsOf machines archive dump body).map recordOf)
  sorted : records.Pairwise fun a b => a.name ≤ b.name

variable {machines : List Machine} {archive : Machine → ArchiveName} {dump body : Machine → Bytes}
  {records : List (Record Script)} {m : Machine}

theorem mem_depositsOf {file : String × Bytes} :
    file ∈ depositsOf machines archive dump body ↔ ∃ m ∈ machines,
      file = (Sidecar.name (archive m).render, body m) ∨ file = ((archive m).render, dump m) := by
  unfold depositsOf Backup.deposit
  simp only [List.mem_flatMap, List.mem_pair]

theorem belongs_of_mem_deposit (h : (archive m).vmid = m.vmid) {name : String}
    (hmem : name ∈ (Backup.deposit (archive m) (dump m) (body m)).map (·.1)) :
    ArchiveName.Belongs name m.vmid := by
  rw [← h]
  rcases List.mem_pair.mp hmem with rfl | rfl
  · exact ArchiveName.belongs_sidecar _
  · exact ArchiveName.belongs_render _

theorem names_nodup (hvmids : (machines.map (·.vmid)).Nodup)
    (h : ∀ m ∈ machines, (archive m).vmid = m.vmid) :
    ((depositsOf machines archive dump body).map (·.1)).Nodup := by
  unfold depositsOf
  rw [List.map_flatMap, List.nodup_flatMap]
  refine ⟨fun m _ => ?_, (List.pairwise_map.mp hvmids).imp_of_mem fun hm hm' hne => ?_⟩
  · refine List.nodup_cons.mpr ⟨fun hmem => ?_, List.nodup_singleton _⟩
    exact ArchiveName.render_ne_sidecar _ _ (List.mem_singleton.mp hmem).symm
  · intro name hmem hmem'
    have hbelongs := belongs_of_mem_deposit (h _ hm) hmem
    have hbelongs' := belongs_of_mem_deposit (h _ hm') hmem'
    exact hne (hbelongs.vmid_eq hbelongs')

theorem storable_of_mem (h : ∀ m ∈ machines, Deposited m (dump m).length (archive m) (body m))
    {file : String × Bytes} (hmem : file ∈ depositsOf machines archive dump body) :
    DirectoryStore.Storable file.1 ∧
      ∀ other, file.1 ≠ DirectoryStore.temporaryPrefix ++ other := by
  obtain ⟨m, hm, rfl | rfl⟩ := mem_depositsOf.mp hmem
  · exact ⟨(h m hm).proper.storable_sidecar, (ArchiveName.belongs_sidecar _).ne_temporary⟩
  · exact ⟨(h m hm).proper.storable, (ArchiveName.belongs_render _).ne_temporary⟩

namespace Deposits

theorem mem_iff (h : Deposits machines archive dump body records) {record : Record Script} :
    record ∈ records ↔ ∃ m ∈ machines,
      record = recordOf (Sidecar.name (archive m).render, body m) ∨
        record = recordOf ((archive m).render, dump m) := by
  rw [h.perm.mem_iff, List.mem_map]
  constructor
  · rintro ⟨file, hfile, rfl⟩
    obtain ⟨m, hm, hfile⟩ := mem_depositsOf.mp hfile
    exact ⟨m, hm, hfile.imp (congrArg recordOf) (congrArg recordOf)⟩
  · rintro ⟨m, hm, rfl | rfl⟩
    · exact ⟨_, mem_depositsOf.mpr ⟨m, hm, Or.inl rfl⟩, rfl⟩
    · exact ⟨_, mem_depositsOf.mpr ⟨m, hm, Or.inr rfl⟩, rfl⟩

theorem names_perm (h : Deposits machines archive dump body records) :
    (records.map Record.name).Perm ((depositsOf machines archive dump body).map (·.1)) := by
  refine (h.perm.map _).trans (List.Perm.of_eq ?_)
  rw [List.map_map]
  exact List.map_congr_left fun file hfile => (storable_of_mem h.deposited hfile).1.basename_eq

theorem nodup (h : Deposits machines archive dump body records) :
    (records.map Record.name).Nodup :=
  h.names_perm.nodup_iff.mpr (names_nodup h.vmids fun m hm => (h.deposited m hm).vmid_eq)

theorem name_payload (h : Deposits machines archive dump body records) (hm : m ∈ machines) :
    (recordOf ((archive m).render, dump m)).name = (archive m).render :=
  (h.deposited m hm).proper.storable.basename_eq

theorem name_sidecar (h : Deposits machines archive dump body records) (hm : m ∈ machines) :
    (recordOf (Sidecar.name (archive m).render, body m)).name = Sidecar.name (archive m).render :=
  (h.deposited m hm).proper.storable_sidecar.basename_eq

/-- The resolutions of the two records of a machine. -/
def resolutions (settings : RestoreSettings) (archive : Machine → ArchiveName)
    (staged : Machine → String) (m : Machine) : List Resolution :=
  [⟨"/" ++ Sidecar.name (archive m).render, fate settings staged m⟩,
    ⟨"/" ++ (archive m).render, fate settings staged m⟩]

end Deposits

end GuestVault.Restore

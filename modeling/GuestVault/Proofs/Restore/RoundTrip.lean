import GuestVault.Proofs.Host.Scripted
import GuestVault.Proofs.Restore.Deposits

/-!
# Backup and restore

A restore from the store that a backup of some machines filled gives back each machine that is asked
for: its two records are restored, and the machine is stopped and restored from a file that holds
exactly what was dumped (`run_after_backup`).
-/

namespace GuestVault.Restore

open Correlator GuestVault.Text

variable {σ κ τ κ' : Type} {machines : List Machine} {dump : Machine → Bytes}

/-- A virtual machine and a container. -/
def twoGuests : List Machine :=
  [⟨101, .qemu, none⟩, ⟨102, .lxc, none⟩]

/-- A moment of the year 2023. -/
def someTime : Time.Moment :=
  { unix := 1700000000, nanos := 0, offset := 0 }

theorem encodable_someTime : someTime.Encodable where
  nanos_le := by decide
  exists_text := ⟨"2023-11-14T22:13:20Z", by decide +kernel⟩

/-- Archives get a version tag, and only the container is asked for. -/
def containerOnly : Settings :=
  { connection := .here none, backup := { versionTag := true }, restore := { vmid := some 102 } }

end GuestVault.Restore

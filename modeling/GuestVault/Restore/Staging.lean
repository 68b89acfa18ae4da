import GuestVault.Archive.Metadata
import GuestVault.Archive.Staging
import GuestVault.Guest
import GuestVault.Restore.Outcome
import GuestVault.Text.Path

/-!
# Staging and restoring

One archive is restored in fixed order: it is staged on the host, the staged file is checked, the
guest is stopped, and restored. The first step that fails ends this, and the staged file is removed
in any case if that is asked for.
-/

namespace GuestVault

open GuestVault.Text

namespace Staging

variable {σ κ ρ : Type} [ByteSource ρ] (host : Host σ κ) (guest : Guest σ)
  (settings : RestoreSettings)

/-- Writes an archive to a file of the host, and checks that all of it arrived. -/
def stage (reader : ρ) (path : String) : Action σ Error Unit := do
  let sink ← host.create path
  let (written, sink) ← (host.copy reader sink).mapError (.io ("stage " ++ path))
  host.finish sink
  let stat ← host.stat path
  if stat.size ≠ written then
    throw (.validation ("staged file " ++ path ++ " has " ++ toString stat.size ++
      " bytes, expected " ++ toString written))

/-- Stages an archive and replaces the guest by it. -/
def replace (reader : ρ) (kind : Kind) (vmid : Nat) (path : String) : Action σ Error Unit := do
  stage host reader path
  guest.stop kind vmid
  guest.restore kind vmid path

/-- Removes a staged file if that is asked for; gives the error if it cannot be removed. -/
def cleanup (path : String) : StateM σ (Option Error) := do
  if settings.cleanup then
    match ← (host.remove path).run with
    | .ok () => return none
    | .error e =>
      host.note .warn ("[restore] cleanup of " ++ path ++ " failed: " ++ e.message)
      return some e
  else return none

/-- Restores the guest that the metadata of an archive names. -/
def restore (archive : String) (reader : ρ) (metadata : Metadata) : Action σ Error Outcome := do
  let (kind, vmid) ← Action.ofExcept (metadata.validate archive)
  let guestName := kind.name ++ " " ++ toString vmid
  let path := joinPath settings.stagingDir (stagingName archive kind vmid (← host.now))
  host.note .info ("[restore] " ++ archive ++ " -> " ++ path ++ " (" ++ guestName ++ ")")
  let result ← (replace host guest reader kind vmid path).attempt
  let left ← cleanup host settings path
  Action.ofExcept result
  host.note .info ("[restore] " ++ guestName ++ " restored from " ++ archive)
  return .restored kind vmid path left

end Staging

end GuestVault

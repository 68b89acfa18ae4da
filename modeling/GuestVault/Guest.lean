import GuestVault.Archive.Kind
import GuestVault.Host
import GuestVault.Text.Lower

/-!
# Stopping and restoring guests

A guest is stopped and restored by the hypervisor's own tools. A guest that turns out to be down
already, or not to exist, counts as stopped; which complaints mean that is decided by a list of
phrases.
-/

namespace GuestVault

/-- What can be done to guests. -/
structure Guest (σ : Type) where
  stop : Kind → (vmid : Nat) → Action σ Error Unit
  /-- Replaces a guest by the one in an archive. -/
  restore : Kind → (vmid : Nat) → (archive : String) → Action σ Error Unit

namespace Guest

/-- The programs that stop and restore guests. -/
def programs : List String :=
  ["qm", "qmrestore", "pct"]

/-- The phrases by which a tool says that there is nothing to stop. -/
def alreadyStoppedPhrases : List String :=
  ["not running", "already stopped", "does not exist", "no such vm", "no such container",
    "configuration file"]

/-- A complaint means that there is nothing to stop. Case does not matter. -/
def isAlreadyStopped (diagnostic : String) : Bool :=
  alreadyStoppedPhrases.any fun phrase =>
    Text.occursIn phrase.toList (Text.lower diagnostic.toList)

/-- The command that stops a guest. -/
def stopCommand (kind : Kind) (vmid : Nat) : Command :=
  let tool := match kind with
    | .qemu => "qm"
    | .lxc => "pct"
  { program := tool, args := ["stop", toString vmid] }

/-- The command that restores a guest, whether or not it exists. -/
def restoreCommand (kind : Kind) (vmid : Nat) (archive : String) : Command :=
  match kind with
  | .qemu => { program := "qmrestore", args := [archive, toString vmid, "--force"] }
  | .lxc => { program := "pct", args := ["restore", toString vmid, archive, "--force"] }

/-- The failure of a stop command that is none. -/
def isBenign : Error → Bool
  | .command _ _ diagnostic => isAlreadyStopped diagnostic
  | _ => false

/-- The guests of a host. -/
def ofHost {σ κ : Type} (host : Host σ κ) : Guest σ where
  stop kind vmid := do
    let command := stopCommand kind vmid
    match ← (host.run command).attempt with
    | .ok _ => pure ()
    | .error e =>
      if isBenign e then
        host.note .debug
          (command.program ++ " stop " ++ toString vmid ++ ": ignored: " ++ e.message)
      else throw e
  restore kind vmid archive := do
    let _ ← host.run (restoreCommand kind vmid archive)
    pure ()

end Guest

end GuestVault
